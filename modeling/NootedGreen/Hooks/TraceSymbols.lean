/-
# `Hooks.TraceSymbols` — the symbols of the RCS trace

With the trace on, the accelerator branch of `processKext` resolves a table of symbols
and logs each with `FOUND` or `MISSING`.  The last five entries are for members of `Gen11`
that the trace uses later:

    struct TraceSolveEntry { const char *symbol; mach_vm_address_t addr; bool required; };
    {"__ZNK20IGSharedMappedBuffer17getVirtualAddressEv", this->oIGShared…, false}

An entry holds the member's value, not the member.  `solve` gets the entry's field for its
slot and stores the address there, the log shows it, and the table is gone after the loop.
No member is written (`solveTraceSymbols_member`), so the members are what the log says
exactly if they were before (`trace_symbols_usable_iff`); and they start at 0 and are set
nowhere else.

**What is left out.**  The rest of the branch, which does not name the five members.  Its
routes are in `Hooks.Routes`.
-/
import NootedGreen.Hooks.Routes
import NootedGreen.Hooks.SymbolSolving

namespace NootedGreen

/-! ## Members and entries -/

/-- The members of `Gen11` in the table. -/
inductive TraceMember where
  | oIGSharedMappedBuffergetVirtualAddress
  | oIGMappedBuffergetGPUVirtualAddress
  | kIGHwCsDescSymbol
  | vtableIGMappedBuffer
  | vtableIGSharedMappedBuffer
  deriving DecidableEq, Repr

namespace TraceMember

def all : List TraceMember :=
  [oIGSharedMappedBuffergetVirtualAddress, oIGMappedBuffergetGPUVirtualAddress,
    kIGHwCsDescSymbol, vtableIGMappedBuffer, vtableIGSharedMappedBuffer]

/-- Those that are called. -/
def callees : List TraceMember :=
  [oIGSharedMappedBuffergetVirtualAddress, oIGMappedBuffergetGPUVirtualAddress]

def symbol : TraceMember → String
  | oIGSharedMappedBuffergetVirtualAddress => "__ZNK20IGSharedMappedBuffer17getVirtualAddressEv"
  | oIGMappedBuffergetGPUVirtualAddress => "__ZNK14IGMappedBuffer20getGPUVirtualAddressEv"
  | kIGHwCsDescSymbol => "__ZL11kIGHwCsDesc"
  | vtableIGMappedBuffer => "__ZTV14IGMappedBuffer"
  | vtableIGSharedMappedBuffer => "__ZTV20IGSharedMappedBuffer"

end TraceMember

structure TraceSolveEntry where
  symbol : String
  addr : BitVec 64
  required : Bool
  deriving DecidableEq, Repr

/-- The symbols that are only looked for, and whether they are required. -/
def loggedSymbols : List (String × Bool) :=
  [("__ZN20IGHardwareRingBuffer19resetGraphicsEngineEP17IGHardwareContext", true),
    ("__ZN12IGScheduler519initWithAcceleratorEP22IOGraphicsAccelerator2", true),
    ("__ZN12IGScheduler56resumeEv", true),
    ("__ZN12IGScheduler54pushEP17IGHardwareContextjjbb", true),
    ("__ZN12IGScheduler56notifyE10IGHwCsType", true),
    ("__ZN12IGScheduler516checkForProgressE10IGHwCsType", true),
    ("__ZN12IGScheduler520enableStampInterruptEi", true),
    ("__ZN12IGScheduler529enableContextSwitchInterruptsEv", true),
    ("__ZN17IGHardwareContext25initRingGPUVirtualAddressEv", false),
    ("__ZN17IGHardwareContext17initRingRegistersEv", false),
    ("__ZN17IGHardwareContext15initRingControlEb", false),
    ("__ZN17IGHardwareContext13resetRingHeadEv", false),
    ("__ZN17IGHardwareContext14updateRingTailEj", false),
    ("__ZN20IGHardwareRingBuffer4initEP17IGHardwareContext", false),
    ("__ZN20IGHardwareRingBuffer12submitToRingEv", false),
    ("__ZN26IGHardwareCommandStreamer514submitExecListEj", false),
    ("__ZN26IGHardwareCommandStreamer516resumeSchedulingEv", false),
    ("__ZN26IGHardwareCommandStreamer524prepareExecListAndSubmitEjjPKj", false),
    ("__ZN26IGHardwareCommandStreamer526processContextStatusBufferEj", false),
    ("__ZN32IGHardwareRenderCommandStreamer54initEP22IOGraphicsAccelerator2P10IOWorkLoop" ++
      "P12IGScheduler5", false)]

/-- The table, with the members' values in it. -/
def traceSymbols (members : TraceMember → BitVec 64) : List TraceSolveEntry :=
  (loggedSymbols.map fun (symbol, required) => ⟨symbol, 0, required⟩) ++
    TraceMember.all.map fun member => ⟨member.symbol, members member, false⟩

/-! ## The loop -/

/-- What a pointer of the branch can point to. -/
inductive TraceSlot where
  | member (m : TraceMember)
  /-- `traceSymbols[i].addr` -/
  | entry (i : Nat)
  deriving DecidableEq, Repr

/-- A line of the log. -/
structure TraceLine where
  symbol : String
  found : Bool
  addr : BitVec 64
  required : Bool
  deriving DecidableEq, Repr

/-- `SolveRequestPlus request {entry.symbol, entry.addr}`, for entry `i`. -/
def TraceSolveEntry.request (entry : TraceSolveEntry) (i : Nat) : SolveRequestPlus TraceSlot :=
  ⟨entry.symbol, some (.entry i), none, none⟩

section Trace

variable (lilu : KernelSymbols) (id : Nat) (address : BitVec 64) (image : Image)

/-- The loop from entry `i` on. -/
def traceLoop : Nat → List TraceSolveEntry → SolveState TraceSlot →
    List TraceLine × SolveState TraceSlot
  | _, [], s => ([], s)
  | i, entry :: entries, s =>
      let (found, s) := (entry.request i).solve lilu id address image s
      let line : TraceLine := ⟨entry.symbol, found, s.slots (.entry i), entry.required⟩
      let (lines, s) := traceLoop (i + 1) entries s
      (line :: lines, s)

/-- The table on the stack, each `addr` as it was initialised. -/
def SolveState.withEntries (entries : List TraceSolveEntry) (s : SolveState TraceSlot) :
    SolveState TraceSlot :=
  { s with
    slots := fun
      | .member m => s.slots (.member m)
      | .entry i => (entries[i]?.map TraceSolveEntry.addr).getD 0 }

/-- The block of the branch. -/
def solveTraceSymbols (boot : RouteBootArgs) (s : SolveState TraceSlot) :
    List TraceLine × SolveState TraceSlot :=
  if isRcsEngineTraceEnabled boot then
    let entries := traceSymbols fun m => s.slots (.member m)
    traceLoop lilu id address image 0 entries (s.withEntries entries)
  else ([], s)

end Trace

/-! ## The members in use -/

/-- What `tGet…` returns, and the address it calls if it calls one. -/
structure TraceCall where
  result : BitVec 64
  called : Option (BitVec 64)
  deriving DecidableEq, Repr

/-- Through a member to the code of the kext; `callback` is `none` for a null pointer, and
so is a null member. -/
def tGetThrough (member : TraceMember) (code : BitVec 64 → BitVec 64 → BitVec 64)
    (callback : Option (TraceMember → BitVec 64)) (buffer : BitVec 64) : TraceCall :=
  match callback with
  | some members =>
      if buffer = 0 ∨ members member = 0 then ⟨0, none⟩
      else ⟨code (members member) buffer, some (members member)⟩
  | none => ⟨0, none⟩

def tGetSharedMappedBufferVirtualAddress := tGetThrough .oIGSharedMappedBuffergetVirtualAddress

def tGetMappedBufferGPUVirtualAddress := tGetThrough .oIGMappedBuffergetGPUVirtualAddress

/-- A symbol stands in the log as found. -/
def reportedFound (log : List TraceLine) (symbol : String) : Bool :=
  log.any fun line => line.symbol == symbol && line.found

/-! ## What the loop stores -/

section Trace

variable (lilu : KernelSymbols) (id : Nat) (address : BitVec 64) (image : Image)

/-- A request of the loop has no pattern. -/
theorem TraceSolveEntry.resolved_request (entry : TraceSolveEntry) (i : Nat) :
    (entry.request i).resolved lilu id address image =
      if lilu.solveSymbol id entry.symbol ≠ 0 then some (lilu.solveSymbol id entry.symbol)
      else none := rfl

theorem TraceSolveEntry.solve_request (entry : TraceSolveEntry) (i : Nat)
    (s : SolveState TraceSlot) :
    ((entry.request i).solve lilu id address image s).1 =
        decide (lilu.solveSymbol id entry.symbol ≠ 0) ∧
      ((entry.request i).solve lilu id address image s).2.slots =
        Function.update s.slots (.entry i) (lilu.solveSymbol id entry.symbol) := by
  obtain ⟨hresult, hslots⟩ := (entry.request i).solve_eq lilu id address image rfl s
  rw [hresult, hslots, entry.resolved_request]
  split
  · next hsymbol => exact ⟨(decide_eq_true hsymbol).symm, rfl⟩
  · next hsymbol =>
      rw [Decidable.not_not.mp hsymbol]
      exact ⟨rfl, rfl⟩

/-- Each symbol is logged with the address it resolves to. -/
theorem traceLoop_log (i : Nat) (entries : List TraceSolveEntry) (s : SolveState TraceSlot) :
    (traceLoop lilu id address image i entries s).1 = entries.map fun entry =>
      ⟨entry.symbol, decide (lilu.solveSymbol id entry.symbol ≠ 0),
        lilu.solveSymbol id entry.symbol, entry.required⟩ := by
  induction entries generalizing i s with
  | nil => rfl
  | cons entry entries ih =>
      obtain ⟨hfound, hslots⟩ := entry.solve_request lilu id address image i s
      rw [traceLoop, List.map_cons]
      simp only [hfound, hslots, ih, Function.update_self]

/-- No member is a slot of the loop. -/
theorem traceLoop_member (m : TraceMember) (i : Nat) (entries : List TraceSolveEntry)
    (s : SolveState TraceSlot) :
    (traceLoop lilu id address image i entries s).2.slots (.member m) = s.slots (.member m) := by
  induction entries generalizing i s with
  | nil => rfl
  | cons entry entries ih =>
      have hslots := (entry.solve_request lilu id address image i s).2
      rw [traceLoop]
      simp only [ih, hslots]
      exact Function.update_of_ne (fun h => by cases h) _ _

theorem solveTraceSymbols_member (boot : RouteBootArgs) (s : SolveState TraceSlot)
    (m : TraceMember) :
    (solveTraceSymbols lilu id address image boot s).2.slots (.member m) =
      s.slots (.member m) := by
  rw [solveTraceSymbols]
  split
  · exact traceLoop_member lilu id address image m 0 _ _
  · rfl

theorem TraceMember.mem_all (m : TraceMember) : m ∈ TraceMember.all := by
  cases m <;> decide

/-- A member's symbol is reported found exactly if it resolves. -/
theorem reportedFound_symbol {boot : RouteBootArgs} (hon : isRcsEngineTraceEnabled boot = true)
    (s : SolveState TraceSlot) (m : TraceMember) :
    reportedFound (solveTraceSymbols lilu id address image boot s).1 m.symbol =
      decide (lilu.solveSymbol id m.symbol ≠ 0) := by
  rw [solveTraceSymbols, if_pos hon, traceLoop_log, reportedFound, List.any_map, Bool.eq_iff_iff,
    List.any_eq_true]
  simp only [Function.comp_apply, Bool.and_eq_true, beq_iff_eq]
  constructor
  · rintro ⟨entry, -, hsymbol, hfound⟩
    rwa [hsymbol] at hfound
  · intro hfound
    have hentry : (⟨m.symbol, s.slots (.member m), false⟩ : TraceSolveEntry) ∈
        traceSymbols fun m => s.slots (.member m) :=
      List.mem_append_right _ (List.mem_map.mpr ⟨m, m.mem_all, rfl⟩)
    exact ⟨_, hentry, rfl, hfound⟩

/-! ## Found and usable -/

/-- The members hold what their symbols resolve to, and the two functions call the kext's
exactly when the log says it was found. -/
structure TraceSymbolsUsable (code : BitVec 64 → BitVec 64 → BitVec 64)
    (before : TraceMember → BitVec 64) (log : List TraceLine) (after : TraceMember → BitVec 64) :
    Prop where
  members : ∀ m : TraceMember, after m =
    if lilu.solveSymbol id m.symbol ≠ 0 then lilu.solveSymbol id m.symbol else before m
  shared : ∀ buffer, buffer ≠ 0 →
    (tGetSharedMappedBufferVirtualAddress code (some after) buffer).called =
      if reportedFound log (TraceMember.symbol .oIGSharedMappedBuffergetVirtualAddress) then
        some (lilu.solveSymbol id (TraceMember.symbol .oIGSharedMappedBuffergetVirtualAddress))
      else none
  mapped : ∀ buffer, buffer ≠ 0 →
    (tGetMappedBufferGPUVirtualAddress code (some after) buffer).called =
      if reportedFound log (TraceMember.symbol .oIGMappedBuffergetGPUVirtualAddress) then
        some (lilu.solveSymbol id (TraceMember.symbol .oIGMappedBuffergetGPUVirtualAddress))
      else none

theorem nonzero_inj {a b : BitVec 64}
    (h : (if a ≠ 0 then some a else none) = if b ≠ 0 then some b else none) : a = b := by
  split at h
  · split at h
    · exact Option.some.inj h
    · cases h
  · next ha =>
      split at h
      · cases h
      · next hb => exact (Decidable.not_not.mp ha).trans (Decidable.not_not.mp hb).symm

/-- The call is the right one exactly if the member is the symbol's address, 0 included. -/
theorem tGetThrough_called_iff (m : TraceMember) (code : BitVec 64 → BitVec 64 → BitVec 64)
    (members : TraceMember → BitVec 64) (target : BitVec 64) :
    (∀ buffer, buffer ≠ 0 → (tGetThrough m code (some members) buffer).called =
        if target ≠ 0 then some target else none) ↔ members m = target := by
  have hcalled : ∀ buffer, buffer ≠ 0 → (tGetThrough m code (some members) buffer).called =
      if members m ≠ 0 then some (members m) else none := by
    intro buffer hbuffer
    rw [tGetThrough]
    by_cases hm : members m = 0
    · rw [if_pos (.inr hm), if_neg (not_not.mpr hm)]
    · rw [if_neg (not_or.mpr ⟨hbuffer, hm⟩), if_pos hm]
  constructor
  · intro h
    exact nonzero_inj ((hcalled 1 (by decide)).symm.trans (h 1 (by decide)))
  · rintro rfl
    exact hcalled

/-- Exactly if the members were so before: they are not written. -/
theorem trace_symbols_usable_iff {boot : RouteBootArgs}
    (hon : isRcsEngineTraceEnabled boot = true) (code : BitVec 64 → BitVec 64 → BitVec 64)
    (s : SolveState TraceSlot) :
    TraceSymbolsUsable lilu id code (fun m => s.slots (.member m))
        (solveTraceSymbols lilu id address image boot s).1
        (fun m => (solveTraceSymbols lilu id address image boot s).2.slots (.member m)) ↔
      (∀ m : TraceMember, lilu.solveSymbol id m.symbol ≠ 0 →
        s.slots (.member m) = lilu.solveSymbol id m.symbol) ∧
      ∀ m ∈ TraceMember.callees,
        lilu.solveSymbol id m.symbol = 0 → s.slots (.member m) = 0 := by
  have hafter : (fun m => (solveTraceSymbols lilu id address image boot s).2.slots (.member m)) =
      fun m => s.slots (.member m) :=
    funext (solveTraceSymbols_member lilu id address image boot s)
  -- found is resolved, so a call is right exactly if the member is
  have hcall : ∀ m, (∀ buffer, buffer ≠ 0 →
      (tGetThrough m code (some fun m => s.slots (.member m)) buffer).called =
        if reportedFound (solveTraceSymbols lilu id address image boot s).1 m.symbol then
          some (lilu.solveSymbol id m.symbol) else none) ↔
      s.slots (.member m) = lilu.solveSymbol id m.symbol := by
    intro m
    simp only [reportedFound_symbol lilu id address image hon s m, decide_eq_true_eq]
    exact tGetThrough_called_iff m code _ _
  rw [hafter]
  constructor
  · intro h
    refine ⟨fun m hm => (h.members m).trans (if_pos hm), fun m hm hzero => ?_⟩
    rw [← hzero]
    simp only [TraceMember.callees, List.mem_cons, List.not_mem_nil, or_false] at hm
    rcases hm with rfl | rfl
    · exact (hcall _).mp h.shared
    · exact (hcall _).mp h.mapped
  · rintro ⟨hresolved, hmissing⟩
    have hsame : ∀ m ∈ TraceMember.callees,
        s.slots (.member m) = lilu.solveSymbol id m.symbol := by
      intro m hm
      by_cases hzero : lilu.solveSymbol id m.symbol = 0
      · rw [hzero, hmissing m hm hzero]
      · exact hresolved m hzero
    refine ⟨fun m => ?_, (hcall _).mpr (hsame _ ?_), (hcall _).mpr (hsame _ ?_)⟩
    · split
      · next hm => exact hresolved m hm
      · rfl
    · exact List.mem_cons_self
    · exact List.mem_cons_of_mem _ List.mem_cons_self

end Trace

/-! ## A kext whose symbols are there -/

/-- `ngreenRcsEngineTrace=1`. -/
def traceOn : RouteBootArgs :=
  ⟨⟨none, false⟩, ⟨some 1, false⟩, ⟨none, false⟩, ⟨none, false⟩, ⟨none, false⟩⟩

/-- The members as they are initialised. -/
def freshMembers : SolveState TraceSlot := ⟨.noError, fun _ => 0⟩

/-- A kext without any of the symbols. -/
theorem missing_symbols_consistent :
    TraceSymbolsUsable (kextSymbols []) 0 (fun _ buffer => buffer)
      (fun m => freshMembers.slots (.member m))
      (solveTraceSymbols (kextSymbols []) 0 0x1000 [] traceOn freshMembers).1
      (fun m => (solveTraceSymbols (kextSymbols []) 0 0x1000 [] traceOn
        freshMembers).2.slots (.member m)) :=
  (trace_symbols_usable_iff _ _ _ _ rfl _ _).mpr
    ⟨fun _ h => absurd rfl h, fun _ _ _ => rfl⟩

/-- `IGSharedMappedBuffer::getVirtualAddress` at an address. -/
def sharedKext : KernelSymbols :=
  kextSymbols [("__ZNK20IGSharedMappedBuffer17getVirtualAddressEv", 0xFFFFFF7F90001000)]

/-- It is reported as found and never called. -/
theorem found_symbol_not_called :
    let (log, after) := solveTraceSymbols sharedKext 0 0xFFFFFF7F90000000 [] traceOn freshMembers
    reportedFound log "__ZNK20IGSharedMappedBuffer17getVirtualAddressEv" = true ∧
      after.slots (.member .oIGSharedMappedBuffergetVirtualAddress) = 0 ∧
      tGetSharedMappedBufferVirtualAddress (fun _ buffer => buffer)
        (some fun m => after.slots (.member m)) 0xFFFFFF8010000000 = ⟨0, none⟩ := by
  decide

end NootedGreen

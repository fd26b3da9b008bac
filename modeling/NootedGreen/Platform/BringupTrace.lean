/-
# `Platform.BringupTrace` — the flags of the bring-up trace

`TglGpuBringup.cpp` keeps a record of how far the GPU has come.  Three hooks set flags
of it, each knowing what has just happened:

    hook                 sets                                       then dumps
    getGPUInfo           topologyOk = what it returns               "getGPUInfo POST …"
    loadGuCBinary        gucRequested = whether Apple's loader      "loadGuCBinary POST …"
                         may run
    checkWOPCMSettings   gucWopcmProgrammed = true, after the       "checkWOPCMSettings PRE"
                         original                                   and "… POST"

But a dump first brings the record up to date, and that sets the very same flags to
`true` whenever the name of the stage contains the name of the hook.  So the flags are
`true` after the hook whatever it found, and the last one is `true` already in the dump
made before the original runs: `trace_reports_iff` says which sequences of calls the
trace reports as they were.

**What is left out.**  The other dumps of registers, and those of the RCS trace, which
only print; stages without a name.  What the registers read, whether they are mapped and
whether `-allow3d` is given is a parameter of every dump (`TraceView`).
-/
import NootedGreen.Lib.CString
import NootedGreen.Lib.Runs
import NootedGreen.Platform.Detection

namespace NootedGreen

/-! ## The record -/

structure TglGpuBringupState where
  isTgl9A49 : Bool
  allow3d : Bool
  schedulerType : Int
  mmioReady : Bool
  forceWakeOk : Bool
  gtPowered : Bool
  topologyOk : Bool
  gucRequested : Bool
  gucWopcmProgrammed : Bool
  gucFirmwareLoaded : Bool
  gucBooted : Bool
  gucInterruptsEnabled : Bool
  gucSubmissionReady : Bool
  rcsResetSeen : Bool
  rcsRingStarted : Bool
  rcsContextReady : Bool
  rcsInterruptsEnabled : Bool
  rcsFirstSubmitSeen : Bool
  rcsFirstCompletionSeen : Bool
  lastGucStatus : BitVec 32
  lastRcsCtl : BitVec 32
  lastRcsHead : BitVec 32
  lastRcsTail : BitVec 32
  lastErrorGen6 : BitVec 32
  deriving DecidableEq, Repr

def TglGpuBringupState.initial : TglGpuBringupState :=
  ⟨false, false, 0, false, false, false, false, false, false, false, false, false, false, false,
    false, false, false, false, false, 0, 0, 0, 0, 0⟩

/-- What a dump finds. -/
structure TraceView where
  allow3d : Bool
  tmmioReady : Bool
  traceRead32 : BitVec 32 → BitVec 32

def TraceView.anyRcsCsbEntrySet (seen : TraceView) : Bool :=
  (List.range 6).any fun i =>
    -- `RING_CONTEXT_STATUS_BUF` and its upper half
    seen.traceRead32 (0x2370 + BitVec.ofNat 32 (i * 8)) != 0 ||
      seen.traceRead32 (0x2374 + BitVec.ofNat 32 (i * 8)) != 0

/-- The four stages that are known by name. -/
def TglGpuBringupState.markStage (state : TglGpuBringupState) (stage : String) :
    TglGpuBringupState :=
  { state with
    topologyOk := strstr stage "getGPUInfo" || state.topologyOk
    rcsResetSeen := strstr stage "resetGraphicsEngine" || state.rcsResetSeen
    gucRequested := strstr stage "loadGuCBinary" || state.gucRequested
    gucWopcmProgrammed := strstr stage "checkWOPCMSettings" || state.gucWopcmProgrammed }

/-- What the registers tell. -/
def TglGpuBringupState.readBack (state : TglGpuBringupState) (seen : TraceView) :
    TglGpuBringupState :=
  let fwAckRender := seen.traceRead32 0x0D84
  let gucStatus := seen.traceRead32 0xC000
  let gucIntrEnable := seen.traceRead32 0x190038
  let gucIntrMask := seen.traceRead32 0x1900e8
  let rcsCtl := seen.traceRead32 0x203c
  let rcsHead := seen.traceRead32 0x2034
  let rcsTail := seen.traceRead32 0x2030
  let rcsStart := seen.traceRead32 0x2038
  let rcsHws := seen.traceRead32 0x2080
  let rcsContextStatusPtr := seen.traceRead32 0x23a0
  let rcsIntrEnable := seen.traceRead32 0x190030
  let rcsIntrMask := seen.traceRead32 0x190090
  let acthd := seen.traceRead32 0x2074
  let ipehr := seen.traceRead32 0x2068
  let gtIntrDw0 := seen.traceRead32 0x190018
  let forceWakeOk := fwAckRender &&& 1 != 0
  let gucBooted := gucStatus != 0
  let gucInterruptsEnabled := gucIntrEnable != 0 && gucIntrMask != 0xFFFFFFFF
  -- `GT_CONTEXT_SWITCH_INTERRUPT | GT_RENDER_USER_INTERRUPT`
  let both := (1#32 <<< 8) ||| (1#32 <<< 0)
  { state with
    forceWakeOk := forceWakeOk
    gtPowered := forceWakeOk || rcsCtl != 0 || rcsStart != 0 || gucStatus != 0
    gucBooted := gucBooted
    gucInterruptsEnabled := gucInterruptsEnabled
    gucSubmissionReady := gucBooted && gucInterruptsEnabled
    rcsRingStarted := rcsStart != 0 || rcsCtl != 0
    rcsContextReady := rcsHws != 0 || rcsContextStatusPtr != 0
    rcsInterruptsEnabled := rcsIntrEnable &&& (1#32 <<< 0) != 0 && rcsIntrMask &&& both != both
    rcsFirstSubmitSeen := rcsHead != 0 || rcsTail != 0 || acthd != 0 || ipehr != 0
    rcsFirstCompletionSeen := seen.anyRcsCsbEntrySet || gtIntrDw0 &&& (1#32 <<< 0) != 0
    lastGucStatus := gucStatus
    lastRcsCtl := rcsCtl
    lastRcsHead := rcsHead
    lastRcsTail := rcsTail
    lastErrorGen6 := seen.traceRead32 0x40A0 }

/-- `updateTglGpuBringupStateFromRegisters`, with tracing on. -/
def TglGpuBringupState.update (state : TglGpuBringupState) (stage : String) (seen : TraceView) :
    TglGpuBringupState :=
  let state := { state with allow3d := seen.allow3d, mmioReady := seen.tmmioReady }
  let state := state.markStage stage
  if state.mmioReady then state.readBack seen else state

/-- The record, and what was dumped so far, each dump with its stage. -/
structure BringupTrace where
  bringup : TglGpuBringupState
  dumped : List (String × TglGpuBringupState)
  deriving DecidableEq, Repr

section Traced

-- `isTglTraceEnabled`
variable (isTglTraceEnabled : BootFlag)

def BringupTrace.dumpTglGpuBringupState (t : BringupTrace) (stage : String) (seen : TraceView) :
    BringupTrace :=
  if isTglTraceEnabled.enabled then
    let state := t.bringup.update stage seen
    { bringup := state, dumped := t.dumped ++ [(stage, state)] }
  else t

/-- A hook's own assignment to the record. -/
def BringupTrace.assign (t : BringupTrace) (f : TglGpuBringupState → TglGpuBringupState) :
    BringupTrace :=
  if isTglTraceEnabled.enabled then { t with bringup := f t.bringup } else t

/-! ## The hooks -/

/-- `getGPUInfo` of `Platform.Detection`, with what it tells the trace. -/
def BringupTrace.getGPUInfo (t : BringupTrace) (flags : PlatformFlags) (boot : BootArgs)
    (ogetGPUInfo : ByteMem → Bool × ByteMem) (that : ByteMem) (post : TraceView) :
    (Bool × ByteMem) × BringupTrace :=
  let ret := (ogetGPUInfo that).1
  let t := t.assign isTglTraceEnabled fun bringup => { bringup with topologyOk := ret }
  let t :=
    if !flags.isRealTGL && boot.fullMTL.enabled && !ret then
      (t.assign isTglTraceEnabled fun bringup => { bringup with topologyOk := true })
        |>.dumpTglGpuBringupState isTglTraceEnabled "getGPUInfo POST forced-success" post
    else t.dumpTglGpuBringupState isTglTraceEnabled "getGPUInfo POST" post
  (NootedGreen.getGPUInfo flags boot ogetGPUInfo that, t)

/-- `loadGuCBinary` of `Platform.Detection`, with what it tells the trace. -/
def BringupTrace.loadGuCBinary (t : BringupTrace) (flags : PlatformFlags)
    (oloadGuCBinary : Option (BitVec 64)) (pre post : TraceView) :
    (BitVec 64 × Bool) × BringupTrace :=
  let result := NootedGreen.loadGuCBinary flags oloadGuCBinary
  let t := t.dumpTglGpuBringupState isTglTraceEnabled "loadGuCBinary PRE" pre
  let t :=
    if flags.isRealTGL || flags.tryGuC then
      (t.assign isTglTraceEnabled fun bringup =>
          { bringup with gucRequested := true, gucFirmwareLoaded := result.1 != 0 })
        |>.dumpTglGpuBringupState isTglTraceEnabled "loadGuCBinary POST" post
    else
      (t.assign isTglTraceEnabled fun bringup =>
          { bringup with gucRequested := false, gucFirmwareLoaded := false })
        |>.dumpTglGpuBringupState isTglTraceEnabled "loadGuCBinary POST stub" post
  (result, t)

/-- `IOVirtualRange`. -/
structure IOVirtualRange where
  address : BitVec 64
  length : BitVec 64
  deriving DecidableEq, Repr

/-- The range is a pointer, and may be null; so may the original. -/
def BringupTrace.checkWOPCMSettings (t : BringupTrace)
    (ocheckWOPCMSettings : Option (Option IOVirtualRange → Option IOVirtualRange))
    (wopcmRange : Option IOVirtualRange) (pre post : TraceView) :
    Option IOVirtualRange × BringupTrace :=
  let t := t.dumpTglGpuBringupState isTglTraceEnabled "checkWOPCMSettings PRE" pre
  let wopcmRange :=
    match ocheckWOPCMSettings with
    | some original => original wopcmRange
    | none => wopcmRange.map fun _ => { address := 1024 * 1024, length := 1024 * 1024 }
  let t := t.assign isTglTraceEnabled fun bringup => { bringup with gucWopcmProgrammed := true }
  (wopcmRange, t.dumpTglGpuBringupState isTglTraceEnabled "checkWOPCMSettings POST" post)

/-- A call of one of the hooks, with all that it meets. -/
inductive TracedCall where
  | getGPUInfo (flags : PlatformFlags) (boot : BootArgs)
      (ogetGPUInfo : ByteMem → Bool × ByteMem) (that : ByteMem) (post : TraceView)
  | loadGuCBinary (flags : PlatformFlags) (oloadGuCBinary : Option (BitVec 64))
      (pre post : TraceView)
  | checkWOPCMSettings
      (ocheckWOPCMSettings : Option (Option IOVirtualRange → Option IOVirtualRange))
      (wopcmRange : Option IOVirtualRange) (pre post : TraceView)

def TracedCall.exec : TracedCall → BringupTrace → BringupTrace
  | .getGPUInfo flags boot o that post, t =>
      (t.getGPUInfo isTglTraceEnabled flags boot o that post).2
  | .loadGuCBinary flags o pre post, t =>
      (t.loadGuCBinary isTglTraceEnabled flags o pre post).2
  | .checkWOPCMSettings o range pre post, t =>
      (t.checkWOPCMSettings isTglTraceEnabled o range pre post).2

/-! ## What a dump does to the three flags -/

/-- Besides what the name of the stage says, a dump keeps them. -/
theorem TglGpuBringupState.update_flags (state : TglGpuBringupState) (stage : String)
    (seen : TraceView) :
    (state.update stage seen).topologyOk = (strstr stage "getGPUInfo" || state.topologyOk) ∧
    (state.update stage seen).gucRequested =
      (strstr stage "loadGuCBinary" || state.gucRequested) ∧
    (state.update stage seen).gucWopcmProgrammed =
      (strstr stage "checkWOPCMSettings" || state.gucWopcmProgrammed) := by
  unfold TglGpuBringupState.update
  dsimp only
  split <;> exact ⟨rfl, rfl, rfl⟩

variable {isTglTraceEnabled}

theorem BringupTrace.dump_bringup (h : isTglTraceEnabled.enabled = true) (t : BringupTrace)
    (stage : String) (seen : TraceView) :
    (t.dumpTglGpuBringupState isTglTraceEnabled stage seen).bringup =
      t.bringup.update stage seen := by
  unfold BringupTrace.dumpTglGpuBringupState
  rw [if_pos h]

theorem BringupTrace.dump_dumped (h : isTglTraceEnabled.enabled = true) (t : BringupTrace)
    (stage : String) (seen : TraceView) :
    (t.dumpTglGpuBringupState isTglTraceEnabled stage seen).dumped =
      t.dumped ++ [(stage, t.bringup.update stage seen)] := by
  unfold BringupTrace.dumpTglGpuBringupState
  rw [if_pos h]

theorem BringupTrace.assign_dumped (t : BringupTrace)
    (f : TglGpuBringupState → TglGpuBringupState) :
    (t.assign isTglTraceEnabled f).dumped = t.dumped := by
  unfold BringupTrace.assign
  split <;> rfl

/-- A dump at a stage that names a hook has the hook's flag. -/
theorem BringupTrace.dump_topologyOk (h : isTglTraceEnabled.enabled = true) (t : BringupTrace)
    {stage : String} (hstage : strstr stage "getGPUInfo" = true) (seen : TraceView) :
    (t.dumpTglGpuBringupState isTglTraceEnabled stage seen).bringup.topologyOk = true := by
  rw [BringupTrace.dump_bringup h, (TglGpuBringupState.update_flags _ _ _).1, hstage,
    Bool.true_or]

theorem BringupTrace.dump_gucRequested (h : isTglTraceEnabled.enabled = true) (t : BringupTrace)
    {stage : String} (hstage : strstr stage "loadGuCBinary" = true) (seen : TraceView) :
    (t.dumpTglGpuBringupState isTglTraceEnabled stage seen).bringup.gucRequested = true := by
  rw [BringupTrace.dump_bringup h, (TglGpuBringupState.update_flags _ _ _).2.1, hstage,
    Bool.true_or]

/-- Both stages of `getGPUInfo` name it. -/
theorem getGPUInfo_topologyOk (h : isTglTraceEnabled.enabled = true) (t : BringupTrace)
    (flags : PlatformFlags) (boot : BootArgs) (o : ByteMem → Bool × ByteMem) (that : ByteMem)
    (post : TraceView) :
    (t.getGPUInfo isTglTraceEnabled flags boot o that post).2.bringup.topologyOk = true := by
  unfold BringupTrace.getGPUInfo
  dsimp only
  split
  · exact BringupTrace.dump_topologyOk h _ (strstr_append "getGPUInfo" " POST forced-success") post
  · exact BringupTrace.dump_topologyOk h _ (strstr_append "getGPUInfo" " POST") post

/-- So does the stage of the stub, after the flag was taken back. -/
theorem loadGuCBinary_gucRequested (h : isTglTraceEnabled.enabled = true) (t : BringupTrace)
    (flags : PlatformFlags) (o : Option (BitVec 64)) (pre post : TraceView) :
    (t.loadGuCBinary isTglTraceEnabled flags o pre post).2.bringup.gucRequested = true := by
  unfold BringupTrace.loadGuCBinary
  dsimp only
  split
  · exact BringupTrace.dump_gucRequested h _ (strstr_append "loadGuCBinary" " POST") post
  · exact BringupTrace.dump_gucRequested h _ (strstr_append "loadGuCBinary" " POST stub") post

/-- The dump made before the original says that it is done. -/
theorem checkWOPCMSettings_dumps_pre (h : isTglTraceEnabled.enabled = true) (t : BringupTrace)
    (o : Option (Option IOVirtualRange → Option IOVirtualRange)) (range : Option IOVirtualRange)
    (pre post : TraceView) :
    ∃ state, ("checkWOPCMSettings PRE", state) ∈
        (t.checkWOPCMSettings isTglTraceEnabled o range pre post).2.dumped.drop t.dumped.length ∧
      state.gucWopcmProgrammed = true := by
  refine ⟨t.bringup.update "checkWOPCMSettings PRE" pre, ?_, ?_⟩
  · unfold BringupTrace.checkWOPCMSettings
    dsimp only
    rw [BringupTrace.dump_dumped h, BringupTrace.assign_dumped, BringupTrace.dump_dumped h,
      List.append_assoc, List.drop_left]
    exact List.mem_cons_self
  · have hstage : strstr "checkWOPCMSettings PRE" "checkWOPCMSettings" = true :=
      strstr_append "checkWOPCMSettings" " PRE"
    rw [(TglGpuBringupState.update_flags _ _ _).2.2, hstage, Bool.true_or]

/-! ## Sequences of calls -/

/-- The call is one of `checkWOPCMSettings`. -/
def TracedCall.programsWopcm : TracedCall → Bool
  | .checkWOPCMSettings _ _ _ _ => true
  | .getGPUInfo _ _ _ _ _ | .loadGuCBinary _ _ _ _ => false

/-- The trace reports a call made at `t`, after the calls `before`. -/
def TracedCall.Reported (isTglTraceEnabled : BootFlag) (t : BringupTrace)
    (before : List TracedCall) : TracedCall → Prop
  | .getGPUInfo flags boot o that post =>
      (t.getGPUInfo isTglTraceEnabled flags boot o that post).2.bringup.topologyOk =
        (t.getGPUInfo isTglTraceEnabled flags boot o that post).1.1
  | .loadGuCBinary flags o pre post =>
      (t.loadGuCBinary isTglTraceEnabled flags o pre post).2.bringup.gucRequested = true ↔
        flags.isRealTGL = true ∨ flags.tryGuC = true
  | .checkWOPCMSettings o range pre post =>
      ∀ state, ("checkWOPCMSettings PRE", state) ∈
          (t.checkWOPCMSettings isTglTraceEnabled o range pre post).2.dumped.drop
            t.dumped.length →
        state.gucWopcmProgrammed = true → ∃ call ∈ before, call.programsWopcm = true

/-- Every call of a sequence is reported as it was. -/
def TraceReports (isTglTraceEnabled : BootFlag) (calls : List TracedCall) (t : BringupTrace) :
    Prop :=
  ∀ before call after, calls = before ++ call :: after →
    call.Reported isTglTraceEnabled
      (Runs.run (TracedCall.exec isTglTraceEnabled) before t) before

/-- Calls that find what the stage's name says: the topology is there, or taken to be
there; the loader may run.  `checkWOPCMSettings` is none of them. -/
def TracedCall.AsNamed : TracedCall → Prop
  | .getGPUInfo flags boot o that _ =>
      (o that).1 = true ∨ (flags.isRealTGL = false ∧ boot.fullMTL.enabled = true)
  | .loadGuCBinary flags _ _ _ => flags.isRealTGL = true ∨ flags.tryGuC = true
  | .checkWOPCMSettings _ _ _ _ => False

theorem getGPUInfo_result_iff (flags : PlatformFlags) (boot : BootArgs)
    (o : ByteMem → Bool × ByteMem) (that : ByteMem) :
    (NootedGreen.getGPUInfo flags boot o that).1 = true ↔
      (o that).1 = true ∨ (flags.isRealTGL = false ∧ boot.fullMTL.enabled = true) := by
  unfold NootedGreen.getGPUInfo
  rcases o that with ⟨ret, object⟩
  cases ret <;> cases flags.isRealTGL <;> cases boot.fullMTL.enabled <;> simp

/-- A call other than `checkWOPCMSettings` is reported exactly if it is as its name says,
whatever came before. -/
theorem TracedCall.reported_iff (h : isTglTraceEnabled.enabled = true) (t : BringupTrace)
    (before : List TracedCall) (call : TracedCall) (hother : call.programsWopcm = false) :
    call.Reported isTglTraceEnabled t before ↔ call.AsNamed := by
  cases call with
  | getGPUInfo flags boot o that post =>
      simp only [TracedCall.Reported, TracedCall.AsNamed]
      rw [getGPUInfo_topologyOk h, ← getGPUInfo_result_iff flags boot o that]
      exact eq_comm
  | loadGuCBinary flags o pre post =>
      simp only [TracedCall.Reported, TracedCall.AsNamed]
      rw [loadGuCBinary_gucRequested h]
      exact ⟨fun hiff => hiff.mp rfl, fun hnamed => ⟨fun _ => hnamed, fun _ => rfl⟩⟩
  | checkWOPCMSettings o range pre post => cases hother

/-- The first `checkWOPCMSettings` is not: its PRE dump has the flag. -/
theorem TracedCall.not_reported_first (h : isTglTraceEnabled.enabled = true) (t : BringupTrace)
    (before : List TracedCall) (call : TracedCall)
    (hprograms : call.programsWopcm = true) (hfirst : ∀ c ∈ before, c.programsWopcm = false) :
    ¬ call.Reported isTglTraceEnabled t before := by
  cases call with
  | getGPUInfo flags boot o that post => cases hprograms
  | loadGuCBinary flags o pre post => cases hprograms
  | checkWOPCMSettings o range pre post =>
      intro hreported
      obtain ⟨state, hdumped, hflag⟩ := checkWOPCMSettings_dumps_pre h t o range pre post
      obtain ⟨c, hc, hprograms⟩ := hreported state hdumped hflag
      exact Bool.false_ne_true ((hfirst c hc).symm.trans hprograms)

/-- With tracing on, and from whatever record: the trace reports a sequence of calls
exactly if every call is as its stage's name says; so no `checkWOPCMSettings` may be
among them. -/
theorem trace_reports_iff (h : isTglTraceEnabled.enabled = true) (calls : List TracedCall)
    (bringup : TglGpuBringupState) :
    TraceReports isTglTraceEnabled calls ⟨bringup, []⟩ ↔ ∀ call ∈ calls, call.AsNamed := by
  constructor
  · intro hreports
    -- no call can be the first `checkWOPCMSettings`
    have hnone : calls.find? TracedCall.programsWopcm = none := by
      cases hfind : calls.find? TracedCall.programsWopcm with
      | none => rfl
      | some first =>
          obtain ⟨hfirst, before, after, hsplit, hbefore⟩ :=
            List.find?_eq_some_iff_append.mp hfind
          exact absurd (hreports before first after hsplit)
            (TracedCall.not_reported_first h _ before first hfirst
              (fun c hc => by simpa using hbefore c hc))
    intro call hcall
    obtain ⟨before, after, hsplit⟩ := List.append_of_mem hcall
    have hother := eq_false_of_ne_true (List.find?_eq_none.mp hnone call hcall)
    exact (TracedCall.reported_iff h _ before call hother).mp
      (hreports before call after hsplit)
  · intro hnamed before call after hsplit
    have hcall : call.AsNamed := hnamed call (by rw [hsplit]; simp)
    have hother : call.programsWopcm = false := by
      cases call with
      | getGPUInfo _ _ _ _ _ => rfl
      | loadGuCBinary _ _ _ _ => rfl
      | checkWOPCMSettings _ _ _ _ => exact hcall.elim
    exact (TracedCall.reported_iff h _ before call hother).mpr hcall

end Traced

/-- Registers that are not mapped, and no boot argument. -/
def silentView : TraceView := ⟨false, false, fun _ => 0⟩

def plainBoot : BootArgs := ⟨false, ⟨none, false⟩, ⟨none, false⟩, none⟩

/-- A real Tiger Lake on which Apple's `getGPUInfo` succeeds. -/
theorem trace_reports_iff_success :
    TraceReports ⟨none, true⟩
      [.getGPUInfo ⟨0x8C, false, true, true, false⟩ plainBoot
        (fun that => (true, that)) (fun _ => 0) silentView] ⟨.initial, []⟩ :=
  (trace_reports_iff rfl _ _).mpr (by
    intro call hcall
    rw [List.mem_singleton.mp hcall]
    exact Or.inl rfl)

/-- One on which it fails: the hook returns `false`, the trace says `true`. -/
theorem failure_traced_as_success :
    ¬ TraceReports ⟨none, true⟩
      [.getGPUInfo ⟨0x8C, false, true, true, false⟩ plainBoot
        (fun that => (false, that)) (fun _ => 0) silentView] ⟨.initial, []⟩ := by
  intro hreports
  have hcall := hreports [] _ [] rfl
  simp only [TracedCall.Reported] at hcall
  rw [getGPUInfo_topologyOk rfl] at hcall
  cases hcall

end NootedGreen

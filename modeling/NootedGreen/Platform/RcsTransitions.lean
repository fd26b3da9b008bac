/-
# `Platform.RcsTransitions` — the log of what the render engine's registers did

`markRcsRegisterTransition` is called after every step of the bring-up.  The first call
that finds the registers keeps what they read and says nothing; each later one compares
and logs:

    register              logged                      kept
    RING_START, RING_CTL  0 to x, x to 0              the reading
    RING_TAIL, ACTHD,     any change                  the reading
    CONTEXT_STATUS_PTR
    CSB                   the first entry that is     whether there was one
                          not zero
    ERROR_GEN6            the first value that is     the reading, and whether there
                          not zero; x to 0            was one

`transition_log_faithful`: the lines of a register lead from its first reading to its last,
those of the first two alternate, and a first time is logged once, if at all.

**What is left out.**  The text of a line; its stage and its numbers are here.
-/
import NootedGreen.Hooks.Routes
import NootedGreen.Lib.Observations
import NootedGreen.Platform.BringupTrace

namespace NootedGreen

open Observations

/-! ## The log -/

structure RcsEngineTransitionState where
  ringStart : BitVec 32
  ringCtl : BitVec 32
  ringTail : BitVec 32
  acthd : BitVec 32
  contextStatusPtr : BitVec 32
  errorGen6 : BitVec 32
  initialized : Bool
  firstCsbNonZeroSeen : Bool
  firstErrorNonZeroSeen : Bool
  deriving DecidableEq, Repr

/-- `gRcsTransitionState` at boot. -/
def RcsEngineTransitionState.atBoot : RcsEngineTransitionState :=
  ⟨0, 0, 0, 0, 0, 0, false, false, false⟩

/-- What a line tells, with the numbers it prints. -/
inductive RcsTransition where
  /-- `RING_START 0->0x%x` -/
  | ringStartSet (ringStart : BitVec 32)
  /-- `RING_START 0x%x->0` -/
  | ringStartCleared (old : BitVec 32)
  /-- `RING_CTL 0->0x%x` -/
  | ringCtlSet (ringCtl : BitVec 32)
  /-- `RING_CTL 0x%x->0` -/
  | ringCtlCleared (old : BitVec 32)
  /-- `RING_TAIL 0x%x->0x%x` -/
  | ringTail (old new : BitVec 32)
  /-- `ACTHD 0x%x->0x%x` -/
  | acthd (old new : BitVec 32)
  /-- `CONTEXT_STATUS_PTR 0x%x->0x%x` -/
  | contextStatusPtr (old new : BitVec 32)
  /-- `first CSB non-zero entry` -/
  | firstCsbNonZero
  /-- `first ERROR_GEN6 non-zero 0x%x` -/
  | firstErrorNonZero (errorGen6 : BitVec 32)
  /-- `ERROR_GEN6 cleared from 0x%x` -/
  | errorCleared (old : BitVec 32)
  deriving DecidableEq, Repr

/-- `RCS_TRACE[stage]: transition …` -/
structure RcsTraceLine where
  stage : String
  transition : RcsTransition
  deriving DecidableEq, Repr

/-- One call, with what it finds. -/
structure RcsMark where
  stage : Option String
  seen : TraceView

namespace RcsMark

variable (call : RcsMark)

def ringStart : BitVec 32 := call.seen.traceRead32 0x2038
def ringCtl : BitVec 32 := call.seen.traceRead32 0x203c
def ringTail : BitVec 32 := call.seen.traceRead32 0x2030
def acthd : BitVec 32 := call.seen.traceRead32 0x2074
def contextStatusPtr : BitVec 32 := call.seen.traceRead32 0x23a0
def errorGen6 : BitVec 32 := call.seen.traceRead32 0x40A0

/-- The same loop as `anyRcsCsbEntrySet`. -/
def csbNonZero : Bool := call.seen.anyRcsCsbEntrySet

/-- A line, if there is something to say. -/
def trace (cond : Bool) (transition : RcsTransition) : List RcsTraceLine :=
  if cond then [⟨call.stage.getD "<null>", transition⟩] else []

/-- What a later call says. -/
def transitions (state : RcsEngineTransitionState) : List RcsTraceLine :=
  call.trace (state.ringStart == 0 && call.ringStart != 0) (.ringStartSet call.ringStart) ++
  call.trace (state.ringStart != 0 && call.ringStart == 0) (.ringStartCleared state.ringStart) ++
  call.trace (state.ringCtl == 0 && call.ringCtl != 0) (.ringCtlSet call.ringCtl) ++
  call.trace (state.ringCtl != 0 && call.ringCtl == 0) (.ringCtlCleared state.ringCtl) ++
  call.trace (state.ringTail != call.ringTail) (.ringTail state.ringTail call.ringTail) ++
  call.trace (state.acthd != call.acthd) (.acthd state.acthd call.acthd) ++
  call.trace (state.contextStatusPtr != call.contextStatusPtr)
    (.contextStatusPtr state.contextStatusPtr call.contextStatusPtr) ++
  call.trace (!state.firstCsbNonZeroSeen && call.csbNonZero) .firstCsbNonZero ++
  call.trace (!state.firstErrorNonZeroSeen && call.errorGen6 != 0)
    (.firstErrorNonZero call.errorGen6) ++
  call.trace (state.errorGen6 != 0 && call.errorGen6 == 0) (.errorCleared state.errorGen6)

/-- What is kept for the next one. -/
def keep (firstCsbNonZeroSeen firstErrorNonZeroSeen : Bool) : RcsEngineTransitionState where
  ringStart := call.ringStart
  ringCtl := call.ringCtl
  ringTail := call.ringTail
  acthd := call.acthd
  contextStatusPtr := call.contextStatusPtr
  errorGen6 := call.errorGen6
  initialized := true
  firstCsbNonZeroSeen := firstCsbNonZeroSeen
  firstErrorNonZeroSeen := firstErrorNonZeroSeen

end RcsMark

def markRcsRegisterTransition (boot : RouteBootArgs) (call : RcsMark)
    (state : RcsEngineTransitionState) : RcsEngineTransitionState × List RcsTraceLine :=
  if !isRcsEngineTraceEnabled boot || !call.seen.tmmioReady then (state, [])
  else if !state.initialized then (call.keep call.csbNonZero (call.errorGen6 != 0), [])
  else
    (call.keep (state.firstCsbNonZeroSeen || call.csbNonZero)
      (state.firstErrorNonZeroSeen || call.errorGen6 != 0), call.transitions state)

def RcsMark.next (boot : RouteBootArgs) (call : RcsMark) (state : RcsEngineTransitionState) :
    RcsEngineTransitionState :=
  (markRcsRegisterTransition boot call state).1

def RcsMark.said (boot : RouteBootArgs) (call : RcsMark) (state : RcsEngineTransitionState) :
    List RcsTraceLine :=
  (markRcsRegisterTransition boot call state).2

/-- What a sequence of calls logs from boot on. -/
def rcsTransitionLog (boot : RouteBootArgs) (calls : List RcsMark) : List RcsTraceLine :=
  emitted (RcsMark.next boot) (RcsMark.said boot) calls .atBoot

/-! ## The lines of one register -/

namespace RcsTraceLine

def ringTail? (line : RcsTraceLine) : Option (BitVec 32 × BitVec 32) :=
  match line.transition with
  | .ringTail old new => some (old, new)
  | _ => none

def acthd? (line : RcsTraceLine) : Option (BitVec 32 × BitVec 32) :=
  match line.transition with
  | .acthd old new => some (old, new)
  | _ => none

def contextStatusPtr? (line : RcsTraceLine) : Option (BitVec 32 × BitVec 32) :=
  match line.transition with
  | .contextStatusPtr old new => some (old, new)
  | _ => none

/-- Whether the register was set, and whether it is. -/
def ringStart? (line : RcsTraceLine) : Option (Bool × Bool) :=
  match line.transition with
  | .ringStartSet _ => some (false, true)
  | .ringStartCleared _ => some (true, false)
  | _ => none

def ringCtl? (line : RcsTraceLine) : Option (Bool × Bool) :=
  match line.transition with
  | .ringCtlSet _ => some (false, true)
  | .ringCtlCleared _ => some (true, false)
  | _ => none

def isFirstCsb (line : RcsTraceLine) : Bool :=
  match line.transition with
  | .firstCsbNonZero => true
  | _ => false

def isFirstError (line : RcsTraceLine) : Bool :=
  match line.transition with
  | .firstErrorNonZero _ => true
  | _ => false

end RcsTraceLine

/-! ## What one call says of a register -/

section Lines

variable (call : RcsMark) (state : RcsEngineTransitionState)

theorem filterMap_trace {α : Type} (entry : RcsTraceLine → Option α) (cond : Bool)
    (transition : RcsTransition) :
    (call.trace cond transition).filterMap entry =
      if cond then (entry ⟨call.stage.getD "<null>", transition⟩).toList else [] := by
  rw [RcsMark.trace]
  cases cond with
  | false => rfl
  | true =>
      rw [if_pos rfl, if_pos rfl, List.filterMap_cons]
      cases entry ⟨call.stage.getD "<null>", transition⟩ <;> rfl

theorem countP_trace (p : RcsTraceLine → Bool) (cond : Bool) (transition : RcsTransition) :
    (call.trace cond transition).countP p =
      if cond && p ⟨call.stage.getD "<null>", transition⟩ then 1 else 0 := by
  rw [RcsMark.trace]
  cases cond with
  | false => rfl
  | true => rw [if_pos rfl, List.countP_singleton, Bool.true_and]

theorem ite_bne_eq_change (a b : BitVec 32) :
    (if a != b then [(a, b)] else []) = change a b := by
  simp only [bne_iff_ne, ne_eq, ite_not, change]

/-- A register logged only when it becomes zero or stops being zero. -/
theorem set_cleared_eq_change (a b : BitVec 32) :
    (if a == 0 && b != 0 then [(false, true)] else []) ++
      (if a != 0 && b == 0 then [(true, false)] else []) = change (a != 0) (b != 0) := by
  have hbool : ∀ x y : Bool, (if x && !y then [(false, true)] else []) ++
      (if !x && y then [(true, false)] else []) = change (!x) (!y) := by
    intro x y
    cases x <;> cases y <;> rfl
  exact hbool (a == 0) (b == 0)

theorem transitions_ringTail :
    (call.transitions state).filterMap RcsTraceLine.ringTail? =
      change state.ringTail call.ringTail := by
  simp only [RcsMark.transitions, List.filterMap_append, filterMap_trace,
    RcsTraceLine.ringTail?, Option.toList_none, Option.toList_some, ite_self, List.nil_append,
    List.append_nil, ite_bne_eq_change]

theorem transitions_acthd :
    (call.transitions state).filterMap RcsTraceLine.acthd? = change state.acthd call.acthd := by
  simp only [RcsMark.transitions, List.filterMap_append, filterMap_trace,
    RcsTraceLine.acthd?, Option.toList_none, Option.toList_some, ite_self, List.nil_append,
    List.append_nil, ite_bne_eq_change]

theorem transitions_contextStatusPtr :
    (call.transitions state).filterMap RcsTraceLine.contextStatusPtr? =
      change state.contextStatusPtr call.contextStatusPtr := by
  simp only [RcsMark.transitions, List.filterMap_append, filterMap_trace,
    RcsTraceLine.contextStatusPtr?, Option.toList_none, Option.toList_some, ite_self,
    List.nil_append, List.append_nil, ite_bne_eq_change]

theorem transitions_ringStart :
    (call.transitions state).filterMap RcsTraceLine.ringStart? =
      change (state.ringStart != 0) (call.ringStart != 0) := by
  simp only [RcsMark.transitions, List.filterMap_append, filterMap_trace,
    RcsTraceLine.ringStart?, Option.toList_none, Option.toList_some, ite_self,
    List.append_nil, set_cleared_eq_change]

theorem transitions_ringCtl :
    (call.transitions state).filterMap RcsTraceLine.ringCtl? =
      change (state.ringCtl != 0) (call.ringCtl != 0) := by
  simp only [RcsMark.transitions, List.filterMap_append, filterMap_trace,
    RcsTraceLine.ringCtl?, Option.toList_none, Option.toList_some, ite_self,
    List.nil_append, List.append_nil, set_cleared_eq_change]

theorem transitions_isFirstCsb :
    (call.transitions state).countP RcsTraceLine.isFirstCsb =
      if !state.firstCsbNonZeroSeen && call.csbNonZero then 1 else 0 := by
  simp only [RcsMark.transitions, List.countP_append, countP_trace, RcsTraceLine.isFirstCsb,
    Bool.and_false, Bool.and_true, Bool.false_eq_true, if_false, Nat.zero_add, Nat.add_zero]

theorem transitions_isFirstError :
    (call.transitions state).countP RcsTraceLine.isFirstError =
      if !state.firstErrorNonZeroSeen && call.errorGen6 != 0 then 1 else 0 := by
  simp only [RcsMark.transitions, List.countP_append, countP_trace, RcsTraceLine.isFirstError,
    Bool.and_false, Bool.and_true, Bool.false_eq_true, if_false, Nat.zero_add, Nat.add_zero]

end Lines

/-! ## Calls -/

section Calls

variable {boot : RouteBootArgs} (h : isRcsEngineTraceEnabled boot = true)

/-- A call that does not find the registers does nothing. -/
theorem mark_unmapped (boot : RouteBootArgs) (call : RcsMark) (state : RcsEngineTransitionState)
    (hunmapped : call.seen.tmmioReady = false) :
    markRcsRegisterTransition boot call state = (state, []) := by
  rw [markRcsRegisterTransition, hunmapped, Bool.not_false, Bool.or_true, if_pos rfl]

include h

/-- The first one that does is silent. -/
theorem mark_first {call : RcsMark} {state : RcsEngineTransitionState}
    (hmapped : call.seen.tmmioReady = true) (hfirst : state.initialized = false) :
    markRcsRegisterTransition boot call state =
      (call.keep call.csbNonZero (call.errorGen6 != 0), []) := by
  rw [markRcsRegisterTransition, h, hmapped, hfirst]
  rfl

theorem mark_later {call : RcsMark} {state : RcsEngineTransitionState}
    (hmapped : call.seen.tmmioReady = true) (hlater : state.initialized = true) :
    markRcsRegisterTransition boot call state =
      (call.keep (state.firstCsbNonZeroSeen || call.csbNonZero)
        (state.firstErrorNonZeroSeen || call.errorGen6 != 0), call.transitions state) := by
  rw [markRcsRegisterTransition, h, hmapped, hlater]
  rfl

end Calls

/-! ## Sequences of calls -/

section Later

variable {boot : RouteBootArgs} (h : isRcsEngineTraceEnabled boot = true)

theorem mapped_of_snapshots {calls : List RcsMark} {first : RcsMark} {rest : List RcsMark}
    (hsnapshots : calls.filter (fun call => call.seen.tmmioReady) = first :: rest) :
    ∀ call ∈ first :: rest, call.seen.tmmioReady = true := by
  intro call hcall
  rw [← hsnapshots] at hcall
  exact (List.mem_filter.mp hcall).2

/-- What the calls that find nothing do not change: the log is that of the others, and the first
of them only says where the registers start. -/
theorem rcsTransitionLog_eq (h : isRcsEngineTraceEnabled boot = true) {calls : List RcsMark}
    {first : RcsMark} {rest : List RcsMark}
    (hsnapshots : calls.filter (fun call => call.seen.tmmioReady) = first :: rest) :
    rcsTransitionLog boot calls = emitted (RcsMark.next boot) (RcsMark.said boot) rest
      (first.keep first.csbNonZero (first.errorGen6 != 0)) := by
  have hfirst := mapped_of_snapshots hsnapshots first List.mem_cons_self
  have hunmapped : ∀ (call : RcsMark) state, call.seen.tmmioReady = false →
      call.next boot state = state ∧ call.said boot state = [] := by
    intro call state hcall
    rw [RcsMark.next, RcsMark.said, mark_unmapped boot call state hcall]
    exact ⟨rfl, rfl⟩
  rw [rcsTransitionLog, emitted_filter hunmapped, hsnapshots, emitted, RcsMark.next,
    RcsMark.said, mark_first h hfirst rfl, List.nil_append]

include h

theorem next_later (call : RcsMark) (state : RcsEngineTransitionState)
    (hmapped : call.seen.tmmioReady = true) (hlater : state.initialized = true) :
    call.next boot state = call.keep (state.firstCsbNonZeroSeen || call.csbNonZero)
      (state.firstErrorNonZeroSeen || call.errorGen6 != 0) := by
  rw [RcsMark.next, mark_later h hmapped hlater]

theorem said_later (call : RcsMark) (state : RcsEngineTransitionState)
    (hmapped : call.seen.tmmioReady = true) (hlater : state.initialized = true) :
    call.said boot state = call.transitions state := by
  rw [RcsMark.said, mark_later h hmapped hlater]

theorem next_initialized (call : RcsMark) (state : RcsEngineTransitionState)
    (hmapped : call.seen.tmmioReady = true) (hlater : state.initialized = true) :
    (call.next boot state).initialized = true := by
  rw [next_later h call state hmapped hlater]
  rfl

/-- A register that is kept as it was read, with a line for each change. -/
theorem later_changes {α : Type} [DecidableEq α] {kept : RcsEngineTransitionState → α}
    {value : RcsMark → α} {entry : RcsTraceLine → Option (α × α)}
    (hkept : ∀ (call : RcsMark) csb error, kept (call.keep csb error) = value call)
    (hlines : ∀ call state,
      (call.transitions state).filterMap entry = change (kept state) (value call))
    {rest : List RcsMark} (hrest : ∀ call ∈ rest, call.seen.tmmioReady = true)
    {state : RcsEngineTransitionState} (hlater : state.initialized = true) :
    (emitted (RcsMark.next boot) (RcsMark.said boot) rest state).filterMap entry =
      changes (kept state) (rest.map value) := by
  refine emitted_changes (next_initialized h) ?_ ?_ rest state hrest hlater
  · intro call state hmapped hlater
    rw [next_later h call state hmapped hlater, hkept]
  · intro call state hmapped hlater
    rw [said_later h call state hmapped hlater, hlines]

/-- A line that is written when a flag goes up. -/
theorem later_once (flag : RcsEngineTransitionState → Bool) (sees : RcsMark → Bool)
    {p : RcsTraceLine → Bool}
    (hflag : ∀ call state, state.initialized = true → call.seen.tmmioReady = true →
      flag (call.next boot state) = (flag state || sees call))
    (hlines : ∀ call state,
      (call.transitions state).countP p = if !flag state && sees call then 1 else 0)
    {rest : List RcsMark} (hrest : ∀ call ∈ rest, call.seen.tmmioReady = true)
    (state : RcsEngineTransitionState) (hlater : state.initialized = true) :
    (emitted (RcsMark.next boot) (RcsMark.said boot) rest state).countP p ≤ 1 ∧
      (flag state = true →
        (emitted (RcsMark.next boot) (RcsMark.said boot) rest state).countP p = 0) := by
  refine emitted_once (next_initialized h) ?_ ?_ rest state hrest hlater
  · intro call state hmapped hlater hset
    rw [hflag call state hlater hmapped, said_later h call state hmapped hlater, hlines, hset]
    exact ⟨rfl, rfl⟩
  · intro call state hmapped hlater
    rw [hflag call state hlater hmapped, said_later h call state hmapped hlater, hlines]
    cases flag state <;> cases sees call <;> decide

end Later

/-! ## The whole log -/

/-- The lines of a register lead from its first reading to its last, so that its readings can
be told from them. -/
structure LogsChanges (value : RcsMark → BitVec 32)
    (entry : RcsTraceLine → Option (BitVec 32 × BitVec 32)) (first : RcsMark)
    (rest : List RcsMark) (log : List RcsTraceLine) : Prop where
  leads : Leads (value first) (log.filterMap entry) (value (rest.getLastD first))
  readings : ((first :: rest).map value).destutter (· ≠ ·) =
    value first :: (log.filterMap entry).map Prod.snd

/-- A log of calls of which `first` and `rest` found the registers. -/
structure FaithfulLog (first : RcsMark) (rest : List RcsMark) (log : List RcsTraceLine) :
    Prop where
  ringTail : LogsChanges RcsMark.ringTail RcsTraceLine.ringTail? first rest log
  acthd : LogsChanges RcsMark.acthd RcsTraceLine.acthd? first rest log
  contextStatusPtr :
    LogsChanges RcsMark.contextStatusPtr RcsTraceLine.contextStatusPtr? first rest log
  /-- What is set is cleared next, and the other way round. -/
  ringStart : ((log.filterMap RcsTraceLine.ringStart?).map Prod.snd).IsChain (· ≠ ·)
  ringCtl : ((log.filterMap RcsTraceLine.ringCtl?).map Prod.snd).IsChain (· ≠ ·)
  csb_once : log.countP RcsTraceLine.isFirstCsb ≤ 1
  csb_first : first.csbNonZero = true → log.countP RcsTraceLine.isFirstCsb = 0
  error_once : log.countP RcsTraceLine.isFirstError ≤ 1
  error_first : first.errorGen6 ≠ 0 → log.countP RcsTraceLine.isFirstError = 0

theorem logsChanges_of_changes {value : RcsMark → BitVec 32}
    {entry : RcsTraceLine → Option (BitVec 32 × BitVec 32)} {first : RcsMark}
    {rest : List RcsMark} {log : List RcsTraceLine}
    (h : log.filterMap entry = changes (value first) (rest.map value)) :
    LogsChanges value entry first rest log := by
  constructor
  · have hlast : (rest.map value).getLastD (value first) = value (rest.getLastD first) := by
      rw [List.getLastD_eq_getLast?, List.getLastD_eq_getLast?, List.getLast?_map,
        Option.getD_map]
    rw [h, ← hlast]
    exact changes_leads _ _
  · rw [h, List.map_cons]
    exact changes_destutter _ _

/-- Changes between two values alternate. -/
theorem alternates_of_changes {a : Bool} {values : List Bool} {entries : List (Bool × Bool)}
    (h : entries = changes a values) : (entries.map Prod.snd).IsChain (· ≠ ·) := by
  rw [h]
  exact (changes_leads a values).isChain.tail

/-- With the trace on: whatever the calls find, in whatever order, the log is faithful to the
snapshots it is made of. -/
theorem transition_log_faithful {boot : RouteBootArgs}
    (h : isRcsEngineTraceEnabled boot = true) (calls : List RcsMark) (first : RcsMark)
    (rest : List RcsMark)
    (hsnapshots : calls.filter (fun call => call.seen.tmmioReady) = first :: rest) :
    FaithfulLog first rest (rcsTransitionLog boot calls) := by
  have hrest := (List.forall_mem_cons.mp (mapped_of_snapshots hsnapshots)).2
  have hcsb := later_once h (·.firstCsbNonZeroSeen) RcsMark.csbNonZero
    (fun call state hlater hmapped => by rw [next_later h call state hmapped hlater]; rfl)
    transitions_isFirstCsb hrest (first.keep first.csbNonZero (first.errorGen6 != 0)) rfl
  have herror := later_once h (·.firstErrorNonZeroSeen) (fun call => call.errorGen6 != 0)
    (fun call state hlater hmapped => by rw [next_later h call state hmapped hlater]; rfl)
    transitions_isFirstError hrest (first.keep first.csbNonZero (first.errorGen6 != 0)) rfl
  rw [rcsTransitionLog_eq h hsnapshots]
  refine ⟨?_, ?_, ?_, ?_, ?_, hcsb.1, hcsb.2, herror.1, ?_⟩
  · exact logsChanges_of_changes
      (later_changes h (fun _ _ _ => rfl) transitions_ringTail hrest rfl)
  · exact logsChanges_of_changes
      (later_changes h (fun _ _ _ => rfl) transitions_acthd hrest rfl)
  · exact logsChanges_of_changes
      (later_changes h (fun _ _ _ => rfl) transitions_contextStatusPtr hrest rfl)
  · exact alternates_of_changes
      (later_changes h (fun _ _ _ => rfl) transitions_ringStart hrest rfl)
  · exact alternates_of_changes
      (later_changes h (fun _ _ _ => rfl) transitions_ringCtl hrest rfl)
  · intro hfirst
    exact herror.2 (bne_iff_ne.mpr hfirst)

/-- A view with this start, tail and error. -/
def ringView (ringStart ringTail errorGen6 : BitVec 32) : TraceView :=
  ⟨false, true, fun reg =>
    if reg = 0x2038 then ringStart else if reg = 0x2030 then ringTail
    else if reg = 0x40A0 then errorGen6 else 0⟩

/-- A ring that is started, submitted to and reset, with a call before it is mapped. -/
theorem transition_log_faithful_reset :
    FaithfulLog ⟨none, ringView 0 0 0⟩
      [⟨some "submitToRing post", ringView 0x1000 0x40 0⟩,
        ⟨some "resetGraphicsEngine POST", ringView 0 0 4⟩]
      (rcsTransitionLog ⟨⟨none, true⟩, ⟨none, false⟩, ⟨none, false⟩, ⟨none, false⟩, ⟨none, false⟩⟩
        [⟨none, silentView⟩, ⟨none, ringView 0 0 0⟩,
          ⟨some "submitToRing post", ringView 0x1000 0x40 0⟩,
          ⟨some "resetGraphicsEngine POST", ringView 0 0 4⟩]) :=
  transition_log_faithful rfl _ _ _ rfl

/-- Its lines. -/
example : rcsTransitionLog
    ⟨⟨none, true⟩, ⟨none, false⟩, ⟨none, false⟩, ⟨none, false⟩, ⟨none, false⟩⟩
    [⟨none, silentView⟩, ⟨none, ringView 0 0 0⟩,
      ⟨some "submitToRing post", ringView 0x1000 0x40 0⟩,
      ⟨some "resetGraphicsEngine POST", ringView 0 0 4⟩] =
    [⟨"submitToRing post", .ringStartSet 0x1000⟩, ⟨"submitToRing post", .ringTail 0 0x40⟩,
      ⟨"resetGraphicsEngine POST", .ringStartCleared 0x1000⟩,
      ⟨"resetGraphicsEngine POST", .ringTail 0x40 0⟩,
      ⟨"resetGraphicsEngine POST", .firstErrorNonZero 4⟩] := by decide

end NootedGreen

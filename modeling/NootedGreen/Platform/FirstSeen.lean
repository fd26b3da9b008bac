/-
# `Platform.FirstSeen` — the flags of the bring-up trace that are named after a first time

Three flags of the record of `Platform.BringupTrace` say that something has been seen:

    flag                     an update sets it
    rcsResetSeen             to true, at a stage named after resetGraphicsEngine
    rcsFirstSubmitSeen       to what head, tail, ACTHD and IPEHR show now
    rcsFirstCompletionSeen   to what the CSB and the RCS0 interrupt bit show now

The first only ever rises.  The other two are assigned from the reading at hand, so a ring
that was reset reads as one that never ran: `first_seen_sticky_iff` says which sequences of
updates leave all three as their names promise.  An update that finds the registers
unmapped leaves the two as they are.
-/
import NootedGreen.Lib.Observations
import NootedGreen.Platform.BringupTrace

namespace NootedGreen

open Observations

/-! ## Updates -/

/-- The stage may be null. -/
def updateTglGpuBringupStateFromRegisters (isTglTraceEnabled : BootFlag)
    (state : TglGpuBringupState) (stage : Option String) (seen : TraceView) :
    TglGpuBringupState :=
  if isTglTraceEnabled.enabled then
    -- `stageContains` finds nothing in a null stage, as `strstr` in an empty one
    state.update (stage.getD "") seen
  else state

/-- One update, with what it finds. -/
structure BringupUpdate where
  stage : Option String
  seen : TraceView

def BringupUpdate.exec (isTglTraceEnabled : BootFlag) (u : BringupUpdate)
    (state : TglGpuBringupState) : TglGpuBringupState :=
  updateTglGpuBringupStateFromRegisters isTglTraceEnabled state u.stage u.seen

/-- Head, tail, `ACTHD` or `IPEHR` of the render ring is not zero. -/
def TraceView.showsSubmit (seen : TraceView) : Bool :=
  seen.traceRead32 0x2034 != 0 || seen.traceRead32 0x2030 != 0 ||
    seen.traceRead32 0x2074 != 0 || seen.traceRead32 0x2068 != 0

/-- A context status entry is not zero, or the interrupt of RCS0 is pending. -/
def TraceView.showsCompletion (seen : TraceView) : Bool :=
  seen.anyRcsCsbEntrySet || seen.traceRead32 0x190018 &&& (1#32 <<< 0) != 0

/-- What an update reads of either, if the registers are mapped. -/
def BringupUpdate.submitReading (u : BringupUpdate) : Option Bool :=
  if u.seen.tmmioReady then some u.seen.showsSubmit else none

def BringupUpdate.completionReading (u : BringupUpdate) : Option Bool :=
  if u.seen.tmmioReady then some u.seen.showsCompletion else none

/-! ## What one update does to the three flags -/

section Step

variable {isTglTraceEnabled : BootFlag} (h : isTglTraceEnabled.enabled = true)
  (u : BringupUpdate) (state : TglGpuBringupState)

include h

theorem exec_eq_update :
    u.exec isTglTraceEnabled state = state.update (u.stage.getD "") u.seen :=
  if_pos h

theorem exec_rcsFirstSubmitSeen :
    (u.exec isTglTraceEnabled state).rcsFirstSubmitSeen =
      follow BringupUpdate.submitReading u state.rcsFirstSubmitSeen := by
  rw [exec_eq_update h, TglGpuBringupState.update, follow, BringupUpdate.submitReading]
  cases hready : u.seen.tmmioReady <;> rfl

theorem exec_rcsFirstCompletionSeen :
    (u.exec isTglTraceEnabled state).rcsFirstCompletionSeen =
      follow BringupUpdate.completionReading u state.rcsFirstCompletionSeen := by
  rw [exec_eq_update h, TglGpuBringupState.update, follow, BringupUpdate.completionReading]
  cases hready : u.seen.tmmioReady <;> rfl

theorem exec_rcsResetSeen (hseen : state.rcsResetSeen = true) :
    (u.exec isTglTraceEnabled state).rcsResetSeen = true := by
  have hstage : (state.markStage (u.stage.getD "")).rcsResetSeen = true := by
    rw [TglGpuBringupState.markStage, hseen, Bool.or_true]
  rw [exec_eq_update h, TglGpuBringupState.update]
  cases hready : u.seen.tmmioReady <;> exact hstage

end Step

/-! ## Runs of updates -/

/-- What the names promise of a run of updates from `state`: no flag is taken back, and after
an update that finds the registers the two tell whether one of the updates so far saw it. -/
structure FirstSeenSticky (isTglTraceEnabled : BootFlag) (updates : List BringupUpdate)
    (state : TglGpuBringupState) : Prop where
  reset_stays : ∀ js ks, js ++ ks <+: updates →
    (Runs.run (BringupUpdate.exec isTglTraceEnabled) js state).rcsResetSeen = true →
    (Runs.run (BringupUpdate.exec isTglTraceEnabled) (js ++ ks) state).rcsResetSeen = true
  submit_stays : ∀ js ks, js ++ ks <+: updates →
    (Runs.run (BringupUpdate.exec isTglTraceEnabled) js state).rcsFirstSubmitSeen = true →
    (Runs.run (BringupUpdate.exec isTglTraceEnabled) (js ++ ks) state).rcsFirstSubmitSeen = true
  completion_stays : ∀ js ks, js ++ ks <+: updates →
    (Runs.run (BringupUpdate.exec isTglTraceEnabled) js state).rcsFirstCompletionSeen = true →
    (Runs.run (BringupUpdate.exec isTglTraceEnabled) (js ++ ks) state).rcsFirstCompletionSeen =
      true
  submit_iff : ∀ js u, js ++ [u] <+: updates → u.seen.tmmioReady = true →
    ((Runs.run (BringupUpdate.exec isTglTraceEnabled) (js ++ [u]) state).rcsFirstSubmitSeen =
        true ↔
      ∃ v ∈ js ++ [u], v.seen.tmmioReady = true ∧ v.seen.showsSubmit = true)
  completion_iff : ∀ js u, js ++ [u] <+: updates → u.seen.tmmioReady = true →
    ((Runs.run (BringupUpdate.exec isTglTraceEnabled) (js ++ [u]) state).rcsFirstCompletionSeen =
        true ↔
      ∃ v ∈ js ++ [u], v.seen.tmmioReady = true ∧ v.seen.showsCompletion = true)

section Flag

/-! Two of the flags are assigned in the same way, from a reading of their own. -/

variable {isTglTraceEnabled : BootFlag} {flag : TglGpuBringupState → Bool}
  {reading : BringupUpdate → Option Bool} {shows : TraceView → Bool}
  (hreading : ∀ u, reading u = if u.seen.tmmioReady then some (shows u.seen) else none)
  (hexec : ∀ u state, flag (BringupUpdate.exec isTglTraceEnabled u state) =
    follow reading u (flag state))
  {state : TglGpuBringupState} (hclear : flag state = false)

include hreading in
theorem isSome_reading (u : BringupUpdate) : (reading u).isSome = u.seen.tmmioReady := by
  rw [hreading]
  cases u.seen.tmmioReady <;> rfl

include hreading in
/-- To have read `true` is to have found the registers and seen it there. -/
theorem everRead_iff_shows (us : List BringupUpdate) :
    EverRead reading us ↔ ∃ v ∈ us, v.seen.tmmioReady = true ∧ shows v.seen = true := by
  simp only [EverRead, hreading, Option.ite_none_right_eq_some, Option.some.injEq]

include hexec hclear

theorem run_flag (us : List BringupUpdate) :
    flag (Runs.run (BringupUpdate.exec isTglTraceEnabled) us state) =
      Runs.run (follow reading) us false := by
  rw [Runs.run_view hexec us state, hclear]

theorem flag_stays {updates js ks : List BringupUpdate} (h : NeverFalls reading updates)
    (hjs : js ++ ks <+: updates)
    (hseen : flag (Runs.run (BringupUpdate.exec isTglTraceEnabled) js state) = true) :
    flag (Runs.run (BringupUpdate.exec isTglTraceEnabled) (js ++ ks) state) = true := by
  rw [run_flag hexec hclear] at hseen ⊢
  exact h.sticky hjs hseen

include hreading

theorem flag_tells_iff (updates : List BringupUpdate) : NeverFalls reading updates ↔
    ∀ js u, js ++ [u] <+: updates → u.seen.tmmioReady = true →
      (flag (Runs.run (BringupUpdate.exec isTglTraceEnabled) (js ++ [u]) state) = true ↔
        ∃ v ∈ js ++ [u], v.seen.tmmioReady = true ∧ shows v.seen = true) := by
  rw [neverFalls_iff]
  simp only [isSome_reading hreading, run_flag hexec hclear, everRead_iff_shows hreading]

end Flag

theorem run_rcsResetSeen {isTglTraceEnabled : BootFlag} (h : isTglTraceEnabled.enabled = true)
    (us : List BringupUpdate) (state : TglGpuBringupState) (hseen : state.rcsResetSeen = true) :
    (Runs.run (BringupUpdate.exec isTglTraceEnabled) us state).rcsResetSeen = true :=
  Runs.states_of_inv (P := fun s => s.rcsResetSeen = true)
    (fun u s hs => exec_rcsResetSeen h u s hs) us state hseen _ (Runs.run_mem_states _ us state)

/-- With tracing on, and from a record on which neither flag is set: the three flags are what
their names say exactly if no update finds the ring quiet after one found it submitted to,
and none finds nothing completed after one found a completion. -/
theorem first_seen_sticky_iff {isTglTraceEnabled : BootFlag}
    (h : isTglTraceEnabled.enabled = true) (updates : List BringupUpdate)
    (state : TglGpuBringupState) (hsubmit : state.rcsFirstSubmitSeen = false)
    (hcompletion : state.rcsFirstCompletionSeen = false) :
    FirstSeenSticky isTglTraceEnabled updates state ↔
      NeverFalls BringupUpdate.submitReading updates ∧
      NeverFalls BringupUpdate.completionReading updates := by
  have hsubmits := exec_rcsFirstSubmitSeen h
  have hcompletes := exec_rcsFirstCompletionSeen h
  have htellsSubmit := flag_tells_iff (fun _ => rfl) hsubmits hsubmit updates
  have htellsCompletion := flag_tells_iff (fun _ => rfl) hcompletes hcompletion updates
  constructor
  · intro hsticky
    exact ⟨htellsSubmit.mpr hsticky.submit_iff, htellsCompletion.mpr hsticky.completion_iff⟩
  · rintro ⟨hs, hc⟩
    refine ⟨?_, ?_, ?_, htellsSubmit.mp hs, htellsCompletion.mp hc⟩
    · intro js ks _ hseen
      rw [Runs.run_append]
      exact run_rcsResetSeen h ks _ hseen
    · intro js ks hjs hseen
      exact flag_stays hsubmits hsubmit hs hjs hseen
    · intro js ks hjs hseen
      exact flag_stays hcompletes hcompletion hc hjs hseen

/-- A mapped view in which the ring has a tail. -/
def submittedView : TraceView := ⟨false, true, fun reg => if reg = 0x2030 then 0x40 else 0⟩

/-- A mapped view in which everything reads zero, as after a reset. -/
def quietView : TraceView := ⟨false, true, fun _ => 0⟩

/-- A quiet ring before it is submitted to, with an update in between that finds nothing mapped. -/
theorem first_seen_sticky_submitted :
    FirstSeenSticky ⟨none, true⟩
      [⟨none, quietView⟩, ⟨some "getGPUInfo POST", silentView⟩, ⟨none, submittedView⟩] .initial :=
  (first_seen_sticky_iff rfl _ _ rfl rfl).mpr (by decide)

/-- A ring that was submitted to, and then reset: the second update takes the flag back. -/
theorem reset_clears_firstSubmitSeen :
    ¬ FirstSeenSticky ⟨none, true⟩
      [⟨some "IntelAccelerator::start POST", submittedView⟩,
        ⟨some "resetGraphicsEngine POST", quietView⟩] .initial := by
  intro hsticky
  have hkept := hsticky.submit_stays [⟨some "IntelAccelerator::start POST", submittedView⟩]
    [⟨some "resetGraphicsEngine POST", quietView⟩] (List.prefix_refl _) rfl
  cases hkept

end NootedGreen

/-
# `Engine.Lifecycle` — one engine's record as an automaton

What the hooks do to one engine does not depend on the other engine's record,
but for one thing: on the spoofed platform a quarantined BCS stops the exec-list
hooks.  So the bring-up state is two copies of one automaton.  Its inputs are
`EngineEvent`s; the smoke test enters as a `Verdict` on the record as it is.

    event              record not quarantined                  quarantined
    contextInit        contextSeen                             contextSeen
    gpuVirtualAddress  contextSeen                             —
    ringRegisters      ringReady                               —
    ringControl on     ringReady, controlReady, then verdict   —
    ringControl off    ¬ controlReady                          —
    ringHead           ¬ submitted                             —
    ringTail t         ring ready: lastTail, submitted,        —
                       then verdict;  else quarantined
    submit             control ready: submitted, then verdict  —
                       if not passed;  else quarantined
    execList           verdict if not passed                   verdict if not passed

`exec_record` is the refinement: after any hook call each engine's record is what
the automaton makes of it, and the other engine's is untouched.
-/
import NootedGreen.Engine.Bringup

namespace NootedGreen

/-! ## The automaton -/

/-- The outcome of the smoke test. -/
inductive Verdict where
  | pass
  | fail
  | undecided
  deriving DecidableEq, Repr

def verdict (env : CallEnv) (e : Engine) (r : EngineState) : Verdict :=
  if !env.mmioReady then .undecided
  else if r.contextSeen && r.ringReady && r.controlReady && env.ringAlive e then .pass
  else if env.isRealTGL && e == .rcs then .undecided
  else .fail

def EngineState.settle (r : EngineState) : Verdict → EngineState
  | .pass => { r with smokePassed := true }
  | .fail => { r with quarantined := true }
  | .undecided => r

inductive EngineEvent where
  | idle
  | contextInit
  | gpuVirtualAddress
  | ringRegisters
  | ringControl (enable : Bool)
  | ringHead
  | ringTail (tail : BitVec 32)
  | submit
  | execList
  deriving DecidableEq, Repr

/-- The record after an event, with the smoke test as `judge` gives it. -/
def EngineEvent.next (judge : EngineState → Verdict) (r : EngineState) :
    EngineEvent → EngineState
  | .idle => r
  | .contextInit => { r with contextSeen := true }
  | .gpuVirtualAddress => if r.quarantined then r else { r with contextSeen := true }
  | .ringRegisters => if r.quarantined then r else { r with ringReady := true }
  | .ringControl enable =>
      if r.quarantined then r
      else if enable then
        let r := { r with ringReady := true, controlReady := true }
        r.settle (judge r)
      else { r with controlReady := false }
  | .ringHead => if r.quarantined then r else { r with submitted := false }
  | .ringTail tail =>
      if r.quarantined then r
      else if r.ringReady then
        let r := { r with lastTail := tail, submitted := true }
        r.settle (judge r)
      else { r with quarantined := true }
  | .submit =>
      if r.quarantined then r
      else if r.controlReady then
        let r := { r with submitted := true }
        if r.smokePassed then r else r.settle (judge r)
      else { r with quarantined := true }
  | .execList => if r.smokePassed then r else r.settle (judge r)

/-- The event a hook call is for the engine it is about. -/
def HookCall.event (env : CallEnv) (s : BringupState) : HookCall → EngineEvent
  | .initRingGPUVirtualAddress _ => .gpuVirtualAddress
  | .initRingRegisters _ => .ringRegisters
  | .initRingControl _ enable => .ringControl enable
  | .resetRingHead _ => .ringHead
  | .updateRingTail _ tail => .ringTail tail
  | .ringBufferInit _ => .idle
  | .submitToRing _ => .submit
  | .initWithOptions _ => .contextInit
  | .submitExecList _ | .prepareExecListAndSubmit _ _ =>
      if shouldUseSpoofedSafeSchedulerPolicy env && s.bcs.quarantined then .idle else .execList

/-! ## The hooks refine it -/

open BringupState

theorem evaluate_eq (env : CallEnv) (e : Engine) (s : BringupState) :
    (evaluateTrackedEngineBootstrap env (some e) s).2 =
      s.modify (some e) fun r => r.settle (verdict env e r) := by
  have hsettle : ∀ {v : Verdict}, verdict env e (s.record e) = v →
      (s.modify (some e) fun r => r.settle v) =
        s.modify (some e) fun r => r.settle (verdict env e r) := by
    intro v hv
    refine modify_congr ?_
    rw [hv]
  have hkeep : verdict env e (s.record e) = .undecided →
      s = s.modify (some e) fun r => r.settle (verdict env e r) := by
    intro hv
    refine (modify_fixed ?_).symm
    rw [hv]
    rfl
  rw [evaluateTrackedEngineBootstrap]
  dsimp only
  split
  · rename_i hready
    exact hkeep (by rw [verdict, if_pos hready])
  · rename_i hready
    split
    · rename_i hpass
      exact hsettle (by rw [verdict, if_neg hready, if_pos hpass])
    · rename_i hpass
      split
      · rename_i hreal
        exact hkeep (by rw [verdict, if_neg hready, if_neg hpass, if_pos hreal])
      · rename_i hreal
        exact hsettle (by rw [verdict, if_neg hready, if_neg hpass, if_neg hreal])

/-- The early return of a quarantined engine is the same test on its record. -/
theorem unlessBlocked {e : Engine} {s : BringupState} {o : Outcome}
    {f : EngineState → EngineState}
    (h : (s.record e).quarantined = false → o.state = s.modify (some e) f) :
    (if shouldBlockTrackedEngine (some e) s then Outcome.blocked s else o).state =
      s.modify (some e) fun r => if r.quarantined then r else f r := by
  split
  · rename_i hq
    refine (modify_fixed ?_).symm
    exact if_pos hq
  · rename_i hq
    have hq' : (s.record e).quarantined = false := Bool.eq_false_iff.mpr hq
    rw [h hq']
    refine modify_congr ?_
    rw [hq']
    rfl

section Tracked

variable (env : CallEnv) (s : BringupState) {e : Engine} {that : Option IGHardwareContext}
  (he : getTrackedEngineFromContext that = some e)

include he

theorem initRingGPUVirtualAddress_tracked :
    (IGHardwareContext.initRingGPUVirtualAddress env that s).state =
      s.modify (some e) fun r => EngineEvent.gpuVirtualAddress.next (verdict env e) r := by
  simp only [IGHardwareContext.initRingGPUVirtualAddress, he]
  exact unlessBlocked fun _ => rfl

theorem initRingRegisters_tracked :
    (IGHardwareContext.initRingRegisters env that s).state =
      s.modify (some e) fun r => EngineEvent.ringRegisters.next (verdict env e) r := by
  simp only [IGHardwareContext.initRingRegisters, he]
  exact unlessBlocked fun _ => rfl

theorem resetRingHead_tracked :
    (IGHardwareContext.resetRingHead env that s).state =
      s.modify (some e) fun r => EngineEvent.ringHead.next (verdict env e) r := by
  simp only [IGHardwareContext.resetRingHead, he]
  exact unlessBlocked fun _ => rfl

theorem initRingControl_tracked (enable : Bool) :
    (IGHardwareContext.initRingControl env that enable s).state =
      s.modify (some e) fun r => (EngineEvent.ringControl enable).next (verdict env e) r := by
  simp only [IGHardwareContext.initRingControl, he]
  refine unlessBlocked fun _ => ?_
  cases enable with
  | false => rfl
  | true =>
      -- the ring is marked ready, by this call or before
      have hready : (if (some e).any fun e => true && !(s.record e).ringReady then
          markTrackedEngineRingReady (some e) s else s) =
          markTrackedEngineRingReady (some e) s := by
        split
        · rfl
        · rename_i h
          have hr : (s.record e).ringReady = true := by simpa using h
          refine (modify_fixed ?_).symm
          rw [← hr]
      simp only [hready, if_true]
      rw [evaluate_eq, markTrackedEngineControlReady, markTrackedEngineRingReady,
        modify_modify, modify_modify]

theorem updateRingTail_tracked (tail : BitVec 32) :
    (IGHardwareContext.updateRingTail env that tail s).state =
      s.modify (some e) fun r => (EngineEvent.ringTail tail).next (verdict env e) r := by
  simp only [IGHardwareContext.updateRingTail, he]
  refine unlessBlocked fun _ => ?_
  cases hr : (s.record e).ringReady with
  | false =>
      simp only [Option.any_some, hr, Bool.not_false, if_true, Outcome.blocked]
      refine modify_congr ?_
      simp only [hr, Bool.false_eq_true, if_false]
  | true =>
      simp only [Option.any_some, hr, Bool.not_true, Bool.false_eq_true, if_false]
      rw [evaluate_eq, markTrackedEngineSubmitted, modify_modify, modify_modify]
      refine modify_congr ?_
      simp only [hr, if_true]

theorem initWithOptions_tracked :
    (IGHardwareExtendedContext.initWithOptions env that s).state =
      s.modify (some e) fun r => EngineEvent.contextInit.next (verdict env e) r := by
  simp only [IGHardwareExtendedContext.initWithOptions, he]
  rfl

end Tracked

theorem submitToRing_tracked (env : CallEnv) (s : BringupState) {e : Engine}
    {that : Option IGHardwareRingBuffer} (he : getTrackedEngineFromRingBuffer that = some e) :
    (IGHardwareRingBuffer.submitToRing env that s).state =
      s.modify (some e) fun r => EngineEvent.submit.next (verdict env e) r := by
  simp only [IGHardwareRingBuffer.submitToRing, he]
  refine unlessBlocked fun _ => ?_
  cases hc : (s.record e).controlReady with
  | false =>
      simp only [Option.any_some, hc, Bool.not_false, if_true, Outcome.blocked]
      refine modify_congr ?_
      simp only [hc, Bool.false_eq_true, if_false]
  | true =>
      simp only [Option.any_some, hc, Bool.not_true, Bool.false_eq_true, if_false,
        markTrackedEngineSubmitted, record_modify, if_true]
      cases hp : (s.record e).smokePassed with
      | false =>
          simp only [Bool.not_false, if_true]
          rw [evaluate_eq, modify_modify]
          refine modify_congr ?_
          simp only [hc, hp, if_true, Bool.false_eq_true, if_false]
      | true =>
          simp only [Bool.not_true, Bool.false_eq_true, if_false]
          refine modify_congr ?_
          simp only [hc, hp, if_true]

theorem submitGuarded_tracked (env : CallEnv) (s : BringupState) :
    (IGHardwareCommandStreamer.submitGuarded env s).state =
      s.modify (some .rcs) fun r =>
        (if shouldUseSpoofedSafeSchedulerPolicy env && s.bcs.quarantined then EngineEvent.idle
          else EngineEvent.execList).next (verdict env .rcs) r := by
  rw [IGHardwareCommandStreamer.submitGuarded]
  split
  · exact (modify_fixed rfl).symm
  · cases hp : s.rcs.smokePassed with
    | false =>
        simp only [Bool.not_false, if_true]
        rw [evaluate_eq]
        refine modify_congr ?_
        have hp' : (s.record .rcs).smokePassed = false := hp
        simp only [EngineEvent.next, hp', Bool.false_eq_true, if_false]
    | true =>
        have hp' : (s.record .rcs).smokePassed = true := hp
        simp only [Bool.not_true, Bool.false_eq_true, if_false]
        refine (modify_fixed ?_).symm
        simp only [EngineEvent.next, hp', if_true]

/-- A hook call for a tracked engine is its event, applied to that engine's record. -/
theorem exec_tracked (env : CallEnv) (c : HookCall) (s : BringupState) {e : Engine}
    (he : c.engine = some e) :
    (c.exec env s).state =
      s.modify (some e) fun r => (c.event env s).next (verdict env e) r := by
  cases c with
  | initRingGPUVirtualAddress that => exact initRingGPUVirtualAddress_tracked env s he
  | initRingRegisters that => exact initRingRegisters_tracked env s he
  | initRingControl that enable => exact initRingControl_tracked env s he enable
  | resetRingHead that => exact resetRingHead_tracked env s he
  | updateRingTail that tail => exact updateRingTail_tracked env s he tail
  | ringBufferInit context =>
      refine Eq.trans ?_ (modify_fixed rfl).symm
      simp only [HookCall.exec, IGHardwareRingBuffer.init]
      split
      · rfl
      · split <;> rfl
  | submitToRing that => exact submitToRing_tracked env s he
  | initWithOptions that => exact initWithOptions_tracked env s he
  | submitExecList stamp =>
      obtain rfl := Option.some.inj he
      exact submitGuarded_tracked env s
  | prepareExecListAndSubmit arg1 arg2 =>
      obtain rfl := Option.some.inj he
      exact submitGuarded_tracked env s

/-- A hook call for an untracked engine changes no record. -/
theorem exec_untracked (env : CallEnv) (c : HookCall) (s : BringupState) (he : c.engine = none) :
    (c.exec env s).state = s := by
  cases c with
  | initRingGPUVirtualAddress that | initRingRegisters that | resetRingHead that =>
      have he' : getTrackedEngineFromContext that = none := he
      simp only [HookCall.exec, IGHardwareContext.initRingGPUVirtualAddress,
        IGHardwareContext.initRingRegisters, IGHardwareContext.resetRingHead, he']
      rfl
  | initRingControl that enable =>
      have he' : getTrackedEngineFromContext that = none := he
      simp only [HookCall.exec, IGHardwareContext.initRingControl, he']
      cases enable <;> rfl
  | updateRingTail that tail =>
      have he' : getTrackedEngineFromContext that = none := he
      simp only [HookCall.exec, IGHardwareContext.updateRingTail, he']
      rfl
  | ringBufferInit context =>
      simp only [HookCall.exec, IGHardwareRingBuffer.init]
      split
      · rfl
      · split <;> rfl
  | submitToRing that =>
      have he' : getTrackedEngineFromRingBuffer that = none := he
      simp only [HookCall.exec, IGHardwareRingBuffer.submitToRing, he']
      rfl
  | initWithOptions that =>
      have he' : getTrackedEngineFromContext that = none := he
      simp only [HookCall.exec, IGHardwareExtendedContext.initWithOptions, he']
      rfl
  | submitExecList stamp => exact nomatch he
  | prepareExecListAndSubmit arg1 arg2 => exact nomatch he

/-- The refinement: each engine's record after a call. -/
theorem exec_record (env : CallEnv) (c : HookCall) (s : BringupState) (e : Engine) :
    (c.exec env s).state.record e =
      if c.engine = some e then (c.event env s).next (verdict env e) (s.record e)
      else s.record e := by
  cases he : c.engine with
  | none =>
      rw [exec_untracked env c s he]
      rfl
  | some e' =>
      rw [exec_tracked env c s he, record_modify]
      split
      · obtain rfl := Option.some.inj ‹_›
        rfl
      · rfl

end NootedGreen

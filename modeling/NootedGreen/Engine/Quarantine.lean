/-
# `Engine.Quarantine` — what holds over every sequence of hook calls

Four results on the bring-up state, each one about the automaton of
`Engine.Lifecycle` first and lifted to runs of hook calls through `exec_record`.

    quarantine_absorbing    a quarantined engine stays so, its ring state is frozen and
                            Apple's ring functions are no longer called for it
    bringup_ordering        what is marked, is marked in order; the engines are isolated
    healthy_iff             passed and quarantined exclude each other exactly on the runs
                            that avoid four situations
    recheck_never_fails     on real TGL the deferred smoke test never quarantines the
                            render engine, however dead its ring is

The last two are where the code does not do what its comments say.  Only three of
the five evaluations are skipped once the test has passed, and `submitToRing`
quarantines without asking for the verdict at all; the V90 deferral looks at the
platform alone and not at how far initialisation has come.
-/
import NootedGreen.Engine.Lifecycle
import NootedGreen.Lib.Runs

namespace NootedGreen

open BringupState

/-! ## Settling a verdict -/

namespace EngineState

variable (r : EngineState) (v : Verdict)

@[simp] theorem settle_contextSeen : (r.settle v).contextSeen = r.contextSeen := by
  cases v <;> rfl

@[simp] theorem settle_ringReady : (r.settle v).ringReady = r.ringReady := by
  cases v <;> rfl

@[simp] theorem settle_controlReady : (r.settle v).controlReady = r.controlReady := by
  cases v <;> rfl

@[simp] theorem settle_submitted : (r.settle v).submitted = r.submitted := by
  cases v <;> rfl

@[simp] theorem settle_lastTail : (r.settle v).lastTail = r.lastTail := by
  cases v <;> rfl

@[simp] theorem settle_smokePassed :
    (r.settle v).smokePassed = (r.smokePassed || v == .pass) := by
  cases v with
  | pass => exact (Bool.or_true _).symm
  | fail | undecided => exact (Bool.or_false _).symm

@[simp] theorem settle_quarantined :
    (r.settle v).quarantined = (r.quarantined || v == .fail) := by
  cases v with
  | fail => exact (Bool.or_true _).symm
  | pass | undecided => exact (Bool.or_false _).symm

end EngineState

/-- A pass needs a context, a ring and its control. -/
theorem verdict_pass_iff (env : CallEnv) (e : Engine) (r : EngineState) :
    verdict env e r = .pass ↔
      env.mmioReady = true ∧ r.contextSeen = true ∧ r.ringReady = true ∧ r.controlReady = true ∧
        env.ringAlive e = true := by
  rw [verdict]
  cases env.mmioReady <;> cases r.contextSeen <;> cases r.ringReady <;> cases r.controlReady <;>
    cases env.ringAlive e <;> cases env.isRealTGL <;> cases e <;> decide

/-- The platforms and moments at which the smoke test cannot fail. -/
def CallEnv.CannotFail (env : CallEnv) (e : Engine) : Prop :=
  env.mmioReady = false ∨ env.isRealTGL = true ∧ e = .rcs

theorem verdict_fail_iff (env : CallEnv) (e : Engine) (r : EngineState) :
    verdict env e r = .fail ↔
      ¬ env.CannotFail e ∧
        ¬ (r.contextSeen = true ∧ r.ringReady = true ∧ r.controlReady = true ∧
          env.ringAlive e = true) := by
  rw [verdict, CallEnv.CannotFail]
  cases env.mmioReady <;> cases r.contextSeen <;> cases r.ringReady <;> cases r.controlReady <;>
    cases env.ringAlive e <;> cases env.isRealTGL <;> cases e <;> decide

/-! ## Quarantine is absorbing -/

/-- The part of a record quarantine freezes. -/
structure EngineState.FrozenAs (r₀ r : EngineState) : Prop where
  quarantined : r.quarantined = true
  ringReady : r.ringReady = r₀.ringReady
  controlReady : r.controlReady = r₀.controlReady
  submitted : r.submitted = r₀.submitted
  lastTail : r.lastTail = r₀.lastTail

theorem next_frozen {judge : EngineState → Verdict} {r₀ r : EngineState} (h : r₀.FrozenAs r)
    (ev : EngineEvent) : r₀.FrozenAs (ev.next judge r) := by
  obtain ⟨hq, hr, hc, hs, ht⟩ := h
  cases ev with
  | idle => exact ⟨hq, hr, hc, hs, ht⟩
  | contextInit => exact ⟨hq, hr, hc, hs, ht⟩
  | gpuVirtualAddress | ringRegisters | ringControl | ringHead | ringTail | submit =>
      simp only [EngineEvent.next, hq, if_true]
      exact ⟨hq, hr, hc, hs, ht⟩
  | execList =>
      rw [EngineEvent.next]
      split
      · exact ⟨hq, hr, hc, hs, ht⟩
      · constructor <;> simp [*]

/-- The seven hooks on rings and contexts that ask whether the engine is blocked. -/
def HookCall.isRingHook : HookCall → Bool
  | .initWithOptions _ | .submitExecList _ | .prepareExecListAndSubmit _ _ => false
  | _ => true

theorem exec_blocked {env : CallEnv} {c : HookCall} {s : BringupState} {e : Engine}
    (hc : c.isRingHook = true) (he : c.engine = some e) (hq : (s.record e).quarantined = true) :
    (c.exec env s).calledOriginal = false := by
  have hblock : shouldBlockTrackedEngine (some e) s = true := hq
  cases c with
  | initRingGPUVirtualAddress that | initRingRegisters that | initRingControl that enable
  | resetRingHead that | updateRingTail that tail | ringBufferInit that =>
      have he' : getTrackedEngineFromContext that = some e := he
      simp only [HookCall.exec, IGHardwareContext.initRingGPUVirtualAddress,
        IGHardwareContext.initRingRegisters, IGHardwareContext.initRingControl,
        IGHardwareContext.resetRingHead, IGHardwareContext.updateRingTail,
        IGHardwareRingBuffer.init, Outcome.blocked, he', hblock, if_true]
  | submitToRing that =>
      have he' : getTrackedEngineFromRingBuffer that = some e := he
      simp only [HookCall.exec, IGHardwareRingBuffer.submitToRing, Outcome.blocked, he', hblock,
        if_true]
  | initWithOptions that => exact absurd hc Bool.false_ne_true
  | submitExecList stamp => exact absurd hc Bool.false_ne_true
  | prepareExecListAndSubmit arg1 arg2 => exact absurd hc Bool.false_ne_true

theorem exec_untracked_calls {env : CallEnv} {c : HookCall} (s : BringupState)
    (hc : c.isRingHook = true) (he : c.engine = none) :
    (c.exec env s).calledOriginal = env.originalInstalled := by
  cases c with
  | initRingGPUVirtualAddress that | initRingRegisters that | initRingControl that enable
  | resetRingHead that | updateRingTail that tail =>
      have he' : getTrackedEngineFromContext that = none := he
      simp only [HookCall.exec, IGHardwareContext.initRingGPUVirtualAddress,
        IGHardwareContext.initRingRegisters, IGHardwareContext.initRingControl,
        IGHardwareContext.resetRingHead, IGHardwareContext.updateRingTail, he',
        shouldBlockTrackedEngine, Option.any_none, Bool.false_eq_true, if_false]
  | ringBufferInit context =>
      have he' : getTrackedEngineFromContext context = none := he
      simp only [HookCall.exec, IGHardwareRingBuffer.init, he', shouldBlockTrackedEngine,
        Bool.false_eq_true, if_false]
      cases env.originalInstalled <;> rfl
  | submitToRing that =>
      have he' : getTrackedEngineFromRingBuffer that = none := he
      simp only [HookCall.exec, IGHardwareRingBuffer.submitToRing, he', shouldBlockTrackedEngine,
        Option.any_none, Bool.false_eq_true, if_false]
  | initWithOptions that => exact absurd hc Bool.false_ne_true
  | submitExecList stamp => exact absurd hc Bool.false_ne_true
  | prepareExecListAndSubmit arg1 arg2 => exact absurd hc Bool.false_ne_true

/-- Once an engine is quarantined: it stays so and its ring state is frozen, no ring hook
calls its original for it, and `IGHardwareRingBuffer::init` returns false.  Untracked
engines are never blocked. -/
theorem quarantine_absorbing {s : BringupState} {e : Engine}
    (hq : (s.record e).quarantined = true) (calls : List (CallEnv × HookCall)) :
    (∀ t ∈ Runs.states bringupStep calls s,
      (s.record e).FrozenAs (t.record e) ∧
      (∀ (env : CallEnv) (c : HookCall), c.isRingHook = true → c.engine = some e →
        (c.exec env t).calledOriginal = false) ∧
      (∀ (env : CallEnv) (context : Option IGHardwareContext),
        getTrackedEngineFromContext context = some e →
          (IGHardwareRingBuffer.init env context t).ret = some 0)) ∧
    (∀ (t : BringupState) (env : CallEnv) (c : HookCall), c.isRingHook = true →
      c.engine = none → (c.exec env t).calledOriginal = env.originalInstalled) := by
  have hfrozen : ∀ t ∈ Runs.states bringupStep calls s, (s.record e).FrozenAs (t.record e) := by
    refine Runs.states_of_inv ?_ calls s ⟨hq, rfl, rfl, rfl, rfl⟩
    intro c t ht
    rw [bringupStep, exec_record]
    split
    · exact next_frozen ht _
    · exact ht
  refine ⟨fun t ht => ⟨hfrozen t ht, ?_, ?_⟩, fun t env c => exec_untracked_calls t⟩
  · intro env c hc he
    exact exec_blocked hc he (hfrozen t ht).quarantined
  · intro env context he
    have hblock : shouldBlockTrackedEngine (some e) t = true := (hfrozen t ht).quarantined
    simp only [IGHardwareRingBuffer.init, he, hblock, if_true]

/-- A call environment with every register reading `reading`. -/
def CallEnv.reading (isRealTGL : Bool) (reading : BitVec 32) : CallEnv :=
  ⟨true, isRealTGL, true, fun _ => reading, true, 1⟩

/-- A context of the blitter, and one of the render engine. -/
def bcsContext : Option IGHardwareContext := some ⟨some ⟨2⟩⟩

def rcsContext : Option IGHardwareContext := some ⟨some ⟨0⟩⟩

/-- A tail update before the ring is ready. -/
def earlyTail : BringupState :=
  bringupStep (.reading true 1, .updateRingTail bcsContext 8) .initial

/-- It quarantines the blitter for good. -/
theorem quarantine_absorbing_earlyTail :
    earlyTail.bcs.quarantined = true ∧
    EngineState.FrozenAs earlyTail.bcs (Runs.run bringupStep
      [(.reading true 1, .initRingRegisters bcsContext),
        (.reading true 1, .initRingControl bcsContext true), (.reading true 1, .submitExecList 7)]
      earlyTail).bcs := by
  have hq : (earlyTail.record .bcs).quarantined = true := by decide
  exact ⟨hq, ((quarantine_absorbing hq _).1 _ (Runs.run_mem_states _ _ _)).1⟩

/-! ## Marked in order -/

/-- What a flag of a record relies on. -/
structure EngineState.Ordered (r : EngineState) : Prop where
  controlReady : r.controlReady = true → r.ringReady = true
  submitted : r.submitted = true → r.ringReady = true
  lastTail : r.lastTail ≠ 0 → r.ringReady = true
  smokePassed : r.smokePassed = true → r.contextSeen = true ∧ r.ringReady = true

theorem initial_ordered : EngineState.initial.Ordered := by
  constructor <;> intro h <;> exact absurd h (by decide)

/-- A pass is given to records with a context and a ring only. -/
def PassesOrdered (judge : EngineState → Verdict) : Prop :=
  ∀ r, judge r = .pass → r.contextSeen = true ∧ r.ringReady = true

theorem verdict_passesOrdered (env : CallEnv) (e : Engine) : PassesOrdered (verdict env e) := by
  intro r h
  obtain ⟨-, hcontext, hring, -, -⟩ := (verdict_pass_iff env e r).mp h
  exact ⟨hcontext, hring⟩

theorem settle_ordered {judge : EngineState → Verdict} (hj : PassesOrdered judge)
    {r : EngineState} (h : r.Ordered) : (r.settle (judge r)).Ordered := by
  refine ⟨?_, ?_, ?_, ?_⟩
  · simpa using h.controlReady
  · simpa using h.submitted
  · simpa using h.lastTail
  · intro hpass
    rw [EngineState.settle_smokePassed, Bool.or_eq_true, beq_iff_eq] at hpass
    rw [EngineState.settle_contextSeen, EngineState.settle_ringReady]
    rcases hpass with hpass | hpass
    · exact h.smokePassed hpass
    · exact hj r hpass

theorem next_ordered {judge : EngineState → Verdict} (hj : PassesOrdered judge)
    {r : EngineState} (h : r.Ordered) (ev : EngineEvent) : (ev.next judge r).Ordered := by
  cases ev with
  | idle => exact h
  | contextInit =>
      exact ⟨h.controlReady, h.submitted, h.lastTail, fun hp => ⟨rfl, (h.smokePassed hp).2⟩⟩
  | gpuVirtualAddress =>
      rw [EngineEvent.next]
      split
      · exact h
      · exact ⟨h.controlReady, h.submitted, h.lastTail, fun hp => ⟨rfl, (h.smokePassed hp).2⟩⟩
  | ringRegisters =>
      rw [EngineEvent.next]
      split
      · exact h
      · exact ⟨fun _ => rfl, fun _ => rfl, fun _ => rfl, fun hp => ⟨(h.smokePassed hp).1, rfl⟩⟩
  | ringControl enable =>
      rw [EngineEvent.next]
      split
      · exact h
      · split
        · refine settle_ordered hj ⟨fun _ => rfl, fun _ => rfl, fun _ => rfl, fun hp => ?_⟩
          exact ⟨(h.smokePassed hp).1, rfl⟩
        · exact ⟨fun hc => absurd hc Bool.false_ne_true, h.submitted, h.lastTail, h.smokePassed⟩
  | ringHead =>
      rw [EngineEvent.next]
      split
      · exact h
      · exact ⟨h.controlReady, fun hs => absurd hs Bool.false_ne_true, h.lastTail, h.smokePassed⟩
  | ringTail tail =>
      rw [EngineEvent.next]
      split
      · exact h
      · split
        · rename_i hring
          exact settle_ordered hj ⟨h.controlReady, fun _ => hring, fun _ => hring, h.smokePassed⟩
        · exact ⟨h.controlReady, h.submitted, h.lastTail, h.smokePassed⟩
  | submit =>
      rw [EngineEvent.next]
      split
      · exact h
      · split
        · rename_i hcontrol
          have hmarked : ({ r with submitted := true } : EngineState).Ordered :=
            ⟨h.controlReady, fun _ => h.controlReady hcontrol, h.lastTail, h.smokePassed⟩
          dsimp only
          split
          · exact hmarked
          · exact settle_ordered hj hmarked
        · exact ⟨h.controlReady, h.submitted, h.lastTail, h.smokePassed⟩
  | execList =>
      rw [EngineEvent.next]
      split
      · exact h
      · exact settle_ordered hj h

/-- The flags that are never taken back. -/
structure EngineState.Grows (r r' : EngineState) : Prop where
  contextSeen : r.contextSeen = true → r'.contextSeen = true
  ringReady : r.ringReady = true → r'.ringReady = true
  smokePassed : r.smokePassed = true → r'.smokePassed = true

theorem settle_grows (r : EngineState) (v : Verdict) : r.Grows (r.settle v) := by
  refine ⟨?_, ?_, ?_⟩ <;> intro h <;> simp [h]

theorem next_grows (judge : EngineState → Verdict) (r : EngineState) (ev : EngineEvent) :
    r.Grows (ev.next judge r) := by
  have hrefl : r.Grows r := ⟨id, id, id⟩
  cases ev with
  | idle => exact hrefl
  | contextInit => exact ⟨fun _ => rfl, id, id⟩
  | gpuVirtualAddress | ringRegisters | ringHead =>
      rw [EngineEvent.next]
      split
      · exact hrefl
      · constructor <;> intro h <;> first | exact h | rfl
  | ringControl _ | ringTail _ =>
      rw [EngineEvent.next]
      split
      · exact hrefl
      · split
        · constructor <;> intro h <;> simp [h]
        · exact ⟨id, id, id⟩
  | submit =>
      rw [EngineEvent.next]
      split
      · exact hrefl
      · split
        · dsimp only
          split
          · exact ⟨id, id, id⟩
          · constructor <;> intro h <;> simp [h]
        · exact ⟨id, id, id⟩
  | execList =>
      rw [EngineEvent.next]
      split
      · exact hrefl
      · exact settle_grows r _

theorem step_ordered (c : CallEnv × HookCall) (s : BringupState)
    (hs : ∀ e, (s.record e).Ordered) : ∀ e, ((bringupStep c s).record e).Ordered := by
  intro e
  rw [bringupStep, exec_record]
  split
  · exact next_ordered (verdict_passesOrdered c.1 e) (hs e) _
  · exact hs e

theorem states_ordered (calls : List (CallEnv × HookCall)) :
    ∀ t ∈ Runs.states bringupStep calls .initial, ∀ e, (t.record e).Ordered := by
  refine Runs.states_of_inv step_ordered calls .initial fun e => ?_
  cases e <;> exact initial_ordered

theorem step_grows (c : CallEnv × HookCall) (s : BringupState) (e : Engine) :
    (s.record e).Grows ((bringupStep c s).record e) := by
  rw [bringupStep, exec_record]
  split
  · exact next_grows _ _ _
  · exact ⟨id, id, id⟩

/-- The two flags the exec-list hooks may change. -/
theorem submitGuarded_effect (env : CallEnv) (s : BringupState) :
    ∃ smokePassed quarantined, (IGHardwareCommandStreamer.submitGuarded env s).state =
      { s with rcs := { s.rcs with smokePassed := smokePassed, quarantined := quarantined } } := by
  rw [submitGuarded_tracked]
  split
  · exact ⟨s.rcs.smokePassed, s.rcs.quarantined, rfl⟩
  · simp only [EngineEvent.next, BringupState.modify]
    split
    · exact ⟨s.rcs.smokePassed, s.rcs.quarantined, rfl⟩
    · cases verdict env .rcs s.rcs with
      | pass => exact ⟨true, s.rcs.quarantined, rfl⟩
      | fail => exact ⟨s.rcs.smokePassed, true, rfl⟩
      | undecided => exact ⟨s.rcs.smokePassed, s.rcs.quarantined, rfl⟩

/-- From the initial state every reachable record is marked in order; context, ring and
verdict are never taken back; a call leaves every engine but its own alone, and the
exec-list hooks touch nothing but the render engine's verdict and quarantine. -/
theorem bringup_ordering :
    (∀ (calls : List (CallEnv × HookCall)), ∀ t ∈ Runs.states bringupStep calls .initial,
      ∀ e, (t.record e).Ordered) ∧
    (∀ (calls : List (CallEnv × HookCall)) (s : BringupState) (e : Engine),
      (s.record e).Grows ((Runs.run bringupStep calls s).record e)) ∧
    (∀ (c : CallEnv × HookCall) (s : BringupState) (e : Engine), c.2.engine ≠ some e →
      (bringupStep c s).record e = s.record e) ∧
    (∀ (env : CallEnv) (s : BringupState) (c : HookCall),
      (∃ stamp, c = .submitExecList stamp) ∨
          (∃ arg1 arg2, c = .prepareExecListAndSubmit arg1 arg2) →
        ∃ smokePassed quarantined, (c.exec env s).state =
          { s with
            rcs := { s.rcs with smokePassed := smokePassed, quarantined := quarantined } }) := by
  refine ⟨states_ordered, fun calls s e => ?_, fun c s e he => ?_, ?_⟩
  · refine Runs.run_rel (R := fun s t => (s.record e).Grows (t.record e)) (fun _ => ⟨id, id, id⟩)
      ?_ (fun c s => step_grows c s e) calls s
    intro s t u hst htu
    exact ⟨htu.contextSeen ∘ hst.contextSeen, htu.ringReady ∘ hst.ringReady,
      htu.smokePassed ∘ hst.smokePassed⟩
  · rw [bringupStep, exec_record, if_neg he]
  · rintro env s c (⟨stamp, rfl⟩ | ⟨arg1, arg2, rfl⟩)
    · exact submitGuarded_effect env s
    · exact submitGuarded_effect env s

/-- A failing evaluation of the blitter leaves the render engine as it was. -/
theorem bringup_ordering_isolated :
    (bringupStep (.reading false 0, .updateRingTail bcsContext 8) .initial).record .rcs =
      EngineState.initial :=
  bringup_ordering.2.2.1 _ _ _ (by decide)

/-! ## Passed and quarantined -/

/-- The engine has not both passed its smoke test and been quarantined. -/
def EngineState.Healthy (r : EngineState) : Prop :=
  ¬ (r.smokePassed = true ∧ r.quarantined = true)

theorem EngineState.healthy_of_smokePassed {r : EngineState} (h : r.smokePassed = false) :
    r.Healthy :=
  fun hr => Bool.false_ne_true (h.symm.trans hr.1)

theorem EngineState.healthy_of_quarantined {r : EngineState} (h : r.quarantined = false) :
    r.Healthy :=
  fun hr => Bool.false_ne_true (h.symm.trans hr.2)

/-- The event does not bring a verdict and a quarantine together.  Four situations do: a
second evaluation of an engine that has passed fails, when its control is enabled
again or its tail moves; a submission after control was withdrawn from it; and an
exec-list evaluation passing a quarantined engine. -/
def EngineEvent.KeepsVerdict (env : CallEnv) (e : Engine) (r : EngineState) :
    EngineEvent → Prop
  | .ringControl enable =>
      enable = false ∨ r.quarantined = true ∨ r.smokePassed = false ∨ env.CannotFail e ∨
        env.ringAlive e = true
  | .ringTail _ =>
      r.quarantined = true ∨ r.smokePassed = false ∨ env.CannotFail e ∨
        r.controlReady = true ∧ env.ringAlive e = true
  | .submit => r.quarantined = true ∨ r.smokePassed = false ∨ r.controlReady = true
  | .execList =>
      r.quarantined = false ∨ r.smokePassed = true ∨ env.mmioReady = false ∨
        ¬ (r.contextSeen = true ∧ r.ringReady = true ∧ r.controlReady = true ∧
          env.ringAlive e = true)
  | .idle | .contextInit | .gpuVirtualAddress | .ringRegisters | .ringHead => True

def HookCall.KeepsVerdict (c : CallEnv × HookCall) (s : BringupState) : Prop :=
  ∀ e, c.2.engine = some e → (c.2.event c.1 s).KeepsVerdict c.1 e (s.record e)

/-- A verdict makes a record that is not quarantined unhealthy by failing one that has
passed. -/
theorem settle_healthy_iff {r : EngineState} (hq : r.quarantined = false) (v : Verdict) :
    (r.settle v).Healthy ↔ ¬ (r.smokePassed = true ∧ v = .fail) := by
  rw [EngineState.Healthy, EngineState.settle_smokePassed, EngineState.settle_quarantined, hq]
  cases v <;> simp

/-- The automaton on a quarantined record. -/
theorem next_healthy_iff_of_quarantined (env : CallEnv) (e : Engine) {r : EngineState}
    (hh : r.Healthy) (hq : r.quarantined = true) (ev : EngineEvent) :
    (ev.next (verdict env e) r).Healthy ↔ ev.KeepsVerdict env e r := by
  have hp : r.smokePassed = false := by
    rw [← Bool.not_eq_true]
    exact fun hp => hh ⟨hp, hq⟩
  cases ev with
  | idle | contextInit => exact iff_of_true hh trivial
  | gpuVirtualAddress | ringRegisters | ringHead =>
      rw [EngineEvent.next, if_pos hq]
      exact iff_of_true hh trivial
  | ringControl enable =>
      rw [EngineEvent.next, if_pos hq]
      exact iff_of_true hh (.inr (.inl hq))
  | ringTail tail | submit =>
      rw [EngineEvent.next, if_pos hq]
      exact iff_of_true hh (.inl hq)
  | execList =>
      -- evaluated all the same: a pass is what must not come out
      rw [EngineEvent.next, if_neg (by rw [hp]; decide)]
      have hpass : (r.settle (verdict env e r)).Healthy ↔ ¬ verdict env e r = .pass := by
        rw [EngineState.Healthy, EngineState.settle_smokePassed, EngineState.settle_quarantined,
          hp, hq]
        simp
      rw [hpass, verdict_pass_iff]
      dsimp only [EngineEvent.KeepsVerdict]
      rw [hp, hq]
      cases env.mmioReady <;> simp

/-- The automaton on a record that is not quarantined. -/
theorem next_healthy_iff_of_running (env : CallEnv) (e : Engine) {r : EngineState}
    (ho : r.Ordered) (hq : r.quarantined = false) (ev : EngineEvent) :
    (ev.next (verdict env e) r).Healthy ↔ ev.KeepsVerdict env e r := by
  have hrun : ¬ r.quarantined = true := by
    rw [hq]
    decide
  have hh : r.Healthy := EngineState.healthy_of_quarantined hq
  cases ev with
  | idle => exact iff_of_true hh trivial
  | contextInit => exact iff_of_true (EngineState.healthy_of_quarantined hq) trivial
  | gpuVirtualAddress | ringRegisters | ringHead =>
      rw [EngineEvent.next, if_neg hrun]
      exact iff_of_true (EngineState.healthy_of_quarantined hq) trivial
  | ringControl enable =>
      rw [EngineEvent.next, if_neg hrun]
      cases enable with
      | false => exact iff_of_true (EngineState.healthy_of_quarantined hq) (.inl rfl)
      | true =>
          rw [if_pos rfl]
          refine (settle_healthy_iff (by exact hq) _).trans ?_
          rw [verdict_fail_iff]
          dsimp only [EngineEvent.KeepsVerdict]
          cases hp : r.smokePassed with
          | false => simp
          | true =>
              obtain ⟨hcontext, -⟩ := ho.smokePassed hp
              rw [hq, hcontext]
              tauto
  | ringTail tail =>
      rw [EngineEvent.next, if_neg hrun]
      dsimp only [EngineEvent.KeepsVerdict]
      by_cases hp : r.smokePassed = true
      · obtain ⟨hcontext, hring⟩ := ho.smokePassed hp
        rw [if_pos hring]
        refine (settle_healthy_iff (by exact hq) _).trans ?_
        rw [verdict_fail_iff]
        dsimp only
        rw [hq, hp, hcontext, hring]
        tauto
      · have hp' : r.smokePassed = false := Bool.eq_false_iff.mpr hp
        refine iff_of_true ?_ (.inr (.inl hp'))
        split
        · exact (settle_healthy_iff (by exact hq) _).mpr fun h => hp h.1
        · exact EngineState.healthy_of_smokePassed hp'
  | submit =>
      rw [EngineEvent.next, if_neg hrun]
      dsimp only [EngineEvent.KeepsVerdict]
      by_cases hp : r.smokePassed = true
      · cases hc : r.controlReady with
        | false =>
            refine iff_of_false (fun h => h ⟨hp, rfl⟩) ?_
            simp [hq, hp]
        | true =>
            refine iff_of_true ?_ (.inr (.inr rfl))
            rw [if_pos rfl, if_pos hp]
            exact EngineState.healthy_of_quarantined hq
      · have hp' : r.smokePassed = false := Bool.eq_false_iff.mpr hp
        refine iff_of_true ?_ (.inr (.inl hp'))
        split
        · exact (settle_healthy_iff (by exact hq) _).mpr fun h => hp h.1
        · exact EngineState.healthy_of_smokePassed hp'
  | execList =>
      rw [EngineEvent.next]
      refine iff_of_true ?_ (.inl hq)
      split
      · exact hh
      · rename_i hp
        exact (settle_healthy_iff (by exact hq) _).mpr fun h => hp h.1

theorem next_healthy_iff (env : CallEnv) (e : Engine) {r : EngineState} (ho : r.Ordered)
    (hh : r.Healthy) (ev : EngineEvent) :
    (ev.next (verdict env e) r).Healthy ↔ ev.KeepsVerdict env e r := by
  cases hq : r.quarantined with
  | true => exact next_healthy_iff_of_quarantined env e hh hq ev
  | false => exact next_healthy_iff_of_running env e ho hq ev

theorem step_healthy_iff (c : CallEnv × HookCall) (s : BringupState)
    (hs : ∀ e, (s.record e).Ordered ∧ (s.record e).Healthy) :
    (∀ e, ((bringupStep c s).record e).Ordered ∧ ((bringupStep c s).record e).Healthy) ↔
      HookCall.KeepsVerdict c s := by
  have hstep : ∀ e, c.2.engine = some e → ((bringupStep c s).record e).Healthy =
      ((c.2.event c.1 s).next (verdict c.1 e) (s.record e)).Healthy := by
    intro e he
    rw [bringupStep, exec_record, if_pos he]
  constructor
  · intro h e he
    rw [← next_healthy_iff c.1 e (hs e).1 (hs e).2, ← hstep e he]
    exact (h e).2
  · intro h e
    refine ⟨step_ordered c s (fun e => (hs e).1) e, ?_⟩
    by_cases he : c.2.engine = some e
    · rw [hstep e he, next_healthy_iff c.1 e (hs e).1 (hs e).2]
      exact h e he
    · rw [bringupStep, exec_record, if_neg he]
      exact (hs e).2

/-- Over every run from the initial state: no state reached has an engine both passed and
quarantined, exactly when every call avoids the four situations of `KeepsVerdict`. -/
theorem healthy_iff (calls : List (CallEnv × HookCall)) :
    (∀ t ∈ Runs.states bringupStep calls .initial, ∀ e,
      ¬ ((t.record e).smokePassed = true ∧ (t.record e).quarantined = true)) ↔
    Runs.Guarded bringupStep HookCall.KeepsVerdict calls .initial := by
  have hinit : ∀ e, (BringupState.initial.record e).Ordered ∧
      (BringupState.initial.record e).Healthy := by
    intro e
    cases e <;> exact ⟨initial_ordered, EngineState.healthy_of_smokePassed rfl⟩
  rw [← Runs.states_iff_guarded step_healthy_iff calls .initial hinit]
  constructor
  · intro h t ht e
    exact ⟨states_ordered calls t ht e, h t ht e⟩
  · intro h t ht e
    exact (h t ht e).2

/-- The blitter passes its smoke test, then its tail moves while the registers read zero. -/
def relapse : List (CallEnv × HookCall) :=
  [(.reading true 1, .initWithOptions bcsContext), (.reading true 1, .initRingRegisters bcsContext),
    (.reading true 1, .initRingControl bcsContext true),
    (.reading true 0, .updateRingTail bcsContext 8)]

theorem passed_blitter_quarantined :
    (Runs.run bringupStep relapse .initial).bcs.smokePassed = true ∧
      (Runs.run bringupStep relapse .initial).bcs.quarantined = true := by
  decide

/-! ## The deferred smoke test -/

/-- The situation the V90 comment speaks of: a run on real TGL, the render engine fully
initialised, its registers programmed by `initRingRegisters`, and its smoke test still
open. -/
structure AwaitsRecheck (calls : List (CallEnv × HookCall)) (s : BringupState) : Prop where
  reached : s = Runs.run bringupStep calls .initial
  platform : ∀ c ∈ calls, c.1.isRealTGL = true
  ringRegisters : ∃ c ∈ calls, ∃ that, c.2 = .initRingRegisters that ∧
    getTrackedEngineFromContext that = some .rcs
  quarantined : s.rcs.quarantined = false
  smokePassed : s.rcs.smokePassed = false
  contextSeen : s.rcs.contextSeen = true
  ringReady : s.rcs.ringReady = true
  controlReady : s.rcs.controlReady = true

/-- A call that evaluates the render engine again. -/
def HookCall.rechecksRcs : HookCall → Bool
  | .updateRingTail that _ => getTrackedEngineFromContext that == some .rcs
  | .submitToRing that => getTrackedEngineFromRingBuffer that == some .rcs
  | .submitExecList _ | .prepareExecListAndSubmit _ _ => true
  | _ => false

theorem HookCall.engine_of_rechecksRcs {c : HookCall} (h : c.rechecksRcs = true) :
    c.engine = some .rcs := by
  cases c with
  | updateRingTail that tail => exact beq_iff_eq.mp h
  | submitToRing that => exact beq_iff_eq.mp h
  | submitExecList stamp => rfl
  | prepareExecListAndSubmit arg1 arg2 => rfl
  | initRingGPUVirtualAddress | initRingRegisters | initRingControl | resetRingHead
  | ringBufferInit | initWithOptions => exact nomatch h

/-- On real TGL no verdict quarantines the render engine. -/
theorem verdict_rcs_ne_fail {env : CallEnv} (h : env.isRealTGL = true) (r : EngineState) :
    verdict env .rcs r ≠ .fail := by
  intro hfail
  exact ((verdict_fail_iff env .rcs r).mp hfail).1 (.inr ⟨h, rfl⟩)

theorem settle_rcs_quarantined {env : CallEnv} (h : env.isRealTGL = true) {r : EngineState}
    (hq : r.quarantined = false) : (r.settle (verdict env .rcs r)).quarantined = false := by
  rw [EngineState.settle_quarantined, hq, Bool.false_or]
  exact beq_eq_false_iff_ne.mpr (verdict_rcs_ne_fail h r)

/-- The next evaluation reads `RING_START` and `RING_CTL` as zero after full
initialisation, and still the render engine is not quarantined when the call returns. -/
theorem recheck_never_fails {calls : List (CallEnv × HookCall)} {s : BringupState}
    (hs : AwaitsRecheck calls s) {env : CallEnv} (hreal : env.isRealTGL = true)
    (_hmmio : env.mmioReady = true)
    (_hdead : env.readMMIO32 (trackedEngineRingBase .rcs + 0x38) = 0 ∧
      env.readMMIO32 (trackedEngineRingBase .rcs + 0x3c) = 0)
    {c : HookCall} (hc : c.rechecksRcs = true) :
    ¬ (c.exec env s).state.rcs.quarantined = true := by
  have hq : ¬ (s.record .rcs).quarantined = true := by
    rw [show (s.record .rcs).quarantined = false from hs.quarantined]
    decide
  have hrec := exec_record env c s .rcs
  rw [if_pos (HookCall.engine_of_rechecksRcs hc)] at hrec
  rw [show (c.exec env s).state.rcs = (c.exec env s).state.record .rcs from rfl, hrec,
    Bool.not_eq_true]
  cases c with
  | updateRingTail that tail =>
      simp only [HookCall.event, EngineEvent.next]
      rw [if_neg hq, if_pos (show (s.record .rcs).ringReady = true from hs.ringReady)]
      exact settle_rcs_quarantined hreal hs.quarantined
  | submitToRing that =>
      simp only [HookCall.event, EngineEvent.next]
      rw [if_neg hq, if_pos (show (s.record .rcs).controlReady = true from hs.controlReady)]
      split
      · exact hs.quarantined
      · exact settle_rcs_quarantined hreal hs.quarantined
  | submitExecList stamp | prepareExecListAndSubmit arg1 arg2 =>
      simp only [HookCall.event]
      split
      · exact hs.quarantined
      · rw [EngineEvent.next]
        split
        · exact hs.quarantined
        · exact settle_rcs_quarantined hreal hs.quarantined
  | initRingGPUVirtualAddress | initRingRegisters | initRingControl | resetRingHead
  | ringBufferInit | initWithOptions => exact absurd hc Bool.false_ne_true

/-- The render engine initialised on real TGL with registers that read zero throughout. -/
def deadRing : List (CallEnv × HookCall) :=
  [(.reading true 0, .initWithOptions rcsContext),
    (.reading true 0, .initRingControl rcsContext true),
    (.reading true 0, .initRingRegisters rcsContext)]

theorem deadRing_awaitsRecheck :
    AwaitsRecheck deadRing (Runs.run bringupStep deadRing .initial) := by
  refine ⟨rfl, by decide, ?_, by decide, by decide, by decide, by decide, by decide⟩
  exact ⟨(.reading true 0, .initRingRegisters rcsContext), by simp [deadRing], rcsContext, rfl, rfl⟩

theorem recheck_never_fails_deadRing :
    ¬ ((HookCall.updateRingTail rcsContext 8).exec (.reading true 0)
      (Runs.run bringupStep deadRing .initial)).state.rcs.quarantined = true :=
  recheck_never_fails deadRing_awaitsRecheck rfl rfl ⟨rfl, rfl⟩ rfl

/-- The same run, by evaluation. -/
theorem deadRing_not_quarantined :
    AwaitsRecheck deadRing (Runs.run bringupStep deadRing .initial) ∧
    (bringupStep (.reading true 0, .updateRingTail rcsContext 8)
      (Runs.run bringupStep deadRing .initial)).rcs.quarantined = false :=
  ⟨deadRing_awaitsRecheck, by decide⟩

end NootedGreen

/-
# `Engine.PollRegister` — when a poll sees what is there

`pollRegister` computes its deadline, looks at the clock, and reads the register only
while the clock is before the deadline:

    clock_interval_to_deadline(timeout)      the deadline
    clock_get_uptime                         the first look
    while before the deadline                read, compare, look again

So a call that is held up for `timeout` between its first two lines gives up without a
read, and says `false` of a register that shows the value all along.
`doesNotMiss_iff`: that is the one way to miss it.  The fallback of `Engine.ForceWakeCall`
reads once more after its polls; `forceWake` itself goes by what the poll says.

A register has a value at each instant, and the scheduler picks the instants at which
clock and register are read.  Times are natural numbers of nanoseconds.
-/
import NootedGreen.Engine.ForceWakeProtocol

namespace NootedGreen

namespace FwCall

/-- What the registers hold at each instant, what the clock shows at each of its readings, and
the instant at which each read of a register happens. -/
structure Timeline where
  value : Nat → BitVec 32 → BitVec 32
  clock : Nat → Nat
  clock_mono : Monotone clock
  readAt : Nat → Nat

def Timeline.world (t : Timeline) : World where
  clock := t.clock
  reading k reg := t.value (t.readAt k) reg

/-- The reads of a call that starts at `s` happen after it has started. -/
def Timeline.Since (t : Timeline) (s : State) : Prop :=
  ∀ k, s.regReads ≤ k → t.clock s.clockReads ≤ t.readAt k

/-- A register that matches from the call on is seen to match, and `false` is the answer to
values that were read. -/
structure DoesNotMiss (t : Timeline) (reg val mask : BitVec 32) (timeout : Nat) (s : State) :
    Prop where
  matches_seen : (∀ i, t.clock s.clockReads ≤ i → t.value i reg &&& mask = val) →
    ∃ s', (pollRegister t.world reg val mask timeout).Returns s (true, s')
  false_read : ∀ s', (pollRegister t.world reg val mask timeout).Returns s (false, s') →
    s.regReads < s'.regReads ∧ ∀ k, s.regReads ≤ k → k < s'.regReads →
      t.value (t.readAt k) reg &&& mask ≠ val

/-! ## What a poll returns -/

section Poll

variable {w : World} {reg val mask : BitVec 32} {timeout : Nat} {s : State}

/-- The state in which the loop is entered: the clock was read twice. -/
def State.polling (s : State) : State := { s with clockReads := s.clockReads + 2 }

theorem pollRegister_returns_iff {r : Bool × State} :
    (pollRegister w reg val mask timeout).Returns s r ↔
      (Fueled.iterate (pollStep w reg val mask (w.clock s.clockReads + timeout * 1000000))
        (w.clock (s.clockReads + 1))).Returns s.polling r := by
  constructor
  · intro h
    obtain ⟨q, hdeadline, h⟩ := Fueled.returns_bind_iff.mp h
    rw [Fueled.returns_act_iff.mp hdeadline] at h
    obtain ⟨q', hclock, h⟩ := Fueled.returns_bind_iff.mp h
    rw [Fueled.returns_act_iff.mp hclock] at h
    exact h
  · intro h
    refine Fueled.returns_bind_iff.mpr ⟨_, Fueled.returns_act_iff.mpr rfl, ?_⟩
    exact Fueled.returns_bind_iff.mpr ⟨_, Fueled.returns_act_iff.mpr rfl, h⟩

/-- Too late at the first look: nothing is read. -/
theorem pollRegister_late
    (hlate : ¬ w.clock (s.clockReads + 1) < w.clock s.clockReads + timeout * 1000000) :
    (pollRegister w reg val mask timeout).Returns s (false, s.polling) := by
  refine pollRegister_returns_iff.mpr (Fueled.returns_iterate_of_done ?_)
  rw [pollStep, if_neg hlate]
  exact Fueled.returns_pure_iff.mpr rfl

/-- In time for a first read that matches. -/
theorem pollRegister_first_match
    (hearly : w.clock (s.clockReads + 1) < w.clock s.clockReads + timeout * 1000000)
    (hmatch : w.reading s.regReads reg &&& mask = val) :
    ∃ s', (pollRegister w reg val mask timeout).Returns s (true, s') := by
  refine ⟨s.polling.afterRead w reg,
    pollRegister_returns_iff.mpr (Fueled.returns_iterate_of_done ?_)⟩
  rw [pollStep, if_pos hearly]
  refine Fueled.returns_bind_iff.mpr ⟨_, Fueled.returns_act_iff.mpr rfl, ?_⟩
  refine (if_pos hmatch).symm ▸ ?_
  exact Fueled.returns_pure_iff.mpr rfl

/-- In time for a first read, and `false` in the end: all that was read failed. -/
theorem pollRegister_false
    (hearly : w.clock (s.clockReads + 1) < w.clock s.clockReads + timeout * 1000000)
    {s' : State} (h : (pollRegister w reg val mask timeout).Returns s (false, s')) :
    s.regReads < s'.regReads ∧ ∀ k, s.regReads ≤ k → k < s'.regReads →
      w.reading k reg &&& mask ≠ val := by
  generalize hdeadline : w.clock s.clockReads + timeout * 1000000 = deadline at hearly
  have hloop := pollRegister_returns_iff.mp h
  rw [hdeadline] at hloop
  -- before the loop gives up either it is not late yet, or it has read something
  refine @Fueled.iterate_invariant _ _ _ (pollStep w reg val mask deadline)
    (fun now t => (now < deadline ∨ s.regReads < t.regReads) ∧ s.regReads ≤ t.regReads ∧
      ∀ k, s.regReads ≤ k → k < t.regReads → w.reading k reg &&& mask ≠ val)
    (fun b t => b = false → s.regReads < t.regReads ∧
      ∀ k, s.regReads ≤ k → k < t.regReads → w.reading k reg &&& mask ≠ val)
    ?_ ?_ _ _ _ hloop ?_ rfl
  · rintro now t now' t' ⟨-, hle, hfailed⟩ hstep
    obtain ⟨-, -, hr⟩ | ⟨-, hmiss, hr⟩ | ⟨-, hr⟩ := pollStep_cases hstep
    · cases hr
    · cases hr
      have hreads : (t.afterRead w reg).regReads = t.regReads + 1 := t.afterRead_regReads reg
      refine ⟨Or.inr (hreads ▸ Nat.lt_succ_of_le hle), hreads ▸ Nat.le_succ_of_le hle,
        fun k hk hlt => ?_⟩
      rcases Nat.lt_succ_iff_lt_or_eq.mp (hreads ▸ hlt) with hlt | rfl
      · exact hfailed k hk hlt
      · exact hmiss
    · cases hr
  · rintro now t b t' ⟨hread, -, hfailed⟩ hstep hb
    obtain ⟨-, -, hr⟩ | ⟨-, -, hr⟩ | ⟨hlate, hr⟩ := pollStep_cases hstep
    · cases hr
      cases hb
    · cases hr
    · cases hr
      exact ⟨hread.resolve_left hlate, hfailed⟩
  · exact ⟨Or.inl hearly, Nat.le_refl _, fun k hk hlt => absurd hlt (Nat.not_lt.mpr hk)⟩

end Poll

/-! ## When it does not miss -/

/-- A poll misses nothing exactly if the first look at the clock comes before the deadline. -/
theorem doesNotMiss_iff (t : Timeline) (reg val mask : BitVec 32) (timeout : Nat) (s : State)
    (hsince : t.Since s) :
    DoesNotMiss t reg val mask timeout s ↔
      t.clock (s.clockReads + 1) < t.clock s.clockReads + timeout * 1000000 := by
  constructor
  · intro h
    by_contra hlate
    obtain ⟨hread, -⟩ := h.false_read s.polling (pollRegister_late hlate)
    exact Nat.lt_irrefl _ hread
  · intro hearly
    refine ⟨fun hmatch => ?_, fun s' hfalse => pollRegister_false hearly hfalse⟩
    exact pollRegister_first_match hearly (hmatch _ (hsince s.regReads (Nat.le_refl _)))

/-- A clock that moves by `step` between any two readings, each read of a register right
before the next one, and a register that is always 1. -/
def steadyTimeline (step : Nat) : Timeline where
  value _ _ := 1
  clock n := n * step
  clock_mono := fun _ _ h => Nat.mul_le_mul_right step h
  readAt k := (k + 2) * step

/-- With a millisecond between the readings, the acknowledge of the render domain is seen. -/
theorem doesNotMiss_millisecond :
    (steadyTimeline 1000000).Since (atEntry (fun _ => 0) ⟨0, false⟩) ∧
      DoesNotMiss (steadyTimeline 1000000) 0x0D84 1 1 50 (atEntry (fun _ => 0) ⟨0, false⟩) := by
  have hsince : (steadyTimeline 1000000).Since (atEntry (fun _ => 0) ⟨0, false⟩) :=
    fun k _ => Nat.mul_le_mul_right 1000000 (Nat.zero_le (k + 2))
  exact ⟨hsince, (doesNotMiss_iff _ _ _ _ _ _ hsince).mpr (by decide)⟩

/-- With sixty, the same acknowledge is there all the time, and the poll says no without having
looked. -/
theorem heldUp_poll_misses :
    (∀ i, (steadyTimeline 60000000).value i 0x0D84 &&& 1 = 1) ∧
    (∃ s', s'.regReads = (atEntry (fun _ => 0) ⟨0, false⟩).regReads ∧
      (pollRegister (steadyTimeline 60000000).world 0x0D84 1 1 50).Returns
        (atEntry (fun _ => 0) ⟨0, false⟩) (false, s')) ∧
    ¬ DoesNotMiss (steadyTimeline 60000000) 0x0D84 1 1 50 (atEntry (fun _ => 0) ⟨0, false⟩) := by
  have hreturns : (pollRegister (steadyTimeline 60000000).world 0x0D84 1 1 50).Returns
      (atEntry (fun _ => 0) ⟨0, false⟩) (false, (atEntry (fun _ => 0) ⟨0, false⟩).polling) :=
    pollRegister_late (by decide)
  refine ⟨fun _ => BitVec.and_self, ⟨State.polling _, rfl, hreturns⟩, fun h => ?_⟩
  obtain ⟨hread, -⟩ := h.false_read _ hreturns
  exact Nat.lt_irrefl _ hread

end FwCall

end NootedGreen

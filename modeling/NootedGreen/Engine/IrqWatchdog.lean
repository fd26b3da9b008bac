/-
# `Engine.IrqWatchdog` — how often the interrupt watchdog fires

`start` arms one thread call for the watchdog of V54, which "fires every 2s, up to 5
times, then stops": each firing arms the next one while `v54WatchdogCount`, a static of
the function, is below 5.

The counter is never reset and all starts share it.  Over a run

    pending + firings = starts + min firings 4

since a firing uses up a call and the first four of them arm another one.  So once every
call is taken, n starts have had n + 4 firings and not 5 · n: the window of five belongs
to the first start (`watchdog_windows_iff`), and a later one has a single firing of its
own if the count is at five already.

**What is left out.**  What a firing does to the registers, which is in
`Engine.InterruptEnforcement` and nothing to the counter; the interval of two seconds.
Allocations succeed, and `v54WatchdogCount` does not overflow.
-/
import NootedGreen.Lib.Runs
import NootedGreen.Lib.ThreadCall

namespace NootedGreen

structure WatchdogState where
  v54WatchdogCount : Nat
  /-- The calls allocated so far; their parameter is null. -/
  calls : List (ThreadCall Unit)
  deriving DecidableEq, Repr

/-- Before the first `start`. -/
def WatchdogState.initial : WatchdogState := ⟨0, []⟩

/-- The watchdog as `start` arms it. -/
def armWatchdog (s : WatchdogState) : WatchdogState :=
  { s with calls := ThreadCall.arm () s.calls }

/-- The first and the last lines of `v54IrqWatchdog`, around its work on the registers. -/
def v54IrqWatchdogTimer (s : WatchdogState) : WatchdogState :=
  let s := { s with v54WatchdogCount := s.v54WatchdogCount + 1 }
  if s.v54WatchdogCount < 5 then { s with calls := ThreadCall.arm () s.calls } else s

inductive WatchdogEvent where
  | start
  /-- Call `i` fires. -/
  | fire (i : Nat)
  deriving DecidableEq, Repr

namespace WatchdogEvent

/-- One event.  A call that is not pending does not fire. -/
def exec : WatchdogEvent → WatchdogState → WatchdogState
  | start, s => armWatchdog s
  | fire i, s =>
      match ThreadCall.due i s.calls with
      | some () => v54IrqWatchdogTimer { s with calls := ThreadCall.finish i s.calls }
      | none => s

/-- Each firing consumes a pending call. -/
def Fires : WatchdogEvent → WatchdogState → Prop
  | start, _ => True
  | fire i, s => ThreadCall.due i s.calls = some ()

instance (e : WatchdogEvent) (s : WatchdogState) : Decidable (e.Fires s) :=
  match e with
  | start => .isTrue trivial
  | fire i => inferInstanceAs (Decidable (ThreadCall.due i s.calls = some ()))

def isStart : WatchdogEvent → Bool
  | start => true
  | fire _ => false

def isFire : WatchdogEvent → Bool
  | start => false
  | fire _ => true

/-- How many of the events are `start` calls, and how many firings. -/
def starts (events : List WatchdogEvent) : Nat := events.countP isStart

def firings (events : List WatchdogEvent) : Nat := events.countP isFire

variable (i : Nat) (events : List WatchdogEvent)

theorem starts_cons_start : starts (start :: events) = starts events + 1 :=
  List.countP_cons_of_pos rfl

theorem starts_cons_fire : starts (fire i :: events) = starts events :=
  List.countP_cons_of_neg Bool.false_ne_true

theorem firings_cons_start : firings (start :: events) = firings events :=
  List.countP_cons_of_neg Bool.false_ne_true

theorem firings_cons_fire : firings (fire i :: events) = firings events + 1 :=
  List.countP_cons_of_pos rfl

theorem exec_fire {i : Nat} {s : WatchdogState} (hdue : ThreadCall.due i s.calls = some ()) :
    (fire i).exec s =
      { v54WatchdogCount := s.v54WatchdogCount + 1
        calls := if s.v54WatchdogCount + 1 < 5 then ThreadCall.arm () (ThreadCall.finish i s.calls)
          else ThreadCall.finish i s.calls } := by
  simp only [exec, hdue, v54IrqWatchdogTimer]
  split <;> rfl

theorem count_exec_fire {i : Nat} {s : WatchdogState}
    (hdue : ThreadCall.due i s.calls = some ()) :
    ((fire i).exec s).v54WatchdogCount = s.v54WatchdogCount + 1 := by
  rw [exec_fire hdue]

/-- A firing uses up a call and arms another one if it is one of the first four. -/
theorem pendingCount_exec_fire {i : Nat} {s : WatchdogState}
    (hdue : ThreadCall.due i s.calls = some ()) :
    ThreadCall.pendingCount ((fire i).exec s).calls + 1 =
      ThreadCall.pendingCount s.calls + if s.v54WatchdogCount + 1 < 5 then 1 else 0 := by
  have hpending := ThreadCall.pendingCount_finish hdue
  rw [exec_fire hdue]
  split
  · rw [ThreadCall.pendingCount_arm, hpending]
  · exact hpending

end WatchdogEvent

open WatchdogEvent

/-! ## The balance of calls -/

/-- `s` after `n` starts and `k` firings. -/
structure Balanced (n k : Nat) (s : WatchdogState) : Prop where
  count : s.v54WatchdogCount = k
  balance : ThreadCall.pendingCount s.calls + k = n + min k 4
  started : n = 0 → k = 0

theorem Balanced.start {n k : Nat} {s : WatchdogState} (h : Balanced n k s) :
    Balanced (n + 1) k (armWatchdog s) := by
  obtain ⟨hcount, hbalance, -⟩ := h
  refine ⟨hcount, ?_, fun h => absurd h n.succ_ne_zero⟩
  show ThreadCall.pendingCount (ThreadCall.arm () s.calls) + k = n + 1 + min k 4
  rw [ThreadCall.pendingCount_arm]
  omega

theorem Balanced.fire {n k i : Nat} {s : WatchdogState} (h : Balanced n k s)
    (hdue : ThreadCall.due i s.calls = some ()) : Balanced n (k + 1) ((fire i).exec s) := by
  obtain ⟨rfl, hbalance, hstarted⟩ := h
  refine ⟨count_exec_fire hdue, ?_, fun hn => ?_⟩
  · have hpending := pendingCount_exec_fire hdue
    split at hpending <;> omega
  · -- without a start nothing is pending
    have hnone := hstarted hn
    have hpending := ThreadCall.pendingCount_finish hdue
    omega

theorem Balanced.run {events : List WatchdogEvent} {n k : Nat} {s : WatchdogState}
    (h : Balanced n k s) (hfires : Runs.Guarded exec Fires events s) :
    Balanced (n + starts events) (k + firings events) (Runs.run exec events s) := by
  induction events generalizing n k s with
  | nil => exact h
  | cons e events ih =>
      obtain ⟨hfire, hrest⟩ := hfires
      cases e with
      | start =>
          rw [starts_cons_start, firings_cons_start, ← Nat.add_assoc, Nat.add_right_comm]
          exact ih h.start hrest
      | fire i =>
          rw [starts_cons_fire, firings_cons_fire, ← Nat.add_assoc, Nat.add_right_comm]
          exact ih (h.fire hfire) hrest

theorem balanced_initial : Balanced 0 0 .initial := ⟨rfl, rfl, fun _ => rfl⟩

/-! ## Runs whose calls are all taken -/

/-- Nothing is pending any more. -/
def WatchdogState.Idle (s : WatchdogState) : Prop := ThreadCall.pendingCount s.calls = 0

instance (s : WatchdogState) : Decidable s.Idle :=
  inferInstanceAs (Decidable (ThreadCall.pendingCount s.calls = 0))

/-- The firings that are left at most. -/
def WatchdogState.left (s : WatchdogState) : Nat :=
  ThreadCall.pendingCount s.calls + (4 - s.v54WatchdogCount)

theorem left_exec_fire {i : Nat} {s : WatchdogState}
    (hdue : ThreadCall.due i s.calls = some ()) : ((fire i).exec s).left < s.left := by
  have hpending := pendingCount_exec_fire hdue
  rw [WatchdogState.left, WatchdogState.left, count_exec_fire hdue]
  split at hpending <;> omega

/-- Every state can be run until it is idle, so every run can be completed. -/
theorem exists_idle (s : WatchdogState) : ∃ fires : List Nat,
    Runs.Guarded exec Fires (fires.map fire) s ∧ (Runs.run exec (fires.map fire) s).Idle := by
  induction hn : s.left using Nat.strongRecOn generalizing s with
  | ind n ih =>
      by_cases hidle : s.Idle
      · exact ⟨[], trivial, hidle⟩
      · obtain ⟨i, ⟨⟩, hdue⟩ := ThreadCall.exists_due hidle
        obtain ⟨fires, hfires, hdone⟩ := ih _ (hn ▸ left_exec_fire hdue) ((fire i).exec s) rfl
        exact ⟨i :: fires, ⟨hdue, hfires⟩, hdone⟩

/-- The firings of all starts together: the fifth stops the chain it belongs to, and each
of the others then has one to go. -/
theorem firings_eq {events : List WatchdogEvent}
    (hfires : Runs.Guarded exec Fires events .initial)
    (hidle : (Runs.run exec events .initial).Idle) :
    firings events = if starts events = 0 then 0 else starts events + 4 := by
  obtain ⟨-, hbalance, hstarted⟩ := balanced_initial.run hfires
  rw [hidle] at hbalance
  rw [Nat.zero_add, Nat.zero_add] at hstarted
  split
  · next hnone => exact hstarted hnone
  · omega

/-- Five firings for each start exactly if there is at most one. -/
theorem watchdog_windows_iff (events : List WatchdogEvent)
    (hfires : Runs.Guarded exec Fires events .initial)
    (hidle : (Runs.run exec events .initial).Idle) :
    firings events = 5 * starts events ↔ starts events ≤ 1 := by
  rw [firings_eq hfires hidle]
  split <;> omega

/-- One start, and its calls in the order of their allocation. -/
def oneStart : List WatchdogEvent := [start, fire 0, fire 1, fire 2, fire 3, fire 4]

theorem oneStart_fires_five_times : firings oneStart = 5 * starts oneStart :=
  (watchdog_windows_iff oneStart ⟨trivial, rfl, rfl, rfl, rfl, rfl, trivial⟩ rfl).mpr
    (Nat.le_refl 1)

/-- A second start, after the first has had its window. -/
def secondStart : List WatchdogEvent :=
  [start, fire 0, fire 1, fire 2, fire 3, fire 4, start, fire 5]

/-- It has one firing. -/
theorem secondStart_fires_once :
    Runs.Guarded exec Fires secondStart .initial ∧
      (Runs.run exec secondStart .initial).Idle ∧
      starts secondStart = 2 ∧ firings secondStart = 6 :=
  ⟨⟨trivial, rfl, rfl, rfl, rfl, rfl, trivial, rfl, trivial⟩, rfl, rfl, rfl⟩

end NootedGreen

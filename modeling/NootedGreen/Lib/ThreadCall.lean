/-
# `Lib.ThreadCall` — one-shot timers as allocated objects

A call is allocated with its parameter and entered with a deadline; from then on it
is pending until it fires.  Firing takes it off the queue and leaves the object
allocated: an object goes away only when it is freed, which nothing here does.  The
objects are kept in the order of their allocation, and an index names one.

    arm p       allocate a call with parameter p and enter it
    finish i    call i has fired

Each operation comes with what it does to the number of objects and to the number of
pending ones.
-/
import Mathlib.Tactic.Common

/-- An allocated call. -/
structure ThreadCall (π : Type*) where
  param : π
  pending : Bool
  deriving DecidableEq, Repr

namespace ThreadCall

variable {π : Type*}

/-- `thread_call_allocate`, then `thread_call_enter_delayed`. -/
def arm (param : π) (calls : List (ThreadCall π)) : List (ThreadCall π) :=
  calls ++ [⟨param, true⟩]

/-- The parameter call `i` fires with; `none` when there is no such call or it is not
pending. -/
def due : Nat → List (ThreadCall π) → Option π
  | _, [] => none
  | 0, c :: _ => if c.pending then some c.param else none
  | i + 1, _ :: calls => due i calls

def finish : Nat → List (ThreadCall π) → List (ThreadCall π)
  | _, [] => []
  | 0, c :: calls => { c with pending := false } :: calls
  | i + 1, c :: calls => c :: finish i calls

/-- How many are pending. -/
def pendingCount (calls : List (ThreadCall π)) : Nat := calls.countP ThreadCall.pending

@[simp] theorem length_arm (param : π) (calls : List (ThreadCall π)) :
    (arm param calls).length = calls.length + 1 :=
  List.length_append

@[simp] theorem pendingCount_arm (param : π) (calls : List (ThreadCall π)) :
    pendingCount (arm param calls) = pendingCount calls + 1 :=
  List.countP_append

@[simp] theorem length_finish (i : Nat) (calls : List (ThreadCall π)) :
    (finish i calls).length = calls.length := by
  induction calls generalizing i with
  | nil => rw [finish]
  | cons c calls ih =>
      cases i with
      | zero => rfl
      | succ i => rw [finish, List.length_cons, List.length_cons, ih i]

/-- Firing uses up one pending call. -/
theorem pendingCount_finish {i : Nat} {param : π} {calls : List (ThreadCall π)}
    (h : due i calls = some param) : pendingCount (finish i calls) + 1 = pendingCount calls := by
  induction calls generalizing i with
  | nil =>
      rw [due] at h
      cases h
  | cons c calls ih =>
      cases i with
      | zero =>
          obtain ⟨p, pending⟩ := c
          cases pending with
          | true => rw [finish, pendingCount, pendingCount,
              List.countP_cons_of_neg Bool.false_ne_true, List.countP_cons_of_pos rfl]
          | false => cases h
      | succ i =>
          rw [due] at h
          have hrec := ih h
          rw [finish, pendingCount, pendingCount, List.countP_cons, List.countP_cons]
          rw [pendingCount, pendingCount] at hrec
          omega

theorem exists_due {calls : List (ThreadCall π)} (h : pendingCount calls ≠ 0) :
    ∃ i param, due i calls = some param := by
  induction calls with
  | nil => exact absurd rfl h
  | cons c calls ih =>
      obtain ⟨p, pending⟩ := c
      cases pending with
      | true => exact ⟨0, p, rfl⟩
      | false =>
          rw [pendingCount, List.countP_cons_of_neg Bool.false_ne_true] at h
          obtain ⟨i, param, hdue⟩ := ih h
          exact ⟨i + 1, param, hdue⟩

end ThreadCall

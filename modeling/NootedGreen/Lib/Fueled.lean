/-
# `Lib.Fueled` — programs whose loops may not end

A program on states `σ` takes fuel for its loops and says `none` where the fuel runs out.
That more fuel never changes a result is part of the program (`mono`), so "the program
returns `r` from `s`" needs no fuel (`Returns`), and its rules are those of a program without:

    pure, bind, act     `returns_pure_iff`, `returns_bind_iff`, `returns_act_iff`
    a loop              what a step keeps, every result has: `iterate_invariant`
    a list of calls     `returns_each_nil_iff`, `returns_each_cons_iff`

A program need not return.  Where it does (`Terminates`), a loop does by a measure that every
step decreases (`iterate_terminates`).
-/
import Mathlib.Tactic.Common

structure Fueled (σ α : Type) where
  run : Nat → σ → Option (α × σ)
  mono : ∀ {n m : Nat} {s : σ} {r : α × σ}, n ≤ m → run n s = some r → run m s = some r

namespace Fueled

variable {σ α β : Type}

def pure (x : α) : Fueled σ α where
  run := fun _ s => some (x, s)
  mono := fun _ h => h

def bind (p : Fueled σ α) (f : α → Fueled σ β) : Fueled σ β where
  run := fun n s => (p.run n s).bind fun r => (f r.1).run n r.2
  mono := by
    intro n m s r hle h
    obtain ⟨q, hq, hr⟩ := Option.bind_eq_some_iff.mp h
    exact Option.bind_eq_some_iff.mpr ⟨q, p.mono hle hq, (f q.1).mono hle hr⟩

instance : Monad (Fueled σ) where
  pure := pure
  bind := bind

/-- One step on the state. -/
def act (f : σ → α × σ) : Fueled σ α where
  run := fun _ s => some (f s)
  mono := fun _ h => h

/-- A step without a result. -/
def update (f : σ → σ) : Fueled σ Unit := act fun s => ((), f s)

def iterateRun (body : α → Fueled σ (α ⊕ β)) : Nat → α → σ → Option (β × σ)
  | 0, _, _ => none
  | n + 1, a, s =>
      ((body a).run n s).bind fun r =>
        match r.1 with
        | .inl a' => iterateRun body n a' r.2
        | .inr b => some (b, r.2)

theorem iterateRun_mono (body : α → Fueled σ (α ⊕ β)) {n m : Nat} (hle : n ≤ m) :
    ∀ {a : α} {s : σ} {r : β × σ}, iterateRun body n a s = some r →
      iterateRun body m a s = some r := by
  induction n generalizing m with
  | zero =>
      intro a s r h
      cases h
  | succ n ih =>
      intro a s r h
      obtain ⟨k, rfl⟩ : ∃ k, m = k + 1 := ⟨m - 1, by omega⟩
      have hle' : n ≤ k := Nat.le_of_succ_le_succ hle
      obtain ⟨q, hq, hr⟩ := Option.bind_eq_some_iff.mp h
      refine Option.bind_eq_some_iff.mpr ⟨q, (body a).mono hle' hq, ?_⟩
      obtain ⟨x, s'⟩ := q
      cases x with
      | inl a' => exact ih hle' hr
      | inr b => exact hr

/-- Run the body from `a` on, and again from each `inl`, until it answers `inr`. -/
def iterate (body : α → Fueled σ (α ⊕ β)) (a : α) : Fueled σ β where
  run := fun n s => iterateRun body n a s
  mono := fun hle h => iterateRun_mono body hle h

/-- A call for each item. -/
def each (xs : List α) (f : α → Fueled σ Unit) : Fueled σ Unit :=
  match xs with
  | [] => pure ()
  | x :: xs => bind (f x) fun _ => each xs f

/-! ## What a program returns -/

def Returns (p : Fueled σ α) (s : σ) (r : α × σ) : Prop := ∃ n, p.run n s = some r

theorem returns_act_iff {f : σ → α × σ} {s : σ} {r : α × σ} :
    (act f).Returns s r ↔ r = f s := by
  constructor
  · rintro ⟨n, h⟩
    exact (Option.some.inj h).symm
  · rintro rfl
    exact ⟨0, rfl⟩

theorem returns_pure_iff {x : α} {s : σ} {r : α × σ} :
    (Pure.pure x : Fueled σ α).Returns s r ↔ r = (x, s) :=
  returns_act_iff (f := fun s => (x, s))

theorem returns_update_iff {f : σ → σ} {s : σ} {r : Unit × σ} :
    (update f).Returns s r ↔ r = ((), f s) :=
  returns_act_iff

theorem returns_bind_iff {p : Fueled σ α} {f : α → Fueled σ β} {s : σ} {r : β × σ} :
    (p >>= f).Returns s r ↔ ∃ q, p.Returns s q ∧ (f q.1).Returns q.2 r := by
  constructor
  · rintro ⟨n, h⟩
    obtain ⟨q, hq, hr⟩ := Option.bind_eq_some_iff.mp h
    exact ⟨q, ⟨n, hq⟩, ⟨n, hr⟩⟩
  · rintro ⟨q, ⟨n, hq⟩, ⟨m, hr⟩⟩
    refine ⟨max n m, Option.bind_eq_some_iff.mpr ⟨q, ?_, ?_⟩⟩
    · exact p.mono (Nat.le_max_left n m) hq
    · exact (f q.1).mono (Nat.le_max_right n m) hr

/-! ## That it returns -/

def Terminates (p : Fueled σ α) (s : σ) : Prop := ∃ r, p.Returns s r

theorem terminates_pure (x : α) (s : σ) : (Pure.pure x : Fueled σ α).Terminates s :=
  ⟨_, returns_pure_iff.mpr rfl⟩

theorem terminates_act (f : σ → α × σ) (s : σ) : (act f).Terminates s :=
  ⟨_, returns_act_iff.mpr rfl⟩

theorem Terminates.bind {p : Fueled σ α} {f : α → Fueled σ β} {s : σ} (hp : p.Terminates s)
    (hf : ∀ q, p.Returns s q → (f q.1).Terminates q.2) : (p >>= f).Terminates s := by
  obtain ⟨q, hq⟩ := hp
  obtain ⟨r, hr⟩ := hf q hq
  exact ⟨r, returns_bind_iff.mpr ⟨q, hq, hr⟩⟩

theorem terminates_ite {c : Prop} {_ : Decidable c} {p q : Fueled σ α} {s : σ}
    (hp : p.Terminates s) (hq : q.Terminates s) : (if c then p else q).Terminates s := by
  split
  · exact hp
  · exact hq

/-! ## Loops -/

section Loop

variable {body : α → Fueled σ (α ⊕ β)}

theorem returns_iterate_of_next {a a' : α} {s s' : σ} {r : β × σ}
    (hbody : (body a).Returns s (.inl a', s')) (hrest : (iterate body a').Returns s' r) :
    (iterate body a).Returns s r := by
  obtain ⟨n, hn⟩ := hbody
  obtain ⟨m, hm⟩ := hrest
  refine ⟨max n m + 1, Option.bind_eq_some_iff.mpr ⟨(.inl a', s'), ?_, ?_⟩⟩
  · exact (body a).mono (Nat.le_max_left n m) hn
  · exact iterateRun_mono body (Nat.le_max_right n m) hm

theorem returns_iterate_of_done {a : α} {s : σ} {b : β} {s' : σ}
    (hbody : (body a).Returns s (.inr b, s')) : (iterate body a).Returns s (b, s') := by
  obtain ⟨n, hn⟩ := hbody
  exact ⟨n + 1, Option.bind_eq_some_iff.mpr ⟨(.inr b, s'), hn, rfl⟩⟩

/-- What holds at the start and is kept by every step that goes on holds where the loop ends. -/
theorem iterate_invariant {I : α → σ → Prop} {Q : β → σ → Prop}
    (hnext : ∀ a s a' s', I a s → (body a).Returns s (.inl a', s') → I a' s')
    (hdone : ∀ a s b s', I a s → (body a).Returns s (.inr b, s') → Q b s')
    {a : α} {s : σ} {r : β × σ} (h : (iterate body a).Returns s r) (hI : I a s) : Q r.1 r.2 := by
  obtain ⟨n, h⟩ := h
  replace h : iterateRun body n a s = some r := h
  induction n generalizing a s with
  | zero => cases h
  | succ n ih =>
      obtain ⟨⟨x, s'⟩, hbody, hrest⟩ := Option.bind_eq_some_iff.mp h
      cases x with
      | inl a' => exact ih (hnext a s a' s' hI ⟨n, hbody⟩) hrest
      | inr b =>
          cases hrest
          exact hdone a s b s' hI ⟨n, hbody⟩

/-- A body that always returns and decreases a measure when it goes on makes a loop that
returns. -/
theorem iterate_terminates {I : α → σ → Prop} (measure : α → σ → Nat)
    (hbody : ∀ a s, I a s → (body a).Terminates s)
    (hnext : ∀ a s a' s', I a s → (body a).Returns s (.inl a', s') →
      I a' s' ∧ measure a' s' < measure a s)
    {a : α} {s : σ} (hI : I a s) : (iterate body a).Terminates s := by
  generalize hm : measure a s = m
  induction m using Nat.strongRecOn generalizing a s with
  | ind m ih =>
      obtain ⟨⟨x, s'⟩, hret⟩ := hbody a s hI
      cases x with
      | inl a' =>
          obtain ⟨hI', hlt⟩ := hnext a s a' s' hI hret
          obtain ⟨r, hr⟩ := ih (measure a' s') (hm ▸ hlt) hI' rfl
          exact ⟨r, returns_iterate_of_next hret hr⟩
      | inr b => exact ⟨(b, s'), returns_iterate_of_done hret⟩

end Loop

/-! ## Lists of calls -/

section Each

variable {f : α → Fueled σ Unit}

theorem returns_each_nil_iff {s : σ} {r : Unit × σ} : (each [] f).Returns s r ↔ r = ((), s) :=
  returns_pure_iff

theorem returns_each_cons_iff {x : α} {xs : List α} {s : σ} {r : Unit × σ} :
    (each (x :: xs) f).Returns s r ↔ ∃ q, (f x).Returns s q ∧ (each xs f).Returns q.2 r :=
  returns_bind_iff

/-- Calls that return from every state make a list of calls that returns. -/
theorem each_terminates (h : ∀ x s, (f x).Terminates s) (xs : List α) (s : σ) :
    (each xs f).Terminates s := by
  induction xs generalizing s with
  | nil => exact ⟨((), s), returns_each_nil_iff.mpr rfl⟩
  | cons x xs ih =>
      obtain ⟨q, hq⟩ := h x s
      obtain ⟨r, hr⟩ := ih q.2
      exact ⟨r, returns_each_cons_iff.mpr ⟨q, hq, hr⟩⟩

end Each

end Fueled

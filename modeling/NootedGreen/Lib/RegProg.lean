/-
# `Lib.RegProg` — programs over registers

A program reads and writes registers by address and calls code outside.  It is a tree of
these requests; a `Device` answers them on a state of its own:

    run       the result and the final state
    calls     the calls made, each with the state it is made in

One program runs on any device.  `Simulates` says when one device can stand for another
on the addresses a program reaches, and `Simulates.run` that the program cannot tell.
`plain` is the device in which every address is a cell of its own.
-/
import Mathlib.Data.List.Forall2
import Mathlib.Logic.Function.Basic

/-- Registers of words `β` at addresses `α`, calls `ε` outside, on states `σ`. -/
structure Device (α β ε σ : Type) where
  read : α → σ → β × σ
  write : α → β → σ → σ
  call : ε → σ → σ

inductive RegProg (α β ε γ : Type) where
  | ret (x : γ)
  | read (a : α) (k : β → RegProg α β ε γ)
  | write (a : α) (v : β) (k : RegProg α β ε γ)
  | call (e : ε) (k : RegProg α β ε γ)

namespace RegProg

variable {α β ε γ δ σ τ : Type}

def bind : RegProg α β ε γ → (γ → RegProg α β ε δ) → RegProg α β ε δ
  | .ret x, f => f x
  | .read a k, f => .read a fun v => (k v).bind f
  | .write a v k, f => .write a v (k.bind f)
  | .call e k, f => .call e (k.bind f)

instance : Monad (RegProg α β ε) where
  pure := .ret
  bind := bind

/-- Read one register. -/
def get (a : α) : RegProg α β ε β := .read a .ret

/-- Write one register. -/
def put (a : α) (v : β) : RegProg α β ε Unit := .write a v (.ret ())

/-- Call outside. -/
def invoke (e : ε) : RegProg α β ε Unit := .call e (.ret ())

/-- Run the program if the condition holds. -/
def onlyIf (c : Prop) [Decidable c] (p : RegProg α β ε Unit) : RegProg α β ε Unit :=
  if c then p else pure ()

/-- Write each register of the list, in order. -/
def putAll : List (α × β) → RegProg α β ε Unit
  | [] => pure ()
  | (a, v) :: l => do
      put a v
      putAll l

def run (D : Device α β ε σ) : RegProg α β ε γ → σ → γ × σ
  | .ret x, s => (x, s)
  | .read a k, s => (k (D.read a s).1).run D (D.read a s).2
  | .write a v k, s => k.run D (D.write a v s)
  | .call e k, s => k.run D (D.call e s)

/-- The calls of a run, each with the state it is made in. -/
def calls (D : Device α β ε σ) : RegProg α β ε γ → σ → List (ε × σ)
  | .ret _, _ => []
  | .read a k, s => (k (D.read a s).1).calls D (D.read a s).2
  | .write a v k, s => k.calls D (D.write a v s)
  | .call e k, s => (e, s) :: k.calls D (D.call e s)

/-- Every address the program can reach satisfies `P`. -/
def Reaches (P : α → Prop) : RegProg α β ε γ → Prop
  | .ret _ => True
  | .read a k => P a ∧ ∀ v, (k v).Reaches P
  | .write a _ k => P a ∧ k.Reaches P
  | .call _ k => k.Reaches P

/-! ## Sequencing -/

section Sequence

variable (D : Device α β ε σ)

@[simp] theorem run_pure (x : γ) (s : σ) : (pure x : RegProg α β ε γ).run D s = (x, s) := by
  rw [show (pure x : RegProg α β ε γ) = .ret x from rfl, run]

@[simp] theorem run_bind (p : RegProg α β ε γ) (f : γ → RegProg α β ε δ) (s : σ) :
    (p >>= f).run D s = (f (p.run D s).1).run D (p.run D s).2 := by
  show (p.bind f).run D s = _
  induction p generalizing s with
  | ret x => rfl
  | read a k ih => exact ih _ _
  | write a v k ih => exact ih _
  | call e k ih => exact ih _

@[simp] theorem run_get (a : α) (s : σ) : (get a : RegProg α β ε β).run D s = D.read a s := by
  rw [get, run, run]

@[simp] theorem run_put (a : α) (v : β) (s : σ) :
    (put a v : RegProg α β ε Unit).run D s = ((), D.write a v s) := by
  rw [put, run, run]

@[simp] theorem run_invoke (e : ε) (s : σ) :
    (invoke e : RegProg α β ε Unit).run D s = ((), D.call e s) := by
  rw [invoke, run, run]

@[simp] theorem run_ite (c : Prop) {_ : Decidable c} (p q : RegProg α β ε γ) (s : σ) :
    (if c then p else q).run D s = if c then p.run D s else q.run D s := by
  split <;> rfl

@[simp] theorem run_onlyIf (c : Prop) {_ : Decidable c} (p : RegProg α β ε Unit) (s : σ) :
    (onlyIf c p).run D s = if c then p.run D s else ((), s) := by
  rw [onlyIf, run_ite, run_pure]

theorem run_onlyIf_put (c : Prop) {_ : Decidable c} (a : α) (v : β) (s : σ) :
    (onlyIf c (put a v)).run D s = ((), if c then D.write a v s else s) := by
  rw [run_onlyIf]
  split <;> rfl

theorem run_putAll_append (l l' : List (α × β)) (s : σ) :
    (putAll (l ++ l') : RegProg α β ε Unit).run D s =
      (putAll l').run D ((putAll l : RegProg α β ε Unit).run D s).2 := by
  induction l generalizing s with
  | nil => rfl
  | cons w l ih =>
      rw [List.cons_append, putAll, run_bind, putAll, run_bind]
      exact ih _

@[simp] theorem calls_pure (x : γ) (s : σ) : (pure x : RegProg α β ε γ).calls D s = [] := rfl

@[simp] theorem calls_ite (c : Prop) {_ : Decidable c} (p q : RegProg α β ε γ) (s : σ) :
    (if c then p else q).calls D s = if c then p.calls D s else q.calls D s := by
  split <;> rfl

@[simp] theorem calls_onlyIf (c : Prop) {_ : Decidable c} (p : RegProg α β ε Unit) (s : σ) :
    (onlyIf c p).calls D s = if c then p.calls D s else [] := by
  rw [onlyIf, calls_ite, calls_pure]

@[simp] theorem calls_bind (p : RegProg α β ε γ) (f : γ → RegProg α β ε δ) (s : σ) :
    (p >>= f).calls D s = p.calls D s ++ (f (p.run D s).1).calls D (p.run D s).2 := by
  show (p.bind f).calls D s = _
  induction p generalizing s with
  | ret x => rfl
  | read a k ih => exact ih _ _
  | write a v k ih => exact ih _
  | call e k ih => exact congrArg ((e, s) :: ·) (ih _)

@[simp] theorem calls_get (a : α) (s : σ) : (get a : RegProg α β ε β).calls D s = [] := rfl

@[simp] theorem calls_put (a : α) (v : β) (s : σ) :
    (put a v : RegProg α β ε Unit).calls D s = [] := rfl

@[simp] theorem calls_invoke (e : ε) (s : σ) :
    (invoke e : RegProg α β ε Unit).calls D s = [(e, s)] := rfl

@[simp] theorem calls_putAll (l : List (α × β)) (s : σ) :
    (putAll l : RegProg α β ε Unit).calls D s = [] := by
  induction l generalizing s with
  | nil => rfl
  | cons w l ih =>
      rw [putAll, calls_bind, calls_put, List.nil_append]
      exact ih _

theorem Reaches.bind {P : α → Prop} {p : RegProg α β ε γ} {f : γ → RegProg α β ε δ}
    (hp : p.Reaches P) (hf : ∀ x, (f x).Reaches P) : (p >>= f).Reaches P := by
  show (p.bind f).Reaches P
  induction p with
  | ret x => exact hf x
  | read a k ih => exact ⟨hp.1, fun v => ih v (hp.2 v)⟩
  | write a v k ih => exact ⟨hp.1, ih hp.2⟩
  | call e k ih => exact ih hp

theorem Reaches.get {P : α → Prop} {a : α} (h : P a) : (get a : RegProg α β ε β).Reaches P :=
  ⟨h, fun _ => trivial⟩

theorem Reaches.put {P : α → Prop} {a : α} (h : P a) (v : β) :
    (put a v : RegProg α β ε Unit).Reaches P :=
  ⟨h, trivial⟩

theorem Reaches.invoke {P : α → Prop} (e : ε) : (invoke e : RegProg α β ε Unit).Reaches P :=
  trivial

theorem Reaches.onlyIf {P : α → Prop} (c : Prop) [Decidable c] {p : RegProg α β ε Unit}
    (h : p.Reaches P) : (onlyIf c p).Reaches P := by
  rw [RegProg.onlyIf]
  split
  · exact h
  · exact trivial

theorem Reaches.mono {P Q : α → Prop} {p : RegProg α β ε γ} (h : p.Reaches P)
    (hPQ : ∀ a, P a → Q a) : p.Reaches Q := by
  induction p with
  | ret x => exact trivial
  | read a k ih => exact ⟨hPQ a h.1, fun v => ih v (h.2 v)⟩
  | write a v k ih => exact ⟨hPQ a h.1, ih h.2⟩
  | call e k ih => exact ih h

end Sequence

/-! ## One device for another -/

/-- On the addresses `P`, device `D` does on its states what `D'` does on the states
related to them. -/
structure Simulates (D : Device α β ε σ) (D' : Device α β ε τ) (P : α → Prop)
    (R : σ → τ → Prop) : Prop where
  read : ∀ a s t, P a → R s t →
    (D.read a s).1 = (D'.read a t).1 ∧ R (D.read a s).2 (D'.read a t).2
  write : ∀ a v s t, P a → R s t → R (D.write a v s) (D'.write a v t)
  call : ∀ e s t, R s t → R (D.call e s) (D'.call e t)

/-- A program that stays on those addresses has the same result on both, and ends in related
states. -/
theorem Simulates.run {D : Device α β ε σ} {D' : Device α β ε τ} {P : α → Prop}
    {R : σ → τ → Prop} (h : Simulates D D' P R) {p : RegProg α β ε γ} (hp : p.Reaches P) :
    ∀ {s : σ} {t : τ}, R s t →
      (p.run D s).1 = (p.run D' t).1 ∧ R (p.run D s).2 (p.run D' t).2 := by
  induction p with
  | ret x =>
      intro s t hR
      exact ⟨rfl, hR⟩
  | read a k ih =>
      intro s t hR
      obtain ⟨hval, hnext⟩ := h.read a s t hp.1 hR
      rw [RegProg.run, RegProg.run, hval]
      exact ih _ (hp.2 _) hnext
  | write a v k ih =>
      intro s t hR
      exact ih hp.2 (h.write a v s t hp.1 hR)
  | call e k ih =>
      intro s t hR
      exact ih hp (h.call e s t hR)

/-- It also makes the same calls, in related states. -/
theorem Simulates.calls {D : Device α β ε σ} {D' : Device α β ε τ} {P : α → Prop}
    {R : σ → τ → Prop} (h : Simulates D D' P R) {p : RegProg α β ε γ} (hp : p.Reaches P) :
    ∀ {s : σ} {t : τ}, R s t →
      List.Forall₂ (fun c c' => c.1 = c'.1 ∧ R c.2 c'.2) (p.calls D s) (p.calls D' t) := by
  induction p with
  | ret x =>
      intro s t _
      exact .nil
  | read a k ih =>
      intro s t hR
      obtain ⟨hval, hnext⟩ := h.read a s t hp.1 hR
      rw [RegProg.calls, RegProg.calls, hval]
      exact ih _ (hp.2 _) hnext
  | write a v k ih =>
      intro s t hR
      exact ih hp.2 (h.write a v s t hp.1 hR)
  | call e k ih =>
      intro s t hR
      exact .cons ⟨rfl, hR⟩ (ih hp (h.call e s t hR))

/-! ## Plain storage -/

/-- Every address a cell; calls act on the cells as they are said to. -/
def plain [DecidableEq α] (call : ε → (α → β) → (α → β)) : Device α β ε (α → β) where
  read := fun a s => (s a, s)
  write := fun a v s => Function.update s a v
  call := call

section Plain

variable [DecidableEq α] (call : ε → (α → β) → (α → β)) (s : α → β)

@[simp] theorem plain_read (a : α) : (plain call).read a s = (s a, s) := by
  rw [plain]

@[simp] theorem plain_write (a : α) (v : β) : (plain call).write a v s = Function.update s a v := by
  rw [plain]

section OnlyIf

variable {a b : α} {v : β} {c : Prop} {_ : Decidable c}

theorem run_onlyIf_put_same :
    ((onlyIf c (put a v)).run (plain call) s).2 a = if c then v else s a := by
  rw [run_onlyIf]
  split
  · rw [run_put, plain_write]
    exact Function.update_self a v s
  · rfl

theorem run_onlyIf_put_other (h : b ≠ a) :
    ((onlyIf c (put a v)).run (plain call) s).2 b = s b := by
  rw [run_onlyIf]
  split
  · rw [run_put, plain_write]
    exact Function.update_of_ne h v s
  · rfl

end OnlyIf

/-! ## Lists of writes -/

/-- A register that is not written keeps its word. -/
theorem run_putAll_other {l : List (α × β)} {b : α} (h : b ∉ l.map Prod.fst) :
    ((putAll l).run (plain call) s).2 b = s b := by
  induction l generalizing s with
  | nil => rw [putAll, run_pure]
  | cons w l ih =>
      have hne : b ≠ w.1 := fun heq => h (heq ▸ List.mem_cons_self)
      have hrest : b ∉ l.map Prod.fst := fun hb => h (List.mem_cons_of_mem _ hb)
      rw [putAll, run_bind, run_put, ih _ hrest, plain_write]
      exact Function.update_of_ne hne _ _

/-- One that is written once holds what was written. -/
theorem run_putAll_mem {l : List (α × β)} (hnd : (l.map Prod.fst).Nodup) {b : α} {v : β}
    (h : (b, v) ∈ l) : ((putAll l).run (plain call) s).2 b = v := by
  induction l generalizing s with
  | nil => exact absurd h List.not_mem_nil
  | cons w l ih =>
      obtain ⟨hfresh, hnd⟩ := List.nodup_cons.mp hnd
      rw [putAll, run_bind, run_put]
      rcases List.mem_cons.mp h with rfl | h
      · rw [run_putAll_other _ _ hfresh, plain_write]
        exact Function.update_self _ _ _
      · exact ih _ hnd h

end Plain

end RegProg

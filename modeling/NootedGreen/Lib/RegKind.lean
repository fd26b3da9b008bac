/-
# `Lib.RegKind` — registers that do not store what is written

A word written to a register of a device need not be the word it holds afterwards:

    plain             the word written
    writeOneToClear   the old word without the bits written
    masked            the old value bits, those under the mask of the word replaced

`kinded` is the device in which every address is a register of some kind; with plain
registers only it is `RegProg.plain`.  `Writes` says which words a program can write where,
whatever it reads, and `Footprint` only where; what a program has no write for it leaves
alone (`Writes.frame`).  Code that writes back what it has read empties a register of the
second kind in one pass and never changes one of the first (`run_writeBack_clears`,
`run_writeBack_plain`).
-/
import NootedGreen.Lib.MaskedReg
import NootedGreen.Lib.RegProg

inductive RegKind where
  | plain
  | writeOneToClear
  | masked
  deriving DecidableEq, Repr

/-- What a register holds after a write of `v`. -/
def RegKind.write : RegKind → BitVec 32 → BitVec 32 → BitVec 32
  | .plain, _, v => v
  | .writeOneToClear, old, v => old &&& ~~~v
  | .masked, old, v => MaskedReg.read (MaskedReg.write (old.setWidth 16) v)

namespace RegProg

variable {α ε γ δ : Type}

/-! ## What a program can write -/

/-- Every write is one that `G` allows, and every call is one of `C`, whatever is read. -/
def Writes {β : Type} (G : α → β → Prop) (C : ε → Prop) : RegProg α β ε γ → Prop
  | .ret _ => True
  | .read _ k => ∀ v, (k v).Writes G C
  | .write a v k => G a v ∧ k.Writes G C
  | .call e k => C e ∧ k.Writes G C

/-- Every write is to one of the addresses. -/
abbrev Footprint {β : Type} (l : List α) (C : ε → Prop) (p : RegProg α β ε γ) : Prop :=
  p.Writes (fun a _ => a ∈ l) C

namespace Writes

variable {β : Type} {G H : α → β → Prop} {C B : ε → Prop}

theorem pure (x : γ) : (Pure.pure x : RegProg α β ε γ).Writes G C := trivial

theorem get (a : α) : (get a : RegProg α β ε β).Writes G C := fun _ => trivial

theorem put {a : α} {v : β} (h : G a v) : (put a v : RegProg α β ε Unit).Writes G C :=
  ⟨h, trivial⟩

theorem invoke {e : ε} (h : C e) : (invoke e : RegProg α β ε Unit).Writes G C :=
  ⟨h, trivial⟩

theorem bind {p : RegProg α β ε γ} {f : γ → RegProg α β ε δ} (hp : p.Writes G C)
    (hf : ∀ x, (f x).Writes G C) : (p >>= f).Writes G C := by
  show (p.bind f).Writes G C
  induction p with
  | ret x => exact hf x
  | read a k ih => exact fun v => ih v (hp v)
  | write a v k ih => exact ⟨hp.1, ih hp.2⟩
  | call e k ih => exact ⟨hp.1, ih hp.2⟩

theorem onlyIf {c : Prop} {_ : Decidable c} {p : RegProg α β ε Unit} (h : p.Writes G C) :
    (onlyIf c p).Writes G C := by
  rw [RegProg.onlyIf]
  split
  · exact h
  · exact trivial

theorem forM {κ : Type} {f : κ → RegProg α β ε PUnit} {l : List κ}
    (h : ∀ x ∈ l, (f x).Writes G C) : (l.forM f).Writes G C := by
  induction l with
  | nil => exact trivial
  | cons x l ih =>
      obtain ⟨hx, hl⟩ := List.forall_mem_cons.mp h
      exact .bind hx fun _ => ih hl

theorem mono {p : RegProg α β ε γ} (h : p.Writes G C) (hG : ∀ a v, G a v → H a v)
    (hC : ∀ e, C e → B e) : p.Writes H B := by
  induction p with
  | ret x => exact trivial
  | read a k ih => exact fun v => ih v (h v)
  | write a v k ih => exact ⟨hG a v h.1, ih h.2⟩
  | call e k ih => exact ⟨hC e h.1, ih h.2⟩

/-- The same addresses among more. -/
theorem among {l l' : List α} {p : RegProg α β ε γ} (h : p.Footprint l C) (hsub : l ⊆ l') :
    p.Footprint l' C :=
  h.mono (fun _ _ ha => hsub ha) fun _ he => he

/-- The calls of a run are among those allowed. -/
theorem of_mem_calls {σ : Type} {D : Device α β ε σ} {p : RegProg α β ε γ}
    (h : p.Writes G C) : ∀ {s : σ}, ∀ c ∈ p.calls D s, C c.1 := by
  induction p with
  | ret x => exact fun _ hc => absurd hc List.not_mem_nil
  | read a k ih => exact fun c hc => ih _ (h _) c hc
  | write a v k ih => exact fun c hc => ih h.2 c hc
  | call e k ih =>
      intro s c hc
      rcases List.mem_cons.mp hc with rfl | hc
      · exact h.1
      · exact ih h.2 c hc

/-- Code that calls nothing outside. -/
theorem calls_eq_nil {σ : Type} {D : Device α β ε σ} {p : RegProg α β ε γ}
    (h : p.Writes G fun _ => False) (s : σ) : p.calls D s = [] :=
  List.eq_nil_iff_forall_not_mem.mpr fun c hc => h.of_mem_calls c hc

end Writes

/-! ## Registers of a kind -/

section Kinded

variable [DecidableEq α] (kind : α → RegKind) (call : ε → (α → BitVec 32) → (α → BitVec 32))

def kinded : Device α (BitVec 32) ε (α → BitVec 32) where
  read := fun a s => (s a, s)
  write := fun a v s => Function.update s a ((kind a).write (s a) v)
  call := call

theorem kinded_plain : kinded (fun _ : α => .plain) call = plain call := rfl

@[simp] theorem kinded_read (a : α) (s : α → BitVec 32) :
    (kinded kind call).read a s = (s a, s) := by
  rw [kinded]

@[simp] theorem kinded_write (a : α) (v : BitVec 32) (s : α → BitVec 32) :
    (kinded kind call).write a v s = Function.update s a ((kind a).write (s a) v) := by
  rw [kinded]

/-- A register outside the footprint keeps its word, unless a call changes it. -/
theorem Writes.frame {kind : α → RegKind} {call : ε → (α → BitVec 32) → (α → BitVec 32)}
    {l : List α} {C : ε → Prop} {r : α} (hr : r ∉ l)
    (hcall : ∀ e, C e → ∀ s, call e s r = s r) {p : RegProg α (BitVec 32) ε γ}
    (h : p.Footprint l C) : ∀ s, (p.run (kinded kind call) s).2 r = s r := by
  induction p with
  | ret x => exact fun _ => rfl
  | read a k ih =>
      intro s
      rw [run, kinded_read]
      exact ih _ (h _) s
  | write a v k ih =>
      intro s
      have hne : r ≠ a := fun heq => hr (heq ▸ h.1)
      rw [run, kinded_write, ih h.2]
      exact Function.update_of_ne hne _ _
  | call e k ih =>
      intro s
      rw [run, ih h.2]
      exact hcall e h.1 s

theorem Writes.frame_quiet {kind : α → RegKind}
    {call : ε → (α → BitVec 32) → (α → BitVec 32)} {l : List α} {r : α} (hr : r ∉ l)
    {p : RegProg α (BitVec 32) ε γ} (h : p.Footprint l fun _ => False) (s : α → BitVec 32) :
    (p.run (kinded kind call) s).2 r = s r :=
  h.frame hr (fun _ hfalse => hfalse.elim) s

end Kinded

/-! ## Writing back what was read -/

/-- `passes` more times: stop at zero, else write `v` back and read again. -/
def writeBack (a : α) : Nat → BitVec 32 → RegProg α (BitVec 32) ε (BitVec 32)
  | 0, v => pure v
  | passes + 1, v =>
      if v = 0 then pure v
      else do
        put a v
        let v ← get a
        writeBack a passes v

theorem footprint_writeBack {l : List α} {C : ε → Prop} {a : α} (h : a ∈ l) (passes : Nat)
    (v : BitVec 32) : (writeBack a passes v : RegProg α _ ε _).Footprint l C := by
  induction passes generalizing v with
  | zero => exact trivial
  | succ passes ih =>
      rw [writeBack]
      split
      · exact trivial
      · exact .bind (.put h) fun _ => .bind (.get a) fun v => ih v

theorem writeBack_zero (a : α) (passes : Nat) :
    (writeBack a passes 0 : RegProg α _ ε _) = pure 0 := by
  cases passes with
  | zero => rfl
  | succ passes => rw [writeBack, if_pos rfl]

section WriteBack

variable [DecidableEq α] {kind : α → RegKind} {call : ε → (α → BitVec 32) → (α → BitVec 32)}
  {a : α} (s : α → BitVec 32)

theorem run_writeBack_clears (h : kind a = .writeOneToClear) (passes : Nat) :
    (writeBack a (passes + 1) (s a)).run (kinded kind call) s = (0, Function.update s a 0) := by
  rw [writeBack, run_ite]
  split
  · next hzero => rw [run_pure, hzero, ← hzero, Function.update_eq_self]
  · have hclear : (kind a).write (s a) (s a) = 0 := by
      rw [h, RegKind.write, BitVec.and_not_self]
    simp only [run_bind, run_put, run_get, kinded_write, kinded_read, hclear,
      Function.update_self, writeBack_zero, run_pure]

theorem run_writeBack_plain (h : kind a = .plain) (passes : Nat) :
    (writeBack a passes (s a)).run (kinded kind call) s = (s a, s) := by
  induction passes with
  | zero => rw [writeBack, run_pure]
  | succ passes ih =>
      have hsame : Function.update s a ((kind a).write (s a) (s a)) = s := by
        rw [h, RegKind.write, Function.update_eq_self]
      rw [writeBack, run_ite]
      split
      · rw [run_pure]
      · simp only [run_bind, run_put, run_get, kinded_write, kinded_read, hsame, ih]

end WriteBack

end RegProg

/-
# `Mmio.Storage` — a mapped window as plain storage

Code that only reads and writes aligned registers inside the mapping, none of them a
plane's SURF register, cannot tell the plugin's accessors from a register file in which
every offset is a cell of its own (`window_simulates_plain`).  Such code is written once,
as a `RegProg`, and what is proved of it over a register file holds of the window
(`run_window`).
-/
import NootedGreen.Lib.RegProg
import NootedGreen.Mmio.Masked

namespace NootedGreen

open Mmio

variable {ε γ : Type}

/-- Code of the plugin over 32-bit registers, with calls `ε` into Apple's code. -/
abbrev RegCode (ε γ : Type) := RegProg (BitVec 32) (BitVec 32) ε γ

/-- The plugin's accessors as a device. -/
def window (call : ε → Mmio → Mmio) : Device (BitVec 32) (BitVec 32) ε Mmio where
  read := mmioAccess.read
  write := mmioAccess.write
  call := call

/-- Aligned, and among the first `bound` bytes. -/
def WindowReg (bound : Nat) (reg : BitVec 32) : Prop :=
  reg.toNat % 4 = 0 ∧ reg.toNat + 4 ≤ bound

instance (bound : Nat) : DecidablePred (WindowReg bound) := fun _ =>
  inferInstanceAs (Decidable (_ ∧ _))

/-- Aligned, among the first `bound` bytes, and not guarded. -/
def PlainReg (bound : Nat) (reg : BitVec 32) : Prop :=
  reg.toNat % 4 = 0 ∧ reg.toNat + 4 ≤ bound ∧ looksLikePlaneSurf (reg.setWidth 64) = false

instance (bound : Nat) : DecidablePred (PlainReg bound) := fun _ =>
  inferInstanceAs (Decidable (_ ∧ _ ∧ _))

theorem PlainReg.windowReg {bound : Nat} {reg : BitVec 32} (h : PlainReg bound reg) :
    WindowReg bound reg :=
  ⟨h.1, h.2.1⟩

/-- The window is mapped over `bound` bytes and its registers of the kind `P` hold what the file
says. -/
structure Shows (P : BitVec 32 → Prop) (bound : Nat) (s : Mmio) (f : RegFile) : Prop where
  covers : ∃ length, s.rmmio = some length ∧ bound ≤ length.toNat
  holds : ∀ reg, P reg → s.rmmioPtr.load32 reg.toNat = f reg

/-- All but the guarded ones do. -/
abbrev Views (bound : Nat) (s : Mmio) (f : RegFile) : Prop := Shows (PlainReg bound) bound s f

section Window

variable {P : BitVec 32 → Prop} {bound : Nat} {s : Mmio} {f : RegFile} {reg : BitVec 32}

theorem toNat_setWidth_reg (reg : BitVec 32) : (reg.setWidth 64).toNat = reg.toNat := by
  rw [BitVec.toNat_setWidth]
  exact Nat.mod_eq_of_lt (Nat.lt_trans reg.isLt (by decide))

theorem WindowReg.aligned (hreg : WindowReg bound reg) : (reg.setWidth 64).toNat % 4 = 0 := by
  rw [toNat_setWidth_reg]
  exact hreg.1

theorem Shows.mapped (h : Shows P bound s f) (hreg : WindowReg bound reg) :
    s.Mapped (reg.setWidth 64) := by
  obtain ⟨length, hlen, hle⟩ := h.covers
  refine ⟨length, hlen, ?_⟩
  rw [toNat_setWidth_reg]
  exact Nat.le_trans hreg.2 hle

theorem Shows.read (h : Shows P bound s f) (hreg : WindowReg bound reg) (hP : P reg) :
    (readReg32 (reg.setWidth 64) s).1 = f reg ∧
      Shows P bound (readReg32 (reg.setWidth 64) s).2 f := by
  have hmap := h.mapped hreg
  constructor
  · rw [readReg32_value hreg.aligned hmap, toNat_setWidth_reg]
    exact h.holds reg hP
  · refine ⟨?_, ?_⟩
    · rw [readReg32_rmmio]
      exact h.covers
    · rw [readReg32_bytes hmap]
      exact h.holds

/-- One register stored to, in the window and in the file. -/
theorem Shows.store (hwindow : ∀ r, P r → WindowReg bound r) (h : Shows P bound s f)
    (hreg : WindowReg bound reg) {v : BitVec 32} {t : Mmio} (hmap : t.rmmio = s.rmmio)
    (hbytes : t.rmmioPtr = s.rmmioPtr.store reg.toNat 4 v) :
    Shows P bound t (Function.update f reg v) := by
  refine ⟨hmap ▸ h.covers, ?_⟩
  intro r hr
  rw [hbytes]
  by_cases hsame : r = reg
  · subst hsame
    rw [ByteMem.load32_store_same, Function.update_self]
  · -- two aligned offsets that differ are four bytes apart
    have hne : r.toNat ≠ reg.toNat := fun heq => hsame (BitVec.eq_of_toNat_eq heq)
    have hr4 := (hwindow r hr).1
    have hreg4 := hreg.1
    rw [ByteMem.load32_store_disjoint _ _ (by omega), Function.update_of_ne hsame]
    exact h.holds r hr

theorem Views.write (h : Views bound s f) (hreg : PlainReg bound reg) (v : BitVec 32) :
    Views bound (writeReg32 (reg.setWidth 64) v s) (Function.update f reg v) := by
  have hbytes : (writeReg32 (reg.setWidth 64) v s).rmmioPtr = s.rmmioPtr.store _ 4 v :=
    writeReg32_stores hreg.windowReg.aligned (h.mapped hreg.windowReg) (.inr (.inl hreg.2.2))
  rw [toNat_setWidth_reg] at hbytes
  exact h.store (fun _ => PlainReg.windowReg) hreg.windowReg (writeReg32_rmmio _ _ _) hbytes

end Window

theorem window_simulates_plain {bound : Nat} {call : ε → Mmio → Mmio}
    {call' : ε → RegFile → RegFile}
    (hcall : ∀ e s f, Views bound s f → Views bound (call e s) (call' e f)) :
    RegProg.Simulates (window call) (RegProg.plain call') (PlainReg bound) (Views bound) where
  read := fun _ _ _ hreg h => h.read hreg.windowReg hreg
  write := fun _ v _ _ hreg h => Views.write h hreg v
  call := hcall

/-- What the code leaves in a register file it leaves in the window. -/
theorem run_window {bound : Nat} {call : ε → Mmio → Mmio} {call' : ε → RegFile → RegFile}
    (hcall : ∀ e s f, Views bound s f → Views bound (call e s) (call' e f))
    {code : RegCode ε γ} (hcode : code.Reaches (PlainReg bound)) {s : Mmio} {f : RegFile}
    (h : Views bound s f) :
    Views bound (code.run (window call) s).2 (code.run (RegProg.plain call') f).2 :=
  ((window_simulates_plain hcall).run hcode h).2

/-- It makes the same calls, and at each the window shows what the file holds. -/
theorem calls_window {bound : Nat} {call : ε → Mmio → Mmio} {call' : ε → RegFile → RegFile}
    (hcall : ∀ e s f, Views bound s f → Views bound (call e s) (call' e f))
    {code : RegCode ε γ} (hcode : code.Reaches (PlainReg bound)) {s : Mmio} {f : RegFile}
    (h : Views bound s f) :
    List.Forall₂ (fun c c' => c.1 = c'.1 ∧ Views bound c.2 c'.2)
      (code.calls (window call) s) (code.calls (RegProg.plain call') f) :=
  (window_simulates_plain hcall).calls hcode h

end NootedGreen

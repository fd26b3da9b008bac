/-
# `Mmio.Masked` — the masked workarounds on masked registers

`wa_add` and what is built on it reach a register only through a read and a write,
so the same code can be run on other hardware than plain storage: `Accessors` is
what it needs.  Over `readReg32` and `writeReg32` it is the code of
`Mmio.Workarounds` (`waAddOn_mmio` and its siblings).  Over a register file with
masked registers in it,

    wa_masked_en, wa_mcr_masked_en   leave old | val
    wa_masked_field_set              leaves old | mask, whatever val is

`wa_add` strikes the value bits out of `set`, and what sets the bits is `read_mask`
alone.  For a field that is the whole mask (`masked_workarounds_iff`): mask `0x6`
with value `0x2`, as both workaround lists have it, ends at `0x6`.
-/
import NootedGreen.Mmio.PlaneArming
import NootedGreen.Lib.Bits
import NootedGreen.Lib.MaskedReg
import Mathlib.Logic.Function.Basic

namespace NootedGreen

/-! ## The code over any accessors -/

/-- A read and a write of 32-bit registers by offset. -/
structure Accessors (σ : Type) where
  read : BitVec 32 → σ → BitVec 32 × σ
  write : BitVec 32 → BitVec 32 → σ → σ

section Code

variable {σ : Type} (acc : Accessors σ)

def waAddOn (reg clear set readMask : BitVec 32) (maskedReg : Bool) (s : σ) : σ :=
  let set := if maskedReg then set &&& ~~~(set >>> 16) else set
  let (old, s) := acc.read reg s
  let val := (old &&& ~~~clear) ||| set
  let val := val ||| readMask
  acc.write reg val s

def waMaskedEnOn (reg val : BitVec 32) (s : σ) : σ :=
  waAddOn acc reg 0 (maskedBitEnable val) val true s

def waMaskedFieldSetOn (reg mask val : BitVec 32) (s : σ) : σ :=
  waAddOn acc reg 0 (maskedField mask val) mask true s

def waMcrAddOn (reg clear set readMask : BitVec 32) (maskedReg : Bool) (s : σ) : σ :=
  waAddOn acc reg clear set readMask maskedReg s

def waMcrMaskedEnOn (reg val : BitVec 32) (s : σ) : σ :=
  waMcrAddOn acc reg 0 (maskedBitEnable val) val true s

end Code

/-- The accessors of the plugin. -/
def mmioAccess : Accessors Mmio where
  read := fun reg => readReg32 (reg.setWidth 64)
  write := fun reg => writeReg32 (reg.setWidth 64)

theorem waAddOn_mmio : waAddOn mmioAccess = waAdd := rfl

theorem waMaskedEnOn_mmio : waMaskedEnOn mmioAccess = waMaskedEn := rfl

theorem waMaskedFieldSetOn_mmio : waMaskedFieldSetOn mmioAccess = waMaskedFieldSet := rfl

theorem waMcrMaskedEnOn_mmio : waMcrMaskedEnOn mmioAccess = waMcrMaskedEn := rfl

/-! ## Masked registers -/

/-- A register file; `masked` says which offsets are masked registers. -/
abbrev RegFile := BitVec 32 → BitVec 32

def RegFile.value (s : RegFile) (reg : BitVec 32) : BitVec 16 := (s reg).setWidth 16

def maskedAccess (masked : BitVec 32 → Bool) : Accessors RegFile where
  read := fun reg s => (if masked reg then MaskedReg.read (s.value reg) else s reg, s)
  write := fun reg w s =>
    Function.update s reg
      (if masked reg then MaskedReg.read (MaskedReg.write (s.value reg) w) else w)

/-- The word `wa_add` writes to a masked register: the mask asked for in the upper half;
in the lower half the old bits, with those of `read_mask` set. -/
theorem getLsbD_waValue (old mask val readMask : BitVec 16) {b : Nat} (hb : b < 16) :
    let w := RegCall.waValue 0 (maskedField (mask.setWidth 32) (val.setWidth 32))
      (readMask.setWidth 32) (MaskedReg.read old) true
    w.getLsbD (16 + b) = mask.getLsbD b ∧
    w.getLsbD b = (old.getLsbD b || (val.getLsbD b && !mask.getLsbD b) || readMask.getLsbD b) := by
  have hkeep : ∀ x : BitVec 32, x &&& ~~~0 = x := fun x => BitVec.and_allOnes
  have hlow : b < 32 := by omega
  have hhigh : 16 + b < 32 := by omega
  have hnot : ¬ 16 + b < 16 := by omega
  have hzero : ∀ x : BitVec 16, x.getLsbD (16 + b) = false :=
    fun x => BitVec.getLsbD_of_ge x (16 + b) (Nat.le_add_right 16 b)
  simp only [RegCall.waValue, maskedField, MaskedReg.read, hkeep, if_true, BitVec.getLsbD_or,
    BitVec.getLsbD_and, BitVec.getLsbD_not, BitVec.getLsbD_setWidth, BitVec.getLsbD_shiftLeft,
    BitVec.getLsbD_ushiftRight, Nat.add_sub_cancel_left, hlow, hhigh, hnot, hb, hzero]
  constructor
  · simp
  · simp

/-- What it makes of the register: `val` has no part in it. -/
theorem write_waValue (old mask val readMask : BitVec 16) :
    MaskedReg.write old (RegCall.waValue 0 (maskedField (mask.setWidth 32) (val.setWidth 32))
      (readMask.setWidth 32) (MaskedReg.read old) true) = old ||| (readMask &&& mask) := by
  refine BitVec.eq_of_getLsbD_eq fun b hb => ?_
  obtain ⟨hmask, hbit⟩ := getLsbD_waValue old mask val readMask hb
  rw [MaskedReg.getLsbD_write _ _ hb, hmask, hbit, BitVec.getLsbD_or, BitVec.getLsbD_and]
  cases mask.getLsbD b <;> cases old.getLsbD b <;> cases readMask.getLsbD b <;> simp

/-! ## The workarounds -/

section Effect

variable {masked : BitVec 32 → Bool} {reg : BitVec 32} (hreg : masked reg = true) (s : RegFile)

include hreg

theorem waAddOn_masked (mask val readMask : BitVec 16) :
    waAddOn (maskedAccess masked) reg 0 (maskedField (mask.setWidth 32) (val.setWidth 32))
        (readMask.setWidth 32) true s =
      Function.update s reg (MaskedReg.read (s.value reg ||| (readMask &&& mask))) := by
  rw [← write_waValue (s.value reg) mask val readMask]
  simp only [waAddOn, maskedAccess, hreg, if_true]
  rfl

theorem waMaskedEnOn_masked (val : BitVec 16) :
    waMaskedEnOn (maskedAccess masked) reg (val.setWidth 32) s =
      Function.update s reg (MaskedReg.read (s.value reg ||| val)) := by
  rw [waMaskedEnOn, maskedBitEnable, waAddOn_masked hreg, BitVec.and_self]

theorem waMaskedFieldSetOn_masked (mask val : BitVec 16) :
    waMaskedFieldSetOn (maskedAccess masked) reg (mask.setWidth 32) (val.setWidth 32) s =
      Function.update s reg (MaskedReg.read (s.value reg ||| mask)) := by
  rw [waMaskedFieldSetOn, waAddOn_masked hreg, BitVec.and_self]

end Effect

/-- The register ends at `v`, and no other register changes. -/
def Leaves (s : RegFile) (reg : BitVec 32) (v : BitVec 16) (t : RegFile) : Prop :=
  t = Function.update s reg (MaskedReg.read v)

theorem read_inj {u v : BitVec 16} (h : MaskedReg.read u = MaskedReg.read v) : u = v := by
  have hback : ∀ x : BitVec 16, (MaskedReg.read x).setWidth 16 = x := fun x =>
    BitVec.setWidth_setWidth_of_le x (by decide)
  rw [← hback u, h, hback v]

theorem waMaskedFieldSetOn_leaves_iff {masked : BitVec 32 → Bool} {reg : BitVec 32}
    (hreg : masked reg = true) (s : RegFile) {mask val : BitVec 16}
    (hval : val &&& ~~~mask = 0) :
    Leaves s reg ((s.value reg &&& ~~~mask) ||| val)
        (waMaskedFieldSetOn (maskedAccess masked) reg (mask.setWidth 32) (val.setWidth 32) s) ↔
      val = mask := by
  rw [Leaves, waMaskedFieldSetOn_masked hreg, ← Bits.or_eq_replace_iff (s.value reg) hval]
  constructor
  · intro h
    have hreg' := congrFun h reg
    rw [Function.update_self, Function.update_self] at hreg'
    exact read_inj hreg'
  · intro h
    rw [h]

/-- On a masked register the bit enables do what they say, and the field write exactly when
the field is to be all ones. -/
theorem masked_workarounds_iff (masked : BitVec 32 → Bool) (reg : BitVec 32)
    (hreg : masked reg = true) (s : RegFile) :
    let acc := maskedAccess masked
    let old := s.value reg
    (∀ val : BitVec 16,
      Leaves s reg (old ||| val) (waMaskedEnOn acc reg (val.setWidth 32) s) ∧
      Leaves s reg (old ||| val) (waMcrMaskedEnOn acc reg (val.setWidth 32) s)) ∧
    ∀ mask val : BitVec 16, val &&& ~~~mask = 0 →
      (Leaves s reg ((old &&& ~~~mask) ||| val)
          (waMaskedFieldSetOn acc reg (mask.setWidth 32) (val.setWidth 32) s) ↔
        val = mask) := by
  refine ⟨fun val => ?_, fun mask val hval => waMaskedFieldSetOn_leaves_iff hreg s hval⟩
  exact ⟨waMaskedEnOn_masked hreg s val, waMaskedEnOn_masked hreg s val⟩

/-- `GEN8_CS_CHICKEN1` as a masked register of a file of zeros. -/
theorem masked_workarounds_csChicken1 :
    Leaves (fun _ => 0) 0x2580 ((0 : BitVec 16) ||| 0x6)
      (waMaskedEnOn (maskedAccess fun _ => true) 0x2580 0x6 fun _ => 0) :=
  ((masked_workarounds_iff (fun _ => true) 0x2580 rfl fun _ => 0).1 0x6).1

/-- The thread-group preemption level of both workaround lists. -/
theorem preemptLevel_not_left :
    ¬ Leaves (fun _ => 0) 0x2580 (((0 : BitVec 16) &&& ~~~0x6) ||| 0x2)
      (waMaskedFieldSetOn (maskedAccess fun _ => true) 0x2580 0x6 0x2 fun _ => 0) := by
  intro h
  have hfull := (@waMaskedFieldSetOn_leaves_iff (fun _ => true) 0x2580 rfl (fun _ => 0) 0x6 0x2
    (by decide)).mp h
  exact absurd hfull (by decide)

end NootedGreen

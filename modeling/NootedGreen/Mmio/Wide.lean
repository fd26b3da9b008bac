/-
# `Mmio.Wide` — the 64-bit accessors

`readReg64` and `writeReg64` are declared over the same window as the 32-bit
accessors and take the same byte offsets, but they scale differently:

    accessor     check                  dword accessed     bytes moved
    readReg32    reg + 4 ≤ length       reg >> 2           4
    readReg64    reg * 8 < length       reg                4, zero-extended
    writeReg64   reg * 8 < length       reg                4, the low half

So they are no 64-bit view of the window.  `wideView_iff` says for which window,
offset and value they look like one all the same: at offset 0 when the high
halves are zero, and elsewhere only when every word that is compared happens to
hold the value already.
-/
import Mathlib.Algebra.Group.Nat.Defs
import NootedGreen.Mmio.Access

namespace NootedGreen

open Mmio

def readReg64 (reg : BitVec 64) (s : Mmio) : BitVec 64 × Mmio :=
  match s.rmmio with
  | none => (0, s)
  | some length =>
      let (val, s) :=
        if reg * 8 < length then s.peek reg.toNat
        else (s.poke mmPCIE_INDEX2 (reg.setWidth 32)).peek mmPCIE_DATA2
      (val.setWidth 64, s)

def writeReg64 (reg val : BitVec 64) (s : Mmio) : Mmio :=
  match s.rmmio with
  | none => s
  | some length =>
      let (val, s) :=
        if looksLikePlaneSurf reg = true ∧ val = 0 then
          let ctlReg := planeCtlReg reg
          let (planCtl, s) := readReg32 (ctlReg.setWidth 64) s
          if planCtl &&& 0x80000000 ≠ 0 then
            let (currentSurf, s) := readReg32 reg s
            if currentSurf ≠ 0 then (currentSurf.setWidth 64, s)
            else (val, writeReg32 (ctlReg.setWidth 64) (planCtl &&& ~~~0x80000000) s)
          else (val, s)
        else (val, s)
      if reg * 8 < length then s.poke reg.toNat (val.setWidth 32)
      else (s.poke mmPCIE_INDEX2 (reg.setWidth 32)).poke mmPCIE_DATA2 (val.setWidth 32)

/-! ## What a 64-bit view would be -/

/-- The 64-bit accessors at `r` agree with the 32-bit ones at `r` and `r + 4`: for the
value `v` written and for the window as it is. -/
structure WideView (s : Mmio) (length r v : BitVec 64) : Prop where
  readBack : (readReg64 r (writeReg64 r v s)).1 = v
  low : (writeReg64 r v s).get r = v.setWidth 32
  high : (writeReg64 r v s).get (r + 4) = (v >>> 32).setWidth 32
  frame : ∀ i, 4 * i + 4 ≤ length.toNat → i ≠ r.toNat / 4 → i ≠ r.toNat / 4 + 1 →
    (writeReg64 r v s).rmmioPtr.load32 (4 * i) = s.rmmioPtr.load32 (4 * i)
  view : (readReg64 r s).1.toNat = (s.get r).toNat + 2 ^ 32 * (s.get (r + 4)).toNat

/-- The dword at byte offset `a`, as a number. -/
def Mmio.word (s : Mmio) (a : Nat) : Nat := (s.rmmioPtr.load32 a).toNat

/-- The coincidences under which the accessors look like a 64-bit view. -/
def WideCoincides (s : Mmio) (length r v : BitVec 64) : Prop :=
  s.word (r.toNat + 4) = 0 ∧
  if r * 8 < length then
    v.toNat < 2 ^ 32 ∧ (r.toNat = 0 ∨ s.word r.toNat = v.toNat ∧ s.word (4 * r.toNat) = v.toNat)
  else
    s.word r.toNat = v.toNat ∧ s.word (4 * mmPCIE_DATA2) = v.toNat ∧
      (4 * mmPCIE_INDEX2 + 4 ≤ length.toNat →
        s.word (4 * mmPCIE_INDEX2) = r.toNat % 2 ^ 32)

/-! ## The halves of a value -/

theorem low_toNat (v : BitVec 64) : (v.setWidth 32).toNat = v.toNat % 2 ^ 32 :=
  BitVec.toNat_setWidth 32 v

theorem high_toNat (v : BitVec 64) : ((v >>> 32).setWidth 32).toNat = v.toNat / 2 ^ 32 := by
  have hlt := v.isLt
  rw [BitVec.toNat_setWidth, BitVec.toNat_ushiftRight, Nat.shiftRight_eq_div_pow]
  omega

theorem Mmio.word_lt (s : Mmio) (a : Nat) : s.word a < 2 ^ 32 := (s.rmmioPtr.load32 a).isLt

theorem toNat_setWidth_word (s : Mmio) (a : Nat) :
    ((s.rmmioPtr.load32 a).setWidth 64).toNat = s.word a := by
  rw [BitVec.toNat_setWidth]
  exact Nat.mod_eq_of_lt (Nat.lt_trans (s.word_lt a) (by decide))

/-- Aligned words either coincide or are apart. -/
theorem Mmio.word_poke (s : Mmio) {i a : Nat} (v : BitVec 32) (ha : a % 4 = 0) :
    (s.poke i v).word a = if a = 4 * i then v.toNat else s.word a := by
  rw [word, poke_rmmioPtr]
  split
  · rename_i h
    rw [h, ByteMem.load32_store_same]
  · rw [ByteMem.load32_store_disjoint _ _ (by omega)]
    rfl

section Aligned

variable {s : Mmio} {length r : BitVec 64} (hlen : s.rmmio = some length)

/-! ## The accessors, case by case -/

include hlen in
theorem readReg64_direct (hd : r * 8 < length) :
    (readReg64 r s).1.toNat = s.word (4 * r.toNat) := by
  simp only [readReg64, hlen, if_pos hd, peek]
  exact toNat_setWidth_word s _

include hlen in
theorem readReg64_indirect (hd : ¬ r * 8 < length) :
    (readReg64 r s).1.toNat = s.word (4 * mmPCIE_DATA2) := by
  simp only [readReg64, hlen, if_neg hd, peek, poke_rmmioPtr]
  rw [ByteMem.load32_store_disjoint _ _ (by decide)]
  exact toNat_setWidth_word s _

/-- SURF offsets are 4 modulo 8. -/
theorem not_surf_of_aligned8 (h8 : r.toNat % 8 = 0) : looksLikePlaneSurf r = false := by
  rw [Bool.eq_false_iff]
  intro hsurf
  obtain ⟨-, -, hmod⟩ := (looksLikePlaneSurf_iff r).mp hsurf
  omega

variable (h8 : r.toNat % 8 = 0)

include hlen h8

theorem writeReg64_aligned (v : BitVec 64) :
    writeReg64 r v s =
      if r * 8 < length then s.poke r.toNat (v.setWidth 32)
      else (s.poke mmPCIE_INDEX2 (r.setWidth 32)).poke mmPCIE_DATA2 (v.setWidth 32) := by
  have hg : ¬ (looksLikePlaneSurf r = true ∧ v = 0) := by
    rw [not_surf_of_aligned8 h8]
    exact fun h => Bool.false_ne_true h.1
  simp only [writeReg64, hlen, if_neg hg]

theorem writeReg64_rmmio (v : BitVec 64) : (writeReg64 r v s).rmmio = some length := by
  rw [writeReg64_aligned hlen h8]
  split <;> exact hlen

theorem writeReg64_word_direct (hd : r * 8 < length) (v : BitVec 64) {a : Nat} (ha : a % 4 = 0) :
    (writeReg64 r v s).word a = if a = 4 * r.toNat then v.toNat % 2 ^ 32 else s.word a := by
  rw [writeReg64_aligned hlen h8, if_pos hd, word_poke s _ ha, low_toNat]

theorem writeReg64_word_indirect (hd : ¬ r * 8 < length) (v : BitVec 64) {a : Nat}
    (ha : a % 4 = 0) :
    (writeReg64 r v s).word a =
      if a = 4 * mmPCIE_DATA2 then v.toNat % 2 ^ 32
      else if a = 4 * mmPCIE_INDEX2 then r.toNat % 2 ^ 32 else s.word a := by
  rw [writeReg64_aligned hlen h8, if_neg hd, word_poke _ _ ha, word_poke s _ ha, low_toNat,
    low_toNat]

variable (hfit : r.toNat + 8 ≤ length.toNat)

include hfit

theorem get_low : s.get r = s.rmmioPtr.load32 r.toNat := by
  rw [get_mapped ⟨length, hlen, by omega⟩, dword_of_aligned s (by omega)]

theorem get_high : s.get (r + 4) = s.rmmioPtr.load32 (r.toNat + 4) := by
  have hlt := length.isLt
  have hnext : (r + 4).toNat = r.toNat + 4 := by
    rw [BitVec.toNat_add]
    exact Nat.mod_eq_of_lt (by simp; omega)
  rw [get_mapped ⟨length, hlen, by omega⟩, dword_of_aligned s (by omega), hnext]

/-! ## The view in words -/

/-- Both sides of every equation of the view are words of the window or halves of `v`. -/
theorem wideView_iff_words (v : BitVec 64) :
    WideView s length r v ↔
      (readReg64 r (writeReg64 r v s)).1.toNat = v.toNat ∧
      (writeReg64 r v s).word r.toNat = v.toNat % 2 ^ 32 ∧
      (writeReg64 r v s).word (r.toNat + 4) = v.toNat / 2 ^ 32 ∧
      (∀ i, 4 * i + 4 ≤ length.toNat → i ≠ r.toNat / 4 → i ≠ r.toNat / 4 + 1 →
        (writeReg64 r v s).word (4 * i) = s.word (4 * i)) ∧
      (readReg64 r s).1.toNat = s.word r.toNat + 2 ^ 32 * s.word (r.toNat + 4) := by
  have hmap := writeReg64_rmmio hlen h8 v
  have hlow := get_low hmap h8 hfit
  have hhigh := get_high hmap h8 hfit
  constructor
  · intro h
    refine ⟨congrArg BitVec.toNat h.readBack, ?_, ?_, ?_, ?_⟩
    · rw [word, ← hlow, h.low, low_toNat]
    · rw [word, ← hhigh, h.high, high_toNat]
    · intro i hi hne hne'
      exact congrArg BitVec.toNat (h.frame i hi hne hne')
    · rw [h.view, get_low hlen h8 hfit, get_high hlen h8 hfit, word, word]
  · rintro ⟨hback, hl, hh, hframe, hview⟩
    refine ⟨BitVec.eq_of_toNat_eq hback, ?_, ?_, ?_, ?_⟩
    · exact BitVec.eq_of_toNat_eq (by rw [hlow, low_toNat]; exact hl)
    · exact BitVec.eq_of_toNat_eq (by rw [hhigh, high_toNat]; exact hh)
    · intro i hi hne hne'
      exact BitVec.eq_of_toNat_eq (hframe i hi hne hne')
    · rw [hview, get_low hlen h8 hfit, get_high hlen h8 hfit, word, word]

/-- Below `length / 8` the dword `r` is accessed, four times as far into the window. -/
theorem wideView_direct_iff (hd : r * 8 < length) (v : BitVec 64) :
    WideView s length r v ↔
      s.word (r.toNat + 4) = 0 ∧ v.toNat < 2 ^ 32 ∧
        (r.toNat = 0 ∨ s.word r.toNat = v.toNat ∧ s.word (4 * r.toNat) = v.toNat) := by
  have hword := fun a => writeReg64_word_direct (a := a) hlen h8 hd v
  have hlt := s.word_lt r.toNat
  rw [wideView_iff_words hlen h8 hfit, readReg64_direct (writeReg64_rmmio hlen h8 v) hd,
    readReg64_direct hlen hd, hword _ (by omega), hword _ (by omega), hword _ (by omega),
    if_pos rfl, if_neg (by omega : r.toNat + 4 ≠ 4 * r.toNat)]
  constructor
  · rintro ⟨hback, hlow, hhigh, -, hview⟩
    refine ⟨by omega, by omega, ?_⟩
    by_cases hr : r.toNat = 0
    · exact .inl hr
    · rw [if_neg (by omega)] at hlow
      exact .inr (by omega)
  · rintro ⟨hzero, hsmall, hcase⟩
    refine ⟨by omega, ?_, by omega, ?_, ?_⟩
    · split <;> omega
    · intro i _ hne _
      rw [hword _ (by omega)]
      -- the dword really written holds the value already, or it is dword 0
      split
      · have hi : i = r.toNat := by omega
        subst hi
        omega
      · rfl
    · rcases hcase with hr | hcase
      · rw [hr, Nat.mul_zero]
        rw [hr] at hzero
        omega
      · omega

/-- Past `length / 8` the index/data pair is used, which is in the window itself. -/
theorem wideView_indirect_iff (hd : ¬ r * 8 < length) (v : BitVec 64) :
    WideView s length r v ↔
      s.word (r.toNat + 4) = 0 ∧ s.word r.toNat = v.toNat ∧ s.word (4 * mmPCIE_DATA2) = v.toNat ∧
        (4 * mmPCIE_INDEX2 + 4 ≤ length.toNat →
          s.word (4 * mmPCIE_INDEX2) = r.toNat % 2 ^ 32) := by
  have hword := fun a => writeReg64_word_indirect (a := a) hlen h8 hd v
  have hlt := s.word_lt r.toNat
  rw [wideView_iff_words hlen h8 hfit, readReg64_indirect (writeReg64_rmmio hlen h8 v) hd,
    readReg64_indirect hlen hd, hword _ (by omega), hword _ (by omega), hword _ (by omega),
    if_pos rfl]
  have hI : mmPCIE_INDEX2 = 0xE := rfl
  have hD : mmPCIE_DATA2 = 0xF := rfl
  constructor
  · rintro ⟨hback, hlow, hhigh, hframe, hview⟩
    have hne : r.toNat ≠ 4 * mmPCIE_INDEX2 := by
      -- the offset of the index register itself: both halves would be the value
      intro hr
      rw [if_neg (by omega), if_pos hr] at hlow
      rw [if_pos (by omega)] at hhigh
      omega
    rw [if_neg (by omega), if_neg (by omega)] at hlow hhigh
    refine ⟨by omega, by omega, by omega, fun hidx => ?_⟩
    have hsame := hframe mmPCIE_INDEX2 hidx (by omega) (by omega)
    rw [hword _ (by omega), if_neg (by omega), if_pos rfl] at hsame
    exact hsame.symm
  · rintro ⟨hzero, hold, hdata, hidx⟩
    have hne : r.toNat ≠ 4 * mmPCIE_INDEX2 := by
      intro hr
      have hbase := hidx (by omega)
      have hpair : r.toNat + 4 = 4 * mmPCIE_DATA2 := by omega
      rw [hpair] at hzero
      rw [← hr] at hbase
      omega
    rw [if_neg (by omega : r.toNat ≠ 4 * mmPCIE_DATA2), if_neg hne,
      if_neg (by omega : r.toNat + 4 ≠ 4 * mmPCIE_DATA2),
      if_neg (by omega : r.toNat + 4 ≠ 4 * mmPCIE_INDEX2)]
    refine ⟨by omega, by omega, by omega, ?_, by omega⟩
    intro i hi _ _
    rw [hword _ (by omega)]
    split
    · have hi' : i = mmPCIE_DATA2 := by omega
      subst hi'
      omega
    · split
      · have hi' : i = mmPCIE_INDEX2 := by omega
        subst hi'
        exact (hidx hi).symm
      · rfl

/-- The accessors behave as a 64-bit view exactly under these coincidences. -/
theorem wideView_iff (v : BitVec 64) :
    WideView s length r v ↔ WideCoincides s length r v := by
  rw [WideCoincides]
  split
  · exact wideView_direct_iff hlen h8 hfit ‹_› v
  · exact wideView_indirect_iff hlen h8 hfit ‹_› v

end Aligned

/-- A window of 16 MiB whose first dwords are zero: the value 5 at offset 0. -/
theorem wideView_at_zero : WideView (zeroWindow 0x1000000) 0x1000000 0 5 :=
  (wideView_iff rfl (by decide) (by decide) 5).mpr ⟨by decide, by decide⟩

/-- A 64-bit write at offset 8 of an all-zero window goes to dword 8 and loses the
upper half. -/
theorem writeReg64_no_wideView :
    ¬ WideView (zeroWindow 0x1000000) 0x1000000 8 0x100000001 := by
  intro h
  obtain ⟨-, hsmall, -⟩ := (wideView_direct_iff rfl (by decide) (by decide) (by decide) _).mp h
  exact absurd hsmall (by decide)

end NootedGreen

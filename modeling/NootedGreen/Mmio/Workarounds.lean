/-
# `Mmio.Workarounds` — read-modify-write helpers and the `wa_*` family

The i915 names, with their call layers kept: `wa_write_or` calls
`wa_write_clr_set`, which calls `wa_add`, which reads, combines and calls
`writeReg32`.

**`read_mask` is or-ed into the value.**  `wa_add` computes
`((old & ~clear) | set) | read_mask`, and every wrapper that clears bits passes
`clear | set` as the mask.  So `wa_write_clr_set` has the meaning of
`intel_de_rmw` exactly when every cleared bit is also set
(`waWriteClrSet_rmw_iff`); clearing for its own sake sets the bits instead, and
the MCR selector ends at slice 3, subslice 3 (`mcrSelectorWa_selects`).
-/
import NootedGreen.Mmio.Access
import NootedGreen.Lib.Bits

namespace NootedGreen

open Mmio

def intelDeRmw (reg clear set : BitVec 32) (s : Mmio) : BitVec 32 × Mmio :=
  let (old, s) := readReg32 (reg.setWidth 64) s
  let val := (old &&& ~~~clear) ||| set
  (old, writeReg32 (reg.setWidth 64) val s)

def whitelistRegExt (reg flags : BitVec 32) (s : Mmio) : Mmio :=
  let (old, s) := readReg32 (reg.setWidth 64) s
  let old := old ||| flags
  writeReg32 (reg.setWidth 64) old s

/-- `RING_FORCE_TO_NONPRIV_ACCESS_RW`. -/
def ringForceToNonprivAccessRw : BitVec 32 := 0 <<< 28

def whitelistReg (reg : BitVec 32) (s : Mmio) : Mmio :=
  whitelistRegExt reg ringForceToNonprivAccessRw s

def waAdd (reg clear set readMask : BitVec 32) (maskedReg : Bool) (s : Mmio) : Mmio :=
  -- a masked register keeps the enable mask and resets the target bits
  let set := if maskedReg then set &&& ~~~(set >>> 16) else set
  let (old, s) := readReg32 (reg.setWidth 64) s
  let val := (old &&& ~~~clear) ||| set
  let val := val ||| readMask
  writeReg32 (reg.setWidth 64) val s

/-- `_MASKED_FIELD`. -/
def maskedField (mask value : BitVec 32) : BitVec 32 := (mask <<< 16) ||| value

/-- `_MASKED_BIT_ENABLE`. -/
def maskedBitEnable (a : BitVec 32) : BitVec 32 := maskedField a a

def waMaskedEn (reg val : BitVec 32) (s : Mmio) : Mmio :=
  waAdd reg 0 (maskedBitEnable val) val true s

def waMaskedFieldSet (reg mask val : BitVec 32) (s : Mmio) : Mmio :=
  waAdd reg 0 (maskedField mask val) mask true s

def waWriteClrSet (reg clear set : BitVec 32) (s : Mmio) : Mmio :=
  waAdd reg clear set (clear ||| set) false s

def waMcrAdd (reg clear set readMask : BitVec 32) (maskedReg : Bool) (s : Mmio) : Mmio :=
  waAdd reg clear set readMask maskedReg s

def waMcrMaskedEn (reg val : BitVec 32) (s : Mmio) : Mmio :=
  waMcrAdd reg 0 (maskedBitEnable val) val true s

def waMcrWriteClrSet (reg clear set : BitVec 32) (s : Mmio) : Mmio :=
  waMcrAdd reg clear set (clear ||| set) false s

def waWrite (reg set : BitVec 32) (s : Mmio) : Mmio := waWriteClrSet reg (~~~0) set s

def waWriteOr (reg set : BitVec 32) (s : Mmio) : Mmio := waWriteClrSet reg set set s

def waMcrWriteOr (reg set : BitVec 32) (s : Mmio) : Mmio := waMcrWriteClrSet reg set set s

def waWriteClr (reg clr : BitVec 32) (s : Mmio) : Mmio := waWriteClrSet reg clr 0 s

def waMcrWriteClr (reg clr : BitVec 32) (s : Mmio) : Mmio := waMcrWriteClrSet reg clr 0 s

/-! ## The effect of one call -/

section Effect

variable (s : Mmio) {reg : BitVec 32}
  (hreg : looksLikePlaneSurf (reg.setWidth 64) = false)

include hreg

/-- Read, combine, write back: the shape all of them have. -/
theorem rmw_effect (f : BitVec 32 → BitVec 32) :
    (writeReg32 (reg.setWidth 64) (f (readReg32 (reg.setWidth 64) s).1)
      (readReg32 (reg.setWidth 64) s).2).rmmioPtr =
        s.put (reg.setWidth 64) (f (s.get (reg.setWidth 64))) := by
  rw [writeReg32_put, readReg32_put]
  · rfl
  · rw [hreg]
    exact fun h => Bool.false_ne_true h.1

theorem intelDeRmw_effect (clear set : BitVec 32) :
    (intelDeRmw reg clear set s).2.rmmioPtr =
      s.put (reg.setWidth 64) ((s.get (reg.setWidth 64) &&& ~~~clear) ||| set) :=
  rmw_effect s hreg fun old => (old &&& ~~~clear) ||| set

theorem waWriteClrSet_effect (clear set : BitVec 32) :
    (waWriteClrSet reg clear set s).rmmioPtr =
      s.put (reg.setWidth 64)
        (((s.get (reg.setWidth 64) &&& ~~~clear) ||| set) ||| (clear ||| set)) :=
  rmw_effect s hreg fun old => ((old &&& ~~~clear) ||| set) ||| (clear ||| set)

end Effect

/-! ## When clearing means clearing -/

section Meaning

variable {s : Mmio} (hlive : s.mmioValid = true) {reg : BitVec 32}
  (hreg : looksLikePlaneSurf (reg.setWidth 64) = false)

include hlive hreg

theorem waWriteClrSet_rmw_iff (clear set : BitVec 32) :
    (waWriteClrSet reg clear set s).rmmioPtr =
        s.put (reg.setWidth 64) ((s.get (reg.setWidth 64) &&& ~~~clear) ||| set) ↔
      clear &&& ~~~set = 0 := by
  rw [waWriteClrSet_effect s hreg, put_inj hlive, Bits.or_eq_left_iff, Bits.rmw_excess]
  exact Iff.rfl

theorem waWrite_rmw_iff (set : BitVec 32) :
    (waWrite reg set s).rmmioPtr = s.put (reg.setWidth 64) set ↔ set = ~~~0 := by
  have h := waWriteClrSet_rmw_iff hlive hreg (~~~0) set
  have hval : (s.get (reg.setWidth 64) &&& ~~~(~~~0 : BitVec 32)) ||| set = set := by
    simp
  rw [hval] at h
  have hmask : (~~~0 : BitVec 32) &&& ~~~set = ~~~set := BitVec.allOnes_and
  rw [hmask] at h
  refine h.trans ⟨fun hs => ?_, fun hs => by rw [hs]; rfl⟩
  rw [← BitVec.not_not (b := set), hs]

theorem waWriteOr_rmw (set : BitVec 32) :
    (waWriteOr reg set s).rmmioPtr =
      s.put (reg.setWidth 64) (s.get (reg.setWidth 64) ||| set) := by
  have hval : (s.get (reg.setWidth 64) &&& ~~~set) ||| set = s.get (reg.setWidth 64) ||| set := by
    ext i hi
    simp only [BitVec.getElem_or, BitVec.getElem_and, BitVec.getElem_not]
    cases (s.get (reg.setWidth 64))[i] <;> cases set[i] <;> rfl
  have h := (waWriteClrSet_rmw_iff hlive hreg set set).mpr (BitVec.and_not_self set)
  rwa [hval] at h

theorem waWriteClr_rmw_iff (clr : BitVec 32) :
    (waWriteClr reg clr s).rmmioPtr =
        s.put (reg.setWidth 64) (s.get (reg.setWidth 64) &&& ~~~clr) ↔ clr = 0 := by
  have h := waWriteClrSet_rmw_iff hlive hreg clr 0
  have hval : (s.get (reg.setWidth 64) &&& ~~~clr) ||| 0 = s.get (reg.setWidth 64) &&& ~~~clr :=
    BitVec.or_zero
  have hmask : clr &&& ~~~0 = clr := BitVec.and_allOnes
  rwa [hval, hmask] at h

end Meaning

/-! ## The MCR selector -/

/-- `GEN8_MCR_SELECTOR`. -/
def gen8McrSelector : BitVec 32 := 0xfdc

/-- `GEN8_MCR_SLICE(slice)`. -/
def gen8McrSlice (slice : BitVec 32) : BitVec 32 := (slice &&& 3) <<< 26

/-- `GEN8_MCR_SUBSLICE(subslice)`. -/
def gen8McrSubslice (subslice : BitVec 32) : BitVec 32 := (subslice &&& 3) <<< 24

/-- `GEN8_MCR_SLICE_MASK | GEN8_MCR_SUBSLICE_MASK`. -/
def mcrMask : BitVec 32 := gen8McrSlice 3 ||| gen8McrSubslice 3

/-- The selector workaround of `start` and of `resetGraphicsEngine`. -/
def mcrSelectorWa (s : Mmio) : Mmio :=
  let mcr := gen8McrSlice 0 ||| gen8McrSubslice 0
  waWriteClrSet gen8McrSelector mcrMask mcr s

/-- The workaround leaves every bit of both fields set. -/
theorem mcrSelectorWa_selects {s : Mmio} (hlive : s.mmioValid = true) :
    (mcrSelectorWa s).get (gen8McrSelector.setWidth 64) &&& mcrMask = mcrMask := by
  have hreg : looksLikePlaneSurf (gen8McrSelector.setWidth 64) = false := by decide
  have hmap : (mcrSelectorWa s).rmmio = s.rmmio := by
    simp only [mcrSelectorWa, waWriteClrSet, waAdd, writeReg32_rmmio, readReg32_rmmio]
  rw [get_of_put hlive hmap (waWriteClrSet_effect s hreg _ _)]
  ext i hi
  simp only [BitVec.getElem_and, BitVec.getElem_or]
  cases mcrMask[i] <;> simp

/-- When the workaround writes mean read-modify-write. -/
theorem workaround_writes_rmw_iff {s : Mmio} (hlive : s.mmioValid = true) {reg : BitVec 32}
    (hreg : looksLikePlaneSurf (reg.setWidth 64) = false) (clear set : BitVec 32) :
    let old := s.get (reg.setWidth 64)
    let leaves (t : Mmio) (v : BitVec 32) := t.rmmioPtr = s.put (reg.setWidth 64) v
    leaves (intelDeRmw reg clear set s).2 ((old &&& ~~~clear) ||| set) ∧
    (leaves (waWriteClrSet reg clear set s) ((old &&& ~~~clear) ||| set) ↔
      clear &&& ~~~set = 0) ∧
    (leaves (waMcrWriteClrSet reg clear set s) ((old &&& ~~~clear) ||| set) ↔
      clear &&& ~~~set = 0) ∧
    (leaves (waWrite reg set s) set ↔ set = ~~~0) ∧
    leaves (waWriteOr reg set s) (old ||| set) ∧
    leaves (waMcrWriteOr reg set s) (old ||| set) ∧
    (leaves (waWriteClr reg clear s) (old &&& ~~~clear) ↔ clear = 0) ∧
    (leaves (waMcrWriteClr reg clear s) (old &&& ~~~clear) ↔ clear = 0) ∧
    (mcrSelectorWa s).get (gen8McrSelector.setWidth 64) &&& mcrMask ≠
      gen8McrSlice 0 ||| gen8McrSubslice 0 := by
  refine ⟨intelDeRmw_effect s hreg clear set, waWriteClrSet_rmw_iff hlive hreg clear set,
    waWriteClrSet_rmw_iff hlive hreg clear set, waWrite_rmw_iff hlive hreg set,
    waWriteOr_rmw hlive hreg set, waWriteOr_rmw hlive hreg set,
    waWriteClr_rmw_iff hlive hreg clear, waWriteClr_rmw_iff hlive hreg clear, ?_⟩
  rw [mcrSelectorWa_selects hlive]
  decide

theorem misccpctl_not_surf : looksLikePlaneSurf ((0x9424 : BitVec 32).setWidth 64) = false := by
  decide

theorem workaround_writes_rmw_at_zero :
    (waWriteOr 0x9424 2 (zeroWindow 0x1000000)).rmmioPtr =
      (zeroWindow 0x1000000).put 0x9424 ((zeroWindow 0x1000000).get 0x9424 ||| 2) :=
  (workaround_writes_rmw_iff (s := zeroWindow 0x1000000) rfl misccpctl_not_surf 0 2).2.2.2.2.1

/-- Clearing bit 0 of a register that reads zero sets the bit. -/
theorem waWriteClrSet_sets_cleared_bit :
    ¬ (waWriteClrSet 0x9424 1 0 (zeroWindow 0x1000000)).rmmioPtr =
      (zeroWindow 0x1000000).put 0x9424
        (((zeroWindow 0x1000000).get 0x9424 &&& ~~~1) ||| 0) := by
  intro h
  have hclear := (waWriteClrSet_rmw_iff (s := zeroWindow 0x1000000) rfl misccpctl_not_surf 1 0).mp h
  exact absurd hclear (by decide)

end NootedGreen

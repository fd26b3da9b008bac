/-
# `Hooks.PlaneGuards` — where the V93 guard reaches, and how it compares

The V93 block of `raWriteRegister32` decides by the low 20 bits of the offset, and the
write goes to the whole offset.  In the 16 MiB window every plane register has fifteen
aliases, eight of them page-table entries of the GGTT at `0x800000`:

    offset 0x87019C    entry of the GGTT     looked at as SURF of plane 1A

A zero for such an entry is then treated as a zero for the plane
(`passes_through_iff`).

`writeReg32` has a guard of its own, which asks the hardware where V93 asks its table.
The table only sees what goes through `raWriteRegister32`, so the two keep the same
surface only while it is up to date (`guards_agree_iff`).
-/
import NootedGreen.Hooks.ErrorMask
import NootedGreen.Hooks.SurfaceTable

namespace NootedGreen

open Mmio

/-! ## Aliases of the plane registers -/

/-- The bytes once the register at `param1` holds `value` and nothing else has changed, by
the way the back-end addresses it. -/
def written (cfg : HookConfig) (that param1 : BitVec 64) (value : BitVec 32) (m : Mmio) : ByteMem :=
  if cfg.fallsBack that then m.put param1 value else m.rmmioPtr.store param1.toNat 4 value

/-- The request goes through as it is: the value handed on is the value given, and only the
register it is for changes. -/
structure ReachesUnchanged (cfg : HookConfig) (that param1 : BitVec 64) (param2 : BitVec 32)
    (s : HookState) : Prop where
  value : (handedOver cfg param1 param2 s).1 = param2
  bytes : (raWriteRegister32 cfg that param1 param2 s).mmio.rmmioPtr =
    written cfg that param1 param2 s.mmio

section Alias

variable {cfg : HookConfig} {that param1 : BitVec 64} {value : BitVec 32}

theorem written_congr {m m' : Mmio} (hmap : m.rmmio = m'.rmmio) (hptr : m.rmmioPtr = m'.rmmioPtr) :
    written cfg that param1 value m = written cfg that param1 value m' := by
  simp only [written, Mmio.put, hmap, hptr]

theorem backEnd_mmio (s : HookState) :
    (backEnd cfg that param1 value s).mmio =
      if cfg.fallsBack that then writeReg32 param1 value s.mmio
      else s.mmio.original 0 param1 4 (value.setWidth 64) := by
  rw [backEnd, cfg.ite_fallsBack]
  split <;> rfl

theorem original_bytes (m : Mmio) :
    (m.original 0 param1 4 (value.setWidth 64)).rmmioPtr =
      m.rmmioPtr.store param1.toNat 4 value := by
  rw [Mmio.original, sub_origin_zero]
  exact ByteMem.store_setWidth _ _ _ (by decide)

theorem backEnd_bytes (hsurf : looksLikePlaneSurf param1 = false) (s : HookState) :
    (backEnd cfg that param1 value s).mmio.rmmioPtr = written cfg that param1 value s.mmio := by
  have hg : ¬ (looksLikePlaneSurf param1 = true ∧ value = 0) :=
    fun h => Bool.false_ne_true (hsurf.symm.trans h.1)
  rw [backEnd_mmio, written]
  split
  · exact writeReg32_put s.mmio hg
  · exact original_bytes s.mmio

/-- A word below the register written, and past the index/data pair, is not touched. -/
theorem written_load32 (m : Mmio) {b : Nat} (hlo : 64 ≤ b) (hhi : b + 8 ≤ param1.toNat) :
    (written cfg that param1 value m).load32 b = m.rmmioPtr.load32 b := by
  have hindex := index_toNat param1
  rw [written]
  split
  · rw [Mmio.put]
    split
    · rfl
    · split
      · exact ByteMem.load32_store_disjoint _ _ (by omega)
      · rw [ByteMem.load32_store_disjoint _ _ (by simp only [mmPCIE_DATA2]; omega),
          ByteMem.load32_store_disjoint _ _ (by simp only [mmPCIE_INDEX2]; omega)]
  · exact ByteMem.load32_store_disjoint _ _ (by omega)

/-- An alias is past the register block. -/
theorem alias_offset (hsurf : looksLikePlaneSurf param1 = false)
    (halias : looksLikePlaneSurf (v93Offset param1) = true) :
    0x100000 ≤ param1.toNat := by
  refine Nat.le_of_not_lt fun hlt => ?_
  rw [v93Offset_of_lt hlt, hsurf] at halias
  exact Bool.false_ne_true halias

variable {param2 : BitVec 32} {s : HookState} (hv93 : cfg.isV93PlaneGuardEnabled = true)
  (hsurf : looksLikePlaneSurf param1 = false) (hemr : isEmr param1 = false)

include hv93 hsurf hemr

theorem passesThrough_iff_guard :
    ReachesUnchanged cfg that param1 param2 s ↔
      (v93Guard param1 param2 s).1 = param2 ∧
      written cfg that param1 param2 (v93Guard param1 param2 s).2.mmio =
        written cfg that param1 param2 s.mmio := by
  have hover : handedOver cfg param1 param2 s = v93Guard param1 param2 s := by
    rw [handedOver_guard hv93, v72Intercept_other hemr]
  constructor
  · rintro ⟨hval, hbytes⟩
    rw [raWriteRegister32_eq, backEnd_bytes hsurf] at hbytes
    rw [hover] at hval hbytes
    rw [hval] at hbytes
    exact ⟨hval, hbytes⟩
  · rintro ⟨hval, hbytes⟩
    refine ⟨by rw [hover, hval], ?_⟩
    rw [raWriteRegister32_eq, backEnd_bytes hsurf, hover, hval, hbytes]

theorem passesThrough_alias_iff (halias : looksLikePlaneSurf (v93Offset param1) = true)
    (hmap : s.mmio.Mapped (v93Offset param1)) :
    ReachesUnchanged cfg that param1 param2 s ↔
      ¬ (param2 = 0 ∧ s.mmio.planeEnabled (v93Offset param1) = true) := by
  rw [passesThrough_iff_guard hv93 hsurf hemr]
  have hcase := v93Guard_cases halias hmap param2
  generalize v93Guard param1 param2 s = p at hcase
  cases hcase with
  | requested hval => exact iff_of_true ⟨rfl, rfl⟩ fun h => hval h.1
  | off hoff =>
      refine iff_of_true ⟨rfl, written_congr rfl rfl⟩ fun h => ?_
      exact Bool.false_ne_true (hoff.symm.trans h.2)
  | kept hon hrem => exact iff_of_false (fun h => hrem h.1) (not_not.mpr ⟨rfl, hon⟩)
  | adopted hon hrem hcur => exact iff_of_false (fun h => hcur h.1) (not_not.mpr ⟨rfl, hon⟩)
  | disarmed hon hrem hcur =>
      refine iff_of_false (fun h => ?_) (not_not.mpr ⟨rfl, hon⟩)
      -- the value is right, but `PLANE_CTL` has lost its enable bit
      obtain ⟨hlo, hhi, -⟩ := (looksLikePlaneSurf_iff _).mp halias
      have hfar := alias_offset hsurf halias
      have hctl := congrArg (·.load32 ((v93Offset param1).toNat - 0x1C)) h.2
      dsimp only at hctl
      rw [written_load32 _ (by omega) (by omega), written_load32 _ (by omega) (by omega),
        disarmed_bytes halias hmap, ByteMem.load32_store_same, ← planCtl_eq halias] at hctl
      have hbit : s.mmio.planCtl (v93Offset param1) &&& 0x80000000 = 0 := by
        rw [← hctl]
        exact and_not_and_bit31 _
      rw [planeEnabled, hbit] at hon
      exact absurd hon (by decide)

/-- At an offset that is neither a SURF register nor an error-mask register the request goes
through as it is, unless it is a zero whose low 20 bits are the SURF register of a plane
that is enabled. -/
theorem passes_through_iff (hcov : s.mmio.CoversBlock) :
    ReachesUnchanged cfg that param1 param2 s ↔
      ¬ (looksLikePlaneSurf (v93Offset param1) = true ∧ param2 = 0 ∧
        s.mmio.planeEnabled (v93Offset param1) = true) := by
  cases halias : looksLikePlaneSurf (v93Offset param1) with
  | false =>
      rw [passesThrough_iff_guard hv93 hsurf hemr, v93Guard_other halias]
      exact iff_of_true ⟨rfl, rfl⟩ fun h => Bool.false_ne_true h.1
  | true =>
      rw [passesThrough_alias_iff hv93 hsurf hemr halias (hcov.mapped_surf halias)]
      simp only [true_and]

end Alias

/-- A zero for an entry of the GGTT, plane 1A being off. -/
theorem passes_through_plane_off :
    looksLikePlaneSurf 0x87019C = false ∧
    ReachesUnchanged ⟨true, true⟩ 1 0x87019C 0 ⟨zeroWindow 0x1000000, noPlanes⟩ :=
  ⟨by decide, (passes_through_iff rfl (by decide) (by decide) ⟨0x1000000, rfl, by decide⟩).mpr
    (by decide)⟩

/-- The same zero while plane 1A is on and has no surface: the plane is switched off. -/
theorem ggtt_zero_disables_plane :
    ¬ ReachesUnchanged ⟨true, true⟩ 1 0x87019C 0 ⟨enabledPlane, noPlanes⟩ := by
  have halias : looksLikePlaneSurf (v93Offset 0x87019C) = true := by decide
  have hmap : enabledPlane.Mapped (v93Offset 0x87019C) := ⟨0x1000000, rfl, by decide⟩
  rw [passesThrough_alias_iff rfl (by decide) (by decide) halias hmap]
  decide

/-! ## The two guards against each other -/

/-- The functions a surface or a plane's control register is written through. -/
inductive PlaneWriter where
  | raWriteRegister32
  | fastWriteRegister32
  | writeReg32
  deriving DecidableEq, Repr

/-- One write. -/
def PlaneWriter.write (cfg : HookConfig) (that : BitVec 64) :
    PlaneWriter × BitVec 64 × BitVec 32 → HookState → HookState
  | (.raWriteRegister32, reg, value), s => NootedGreen.raWriteRegister32 cfg that reg value s
  | (.fastWriteRegister32, reg, value), s => NootedGreen.fastWriteRegister32 reg value s
  | (.writeReg32, reg, value), s => { s with mmio := NootedGreen.writeReg32 reg value s.mmio }

/-- The plane whose SURF register is `reg` has the same surface and control word. -/
structure SamePlane (reg : BitVec 64) (m m' : Mmio) : Prop where
  surf : m.rmmioPtr.load32 reg.toNat = m'.rmmioPtr.load32 reg.toNat
  ctl : m.rmmioPtr.load32 (reg.toNat - 0x1C) = m'.rmmioPtr.load32 (reg.toNat - 0x1C)

theorem PlaneWriter.write_rmmio (cfg : HookConfig) (that : BitVec 64)
    (w : PlaneWriter × BitVec 64 × BitVec 32) (s : HookState) :
    (PlaneWriter.write cfg that w s).mmio.rmmio = s.mmio.rmmio := by
  obtain ⟨writer, reg, value⟩ := w
  cases writer with
  | raWriteRegister32 =>
      obtain ⟨guarded, s', -, hmap, -, heq⟩ := raWriteRegister32From_eq cfg 0 that reg value s
      rw [PlaneWriter.write, NootedGreen.raWriteRegister32, heq]
      split
      · rw [writeReg32_rmmio, hmap]
      · exact hmap
  | fastWriteRegister32 => rfl
  | writeReg32 => exact writeReg32_rmmio _ _ _

section Agree

variable {cfg : HookConfig} {reg : BitVec 64} {s : HookState}
  (hsurf : looksLikePlaneSurf reg = true) (hmap : s.mmio.Mapped reg)

include hsurf hmap

/-- A value may go to a SURF register as it is when it is not zero or the plane is off; both
back-ends then store it. -/
theorem backEnd_surf_bytes (that : BitVec 64) {value : BitVec 32}
    (h : value = 0 → s.mmio.planeEnabled reg = false) :
    (backEnd cfg that reg value s).mmio.rmmioPtr = s.mmio.rmmioPtr.store reg.toNat 4 value := by
  rw [backEnd_mmio]
  split
  · refine writeReg32_stores (surf_aligned hsurf) hmap ?_
    by_cases hval : value = 0
    · exact .inr (.inr (h hval))
    · exact .inl hval
  · exact original_bytes s.mmio

theorem raWriteRegister32_surf_bytes (hv93 : cfg.isV93PlaneGuardEnabled = true)
    (that : BitVec 64) (value : BitVec 32) :
    (raWriteRegister32 cfg that reg value s).mmio.rmmioPtr =
      (v93Guard reg value s).2.mmio.rmmioPtr.store reg.toNat 4 (v93Guard reg value s).1 := by
  have hcase := v93Guard_surf hsurf hmap value
  rw [raWriteRegister32_eq, handedOver_guard hv93, v72Intercept_other (isEmr_surf hsurf)]
  exact backEnd_surf_bytes hsurf (hmap.of_rmmio_eq hcase.rmmio) that
    (hcase.off_of_zero hsurf hmap)

/-- The words of the plane after a zero through the hook. -/
theorem raWriteRegister32_zero_words (hv93 : cfg.isV93PlaneGuardEnabled = true) (that : BitVec 64) :
    let m := (raWriteRegister32 cfg that reg 0 s).mmio.rmmioPtr
    m.load32 reg.toNat = (v93Guard reg 0 s).1 ∧
      m.load32 (reg.toNat - 0x1C) =
        (v93Guard reg 0 s).2.mmio.rmmioPtr.load32 (reg.toNat - 0x1C) := by
  obtain ⟨hlo, -, -⟩ := (looksLikePlaneSurf_iff reg).mp hsurf
  intro m
  have hm : m = _ := raWriteRegister32_surf_bytes hsurf hmap hv93 that 0
  rw [hm]
  exact ⟨ByteMem.load32_store_same _ _ _, ByteMem.load32_store_disjoint _ _ (by omega)⟩

/-- A zero through the hook and a zero through `writeReg32`, from the same state. -/
theorem zeroWrites_agree_iff (hv93 : cfg.isV93PlaneGuardEnabled = true) (that : BitVec 64) :
    SamePlane reg (raWriteRegister32 cfg that reg 0 s).mmio (writeReg32 reg 0 s.mmio) ↔
      s.mmio.planeEnabled reg = false ∨ remembered (reg.setWidth 32) s.v93States = 0 ∨
        remembered (reg.setWidth 32) s.v93States = s.mmio.rmmioPtr.load32 reg.toNat := by
  have hal := surf_aligned hsurf
  have hdw := dword_of_aligned s.mmio hal
  obtain ⟨hlo, -, -⟩ := (looksLikePlaneSurf_iff reg).mp hsurf
  obtain ⟨hsurfWord, hctlWord⟩ := raWriteRegister32_zero_words hsurf hmap hv93 that
  have hcase := v93Guard_surf hsurf hmap 0
  generalize v93Guard reg 0 s = p at hcase hsurfWord hctlWord
  cases hcase with
  | requested hval => exact absurd rfl hval
  | off hoff =>
      refine iff_of_true ?_ (.inl hoff)
      have hown :
          (writeReg32 reg 0 s.mmio).rmmioPtr = s.mmio.rmmioPtr.store reg.toNat 4 (0 : BitVec 32) :=
        writeReg32_stores hal hmap (.inr (.inr hoff))
      constructor
      · rw [hsurfWord, hown, ByteMem.load32_store_same]
      · rw [hctlWord, hown, ByteMem.load32_store_disjoint _ _ (by omega)]
        rfl
  | kept hon hrem =>
      by_cases hcur : s.mmio.rmmioPtr.load32 reg.toNat = 0
      · -- `writeReg32` ends with surface 0, the hook with the one it remembers
        have hown := writeReg32_disarms hal hmap hsurf hon hcur
        refine iff_of_false (fun h => hrem ?_) ?_
        · refine hsurfWord.symm.trans (h.surf.trans ?_)
          rw [hown, ByteMem.load32_store_disjoint _ _ (by omega), hcur]
        · rintro (hoff | hzero | hsame)
          · exact Bool.false_ne_true (hoff.symm.trans hon)
          · exact hrem hzero
          · exact hrem (hsame.trans hcur)
      · have hown := writeReg32_keeps hal hmap hsurf hon hcur
        constructor
        · intro h
          refine .inr (.inr (hsurfWord.symm.trans (h.surf.trans ?_)))
          rw [hown]
        · rintro (hoff | hzero | hsame)
          · exact absurd (hoff.symm.trans hon) Bool.false_ne_true
          · exact absurd hzero hrem
          · exact ⟨by rw [hsurfWord, hown, hsame], by rw [hctlWord, hown]; rfl⟩
  | adopted hon hrem hcur =>
      refine iff_of_true ?_ (.inr (.inl hrem))
      have hown := writeReg32_keeps hal hmap hsurf hon (hdw ▸ hcur)
      constructor
      · rw [hsurfWord, hown, hdw]
      · rw [hctlWord, hown]
        rfl
  | disarmed hon hrem hcur =>
      refine iff_of_true ?_ (.inr (.inl hrem))
      have hown := writeReg32_disarms hal hmap hsurf hon (hdw ▸ hcur)
      constructor
      · rw [hsurfWord, hown, ByteMem.load32_store_disjoint _ _ (by omega), ← hdw, hcur]
      · rw [hctlWord, hown, disarmed_bytes hsurf hmap, planCtl_eq hsurf]

end Agree

/-- After any history of writes through the three functions, a zero for a SURF register
leaves the same plane through the hook as through `writeReg32` exactly when the plane is
off, or the table has no surface for it, or the one that is programmed. -/
theorem guards_agree_iff {cfg : HookConfig} (hv93 : cfg.isV93PlaneGuardEnabled = true)
    (that : BitVec 64) {m : Mmio} (hcov : m.CoversBlock)
    (history : List (PlaneWriter × BitVec 64 × BitVec 32)) {reg : BitVec 64}
    (hsurf : looksLikePlaneSurf reg = true) :
    let s := Runs.run (PlaneWriter.write cfg that) history ⟨m, noPlanes⟩
    SamePlane reg (raWriteRegister32 cfg that reg 0 s).mmio (writeReg32 reg 0 s.mmio) ↔
      s.mmio.planeEnabled reg = false ∨ remembered (reg.setWidth 32) s.v93States = 0 ∨
        remembered (reg.setWidth 32) s.v93States = s.mmio.rmmioPtr.load32 reg.toNat := by
  intro s
  let R : HookState → HookState → Prop := fun s t => t.mmio.rmmio = s.mmio.rmmio
  have hrmmio : s.mmio.rmmio = m.rmmio :=
    Runs.run_rel (R := R) (fun _ => rfl) (fun h h' => h'.trans h)
      (PlaneWriter.write_rmmio cfg that) history ⟨m, noPlanes⟩
  exact zeroWrites_agree_iff hsurf ((hcov.mapped_surf hsurf).of_rmmio_eq hrmmio) hv93 that

/-- One surface, given through the hook, on a plane that is on. -/
theorem guards_agree_one_surface :
    let s := Runs.run (PlaneWriter.write ⟨true, true⟩ 1)
      [(.raWriteRegister32, 0x7019C, 0x1000)] ⟨enabledPlane, noPlanes⟩
    SamePlane 0x7019C (raWriteRegister32 ⟨true, true⟩ 1 0x7019C 0 s).mmio
      (writeReg32 0x7019C 0 s.mmio) :=
  (guards_agree_iff rfl 1 ⟨0x1000000, rfl, by decide⟩ _ (by decide)).mpr
    (.inr (.inr (by decide)))

/-- A second surface given through `FastWriteRegister32`: a zero through the hook brings
the first one back. -/
theorem guards_disagree_after_flip :
    let s := Runs.run (PlaneWriter.write ⟨true, true⟩ 1)
      [(.raWriteRegister32, 0x7019C, 0x1000), (.fastWriteRegister32, 0x7019C, 0x2000)]
      ⟨enabledPlane, noPlanes⟩
    ¬ SamePlane 0x7019C (raWriteRegister32 ⟨true, true⟩ 1 0x7019C 0 s).mmio
      (writeReg32 0x7019C 0 s.mmio) := by
  intro s h
  rw [zeroWrites_agree_iff (by decide) ⟨0x1000000, rfl, by decide⟩ rfl] at h
  exact absurd h (by decide)

end NootedGreen

/-
# `Engine.HealthMonitor` — what the monitor V60 does to the registers in its sixty passes

With `-ngreenexp` the monitor runs every two seconds, sixty times.  A pass

    clears ERROR_GEN6 and masks the render engine's errors                every pass
    moves the read pointer of the context status buffer up (V64)          pass 3
    enables RCS0 and BCS interrupts and unmasks them (V65)                every pass
    makes the plane of pipe A linear (V79)                                passes 1-5, 10, 20, 30
    steps through three entries of the gamma table (V76)                  pass 5

V79 clears the tiling field of PLANE_CTL and multiplies PLANE_STRIDE by 8 (tiling 1) or 16
(tiling 4), which is the same number of bytes a line (`linearize_pitch`), then writes
PLANE_SURF back to arm both.  The write goes through the guard of `writeReg32`: where the plane
has no surface, it is switched off by it.

If nobody else writes, the first pass does all of it: the fifty-nine that follow change no
register but the CSB pointer, once (`monitor_chain`).  In particular no stride is scaled twice.
It is where the driver writes a tiled PLANE_CTL again and leaves the stride the monitor has
made: then every pass of V79 scales it once more (`stride_of_run`).

**What is left out.**  The fill that `-ngreenv88` asks for, which writes PLANE_SURF, PLANE_CTL
and the flush register (`Display.ScanoutFill`): the passes here are those without it.  Reads
that only feed a log line; one past the end of the mapping would store to the index register.
The clients V77 terminates and the re-arming (`Engine.Timers`); the two words of the scheduler's
memory V68 clears in pass 1.
-/
import Mathlib.Data.BitVec
import NootedGreen.Engine.InterruptEnforcement
import NootedGreen.Lib.RegKind
import NootedGreen.Lib.Runs
import NootedGreen.Mmio.GuardedStorage

namespace NootedGreen

open RegProg

/-! ## Registers -/

def planeCtl : BitVec 32 := 0x70180
def planeStride : BitVec 32 := 0x70188
def planeSurf : BitVec 32 := 0x7019C
def precPalIndexA : BitVec 32 := 0x4A400
def precPalDataA : BitVec 32 := 0x4A404

/-- Bits 12:10 of PLANE_CTL. -/
def tilingOf (ctl : BitVec 32) : BitVec 32 := (ctl >>> 10) &&& 0x7

def clearTiling (ctl : BitVec 32) : BitVec 32 := ctl &&& ~~~((0x7 : BitVec 32) <<< 10)

/-- The stride V79 writes for a tiling it has found. -/
def linearStride (tiling stride : BitVec 32) : BitVec 32 :=
  if tiling = 1 then stride * 8 else if tiling = 4 then stride * 16 else stride

/-! ## The blocks -/

section Code

variable {ε : Type}

/-- The passes in which V79 acts. -/
def LinearizesAt (v60Count : Nat) : Prop :=
  v60Count ≤ 5 ∨ v60Count = 10 ∨ v60Count = 20 ∨ v60Count = 30

instance : DecidablePred LinearizesAt := fun _ => inferInstanceAs (Decidable (_ ∨ _))

/-- V79 with `-ngreenexp`. -/
def v79Linearize : RegCode ε Unit := do
  let planCtl ← get planeCtl
  let planStrd ← get planeStride
  onlyIf (tilingOf planCtl ≠ 0) do
    put planeCtl (clearTiling planCtl)
    put planeStride (linearStride (tilingOf planCtl) planStrd)
    let planSurf ← get planeSurf
    put planeSurf planSurf

/-- V76, 5: the gamma table. -/
def v76GammaProbe : RegCode ε Unit := do
  let gammaIdx ← get precPalIndexA
  put precPalIndexA 0
  let _ ← get precPalDataA
  put precPalIndexA 128
  let _ ← get precPalDataA
  put precPalIndexA 255
  let _ ← get precPalDataA
  put precPalIndexA gammaIdx

/-- The register accesses of pass `v60Count`, with `-ngreenexp` and without `-ngreenv88`. -/
def monitorPass (v60Count : Nat) : RegCode ε Unit := do
  v60GpuHealthMonitorV65 v60Count
  onlyIf (LinearizesAt v60Count) v79Linearize
  onlyIf (v60Count = 5) v76GammaProbe

end Code

/-- The plugin's accessors on a register file. -/
abbrev accessFile : Device (BitVec 32) (BitVec 32) Empty RegFile := guardedFile fun e => e.elim

/-- The registers after a pass. -/
def afterPass (v60Count : Nat) (s : RegFile) : RegFile :=
  ((monitorPass v60Count : RegCode Empty Unit).run accessFile s).2

/-- The registers after passes 1 to `passes`. -/
def afterPasses (passes : Nat) (s : RegFile) : RegFile :=
  Runs.run afterPass (List.range' 1 passes) s

/-- A pass in the mapped window. -/
def windowPass (v60Count : Nat) (m : Mmio) : Mmio :=
  ((monitorPass v60Count : RegCode Empty Unit).run (window fun e => e.elim) m).2

/-! ## The bits of V79 -/

theorem tilingOf_clearTiling_and (ctl mask : BitVec 32) :
    tilingOf (clearTiling ctl &&& mask) = 0 := by
  have hfield : ~~~((0x7 : BitVec 32) <<< 10) >>> 10 &&& 0x7 = 0 := by decide
  have hclear : tilingOf (clearTiling ctl) = 0 := by
    rw [tilingOf, clearTiling, BitVec.ushiftRight_and_distrib, BitVec.and_assoc, hfield]
    exact BitVec.and_zero
  rw [tilingOf] at hclear ⊢
  rw [BitVec.ushiftRight_and_distrib, BitVec.and_assoc, BitVec.and_comm (mask >>> 10),
    ← BitVec.and_assoc, hclear]
  exact BitVec.zero_and

/-- The PLANE_CTL V79 leaves: the guard takes bit 31 from a plane without a surface. -/
def linearCtl (ctl surf : BitVec 32) : BitVec 32 :=
  if tilingOf ctl = 0 then ctl
  else if surf = 0 then clearTiling ctl &&& ~~~0x80000000
  else clearTiling ctl

theorem tilingOf_linearCtl (ctl surf : BitVec 32) : tilingOf (linearCtl ctl surf) = 0 := by
  rw [linearCtl]
  split
  · next hlinear => exact hlinear
  · split
    · exact tilingOf_clearTiling_and ctl _
    · have hclear := tilingOf_clearTiling_and ctl (BitVec.allOnes 32)
      rwa [BitVec.and_allOnes] at hclear

/-- By how much a stride counted in tiles is less than one counted in units of 64 bytes. -/
def tileFactor (tiling : BitVec 32) : BitVec 32 :=
  if tiling = 1 then 8 else if tiling = 4 then 16 else 1

theorem linearStride_eq (tiling stride : BitVec 32) :
    linearStride tiling stride = stride * tileFactor tiling := by
  rw [linearStride, tileFactor]
  split
  · rfl
  · split
    · rfl
    · exact (BitVec.mul_one stride).symm

theorem tileFactor_zero : tileFactor 0 = 1 := by decide

theorem linearStride_zero (stride : BitVec 32) : linearStride 0 stride = stride := by
  rw [linearStride_eq, tileFactor_zero]
  exact BitVec.mul_one stride

/-- Bytes a line, in units of 64: a stride counts tiles of 512 or 1024 bytes. -/
def pitch (ctl stride : BitVec 32) : BitVec 32 := stride * tileFactor (tilingOf ctl)

/-- Making the plane linear keeps the bytes a line. -/
theorem linearize_pitch (ctl surf stride : BitVec 32) :
    pitch (linearCtl ctl surf) (linearStride (tilingOf ctl) stride) = pitch ctl stride := by
  rw [pitch, pitch, tilingOf_linearCtl, tileFactor_zero, linearStride_eq]
  exact BitVec.mul_one _

/-! ## A pass -/

/-- Nothing is left for a pass to do. -/
structure Settled (s : RegFile) : Prop where
  error : s errorGen6 = 0
  masked : s renderRingEmr = 0xFFFFFFFF
  enable : s gen11RenderCopyIntrEnable &&& wantBits = wantBits
  mask : s gen11Rcs0RsvdIntrMask &&& wantUnmasked = 0
  linear : tilingOf (s planeCtl) = 0

/-- The registers after V64. -/
def csbAdvanced (s : RegFile) : RegFile := ((advanceCsb : RegCode Empty Unit).run regFile s).2

theorem csbAdvanced_frame {r : BitVec 32} (h : r ≠ renderContextStatusPtr) (s : RegFile) :
    csbAdvanced s r = s r :=
  advanceCsb_other s h

theorem Settled.csbAdvanced {s : RegFile} (h : Settled s) : Settled (csbAdvanced s) where
  error := (csbAdvanced_frame (by decide) s).trans h.error
  masked := (csbAdvanced_frame (by decide) s).trans h.masked
  enable := by rw [csbAdvanced_frame (by decide), h.enable]
  mask := by rw [csbAdvanced_frame (by decide), h.mask]
  linear := by rw [csbAdvanced_frame (by decide), h.linear]

/-- The registers after the V65 block. -/
def v65After (v60Count : Nat) (s : RegFile) : RegFile :=
  (EnforcementPoint.v60GpuHealthMonitor v60Count).after s

theorem run_v65 (v60Count : Nat) (s : RegFile) :
    ((v60GpuHealthMonitorV65 v60Count : RegCode Empty Unit).run accessFile s).2 =
      v65After v60Count s := by
  have hreaches := (EnforcementPoint.v60GpuHealthMonitor v60Count).code_reaches
  exact run_guarded (hreaches.mono fun _ hreg => hreg.2.2) s

theorem v76GammaProbe_reaches {P : BitVec 32 → Prop} (hindex : P precPalIndexA)
    (hdata : P precPalDataA) : (v76GammaProbe : RegCode Empty Unit).Reaches P :=
  .bind (.get hindex) fun _ => .bind (.put hindex _) fun _ => .bind (.get hdata) fun _ =>
    .bind (.put hindex _) fun _ => .bind (.get hdata) fun _ => .bind (.put hindex _) fun _ =>
      .bind (.get hdata) fun _ => .put hindex _

/-- The probe puts the index back. -/
theorem run_v76GammaProbe (s : RegFile) :
    ((v76GammaProbe : RegCode Empty Unit).run accessFile s).2 = s := by
  rw [run_guarded (v76GammaProbe_reaches (by decide) (by decide))]
  simp only [v76GammaProbe, run_bind, run_get, run_put, plain_read, plain_write,
    Function.update_idem, Function.update_eq_self]

/-- The registers after V79. -/
def linearized (s : RegFile) : RegFile :=
  Function.update (Function.update s planeCtl (linearCtl (s planeCtl) (s planeSurf))) planeStride
    (linearStride (tilingOf (s planeCtl)) (s planeStride))

theorem linearized_of_linear {s : RegFile} (h : tilingOf (s planeCtl) = 0) : linearized s = s := by
  rw [linearized, linearCtl, if_pos h, Function.update_eq_self, h, linearStride_zero,
    Function.update_eq_self]

theorem run_v79Linearize (s : RegFile) :
    ((v79Linearize : RegCode Empty Unit).run accessFile s).2 = linearized s := by
  by_cases hlinear : tilingOf (s planeCtl) = 0
  · simp only [v79Linearize, run_bind, run_get, run_onlyIf, guardedFile_read,
      if_neg (not_not.mpr hlinear), linearized_of_linear hlinear]
  · have hctl : isPlaneSurf planeCtl = false := by decide
    have hstride : isPlaneSurf planeStride = false := by decide
    simp only [v79Linearize, run_bind, run_get, run_onlyIf, run_put, guardedFile_read,
      guardedFile_write, if_pos hlinear, guardedWrite_plain hctl, guardedWrite_plain hstride]
    -- the last write puts back what PLANE_SURF holds
    generalize ht : Function.update (Function.update s planeCtl (clearTiling (s planeCtl)))
      planeStride (linearStride (tilingOf (s planeCtl)) (s planeStride)) = t
    have hsurf : t planeSurf = s planeSurf := by
      rw [← ht, Function.update_of_ne (by decide), Function.update_of_ne (by decide)]
    have htctl : t planeCtl = clearTiling (s planeCtl) := by
      rw [← ht, Function.update_of_ne (by decide), Function.update_self]
    have hof : ctlOfSurf planeSurf = planeCtl := by decide
    rw [guardedWrite_back (by decide), hof, htctl, hsurf, linearized, linearCtl, if_neg hlinear]
    split
    · rw [← ht, Function.update_comm (by decide), Function.update_idem]
    · exact ht.symm

theorem afterPass_eq (v60Count : Nat) (s : RegFile) :
    afterPass v60Count s =
      if LinearizesAt v60Count then linearized (v65After v60Count s) else v65After v60Count s := by
  have hgamma : ∀ t : RegFile,
      ((onlyIf (v60Count = 5) v76GammaProbe : RegCode Empty Unit).run accessFile t).2 = t := by
    intro t
    rw [run_onlyIf]
    split
    · exact run_v76GammaProbe t
    · rfl
  rw [afterPass, monitorPass, run_bind, run_bind, hgamma, run_onlyIf, run_v65]
  split
  · exact run_v79Linearize _
  · rfl

/-- On settled registers the V65 block writes nothing but what V64 does. -/
theorem v65After_settled {s : RegFile} (h : Settled s) (v60Count : Nat) :
    v65After v60Count s = if v60Count = 3 then csbAdvanced s else s := by
  have hadvanced : ((advanceCsb : RegCode Empty Unit).run regFile s).2 = csbAdvanced s := rfl
  simp only [v65After, EnforcementPoint.after, EnforcementPoint.code, v60GpuHealthMonitorV65,
    run_bind, run_get, run_onlyIf, plain_read, h.error, h.masked, ne_eq, not_true_eq_false,
    if_false]
  by_cases hthird : v60Count = 3
  · simp only [if_pos hthird, hadvanced, h.csbAdvanced.enable, h.csbAdvanced.mask,
      not_true_eq_false, if_false]
  · simp only [if_neg hthird, h.enable, h.mask, not_true_eq_false, if_false]

theorem afterPass_settled {s : RegFile} (h : Settled s) (v60Count : Nat) :
    afterPass v60Count s = if v60Count = 3 then csbAdvanced s else s := by
  have hlinear : tilingOf (v65After v60Count s planeCtl) = 0 := by
    rw [v65After_settled h]
    split
    · exact h.csbAdvanced.linear
    · exact h.linear
  rw [afterPass_eq, linearized_of_linear hlinear, ite_self, v65After_settled h]

/-! ## The first pass -/

/-- What it may change. -/
def firstPassRegs : List (BitVec 32) :=
  [errorGen6, renderRingEmr, gen11RenderCopyIntrEnable, gen11Rcs0RsvdIntrMask, planeCtl,
    planeStride]

theorem v65After_error (s : RegFile) (v60Count : Nat) : v65After v60Count s errorGen6 = 0 := by
  simp (disch := decide) only [v65After, EnforcementPoint.after, EnforcementPoint.code,
    v60GpuHealthMonitorV65, run_bind, run_get, plain_read, onlyIf_advanceCsb_other,
    run_onlyIf_put_same, run_onlyIf_put_other]
  split
  · rfl
  · next hzero => exact not_not.mp hzero

theorem v65After_masked (s : RegFile) (v60Count : Nat) :
    v65After v60Count s renderRingEmr = 0xFFFFFFFF := by
  simp (disch := decide) only [v65After, EnforcementPoint.after, EnforcementPoint.code,
    v60GpuHealthMonitorV65, run_bind, run_get, plain_read, onlyIf_advanceCsb_other,
    run_onlyIf_put_same, run_onlyIf_put_other]
  split
  · rfl
  · next hones => exact not_not.mp hones

def v65Regs : List (BitVec 32) :=
  [errorGen6, renderRingEmr, gen11RenderCopyIntrEnable, gen11Rcs0RsvdIntrMask]

theorem footprint_v65 {v60Count : Nat} {l : List (BitVec 32)} (hl : v65Regs ⊆ l)
    (hcsb : (onlyIf (v60Count = 3) advanceCsb : RegCode Empty Unit).Footprint l fun _ => False) :
    (v60GpuHealthMonitorV65 v60Count : RegCode Empty Unit).Footprint l fun _ => False :=
  .bind (.get _) fun _ => .bind (.get _) fun _ =>
    .bind (.onlyIf (.put (hl (by decide)))) fun _ =>
    .bind (.onlyIf (.put (hl (by decide)))) fun _ =>
    .bind hcsb fun _ => .bind (.get _) fun _ => .bind (.get _) fun _ =>
    .bind (.onlyIf (.put (hl (by decide)))) fun _ => .onlyIf (.put (hl (by decide)))

theorem v65After_frame (v60Count : Nat) {r : BitVec 32}
    (hr : r ∉ renderContextStatusPtr :: v65Regs) (s : RegFile) : v65After v60Count s r = s r := by
  rw [v65After, EnforcementPoint.after, regFile, ← kinded_plain]
  refine (footprint_v65 (List.subset_cons_self _ _) (.onlyIf ?_)).frame_quiet hr s
  exact .bind (.get _) fun _ => .onlyIf (.put List.mem_cons_self)

/-- Only V64 moves the CSB pointer. -/
theorem v65After_frame_csb {v60Count : Nat} (hthird : v60Count ≠ 3) (s : RegFile) :
    v65After v60Count s renderContextStatusPtr = s renderContextStatusPtr := by
  rw [v65After, EnforcementPoint.after, regFile, ← kinded_plain]
  refine (footprint_v65 (List.Subset.refl _) ?_).frame_quiet (by decide) s
  rw [onlyIf, if_neg hthird]
  exact .pure ()

theorem linearized_frame {r : BitVec 32} (hctl : r ≠ planeCtl) (hstride : r ≠ planeStride)
    (s : RegFile) : linearized s r = s r := by
  rw [linearized, Function.update_of_ne hstride, Function.update_of_ne hctl]

theorem linearized_ctl (s : RegFile) :
    linearized s planeCtl = linearCtl (s planeCtl) (s planeSurf) := by
  rw [linearized, Function.update_of_ne (by decide), Function.update_self]

theorem linearized_stride (s : RegFile) :
    linearized s planeStride = linearStride (tilingOf (s planeCtl)) (s planeStride) :=
  Function.update_self _ _ _

theorem afterPass_linear {v60Count : Nat} (hlinear : LinearizesAt v60Count) (s : RegFile) :
    afterPass v60Count s = linearized (v65After v60Count s) := by
  rw [afterPass_eq, if_pos hlinear]

/-- The plane after a pass of V79. -/
theorem afterPass_ctl {v60Count : Nat} (hlinear : LinearizesAt v60Count) (s : RegFile) :
    afterPass v60Count s planeCtl = linearCtl (s planeCtl) (s planeSurf) := by
  rw [afterPass_linear hlinear, linearized_ctl, v65After_frame v60Count (by decide),
    v65After_frame v60Count (by decide)]

theorem afterPass_stride {v60Count : Nat} (hlinear : LinearizesAt v60Count) (s : RegFile) :
    afterPass v60Count s planeStride = linearStride (tilingOf (s planeCtl)) (s planeStride) := by
  rw [afterPass_linear hlinear, linearized_stride, v65After_frame v60Count (by decide),
    v65After_frame v60Count (by decide)]

theorem afterPass_settles {v60Count : Nat} (hlinear : LinearizesAt v60Count) (s : RegFile) :
    Settled (afterPass v60Count s) := by
  have henforced : InterruptsEnforced s (v65After v60Count s) :=
    v60GpuHealthMonitorV65_enforced s v60Count
  have hplane : tilingOf (afterPass v60Count s planeCtl) = 0 := by
    rw [afterPass_ctl hlinear, tilingOf_linearCtl]
  refine ⟨?_, ?_, ?_, ?_, hplane⟩
  · rw [afterPass_linear hlinear, linearized_frame (by decide) (by decide), v65After_error]
  · rw [afterPass_linear hlinear, linearized_frame (by decide) (by decide), v65After_masked]
  · rw [afterPass_linear hlinear, linearized_frame (by decide) (by decide), henforced.enable]
    exact Bits.or_and_self _ _
  · rw [afterPass_linear hlinear, linearized_frame (by decide) (by decide), henforced.mask,
      BitVec.and_assoc, BitVec.and_comm (~~~wantUnmasked), BitVec.and_not_self]
    exact BitVec.and_zero

/-! ## The chain -/

/-- On settled registers only V64 is left to come, if pass 3 is. -/
theorem run_settled (passes : Nat) {s : RegFile} (h : Settled s) (first : Nat) :
    Runs.run afterPass (List.range' first passes) s =
      if first ≤ 3 ∧ 3 < first + passes then csbAdvanced s else s := by
  induction passes generalizing first s with
  | zero =>
      rw [if_neg (by omega)]
      rfl
  | succ passes ih =>
      rw [List.range'_succ, Runs.run, afterPass_settled h]
      by_cases hthird : first = 3
      · rw [if_pos hthird, ih h.csbAdvanced, if_neg (by omega), if_pos (by omega)]
      · have hiff : first + 1 ≤ 3 ∧ 3 < first + 1 + passes ↔
            first ≤ 3 ∧ 3 < first + (passes + 1) := by
          omega
        rw [if_neg hthird, ih h]
        exact if_congr hiff rfl rfl

theorem firstPass_frame {r : BitVec 32} (hr : r ∉ firstPassRegs) (s : RegFile) :
    afterPass 1 s r = s r := by
  have hctl : r ≠ planeCtl := fun heq => hr (heq ▸ (by decide))
  have hstride : r ≠ planeStride := fun heq => hr (heq ▸ (by decide))
  rw [afterPass_linear (by decide), linearized_frame hctl hstride]
  by_cases hcsb : r = renderContextStatusPtr
  · rw [hcsb, v65After_frame_csb (by decide)]
  · refine v65After_frame 1 (fun hmem => hr ?_) s
    exact (show v65Regs ⊆ firstPassRegs by decide) (List.mem_of_ne_of_mem hcsb hmem)

theorem firstPass_pitch (s : RegFile) :
    pitch (afterPass 1 s planeCtl) (afterPass 1 s planeStride) =
      pitch (s planeCtl) (s planeStride) := by
  rw [afterPass_ctl (by decide), afterPass_stride (by decide), linearize_pitch]

theorem firstPass_enforced (s : RegFile) : InterruptsEnforced s (afterPass 1 s) := by
  have henforced : InterruptsEnforced s (v65After 1 s) := v60GpuHealthMonitorV65_enforced s 1
  rw [afterPass_linear (by decide)]
  exact ⟨(linearized_frame (by decide) (by decide) _).trans henforced.enable,
    (linearized_frame (by decide) (by decide) _).trans henforced.mask⟩

/-! ## In the mapped window -/

theorem monitorPass_reaches (v60Count : Nat) :
    (monitorPass v60Count : RegCode Empty Unit).Reaches (WindowReg 0x190094) := by
  have hctl : WindowReg 0x190094 planeCtl := by decide
  have hstride : WindowReg 0x190094 planeStride := by decide
  have hsurf : WindowReg 0x190094 planeSurf := by decide
  have hv65 := (EnforcementPoint.v60GpuHealthMonitor v60Count).code_reaches
  refine .bind (hv65.mono fun _ => PlainReg.windowReg) fun _ => .bind (.onlyIf _ ?_) fun _ =>
    .onlyIf _ (v76GammaProbe_reaches (by decide) (by decide))
  exact .bind (.get hctl) fun _ => .bind (.get hstride) fun _ => .onlyIf _ <|
    .bind (.put hctl _) fun _ => .bind (.put hstride _) fun _ => .bind (.get hsurf) fun _ =>
      .put hsurf _

/-- Run through the plugin's accessors, the passes leave in the window what they leave in the
file. -/
theorem afterPasses_window (passes : List Nat) {m : Mmio} {s : RegFile}
    (h : ShowsAll 0x190094 m s) :
    ShowsAll 0x190094 (Runs.run windowPass passes m) (Runs.run afterPass passes s) := by
  induction passes generalizing m s with
  | nil => exact h
  | cons n passes ih =>
      exact ih (run_window_guarded (fun e => e.elim) (monitorPass_reaches n) h)

/-- PLANE_CTL 0x84000400, a plane that is on and X-tiled: with a surface it stays on, without
one the pass switches it off. -/
example : linearCtl 0x84000400 0x412AD000 = 0x84000000 ∧ linearCtl 0x84000400 0 = 0x04000000 := by
  decide

/-! ## A driver that writes PLANE_CTL -/

/-- A pass of the monitor, or a write of PLANE_CTL by the driver, which leaves the stride. -/
inductive PlaneEvent where
  | pass (v60Count : Nat)
  | driver (ctl : BitVec 32)
  deriving DecidableEq, Repr

def PlaneEvent.apply : PlaneEvent → RegFile → RegFile
  | .pass v60Count, s => afterPass v60Count s
  | .driver ctl, s => Function.update s planeCtl ctl

/-- What the stride is multiplied by, from a plane with this tiling on. -/
def strideFactor : BitVec 32 → List PlaneEvent → BitVec 32
  | _, [] => 1
  | _, .driver ctl :: events => strideFactor (tilingOf ctl) events
  | tiling, .pass v60Count :: events =>
      if LinearizesAt v60Count then tileFactor tiling * strideFactor 0 events
      else strideFactor tiling events

/-- The driver writes `ctl` before each of the passes. -/
def rewrites (ctl : BitVec 32) (passes : List Nat) : List PlaneEvent :=
  passes.flatMap fun v60Count => [.driver ctl, .pass v60Count]

theorem strideFactor_rewrites (ctl tiling : BitVec 32) (passes : List Nat) :
    strideFactor tiling (rewrites ctl passes) =
      tileFactor (tilingOf ctl) ^ passes.countP (fun n => decide (LinearizesAt n)) := by
  induction passes generalizing tiling with
  | nil => rfl
  | cons n passes ih =>
      show strideFactor tiling (.driver ctl :: .pass n :: rewrites ctl passes) = _
      rw [strideFactor, strideFactor, ih, ih, List.countP_cons]
      by_cases hlinear : LinearizesAt n
      · rw [if_pos hlinear, if_pos (decide_eq_true hlinear), BitVec.pow_succ]
        exact BitVec.mul_comm _ _
      · rw [if_neg hlinear, if_neg (by rw [decide_eq_false hlinear]; exact Bool.false_ne_true)]
        rfl

theorem run_stride (events : List PlaneEvent) (s : RegFile) :
    Runs.run PlaneEvent.apply events s planeStride =
      s planeStride * strideFactor (tilingOf (s planeCtl)) events := by
  induction events generalizing s with
  | nil => exact (BitVec.mul_one _).symm
  | cons e events ih =>
      rw [Runs.run, ih]
      cases e with
      | driver ctl =>
          rw [PlaneEvent.apply, Function.update_self, Function.update_of_ne (by decide),
            strideFactor]
      | pass n =>
          rw [PlaneEvent.apply, strideFactor]
          by_cases hlinear : LinearizesAt n
          · rw [if_pos hlinear, afterPass_ctl hlinear, afterPass_stride hlinear,
              tilingOf_linearCtl, linearStride_eq, BitVec.mul_assoc]
          · rw [if_neg hlinear, afterPass_eq, if_neg hlinear, v65After_frame n (by decide),
              v65After_frame n (by decide)]

/-- Over every run of passes and writes of PLANE_CTL the stride is multiplied by the factors of
the tilings that V79 finds, each counted at the first of its passes that comes; a driver that
writes PLANE_CTL before each of the sixty passes has its stride scaled eight times. -/
theorem stride_of_run (s : RegFile) :
    (∀ events, Runs.run PlaneEvent.apply events s planeStride =
      s planeStride * strideFactor (tilingOf (s planeCtl)) events) ∧
    ∀ ctl, Runs.run PlaneEvent.apply (rewrites ctl (List.range' 1 60)) s planeStride =
      s planeStride * tileFactor (tilingOf ctl) ^ 8 := by
  refine ⟨fun events => run_stride events s, fun ctl => ?_⟩
  have hcount : (List.range' 1 60).countP (fun n => decide (LinearizesAt n)) = 8 := by decide
  rw [run_stride, strideFactor_rewrites, hcount]

/-- With tiling 4 that is 2 to the 32, and nothing is left of the stride. -/
example : tileFactor 1 ^ 8 = 0x1000000 ∧ tileFactor 4 ^ 8 = 0 := by decide

end NootedGreen

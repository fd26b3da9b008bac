/-
# `Mmio.GuardedStorage` — a mapped window as storage, its SURF registers included

`Mmio.Storage` keeps away from the SURF registers of the planes, where `writeReg32` may do
something else than it is asked.  On a register file that guard is

    a zero for a plane that is on and has a surface      nothing changes
    a zero for a plane that is on and has none           PLANE_CTL loses bit 31
    anything else                                        the register takes the value

and with it (`guardedFile`) code that reads and writes aligned registers inside the mapping,
whichever they are, cannot tell the file from the window (`window_simulates_guarded`).  Code
that writes no SURF register cannot tell it from a plain file (`run_guarded`).
-/
import NootedGreen.Lib.Bits
import NootedGreen.Mmio.Storage

namespace NootedGreen

open Mmio

variable {ε γ : Type}

def isPlaneSurf (reg : BitVec 32) : Bool := looksLikePlaneSurf (reg.setWidth 64)

/-- `PLANE_CTL` of the plane with this SURF register. -/
def ctlOfSurf (reg : BitVec 32) : BitVec 32 := planeCtlReg (reg.setWidth 64)

/-- `writeReg32` on a register file. -/
def guardedWrite (reg val : BitVec 32) (f : RegFile) : RegFile :=
  if isPlaneSurf reg = true ∧ val = 0 ∧ f (ctlOfSurf reg) &&& 0x80000000 ≠ 0 then
    if f reg ≠ 0 then f
    else Function.update f (ctlOfSurf reg) (f (ctlOfSurf reg) &&& ~~~0x80000000)
  else Function.update f reg val

def guardedFile (call : ε → RegFile → RegFile) : Device (BitVec 32) (BitVec 32) ε RegFile where
  read := fun reg f => (f reg, f)
  write := guardedWrite
  call := call

@[simp] theorem guardedFile_read (call : ε → RegFile → RegFile) (reg : BitVec 32) (f : RegFile) :
    (guardedFile call).read reg f = (f reg, f) := rfl

@[simp] theorem guardedFile_write (call : ε → RegFile → RegFile) (reg val : BitVec 32)
    (f : RegFile) : (guardedFile call).write reg val f = guardedWrite reg val f := rfl

theorem guardedWrite_plain {reg : BitVec 32} (h : isPlaneSurf reg = false) (val : BitVec 32)
    (f : RegFile) : guardedWrite reg val f = Function.update f reg val := by
  rw [guardedWrite, if_neg]
  rintro ⟨hsurf, -⟩
  exact Bool.false_ne_true (h.symm.trans hsurf)

/-- A SURF register written with what it holds: nothing changes, but for a zero the plane is
off afterwards. -/
theorem guardedWrite_back {reg : BitVec 32} (h : isPlaneSurf reg = true) (f : RegFile) :
    guardedWrite reg (f reg) f =
      if f reg = 0 then
        Function.update f (ctlOfSurf reg) (f (ctlOfSurf reg) &&& ~~~0x80000000)
      else f := by
  by_cases hzero : f reg = 0
  · rw [if_pos hzero, guardedWrite]
    by_cases hon : f (ctlOfSurf reg) &&& 0x80000000 = 0
    · -- the plane is off already, and bit 31 has nothing to lose
      have hsame : f (ctlOfSurf reg) &&& ~~~0x80000000 = f (ctlOfSurf reg) :=
        (Bits.and_not_eq_left_iff _ _).mpr hon
      rw [if_neg fun hguard => hguard.2.2 hon, hsame, Function.update_eq_self,
        Function.update_eq_self]
    · rw [if_pos ⟨h, hzero, hon⟩, if_neg (not_not.mpr hzero)]
  · rw [if_neg hzero, guardedWrite, if_neg fun hguard => hzero hguard.2.1,
      Function.update_eq_self]

/-! ## The window -/

/-- All registers of the window hold what the file says. -/
abbrev ShowsAll (bound : Nat) (s : Mmio) (f : RegFile) : Prop := Shows (WindowReg bound) bound s f

section Window

variable {bound : Nat} {s : Mmio} {f : RegFile} {reg : BitVec 32}

theorem ctlOfSurf_toNat (hsurf : isPlaneSurf reg = true) :
    (ctlOfSurf reg).toNat = reg.toNat - 0x1C := by
  rw [ctlOfSurf, planeCtlReg_toNat hsurf, toNat_setWidth_reg]

theorem WindowReg.ctlOfSurf (hreg : WindowReg bound reg) (hsurf : isPlaneSurf reg = true) :
    WindowReg bound (ctlOfSurf reg) := by
  obtain ⟨hlo, -, -⟩ := (looksLikePlaneSurf_iff _).mp hsurf
  have hctl := ctlOfSurf_toNat hsurf
  have h4 := hreg.1
  have hle := hreg.2
  rw [toNat_setWidth_reg] at hlo
  constructor
  · omega
  · omega

/-- The plane is on, as the window and as the file have it. -/
theorem ShowsAll.planeEnabled_iff (h : ShowsAll bound s f) (hreg : WindowReg bound reg)
    (hsurf : isPlaneSurf reg = true) :
    s.planeEnabled (reg.setWidth 64) = true ↔ f (ctlOfSurf reg) &&& 0x80000000 ≠ 0 := by
  have hctl := h.holds _ (hreg.ctlOfSurf hsurf)
  rw [ctlOfSurf_toNat hsurf] at hctl
  rw [Mmio.planeEnabled, planCtl_eq hsurf, toNat_setWidth_reg, hctl]
  exact bne_iff_ne

theorem ShowsAll.write (h : ShowsAll bound s f) (hreg : WindowReg bound reg) (v : BitVec 32) :
    ShowsAll bound (writeReg32 (reg.setWidth 64) v s) (guardedWrite reg v f) := by
  have hmap := h.mapped hreg
  have hlive : (writeReg32 (reg.setWidth 64) v s).rmmio = s.rmmio := writeReg32_rmmio _ _ _
  rw [guardedWrite]
  split
  · next hguard =>
      obtain ⟨hsurf, rfl, hon⟩ := hguard
      have hon' := (ShowsAll.planeEnabled_iff h hreg hsurf).mpr hon
      have hsurfOff := h.holds reg hreg
      have hctlOff := h.holds _ (hreg.ctlOfSurf hsurf)
      rw [ctlOfSurf_toNat hsurf] at hctlOff
      split
      · next hcur =>
          -- the plane keeps its surface
          have hbytes : (writeReg32 (reg.setWidth 64) 0 s).rmmioPtr = s.rmmioPtr := by
            refine writeReg32_keeps hreg.aligned hmap hsurf hon' ?_
            rw [toNat_setWidth_reg, hsurfOff]
            exact hcur
          exact ⟨hlive ▸ h.covers, hbytes ▸ h.holds⟩
      · next hcur =>
          -- the plane is switched off
          refine h.store (fun _ hr => hr) (hreg.ctlOfSurf hsurf) hlive ?_
          have hzero : s.rmmioPtr.load32 (reg.setWidth 64).toNat = 0 := by
            rw [toNat_setWidth_reg, hsurfOff]
            exact not_not.mp hcur
          rw [writeReg32_disarms hreg.aligned hmap hsurf hon' hzero, toNat_setWidth_reg,
            ctlOfSurf_toNat hsurf, hctlOff]
  · next hguard =>
      refine h.store (fun _ hr => hr) hreg hlive ?_
      have hbytes : (writeReg32 (reg.setWidth 64) v s).rmmioPtr =
          s.rmmioPtr.store (reg.setWidth 64).toNat 4 v := by
        refine writeReg32_stores hreg.aligned hmap ?_
        by_cases hzero : v = 0
        · cases hsurf : isPlaneSurf reg with
          | false => exact .inr (.inl hsurf)
          | true =>
              refine .inr (.inr (Bool.eq_false_iff.mpr fun hon => hguard ⟨hsurf, hzero, ?_⟩))
              exact (ShowsAll.planeEnabled_iff h hreg hsurf).mp hon
        · exact .inl hzero
      rw [hbytes, toNat_setWidth_reg]

end Window

theorem window_simulates_guarded {bound : Nat} {call : ε → Mmio → Mmio}
    {call' : ε → RegFile → RegFile}
    (hcall : ∀ e s f, ShowsAll bound s f → ShowsAll bound (call e s) (call' e f)) :
    RegProg.Simulates (window call) (guardedFile call') (WindowReg bound) (ShowsAll bound) where
  read := fun _ _ _ hreg h => h.read hreg hreg
  write := fun _ v _ _ hreg h => ShowsAll.write h hreg v
  call := hcall

/-- What the code leaves in the guarded file it leaves in the window. -/
theorem run_window_guarded {bound : Nat} {call : ε → Mmio → Mmio}
    {call' : ε → RegFile → RegFile}
    (hcall : ∀ e s f, ShowsAll bound s f → ShowsAll bound (call e s) (call' e f))
    {code : RegCode ε γ} (hcode : code.Reaches (WindowReg bound)) {s : Mmio} {f : RegFile}
    (h : ShowsAll bound s f) :
    ShowsAll bound (code.run (window call) s).2 (code.run (guardedFile call') f).2 :=
  ((window_simulates_guarded hcall).run hcode h).2

/-! ## Code that writes no SURF register -/

theorem guarded_simulates_plain (call : ε → RegFile → RegFile) :
    RegProg.Simulates (guardedFile call) (RegProg.plain call) (fun reg => isPlaneSurf reg = false)
      Eq where
  read := by
    rintro reg f _ - rfl
    exact ⟨rfl, rfl⟩
  write := by
    rintro reg v f _ hreg rfl
    exact guardedWrite_plain hreg v f
  call := by
    rintro e f _ rfl
    rfl

theorem run_guarded {call : ε → RegFile → RegFile} {code : RegCode ε γ}
    (hcode : code.Reaches fun reg => isPlaneSurf reg = false) (f : RegFile) :
    (code.run (guardedFile call) f).2 = (code.run (RegProg.plain call) f).2 :=
  ((guarded_simulates_plain call).run hcode rfl).2

end NootedGreen

/-
# `Hooks.SurfaceTable` — the surfaces `raWriteRegister32` remembers

With `-ngreenv93` the hook keeps a table of eight planes, the last surface it saw for
each, and looks there before it lets a zero through.  What it does with a write to the
SURF register of a plane:

    value     plane       remembered   hardware   hands on     notes
    nonzero   —           —            —          the value    the value
    zero      off         —            —          zero         —
    zero      on          nonzero      —          remembered   —
    zero      on          none         nonzero    hardware     the hardware value
    zero      on          none         zero       zero, after `PLANE_CTL` bit 31 is cleared

`V93Case` is this table, one constructor a row; everything below is read off it.  A
`Tracked` state carries, beside the hook's own state, the list of all values noted so
far, so that "the latest value noted" can be said; no definition of the hook reads it.

The registers are those of a mapped window, and the offsets are below `0x100000`, where
the guard's masking with `0xFFFFF` changes nothing.
-/
import NootedGreen.Hooks.RegisterWrite
import NootedGreen.Lib.SlotTable
import NootedGreen.Mmio.PlaneArming

namespace NootedGreen

open Mmio

/-! ## The table as slots -/

/-- The entries of `v93States`: by SURF register, 0 for a free one. -/
def v93Slots : Slots V93PlaneSurfState (BitVec 32) where
  key := V93PlaneSurfState.surfReg
  free := 0
  fresh := fun surfReg => ⟨surfReg, 0⟩
  key_fresh := fun _ => rfl

/-- What noting a surface does to an entry. -/
def noting : Option (BitVec 32) → V93PlaneSurfState → V93PlaneSurfState
  | some surf, entry => { entry with lastNonZeroSurf := surf }
  | none, entry => entry

theorem noting_key (noted : Option (BitVec 32)) (entry : V93PlaneSurfState) :
    v93Slots.key (noting noted entry) = v93Slots.key entry := by
  cases noted <;> rfl

/-- The surface on record for a SURF register, 0 when there is none. -/
def remembered (surfReg : BitVec 32) (states : List V93PlaneSurfState) : BitVec 32 :=
  match v93Slots.lookup surfReg states with
  | some entry => entry.lastNonZeroSurf
  | none => 0

theorem getV93State_eq : getV93State = v93Slots.locate := rfl

theorem lastNonZeroSurf_getV93State (surfReg : BitVec 32) (states : List V93PlaneSurfState) :
    lastNonZeroSurf (getV93State surfReg states).1 (getV93State surfReg states).2 =
      remembered surfReg states := by
  rw [lastNonZeroSurf, remembered, getV93State_eq]
  rcases v93Slots.locate_entry surfReg states with h | ⟨hnone, hfresh⟩
  · rewrite [h]
    rfl
  · rewrite [hfresh, hnone]
    rfl

theorem setLastNonZeroSurf_getV93State (surfReg surf : BitVec 32)
    (states : List V93PlaneSurfState) :
    setLastNonZeroSurf (getV93State surfReg states).1 surf (getV93State surfReg states).2 =
      v93Slots.touch (noting (some surf)) surfReg states := by
  rw [Slots.touch, ← getV93State_eq]
  rcases getV93State surfReg states with ⟨i | _, states'⟩ <;> rfl

theorem getV93State_touch (surfReg : BitVec 32) (states : List V93PlaneSurfState) :
    (getV93State surfReg states).2 = v93Slots.touch (noting none) surfReg states := by
  have hid : noting none = id := rfl
  rw [Slots.touch, ← getV93State_eq, hid]
  rcases getV93State surfReg states with ⟨_ | i, states'⟩
  · rfl
  · exact (List.modify_id i states').symm

/-! ## What the guard does with a SURF write -/

/-- The offset the V93 block looks at, and the register it keeps in the table. -/
def v93Offset (param1 : BitVec 64) : BitVec 64 := param1 &&& 0xFFFFF

def v93Reg (param1 : BitVec 64) : BitVec 32 := (v93Offset param1).setWidth 32

theorem v93Offset_toNat (param1 : BitVec 64) :
    (v93Offset param1).toNat = param1.toNat % 0x100000 := by
  rw [v93Offset, BitVec.toNat_and]
  exact Nat.and_two_pow_sub_one_eq_mod param1.toNat 20

theorem v93Offset_of_lt {param1 : BitVec 64} (h : param1.toNat < 0x100000) :
    v93Offset param1 = param1 := by
  refine BitVec.eq_of_toNat_eq ?_
  rw [v93Offset_toNat, Nat.mod_eq_of_lt h]

theorem v93Reg_setWidth (param1 : BitVec 64) : (v93Reg param1).setWidth 64 = v93Offset param1 := by
  have hlt : (v93Offset param1).toNat < 0x100000 := by
    rw [v93Offset_toNat]
    exact Nat.mod_lt _ (by decide)
  refine BitVec.eq_of_toNat_eq ?_
  rw [v93Reg, BitVec.toNat_setWidth, BitVec.toNat_setWidth]
  omega

theorem v93Reg_ne_zero {param1 : BitVec 64}
    (hsurf : looksLikePlaneSurf (v93Offset param1) = true) : v93Reg param1 ≠ 0 := by
  intro hzero
  have hoff := v93Reg_setWidth param1
  rw [hzero] at hoff
  rw [← hoff] at hsurf
  exact absurd hsurf (by decide)

/-- `reg - 0x1C` in 32 bits is `PLANE_CTL` of the plane. -/
theorem v93Ctl {param1 : BitVec 64} (hsurf : looksLikePlaneSurf (v93Offset param1) = true) :
    (v93Reg param1 - 0x1C).setWidth 64 = (planeCtlReg (v93Offset param1)).setWidth 64 := by
  obtain ⟨hlo, hhi, -⟩ := (looksLikePlaneSurf_iff _).mp hsurf
  have hreg : (v93Reg param1).toNat = (v93Offset param1).toNat := by
    rw [← v93Reg_setWidth, BitVec.toNat_setWidth]
    omega
  refine BitVec.eq_of_toNat_eq ?_
  rw [planeCtl_offset hsurf, BitVec.toNat_setWidth, BitVec.toNat_sub, hreg]
  simp
  omega

/-- The window once the guard has looked at `PLANE_CTL`, and at SURF as well. -/
def Mmio.ctlRead (s : Mmio) (reg : BitVec 64) : Mmio :=
  s.log (.load ((planeCtlReg reg).setWidth 64 >>> 2).toNat)

def Mmio.surfRead (s : Mmio) (reg : BitVec 64) : Mmio :=
  (s.ctlRead reg).log (.load (reg >>> 2).toNat)

/-- The window once the plane is disabled. -/
def Mmio.disarmed (s : Mmio) (reg : BitVec 64) : Mmio :=
  writeReg32 ((planeCtlReg reg).setWidth 64) (s.planCtl reg &&& ~~~0x80000000) (s.surfRead reg)

theorem planeCtl_aligned {reg : BitVec 64} (hsurf : looksLikePlaneSurf reg = true) :
    ((planeCtlReg reg).setWidth 64).toNat % 4 = 0 := by
  obtain ⟨hlo, -, hmod⟩ := (looksLikePlaneSurf_iff reg).mp hsurf
  rw [planeCtl_offset hsurf]
  omega

/-- The rows of the table: from the plane `reg` and the value asked for, to the value
handed on and the state it is handed on in. -/
inductive V93Case (reg : BitVec 64) (s : HookState) : BitVec 32 → BitVec 32 × HookState → Prop
  | requested {value : BitVec 32} (hval : value ≠ 0) :
      V93Case reg s value
        (value, ⟨s.mmio, v93Slots.touch (noting (some value)) (reg.setWidth 32) s.v93States⟩)
  | off (hoff : s.mmio.planeEnabled reg = false) :
      V93Case reg s 0
        (0, ⟨s.mmio.ctlRead reg, v93Slots.touch (noting none) (reg.setWidth 32) s.v93States⟩)
  | kept (hon : s.mmio.planeEnabled reg = true)
      (hrem : remembered (reg.setWidth 32) s.v93States ≠ 0) :
      V93Case reg s 0
        (remembered (reg.setWidth 32) s.v93States,
          ⟨s.mmio.ctlRead reg, v93Slots.touch (noting none) (reg.setWidth 32) s.v93States⟩)
  | adopted (hon : s.mmio.planeEnabled reg = true)
      (hrem : remembered (reg.setWidth 32) s.v93States = 0) (hcur : s.mmio.dword reg ≠ 0) :
      V93Case reg s 0
        (s.mmio.dword reg, ⟨s.mmio.surfRead reg,
          v93Slots.touch (noting (some (s.mmio.dword reg))) (reg.setWidth 32) s.v93States⟩)
  | disarmed (hon : s.mmio.planeEnabled reg = true)
      (hrem : remembered (reg.setWidth 32) s.v93States = 0) (hcur : s.mmio.dword reg = 0) :
      V93Case reg s 0
        (0, ⟨s.mmio.disarmed reg, v93Slots.touch (noting none) (reg.setWidth 32) s.v93States⟩)

theorem v93Guard_other {param1 : BitVec 64} (h : looksLikePlaneSurf (v93Offset param1) = false)
    (param2 : BitVec 32) (s : HookState) : v93Guard param1 param2 s = (param2, s) := by
  have hreg := v93Reg_setWidth param1
  rw [v93Reg, v93Offset] at hreg
  rw [v93Offset] at h
  simp only [v93Guard, hreg, h, Bool.false_eq_true, if_false]

theorem v93Guard_cases {param1 : BitVec 64} {s : HookState}
    (hsurf : looksLikePlaneSurf (v93Offset param1) = true)
    (hmap : s.mmio.Mapped (v93Offset param1)) (param2 : BitVec 32) :
    V93Case (v93Offset param1) s param2 (v93Guard param1 param2 s) := by
  have hreg := v93Reg_setWidth param1
  have hctlReg := v93Ctl hsurf
  have hctl := mapped_planeCtlReg hsurf hmap
  have hcur : (s.mmio.ctlRead (v93Offset param1)).Mapped (v93Offset param1) :=
    hmap.of_rmmio_eq rfl
  have hread : readReg32 (v93Offset param1)
      (s.mmio.log (.load ((planeCtlReg (v93Offset param1)).setWidth 64 >>> 2).toNat)) =
      (s.mmio.dword (v93Offset param1), s.mmio.surfRead (v93Offset param1)) := readReg32_mapped hcur
  have hon : (s.mmio.planeEnabled (v93Offset param1) = true) =
      (s.mmio.planCtl (v93Offset param1) &&& 0x80000000 ≠ 0) := by
    simp [planeEnabled]
  -- the guard with its lookups and reads done
  have heq : v93Guard param1 param2 s =
      if param2 ≠ 0 then
        (param2, ⟨s.mmio, v93Slots.touch (noting (some param2)) (v93Reg param1) s.v93States⟩)
      else if s.mmio.planCtl (v93Offset param1) &&& 0x80000000 ≠ 0 then
        if remembered (v93Reg param1) s.v93States ≠ 0 then
          (remembered (v93Reg param1) s.v93States, ⟨s.mmio.ctlRead (v93Offset param1),
            v93Slots.touch (noting none) (v93Reg param1) s.v93States⟩)
        else if s.mmio.dword (v93Offset param1) ≠ 0 then
          (s.mmio.dword (v93Offset param1), ⟨s.mmio.surfRead (v93Offset param1),
            v93Slots.touch (noting (some (s.mmio.dword (v93Offset param1)))) (v93Reg param1)
              s.v93States⟩)
        else (param2, ⟨s.mmio.disarmed (v93Offset param1),
          v93Slots.touch (noting none) (v93Reg param1) s.v93States⟩)
      else (param2, ⟨s.mmio.ctlRead (v93Offset param1),
        v93Slots.touch (noting none) (v93Reg param1) s.v93States⟩) := by
    simp only [← setLastNonZeroSurf_getV93State, ← lastNonZeroSurf_getV93State,
      ← getV93State_touch]
    simp only [v93Guard, show param1 &&& 0xFFFFF = v93Offset param1 from rfl,
      show (v93Offset param1).setWidth 32 = v93Reg param1 from rfl, hreg, hsurf, if_true, hctlReg,
      readReg32_mapped hctl, hread]
    rfl
  rw [heq]
  split
  · exact .requested ‹_›
  · rename_i hz
    obtain rfl : param2 = 0 := not_not.mp hz
    split
    · rename_i hen
      rw [← hon] at hen
      split
      · exact .kept hen ‹_›
      · rename_i hrem
        split
        · exact .adopted hen (not_not.mp hrem) ‹_›
        · exact .disarmed hen (not_not.mp hrem) (not_not.mp ‹_›)
    · rename_i hen
      rw [← hon] at hen
      exact .off (eq_false_of_ne_true hen)

/-- A SURF register itself is below the mask. -/
theorem v93Offset_surf {reg : BitVec 64} (hsurf : looksLikePlaneSurf reg = true) :
    v93Offset reg = reg := by
  obtain ⟨-, hhi, -⟩ := (looksLikePlaneSurf_iff reg).mp hsurf
  exact v93Offset_of_lt (by omega)

theorem v93Guard_surf {reg : BitVec 64} {s : HookState} (hsurf : looksLikePlaneSurf reg = true)
    (hmap : s.mmio.Mapped reg) (value : BitVec 32) :
    V93Case reg s value (v93Guard reg value s) := by
  have hoff := v93Offset_surf hsurf
  have hcase := v93Guard_cases (s := s) (hoff.symm ▸ hsurf) (hoff.symm ▸ hmap) value
  rwa [hoff] at hcase

/-- The surface a SURF write notes for its plane: the one asked for, or the one adopted
from the hardware. -/
def v93Noted (reg : BitVec 64) (value : BitVec 32) (s : HookState) : Option (BitVec 32) :=
  if value ≠ 0 then some value
  else if s.mmio.planeEnabled reg = true ∧ remembered (reg.setWidth 32) s.v93States = 0 ∧
      s.mmio.dword reg ≠ 0 then some (s.mmio.dword reg)
  else none

section Case

variable {reg : BitVec 64} {s : HookState} {value : BitVec 32} {p : BitVec 32 × HookState}
  (h : V93Case reg s value p)

include h

theorem V93Case.table :
    p.2.v93States =
      v93Slots.touch (noting (v93Noted reg value s)) (reg.setWidth 32) s.v93States := by
  have hzero : ¬ (0 : BitVec 32) ≠ 0 := fun h => h rfl
  cases h with
  | requested hval => rw [v93Noted, if_pos hval]
  | off hoff =>
      rw [v93Noted, if_neg hzero, if_neg]
      exact fun hon => absurd (hoff.symm.trans hon.1) Bool.false_ne_true
  | kept hon hrem => rw [v93Noted, if_neg hzero, if_neg fun h => hrem h.2.1]
  | adopted hon hrem hcur => rw [v93Noted, if_neg hzero, if_pos ⟨hon, hrem, hcur⟩]
  | disarmed hon hrem hcur => rw [v93Noted, if_neg hzero, if_neg fun h => h.2.2 hcur]

theorem V93Case.rmmio : p.2.mmio.rmmio = s.mmio.rmmio := by
  cases h with
  | disarmed => exact writeReg32_rmmio _ _ _
  | _ => rfl

variable (hsurf : looksLikePlaneSurf reg = true) (hmap : s.mmio.Mapped reg)

include hsurf hmap

omit h in
theorem disarmed_bytes :
    (s.mmio.disarmed reg).rmmioPtr =
      s.mmio.rmmioPtr.store (reg.toNat - 0x1C) 4 (s.mmio.planCtl reg &&& ~~~0x80000000) := by
  have hctl : (s.mmio.surfRead reg).Mapped ((planeCtlReg reg).setWidth 64) :=
    (mapped_planeCtlReg hsurf hmap).of_rmmio_eq rfl
  rw [disarmed, writeReg32_stores (planeCtl_aligned hsurf) hctl
    (.inr (.inl (looksLikePlaneSurf_planeCtlReg hsurf))), planeCtl_offset hsurf]
  rfl

/-- The guard changes no byte, unless it disables the plane. -/
theorem V93Case.bytes :
    p.2.mmio.rmmioPtr = s.mmio.rmmioPtr ∨
      p.2.mmio.rmmioPtr =
        s.mmio.rmmioPtr.store (reg.toNat - 0x1C) 4 (s.mmio.planCtl reg &&& ~~~0x80000000) := by
  cases h with
  | disarmed => exact .inr (disarmed_bytes hsurf hmap)
  | _ => exact .inl rfl

/-- A zero is handed on only while the plane is off. -/
theorem V93Case.off_of_zero (hzero : p.1 = 0) : p.2.mmio.planeEnabled reg = false := by
  cases h with
  | requested hval => exact absurd hzero hval
  | off hoff => exact hoff
  | kept hon hrem => exact absurd hzero hrem
  | adopted hon hrem hcur => exact absurd hzero hcur
  | disarmed hon hrem hcur =>
      rw [planeEnabled, planCtl_eq hsurf, disarmed_bytes hsurf hmap, ByteMem.load32_store_same,
        and_not_and_bit31]
      decide

theorem V93Case.armsSafely (hs : s.mmio.ArmsSafely) : p.2.mmio.ArmsSafely := by
  have hread : (s.mmio.ctlRead reg).ArmsSafely := hs.cons rfl id
  have hsurfRead : (s.mmio.surfRead reg).ArmsSafely := hread.cons rfl id
  cases h with
  | requested hval => exact hs
  | off hoff => exact hread
  | kept hon hrem => exact hread
  | adopted hon hrem hcur => exact hsurfRead
  | disarmed hon hrem hcur =>
      have hctl : (s.mmio.surfRead reg).Mapped ((planeCtlReg reg).setWidth 64) :=
        (mapped_planeCtlReg hsurf hmap).of_rmmio_eq rfl
      exact writeReg32_armsSafely (planeCtl_aligned hsurf) hctl _ hsurfRead

end Case

/-! ## The call up to its back-end -/

section Call

variable (cfg : HookConfig) (that param1 : BitVec 64) (param2 : BitVec 32) (s : HookState)

/-- The value `raWriteRegister32` hands to its back-end, and the state at that moment. -/
def handedOver : BitVec 32 × HookState :=
  let (param2, s) := if cfg.isV93PlaneGuardEnabled then v93Guard param1 param2 s else (param2, s)
  (v72Intercept param1 param2, s)

/-- The back-end of `raWriteRegister32`. -/
def backEnd : HookState :=
  if that = 0 then { s with mmio := writeReg32 param1 param2 s.mmio }
  else if !cfg.oraWriteRegister32 then { s with mmio := writeReg32 param1 param2 s.mmio }
  else { s with mmio := s.mmio.original 0 param1 4 (param2.setWidth 64) }

theorem raWriteRegister32_eq :
    raWriteRegister32 cfg that param1 param2 s =
      backEnd cfg that param1 (handedOver cfg param1 param2 s).1
        (handedOver cfg param1 param2 s).2 := rfl

/-- The store Apple's original then makes, over the bytes it finds. -/
def originalStore : Event :=
  .store (param1 >>> 2).toNat (handedOver cfg param1 param2 s).1
    (handedOver cfg param1 param2 s).2.mmio.rmmioPtr

theorem backEnd_table : (backEnd cfg that param1 param2 s).v93States = s.v93States := by
  rw [backEnd]
  split
  · rfl
  · split <;> rfl

variable {cfg that param1 param2 s}

/-- SURF registers are no error-mask registers. -/
theorem isEmr_surf (hsurf : looksLikePlaneSurf param1 = true) : isEmr param1 = false := by
  obtain ⟨-, -, hmod⟩ := (looksLikePlaneSurf_iff param1).mp hsurf
  rw [Bool.eq_false_iff]
  intro hemr
  rw [isEmr, Bool.or_eq_true, beq_iff_eq, beq_iff_eq] at hemr
  rcases hemr with rfl | rfl
  · exact absurd hmod (by decide)
  · exact absurd hmod (by decide)

theorem handedOver_guard (hv93 : cfg.isV93PlaneGuardEnabled = true) :
    handedOver cfg param1 param2 s =
      (v72Intercept param1 (v93Guard param1 param2 s).1, (v93Guard param1 param2 s).2) := by
  simp only [handedOver, hv93, if_true]

theorem backEnd_original (hthat : that ≠ 0) (hora : cfg.oraWriteRegister32 = true) :
    backEnd cfg that param1 param2 s =
      { s with mmio := s.mmio.original 0 param1 4 (param2.setWidth 64) } := by
  simp only [backEnd, if_neg hthat, hora, Bool.not_true, Bool.false_eq_true, if_false]

/-- Apple's original stores what it is handed. -/
theorem raWriteRegister32_bytes (hthat : that ≠ 0) (hora : cfg.oraWriteRegister32 = true) :
    (raWriteRegister32 cfg that param1 param2 s).mmio.rmmioPtr =
      (handedOver cfg param1 param2 s).2.mmio.rmmioPtr.store param1.toNat 4
        (handedOver cfg param1 param2 s).1 := by
  rw [raWriteRegister32_eq, backEnd_original hthat hora]
  simp only [Mmio.original, sub_origin_zero]
  exact ByteMem.store_setWidth _ _ _ (by decide)

/-- The table after a call. -/
theorem raWriteRegister32_table (hv93 : cfg.isV93PlaneGuardEnabled = true) :
    (raWriteRegister32 cfg that param1 param2 s).v93States =
      (v93Guard param1 param2 s).2.v93States := by
  rw [raWriteRegister32_eq, backEnd_table, handedOver_guard hv93]

end Call

/-! ## What the table keeps -/

/-- The latest surface noted for a register. -/
def latestNoted (surfReg : BitVec 32) (noted : List (BitVec 32 × BitVec 32)) : Option (BitVec 32) :=
  (noted.find? fun n => n.1 == surfReg).map Prod.snd

/-- The table against all that was noted: different SURF registers in its entries, and the
latest surface of each; what is noted is tracked, unless there is no room. -/
structure V93Invariant (states : List V93PlaneSurfState)
    (noted : List (BitVec 32 × BitVec 32)) : Prop where
  eight : states.length = 8
  surf : ∀ e ∈ states, e.surfReg ≠ 0 → looksLikePlaneSurf (e.surfReg.setWidth 64) = true
  distinct : v93Slots.Distinct states
  latest : ∀ e ∈ states, e.surfReg ≠ 0 →
    e.lastNonZeroSurf = (latestNoted e.surfReg noted).getD 0
  covers : ∀ n ∈ noted, n.1 ≠ 0 ∧ (v93Slots.Tracks n.1 states ∨ v93Slots.Full states)

/-- `v93States` at boot. -/
def noPlanes : List V93PlaneSurfState := List.replicate 8 ⟨0, 0⟩

theorem v93Invariant_noPlanes : V93Invariant noPlanes [] := by
  have hzero : ∀ e ∈ noPlanes, e.surfReg = 0 := by
    intro e he
    rw [List.eq_of_mem_replicate he]
  constructor
  · rfl
  · intro e he hne
    exact absurd (hzero e he) hne
  · intro i j e f he _ _ hne
    exact absurd (hzero e (List.mem_of_getElem? he)) hne
  · intro e he hne
    exact absurd (hzero e he) hne
  · intro n hn
    exact absurd hn List.not_mem_nil

section Latest

variable {surfReg : BitVec 32} {noted : List (BitVec 32 × BitVec 32)}

theorem latestNoted_cons_self (surf : BitVec 32) :
    latestNoted surfReg ((surfReg, surf) :: noted) = some surf := by
  rw [latestNoted, List.find?_cons_of_pos (by simp)]
  rfl

theorem latestNoted_cons_ne {n : BitVec 32 × BitVec 32} (h : n.1 ≠ surfReg) :
    latestNoted surfReg (n :: noted) = latestNoted surfReg noted := by
  rw [latestNoted, List.find?_cons_of_neg (by simpa using h), latestNoted]

theorem latestNoted_none (h : ∀ n ∈ noted, n.1 ≠ surfReg) : latestNoted surfReg noted = none := by
  have hfind : (noted.find? fun n => n.1 == surfReg) = none :=
    List.find?_eq_none.mpr fun n hn heq => h n hn (beq_iff_eq.mp heq)
  rw [latestNoted, hfind]
  rfl

end Latest

/-- What one SURF write does to the table and to the notes. -/
theorem V93Invariant.touch {states : List V93PlaneSurfState} {noted : List (BitVec 32 × BitVec 32)}
    (h : V93Invariant states noted) {surfReg : BitVec 32} (hne : surfReg ≠ 0)
    (hsurf : looksLikePlaneSurf (surfReg.setWidth 64) = true) (o : Option (BitVec 32)) :
    V93Invariant (v93Slots.touch (noting o) surfReg states)
      ((o.map (surfReg, ·)).toList ++ noted) := by
  have htouched := v93Slots.touched (noting o) surfReg states
  generalize v93Slots.touch (noting o) surfReg states = states' at htouched
  -- a note for another register changes nothing for this one
  have hother : ∀ {r}, r ≠ surfReg →
      latestNoted r ((o.map (surfReg, ·)).toList ++ noted) = latestNoted r noted := by
    intro r hr
    cases o with
    | none => rfl
    | some surf => exact latestNoted_cons_ne hr.symm
  constructor
  · exact htouched.length.trans h.eight
  · intro e he hne'
    obtain ⟨j, hj⟩ := List.mem_iff_getElem?.mp he
    rcases htouched.entry (noting_key o) hj with hkey | hold
    · rw [show e.surfReg = surfReg from hkey]
      exact hsurf
    · exact h.surf e (List.mem_of_getElem? hold) hne'
  · exact htouched.distinct (noting_key o) h.distinct
  · intro e he hne'
    obtain ⟨j, hj⟩ := List.mem_iff_getElem?.mp he
    by_cases hkey : e.surfReg = surfReg
    · rcases htouched.at_key h.distinct hne hj hkey with ⟨e₀, he₀, hkey₀, rfl⟩ | ⟨habs, hroom, rfl⟩
      · cases o with
        | none => exact h.latest e₀ he₀ hne'
        | some surf =>
            rw [hkey]
            exact (congrArg (Option.getD · 0) (latestNoted_cons_self surf)).symm
      · cases o with
        | none =>
            -- never noted: a register noted before would be tracked, or there would be no room
            have hnever : ∀ n ∈ noted, n.1 ≠ surfReg := by
              rintro n hn rfl
              rcases (h.covers n hn).2 with htracks | hfull
              · exact habs htracks
              · exact hroom hfull
            exact (congrArg (Option.getD · 0) (latestNoted_none hnever)).symm
        | some surf => exact (congrArg (Option.getD · 0) (latestNoted_cons_self surf)).symm
    · rcases htouched.entry (noting_key o) hj with hkey' | hold
      · exact absurd hkey' hkey
      · rw [hother hkey]
        exact h.latest e (List.mem_of_getElem? hold) hne'
  · intro n hn
    rcases List.mem_append.mp hn with hnew | hold
    · obtain ⟨surf, -, rfl⟩ := Option.map_eq_some_iff.mp (Option.mem_toList.mp hnew)
      exact ⟨hne, htouched.tracks_or_full (noting_key o)⟩
    · obtain ⟨hn0, hcov⟩ := h.covers n hold
      refine ⟨hn0, hcov.imp ?_ ?_⟩
      · exact (htouched.extends (noting_key o)).tracks hn0
      · exact htouched.full_of_full (noting_key o) hne

/-! ## Whole runs -/

/-- The hook's state, and every surface noted so far with its register, latest first. -/
structure Tracked where
  hook : HookState
  noted : List (BitVec 32 × BitVec 32)

/-- One call of `raWriteRegister32`. -/
def Tracked.write (cfg : HookConfig) (that : BitVec 64) (w : BitVec 64 × BitVec 32)
    (t : Tracked) : Tracked where
  hook := raWriteRegister32 cfg that w.1 w.2 t.hook
  noted :=
    if looksLikePlaneSurf (v93Offset w.1) then
      ((v93Noted (v93Offset w.1) w.2 t.hook).map (v93Reg w.1, ·)).toList ++ t.noted
    else t.noted

/-- Offsets of the register block the guard knows, as the driver gives them. -/
def InRegisterBlock (param1 : BitVec 64) : Prop :=
  param1.toNat % 4 = 0 ∧ param1.toNat < 0x100000

instance (param1 : BitVec 64) : Decidable (InRegisterBlock param1) :=
  inferInstanceAs (Decidable (_ ∧ _))

/-- The window reaches over the register block. -/
def Mmio.CoversBlock (s : Mmio) : Prop := s.Mapped 0xFFFFC

theorem Mmio.CoversBlock.mapped {s : Mmio} (h : s.CoversBlock) {param1 : BitVec 64}
    (hblock : InRegisterBlock param1) : s.Mapped param1 := by
  refine Mapped.of_le h ?_
  obtain ⟨hal, hlt⟩ := hblock
  show param1.toNat ≤ 0xFFFFC
  omega

theorem Mmio.CoversBlock.mapped_surf {s : Mmio} (h : s.CoversBlock) {reg : BitVec 64}
    (hsurf : looksLikePlaneSurf reg = true) : s.Mapped reg := by
  obtain ⟨-, hhi, -⟩ := (looksLikePlaneSurf_iff reg).mp hsurf
  exact h.mapped ⟨surf_aligned hsurf, by omega⟩

/-- What one state of a run is to satisfy: the table, the stores made so far, the store the
next call would end in, and what happens to a plane there is no slot for. -/
structure V93Safe (cfg : HookConfig) (that : BitVec 64) (t : Tracked) : Prop where
  table : V93Invariant t.hook.v93States t.noted
  stores : t.hook.mmio.ArmsSafely
  next : ∀ param1 param2, InRegisterBlock param1 →
    (raWriteRegister32 cfg that param1 param2 t.hook).mmio.rmmioPtr =
      (handedOver cfg param1 param2 t.hook).2.mmio.rmmioPtr.store param1.toNat 4
        (handedOver cfg param1 param2 t.hook).1 ∧
    ¬ (originalStore cfg param1 param2 t.hook).ArmsNull
  saturated : v93Slots.Full t.hook.v93States → ∀ param1, InRegisterBlock param1 →
    looksLikePlaneSurf param1 = true →
    ¬ v93Slots.Tracks (param1.setWidth 32) t.hook.v93States →
      (∀ param2, (raWriteRegister32 cfg that param1 param2 t.hook).v93States =
        t.hook.v93States) ∧
      (t.hook.mmio.planeEnabled param1 = true →
        (handedOver cfg param1 0 t.hook).1 = t.hook.mmio.dword param1)

section Run

variable {cfg : HookConfig} (hv93 : cfg.isV93PlaneGuardEnabled = true)

include hv93

/-- The store of the next call arms no enabled plane with zero. -/
theorem originalStore_armsSafely {s : HookState} (hcov : s.mmio.CoversBlock) {param1 : BitVec 64}
    (hblock : InRegisterBlock param1) (param2 : BitVec 32) :
    ¬ (originalStore cfg param1 param2 s).ArmsNull := by
  rintro ⟨surf, hlo, hhi, hmod, hidx, hzero, hctl⟩
  rw [index_of_aligned hblock.1] at hidx
  subst hidx
  have hsurf := (looksLikePlaneSurf_iff param1).mpr ⟨hlo, hhi, hmod⟩
  have hcase := v93Guard_surf hsurf (hcov.mapped hblock) param2
  rw [handedOver_guard hv93] at hzero hctl
  rw [v72Intercept_other (isEmr_surf hsurf)] at hzero
  have hdisabled := hcase.off_of_zero hsurf (hcov.mapped hblock) hzero
  rw [planeEnabled, planCtl_eq hsurf] at hdisabled
  exact hctl (by simpa using hdisabled)

/-- With no slot to be had, the hardware value is used and nothing is remembered. -/
theorem saturated_uses_hardware {s : HookState} (hcov : s.mmio.CoversBlock)
    (hfull : v93Slots.Full s.v93States) {param1 : BitVec 64} (hblock : InRegisterBlock param1)
    (hsurf : looksLikePlaneSurf param1 = true)
    (habsent : ¬ v93Slots.Tracks (param1.setWidth 32) s.v93States) (that : BitVec 64) :
    (∀ param2, (raWriteRegister32 cfg that param1 param2 s).v93States = s.v93States) ∧
    (s.mmio.planeEnabled param1 = true →
      (handedOver cfg param1 0 s).1 = s.mmio.dword param1) := by
  have hcase := v93Guard_surf hsurf (hcov.mapped hblock)
  constructor
  · intro param2
    rw [raWriteRegister32_table hv93, (hcase param2).table]
    have htouched :=
      v93Slots.touched (noting (v93Noted param1 param2 s)) (param1.setWidth 32) s.v93States
    generalize v93Slots.touch (noting (v93Noted param1 param2 s)) (param1.setWidth 32)
      s.v93States = states at htouched
    cases htouched with
    | found he hk => exact absurd ⟨_, _, he, hk⟩ habsent
    | claimed _ he hfree => exact absurd hfree (hfull _ (List.mem_of_getElem? he))
    | full => rfl
  · intro hon
    have hrem : remembered (param1.setWidth 32) s.v93States = 0 := by
      rw [remembered, Slots.lookup_none habsent]
    rw [handedOver_guard hv93, v72Intercept_other (isEmr_surf hsurf)]
    have hzero := hcase 0
    generalize v93Guard param1 0 s = p at hzero
    cases hzero with
    | requested hval => exact absurd rfl hval
    | off hoff' => exact absurd (hoff'.symm.trans hon) Bool.false_ne_true
    | kept _ hrem' => exact absurd hrem hrem'
    | adopted => rfl
    | disarmed _ _ hcur => exact hcur.symm

variable (that : BitVec 64) (w : BitVec 64 × BitVec 32)

/-- One call: the table against the notes, and no claimed slot reassigned. -/
theorem Tracked.write_table {t : Tracked} (hcov : t.hook.mmio.CoversBlock)
    (ht : V93Invariant t.hook.v93States t.noted) :
    V93Invariant (t.write cfg that w).hook.v93States (t.write cfg that w).noted ∧
      v93Slots.Extends t.hook.v93States (t.write cfg that w).hook.v93States := by
  have htable : (t.write cfg that w).hook.v93States = (v93Guard w.1 w.2 t.hook).2.v93States :=
    raWriteRegister32_table hv93
  cases hsurf : looksLikePlaneSurf (v93Offset w.1) with
  | false =>
      have hnoted : (t.write cfg that w).noted = t.noted := by
        simp only [Tracked.write, hsurf, Bool.false_eq_true, if_false]
      rw [htable, hnoted, v93Guard_other hsurf]
      exact ⟨ht, Slots.Extends.refl _⟩
  | true =>
      have hnoted : (t.write cfg that w).noted =
          ((v93Noted (v93Offset w.1) w.2 t.hook).map (v93Reg w.1, ·)).toList ++ t.noted := by
        simp only [Tracked.write, hsurf, if_true]
      rw [htable, hnoted, (v93Guard_cases hsurf (hcov.mapped_surf hsurf) w.2).table]
      refine ⟨ht.touch (v93Reg_ne_zero hsurf) ?_ _, ?_⟩
      · rw [v93Reg_setWidth]
        exact hsurf
      · exact (v93Slots.touched _ _ _).extends (noting_key _)

theorem raWriteRegister32_window (hthat : that ≠ 0) (hora : cfg.oraWriteRegister32 = true)
    {s : HookState} (hcov : s.mmio.CoversBlock) (hs : s.mmio.ArmsSafely) :
    (raWriteRegister32 cfg that w.1 w.2 s).mmio.CoversBlock ∧
      (raWriteRegister32 cfg that w.1 w.2 s).mmio.ArmsSafely := by
  have hguard : (v93Guard w.1 w.2 s).2.mmio.CoversBlock ∧
      (v93Guard w.1 w.2 s).2.mmio.ArmsSafely := by
    cases hsurf : looksLikePlaneSurf (v93Offset w.1) with
    | false =>
        rw [v93Guard_other hsurf]
        exact ⟨hcov, hs⟩
    | true =>
        have hmap := hcov.mapped_surf hsurf
        have hcase := v93Guard_cases hsurf hmap w.2
        exact ⟨Mapped.of_rmmio_eq hcov hcase.rmmio, hcase.armsSafely hsurf hmap hs⟩
  rw [raWriteRegister32_eq, backEnd_original hthat hora, handedOver_guard hv93]
  exact ⟨Mapped.of_rmmio_eq hguard.1 rfl, hguard.2.cons rfl id⟩

end Run

/-- Over every run of calls with the guard on: the table holds different SURF registers
with the latest surface noted for each, a slot once claimed stays with its register, a
plane without a slot gets what the hardware has, and no store arms an enabled plane with
zero. -/
theorem v93_surface_table {cfg : HookConfig} (hv93 : cfg.isV93PlaneGuardEnabled = true)
    (hora : cfg.oraWriteRegister32 = true) {that : BitVec 64} (hthat : that ≠ 0) {m : Mmio}
    (hcov : m.CoversBlock) (hm : m.ArmsSafely) {writes : List (BitVec 64 × BitVec 32)}
    (hwrites : ∀ w ∈ writes, InRegisterBlock w.1) :
    let boot : Tracked := ⟨⟨m, noPlanes⟩, []⟩
    ∀ t ∈ Runs.states (Tracked.write cfg that) writes boot,
      V93Safe cfg that t ∧
      v93Slots.Extends t.hook.v93States
        (Runs.run (Tracked.write cfg that) writes boot).hook.v93States := by
  intro boot t ht
  let P : Tracked → Prop := fun t =>
    t.hook.mmio.CoversBlock ∧ t.hook.mmio.ArmsSafely ∧ V93Invariant t.hook.v93States t.noted
  let R : Tracked → Tracked → Prop := fun t u =>
    v93Slots.Extends t.hook.v93States u.hook.v93States
  have hstep : ∀ w t, InRegisterBlock w.1 → P t →
      P (t.write cfg that w) ∧ R t (t.write cfg that w) := by
    rintro w t - ⟨hcov, hs, htable⟩
    obtain ⟨hcov', hs'⟩ := raWriteRegister32_window hv93 that w hthat hora hcov hs
    obtain ⟨htable', hext⟩ := Tracked.write_table hv93 that w hcov htable
    exact ⟨⟨hcov', hs', htable'⟩, hext⟩
  have hboot : P boot := ⟨hcov, hm, v93Invariant_noPlanes⟩
  obtain ⟨hcov', hs, htable⟩ := Runs.states_of_mem (P := P) (Q := fun w => InRegisterBlock w.1)
    (fun w t hw hP => (hstep w t hw hP).1) writes boot hwrites hboot t ht
  refine ⟨⟨htable, hs, ?_, ?_⟩, ?_⟩
  · intro param1 param2 hblock
    exact ⟨raWriteRegister32_bytes hthat hora, originalStore_armsSafely hv93 hcov' hblock param2⟩
  · intro hfull param1 hblock hsurf habsent
    exact saturated_uses_hardware hv93 hcov' hfull hblock hsurf habsent that
  · exact Runs.states_rel_run (P := P) (Q := fun w => InRegisterBlock w.1) (R := R)
      (fun _ => Slots.Extends.refl _) Slots.Extends.trans hstep writes boot hwrites hboot t ht

/-- Plane 1A enabled without a surface: it is disabled for a first zero, then given one. -/
theorem v93_surface_table_enabledPlane :
    enabledPlane.planeEnabled 0x7019C = true ∧
    ∀ t ∈ Runs.states (Tracked.write ⟨true, true⟩ 1)
        [(0x7019C, 0), (0x7019C, 0x1000), (0x70180, 0x80000000), (0x7019C, 0)]
        ⟨⟨enabledPlane, noPlanes⟩, []⟩,
      V93Safe ⟨true, true⟩ 1 t ∧
      v93Slots.Extends t.hook.v93States
        (Runs.run (Tracked.write ⟨true, true⟩ 1)
          [(0x7019C, 0), (0x7019C, 0x1000), (0x70180, 0x80000000), (0x7019C, 0)]
          ⟨⟨enabledPlane, noPlanes⟩, []⟩).hook.v93States := by
  refine ⟨by decide, v93_surface_table rfl rfl (by decide) ⟨0x1000000, rfl, by decide⟩
    (fun _ he => absurd he List.not_mem_nil) ?_⟩
  intro w hw
  simp only [List.mem_cons, List.not_mem_nil, or_false] at hw
  rcases hw with rfl | rfl | rfl | rfl <;> decide

end NootedGreen

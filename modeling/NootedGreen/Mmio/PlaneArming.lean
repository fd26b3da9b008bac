/-
# `Mmio.PlaneArming` — an enabled plane is never given surface zero

`writeReg32` guards the SURF registers of the display planes: a zero for a plane
that is enabled is replaced by the surface the plane has, and a plane that has
none is disabled first.  Every other helper of `NGreen.hpp` that writes a
register does it through `writeReg32`, so the guard covers them all.

    one call       what it leaves behind                        (`RegCall.exec_effect`)
    one call       at most one nested call                      (`writeReg32_enters`)
    every helper   at most one read and one `writeReg32`        (`RegCall.exec_eq`)
    every run      no store arms an enabled plane with zero     (`plane_arming_safety`)

The offsets are byte offsets as the i915 convention has them: 4-byte aligned and
inside the mapping.  An unaligned offset would reach a SURF dword without looking
like one.
-/
import NootedGreen.Mmio.Workarounds
import NootedGreen.Lib.Runs

namespace NootedGreen

open Mmio

/-! ## The hazard -/

/-- A store of zero to the SURF register of a plane whose `PLANE_CTL` has bit 31 set
at that moment. -/
def Event.ArmsNull : Event → Prop
  | .store index value before => ∃ surf : Nat,
      0x60000 ≤ surf ∧ surf ≤ 0xBFFFF ∧ surf % 0x1000 = 0x19C ∧ 4 * index = surf ∧
      value = 0 ∧ before.load32 (surf - 0x1C) &&& 0x80000000 ≠ 0
  | _ => False

/-- No store so far was such a one. -/
def Mmio.ArmsSafely (s : Mmio) : Prop := ∀ e ∈ s.trace, ¬ e.ArmsNull

theorem Mmio.ArmsSafely.cons {s t : Mmio} {e : Event} (h : s.ArmsSafely)
    (ht : t.trace = e :: s.trace) (he : ¬ e.ArmsNull) : t.ArmsSafely := by
  intro e' hmem
  rw [ht] at hmem
  rcases List.mem_cons.mp hmem with rfl | hmem
  · exact he
  · exact h e' hmem

/-! ## A plane's registers as byte offsets -/

section Plane

variable {reg : BitVec 64} (hsurf : looksLikePlaneSurf reg = true)

include hsurf

theorem surf_aligned : reg.toNat % 4 = 0 := by
  obtain ⟨-, -, hmod⟩ := (looksLikePlaneSurf_iff reg).mp hsurf
  omega

theorem planeCtl_offset : ((planeCtlReg reg).setWidth 64).toNat = reg.toNat - 0x1C := by
  rw [BitVec.toNat_setWidth, planeCtlReg_toNat hsurf]
  have := reg.isLt
  omega

theorem planeCtl_index :
    4 * ((planeCtlReg reg).setWidth 64 >>> 2).toNat = reg.toNat - 0x1C := by
  have hal := surf_aligned hsurf
  obtain ⟨hlo, -, -⟩ := (looksLikePlaneSurf_iff reg).mp hsurf
  rw [index_of_aligned, planeCtl_offset hsurf]
  rw [planeCtl_offset hsurf]
  omega

theorem planCtl_eq (s : Mmio) : s.planCtl reg = s.rmmioPtr.load32 (reg.toNat - 0x1C) := by
  rw [planCtl, dword, planeCtl_index hsurf]

end Plane

/-! ## One call -/

theorem and_not_and_bit31 (c : BitVec 32) : c &&& ~~~0x80000000 &&& 0x80000000 = 0 := by
  rw [BitVec.and_assoc]
  exact BitVec.and_zero

section Call

variable {s : Mmio} {reg : BitVec 64} (hal : reg.toNat % 4 = 0) (hmap : s.Mapped reg)

include hal hmap

/-- A value that may go in as it is: the register takes it, nothing else changes. -/
theorem writeReg32_stores {val : BitVec 32}
    (h : val ≠ 0 ∨ looksLikePlaneSurf reg = false ∨ s.planeEnabled reg = false) :
    (writeReg32 reg val s).rmmioPtr = s.rmmioPtr.store reg.toNat 4 val := by
  by_cases hg : looksLikePlaneSurf reg = true ∧ val = 0
  · obtain ⟨hsurf, rfl⟩ := hg
    have hoff : s.planeEnabled reg = false := by
      rcases h with h | h | h
      · exact absurd rfl h
      · exact absurd (hsurf.symm.trans h) (by decide)
      · exact h
    rw [writeReg32_off hsurf hmap hoff, poke_rmmioPtr, index_of_aligned hal]
    rfl
  · rw [writeReg32_plain hmap hg, poke_rmmioPtr, index_of_aligned hal]
    rfl

/-- The plane keeps the surface it has. -/
theorem writeReg32_keeps (hsurf : looksLikePlaneSurf reg = true) (hon : s.planeEnabled reg = true)
    (hcur : s.rmmioPtr.load32 reg.toNat ≠ 0) : (writeReg32 reg 0 s).rmmioPtr = s.rmmioPtr := by
  have hdw := dword_of_aligned s hal
  rw [writeReg32_keep hsurf hmap hon (hdw ▸ hcur), poke_rmmioPtr, index_of_aligned hal, hdw]
  exact ByteMem.store_load32_same s.rmmioPtr reg.toNat

/-- The plane without a surface is switched off, and only that. -/
theorem writeReg32_disarms (hsurf : looksLikePlaneSurf reg = true)
    (hon : s.planeEnabled reg = true) (hcur : s.rmmioPtr.load32 reg.toNat = 0) :
    (writeReg32 reg 0 s).rmmioPtr = s.rmmioPtr.store (reg.toNat - 0x1C) 4
      (s.rmmioPtr.load32 (reg.toNat - 0x1C) &&& ~~~0x80000000) := by
  obtain ⟨hlo, -, -⟩ := (looksLikePlaneSurf_iff reg).mp hsurf
  have hdw := dword_of_aligned s hal
  rw [writeReg32_disarm hsurf hmap hon (hdw.trans hcur), poke_rmmioPtr, poke_rmmioPtr,
    index_of_aligned hal, planeCtl_index hsurf, planCtl_eq hsurf]
  -- SURF was zero, so storing zero once more is storing what is there
  have hzero : (s.rmmioPtr.store (reg.toNat - 0x1C) 4
      (s.rmmioPtr.load32 (reg.toNat - 0x1C) &&& ~~~0x80000000)).load32 reg.toNat = 0 := by
    rw [ByteMem.load32_store_disjoint _ _ (by omega), hcur]
  have hsame := ByteMem.store_load32_same (s.rmmioPtr.store (reg.toNat - 0x1C) 4
      (s.rmmioPtr.load32 (reg.toNat - 0x1C) &&& ~~~0x80000000)) reg.toNat
  rwa [hzero] at hsame

/-- No event of the call arms an enabled plane with zero. -/
theorem writeReg32_armsSafely (val : BitVec 32) (h : s.ArmsSafely) :
    (writeReg32 reg val s).ArmsSafely := by
  have hlogged : ∀ {t : Mmio} (e : Event), t.ArmsSafely → ¬ e.ArmsNull → (t.log e).ArmsSafely :=
    fun e ht he => ht.cons rfl he
  by_cases hg : looksLikePlaneSurf reg = true ∧ val = 0
  · obtain ⟨hsurf, rfl⟩ := hg
    have hdw := dword_of_aligned s hal
    have hread := hlogged (.load ((planeCtlReg reg).setWidth 64 >>> 2).toNat)
      (hlogged (.enter reg 0) h id) id
    cases hon : s.planeEnabled reg with
    | false =>
        rw [writeReg32_off hsurf hmap hon]
        refine hread.cons rfl ?_
        rintro ⟨surf, -, -, -, hidx, -, hctl⟩
        rw [index_of_aligned hal] at hidx
        subst hidx
        have hbit : s.planCtl reg &&& 0x80000000 = 0 := by simpa [planeEnabled] using hon
        rw [planCtl_eq hsurf] at hbit
        exact hctl hbit
    | true =>
        by_cases hcur : s.dword reg = 0
        · rw [writeReg32_disarm hsurf hmap hon hcur]
          refine ArmsSafely.cons (ArmsSafely.cons (hlogged _ (hlogged _ hread id) id) rfl ?_) rfl ?_
          · -- the nested store goes to a CTL offset, never to a SURF offset
            rintro ⟨surf, -, -, hmod, hidx, -, -⟩
            obtain ⟨hlo, -, hmod'⟩ := (looksLikePlaneSurf_iff reg).mp hsurf
            rw [planeCtl_index hsurf] at hidx
            omega
          · rintro ⟨surf, -, -, -, hidx, -, hctl⟩
            rw [index_of_aligned hal] at hidx
            subst hidx
            rw [poke_rmmioPtr, planeCtl_index hsurf, ByteMem.load32_store_same] at hctl
            exact hctl (and_not_and_bit31 _)
        · rw [writeReg32_keep hsurf hmap hon hcur]
          refine ArmsSafely.cons (hlogged _ hread id) rfl ?_
          rintro ⟨surf, -, -, -, -, hzero, -⟩
          exact hcur hzero
  · rw [writeReg32_plain hmap hg]
    refine ArmsSafely.cons (hlogged (.enter reg val) h id) rfl ?_
    rintro ⟨surf, hlo, hhi, hmod, hidx, hzero, -⟩
    rw [index_of_aligned hal] at hidx
    subst hidx
    exact hg ⟨(looksLikePlaneSurf_iff reg).mpr ⟨hlo, hhi, hmod⟩, hzero⟩

end Call

/-! ## The self-recursion -/

def Event.isEnter : Event → Bool
  | .enter _ _ => true
  | _ => false

/-- How often `writeReg32` has been entered. -/
def Mmio.enters (s : Mmio) : Nat := s.trace.countP Event.isEnter

@[simp] theorem enters_log (s : Mmio) (e : Event) :
    (s.log e).enters = s.enters + if e.isEnter then 1 else 0 :=
  List.countP_cons

@[simp] theorem enters_poke (s : Mmio) (i : Nat) (v : BitVec 32) :
    (s.poke i v).enters = s.enters :=
  List.countP_cons_of_neg Bool.false_ne_true

@[simp] theorem enters_readReg32 (reg : BitVec 64) (s : Mmio) :
    (readReg32 reg s).2.enters = s.enters := by
  rw [readReg32]
  split
  · rfl
  · split <;> simp [peek, Event.isEnter]

/-- An unguarded call is entered once. -/
theorem writeReg32_enters_plain {reg : BitVec 64} (hreg : looksLikePlaneSurf reg = false)
    (val : BitVec 32) (s : Mmio) : (writeReg32 reg val s).enters ≤ s.enters + 1 := by
  cases hlen : s.rmmio with
  | none =>
      rw [writeReg32_null hlen]
      exact Nat.le_succ _
  | some length =>
      rw [writeReg32_unguarded hlen fun h => Bool.false_ne_true (hreg.symm.trans h.1)]
      split <;> simp [Event.isEnter]

/-- A call makes at most one nested call, and that one makes none. -/
theorem writeReg32_enters (reg : BitVec 64) (val : BitVec 32) (s : Mmio) :
    (writeReg32 reg val s).enters ≤ s.enters + 2 := by
  have hstore : ∀ (length : BitVec 64) (v : BitVec 32) (t : Mmio),
      (if reg + 4 ≤ length then t.poke (reg >>> 2).toNat v
        else (t.poke mmPCIE_INDEX2 (reg.setWidth 32)).poke mmPCIE_DATA2 v).enters = t.enters := by
    intro length v t
    split <;> simp
  rw [writeReg32]
  split
  · exact Nat.le_add_right _ _
  · dsimp only
    rw [hstore]
    split
    · rename_i hg
      have hctl := looksLikePlaneSurf_planeCtlReg hg.1
      split
      · split
        · simp [Event.isEnter]
        · refine Nat.le_trans (writeReg32_enters_plain hctl _ _) ?_
          simp [Event.isEnter]
      · simp [Event.isEnter]
    · simp [Event.isEnter]

/-! ## Every helper is one `writeReg32` -/

/-- A register write, by the function it is made through. -/
inductive RegCall where
  | writeReg32 (reg : BitVec 64) (val : BitVec 32)
  | intelDeRmw (reg clear set : BitVec 32)
  | whitelistRegExt (reg flags : BitVec 32)
  | whitelistReg (reg : BitVec 32)
  | waAdd (reg clear set readMask : BitVec 32) (maskedReg : Bool)
  | waMaskedEn (reg val : BitVec 32)
  | waMaskedFieldSet (reg mask val : BitVec 32)
  | waWriteClrSet (reg clear set : BitVec 32)
  | waMcrAdd (reg clear set readMask : BitVec 32) (maskedReg : Bool)
  | waMcrMaskedEn (reg val : BitVec 32)
  | waMcrWriteClrSet (reg clear set : BitVec 32)
  | waWrite (reg set : BitVec 32)
  | waWriteOr (reg set : BitVec 32)
  | waMcrWriteOr (reg set : BitVec 32)
  | waWriteClr (reg clr : BitVec 32)
  | waMcrWriteClr (reg clr : BitVec 32)

namespace RegCall

def exec : RegCall → Mmio → Mmio
  | .writeReg32 reg val, s => NootedGreen.writeReg32 reg val s
  | .intelDeRmw reg clear set, s => (NootedGreen.intelDeRmw reg clear set s).2
  | .whitelistRegExt reg flags, s => NootedGreen.whitelistRegExt reg flags s
  | .whitelistReg reg, s => NootedGreen.whitelistReg reg s
  | .waAdd reg clear set readMask maskedReg, s =>
      NootedGreen.waAdd reg clear set readMask maskedReg s
  | .waMaskedEn reg val, s => NootedGreen.waMaskedEn reg val s
  | .waMaskedFieldSet reg mask val, s => NootedGreen.waMaskedFieldSet reg mask val s
  | .waWriteClrSet reg clear set, s => NootedGreen.waWriteClrSet reg clear set s
  | .waMcrAdd reg clear set readMask maskedReg, s =>
      NootedGreen.waMcrAdd reg clear set readMask maskedReg s
  | .waMcrMaskedEn reg val, s => NootedGreen.waMcrMaskedEn reg val s
  | .waMcrWriteClrSet reg clear set, s => NootedGreen.waMcrWriteClrSet reg clear set s
  | .waWrite reg set, s => NootedGreen.waWrite reg set s
  | .waWriteOr reg set, s => NootedGreen.waWriteOr reg set s
  | .waMcrWriteOr reg set, s => NootedGreen.waMcrWriteOr reg set s
  | .waWriteClr reg clr, s => NootedGreen.waWriteClr reg clr s
  | .waMcrWriteClr reg clr, s => NootedGreen.waMcrWriteClr reg clr s

/-- The byte offset the call is about. -/
def offset : RegCall → BitVec 64
  | .writeReg32 reg _ => reg
  | .intelDeRmw reg _ _ | .whitelistRegExt reg _ | .whitelistReg reg | .waAdd reg _ _ _ _
  | .waMaskedEn reg _ | .waMaskedFieldSet reg _ _ | .waWriteClrSet reg _ _
  | .waMcrAdd reg _ _ _ _ | .waMcrMaskedEn reg _ | .waMcrWriteClrSet reg _ _ | .waWrite reg _
  | .waWriteOr reg _ | .waMcrWriteOr reg _ | .waWriteClr reg _ | .waMcrWriteClr reg _ =>
      reg.setWidth 64

/-- The value `wa_add` asks for. -/
def waValue (clear set readMask old : BitVec 32) (maskedReg : Bool) : BitVec 32 :=
  ((old &&& ~~~clear) ||| if maskedReg then set &&& ~~~(set >>> 16) else set) ||| readMask

/-- The value the call asks for, from the one it reads at its offset. -/
def value (old : BitVec 32) : RegCall → BitVec 32
  | .writeReg32 _ val => val
  | .intelDeRmw _ clear set => (old &&& ~~~clear) ||| set
  | .whitelistRegExt _ flags => old ||| flags
  | .whitelistReg _ => old ||| ringForceToNonprivAccessRw
  | .waAdd _ clear set readMask maskedReg | .waMcrAdd _ clear set readMask maskedReg =>
      waValue clear set readMask old maskedReg
  | .waMaskedEn _ val | .waMcrMaskedEn _ val => waValue 0 (maskedBitEnable val) val old true
  | .waMaskedFieldSet _ mask val => waValue 0 (maskedField mask val) mask old true
  | .waWriteClrSet _ clear set | .waMcrWriteClrSet _ clear set =>
      waValue clear set (clear ||| set) old false
  | .waWrite _ set => waValue (~~~0) set (~~~0 ||| set) old false
  | .waWriteOr _ set | .waMcrWriteOr _ set => waValue set set (set ||| set) old false
  | .waWriteClr _ clr | .waMcrWriteClr _ clr => waValue clr 0 (clr ||| 0) old false

/-- Every call ends in one `writeReg32` at its offset, made directly or right after one
read of the same register. -/
theorem exec_eq (c : RegCall) (s : Mmio) :
    c.exec s = NootedGreen.writeReg32 c.offset (c.value (s.get c.offset)) s ∨
      c.exec s = NootedGreen.writeReg32 c.offset (c.value (s.get c.offset))
        (readReg32 c.offset s).2 := by
  cases c with
  | writeReg32 reg val => exact .inl rfl
  | intelDeRmw | whitelistRegExt | whitelistReg | waAdd | waMaskedEn | waMaskedFieldSet
  | waWriteClrSet | waMcrAdd | waMcrMaskedEn | waMcrWriteClrSet | waWrite | waWriteOr
  | waMcrWriteOr | waWriteClr | waMcrWriteClr => exact .inr rfl

/-- A mapped read changes no byte, so the call is judged by the state it starts from. -/
theorem exec_bytes (c : RegCall) {s : Mmio} (hmap : s.Mapped c.offset) :
    ∃ t : Mmio, t.rmmio = s.rmmio ∧ t.rmmioPtr = s.rmmioPtr ∧ t.enters = s.enters ∧
      (s.ArmsSafely → t.ArmsSafely) ∧
      c.exec s = NootedGreen.writeReg32 c.offset (c.value (s.get c.offset)) t := by
  rcases c.exec_eq s with h | h
  · exact ⟨s, rfl, rfl, rfl, id, h⟩
  · refine ⟨_, readReg32_rmmio s c.offset, ?_, enters_readReg32 c.offset s, ?_, h⟩
    · exact readReg32_bytes hmap
    · rw [readReg32_mapped hmap]
      exact fun hs => hs.cons rfl id

/-- The offsets of the calls: aligned and inside the mapping. -/
def InWindow (c : RegCall) (s : Mmio) : Prop := c.offset.toNat % 4 = 0 ∧ s.Mapped c.offset

theorem exec_rmmio (c : RegCall) (s : Mmio) : (c.exec s).rmmio = s.rmmio := by
  rcases c.exec_eq s with h | h
  · rw [h, writeReg32_rmmio]
  · rw [h, writeReg32_rmmio, readReg32_rmmio]

theorem exec_armsSafely {c : RegCall} {s : Mmio} (hc : c.InWindow s) (hs : s.ArmsSafely) :
    (c.exec s).ArmsSafely := by
  obtain ⟨t, hmap, -, -, hsafe, h⟩ := c.exec_bytes hc.2
  rw [h]
  exact writeReg32_armsSafely hc.1 (hc.2.of_rmmio_eq hmap) _ (hsafe hs)

end RegCall

/-! ## Whole runs -/

/-- What a write of `val` to `reg` may leave behind: the value itself, or for a zero to
the SURF register of an enabled plane either nothing at all or the plane switched off. -/
structure WriteEffect (s s' : Mmio) (reg : BitVec 64) (val : BitVec 32) : Prop where
  stores : val ≠ 0 ∨ looksLikePlaneSurf reg = false ∨ s.planeEnabled reg = false →
    s'.rmmioPtr = s.rmmioPtr.store reg.toNat 4 val
  keeps : val = 0 → looksLikePlaneSurf reg = true → s.planeEnabled reg = true →
    s.rmmioPtr.load32 reg.toNat ≠ 0 → s'.rmmioPtr = s.rmmioPtr
  disarms : val = 0 → looksLikePlaneSurf reg = true → s.planeEnabled reg = true →
    s.rmmioPtr.load32 reg.toNat = 0 →
      s'.rmmioPtr = s.rmmioPtr.store (reg.toNat - 0x1C) 4
        (s.rmmioPtr.load32 (reg.toNat - 0x1C) &&& ~~~0x80000000) ∧
      s'.rmmioPtr.load32 reg.toNat = 0

theorem RegCall.exec_effect {c : RegCall} {s : Mmio} (hc : c.InWindow s) :
    WriteEffect s (c.exec s) c.offset (c.value (s.get c.offset)) := by
  obtain ⟨t, hmap, hbytes, -, -, h⟩ := c.exec_bytes hc.2
  have hal := hc.1
  have hwin := hc.2.of_rmmio_eq hmap
  have hon : t.planeEnabled c.offset = s.planeEnabled c.offset := by
    rw [planeEnabled, planeEnabled, planCtl, planCtl, dword, dword, hbytes]
  rw [h]
  constructor
  · intro hplain
    rw [writeReg32_stores hal hwin (hon ▸ hplain), hbytes]
  · intro hval hsurf hen hcur
    rw [hval, writeReg32_keeps hal hwin hsurf (hon.trans hen) (hbytes ▸ hcur), hbytes]
  · intro hval hsurf hen hcur
    obtain ⟨hlo, -, -⟩ := (looksLikePlaneSurf_iff c.offset).mp hsurf
    rw [hval, writeReg32_disarms hal hwin hsurf (hon.trans hen) (hbytes ▸ hcur), hbytes]
    refine ⟨rfl, ?_⟩
    rw [ByteMem.load32_store_disjoint _ _ (by omega), hcur]

/-- Plane-arming safety: over any run of register writes with aligned, mapped offsets no
store arms an enabled plane with zero; each call has the effect above, and enters
`writeReg32` once or twice. -/
theorem plane_arming_safety {s : Mmio} (hs : s.ArmsSafely) {calls : List RegCall}
    (hcalls : ∀ c ∈ calls, c.InWindow s) :
    (∀ t ∈ Runs.states RegCall.exec calls s, t.ArmsSafely) ∧
    (∀ t ∈ Runs.states RegCall.exec calls s, ∀ c : RegCall, c.InWindow s →
      WriteEffect t (c.exec t) c.offset (c.value (t.get c.offset)) ∧
      (c.exec t).enters ≤ t.enters + 2) := by
  have hrun : ∀ t ∈ Runs.states RegCall.exec calls s, t.rmmio = s.rmmio ∧ t.ArmsSafely := by
    refine Runs.states_of_mem (Q := fun c => c.InWindow s) ?_ calls s hcalls ⟨rfl, hs⟩
    intro c t hc ht
    exact ⟨(c.exec_rmmio t).trans ht.1,
      RegCall.exec_armsSafely ⟨hc.1, hc.2.of_rmmio_eq ht.1⟩ ht.2⟩
  refine ⟨fun t ht => (hrun t ht).2, fun t ht c hc => ?_⟩
  have hwin : c.InWindow t := ⟨hc.1, hc.2.of_rmmio_eq (hrun t ht).1⟩
  refine ⟨RegCall.exec_effect hwin, ?_⟩
  obtain ⟨u, -, -, hent, -, h⟩ := c.exec_bytes hwin.2
  rw [h, ← hent]
  exact writeReg32_enters _ _ _

/-- Plane 1A enabled, everything else zero: its SURF register holds no surface. -/
def enabledPlane : Mmio :=
  ⟨some 0x1000000, fun b => if b = 0x70183 then 0x80 else 0, []⟩

theorem plane_arming_safety_enabledPlane :
    enabledPlane.planeEnabled 0x7019C = true ∧
    ∀ t ∈ Runs.states RegCall.exec
        [.writeReg32 0x7019C 0, .waWriteOr 0x70180 0x80000000, .intelDeRmw 0x7019C 0xFFFFFFFF 0]
        enabledPlane,
      t.ArmsSafely := by
  refine ⟨by decide, (plane_arming_safety (fun _ he => absurd he List.not_mem_nil) ?_).1⟩
  intro c hc
  simp only [List.mem_cons, List.not_mem_nil, or_false] at hc
  rcases hc with rfl | rfl | rfl
  · exact ⟨by decide, 0x1000000, rfl, by decide⟩
  · exact ⟨by decide, 0x1000000, rfl, by decide⟩
  · exact ⟨by decide, 0x1000000, rfl, by decide⟩

end NootedGreen

/-
# `Mmio.Access` — the register window of `NGreen.hpp`

`rmmio` maps BAR0; `rmmioPtr` is the same mapping as an array of dwords.  The
accessors take a byte offset (`unsigned long`, 64 bits) and index the array
with `reg >> 2`; past the end of the mapping they go through the index/data
pair `mmPCIE_INDEX2`/`mmPCIE_DATA2` instead.

**What the state records.**  `Mmio` holds the length of the mapping (`none`
while `rmmio` or `rmmioPtr` is null), the bytes behind it, and a trace of what
the code did to them: every entry of `writeReg32`, every load and every store
through `rmmioPtr`, every call handed on to one of Apple's functions.  A store
carries the bytes as they were just before it, so that a property "at the
moment of the store" is a property of one event.

**What is left out.**  The `SYSLOG` calls and the counters that only limit
them (`v93MmioLogCount`).
-/
import NootedGreen.Lib.ByteMem

namespace NootedGreen

/-- `mmPCIE_INDEX2`, a dword index. -/
def mmPCIE_INDEX2 : Nat := 0xE

/-- `mmPCIE_DATA2`, a dword index. -/
def mmPCIE_DATA2 : Nat := 0xF

/-- What the plugin does to the outside, one entry per action. -/
inductive Event where
  /-- `writeReg32(reg, val)` is entered with a live mapping. -/
  | enter (reg : BitVec 64) (val : BitVec 32)
  /-- `rmmioPtr[index]` is read. -/
  | load (index : Nat)
  /-- `rmmioPtr[index] = value`, over the bytes `before`. -/
  | store (index : Nat) (value : BitVec 32) (before : ByteMem)
  /-- One of Apple's functions is called with this offset and value. -/
  | original (offset : BitVec 64) (value : BitVec 64)

structure Mmio where
  /-- `rmmio->getLength()`; `none` while the mapping is null. -/
  rmmio : Option (BitVec 64)
  rmmioPtr : ByteMem
  /-- Latest event first. -/
  trace : List Event

namespace Mmio

def log (e : Event) (s : Mmio) : Mmio := { s with trace := e :: s.trace }

/-- `rmmioPtr[i]`, read. -/
def peek (i : Nat) (s : Mmio) : BitVec 32 × Mmio :=
  (s.rmmioPtr.load32 (4 * i), s.log (.load i))

/-- `rmmioPtr[i] = v`. -/
def poke (i : Nat) (v : BitVec 32) (s : Mmio) : Mmio :=
  { s with rmmioPtr := s.rmmioPtr.store (4 * i) 4 v, trace := .store i v s.rmmioPtr :: s.trace }

@[simp] theorem log_rmmio (e : Event) (s : Mmio) : (s.log e).rmmio = s.rmmio := rfl
@[simp] theorem log_rmmioPtr (e : Event) (s : Mmio) : (s.log e).rmmioPtr = s.rmmioPtr := rfl
@[simp] theorem poke_rmmio (i : Nat) (v : BitVec 32) (s : Mmio) :
    (s.poke i v).rmmio = s.rmmio := rfl
@[simp] theorem poke_rmmioPtr (i : Nat) (v : BitVec 32) (s : Mmio) :
    (s.poke i v).rmmioPtr = s.rmmioPtr.store (4 * i) 4 v := rfl

/-- `mmioValid()`. -/
def mmioValid (s : Mmio) : Bool := s.rmmio.isSome

end Mmio

open Mmio

/-! ## The 32-bit accessors -/

def readReg32 (reg : BitVec 64) (s : Mmio) : BitVec 32 × Mmio :=
  match s.rmmio with
  | none => (0, s)
  | some length =>
      if reg + 4 ≤ length then s.peek (reg >>> 2).toNat
      else (s.poke mmPCIE_INDEX2 (reg.setWidth 32)).peek mmPCIE_DATA2

/-- The plane SURF test every guard of the plugin repeats. -/
def looksLikePlaneSurf (reg : BitVec 64) : Bool :=
  (0x60000 ≤ reg && reg ≤ 0xBFFFF) && reg &&& 0xFFF == 0x19C

theorem looksLikePlaneSurf_iff (reg : BitVec 64) :
    looksLikePlaneSurf reg = true ↔
      0x60000 ≤ reg.toNat ∧ reg.toNat ≤ 0xBFFFF ∧ reg.toNat % 0x1000 = 0x19C := by
  have hmask : (reg &&& 0xFFF).toNat = reg.toNat % 0x1000 := by
    rw [BitVec.toNat_and]
    exact Nat.and_two_pow_sub_one_eq_mod reg.toNat 12
  simp only [looksLikePlaneSurf, Bool.and_eq_true, decide_eq_true_eq, beq_iff_eq, BitVec.le_def,
    ← BitVec.toNat_inj, and_assoc]
  rw [hmask]
  exact Iff.rfl

/-- `PLANE_CTL` of a plane, from its SURF register. -/
def planeCtlReg (reg : BitVec 64) : BitVec 32 := (reg - 0x1C).setWidth 32

theorem planeCtlReg_toNat {reg : BitVec 64} (h : looksLikePlaneSurf reg = true) :
    (planeCtlReg reg).toNat = reg.toNat - 0x1C := by
  obtain ⟨hlo, hhi, -⟩ := (looksLikePlaneSurf_iff reg).mp h
  simp only [planeCtlReg, BitVec.toNat_setWidth, BitVec.toNat_sub]
  simp
  omega

/-- Disabling a plane does not look like arming one, so the guard of `writeReg32`
does not run again in the nested call. -/
theorem looksLikePlaneSurf_planeCtlReg {reg : BitVec 64} (h : looksLikePlaneSurf reg = true) :
    looksLikePlaneSurf ((planeCtlReg reg).setWidth 64) = false := by
  obtain ⟨hlo, hhi, hmod⟩ := (looksLikePlaneSurf_iff reg).mp h
  have hctl := planeCtlReg_toNat h
  rw [Bool.eq_false_iff]
  intro hsurf
  obtain ⟨-, -, hmod'⟩ := (looksLikePlaneSurf_iff _).mp hsurf
  rw [BitVec.toNat_setWidth, hctl] at hmod'
  omega

def writeReg32 (reg : BitVec 64) (val : BitVec 32) (s : Mmio) : Mmio :=
  match s.rmmio with
  | none => s
  | some length =>
      let s := s.log (.enter reg val)
      let (val, s) :=
        if _hguard : looksLikePlaneSurf reg = true ∧ val = 0 then
          let ctlReg := planeCtlReg reg
          let (planCtl, s) := readReg32 (ctlReg.setWidth 64) s
          if planCtl &&& 0x80000000 ≠ 0 then
            let (currentSurf, s) := readReg32 reg s
            if currentSurf ≠ 0 then (currentSurf, s)
            -- last resort: disable the plane before the zero surface goes in
            else (val, writeReg32 (ctlReg.setWidth 64) (planCtl &&& ~~~0x80000000) s)
          else (val, s)
        else (val, s)
      if reg + 4 ≤ length then s.poke (reg >>> 2).toNat val
      else (s.poke mmPCIE_INDEX2 (reg.setWidth 32)).poke mmPCIE_DATA2 val
termination_by (looksLikePlaneSurf reg).toNat
decreasing_by
  rw [_hguard.1, looksLikePlaneSurf_planeCtlReg _hguard.1]
  decide

/-! ## Offsets inside the mapping

`Mapped` is the reading of the bounds check without the wrap-around of
`reg + sizeof(uint32_t)`: an offset near `2^64` passes the check of the code and
is not mapped. -/

namespace Mmio

/-- The four bytes at `reg` lie inside the mapping. -/
def Mapped (s : Mmio) (reg : BitVec 64) : Prop :=
  ∃ length, s.rmmio = some length ∧ reg.toNat + 4 ≤ length.toNat

/-- The dword `reg` indexes. -/
def dword (s : Mmio) (reg : BitVec 64) : BitVec 32 :=
  s.rmmioPtr.load32 (4 * (reg >>> 2).toNat)

@[simp] theorem log_dword (e : Event) (s : Mmio) (reg : BitVec 64) :
    (s.log e).dword reg = s.dword reg := rfl

theorem Mapped.of_rmmio_eq {s t : Mmio} {reg : BitVec 64} (h : s.Mapped reg)
    (e : t.rmmio = s.rmmio) : t.Mapped reg := by
  obtain ⟨length, hlen, hle⟩ := h
  exact ⟨length, e.trans hlen, hle⟩

theorem Mapped.of_le {s : Mmio} {reg reg' : BitVec 64} (h : s.Mapped reg)
    (hle : reg'.toNat ≤ reg.toNat) : s.Mapped reg' := by
  obtain ⟨length, hlen, hbound⟩ := h
  exact ⟨length, hlen, by omega⟩

end Mmio

theorem add_four_le {reg length : BitVec 64} (h : reg.toNat + 4 ≤ length.toNat) :
    reg + 4 ≤ length := by
  have hlt := length.isLt
  rw [BitVec.le_def, BitVec.toNat_add, Nat.mod_eq_of_lt]
  · exact h
  · exact Nat.lt_of_le_of_lt h hlt

theorem index_toNat (reg : BitVec 64) : (reg >>> 2).toNat = reg.toNat / 4 := by
  rw [BitVec.toNat_ushiftRight, Nat.shiftRight_eq_div_pow]

theorem index_of_aligned {reg : BitVec 64} (h : reg.toNat % 4 = 0) :
    4 * (reg >>> 2).toNat = reg.toNat := by
  rw [index_toNat]
  omega

theorem dword_of_aligned (s : Mmio) {reg : BitVec 64} (h : reg.toNat % 4 = 0) :
    s.dword reg = s.rmmioPtr.load32 reg.toNat := by
  rw [Mmio.dword, index_of_aligned h]

theorem readReg32_direct {s : Mmio} {reg length : BitVec 64} (hlen : s.rmmio = some length)
    (hle : reg + 4 ≤ length) :
    readReg32 reg s = (s.dword reg, s.log (.load (reg >>> 2).toNat)) := by
  simp only [readReg32, hlen, if_pos hle, peek, Mmio.dword]

theorem readReg32_indirect {s : Mmio} {reg length : BitVec 64} (hlen : s.rmmio = some length)
    (hle : ¬ reg + 4 ≤ length) :
    readReg32 reg s = (s.poke mmPCIE_INDEX2 (reg.setWidth 32)).peek mmPCIE_DATA2 := by
  simp only [readReg32, hlen, if_neg hle]

theorem readReg32_mapped {s : Mmio} {reg : BitVec 64} (h : s.Mapped reg) :
    readReg32 reg s = (s.dword reg, s.log (.load (reg >>> 2).toNat)) := by
  obtain ⟨length, hlen, hle⟩ := h
  exact readReg32_direct hlen (add_four_le hle)

theorem readReg32_value {s : Mmio} {reg : BitVec 64} (hal : reg.toNat % 4 = 0)
    (hmap : s.Mapped reg) : (readReg32 reg s).1 = s.rmmioPtr.load32 reg.toNat := by
  rw [readReg32_mapped hmap, dword_of_aligned s hal]

theorem readReg32_bytes {s : Mmio} {reg : BitVec 64} (hmap : s.Mapped reg) :
    (readReg32 reg s).2.rmmioPtr = s.rmmioPtr := by
  rw [readReg32_mapped hmap]
  rfl

/-! ## A register's value

`get` and `put` are one register read and written the way the accessors address
it: one dword when the check passes, the index/data pair when it does not. -/

namespace Mmio

/-- What `readReg32(reg)` returns. -/
def get (s : Mmio) (reg : BitVec 64) : BitVec 32 := (readReg32 reg s).1

/-- The bytes once the register at `reg` holds `v` and nothing else has changed. -/
def put (s : Mmio) (reg : BitVec 64) (v : BitVec 32) : ByteMem :=
  match s.rmmio with
  | none => s.rmmioPtr
  | some length =>
      if reg + 4 ≤ length then s.rmmioPtr.store (4 * (reg >>> 2).toNat) 4 v
      else (s.rmmioPtr.store (4 * mmPCIE_INDEX2) 4 (reg.setWidth 32 : BitVec 32)).store
        (4 * mmPCIE_DATA2) 4 v

theorem get_mapped {s : Mmio} {reg : BitVec 64} (h : s.Mapped reg) : s.get reg = s.dword reg := by
  rw [get, readReg32_mapped h]

/-- With a live mapping, what is put is what was meant. -/
theorem put_inj {s : Mmio} (hlive : s.mmioValid = true) (reg : BitVec 64) {u v : BitVec 32} :
    s.put reg u = s.put reg v ↔ u = v := by
  obtain ⟨length, hlen⟩ := Option.isSome_iff_exists.mp hlive
  constructor
  · intro h
    simp only [put, hlen] at h
    split at h
    · simpa using congrArg (·.load32 (4 * (reg >>> 2).toNat)) h
    · simpa using congrArg (·.load32 (4 * mmPCIE_DATA2)) h
  · intro h
    rw [h]

/-- A register that was put reads back. -/
theorem get_of_put {s t : Mmio} (hlive : s.mmioValid = true) {reg : BitVec 64} {v : BitVec 32}
    (hmap : t.rmmio = s.rmmio) (hput : t.rmmioPtr = s.put reg v) : t.get reg = v := by
  obtain ⟨length, hlen⟩ := Option.isSome_iff_exists.mp hlive
  rw [hlen] at hmap
  by_cases hle : reg + 4 ≤ length
  · rw [get, readReg32_direct hmap hle, dword, hput]
    simp only [put, hlen, if_pos hle, ByteMem.load32_store_same]
  · rw [get, readReg32_indirect hmap hle]
    simp only [peek, poke_rmmioPtr, hput, put, hlen, if_neg hle]
    rw [ByteMem.load32_store_disjoint _ _ (by decide), ByteMem.load32_store_same]

/-- A read leaves the mapping alone. -/
@[simp] theorem readReg32_rmmio (s : Mmio) (reg : BitVec 64) :
    (readReg32 reg s).2.rmmio = s.rmmio := by
  rw [readReg32]
  split
  · rfl
  · split <;> rfl

/-- What a read writes (the index register) a write to the same register writes again. -/
@[simp] theorem readReg32_put (s : Mmio) (reg : BitVec 64) (v : BitVec 32) :
    (readReg32 reg s).2.put reg v = s.put reg v := by
  cases hlen : s.rmmio with
  | none => simp [put, readReg32, hlen]
  | some length =>
      by_cases hle : reg + 4 ≤ length
      · rw [readReg32_direct hlen hle]
        simp only [put, log_rmmio, log_rmmioPtr, hlen]
      · rw [readReg32_indirect hlen hle]
        simp only [put, peek, log_rmmio, log_rmmioPtr, poke_rmmio, poke_rmmioPtr, hlen,
          if_neg hle, ByteMem.store_store_same]

end Mmio

/-! ## What one `writeReg32` does

Four cases, as the guard has them: the value goes in as it is; the plane is off
and the zero goes in; the plane is on and keeps its surface; the plane is on
with no surface and is switched off first. -/

theorem writeReg32_null {s : Mmio} (h : s.rmmio = none) (reg : BitVec 64) (val : BitVec 32) :
    writeReg32 reg val s = s := by
  rw [writeReg32, h]

theorem writeReg32_unguarded {s : Mmio} {length : BitVec 64} (hlen : s.rmmio = some length)
    {reg : BitVec 64} {val : BitVec 32} (hg : ¬ (looksLikePlaneSurf reg = true ∧ val = 0)) :
    writeReg32 reg val s =
      if reg + 4 ≤ length then (s.log (.enter reg val)).poke (reg >>> 2).toNat val
      else ((s.log (.enter reg val)).poke mmPCIE_INDEX2 (reg.setWidth 32)).poke
        mmPCIE_DATA2 val := by
  rw [writeReg32, hlen]
  simp only [dif_neg hg]

theorem writeReg32_plain {s : Mmio} {reg : BitVec 64} (hmap : s.Mapped reg) {val : BitVec 32}
    (hg : ¬ (looksLikePlaneSurf reg = true ∧ val = 0)) :
    writeReg32 reg val s = (s.log (.enter reg val)).poke (reg >>> 2).toNat val := by
  obtain ⟨length, hlen, hle⟩ := hmap
  rw [writeReg32_unguarded hlen hg, if_pos (add_four_le hle)]

theorem writeReg32_put (s : Mmio) {reg : BitVec 64} {val : BitVec 32}
    (hg : ¬ (looksLikePlaneSurf reg = true ∧ val = 0)) :
    (writeReg32 reg val s).rmmioPtr = s.put reg val := by
  cases hlen : s.rmmio with
  | none => simp [writeReg32_null hlen, Mmio.put, hlen]
  | some length =>
      rw [writeReg32_unguarded hlen hg]
      simp only [Mmio.put, hlen]
      split <;> rfl

/-- The dwords a `writeReg32(reg, _)` can store to. -/
def StoresTo (reg : BitVec 64) (i : Nat) : Prop :=
  i = (reg >>> 2).toNat ∨ i = mmPCIE_INDEX2 ∨ i = mmPCIE_DATA2 ∨
    (looksLikePlaneSurf reg = true ∧ i = ((planeCtlReg reg).setWidth 64 >>> 2).toNat)

/-- The registers a `writeReg32(reg, _)` reads or writes: its own and, for a SURF register,
`PLANE_CTL` of the plane. -/
def Reaches (reg r : BitVec 64) : Prop :=
  r = reg ∨ (looksLikePlaneSurf reg = true ∧ r = (planeCtlReg reg).setWidth 64)

/-- The last lines of `writeReg32`: one register is stored to. -/
def Mmio.storeReg (length reg : BitVec 64) (val : BitVec 32) (s : Mmio) : Mmio :=
  if reg + 4 ≤ length then s.poke (reg >>> 2).toNat val
  else (s.poke mmPCIE_INDEX2 (reg.setWidth 32)).poke mmPCIE_DATA2 val

/-- What an entry, a read and a store of the registers it reaches keep, `writeReg32` keeps.
The nested call is not guarded, so two unfoldings reach every access. -/
theorem writeReg32_of_reaches {Q : Mmio → Prop} {length reg : BitVec 64}
    (hlive : ∀ s, Q s → s.rmmio = some length)
    (henter : ∀ s r v, Q s → Q (s.log (.enter r v)))
    (hread : ∀ s r, Reaches reg r → Q s → Q (readReg32 r s).2)
    (hstore : ∀ s r v, Reaches reg r → Q s → Q (s.storeReg length r v)) (val : BitVec 32) :
    ∀ s, Q s → Q (writeReg32 reg val s) := by
  -- an unguarded call: one entry, one store
  have hplain : ∀ s r v, looksLikePlaneSurf r = false → Reaches reg r → Q s →
      Q (writeReg32 r v s) := by
    intro s r v hr hto hs
    rw [writeReg32_unguarded (hlive s hs) (fun h => Bool.false_ne_true (hr.symm.trans h.1))]
    exact hstore _ r v hto (henter _ _ _ hs)
  intro s hs
  rw [writeReg32, hlive s hs]
  dsimp only
  refine hstore _ _ _ (.inl rfl) ?_
  split
  · rename_i hg
    have hctl : Reaches reg ((planeCtlReg reg).setWidth 64) := .inr ⟨hg.1, rfl⟩
    split
    · split
      · exact hread _ _ (.inl rfl) (hread _ _ hctl (henter _ _ _ hs))
      · exact hplain _ _ _ (looksLikePlaneSurf_planeCtlReg hg.1) hctl
          (hread _ _ (.inl rfl) (hread _ _ hctl (henter _ _ _ hs)))
    · exact hread _ _ hctl (henter _ _ _ hs)
  · exact henter _ _ _ hs

/-- What every event and every store to such a dword keeps, `writeReg32` keeps. -/
theorem writeReg32_preserves {Q : Mmio → Prop} (reg : BitVec 64) (val : BitVec 32)
    (hlog : ∀ s e, Q s → Q (s.log e))
    (hpoke : ∀ s i v, StoresTo reg i → Q s → Q (s.poke i v)) :
    ∀ s, Q s → Q (writeReg32 reg val s) := by
  intro s hs
  cases hlen : s.rmmio with
  | none => rwa [writeReg32_null hlen]
  | some length =>
      have hto : ∀ r, Reaches reg r → StoresTo reg (r >>> 2).toNat := by
        rintro r (rfl | ⟨hsurf, rfl⟩)
        · exact .inl rfl
        · exact .inr (.inr (.inr ⟨hsurf, rfl⟩))
      refine (writeReg32_of_reaches (Q := fun t => t.rmmio = some length ∧ Q t) (fun _ h => h.1)
        (fun t r v h => ⟨h.1, hlog t _ h.2⟩) ?_ ?_ val s ⟨hlen, hs⟩).2
      · intro t r _ h
        refine ⟨(readReg32_rmmio t r).trans h.1, ?_⟩
        simp only [readReg32, h.1]
        split
        · exact hlog _ _ h.2
        · exact hlog _ _ (hpoke _ _ _ (.inr (.inl rfl)) h.2)
      · intro t r v hr h
        rw [storeReg]
        split
        · exact ⟨h.1, hpoke _ _ _ (hto r hr) h.2⟩
        · exact ⟨h.1, hpoke _ _ _ (.inr (.inr (.inl rfl))) (hpoke _ _ _ (.inr (.inl rfl)) h.2)⟩

@[simp] theorem writeReg32_rmmio (reg : BitVec 64) (val : BitVec 32) (s : Mmio) :
    (writeReg32 reg val s).rmmio = s.rmmio :=
  writeReg32_preserves (Q := fun t => t.rmmio = s.rmmio) reg val (fun _ _ h => h)
    (fun _ _ _ _ h => h) s rfl

/-- A byte outside every dword the call can store to keeps its value. -/
theorem writeReg32_frame {reg : BitVec 64} {b : Nat}
    (hb : ∀ i, StoresTo reg i → b < 4 * i ∨ 4 * i + 4 ≤ b) (val : BitVec 32) (s : Mmio) :
    (writeReg32 reg val s).rmmioPtr b = s.rmmioPtr b :=
  writeReg32_preserves (Q := fun t => t.rmmioPtr b = s.rmmioPtr b) reg val (fun _ _ h => h)
    (fun t i v hi h => (ByteMem.store_outside t.rmmioPtr v (hb i hi)).trans h) s rfl

/-- `PLANE_CTL` of the plane whose SURF register is `reg`. -/
def Mmio.planCtl (s : Mmio) (reg : BitVec 64) : BitVec 32 :=
  s.dword ((planeCtlReg reg).setWidth 64)

/-- Bit 31 of `PLANE_CTL`. -/
def Mmio.planeEnabled (s : Mmio) (reg : BitVec 64) : Bool :=
  s.planCtl reg &&& 0x80000000 != 0

section Surf

variable {s : Mmio} {reg : BitVec 64} (hsurf : looksLikePlaneSurf reg = true)

include hsurf

theorem mapped_planeCtlReg (hmap : s.Mapped reg) :
    s.Mapped ((planeCtlReg reg).setWidth 64) := by
  refine hmap.of_le ?_
  have hctl := planeCtlReg_toNat hsurf
  rw [BitVec.toNat_setWidth, hctl]
  omega

/-- The guard of `writeReg32` on a mapped SURF register, with its two reads done. -/
theorem writeReg32_surf (hmap : s.Mapped reg) :
    writeReg32 reg 0 s =
      let read := (s.log (.enter reg 0)).log (.load ((planeCtlReg reg).setWidth 64 >>> 2).toNat)
      if s.planeEnabled reg then
        let read := read.log (.load (reg >>> 2).toNat)
        if s.dword reg ≠ 0 then read.poke (reg >>> 2).toNat (s.dword reg)
        else (writeReg32 ((planeCtlReg reg).setWidth 64) (s.planCtl reg &&& ~~~0x80000000)
          read).poke (reg >>> 2).toNat 0
      else read.poke (reg >>> 2).toNat 0 := by
  have hctl := (mapped_planeCtlReg hsurf hmap).of_rmmio_eq (log_rmmio (.enter reg 0) s)
  have hcur : (((s.log (.enter reg 0)).log
      (.load ((planeCtlReg reg).setWidth 64 >>> 2).toNat))).Mapped reg := hmap.of_rmmio_eq rfl
  have hon : (s.planeEnabled reg = true) =
      (s.dword ((planeCtlReg reg).setWidth 64) &&& 0x80000000 ≠ 0) := by
    simp [Mmio.planeEnabled, Mmio.planCtl]
  obtain ⟨length, hlen, hle⟩ := hmap
  rw [writeReg32]
  simp only [hlen, hsurf, and_self, ↓reduceDIte, if_pos (add_four_le hle), readReg32_mapped hctl,
    readReg32_mapped hcur, log_dword, hon, Mmio.planCtl]
  split
  · split <;> rfl
  · rfl

theorem writeReg32_off (hmap : s.Mapped reg) (hoff : s.planeEnabled reg = false) :
    writeReg32 reg 0 s =
      ((s.log (.enter reg 0)).log (.load ((planeCtlReg reg).setWidth 64 >>> 2).toNat)).poke
        (reg >>> 2).toNat 0 := by
  rw [writeReg32_surf hsurf hmap, hoff]
  rfl

theorem writeReg32_keep (hmap : s.Mapped reg) (hon : s.planeEnabled reg = true)
    (hcur : s.dword reg ≠ 0) :
    writeReg32 reg 0 s =
      (((s.log (.enter reg 0)).log (.load ((planeCtlReg reg).setWidth 64 >>> 2).toNat)).log
        (.load (reg >>> 2).toNat)).poke (reg >>> 2).toNat (s.dword reg) := by
  rw [writeReg32_surf hsurf hmap, hon]
  exact if_pos hcur

theorem writeReg32_disarm (hmap : s.Mapped reg) (hon : s.planeEnabled reg = true)
    (hcur : s.dword reg = 0) :
    writeReg32 reg 0 s =
      (((((s.log (.enter reg 0)).log (.load ((planeCtlReg reg).setWidth 64 >>> 2).toNat)).log
        (.load (reg >>> 2).toNat)).log
        (.enter ((planeCtlReg reg).setWidth 64) (s.planCtl reg &&& ~~~0x80000000))).poke
        ((planeCtlReg reg).setWidth 64 >>> 2).toNat (s.planCtl reg &&& ~~~0x80000000)).poke
        (reg >>> 2).toNat 0 := by
  have hctl := mapped_planeCtlReg hsurf hmap
  have hnested : ¬ (looksLikePlaneSurf ((planeCtlReg reg).setWidth 64) = true ∧
      s.planCtl reg &&& ~~~0x80000000 = 0) := by
    rw [looksLikePlaneSurf_planeCtlReg hsurf]
    exact fun h => Bool.false_ne_true h.1
  rw [writeReg32_surf hsurf hmap, hon]
  simp only [if_true, hcur, ne_eq, not_true_eq_false, if_false]
  refine congrArg (Mmio.poke (reg >>> 2).toNat 0) ?_
  refine writeReg32_plain ?_ hnested
  exact hctl.of_rmmio_eq rfl

end Surf

/-- A mapped window whose registers all read zero. -/
def zeroWindow (length : BitVec 64) : Mmio := ⟨some length, fun _ => 0, []⟩

end NootedGreen

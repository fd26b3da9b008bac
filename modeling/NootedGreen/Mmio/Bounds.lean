/-
# `Mmio.Bounds` — which accesses stay inside the mapping

Before it goes through `rmmioPtr` an accessor compares the offset with the length of
the mapping, in 64-bit arithmetic that wraps:

    accessor                 check               dword      lets through as well
    readReg32, writeReg32    reg + 4 ≤ length    reg >> 2   reg ≥ 2^64 − 4
    readReg64, writeReg64    reg * 8 < length    reg        reg ≥ 2^61 with reg * 8 mod 2^64 small

Everything else an accessor touches is inside a mapping of 64 bytes: the index/data
pair is the dwords 14 and 15, and the guard of the writers, with its nested write, only
runs for offsets below `0xC0000`, where nothing wraps.

`Access` is one call of an accessor.  `accesses_inside_iff` says of every sequence of
calls that it stays inside exactly when no call is of the kind in the last column.
-/
import Mathlib.Algebra.Group.Nat.Defs
import NootedGreen.Lib.Runs
import NootedGreen.Mmio.Wide

namespace NootedGreen

open Mmio

/-- The dword an event touches ends within `length` bytes. -/
def Event.Inside (length : Nat) : Event → Prop
  | .load i => 4 * i + 4 ≤ length
  | .store i _ _ => 4 * i + 4 ≤ length
  | .enter .. => True
  | .original .. => True

/-- A live mapping of `length` bytes, and every access so far inside it. -/
structure Mmio.InsideSoFar (length : BitVec 64) (s : Mmio) : Prop where
  live : s.rmmio = some length
  inside : ∀ e ∈ s.trace, e.Inside length.toNat

/-- One call of an accessor. -/
inductive Access where
  | readReg32 (reg : BitVec 64)
  | writeReg32 (reg : BitVec 64) (val : BitVec 32)
  | readReg64 (reg : BitVec 64)
  | writeReg64 (reg val : BitVec 64)

def Access.apply : Access → Mmio → Mmio
  | .readReg32 reg, s => (NootedGreen.readReg32 reg s).2
  | .writeReg32 reg val, s => NootedGreen.writeReg32 reg val s
  | .readReg64 reg, s => (NootedGreen.readReg64 reg s).2
  | .writeReg64 reg val, s => NootedGreen.writeReg64 reg val s

/-- The bound expression does not wrap, or where it does the offset is caught all the same. -/
def Access.InBounds (length : Nat) : Access → Prop
  | .readReg32 reg => reg.toNat + 4 < 2 ^ 64
  | .writeReg32 reg _ => reg.toNat + 4 < 2 ^ 64
  | .readReg64 reg =>
      reg.toNat < 2 ^ 61 ∨ length ≤ 8 * (reg.toNat % 2 ^ 61) ∨ 4 * reg.toNat + 4 ≤ length
  | .writeReg64 reg _ =>
      reg.toNat < 2 ^ 61 ∨ length ≤ 8 * (reg.toNat % 2 ^ 61) ∨ 4 * reg.toNat + 4 ≤ length

/-! ## Single events -/

section Events

variable {length : BitVec 64} {s : Mmio}

/-- One event more, in the same window. -/
theorem insideSoFar_cons {s' : Mmio} {e : Event} (hlive : s'.rmmio = s.rmmio)
    (htrace : s'.trace = e :: s.trace) :
    s'.InsideSoFar length ↔ s.InsideSoFar length ∧ e.Inside length.toNat := by
  constructor
  · intro h
    obtain ⟨he, hs⟩ := List.forall_mem_cons.mp (htrace ▸ h.inside)
    exact ⟨⟨hlive ▸ h.live, hs⟩, he⟩
  · rintro ⟨hs, he⟩
    exact ⟨hlive ▸ hs.live, htrace ▸ List.forall_mem_cons.mpr ⟨he, hs.inside⟩⟩

theorem insideSoFar_log (e : Event) :
    (s.log e).InsideSoFar length ↔ s.InsideSoFar length ∧ e.Inside length.toNat :=
  insideSoFar_cons rfl rfl

theorem insideSoFar_enter (reg : BitVec 64) (val : BitVec 32) :
    (s.log (.enter reg val)).InsideSoFar length ↔ s.InsideSoFar length := by
  rw [insideSoFar_log]
  exact and_iff_left trivial

theorem insideSoFar_peek (i : Nat) :
    (s.peek i).2.InsideSoFar length ↔ s.InsideSoFar length ∧ 4 * i + 4 ≤ length.toNat :=
  insideSoFar_log (.load i)

theorem insideSoFar_poke (i : Nat) (v : BitVec 32) :
    (s.poke i v).InsideSoFar length ↔ s.InsideSoFar length ∧ 4 * i + 4 ≤ length.toNat := by
  have htrace : (s.poke i v).trace = .store i v s.rmmioPtr :: s.trace := rfl
  exact insideSoFar_cons (poke_rmmio i v s) htrace

end Events

/-! ## The bound expressions -/

section Bound

variable {length reg : BitVec 64}

/-- The check on 32-bit accesses, and what it lets through. -/
theorem bound32_iff (h64 : 64 ≤ length.toNat) :
    (reg + 4 ≤ length → 4 * (reg >>> 2).toNat + 4 ≤ length.toNat) ↔ reg.toNat + 4 < 2 ^ 64 := by
  have hreg := reg.isLt
  have hlen := length.isLt
  rw [BitVec.le_def, BitVec.toNat_add, index_toNat, show (4 : BitVec 64).toNat = 4 from rfl]
  constructor
  · intro h
    refine Nat.lt_of_not_le fun hwrap => ?_
    have hsum : (reg.toNat + 4) % 2 ^ 64 ≤ length.toNat := by omega
    have hin := h hsum
    omega
  · intro hfit hle
    rw [Nat.mod_eq_of_lt hfit] at hle
    omega

/-- The check on 64-bit accesses: the product is `8 * (reg % 2^61)`. -/
theorem mul_eight_toNat (reg : BitVec 64) : (reg * 8).toNat = 8 * (reg.toNat % 2 ^ 61) := by
  rw [BitVec.toNat_mul, show (8 : BitVec 64).toNat = 8 from rfl]
  omega

theorem bound64_iff (h64 : 64 ≤ length.toNat) :
    (reg * 8 < length → 4 * reg.toNat + 4 ≤ length.toNat) ↔
      reg.toNat < 2 ^ 61 ∨ length.toNat ≤ 8 * (reg.toNat % 2 ^ 61) ∨
        4 * reg.toNat + 4 ≤ length.toNat := by
  rw [BitVec.lt_def, mul_eight_toNat]
  constructor
  · intro h
    rcases Nat.lt_or_ge (8 * (reg.toNat % 2 ^ 61)) length.toNat with hlt | hge
    · exact .inr (.inr (h hlt))
    · exact .inr (.inl hge)
  · rintro (hsmall | hcaught | hin) hlt
    · -- dword `reg` ends at `4 * reg + 4`, which is at most `8 * reg` once `reg` is not 0
      rw [Nat.mod_eq_of_lt hsmall] at hlt
      omega
    · omega
    · exact hin

/-- A SURF register is far below the offsets that wrap. -/
theorem reaches_lt (hsurf : looksLikePlaneSurf reg = true) {r : BitVec 64} (hr : Reaches reg r) :
    r.toNat < 2 ^ 20 := by
  obtain ⟨hlo, hhi, -⟩ := (looksLikePlaneSurf_iff reg).mp hsurf
  rcases hr with rfl | ⟨-, rfl⟩
  · omega
  · rw [BitVec.toNat_setWidth, planeCtlReg_toNat hsurf]
    omega

end Bound

/-! ## The accessors -/

section Accessors

variable {length : BitVec 64} {s : Mmio} (h64 : 64 ≤ length.toNat)

include h64

/-- The index/data pair is inside every mapping of 64 bytes. -/
theorem pair_inside (hs : s.InsideSoFar length) (v : BitVec 32) :
    (s.poke mmPCIE_INDEX2 v).InsideSoFar length ∧ 4 * mmPCIE_DATA2 + 4 ≤ length.toNat :=
  ⟨(insideSoFar_poke _ _).mpr ⟨hs, Nat.le_trans (by decide) h64⟩, h64⟩

omit h64 in
/-- An access is made directly under `c`, and then is inside if `P`; otherwise it goes through
the pair and is inside anyway. -/
theorem inside_iff_of_direct {c P : Prop} {t : Mmio} (hs : s.InsideSoFar length)
    (hdirect : c → (t.InsideSoFar length ↔ s.InsideSoFar length ∧ P))
    (hpair : ¬ c → t.InsideSoFar length) : t.InsideSoFar length ↔ (c → P) := by
  constructor
  · intro h hc
    exact ((hdirect hc).mp h).2
  · intro h
    by_cases hc : c
    · exact (hdirect hc).mpr ⟨hs, h hc⟩
    · exact hpair hc

theorem readReg32_inside_iff (hs : s.InsideSoFar length) (reg : BitVec 64) :
    (readReg32 reg s).2.InsideSoFar length ↔ reg.toNat + 4 < 2 ^ 64 := by
  rw [← bound32_iff h64]
  refine inside_iff_of_direct hs (fun hle => ?_) fun hle => ?_
  · rw [readReg32_direct hs.live hle, insideSoFar_log]
    exact Iff.rfl
  · rw [readReg32_indirect hs.live hle, insideSoFar_peek]
    exact pair_inside h64 hs _

theorem storeReg_inside_iff (hs : s.InsideSoFar length) (reg : BitVec 64) (val : BitVec 32) :
    (s.storeReg length reg val).InsideSoFar length ↔ reg.toNat + 4 < 2 ^ 64 := by
  rw [← bound32_iff h64, storeReg]
  refine inside_iff_of_direct hs (fun hle => ?_) fun hle => ?_
  · rw [if_pos hle, insideSoFar_poke]
  · rw [if_neg hle, insideSoFar_poke]
    exact pair_inside h64 hs _

/-- With all the registers it reaches below the wrap, a write stays inside. -/
theorem writeReg32_inside {reg : BitVec 64} (hfit : ∀ r, Reaches reg r → r.toNat + 4 < 2 ^ 64)
    (val : BitVec 32) (hs : s.InsideSoFar length) :
    (writeReg32 reg val s).InsideSoFar length := by
  refine writeReg32_of_reaches (fun t ht => ht.live) ?_ ?_ ?_ val s hs
  · intro t r v ht
    exact (insideSoFar_enter r v).mpr ht
  · intro t r hr ht
    exact (readReg32_inside_iff h64 ht r).mpr (hfit r hr)
  · intro t r v hr ht
    exact (storeReg_inside_iff h64 ht r v).mpr (hfit r hr)

theorem writeReg32_inside_iff (hs : s.InsideSoFar length) (reg : BitVec 64) (val : BitVec 32) :
    (writeReg32 reg val s).InsideSoFar length ↔ reg.toNat + 4 < 2 ^ 64 := by
  by_cases hg : looksLikePlaneSurf reg = true ∧ val = 0
  · have hfit : ∀ r, Reaches reg r → r.toNat + 4 < 2 ^ 64 := by
      intro r hr
      have hlt := reaches_lt hg.1 hr
      omega
    exact iff_of_true (writeReg32_inside h64 hfit val hs) (hfit reg (.inl rfl))
  · rw [writeReg32_unguarded hs.live hg]
    exact storeReg_inside_iff h64 ((insideSoFar_enter reg val).mpr hs) reg val

theorem readReg64_inside_iff (hs : s.InsideSoFar length) (reg : BitVec 64) :
    (readReg64 reg s).2.InsideSoFar length ↔
      (reg * 8 < length → 4 * reg.toNat + 4 ≤ length.toNat) := by
  simp only [readReg64, hs.live]
  refine inside_iff_of_direct hs (fun hlt => ?_) fun hlt => ?_
  · rw [if_pos hlt, insideSoFar_peek]
  · rw [if_neg hlt, insideSoFar_peek]
    exact pair_inside h64 hs _

theorem writeReg64_inside_iff (hs : s.InsideSoFar length) (reg val : BitVec 64) :
    (writeReg64 reg val s).InsideSoFar length ↔
      (reg * 8 < length → 4 * reg.toNat + 4 ≤ length.toNat) := by
  -- whatever the guard does, it ends inside; then one dword is stored
  have hstore : ∀ (t : Mmio) (v : BitVec 32), t.InsideSoFar length →
      ((if reg * 8 < length then t.poke reg.toNat v
        else (t.poke mmPCIE_INDEX2 (reg.setWidth 32)).poke mmPCIE_DATA2 v).InsideSoFar length ↔
      (reg * 8 < length → 4 * reg.toNat + 4 ≤ length.toNat)) := by
    intro t v ht
    refine inside_iff_of_direct ht (fun hlt => ?_) fun hlt => ?_
    · rw [if_pos hlt, insideSoFar_poke]
    · rw [if_neg hlt, insideSoFar_poke]
      exact pair_inside h64 ht _
  simp only [writeReg64, hs.live]
  refine hstore _ _ ?_
  split
  · rename_i hg
    have hfit : ∀ r, Reaches reg r → r.toNat + 4 < 2 ^ 64 := by
      intro r hr
      have hlt := reaches_lt hg.1 hr
      omega
    have hctl := (readReg32_inside_iff h64 hs _).mpr (hfit _ (.inr ⟨hg.1, rfl⟩))
    have hcur := (readReg32_inside_iff h64 hctl _).mpr (hfit _ (.inl rfl))
    split
    · split
      · exact hcur
      · exact (writeReg32_inside_iff h64 hcur _ _).mpr (hfit _ (.inr ⟨hg.1, rfl⟩))
    · exact hctl
  · exact hs

theorem access_inside_iff (a : Access) (hs : s.InsideSoFar length) :
    (a.apply s).InsideSoFar length ↔ a.InBounds length.toNat := by
  cases a with
  | readReg32 reg => exact readReg32_inside_iff h64 hs reg
  | writeReg32 reg val => exact writeReg32_inside_iff h64 hs reg val
  | readReg64 reg => exact (readReg64_inside_iff h64 hs reg).trans (bound64_iff h64)
  | writeReg64 reg val => exact (writeReg64_inside_iff h64 hs reg val).trans (bound64_iff h64)

/-- Whatever is called in whatever order: all accesses are inside the mapping exactly when
no bound expression wraps onto an offset that is let through. -/
theorem accesses_inside_iff (hs : s.InsideSoFar length) (as : List Access) :
    (∀ t ∈ Runs.states Access.apply as s, t.InsideSoFar length) ↔
      ∀ a ∈ as, a.InBounds length.toNat := by
  rw [Runs.states_iff_guarded (fun a _ => access_inside_iff h64 a) as s hs]
  exact Runs.guarded_iff_forall_mem as s

end Accessors

theorem zeroWindow_insideSoFar (length : BitVec 64) :
    (zeroWindow length).InsideSoFar length :=
  ⟨rfl, fun _ h => absurd h List.not_mem_nil⟩

/-- The smallest mapping: a guarded zero write goes through the index/data pair. -/
theorem accesses_inside_sixty_four : 64 ≤ (64#64).toNat ∧
    ∀ t ∈ Runs.states Access.apply [.writeReg32 0x6019C 0, .readReg64 7] (zeroWindow 64),
      t.InsideSoFar 64 := by
  refine ⟨by decide, (accesses_inside_iff (by decide) (zeroWindow_insideSoFar 64) _).mpr ?_⟩
  intro a ha
  rcases List.mem_cons.mp ha with rfl | ha
  · show (0x6019C#64).toNat + 4 < 2 ^ 64
    decide
  · rw [List.mem_singleton.mp ha]
    exact .inl (by decide)

/-- The last dword of the address space passes the check of a 16 MiB mapping, and so does
dword `2^61`, whose byte offset times two is 0 modulo `2^64`. -/
theorem access_outside_of_wrap :
    ¬ ((Access.readReg32 0xFFFFFFFFFFFFFFFC).apply (zeroWindow 0x1000000)).InsideSoFar 0x1000000 ∧
    ¬ ((Access.writeReg64 0x2000000000000000 1).apply
      (zeroWindow 0x1000000)).InsideSoFar 0x1000000 := by
  have hiff := fun a => access_inside_iff (by decide) a (zeroWindow_insideSoFar 0x1000000)
  constructor
  · rw [hiff]
    show ¬ (0xFFFFFFFFFFFFFFFC#64).toNat + 4 < 2 ^ 64
    decide
  · rw [hiff]
    show ¬ ((0x2000000000000000#64).toNat < 2 ^ 61 ∨
      (0x1000000#64).toNat ≤ 8 * ((0x2000000000000000#64).toNat % 2 ^ 61) ∨
      4 * (0x2000000000000000#64).toNat + 4 ≤ (0x1000000#64).toNat)
    decide

end NootedGreen

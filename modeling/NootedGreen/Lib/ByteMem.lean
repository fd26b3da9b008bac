/-
# `Lib.ByteMem` — byte-addressed memory and little-endian words

A memory is a total function from byte addresses to bytes.  `store a n v`
writes the low `n` bytes of `v` at `a`; `load16` and `load32` read words back.
Nothing is assumed about alignment: a store may straddle the word a later load
reads, and the lemmas below speak about byte ranges only.

    same range          load32 (store a 4 v) a = v
    disjoint ranges     load32 (store a n v) b = load32 b
    what is there       store a 4 (load32 a) = id
    n words             load32 (fill32 a n v) (a + 4 i) = v for i < n
-/
import Mathlib.Tactic.Common

/-- A byte-addressed memory. -/
abbrev ByteMem := Nat → BitVec 8

namespace ByteMem

/-- The little-endian 32-bit word at `a`. -/
def load32 (m : ByteMem) (a : Nat) : BitVec 32 :=
  m (a + 3) ++ m (a + 2) ++ m (a + 1) ++ m a

/-- The little-endian 16-bit word at `a`. -/
def load16 (m : ByteMem) (a : Nat) : BitVec 16 :=
  m (a + 1) ++ m a

/-- The low `n` bytes of `v`, written at `a`. -/
def store {w : Nat} (m : ByteMem) (a n : Nat) (v : BitVec w) : ByteMem := fun b =>
  if a ≤ b ∧ b < a + n then v.extractLsb' (8 * (b - a)) 8 else m b

/-! ## Bytes after a store -/

theorem store_inside {w : Nat} (m : ByteMem) (v : BitVec w) {a n b : Nat}
    (h₁ : a ≤ b) (h₂ : b < a + n) : m.store a n v b = v.extractLsb' (8 * (b - a)) 8 := by
  simp only [store, h₁, h₂, and_self, if_true]

theorem store_outside {w : Nat} (m : ByteMem) (v : BitVec w) {a n b : Nat}
    (h : b < a ∨ a + n ≤ b) : m.store a n v b = m b := by
  simp only [store]
  rw [if_neg (by omega)]

/-- Only the low `n` bytes count. -/
theorem store_setWidth {w w' : Nat} (m : ByteMem) (a : Nat) {n : Nat} (v : BitVec w)
    (h : 8 * n ≤ w') : m.store a n (v.setWidth w') = m.store a n v := by
  funext b
  simp only [store]
  split
  · refine BitVec.eq_of_getLsbD_eq fun i hi => ?_
    have hlt : 8 * (b - a) + i < w' := by omega
    simp only [BitVec.getLsbD_extractLsb', BitVec.getLsbD_setWidth, hi, hlt, decide_true,
      Bool.true_and]
  · rfl

/-- The last of two stores to one range is the one that counts. -/
@[simp] theorem store_store_same {w w' : Nat} (m : ByteMem) (a n : Nat) (u : BitVec w)
    (v : BitVec w') : (m.store a n u).store a n v = m.store a n v := by
  funext b
  simp only [store]
  split <;> rfl

/-- Stores to ranges that do not overlap, in either order. -/
theorem store_comm {w w' : Nat} (m : ByteMem) {a b n k : Nat} (u : BitVec w) (v : BitVec w')
    (h : a + n ≤ b ∨ b + k ≤ a) :
    (m.store a n u).store b k v = (m.store b k v).store a n u := by
  funext c
  by_cases ha : a ≤ c ∧ c < a + n
  · rw [store_outside _ v (by omega), store_inside m u ha.1 ha.2, store_inside _ u ha.1 ha.2]
  · rw [store_outside _ u (by omega)]
    by_cases hb : b ≤ c ∧ c < b + k
    · rw [store_inside _ v hb.1 hb.2, store_inside m v hb.1 hb.2]
    · rw [store_outside _ v (by omega), store_outside m u (by omega), store_outside m v (by omega)]

/-! ## Half words -/

theorem load32_eq_append (m : ByteMem) (a : Nat) : m.load32 a = m.load16 (a + 2) ++ m.load16 a := by
  simp only [load32, load16]
  rw [BitVec.append_assoc', BitVec.cast_eq]

theorem load32_setWidth (m : ByteMem) (a : Nat) : (m.load32 a).setWidth 16 = m.load16 a := by
  rw [load32_eq_append]
  exact BitVec.setWidth_append_eq_right

/-! ## Words after a store -/

theorem load32_congr {m m' : ByteMem} {a : Nat}
    (h : ∀ b, a ≤ b → b < a + 4 → m b = m' b) : m.load32 a = m'.load32 a := by
  simp only [load32]
  rw [h a (by omega) (by omega), h (a + 1) (by omega) (by omega),
    h (a + 2) (by omega) (by omega), h (a + 3) (by omega) (by omega)]

/-- The `k`-th byte of a loaded word is the byte it was loaded from. -/
theorem extractLsb'_load32 (m : ByteMem) (a : Nat) {k : Nat} (hk : k < 4) :
    (m.load32 a).extractLsb' (8 * k) 8 = m (a + k) := by
  have hcases : k = 0 ∨ k = 1 ∨ k = 2 ∨ k = 3 := by omega
  refine BitVec.eq_of_getLsbD_eq fun i hi => ?_
  simp only [load32, BitVec.getLsbD_extractLsb', BitVec.getLsbD_append]
  rcases hcases with rfl | rfl | rfl | rfl <;> grind

@[simp] theorem load32_store_same (m : ByteMem) (a : Nat) (v : BitVec 32) :
    (m.store a 4 v).load32 a = v := by
  have h : (m.store a 4 v).load32 a =
      v.extractLsb' 24 8 ++ v.extractLsb' 16 8 ++ v.extractLsb' 8 8 ++ v.extractLsb' 0 8 := by
    simp [load32, store]
  rw [h]
  refine BitVec.eq_of_getLsbD_eq fun i hi => ?_
  simp only [BitVec.getLsbD_append, BitVec.getLsbD_extractLsb']
  grind

theorem load32_store_disjoint {w : Nat} (m : ByteMem) (v : BitVec w) {a n b : Nat}
    (h : b + 4 ≤ a ∨ a + n ≤ b) : (m.store a n v).load32 b = m.load32 b :=
  load32_congr fun _ _ _ => store_outside m v (by omega)

/-- Writing back the word that is already there changes no byte. -/
@[simp] theorem store_load32_same (m : ByteMem) (a : Nat) :
    m.store a 4 (m.load32 a) = m := by
  funext b
  by_cases hb : a ≤ b ∧ b < a + 4
  · rw [store_inside m _ hb.1 hb.2, extractLsb'_load32 m a (by omega)]
    congr 1
    omega
  · exact store_outside m _ (by omega)

/-- A word is what its four bytes say. -/
theorem load32_eq_iff (m : ByteMem) (a : Nat) (v : BitVec 32) :
    m.load32 a = v ↔ ∀ k < 4, m (a + k) = v.extractLsb' (8 * k) 8 := by
  constructor
  · rintro rfl k hk
    exact (extractLsb'_load32 m a hk).symm
  · intro h
    rw [← load32_store_same m a v]
    refine load32_congr fun b hb hb' => ?_
    obtain ⟨k, rfl⟩ := Nat.exists_eq_add_of_le hb
    rw [store_inside m v hb hb', h k (by omega), Nat.add_sub_cancel_left]

/-- Where all bytes of a region are `x`, a store leaves it so exactly when the bytes it
puts there are. -/
theorem store_forall_iff {w : Nat} {R : Nat → Prop} {x : BitVec 8} {m : ByteMem}
    (hm : ∀ b, R b → m b = x) (a n : Nat) (v : BitVec w) :
    (∀ b, R b → m.store a n v b = x) ↔ ∀ k < n, R (a + k) → v.extractLsb' (8 * k) 8 = x := by
  constructor
  · intro h k hk hR
    have hb := h (a + k) hR
    rwa [store_inside m v (by omega) (by omega), Nat.add_sub_cancel_left] at hb
  · intro h b hR
    by_cases hb : a ≤ b ∧ b < a + n
    · obtain ⟨k, rfl⟩ := Nat.exists_eq_add_of_le hb.1
      rw [store_inside m v hb.1 hb.2, Nat.add_sub_cancel_left]
      exact h k (by omega) hR
    · rw [store_outside m v (by omega)]
      exact hm b hR

/-! ## Fills -/

/-- The word `v`, `n` times from `a` on. -/
def fill32 (m : ByteMem) (a : Nat) : Nat → BitVec 32 → ByteMem
  | 0, _ => m
  | n + 1, v => (m.fill32 a n v).store (a + 4 * n) 4 v

theorem fill32_outside (m : ByteMem) (v : BitVec 32) {a n b : Nat}
    (h : b < a ∨ a + 4 * n ≤ b) : m.fill32 a n v b = m b := by
  induction n with
  | zero => rfl
  | succ n ih => rw [fill32, store_outside _ v (by omega), ih (by omega)]

theorem load32_fill32 (m : ByteMem) (a : Nat) (v : BitVec 32) {n i : Nat} (hi : i < n) :
    (m.fill32 a n v).load32 (a + 4 * i) = v := by
  induction n with
  | zero => exact absurd hi (Nat.not_lt_zero i)
  | succ n ih =>
      rw [fill32]
      rcases Nat.lt_succ_iff_lt_or_eq.mp hi with hlt | rfl
      · rw [load32_store_disjoint _ v (by omega), ih hlt]
      · exact load32_store_same _ _ v

/-! ## Fields

A record in memory, as the fields a piece of code writes one after the other. -/

/-- The low `size` bytes of `value`, at `addr`. -/
structure Field where
  addr : Nat
  size : Nat
  value : BitVec 64
  deriving DecidableEq, Repr

/-- Apart from each other. -/
def Field.Apart (f g : Field) : Prop := f.addr + f.size ≤ g.addr ∨ g.addr + g.size ≤ f.addr

instance : DecidableRel Field.Apart := fun f g =>
  inferInstanceAs (Decidable (f.addr + f.size ≤ g.addr ∨ g.addr + g.size ≤ f.addr))

/-- The field's bytes are in memory. -/
def Holds (m : ByteMem) (f : Field) : Prop :=
  ∀ k < f.size, m (f.addr + k) = f.value.extractLsb' (8 * k) 8

instance (m : ByteMem) : DecidablePred m.Holds := fun f =>
  inferInstanceAs (Decidable (∀ k < f.size, m (f.addr + k) = f.value.extractLsb' (8 * k) 8))

def storeAll (m : ByteMem) (fs : List Field) : ByteMem :=
  fs.foldl (fun m f => m.store f.addr f.size f.value) m

theorem storeAll_cons (m : ByteMem) (f : Field) (fs : List Field) :
    m.storeAll (f :: fs) = (m.store f.addr f.size f.value).storeAll fs := rfl

theorem holds_store (m : ByteMem) (f : Field) : (m.store f.addr f.size f.value).Holds f := by
  intro k hk
  rw [store_inside m f.value (by omega) (by omega), Nat.add_sub_cancel_left]

theorem holds_store_apart {m : ByteMem} {f g : Field} (hapart : g.Apart f) (h : m.Holds f) :
    (m.store g.addr g.size g.value).Holds f := by
  intro k hk
  rw [Field.Apart] at hapart
  rw [store_outside m g.value (by omega)]
  exact h k hk

/-- Storing what is there changes no byte. -/
theorem store_of_holds {m : ByteMem} {f : Field} (h : m.Holds f) :
    m.store f.addr f.size f.value = m := by
  funext b
  by_cases hb : f.addr ≤ b ∧ b < f.addr + f.size
  · obtain ⟨k, rfl⟩ := Nat.exists_eq_add_of_le hb.1
    rw [store_inside m f.value hb.1 hb.2, Nat.add_sub_cancel_left]
    exact (h k (by omega)).symm
  · exact store_outside m f.value (by omega)

theorem holds_storeAll_apart {f : Field} :
    ∀ {fs : List Field} {m : ByteMem}, (∀ g ∈ fs, g.Apart f) → m.Holds f → (m.storeAll fs).Holds f
  | [], _, _, h => h
  | g :: fs, _, hapart, h => by
      obtain ⟨hg, hfs⟩ := List.forall_mem_cons.mp hapart
      rw [storeAll_cons]
      exact holds_storeAll_apart hfs (holds_store_apart hg h)

/-- Fields apart from each other are all there after they are stored. -/
theorem holds_storeAll :
    ∀ {fs : List Field} {m : ByteMem}, fs.Pairwise (fun f g => g.Apart f) →
      ∀ f ∈ fs, (m.storeAll fs).Holds f
  | [], _, _, _, hf => absurd hf List.not_mem_nil
  | g :: fs, m, hpair, f, hf => by
      obtain ⟨hg, hfs⟩ := List.pairwise_cons.mp hpair
      rw [storeAll_cons]
      rcases List.mem_cons.mp hf with rfl | hf
      · exact holds_storeAll_apart hg (holds_store m f)
      · exact holds_storeAll hfs f hf

/-- Storing fields that are apart changes nothing exactly when all are there. -/
theorem storeAll_eq_self_iff {fs : List Field} (hpair : fs.Pairwise fun f g => g.Apart f)
    (m : ByteMem) : m.storeAll fs = m ↔ ∀ f ∈ fs, m.Holds f := by
  constructor
  · intro h f hf
    have hstored := holds_storeAll (m := m) hpair f hf
    rwa [h] at hstored
  · clear hpair
    induction fs with
    | nil => exact fun _ => rfl
    | cons g fs ih =>
        intro h
        obtain ⟨hg, hfs⟩ := List.forall_mem_cons.mp h
        rw [storeAll_cons, store_of_holds hg]
        exact ih hfs

end ByteMem

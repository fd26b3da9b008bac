/-
# `Lib.Updates` — lists of updates of separate words

An update replaces the 32-bit word at an address by a function of it.  When the
words of a list of updates do not overlap,

    the order does not matter                        (`updateAll_perm`)
    each word ends at its function of the old one    (`load32_updateAll`)
    bytes outside the words stay                     (`updateAll_outside`)

and when the functions are idempotent, so is the list (`updateAll_idem`).
-/
import NootedGreen.Lib.ByteMem
import Mathlib.Data.List.Perm.Basic
import Mathlib.Data.List.Pairwise

/-- The word at `addr` becomes `f` of itself. -/
structure WordUpdate where
  addr : Nat
  f : BitVec 32 → BitVec 32

namespace WordUpdate

/-- The two words do not overlap. -/
def Apart (u v : WordUpdate) : Prop := u.addr + 4 ≤ v.addr ∨ v.addr + 4 ≤ u.addr

instance : DecidableRel Apart := fun u v =>
  inferInstanceAs (Decidable (u.addr + 4 ≤ v.addr ∨ v.addr + 4 ≤ u.addr))

theorem Apart.symm {u v : WordUpdate} (h : Apart u v) : Apart v u := Or.symm h

instance : Std.Symm Apart := ⟨fun _ _ => Apart.symm⟩

end WordUpdate

namespace ByteMem

open WordUpdate

def update (m : ByteMem) (u : WordUpdate) : ByteMem := m.store u.addr 4 (u.f (m.load32 u.addr))

def updateAll (us : List WordUpdate) (m : ByteMem) : ByteMem := us.foldl update m

variable {m : ByteMem} {u v : WordUpdate} {us vs : List WordUpdate}

/-! ## One update -/

theorem load32_update_same (m : ByteMem) (u : WordUpdate) :
    (m.update u).load32 u.addr = u.f (m.load32 u.addr) :=
  load32_store_same _ _ _

theorem load32_update_apart (m : ByteMem) (h : Apart u v) :
    (m.update u).load32 v.addr = m.load32 v.addr :=
  load32_store_disjoint _ _ (Or.symm h)

theorem update_outside (m : ByteMem) {b : Nat} (h : b < u.addr ∨ u.addr + 4 ≤ b) :
    m.update u b = m b :=
  store_outside _ _ h

theorem update_comm (m : ByteMem) (h : Apart u v) :
    (m.update u).update v = (m.update v).update u := by
  calc (m.update u).update v
      = (m.store u.addr 4 (u.f (m.load32 u.addr))).store v.addr 4 (v.f (m.load32 v.addr)) := by
        rw [update, load32_update_apart m h, update]
    _ = (m.store v.addr 4 (v.f (m.load32 v.addr))).store u.addr 4 (u.f (m.load32 u.addr)) :=
        store_comm m _ _ h
    _ = (m.update v).update u := by
        rw [update, load32_update_apart m h.symm, update]

theorem update_eq_self (h : u.f (m.load32 u.addr) = m.load32 u.addr) : m.update u = m := by
  rw [update, h, store_load32_same]

/-! ## Lists of updates -/

theorem updateAll_outside (m : ByteMem) {b : Nat}
    (h : ∀ u ∈ us, b < u.addr ∨ u.addr + 4 ≤ b) : updateAll us m b = m b := by
  induction us generalizing m with
  | nil => rfl
  | cons u us ih =>
      obtain ⟨hu, hus⟩ := List.forall_mem_cons.mp h
      exact (ih (m.update u) hus).trans (update_outside m hu)

theorem load32_updateAll_apart (m : ByteMem) (h : ∀ u ∈ us, Apart u v) :
    (updateAll us m).load32 v.addr = m.load32 v.addr := by
  refine load32_congr fun b hb hb' => updateAll_outside m fun u hu => ?_
  rcases h u hu with hbelow | habove
  · omega
  · omega

/-- Every word ends at its function of what it was. -/
theorem load32_updateAll (m : ByteMem) (hapart : us.Pairwise Apart) (hv : v ∈ us) :
    (updateAll us m).load32 v.addr = v.f (m.load32 v.addr) := by
  induction us generalizing m with
  | nil => exact absurd hv List.not_mem_nil
  | cons u us ih =>
      obtain ⟨hu, hus⟩ := List.pairwise_cons.mp hapart
      rcases List.mem_cons.mp hv with rfl | hv
      · exact (load32_updateAll_apart _ fun w hw => (hu w hw).symm).trans
          (load32_update_same m v)
      · exact (ih (m.update u) hus hv).trans (congrArg v.f (load32_update_apart m (hu v hv)))

/-- Updates that change nothing one by one change nothing together. -/
theorem updateAll_eq_self (h : ∀ u ∈ us, u.f (m.load32 u.addr) = m.load32 u.addr) :
    updateAll us m = m := by
  induction us with
  | nil => rfl
  | cons u us ih =>
      obtain ⟨hu, hus⟩ := List.forall_mem_cons.mp h
      show updateAll us (m.update u) = m
      rw [update_eq_self hu]
      exact ih hus

theorem updateAll_perm (hperm : us.Perm vs) (hapart : us.Pairwise Apart) (m : ByteMem) :
    updateAll us m = updateAll vs m := by
  refine hperm.foldl_eq' ?_ m
  intro u hu v hv m
  by_cases huv : u = v
  · rw [huv]
  · exact update_comm m (hapart.forall hu hv huv)

/-- Idempotent updates of separate words need no second round. -/
theorem updateAll_idem (hapart : us.Pairwise Apart) (hidem : ∀ u ∈ us, ∀ x, u.f (u.f x) = u.f x)
    (m : ByteMem) : updateAll us (updateAll us m) = updateAll us m := by
  refine updateAll_eq_self fun u hu => ?_
  rw [load32_updateAll m hapart hu, hidem u hu]

end ByteMem

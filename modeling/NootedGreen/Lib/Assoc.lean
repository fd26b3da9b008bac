/-
# `Lib.Assoc` — association lists with replacement

A finite map kept as a list of pairs, read with `List.lookup`.  `set` replaces the
value at the first pair with the key, in place, and appends a pair when there is
none.  `setMissing` keeps what is there.  Each also for a list of pairs, one after
the other.
-/
import Mathlib.Tactic.Common

namespace Assoc

variable {κ α : Type _} [DecidableEq κ]

def set (key : κ) (value : α) : List (κ × α) → List (κ × α)
  | [] => [(key, value)]
  | (k, v) :: d => if k = key then (key, value) :: d else (k, v) :: set key value d

@[simp] theorem lookup_set_same (key : κ) (value : α) (d : List (κ × α)) :
    (set key value d).lookup key = some value := by
  induction d with
  | nil => simp [set]
  | cons p d ih =>
      obtain ⟨k, v⟩ := p
      rw [set]
      split
      · simp
      · rename_i hk
        rw [List.lookup_cons, beq_eq_false_iff_ne.mpr (Ne.symm hk)]
        exact ih

theorem lookup_set_other {key key' : κ} (h : key' ≠ key) (value : α) (d : List (κ × α)) :
    (set key value d).lookup key' = d.lookup key' := by
  induction d with
  | nil => rw [set, List.lookup_cons, beq_eq_false_iff_ne.mpr h]
  | cons p d ih =>
      obtain ⟨k, v⟩ := p
      rw [set]
      split
      · rename_i hk
        subst hk
        rw [List.lookup_cons, List.lookup_cons, beq_eq_false_iff_ne.mpr h]
      · rw [List.lookup_cons, List.lookup_cons, ih]

/-- Only where the key has no value yet. -/
def setMissing (key : κ) (value : α) (d : List (κ × α)) : List (κ × α) :=
  match d.lookup key with
  | some _ => d
  | none => set key value d

def setAll (kvs d : List (κ × α)) : List (κ × α) := kvs.foldl (fun d kv => set kv.1 kv.2 d) d

def setAllMissing (kvs d : List (κ × α)) : List (κ × α) :=
  kvs.foldl (fun d kv => setMissing kv.1 kv.2 d) d

theorem lookup_setMissing {key key' : κ} {v : α} (value : α) {d : List (κ × α)}
    (h : d.lookup key' = some v) : (setMissing key value d).lookup key' = some v := by
  unfold setMissing
  cases hkey : d.lookup key with
  | some u => exact h
  | none =>
      have hne : key' ≠ key := by
        rintro rfl
        rw [h] at hkey
        cases hkey
      exact (lookup_set_other hne value d).trans h

/-- Setting what is missing changes no value. -/
theorem lookup_setAllMissing {key : κ} {v : α} (kvs : List (κ × α)) {d : List (κ × α)}
    (h : d.lookup key = some v) : (setAllMissing kvs d).lookup key = some v := by
  induction kvs generalizing d with
  | nil => exact h
  | cons kv kvs ih => exact ih (lookup_setMissing kv.2 h)

theorem setMissing_of_present {key : κ} (value : α) {d : List (κ × α)}
    (h : d.lookup key ≠ none) : setMissing key value d = d := by
  obtain ⟨v, hv⟩ := Option.ne_none_iff_exists'.mp h
  rw [setMissing, hv]

theorem setAllMissing_of_present {kvs d : List (κ × α)}
    (h : ∀ kv ∈ kvs, d.lookup kv.1 ≠ none) : setAllMissing kvs d = d := by
  induction kvs with
  | nil => rfl
  | cons kv kvs ih =>
      obtain ⟨hkv, hkvs⟩ := List.forall_mem_cons.mp h
      show setAllMissing kvs (setMissing kv.1 kv.2 d) = d
      rw [setMissing_of_present kv.2 hkv]
      exact ih hkvs

theorem lookup_setMissing_same {key : κ} (value : α) (d : List (κ × α)) :
    (setMissing key value d).lookup key = some ((d.lookup key).getD value) := by
  unfold setMissing
  cases hkey : d.lookup key with
  | some u => exact hkey
  | none => exact lookup_set_same key value d

/-- Afterwards every key of the list has a value. -/
theorem lookup_setAllMissing_ne_none {kvs : List (κ × α)} (d : List (κ × α)) :
    ∀ kv ∈ kvs, (setAllMissing kvs d).lookup kv.1 ≠ none := by
  induction kvs generalizing d with
  | nil => exact fun kv hkv => absurd hkv List.not_mem_nil
  | cons kv kvs ih =>
      refine List.forall_mem_cons.mpr ⟨?_, ih _⟩
      rw [show (setAllMissing (kv :: kvs) d).lookup kv.1 = some ((d.lookup kv.1).getD kv.2) from
        lookup_setAllMissing kvs (lookup_setMissing_same kv.2 d)]
      exact Option.some_ne_none _

theorem setAllMissing_idem (kvs d : List (κ × α)) :
    setAllMissing kvs (setAllMissing kvs d) = setAllMissing kvs d :=
  setAllMissing_of_present (lookup_setAllMissing_ne_none d)

/-- A key that is not in the list keeps its value. -/
theorem lookup_setAll_other {key : κ} {kvs : List (κ × α)} (h : key ∉ kvs.map Prod.fst)
    (d : List (κ × α)) : (setAll kvs d).lookup key = d.lookup key := by
  induction kvs generalizing d with
  | nil => rfl
  | cons kv kvs ih =>
      have hne : key ≠ kv.1 := List.ne_of_not_mem_cons h
      exact (ih (List.not_mem_of_not_mem_cons h) _).trans (lookup_set_other hne kv.2 d)

/-- A key of the list ends at its value there. -/
theorem lookup_setAll {key : κ} {v : α} {kvs : List (κ × α)} (hnd : (kvs.map Prod.fst).Nodup)
    (h : (key, v) ∈ kvs) (d : List (κ × α)) : (setAll kvs d).lookup key = some v := by
  induction kvs generalizing d with
  | nil => exact absurd h List.not_mem_nil
  | cons kv kvs ih =>
      obtain ⟨hkv, hnd⟩ := List.nodup_cons.mp hnd
      rcases List.mem_cons.mp h with rfl | h
      · exact (lookup_setAll_other hkv _).trans (lookup_set_same _ _ d)
      · exact ih hnd h _

theorem not_mem_of_lookup {key : κ} {d : List (κ × α)} (h : d.lookup key = none) :
    key ∉ d.map Prod.fst := by
  intro hmem
  obtain ⟨kv, hkv, rfl⟩ := List.mem_map.mp hmem
  have hne := List.lookup_eq_none_iff.mp h kv hkv
  simp at hne

theorem mem_of_lookup {key : κ} {v : α} {d : List (κ × α)} (h : d.lookup key = some v) :
    (key, v) ∈ d := by
  obtain ⟨l₁, l₂, rfl, _⟩ := List.lookup_eq_some_iff.mp h
  exact List.mem_append_right l₁ List.mem_cons_self

theorem lookup_setAll_of_lookup {key : κ} {v : α} {kvs : List (κ × α)}
    (hnd : (kvs.map Prod.fst).Nodup) (h : kvs.lookup key = some v) (d : List (κ × α)) :
    (setAll kvs d).lookup key = some v :=
  lookup_setAll hnd (mem_of_lookup h) d

/-- With distinct keys every pair of the list is what its key has. -/
theorem lookup_of_mem {key : κ} {v : α} {d : List (κ × α)} (hnd : (d.map Prod.fst).Nodup)
    (h : (key, v) ∈ d) : d.lookup key = some v := by
  induction d with
  | nil => exact absurd h List.not_mem_nil
  | cons kv d ih =>
      obtain ⟨hkv, hnd⟩ := List.nodup_cons.mp hnd
      rcases List.mem_cons.mp h with rfl | h
      · exact List.lookup_cons_self
      · have hne : key ≠ kv.1 := by
          rintro rfl
          exact hkv (List.mem_map.mpr ⟨_, h, rfl⟩)
        rw [List.lookup_cons, beq_eq_false_iff_ne.mpr hne]
        exact ih hnd h

/-- Setting what is there already changes nothing. -/
theorem set_of_lookup {key : κ} {v : α} {d : List (κ × α)} (h : d.lookup key = some v) :
    set key v d = d := by
  induction d with
  | nil => cases h
  | cons kv d ih =>
      obtain ⟨k, u⟩ := kv
      by_cases hk : k = key
      · subst hk
        rw [List.lookup_cons_self] at h
        cases h
        simp [set]
      · rw [List.lookup_cons, beq_eq_false_iff_ne.mpr (Ne.symm hk)] at h
        simp only [set, if_neg hk, ih h]

end Assoc

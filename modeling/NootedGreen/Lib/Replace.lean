/-
# `Lib.Replace` — find and replace

`replaceAll find replace xs` walks `xs` once from the left.  Where `find` begins it puts
`replace` and goes on behind the occurrence, so occurrences that overlap an earlier one are
not replaced; elsewhere it keeps the item.  An empty `find` begins nowhere.  The walk counts
down the items of the occurrence it has still to pass, which makes it structural.
-/
import Mathlib.Data.List.Infix

namespace Replace

variable {α : Type} [DecidableEq α]

/-- The walk, `skip` items into an occurrence. -/
def walk (find replace : List α) : Nat → List α → List α
  | _, [] => []
  | skip + 1, _ :: xs => walk find replace skip xs
  | 0, x :: xs =>
      if find ≠ [] ∧ find <+: x :: xs then replace ++ walk find replace (find.length - 1) xs
      else x :: walk find replace 0 xs

/-- Every non-overlapping occurrence, left to right. -/
def replaceAll (find replace xs : List α) : List α := walk find replace 0 xs

variable {find replace : List α}

theorem replaceAll_cons (x : α) (xs : List α) :
    replaceAll find replace (x :: xs) =
      if find ≠ [] ∧ find <+: x :: xs then replace ++ walk find replace (find.length - 1) xs
      else x :: replaceAll find replace xs := rfl

/-- Nothing to find, nothing changed. -/
theorem replaceAll_of_not_infix {xs : List α} (h : ¬ find <:+: xs) :
    replaceAll find replace xs = xs := by
  induction xs with
  | nil => rfl
  | cons x xs ih =>
      have hprefix : ¬ (find ≠ [] ∧ find <+: x :: xs) := fun hp => h hp.2.isInfix
      have htail : ¬ find <:+: xs := fun ht => h (ht.trans (List.suffix_cons x xs).isInfix)
      rw [replaceAll_cons, if_neg hprefix, ih htail]

/-- With a replacement of the same size that differs, an occurrence shows. -/
theorem replaceAll_eq_self_iff (hlen : replace.length = find.length) (hne : replace ≠ find)
    (xs : List α) : replaceAll find replace xs = xs ↔ ¬ find <:+: xs := by
  have hfind : find ≠ [] := by
    intro hnil
    rw [hnil, List.length_nil, List.length_eq_zero_iff] at hlen
    exact hne (hlen.trans hnil.symm)
  refine ⟨?_, replaceAll_of_not_infix⟩
  induction xs with
  | nil =>
      intro _ hinfix
      exact hfind (List.infix_nil.mp hinfix)
  | cons x xs ih =>
      intro heq hinfix
      rw [replaceAll_cons] at heq
      split at heq
      · next hprefix =>
          -- the list begins with `find` and with `replace`
          obtain ⟨rest, hrest⟩ := hprefix.2
          rw [← hrest] at heq
          exact hne (List.append_inj heq hlen).1
      · next hprefix =>
          rcases List.infix_cons_iff.mp hinfix with hhead | htail
          · exact hprefix ⟨hfind, hhead⟩
          · exact ih (List.cons_inj_right x |>.mp heq) htail

theorem walk_length (hlen : replace.length = find.length) (skip : Nat) (xs : List α) :
    (walk find replace skip xs).length = xs.length - skip := by
  induction xs generalizing skip with
  | nil => exact (Nat.zero_sub skip).symm
  | cons x xs ih =>
      cases skip with
      | succ skip =>
          rw [walk, ih, List.length_cons]
          omega
      | zero =>
          rw [walk]
          split
          · next hprefix =>
              have hle := hprefix.2.length_le
              have hpos := List.length_pos_iff.mpr hprefix.1
              rw [List.length_cons] at hle
              rw [List.length_append, ih, hlen, List.length_cons]
              omega
          · rw [List.length_cons, ih, List.length_cons]
            omega

/-- Passing items is dropping them. -/
theorem walk_eq_drop (skip : Nat) (xs : List α) :
    walk find replace skip xs = replaceAll find replace (xs.drop skip) := by
  induction xs generalizing skip with
  | nil => rw [walk, List.drop_nil, replaceAll, walk]
  | cons x xs ih =>
      cases skip with
      | zero => rfl
      | succ skip => rw [walk, ih, List.drop_succ_cons]

theorem replaceAll_append (hfind : find ≠ []) (xs : List α) :
    replaceAll find replace (find ++ xs) = replace ++ replaceAll find replace xs := by
  cases find with
  | nil => exact absurd rfl hfind
  | cons y find =>
      have hprefix : y :: find ≠ [] ∧ y :: find <+: y :: (find ++ xs) :=
        ⟨hfind, List.prefix_append (y :: find) xs⟩
      rw [List.cons_append, replaceAll_cons, if_pos hprefix, walk_eq_drop, List.length_cons,
        Nat.add_sub_cancel, List.drop_left]

theorem replaceAll_pass {x : α} {xs : List α} (h : ¬ find <+: x :: xs) :
    replaceAll find replace (x :: xs) = x :: replaceAll find replace xs := by
  rw [replaceAll_cons, if_neg fun hp => h hp.2]

theorem replaceAll_nil (xs : List α) : replaceAll [] replace xs = xs := by
  induction xs with
  | nil => rfl
  | cons x xs ih => rw [replaceAll_cons, if_neg fun hp => hp.1 rfl, ih]

omit [DecidableEq α] in
/-- The walk as an induction: behind an occurrence, or one item further. -/
theorem scan_induction {motive : List α → Prop} (hfind : find ≠ []) (nil : motive [])
    (found : ∀ xs, motive xs → motive (find ++ xs))
    (pass : ∀ x xs, ¬ find <+: x :: xs → motive xs → motive (x :: xs)) :
    ∀ xs, motive xs := by
  intro xs
  -- on the length, as an occurrence is passed as a whole
  induction hn : xs.length using Nat.strong_induction_on generalizing xs with
  | h n ih =>
      cases xs with
      | nil => exact nil
      | cons x xs =>
          by_cases hprefix : find <+: x :: xs
          · obtain ⟨rest, hrest⟩ := hprefix
            have hpos := List.length_pos_iff.mpr hfind
            have hlen := congrArg List.length hrest
            rw [List.length_append] at hlen
            rw [← hrest]
            exact found rest (ih rest.length (by omega) rest rfl)
          · have hlen : (x :: xs).length = xs.length + 1 := List.length_cons
            exact pass x xs hprefix (ih xs.length (by omega) xs rfl)

/-- A replacement of the same size keeps the size. -/
theorem replaceAll_length (hlen : replace.length = find.length) (xs : List α) :
    (replaceAll find replace xs).length = xs.length :=
  walk_length hlen 0 xs

end Replace

/-
# `Lib.SlotTable` — a table of slots claimed on first use

A fixed number of slots, each with a key; one key means "free".  To find the slot of a
key the table is searched, and when no slot has the key the first free one is claimed.
When none is free either, the key is not tracked.

    locate      the slot and the table, searched or claimed
    touch f     `locate`, and `f` applied to the entry found
    Touched     the three things a `touch` can do

Everything a table keeps is read off `Touched`: claimed slots have different keys
(`Distinct`), and keep them (`Extends`).
-/
import Mathlib.Tactic.Common

/-- Where the key of an entry is, which key is a free slot's, and what a slot just
claimed holds. -/
structure Slots (ε κ : Type) where
  key : ε → κ
  free : κ
  fresh : κ → ε
  key_fresh : ∀ k, key (fresh k) = k

namespace Slots

variable {ε κ : Type} (S : Slots ε κ)

/-! ## Tables -/

def Tracks (k : κ) (t : List ε) : Prop := ∃ (i : Nat) (e : ε), t[i]? = some e ∧ S.key e = k

/-- No slot is free. -/
def Full (t : List ε) : Prop := ∀ e ∈ t, S.key e ≠ S.free

/-- Claimed slots have different keys. -/
def Distinct (t : List ε) : Prop :=
  ∀ (i j : Nat) (e f : ε), t[i]? = some e → t[j]? = some f → S.key e = S.key f →
    S.key e ≠ S.free → i = j

/-- The slots claimed in `t` have the same keys in `t'`. -/
def Extends (t t' : List ε) : Prop :=
  ∀ (i : Nat) (e : ε), t[i]? = some e → S.key e ≠ S.free →
    ∃ e', t'[i]? = some e' ∧ S.key e' = S.key e

/-- What a touch can do: the key's slot was there, a free one was claimed, or there is none. -/
inductive Touched (f : ε → ε) (k : κ) (t : List ε) : List ε → Prop
  | found {i : Nat} {e : ε} (he : t[i]? = some e) (hk : S.key e = k) :
      Touched f k t (t.set i (f e))
  | claimed {i : Nat} {e : ε} (habsent : ¬ S.Tracks k t) (he : t[i]? = some e)
      (hfree : S.key e = S.free) : Touched f k t (t.set i (f (S.fresh k)))
  | full (habsent : ¬ S.Tracks k t) (hfull : S.Full t) : Touched f k t t

variable {S}

theorem Extends.refl (t : List ε) : S.Extends t t := fun _ e he _ => ⟨e, he, rfl⟩

theorem Extends.trans {t t' t'' : List ε} (h : S.Extends t t') (h' : S.Extends t' t'') :
    S.Extends t t'' := by
  intro i e he hfree
  obtain ⟨e', he', hk'⟩ := h i e he hfree
  obtain ⟨e'', he'', hk''⟩ := h' i e' he' (hk' ▸ hfree)
  exact ⟨e'', he'', hk''.trans hk'⟩

theorem Extends.tracks {t t' : List ε} (h : S.Extends t t') {k : κ} (hk : k ≠ S.free)
    (htracks : S.Tracks k t) : S.Tracks k t' := by
  obtain ⟨i, e, he, rfl⟩ := htracks
  obtain ⟨e', he', hkey⟩ := h i e he hk
  exact ⟨i, e', he', hkey⟩

/-! ## What a touch keeps -/

section Keeps

variable {f : ε → ε} {k : κ} {t t' : List ε}

theorem Touched.length (h : S.Touched f k t t') : t'.length = t.length := by
  cases h with
  | found => exact List.length_set
  | claimed => exact List.length_set
  | full => rfl

variable (hf : ∀ e, S.key (f e) = S.key e)

include hf

/-- A slot touched has the key; the others are as they were. -/
theorem Touched.entry (h : S.Touched f k t t') {j : Nat} {e' : ε} (he' : t'[j]? = some e') :
    S.key e' = k ∨ t[j]? = some e' := by
  cases h with
  | found he hk =>
      rw [List.getElem?_set] at he'
      split at he'
      · split at he'
        · obtain rfl := Option.some.inj he'
          exact .inl ((hf _).trans hk)
        · exact absurd he' (by simp)
      · exact .inr he'
  | claimed _ he hfree =>
      rw [List.getElem?_set] at he'
      split at he'
      · split at he'
        · obtain rfl := Option.some.inj he'
          exact .inl ((hf _).trans (S.key_fresh k))
        · exact absurd he' (by simp)
      · exact .inr he'
  | full => exact .inr he'

theorem Touched.full_of_full (hk : k ≠ S.free) (h : S.Touched f k t t') (hfull : S.Full t) :
    S.Full t' := by
  intro e' he'
  obtain ⟨j, hj⟩ := List.mem_iff_getElem?.mp he'
  rcases h.entry hf hj with hkey | hold
  · exact hkey ▸ hk
  · exact hfull e' (List.mem_of_getElem? hold)

/-- Afterwards the key is tracked, or there is no room. -/
theorem Touched.tracks_or_full (h : S.Touched f k t t') : S.Tracks k t' ∨ S.Full t' := by
  cases h with
  | @found i e he hk =>
      have hlt : i < t.length := (List.getElem?_eq_some_iff.mp he).1
      exact .inl ⟨i, f e, List.getElem?_set_self hlt, (hf e).trans hk⟩
  | @claimed i e _ he _ =>
      have hlt : i < t.length := (List.getElem?_eq_some_iff.mp he).1
      exact .inl ⟨i, f (S.fresh k), List.getElem?_set_self hlt, (hf _).trans (S.key_fresh k)⟩
  | full _ hfull => exact .inr hfull

omit hf in
/-- The entry of the key itself: the old one, or a fresh one where there was room. -/
theorem Touched.at_key (h : S.Touched f k t t') (hd : S.Distinct t) (hk : k ≠ S.free) {j : Nat}
    {e' : ε} (he' : t'[j]? = some e') (hkey : S.key e' = k) :
    (∃ e ∈ t, S.key e = k ∧ e' = f e) ∨ (¬ S.Tracks k t ∧ ¬ S.Full t ∧ e' = f (S.fresh k)) := by
  cases h with
  | @found i e he hke =>
      by_cases hij : i = j
      · subst hij
        rw [List.getElem?_set_self (List.getElem?_eq_some_iff.mp he).1] at he'
        exact .inl ⟨e, List.mem_of_getElem? he, hke, (Option.some.inj he').symm⟩
      · rw [List.getElem?_set_ne hij] at he'
        exact absurd (hd i j e e' he he' (hke.trans hkey.symm) (hke ▸ hk)) hij
  | @claimed i e habsent he hfree =>
      by_cases hij : i = j
      · subst hij
        rw [List.getElem?_set_self (List.getElem?_eq_some_iff.mp he).1] at he'
        refine .inr ⟨habsent, fun hfull => ?_, (Option.some.inj he').symm⟩
        exact hfull e (List.mem_of_getElem? he) hfree
      · rw [List.getElem?_set_ne hij] at he'
        exact absurd ⟨j, e', he', hkey⟩ habsent
  | full habsent hfull => exact absurd ⟨j, e', he', hkey⟩ habsent

theorem Touched.extends (h : S.Touched f k t t') : S.Extends t t' := by
  intro j e hj hne
  cases h with
  | @found i e₀ he hk =>
      by_cases hij : i = j
      · subst hij
        obtain rfl := Option.some.inj (he.symm.trans hj)
        have hlt : i < t.length := (List.getElem?_eq_some_iff.mp he).1
        exact ⟨f e₀, List.getElem?_set_self hlt, hf e₀⟩
      · exact ⟨e, (List.getElem?_set_ne hij).trans hj, rfl⟩
  | @claimed i e₀ _ he hfree =>
      have hij : i ≠ j := by
        rintro rfl
        obtain rfl := Option.some.inj (he.symm.trans hj)
        exact hne hfree
      exact ⟨e, (List.getElem?_set_ne hij).trans hj, rfl⟩
  | full => exact ⟨e, hj, rfl⟩

theorem Touched.distinct (h : S.Touched f k t t') (hd : S.Distinct t) : S.Distinct t' := by
  cases h with
  | @found i₀ e₀ he₀ hk =>
      -- replacing an entry by one with its key changes no key
      have hback : ∀ {j : Nat} {e' : ε}, (t.set i₀ (f e₀))[j]? = some e' →
          ∃ e, t[j]? = some e ∧ S.key e = S.key e' := by
        intro j e' hj
        by_cases hij : i₀ = j
        · subst hij
          have hlt : i₀ < t.length := (List.getElem?_eq_some_iff.mp he₀).1
          rw [List.getElem?_set_self hlt] at hj
          obtain rfl := Option.some.inj hj
          exact ⟨e₀, he₀, (hf e₀).symm⟩
        · exact ⟨e', (List.getElem?_set_ne hij).symm.trans hj, rfl⟩
      intro i j e e' hi hj hkey hne
      obtain ⟨a, ha, hka⟩ := hback hi
      obtain ⟨b, hb, hkb⟩ := hback hj
      exact hd i j a b ha hb (hka.trans (hkey.trans hkb.symm)) (hka ▸ hne)
  | @claimed i₀ e₀ habsent he₀ hfree =>
      have hnew : S.key (f (S.fresh k)) = k := (hf _).trans (S.key_fresh k)
      have hlt : i₀ < t.length := (List.getElem?_eq_some_iff.mp he₀).1
      intro i j e e' hi hj hkey hne
      by_cases hii : i₀ = i
      · by_cases hjj : i₀ = j
        · exact hii.symm.trans hjj
        · subst hii
          rw [List.getElem?_set_self hlt] at hi
          rw [List.getElem?_set_ne hjj] at hj
          obtain rfl := Option.some.inj hi
          exact absurd ⟨j, e', hj, hkey.symm.trans hnew⟩ habsent
      · rw [List.getElem?_set_ne hii] at hi
        by_cases hjj : i₀ = j
        · subst hjj
          rw [List.getElem?_set_self hlt] at hj
          obtain rfl := Option.some.inj hj
          exact absurd ⟨i, e, hi, hkey.trans hnew⟩ habsent
        · rw [List.getElem?_set_ne hjj] at hj
          exact hd i j e e' hi hj hkey hne
  | full => exact hd

end Keeps

/-! ## Searching -/

section Search

variable [DecidableEq κ] (S : Slots ε κ)

/-- The slot of a key: the one that has it, else the first free one, claimed. -/
def locate (k : κ) (t : List ε) : Option Nat × List ε :=
  match t.findIdx? fun e => S.key e == k with
  | some i => (some i, t)
  | none =>
      match t.findIdx? fun e => S.key e == S.free with
      | some i => (some i, t.set i (S.fresh k))
      | none => (none, t)

/-- `f` applied to the entry of a key. -/
def touch (f : ε → ε) (k : κ) (t : List ε) : List ε :=
  match S.locate k t with
  | (some i, t) => t.modify i f
  | (none, t) => t

/-- The entry of a key. -/
def lookup (k : κ) (t : List ε) : Option ε := t.find? fun e => S.key e == k

variable {S}

theorem findIdx?_some {p : ε → Bool} {t : List ε} {i : Nat} (h : t.findIdx? p = some i) :
    ∃ e, t[i]? = some e ∧ p e = true := by
  obtain ⟨hlt, hp, -⟩ := List.findIdx?_eq_some_iff_getElem.mp h
  exact ⟨t[i], List.getElem?_eq_getElem hlt, hp⟩

theorem not_tracks {k : κ} {t : List ε} (h : t.findIdx? (fun e => S.key e == k) = none) :
    ¬ S.Tracks k t := by
  rintro ⟨i, e, he, hk⟩
  have hne := List.findIdx?_eq_none_iff.mp h e (List.mem_of_getElem? he)
  exact absurd (beq_iff_eq.mpr hk) (by rw [hne]; exact Bool.false_ne_true)

/-- The entry a search ends at, for a table as it is. -/
theorem lookup_eq (k : κ) (t : List ε) :
    S.lookup k t = (t.findIdx? fun e => S.key e == k).bind (t[·]?) :=
  List.find?_eq_bind_findIdx?_getElem?

theorem lookup_none {k : κ} {t : List ε} (h : ¬ S.Tracks k t) : S.lookup k t = none := by
  refine List.find?_eq_none.mpr fun e he hk => h ?_
  obtain ⟨i, hi⟩ := List.mem_iff_getElem?.mp he
  exact ⟨i, e, hi, beq_iff_eq.mp hk⟩

/-- With different keys, the entry of a key is the one that has it. -/
theorem Distinct.lookup {k : κ} {t : List ε} (h : S.Distinct t) (hk : k ≠ S.free) {i : Nat} {e : ε}
    (he : t[i]? = some e) (hkey : S.key e = k) : S.lookup k t = some e := by
  cases hfind : S.lookup k t with
  | none =>
      have hne := List.find?_eq_none.mp hfind e (List.mem_of_getElem? he)
      exact absurd (beq_iff_eq.mpr hkey) hne
  | some e' =>
      have hkey' : S.key e' = k := by simpa using List.find?_some hfind
      obtain ⟨j, hj⟩ := List.mem_iff_getElem?.mp (List.mem_of_find?_eq_some hfind)
      obtain rfl := h i j e e' he hj (hkey.trans hkey'.symm) (hkey ▸ hk)
      exact hj.symm.trans he

theorem modify_of_getElem? {t : List ε} {i : Nat} {e : ε} (he : t[i]? = some e) (f : ε → ε) :
    t.modify i f = t.set i (f e) := by
  have hlt : i < t.length := (List.getElem?_eq_some_iff.mp he).1
  refine List.ext_getElem? fun j => ?_
  rw [List.getElem?_modify]
  by_cases hij : i = j
  · subst hij
    simp only [List.getElem?_set_self hlt, he, if_true, Option.map_eq_map, Option.map_some]
  · simp only [List.getElem?_set_ne hij, if_neg hij, Option.map_eq_map, Option.map_id']

theorem touched (S : Slots ε κ) (f : ε → ε) (k : κ) (t : List ε) :
    S.Touched f k t (S.touch f k t) := by
  cases hkey : t.findIdx? fun e => S.key e == k with
  | some i =>
      obtain ⟨e, he, hk⟩ := findIdx?_some hkey
      simp only [touch, locate, hkey]
      rw [modify_of_getElem? he]
      exact .found he (beq_iff_eq.mp hk)
  | none =>
      cases hfree : t.findIdx? fun e => S.key e == S.free with
      | some i =>
          obtain ⟨e, he, hk⟩ := findIdx?_some hfree
          have hlt : i < t.length := (List.getElem?_eq_some_iff.mp he).1
          simp only [touch, locate, hkey, hfree]
          rw [modify_of_getElem? (List.getElem?_set_self hlt), List.set_set]
          exact .claimed (not_tracks hkey) he (beq_iff_eq.mp hk)
      | none =>
          simp only [touch, locate, hkey, hfree]
          refine .full (not_tracks hkey) fun e he hk => ?_
          have hne := List.findIdx?_eq_none_iff.mp hfree e he
          exact absurd (beq_iff_eq.mpr hk) (by rw [hne]; exact Bool.false_ne_true)

/-- The entry `locate` points at is the key's, or one just claimed. -/
theorem locate_entry (S : Slots ε κ) (k : κ) (t : List ε) :
    ((S.locate k t).1.bind fun i => (S.locate k t).2[i]?) = S.lookup k t ∨
      S.lookup k t = none ∧
        ((S.locate k t).1.bind fun i => (S.locate k t).2[i]?) = some (S.fresh k) := by
  rw [lookup_eq]
  cases hkey : t.findIdx? fun e => S.key e == k with
  | some i =>
      left
      simp only [locate, hkey]
  | none =>
      cases hfree : t.findIdx? fun e => S.key e == S.free with
      | some i =>
          obtain ⟨e, he, -⟩ := findIdx?_some hfree
          right
          simp only [locate, hkey, hfree, Option.bind_none, Option.bind_some, true_and]
          exact List.getElem?_set_self (List.getElem?_eq_some_iff.mp he).1
      | none =>
          left
          simp only [locate, hkey, hfree, Option.bind_none]

end Search

end Slots

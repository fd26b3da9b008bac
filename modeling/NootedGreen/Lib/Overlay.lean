/-
# `Lib.Overlay` — nested tables, and laying one over another

A table is a list of keys with values; a value may hold a table of its own, and
`children` says which do.  Two tables are compared by what stands at every path
(`observe`): a value without children, an inner table, or nothing.  The order of the
keys does not show.

Laying `D` over `P` key by key, descending where both hold a table, gives `merged`.
Setting the keys of `D` in `P` gives the same only where nothing of `P` is lost below
a table that both hold (`setAll_merged_iff`).
-/
import NootedGreen.Lib.Assoc

namespace Overlay

variable {κ β : Type} [DecidableEq κ]

/-- What can stand at a path. -/
inductive Node (β : Type) where
  | leaf (value : β)
  | inner
  deriving DecidableEq, Repr

variable (children : β → Option (List (κ × β)))

def observe (d : List (κ × β)) : List κ → Option (Node β)
  | [] => some .inner
  | key :: path =>
      match d.lookup key with
      | none => none
      | some value =>
          match children value with
          | some d => observe d path
          | none => if path.isEmpty then some (.leaf value) else none

/-- The recursive overlay of `P` with `D`, path by path. -/
def merged (P D : List (κ × β)) : List κ → Option (Node β)
  | [] => some .inner
  | key :: path =>
      match D.lookup key with
      | none => observe children P (key :: path)
      | some value =>
          match (P.lookup key).bind children, children value with
          | some P, some D => merged P D path
          | _, _ => observe children D (key :: path)

/-- Wherever both hold a table, `D` mentions every key that `P` has there. -/
def Covers (P D : List (κ × β)) : Prop :=
  ∀ path key, observe children P path = some .inner → observe children D path = some .inner →
    observe children P (path ++ [key]) ≠ none → observe children D (path ++ [key]) ≠ none

/-! ## What an observation tells -/

theorem observe_none {d : List (κ × β)} {key : κ} (h : d.lookup key = none) (path : List κ) :
    observe children d (key :: path) = none := by
  unfold observe
  rw [h]

theorem observe_table {d d' : List (κ × β)} {key : κ} {value : β}
    (h : d.lookup key = some value) (hd : children value = some d') (path : List κ) :
    observe children d (key :: path) = observe children d' path := by
  rw [observe, h]
  simp only [hd]

/-- Only what the key holds matters below it. -/
theorem observe_congr {d d' : List (κ × β)} {key : κ} (h : d.lookup key = d'.lookup key)
    (path : List κ) : observe children d (key :: path) = observe children d' (key :: path) := by
  rw [observe, observe, h]

theorem observe_leaf {d : List (κ × β)} {key : κ} {value : β}
    (h : d.lookup key = some value) (hd : children value = none) :
    observe children d [key] = some (.leaf value) := by
  rw [observe, h]
  simp only [hd]
  rfl

theorem observe_key_ne_none {d : List (κ × β)} {key : κ} :
    observe children d [key] ≠ none ↔ d.lookup key ≠ none := by
  cases hkey : d.lookup key with
  | none => exact iff_of_false (fun h => h (observe_none children hkey [])) (fun h => h rfl)
  | some value =>
      have hsome : observe children d [key] ≠ none := by
        cases hd : children value with
        | none =>
            rw [observe_leaf children hkey hd]
            exact Option.some_ne_none _
        | some d' =>
            rw [observe_table children hkey hd]
            exact Option.some_ne_none _
      exact iff_of_true hsome (Option.some_ne_none _)

/-- An inner table below a key is a table that the key holds. -/
theorem table_of_observe_inner {d : List (κ × β)} {key : κ} {path : List κ}
    (h : observe children d (key :: path) = some .inner) :
    ∃ value d', d.lookup key = some value ∧ children value = some d' ∧
      observe children d' path = some .inner := by
  rw [observe] at h
  cases hkey : d.lookup key with
  | none => rw [hkey] at h; cases h
  | some value =>
      rw [hkey] at h
      cases hd : children value with
      | none =>
          simp only [hd] at h
          split at h <;> cases h
      | some d' =>
          simp only [hd] at h
          exact ⟨value, d', rfl, hd, h⟩

/-! ## The overlay and its two tables -/

theorem merged_table {P D P' D' : List (κ × β)} {key : κ} {u v : β} (hP : P.lookup key = some u)
    (hP' : children u = some P') (hD : D.lookup key = some v) (hD' : children v = some D')
    (path : List κ) : merged children P D (key :: path) = merged children P' D' path := by
  rw [merged, hD]
  simp only [hP, Option.bind_some, hP', hD']

theorem merged_unmentioned {P D : List (κ × β)} {key : κ} (hD : D.lookup key = none)
    (path : List κ) : merged children P D (key :: path) = observe children P (key :: path) := by
  rw [merged, hD]

/-- Where not both hold a table, what `D` mentions is what it holds. -/
theorem merged_mentioned {P D : List (κ × β)} {key : κ} {v : β} (hD : D.lookup key = some v)
    (h : (P.lookup key).bind children = none ∨ children v = none) (path : List κ) :
    merged children P D (key :: path) = observe children D (key :: path) := by
  rw [merged, hD]
  cases hP : (P.lookup key).bind children with
  | none => rfl
  | some P' =>
      have hv : children v = none := h.resolve_left (fun hnone => by rw [hnone] at hP; cases hP)
      simp only [hv]

/-- Covering at a path below a key is covering at the rest of it, in the tables there. -/
theorem covers_cons {P D P' D' : List (κ × β)} {step : κ} {u v : β}
    (hu : P.lookup step = some u) (hP' : children u = some P') (hv : D.lookup step = some v)
    (hD' : children v = some D') (path : List κ) (key : κ) :
    (observe children P (step :: path) = some .inner →
        observe children D (step :: path) = some .inner →
        observe children P (step :: path ++ [key]) ≠ none →
        observe children D (step :: path ++ [key]) ≠ none) ↔
      (observe children P' path = some .inner → observe children D' path = some .inner →
        observe children P' (path ++ [key]) ≠ none →
        observe children D' (path ++ [key]) ≠ none) := by
  rw [List.cons_append, observe_table children hu hP', observe_table children hv hD',
    observe_table children hu hP', observe_table children hv hD']

/-- `D` alone is the overlay exactly if it covers `P`. -/
theorem merged_eq_iff (P D : List (κ × β)) :
    (∀ path, merged children P D path = observe children D path) ↔ Covers children P D := by
  constructor
  · intro h path key
    -- down the path, both tables at once
    induction path generalizing P D with
    | nil =>
        intro _ _ hP hD
        have hnone := (not_congr (observe_key_ne_none children)).mp (fun hne => hne hD)
        rw [not_not] at hnone
        have hkey := h [key]
        rw [merged_unmentioned children hnone, observe_none children hnone] at hkey
        exact hP hkey
    | cons step path ih =>
        intro hPi hDi
        obtain ⟨u, P', hu, hP', _⟩ := table_of_observe_inner children hPi
        obtain ⟨v, D', hv, hD', _⟩ := table_of_observe_inner children hDi
        refine (covers_cons children hu hP' hv hD' path key).mpr (ih P' D' (fun rest => ?_)) hPi hDi
        rw [← merged_table children hu hP' hv hD', ← observe_table children hv hD']
        exact h (step :: rest)
  · intro hcov path
    induction path generalizing P D with
    | nil => rfl
    | cons key path ih =>
        cases hv : D.lookup key with
        | none =>
            have hP : P.lookup key = none := by
              by_contra hP
              exact (observe_key_ne_none children).mp
                (hcov [] key rfl rfl ((observe_key_ne_none children).mpr hP)) hv
            rw [merged_unmentioned children hv, observe_none children hv,
              observe_none children hP]
        | some v =>
            cases hP : (P.lookup key).bind children with
            | none => exact merged_mentioned children hv (Or.inl hP) path
            | some P' =>
                cases hD' : children v with
                | none => exact merged_mentioned children hv (Or.inr hD') path
                | some D' =>
                    obtain ⟨u, hu, hP'⟩ := Option.bind_eq_some_iff.mp hP
                    rw [merged_table children hu hP' hv hD', observe_table children hv hD']
                    exact ih P' D' (fun rest k =>
                      (covers_cons children hu hP' hv hD' rest k).mp (hcov (key :: rest) k))

/-! ## Setting the keys one by one -/

/-- As `Covers`, below the top. -/
def CoversBelow (P D : List (κ × β)) : Prop :=
  ∀ path key, path ≠ [] → observe children P path = some .inner →
    observe children D path = some .inner →
    observe children P (path ++ [key]) ≠ none → observe children D (path ++ [key]) ≠ none

theorem coversBelow_iff (P D : List (κ × β)) : CoversBelow children P D ↔
    ∀ key u P' v D', P.lookup key = some u → children u = some P' → D.lookup key = some v →
      children v = some D' → Covers children P' D' := by
  constructor
  · intro h key u P' v D' hu hP' hv hD' path k
    exact (covers_cons children hu hP' hv hD' path k).mp
      (h (key :: path) k (List.cons_ne_nil _ _))
  · intro h path key hne hPi hDi
    cases path with
    | nil => exact absurd rfl hne
    | cons step path =>
        obtain ⟨u, P', hu, hP', _⟩ := table_of_observe_inner children hPi
        obtain ⟨v, D', hv, hD', _⟩ := table_of_observe_inner children hDi
        exact (covers_cons children hu hP' hv hD' path key).mpr
          (h step u P' v D' hu hP' hv hD' path key) hPi hDi

/-- Setting the keys of `D` in `P` is the overlay exactly if `D` covers `P` below every
key at which both hold a table. -/
theorem setAll_merged_iff (P : List (κ × β)) {D : List (κ × β)} (hD : (D.map Prod.fst).Nodup) :
    (∀ path, observe children (Assoc.setAll D P) path = merged children P D path) ↔
      CoversBelow children P D := by
  rw [coversBelow_iff]
  constructor
  · intro h key u P' v D' hu hP' hv hD'
    rw [← merged_eq_iff]
    intro path
    have hkey : (Assoc.setAll D P).lookup key = some v := Assoc.lookup_setAll_of_lookup hD hv P
    rw [← merged_table children hu hP' hv hD', ← observe_table children hkey hD']
    exact (h (key :: path)).symm
  · intro h path
    cases path with
    | nil => rfl
    | cons key path =>
        cases hv : D.lookup key with
        | none =>
            have hkey : key ∉ D.map Prod.fst := Assoc.not_mem_of_lookup hv
            rw [merged_unmentioned children hv]
            exact observe_congr children (Assoc.lookup_setAll_other hkey P) path
        | some v =>
            have hkey : (Assoc.setAll D P).lookup key = some v :=
              Assoc.lookup_setAll_of_lookup hD hv P
            cases hP : (P.lookup key).bind children with
            | none =>
                rw [merged_mentioned children hv (Or.inl hP)]
                exact observe_congr children (hkey.trans hv.symm) path
            | some P' =>
                cases hD' : children v with
                | none =>
                    rw [merged_mentioned children hv (Or.inr hD')]
                    exact observe_congr children (hkey.trans hv.symm) path
                | some D' =>
                    obtain ⟨u, hu, hP'⟩ := Option.bind_eq_some_iff.mp hP
                    rw [observe_table children hkey hD', merged_table children hu hP' hv hD']
                    exact ((merged_eq_iff children P' D').mpr
                      (h key u P' v D' hu hP' hv hD') path).symm

/-! ## Tables that both hold -/

/-- Wherever both hold a table, that of `D` is not empty. -/
def FilledWhereShared (P D : List (κ × β)) : Prop :=
  ∀ path, observe children P path = some .inner → observe children D path = some .inner →
    ∃ key, observe children D (path ++ [key]) ≠ none

omit [DecidableEq κ] in
theorem ne_nil_iff_mem {d : List (κ × β)} : d ≠ [] ↔ ∃ key, key ∈ d.map Prod.fst := by
  constructor
  · intro h
    obtain ⟨kv, hkv⟩ := List.exists_mem_of_ne_nil d h
    exact ⟨kv.1, List.mem_map_of_mem hkv⟩
  · rintro ⟨key, hkey⟩ rfl
    exact List.not_mem_nil hkey

theorem ne_nil_iff_observe {d : List (κ × β)} :
    d ≠ [] ↔ ∃ key, observe children d [key] ≠ none := by
  rw [ne_nil_iff_mem]
  refine exists_congr fun key => ?_
  rw [observe_key_ne_none]
  exact ⟨fun hmem hnone => Assoc.not_mem_of_lookup hnone hmem, fun h => by
    obtain ⟨v, hv⟩ := Option.ne_none_iff_exists'.mp h
    exact List.mem_map_of_mem (Assoc.mem_of_lookup hv)⟩

/-- At the top, and below every key at which both hold a table. -/
theorem filledWhereShared_iff (P D : List (κ × β)) : FilledWhereShared children P D ↔
    D ≠ [] ∧ ∀ key u P' v D', P.lookup key = some u → children u = some P' →
      D.lookup key = some v → children v = some D' → FilledWhereShared children P' D' := by
  constructor
  · intro h
    refine ⟨(ne_nil_iff_observe children).mpr (h [] rfl rfl), ?_⟩
    intro key u P' v D' hu hP' hv hD' path hPi hDi
    obtain ⟨k, hk⟩ := h (key :: path) ((observe_table children hu hP' path).trans hPi)
      ((observe_table children hv hD' path).trans hDi)
    rw [List.cons_append, observe_table children hv hD'] at hk
    exact ⟨k, hk⟩
  · rintro ⟨htop, hbelow⟩ path hPi hDi
    cases path with
    | nil => exact (ne_nil_iff_observe children).mp htop
    | cons key path =>
        obtain ⟨u, P', hu, hP', hPi⟩ := table_of_observe_inner children hPi
        obtain ⟨v, D', hv, hD', hDi⟩ := table_of_observe_inner children hDi
        obtain ⟨k, hk⟩ := hbelow key u P' v D' hu hP' hv hD' path hPi hDi
        refine ⟨k, ?_⟩
        rw [List.cons_append, observe_table children hv hD']
        exact hk

end Overlay

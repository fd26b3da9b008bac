/-
# `Platform.RecursiveMerge` — `MergeDictionaryIntoDictionary` at any depth

The recursive merge keeps what only the target has, descends where both have a
dictionary, and takes the source's value elsewhere (`Overlay.merged`).  Its result starts
as `false` and is set by each entry, so

    an empty source                       returns false, with nothing gone wrong
    an empty dictionary inside the source,
    where the target has one too          ends the loop: the entries behind it are lost

and nothing else goes wrong (`merges_iff`): the merge does what it is for exactly if the
source is not empty wherever both hold a dictionary.

A merge that has succeeded can be repeated without effect, although the repetition may
itself return `false`: a dictionary that was new to the target is merged into itself the
second time, and breaks off if it is empty.
-/
import NootedGreen.Platform.MergeNub

namespace NootedGreen

open Overlay

/-- `MergeDictionaryIntoDictionary`. -/
def mergeDictionaryIntoDictionary (parentSource parentTarget : OSDictionary) :
    Bool × OSDictionary :=
  mergeEntries parentSource false parentTarget

/-! ## One entry -/

/-- What an entry leaves at its key; `none` where the loop breaks. -/
def mergeValue (obj : OSObject) (old : Option OSObject) : Option OSObject :=
  match obj.dictionary?, old.bind OSObject.dictionary? with
  | some childSource, some childTarget =>
      let (result, copy) := mergeEntries childSource false childTarget
      if result then some (.dictionary copy) else none
  | _, _ => some obj

theorem mergeValue_leaf {obj : OSObject} {old : Option OSObject}
    (h : old.bind OSObject.dictionary? = none ∨ obj.dictionary? = none) :
    mergeValue obj old = some obj := by
  rw [mergeValue]
  rcases h with h | h
  · rw [h]
    cases obj.dictionary? <;> rfl
  · rw [h]

theorem mergeValue_dictionary {obj : OSObject} {old : Option OSObject}
    {childSource childTarget : OSDictionary} (hsource : obj.dictionary? = some childSource)
    (htarget : old.bind OSObject.dictionary? = some childTarget) :
    mergeValue obj old =
      if (mergeEntries childSource false childTarget).1 = true
        then some (.dictionary (mergeEntries childSource false childTarget).2) else none := by
  rw [mergeValue, hsource, htarget]

theorem mergeEntry_eq (key : String) (obj : OSObject) (target : OSDictionary) :
    mergeEntry (key, obj) target =
      match mergeValue obj (target.lookup key) with
      | some value => (true, Assoc.set key value target)
      | none => (false, target) := by
  cases obj with
  | dictionary child =>
      rw [mergeEntry]
      cases htarget : (target.lookup key).bind OSObject.dictionary? with
      | none => rw [mergeValue_leaf (.inl htarget)]
      | some childTarget =>
          rw [mergeValue_dictionary rfl htarget]
          rcases hmerge : mergeEntries child false childTarget with ⟨result, copy⟩
          cases result <;> simp only [hmerge, Bool.false_eq_true, if_false, if_true]
  | number _ _ | boolean _ | string _ | data _ =>
      rw [mergeEntry_leaf rfl, mergeValue_leaf (.inr rfl)]

/-! ## The loop -/

theorem mergeEntries_cons (key : String) (obj : OSObject) (rest : OSDictionary) (result : Bool)
    (target : OSDictionary) :
    mergeEntries ((key, obj) :: rest) result target =
      match mergeValue obj (target.lookup key) with
      | some value => mergeEntries rest true (Assoc.set key value target)
      | none => (false, target) := by
  rw [mergeEntries, mergeEntry_eq]
  cases mergeValue obj (target.lookup key) <;> rfl

theorem key_ne_of_mem {key : String} {rest : OSDictionary} (hkey : key ∉ rest.map Prod.fst)
    {kv : String × OSObject} (hkv : kv ∈ rest) : kv.1 ≠ key := by
  rintro rfl
  exact hkey (List.mem_map_of_mem hkv)

/-- The loop runs through exactly if no entry breaks; each looks at the target as it was. -/
theorem mergeEntries_succeeds_iff {source : OSDictionary} (hnd : (source.map Prod.fst).Nodup)
    (result : Bool) (target : OSDictionary) :
    (mergeEntries source result target).1 = true ↔ (source = [] → result = true) ∧
      ∀ kv ∈ source, mergeValue kv.2 (target.lookup kv.1) ≠ none := by
  induction source generalizing result target with
  | nil =>
      rw [mergeEntries]
      exact ⟨fun h => ⟨fun _ => h, fun kv hkv => absurd hkv List.not_mem_nil⟩, fun h => h.1 rfl⟩
  | cons kv rest ih =>
      obtain ⟨key, obj⟩ := kv
      rw [List.map_cons, List.nodup_cons] at hnd
      rw [mergeEntries_cons, List.forall_mem_cons]
      cases hvalue : mergeValue obj (target.lookup key) with
      | none => exact iff_of_false Bool.false_ne_true fun h => h.2.1 rfl
      | some value =>
          -- setting this key is nothing to the entries behind it
          have hrest : ∀ kv ∈ rest, (Assoc.set key value target).lookup kv.1 =
              target.lookup kv.1 := by
            intro kv hkv
            exact Assoc.lookup_set_other (key_ne_of_mem hnd.1 hkv) value target
          show (mergeEntries rest true _).1 = true ↔ _
          rw [ih hnd.2]
          constructor
          · rintro ⟨-, h⟩
            refine ⟨fun hnil => absurd hnil (List.cons_ne_nil _ _), Option.some_ne_none value,
              fun kv hkv => ?_⟩
            rw [← hrest kv hkv]
            exact h kv hkv
          · rintro ⟨-, -, h⟩
            refine ⟨fun _ => rfl, fun kv hkv => ?_⟩
            rw [hrest kv hkv]
            exact h kv hkv

/-- Keys that the source does not mention are left alone, whether the loop breaks or not. -/
theorem mergeEntries_lookup_other {source : OSDictionary} {key : String}
    (hkey : key ∉ source.map Prod.fst) (result : Bool) (target : OSDictionary) :
    (mergeEntries source result target).2.lookup key = target.lookup key := by
  induction source generalizing result target with
  | nil => rw [mergeEntries]
  | cons kv rest ih =>
      obtain ⟨k, obj⟩ := kv
      rw [List.map_cons, List.mem_cons, not_or] at hkey
      rw [mergeEntries_cons]
      cases mergeValue obj (target.lookup k) with
      | none => rfl
      | some value => exact (ih hkey.2 true _).trans (Assoc.lookup_set_other hkey.1 value target)

/-- A loop that runs through leaves at each key of the source what its entry makes of it. -/
theorem mergeEntries_lookup {source : OSDictionary} (hnd : (source.map Prod.fst).Nodup)
    {result : Bool} {target : OSDictionary} (h : (mergeEntries source result target).1 = true) :
    ∀ kv ∈ source, (mergeEntries source result target).2.lookup kv.1 =
      mergeValue kv.2 (target.lookup kv.1) := by
  induction source generalizing result target with
  | nil => exact fun kv hkv => absurd hkv List.not_mem_nil
  | cons kv rest ih =>
      obtain ⟨key, obj⟩ := kv
      rw [List.map_cons, List.nodup_cons] at hnd
      rw [mergeEntries_cons] at h ⊢
      cases hvalue : mergeValue obj (target.lookup key) with
      | none =>
          rw [hvalue] at h
          exact absurd h Bool.false_ne_true
      | some value =>
          rw [hvalue] at h
          refine List.forall_mem_cons.mpr ⟨?_, fun kv hkv => ?_⟩
          · show (mergeEntries rest true _).2.lookup key = _
            rw [mergeEntries_lookup_other hnd.1, Assoc.lookup_set_same, hvalue]
          · show (mergeEntries rest true _).2.lookup kv.1 = _
            rw [ih hnd.2 h kv hkv, Assoc.lookup_set_other (key_ne_of_mem hnd.1 hkv)]

/-- A source whose entries find their values in place, or break, changes nothing. -/
theorem mergeEntries_fixed {source : OSDictionary} (result : Bool) {target : OSDictionary}
    (h : ∀ kv ∈ source, mergeValue kv.2 (target.lookup kv.1) = none ∨
      mergeValue kv.2 (target.lookup kv.1) = target.lookup kv.1) :
    (mergeEntries source result target).2 = target := by
  induction source generalizing result with
  | nil => rw [mergeEntries]
  | cons kv rest ih =>
      obtain ⟨key, obj⟩ := kv
      obtain ⟨hkey, hrest⟩ := List.forall_mem_cons.mp h
      rw [mergeEntries_cons]
      cases hvalue : mergeValue obj (target.lookup key) with
      | none => rfl
      | some value =>
          have hheld : target.lookup key = some value := by
            rw [hvalue] at hkey
            exact (hkey.resolve_left (Option.some_ne_none value)).symm
          show (mergeEntries rest true _).2 = target
          rw [Assoc.set_of_lookup hheld]
          exact ih true hrest

/-! ## Down the dictionaries -/

theorem sizeOf_child_lt {source child : OSDictionary} {kv : String × OSObject} (hkv : kv ∈ source)
    (hchild : kv.2.dictionary? = some child) : sizeOf child < sizeOf source := by
  obtain ⟨key, obj⟩ := kv
  cases obj with
  | dictionary entries =>
      cases hchild
      have hlt := List.sizeOf_lt_of_mem hkv
      simp only [Prod.mk.sizeOf_spec, OSObject.dictionary.sizeOf_spec] at hlt
      omega
  | number _ _ | boolean _ | string _ | data _ => cases hchild

theorem EntriesDistinct.child {source child : OSDictionary} (h : EntriesDistinct source)
    {kv : String × OSObject} (hkv : kv ∈ source) (hchild : kv.2.dictionary? = some child) :
    EntriesDistinct child := by
  have hdistinct := h.of_mem hkv
  obtain ⟨key, obj⟩ := kv
  cases obj with
  | dictionary entries =>
      cases hchild
      rwa [OSObject.DistinctKeys] at hdistinct
  | number _ _ | boolean _ | string _ | data _ => cases hchild

/-- An entry breaks exactly if it is a dictionary whose merge into the target's fails. -/
theorem mergeValue_ne_none_iff (obj : OSObject) (old : Option OSObject) :
    mergeValue obj old ≠ none ↔ ∀ childSource childTarget, obj.dictionary? = some childSource →
      old.bind OSObject.dictionary? = some childTarget →
        (mergeEntries childSource false childTarget).1 = true := by
  cases hsource : obj.dictionary? with
  | none =>
      rw [mergeValue_leaf (.inr hsource)]
      exact iff_of_true (Option.some_ne_none obj) fun _ _ h => by cases h
  | some childSource =>
      cases htarget : old.bind OSObject.dictionary? with
      | none =>
          rw [mergeValue_leaf (.inl htarget)]
          exact iff_of_true (Option.some_ne_none obj) fun _ _ _ h => by cases h
      | some childTarget =>
          rw [mergeValue_dictionary hsource htarget]
          constructor
          · rintro h _ _ ⟨⟩ ⟨⟩
            by_contra hfalse
            exact h (if_neg hfalse)
          · intro h
            rw [if_pos (h _ _ rfl rfl)]
            exact Option.some_ne_none _

/-- The merge succeeds exactly if the source is filled wherever both hold a dictionary. -/
theorem mergeEntries_succeeds_iff_filled {source : OSDictionary}
    (hdistinct : EntriesDistinct source) (target : OSDictionary) :
    (mergeEntries source false target).1 = true ↔
      FilledWhereShared OSObject.dictionary? target source := by
  induction hn : sizeOf source using Nat.strongRecOn generalizing source target with
  | ind n ih =>
      subst hn
      rw [mergeEntries_succeeds_iff hdistinct.nodup, filledWhereShared_iff]
      refine and_congr ⟨fun h hnil => Bool.false_ne_true (h hnil), fun h hnil => absurd hnil h⟩ ?_
      constructor
      · intro h key u P v D hu hP hv hD
        have hkv := Assoc.mem_of_lookup hv
        have hsize := sizeOf_child_lt hkv hD
        rw [← ih _ hsize (hdistinct.child hkv hD) P rfl]
        refine (mergeValue_ne_none_iff _ _).mp (h (key, v) hkv) D P hD ?_
        rw [hu]
        exact hP
      · intro h kv hkv
        rw [mergeValue_ne_none_iff]
        intro D P hD hP
        obtain ⟨u, hu, hP⟩ := Option.bind_eq_some_iff.mp hP
        rw [ih _ (sizeOf_child_lt hkv hD) (hdistinct.child hkv hD) P rfl]
        exact h kv.1 u P kv.2 D hu hP (Assoc.lookup_of_mem hdistinct.nodup hkv) hD

/-- A merge that succeeds leaves the overlay. -/
theorem observe_mergeEntries {source : OSDictionary} (hdistinct : EntriesDistinct source)
    {target : OSDictionary} {result : Bool}
    (h : (mergeEntries source result target).1 = true) (path : List String) :
    observe OSObject.dictionary? (mergeEntries source result target).2 path =
      Overlay.merged OSObject.dictionary? target source path := by
  induction path generalizing source target result with
  | nil => rfl
  | cons key path ih =>
      cases hv : source.lookup key with
      | none =>
          rw [merged_unmentioned _ hv]
          exact observe_congr _ (mergeEntries_lookup_other (Assoc.not_mem_of_lookup hv) _ _) path
      | some v =>
          have hkv := Assoc.mem_of_lookup hv
          have hlookup := mergeEntries_lookup hdistinct.nodup h _ hkv
          by_cases hleaf : (target.lookup key).bind OSObject.dictionary? = none ∨
              v.dictionary? = none
          · rw [mergeValue_leaf hleaf] at hlookup
            rw [merged_mentioned _ hv hleaf]
            exact observe_congr _ (hlookup.trans hv.symm) path
          · push Not at hleaf
            obtain ⟨P, hP⟩ := Option.ne_none_iff_exists'.mp hleaf.1
            obtain ⟨D, hD⟩ := Option.ne_none_iff_exists'.mp hleaf.2
            obtain ⟨u, hu, hu'⟩ := Option.bind_eq_some_iff.mp hP
            have hchild : (mergeEntries D false P).1 = true := by
              refine (mergeValue_ne_none_iff v (target.lookup key)).mp ?_ D P hD hP
              exact ((mergeEntries_succeeds_iff hdistinct.nodup _ _).mp h).2 _ hkv
            rw [mergeValue_dictionary hD hP, if_pos hchild] at hlookup
            rw [merged_table _ hu hu' hv hD, observe_table _ hlookup rfl]
            exact ih (hdistinct.child hkv hD) hchild

/-! ## A second time -/

/-- What an entry has left, it finds in place the next time, unless it breaks. -/
theorem mergeValue_again {obj : OSObject} {old : Option OSObject} {value : OSObject}
    (hobj : ∀ child, obj.dictionary? = some child →
      EntriesDistinct child ∧ ∀ target, (mergeEntries child false target).1 = true →
        (mergeEntries child false (mergeEntries child false target).2).2 =
          (mergeEntries child false target).2)
    (h : mergeValue obj old = some value) :
    mergeValue obj (some value) = none ∨ mergeValue obj (some value) = some value := by
  cases hsource : obj.dictionary? with
  | none =>
      rw [mergeValue_leaf (.inr hsource)] at h ⊢
      exact .inr h
  | some child =>
      obtain ⟨hdistinct, hagain⟩ := hobj child hsource
      -- the dictionary that is there now, and that it is merged into without effect
      obtain ⟨held, rfl, hfixed⟩ : ∃ held, value = .dictionary held ∧
          (mergeEntries child false held).2 = held := by
        cases htarget : old.bind OSObject.dictionary? with
        | none =>
            rw [mergeValue_leaf (.inl htarget)] at h
            cases h
            cases obj with
            | dictionary entries =>
                cases hsource
                exact ⟨child, rfl, mergeEntries_same child false child hdistinct
                  fun kv hkv => Assoc.lookup_of_mem hdistinct.nodup hkv⟩
            | number _ _ | boolean _ | string _ | data _ => cases hsource
        | some childTarget =>
            rw [mergeValue_dictionary hsource htarget] at h
            split at h
            · next hsucc =>
                cases h
                exact ⟨_, rfl, hagain childTarget hsucc⟩
            · cases h
      have hheld : (some (OSObject.dictionary held)).bind OSObject.dictionary? = some held := rfl
      rw [mergeValue_dictionary hsource hheld, hfixed]
      split
      · exact .inr rfl
      · exact .inl rfl

/-- Merging the same source again changes nothing. -/
theorem mergeEntries_again {source : OSDictionary} (hdistinct : EntriesDistinct source)
    {target : OSDictionary} (h : (mergeEntries source false target).1 = true) :
    (mergeEntries source false (mergeEntries source false target).2).2 =
      (mergeEntries source false target).2 := by
  induction hn : sizeOf source using Nat.strongRecOn generalizing source target with
  | ind n ih =>
      subst hn
      refine mergeEntries_fixed false fun kv hkv => ?_
      have hlookup := mergeEntries_lookup hdistinct.nodup h kv hkv
      have hsome := ((mergeEntries_succeeds_iff hdistinct.nodup _ _).mp h).2 kv hkv
      obtain ⟨value, hvalue⟩ := Option.ne_none_iff_exists'.mp hsome
      rw [hlookup, hvalue]
      refine mergeValue_again (fun child hchild => ?_) hvalue
      have hbelow := hdistinct.child hkv hchild
      exact ⟨hbelow, fun _ hsucc => ih _ (sizeOf_child_lt hkv hchild) hbelow hsucc rfl⟩

/-! ## What the merge is for -/

/-- `merge source target` succeeds, leaves the overlay, and leaves it at that when it is
repeated. -/
structure MergesInto (merge : OSDictionary → OSDictionary → Bool × OSDictionary)
    (source target : OSDictionary) : Prop where
  succeeds : (merge source target).1 = true
  merged : ∀ path, observe OSObject.dictionary? (merge source target).2 path =
    Overlay.merged OSObject.dictionary? target source path
  again : (merge source (merge source target).2).2 = (merge source target).2

theorem mergesInto_iff (source : OSTable) (target : OSDictionary) :
    MergesInto mergeDictionaryIntoDictionary source.entries target ↔
      FilledWhereShared OSObject.dictionary? target source.entries := by
  rw [← mergeEntries_succeeds_iff_filled source.distinct]
  constructor
  · exact fun h => h.succeeds
  · intro h
    exact ⟨h, observe_mergeEntries source.distinct h, mergeEntries_again source.distinct h⟩

/-- Both merges do what they are for exactly if the source holds no empty dictionary, itself
included, where the target holds a dictionary. -/
theorem merges_iff (source target : OSTable) :
    (MergesInto mergeDictionaryIntoDictionary source.entries target.entries ∧
      MergesInto (fun source provider => mergeDictionaryIntoProvider provider source)
        source.entries target.entries) ↔
      FilledWhereShared OSObject.dictionary? target.entries source.entries := by
  rw [← mergesInto_iff]
  -- the provider's table is merged by the same loop
  exact ⟨fun h => h.1, fun h => ⟨h, h⟩⟩

/-- Preferences that are empty, and a name behind them. -/
def emptyPrefs : OSTable where
  entries := [("Prefs", .dictionary []), ("Name", .string "panel")]
  distinct := by simp [EntriesDistinct, OSObject.DistinctKeys]

/-- The empty dictionary ends the loop, and the name is not merged. -/
theorem emptyPrefs_lose_name :
    let target := [("Prefs", OSObject.dictionary [("gamma", .string "2.2")])]
    (mergeDictionaryIntoDictionary emptyPrefs.entries target).2.lookup "Name" = none ∧
      ¬ MergesInto mergeDictionaryIntoDictionary emptyPrefs.entries target := by
  intro target
  have hmerge : mergeDictionaryIntoDictionary emptyPrefs.entries target = (false, target) := by
    rw [mergeDictionaryIntoDictionary, emptyPrefs, mergeEntries_cons,
      mergeValue_dictionary rfl rfl, mergeEntries]
    rfl
  refine ⟨?_, fun h => ?_⟩
  · rw [hmerge]
    rfl
  · have hsucceeds := h.succeeds
    rw [hmerge] at hsucceeds
    exact Bool.false_ne_true hsucceeds

end NootedGreen

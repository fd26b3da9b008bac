/-
# `Platform.MergeNub` — `DisplayMergeNub`: merging a dictionary into a display

`probe` always fails, and on the way merges the `IOProviderMergeProperties` of its own
personality into the provider, if vendor and product are the same.  It does so twice:

    provider->getPropertyTable()->merge(providerDict)     key by key, replacing values
    MergeDictionaryIntoProvider(provider, providerDict)   recursively

The second merge meets a table that holds the dictionaries of `providerDict` already,
so it finds each of its entries in place and changes nothing
(`mergeEntries_same`): the table that `probe` leaves is that of the first merge
(`probe_table`).  What the provider held below a dictionary that both have is gone
unless `providerDict` mentions it too, and `probe_merges_iff` says that this is the
only loss.

**What is left out.**  The reference that keeps the class loaded, capacities that are
read and not used, failing allocations and failing `setProperty` calls.  The casts of
`probe` are unchecked; here an object of another class counts as missing.
-/
import NootedGreen.Lib.Overlay
import NootedGreen.Platform.Detection

namespace NootedGreen

/-! ## Dictionaries -/

/-- `OSDynamicCast(OSDictionary, …)`. -/
def OSObject.dictionary? : OSObject → Option OSDictionary
  | .dictionary entries => some entries
  | _ => none

mutual

/-- No two entries of a dictionary have one key, at any depth. -/
def OSObject.DistinctKeys : OSObject → Prop
  | .dictionary entries => EntriesDistinct entries
  | _ => True

def EntriesDistinct : List (String × OSObject) → Prop
  | [] => True
  | (key, obj) :: rest =>
      key ∉ rest.map Prod.fst ∧ obj.DistinctKeys ∧ EntriesDistinct rest

end

/-- An `OSDictionary` as it can be built. -/
structure OSTable where
  entries : OSDictionary
  distinct : EntriesDistinct entries

theorem EntriesDistinct.nodup {entries : OSDictionary} (h : EntriesDistinct entries) :
    (entries.map Prod.fst).Nodup := by
  induction entries with
  | nil => exact List.nodup_nil
  | cons kv rest ih =>
      rw [EntriesDistinct] at h
      exact List.nodup_cons.mpr ⟨h.1, ih h.2.2⟩

theorem EntriesDistinct.of_mem {entries : OSDictionary} (h : EntriesDistinct entries)
    {kv : String × OSObject} (hkv : kv ∈ entries) : kv.2.DistinctKeys := by
  induction entries with
  | nil => exact absurd hkv List.not_mem_nil
  | cons kv' rest ih =>
      rw [EntriesDistinct] at h
      rcases List.mem_cons.mp hkv with rfl | hkv
      · exact h.2.1
      · exact ih h.2.2 hkv

/-! ## The recursive merge -/

mutual

/-- `MergeDictionaryIntoDictionary`, from an entry on: the result so far, and the target. -/
def mergeEntries : List (String × OSObject) → Bool → OSDictionary → Bool × OSDictionary
  | [], result, target => (result, target)
  | entry :: rest, _, target =>
      match mergeEntry entry target with
      | (true, target) => mergeEntries rest true target
      -- break
      | (false, target) => (false, target)

/-- One round of the loop. -/
def mergeEntry : String × OSObject → OSDictionary → Bool × OSDictionary
  | (key, obj), target =>
      match obj with
      | .dictionary childSource =>
          match (target.lookup key).bind OSObject.dictionary? with
          | some childTarget =>
              -- into a copy, which is only set if the merge says so
              match mergeEntries childSource false childTarget with
              | (true, copy) => (true, Assoc.set key (.dictionary copy) target)
              | (false, _) => (false, target)
          | none => (true, Assoc.set key (.dictionary childSource) target)
      | obj => (true, Assoc.set key obj target)

end

/-- `MergeDictionaryIntoProvider`: the same loop, over the property table. -/
def mergeDictionaryIntoProvider (provider dictionaryToMerge : OSDictionary) :
    Bool × OSDictionary :=
  mergeEntries dictionaryToMerge false provider

theorem mergeEntry_leaf {key : String} {obj : OSObject} {target : OSDictionary}
    (h : obj.dictionary? = none) :
    mergeEntry (key, obj) target = (true, Assoc.set key obj target) := by
  rw [mergeEntry]
  rintro entries rfl
  cases h

mutual

/-- A source whose entries the target holds already leaves the target as it is, whether
the loop runs through or breaks. -/
theorem mergeEntries_same : ∀ (source : List (String × OSObject)) (result : Bool)
    (target : OSDictionary), EntriesDistinct source →
    (∀ kv ∈ source, target.lookup kv.1 = some kv.2) →
    (mergeEntries source result target).2 = target
  | [], result, target, _, _ => by rw [mergeEntries]
  | (key, obj) :: rest, result, target, hdistinct, hin => by
      rw [EntriesDistinct] at hdistinct
      have hentry := mergeEntry_same (key, obj) target hdistinct.2.1 (hin _ List.mem_cons_self)
      rw [mergeEntries]
      rcases hmerge : mergeEntry (key, obj) target with ⟨result', target'⟩
      rw [hmerge] at hentry
      subst hentry
      cases result' with
      | false => rfl
      | true =>
          exact mergeEntries_same rest true _ hdistinct.2.2
            (fun kv hkv => hin kv (List.mem_cons_of_mem _ hkv))

theorem mergeEntry_same : ∀ (entry : String × OSObject) (target : OSDictionary),
    entry.2.DistinctKeys → target.lookup entry.1 = some entry.2 →
    (mergeEntry entry target).2 = target
  | (key, obj), target, hdistinct, hin => by
      cases obj with
      | dictionary child =>
          have hchild : EntriesDistinct child := by
            rw [OSObject.DistinctKeys] at hdistinct
            exact hdistinct
          -- the child is merged into itself
          have hsame := mergeEntries_same child false child hchild
            (fun kv hkv => Assoc.lookup_of_mem hchild.nodup hkv)
          rw [mergeEntry]
          simp only [hin, Option.bind_some, OSObject.dictionary?]
          rcases hmerge : mergeEntries child false child with ⟨result, copy⟩
          rw [hmerge] at hsame
          subst hsame
          cases result with
          | false => rfl
          | true => exact Assoc.set_of_lookup hin
      | number _ _ | boolean _ | string _ | data _ =>
          rw [mergeEntry_leaf rfl]
          exact Assoc.set_of_lookup hin

end

/-! ## `probe` -/

/-- A provider: its name and its property table. -/
structure Provider where
  name : String
  table : OSDictionary

def OSObject.unsigned64BitValue? : OSObject → Option (BitVec 64)
  | .number value _ => some value
  | _ => none

def OSObject.cString? : OSObject → Option String
  | .string value => some value
  | _ => none

/-- The merge dictionary, when everything is there and vendor and product agree. -/
def OSTable.mergeRequest (nub : OSTable) (provider : Provider) : Option OSDictionary := do
  let providerDict ← (nub.entries.lookup "IOProviderMergeProperties").bind OSObject.dictionary?
  let providerVendor ←
    (provider.table.lookup "DisplayVendorID").bind OSObject.unsigned64BitValue?
  let providerDevice ←
    (provider.table.lookup "DisplayProductID").bind OSObject.unsigned64BitValue?
  let vendorValue ← (nub.entries.lookup "DisplayVendorID").bind OSObject.unsigned64BitValue?
  let deviceValue ← (nub.entries.lookup "DisplayProductID").bind OSObject.unsigned64BitValue?
  if providerVendor = vendorValue ∧ providerDevice = deviceValue then some providerDict else none

/-- The provider after `probe`, whose own result is always `NULL`. -/
def OSTable.probe (nub : OSTable) (provider : Provider) : Provider :=
  match nub.mergeRequest provider with
  | some providerDict =>
      -- `OSDictionary::merge` replaces the values of shared keys
      let table := Assoc.setAll providerDict provider.table
      let name := ((providerDict.lookup "IOClass").bind OSObject.cString?).getD provider.name
      { name := name, table := (mergeDictionaryIntoProvider table providerDict).2 }
  | none => provider

/-- The merge dictionary is a part of the personality, so its keys are distinct. -/
theorem OSTable.mergeRequest_distinct {nub : OSTable} {provider : Provider} {D : OSDictionary}
    (h : nub.mergeRequest provider = some D) : EntriesDistinct D := by
  obtain ⟨D', hD', hrest⟩ := Option.bind_eq_some_iff.mp h
  have hD : D' = D := by
    simp only [Option.bind_eq_bind, Option.bind_eq_some_iff] at hrest
    obtain ⟨_, _, _, _, _, _, _, _, hif⟩ := hrest
    split at hif
    · exact Option.some.inj hif
    · cases hif
  subst hD
  obtain ⟨obj, hobj, hdict⟩ := Option.bind_eq_some_iff.mp hD'
  have hdistinct := nub.distinct.of_mem (Assoc.mem_of_lookup hobj)
  cases obj with
  | dictionary entries =>
      cases hdict
      rw [OSObject.DistinctKeys] at hdistinct
      exact hdistinct
  | number _ _ | boolean _ | string _ | data _ => cases hdict

/-- The recursive merge finds nothing to do: what is left is the first one. -/
theorem OSTable.probe_table {nub : OSTable} {provider : Provider} {D : OSDictionary}
    (h : nub.mergeRequest provider = some D) :
    (nub.probe provider).table = Assoc.setAll D provider.table := by
  have hdistinct := OSTable.mergeRequest_distinct h
  unfold OSTable.probe
  rw [h]
  exact mergeEntries_same D false _ hdistinct
    (fun kv hkv => Assoc.lookup_setAll hdistinct.nodup hkv _)

theorem OSTable.probe_unmatched {nub : OSTable} {provider : Provider}
    (h : nub.mergeRequest provider = none) : nub.probe provider = provider := by
  unfold OSTable.probe
  rw [h]

/-- What `probe` is for: a provider that it is meant for ends with the merge dictionary
laid over its table at every depth, and any other is left alone. -/
def OSTable.MergesRecursively (nub : OSTable) (provider : Provider) : Prop :=
  (∀ D, nub.mergeRequest provider = some D → ∀ path,
    Overlay.observe OSObject.dictionary? (nub.probe provider).table path =
      Overlay.merged OSObject.dictionary? provider.table D path) ∧
  (nub.mergeRequest provider = none → nub.probe provider = provider)

/-- It does so exactly if the merge dictionary mentions every entry that the provider has
in a dictionary which, below the top, both have. -/
theorem probe_merges_iff (nub : OSTable) (provider : Provider) :
    nub.MergesRecursively provider ↔
      ∀ D, nub.mergeRequest provider = some D →
        Overlay.CoversBelow OSObject.dictionary? provider.table D := by
  constructor
  · rintro ⟨hmerged, _⟩ D hD
    rw [← Overlay.setAll_merged_iff _ _ (OSTable.mergeRequest_distinct hD).nodup,
      ← OSTable.probe_table hD]
    exact hmerged D hD
  · intro hcovers
    refine ⟨fun D hD => ?_, OSTable.probe_unmatched⟩
    rw [OSTable.probe_table hD,
      Overlay.setAll_merged_iff _ _ (OSTable.mergeRequest_distinct hD).nodup]
    exact hcovers D hD

/-- A display with one colour preference, and a personality for it that brings another. -/
def colourDisplay : Provider where
  name := "display"
  table := [("DisplayVendorID", .number 0x610 32), ("DisplayProductID", .number 0xA029 32),
    ("Prefs", .dictionary [("gamma", .string "2.2")])]

def colourNub : OSTable where
  entries := [("DisplayVendorID", .number 0x610 32), ("DisplayProductID", .number 0xA029 32),
    ("IOProviderMergeProperties", .dictionary [("Prefs", .dictionary [("depth", .number 8 32)])])]
  distinct := by simp [EntriesDistinct, OSObject.DistinctKeys]

/-- The display's own preference is not mentioned, and is lost. -/
theorem colourNub_loses_gamma : ¬ colourNub.MergesRecursively colourDisplay := by
  rintro ⟨hmerged, _⟩
  have hpath := hmerged [("Prefs", .dictionary [("depth", .number 8 32)])] rfl ["Prefs", "gamma"]
  rw [OSTable.probe_table rfl] at hpath
  cases hpath

end NootedGreen

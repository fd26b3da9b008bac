/-
# `Platform.EarlySeeding` — the early pass and the scan that asks for it

`shouldAutoSeedIGPUPropertiesEarly` asks for seeding when an entry at one of the four paths

    has no `device-id`, or
    has no usable `AAPL,ig-platform-id`: none, not data, shorter than four bytes,
    or the undefined 0x8A5C0002

and `seedIGPUPropertiesEarly` puts in what is missing, and only that.  A platform id that is
there but not usable is left to whoever put it there, so afterwards the scan still asks for
seeding exactly if there was one (`early_seeding`).  A second pass finds nothing missing,
changes nothing and reports so.

The four paths may lead to one entry; seeding an entry twice is seeding it once
(`table_seedEarly`), which is all that matters here.
-/
import NootedGreen.Platform.PropertySeeding

namespace NootedGreen

variable (sconf : List (BitVec 8))

/-! ## What a pass reports -/

/-- `seedIGPUPropertiesOnEntry` with its result, from a property on. -/
def seedReporting (defaults : List (String × OSObject)) (changed : Bool) (entry : OSDictionary) :
    Bool × OSDictionary :=
  match defaults with
  | [] => (changed, entry)
  | (key, value) :: defaults =>
      match entry.lookup key with
      | some _ => seedReporting defaults changed entry
      | none => seedReporting defaults true (Assoc.set key value entry)

/-- `found` and `changed` of `seedIGPUPropertiesEarly`, as it logs them. -/
structure SeedReport where
  found : Bool
  changed : Bool
  deriving DecidableEq, Repr

section Registry

variable {ε : Type} [DecidableEq ε]

/-- `seedIGPUPropertiesEarly` with its report, from a path on. -/
def Registry.seedEarlyReporting (paths : List String) (report : SeedReport) (r : Registry ε) :
    SeedReport × Registry ε :=
  match paths with
  | [] => (report, r)
  | path :: paths =>
      match r.fromPath path with
      | some entry =>
          let (changed, table) := seedReporting (igpuDefaults sconf) false (r.table entry)
          Registry.seedEarlyReporting paths ⟨true, report.changed || changed⟩
            (r.update entry fun _ => table)
      | none => Registry.seedEarlyReporting paths report r

end Registry

/-- The table that is left is that of `Platform.PropertySeeding`. -/
theorem seedReporting_table (defaults : List (String × OSObject)) (changed : Bool)
    (entry : OSDictionary) :
    (seedReporting defaults changed entry).2 = Assoc.setAllMissing defaults entry := by
  induction defaults generalizing changed entry with
  | nil => rfl
  | cons kv defaults ih =>
      obtain ⟨key, value⟩ := kv
      show _ = Assoc.setAllMissing defaults (Assoc.setMissing key value entry)
      rw [seedReporting, Assoc.setMissing]
      cases entry.lookup key with
      | some v => exact ih changed entry
      | none => exact ih true _

theorem seedReporting_true (defaults : List (String × OSObject)) (entry : OSDictionary) :
    (seedReporting defaults true entry).1 = true := by
  induction defaults generalizing entry with
  | nil => rfl
  | cons kv defaults ih =>
      obtain ⟨key, value⟩ := kv
      rw [seedReporting]
      cases entry.lookup key with
      | some v => exact ih entry
      | none => exact ih _

/-- No change is reported exactly if nothing was missing. -/
theorem seedReporting_unchanged_iff (defaults : List (String × OSObject)) (entry : OSDictionary) :
    (seedReporting defaults false entry).1 = false ↔
      ∀ kv ∈ defaults, entry.lookup kv.1 ≠ none := by
  induction defaults with
  | nil => exact iff_of_true rfl fun kv hkv => absurd hkv List.not_mem_nil
  | cons kv defaults ih =>
      obtain ⟨key, value⟩ := kv
      rw [seedReporting, List.forall_mem_cons]
      cases hkey : entry.lookup key with
      | some v => exact ih.trans ⟨fun h => ⟨Option.some_ne_none v, h⟩, fun h => h.2⟩
      | none =>
          refine iff_of_false ?_ fun h => h.1 rfl
          rw [seedReporting_true]
          exact fun h => Bool.false_ne_true h.symm

/-! ## The entries the paths lead to -/

section Registry

variable {ε : Type} [DecidableEq ε]

/-- The early pass at one path. -/
def Registry.seedPath (r : Registry ε) (path : String) : Registry ε :=
  match r.fromPath path with
  | some entry => r.update entry (seedIGPUPropertiesOnEntry sconf)
  | none => r

theorem Registry.seedEarly_eq (r : Registry ε) :
    r.seedIGPUPropertiesEarly sconf = igpuPaths.foldl (Registry.seedPath sconf) r := rfl

theorem Registry.seedPath_fromPath (r : Registry ε) (path : String) :
    (r.seedPath sconf path).fromPath = r.fromPath := by
  rw [Registry.seedPath]
  cases r.fromPath path <;> rfl

theorem Registry.foldl_seedPath_fromPath (paths : List String) (r : Registry ε) :
    (paths.foldl (Registry.seedPath sconf) r).fromPath = r.fromPath := by
  induction paths generalizing r with
  | nil => rfl
  | cons path paths ih => exact (ih _).trans (r.seedPath_fromPath sconf path)

theorem Registry.seedPath_table (r : Registry ε) (path : String) (e : ε) :
    (r.seedPath sconf path).table e =
      if r.fromPath path = some e then seedIGPUPropertiesOnEntry sconf (r.table e)
      else r.table e := by
  rw [Registry.seedPath]
  cases r.fromPath path with
  | none => rw [if_neg fun h => by cases h]
  | some entry =>
      by_cases he : entry = e
      · rw [if_pos (congrArg some he), ← he]
        exact r.update_same entry _
      · rw [if_neg fun h => he (Option.some.inj h)]
        exact r.update_other (Ne.symm he) _

/-- However many paths lead to an entry, it is seeded once. -/
theorem Registry.foldl_seedPath_table (paths : List String) (r : Registry ε) (e : ε) :
    (paths.foldl (Registry.seedPath sconf) r).table e =
      if ∃ path ∈ paths, r.fromPath path = some e
        then seedIGPUPropertiesOnEntry sconf (r.table e) else r.table e := by
  induction paths generalizing r with
  | nil => rw [if_neg fun h => List.not_mem_nil h.choose_spec.1]; rfl
  | cons path paths ih =>
      rw [List.foldl_cons, ih, r.seedPath_table, r.seedPath_fromPath]
      simp only [List.mem_cons, exists_eq_or_imp]
      by_cases hpath : r.fromPath path = some e
      · simp only [hpath, true_or, if_true]
        split
        · exact Assoc.setAllMissing_idem _ _
        · rfl
      · simp only [hpath, false_or, if_false]

theorem Registry.table_seedEarly {r : Registry ε} {path : String} (hpath : path ∈ igpuPaths)
    {e : ε} (he : r.fromPath path = some e) :
    (r.seedIGPUPropertiesEarly sconf).table e = seedIGPUPropertiesOnEntry sconf (r.table e) := by
  rw [r.seedEarly_eq, r.foldl_seedPath_table, if_pos ⟨path, hpath, he⟩]

theorem Registry.fromPath_seedEarly (r : Registry ε) :
    (r.seedIGPUPropertiesEarly sconf).fromPath = r.fromPath :=
  r.foldl_seedPath_fromPath sconf igpuPaths

/-- Every entry at one of the paths has every default, of its own or ours. -/
def Registry.Complete (paths : List String) (r : Registry ε) : Prop :=
  ∀ path ∈ paths, ∀ e, r.fromPath path = some e →
    ∀ kv ∈ igpuDefaults sconf, (r.table e).lookup kv.1 ≠ none

theorem Registry.complete_seedEarly (r : Registry ε) :
    (r.seedIGPUPropertiesEarly sconf).Complete sconf igpuPaths := by
  intro path hpath e he
  rw [r.fromPath_seedEarly] at he
  rw [r.table_seedEarly sconf hpath he]
  exact Assoc.lookup_setAllMissing_ne_none (r.table e)

theorem Registry.update_const (r : Registry ε) (e : ε) (f : OSDictionary → OSDictionary) :
    (r.update e fun _ => f (r.table e)) = r.update e f := by
  rw [Registry.update, Registry.update]
  congr 1
  funext e'
  split
  · next heq => rw [heq]
  · rfl

theorem Registry.update_id (r : Registry ε) (e : ε) : (r.update e fun table => table) = r := by
  rw [Registry.update]
  congr 1
  funext e'
  exact ite_self _

/-- On a complete registry a pass leaves everything and reports no change. -/
theorem Registry.Complete.seedEarlyReporting {paths : List String} {r : Registry ε}
    (h : r.Complete sconf paths) (found : Bool) :
    ∃ found', r.seedEarlyReporting sconf paths ⟨found, false⟩ = (⟨found', false⟩, r) := by
  induction paths generalizing found with
  | nil => exact ⟨found, rfl⟩
  | cons path paths ih =>
      obtain ⟨hpath, hpaths⟩ := List.forall_mem_cons.mp h
      rw [Registry.seedEarlyReporting]
      cases he : r.fromPath path with
      | none => exact ih hpaths found
      | some e =>
          have hall := hpath e he
          have hchanged := (seedReporting_unchanged_iff _ _).mpr hall
          have htable : (seedReporting (igpuDefaults sconf) false (r.table e)).2 = r.table e := by
            rw [seedReporting_table, Assoc.setAllMissing_of_present hall]
          have hupdate : (r.update e fun _ => r.table e) = r :=
            (r.update_const e fun table => table).trans (r.update_id e)
          simp only [hchanged, htable, hupdate, Bool.or_false]
          exact ih hpaths true

/-- The registry that a reporting pass leaves is that of the pass. -/
theorem Registry.seedEarlyReporting_registry (paths : List String) (report : SeedReport)
    (r : Registry ε) :
    (r.seedEarlyReporting sconf paths report).2 = paths.foldl (Registry.seedPath sconf) r := by
  induction paths generalizing report r with
  | nil => rfl
  | cons path paths ih =>
      rw [Registry.seedEarlyReporting, List.foldl_cons, Registry.seedPath]
      cases r.fromPath path with
      | none => exact ih report r
      | some e =>
          have htable := seedReporting_table (igpuDefaults sconf) false (r.table e)
          show (Registry.seedEarlyReporting sconf paths _ (r.update e fun _ =>
            (seedReporting (igpuDefaults sconf) false (r.table e)).2)).2 = _
          rw [htable, ih]
          exact congrArg (paths.foldl _) (r.update_const e (seedIGPUPropertiesOnEntry sconf))

end Registry

/-! ## What the scan sees afterwards -/

/-- A platform id of at least four bytes, and not the undefined one. -/
def HasPlatformId (entry : OSDictionary) : Prop :=
  ∃ b₀ b₁ b₂ b₃ rest, entry.lookup "AAPL,ig-platform-id" =
    some (.data (b₀ :: b₁ :: b₂ :: b₃ :: rest)) ∧ b₃ ++ b₂ ++ b₁ ++ b₀ ≠ (0x8A5C0002 : BitVec 32)

theorem shouldForceRPLBringupPlatform_iff (entry : OSDictionary) :
    shouldForceRPLBringupPlatform entry = false ↔ HasPlatformId entry := by
  rw [shouldForceRPLBringupPlatform, HasPlatformId]
  constructor
  · intro h
    split at h
    · next b₀ b₁ b₂ b₃ rest hlookup =>
        exact ⟨b₀, b₁, b₂, b₃, rest, hlookup, beq_eq_false_iff_ne.mp h⟩
    · exact absurd h.symm Bool.false_ne_true
  · rintro ⟨b₀, b₁, b₂, b₃, rest, hlookup, hne⟩
    rw [hlookup]
    exact beq_eq_false_iff_ne.mpr hne

/-- Only what the key holds matters. -/
theorem hasPlatformId_congr {entry entry' : OSDictionary}
    (h : entry.lookup "AAPL,ig-platform-id" = entry'.lookup "AAPL,ig-platform-id") :
    HasPlatformId entry ↔ HasPlatformId entry' := by
  rw [HasPlatformId, HasPlatformId, h]

/-- The default is usable; what was there stays as it was. -/
theorem hasPlatformId_seeded_iff (entry : OSDictionary) :
    HasPlatformId (seedIGPUPropertiesOnEntry sconf entry) ↔
      entry.lookup "AAPL,ig-platform-id" = none ∨ HasPlatformId entry := by
  cases hid : entry.lookup "AAPL,ig-platform-id" with
  | none =>
      refine iff_of_true ?_ (.inl rfl)
      have hset : (Assoc.setMissing "AAPL,ig-platform-id" (.data [0x00, 0x00, 0x49, 0x9A])
          entry).lookup "AAPL,ig-platform-id" = some (.data [0x00, 0x00, 0x49, 0x9A]) := by
        rw [Assoc.lookup_setMissing_same, hid]
        rfl
      have hkept := Assoc.lookup_setAllMissing (igpuDefaults sconf).tail hset
      exact ⟨0x00, 0x00, 0x49, 0x9A, [], hkept, by decide⟩
  | some v =>
      have hkept := Assoc.lookup_setAllMissing (igpuDefaults sconf) hid
      have hsame : HasPlatformId (seedIGPUPropertiesOnEntry sconf entry) ↔ HasPlatformId entry :=
        hasPlatformId_congr (hkept.trans hid.symm)
      exact hsame.trans ⟨.inr, fun h => h.resolve_left (Option.some_ne_none v)⟩

section Registry

variable {ε : Type} [DecidableEq ε]

omit [DecidableEq ε] in
theorem Registry.shouldAutoSeed_iff (r : Registry ε) :
    r.shouldAutoSeedIGPUPropertiesEarly = false ↔ ∀ path ∈ igpuPaths, ∀ e,
      r.fromPath path = some e →
        HasPlatformId (r.table e) ∧ (r.table e).lookup "device-id" ≠ none := by
  rw [Registry.shouldAutoSeedIGPUPropertiesEarly, List.any_eq_false]
  refine forall_congr' fun path => forall_congr' fun _ => ?_
  cases r.fromPath path with
  | none => exact iff_of_true Bool.false_ne_true fun e he => by cases he
  | some entry =>
      simp only [Option.some.injEq, forall_eq', Bool.not_eq_true, Bool.or_eq_false_iff,
        shouldForceRPLBringupPlatform_iff, Option.isNone_eq_false_iff, Option.isSome_iff_ne_none]

/-- What the early pass does for the scan, and for a second pass. -/
structure EarlySeeding (r : Registry ε) : Prop where
  discharged : (r.seedIGPUPropertiesEarly sconf).shouldAutoSeedIGPUPropertiesEarly = false ↔
    ∀ path ∈ igpuPaths, ∀ e, r.fromPath path = some e →
      (r.table e).lookup "AAPL,ig-platform-id" = none ∨ HasPlatformId (r.table e)
  identified : ∀ path ∈ igpuPaths, ∀ e, r.fromPath path = some e →
    ((r.seedIGPUPropertiesEarly sconf).table e).lookup "device-id" ≠ none ∧
      ((r.table e).lookup "AAPL,ig-platform-id" = none ∨ HasPlatformId (r.table e) →
        HasPlatformId ((r.seedIGPUPropertiesEarly sconf).table e)) ∧
      ∀ id, (r.table e).lookup "AAPL,ig-platform-id" = some id →
        ((r.seedIGPUPropertiesEarly sconf).table e).lookup "AAPL,ig-platform-id" = some id
  again : ∃ found, (r.seedIGPUPropertiesEarly sconf).seedEarlyReporting sconf igpuPaths
    ⟨false, false⟩ = (⟨found, false⟩, r.seedIGPUPropertiesEarly sconf)

/-- On every registry: the scan asks for no more seeding exactly if no entry came with an
unusable platform id, which is left as it was; a second pass changes nothing. -/
theorem early_seeding (r : Registry ε) : EarlySeeding sconf r := by
  have hdevice : ∀ path ∈ igpuPaths, ∀ e, r.fromPath path = some e →
      ((r.seedIGPUPropertiesEarly sconf).table e).lookup "device-id" ≠ none := by
    intro path hpath e he
    have hdefault : ("device-id", OSObject.data [0x49, 0x9A, 0x00, 0x00]) ∈ igpuDefaults sconf :=
      List.mem_cons_of_mem _ List.mem_cons_self
    rw [r.table_seedEarly sconf hpath he]
    exact Assoc.lookup_setAllMissing_ne_none (r.table e) _ hdefault
  constructor
  · rw [Registry.shouldAutoSeed_iff, r.fromPath_seedEarly]
    refine forall_congr' fun path => forall_congr' fun hpath => forall_congr' fun e =>
      forall_congr' fun he => ?_
    rw [and_iff_left (hdevice path hpath e he), r.table_seedEarly sconf hpath he,
      hasPlatformId_seeded_iff]
  · intro path hpath e he
    refine ⟨hdevice path hpath e he, ?_, fun id hid => ?_⟩
    · rw [r.table_seedEarly sconf hpath he]
      exact (hasPlatformId_seeded_iff sconf _).mpr
    · exact Registry.lookup_seedEarly sconf hid
  · exact (r.complete_seedEarly sconf).seedEarlyReporting sconf false

/-- An entry that came with the undefined platform id, at the first of the paths. -/
def undefinedId : Registry Unit where
  fromPath path := if some path = igpuPaths.head? then some () else none
  table _ := [("AAPL,ig-platform-id", .data [0x02, 0x00, 0x5C, 0x8A])]

/-- It is not replaced, and the scan goes on asking. -/
theorem undefinedId_asks_again :
    (undefinedId.seedIGPUPropertiesEarly []).shouldAutoSeedIGPUPropertiesEarly = true := by
  decide

end Registry

end NootedGreen

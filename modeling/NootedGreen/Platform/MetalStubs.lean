/-
# `Platform.MetalStubs` — `ngreenfullmtl` and the safety stubs

Three patches of CoreDisplay return early where Metal is not up yet: `GetMTLTexture`,
`GetMTLCommandQueue` and the null guard in `RunFullDisplayPipe`.  `ngreenfullmtl` is
documented to leave them out.  The hook parses it and logs it, and chooses among its lists
without it:

    stage    list                                       stubs
    0        default                                    all three
    1        stage 1                                    none
    2        stage 2                                    the two of `GetMTL…`
    3        stage 3, with or without SkyLight bypass   all three

So it is honoured exactly where the stage happens to bring no stub to the page
(`full_metal_honoured_iff`).  An occurrence is followed through a list on its own: the
patterns of the stubs keep clear of every other pattern, that of VideoToolbox included, so
what comes before and after does not matter.
-/
import NootedGreen.Platform.PatchOrder

namespace NootedGreen

open Patching

/-! ## The stubs and their surroundings -/

/-- The stubs that full Metal does without. -/
def metalStubs : List DYLDPatch :=
  [getMTLTextureStub, getMTLCommandQueueStub, runFullDisplayPipeGuard]

/-- Lilu's simple search, in the one call there is: twenty bytes are put over the beginning of
every occurrence of VideoToolbox's list of models.  Lilu goes on behind the twenty bytes, not
behind the occurrence; what is left of it, `IOService`, does not begin another one. -/
def Lilu.FindsAndReplaces (lilu : Lilu) : Prop :=
  ∀ (data : Page) (model : List (BitVec 8)), model.length = 20 →
    (lilu.findAndReplace data kVideoToolboxDRMModelOriginal model).toList =
      Replace.replaceAll kVideoToolboxDRMModelOriginal
        (model ++ kVideoToolboxDRMModelOriginal.drop 20) data.toList

/-- No other patch of the shared cache touches an occurrence, or what is put there. -/
structure Alone (p : DYLDPatch) : Prop where
  self : SelfApart p.find
  others : ∀ g ∈ sharedCachePatches, g = p ∨ Apart p.find g.find
  fresh : ∀ g ∈ sharedCachePatches, Apart p.replace g.find
  model : Apart p.find kVideoToolboxDRMModelOriginal
  nonempty : 0 < p.replace.length

instance (p : DYLDPatch) : Decidable (Alone p) :=
  decidable_of_iff
    (SelfApart p.find ∧ (∀ g ∈ sharedCachePatches, g = p ∨ Apart p.find g.find) ∧
      (∀ g ∈ sharedCachePatches, Apart p.replace g.find) ∧
      Apart p.find kVideoToolboxDRMModelOriginal ∧ 0 < p.replace.length)
    ⟨fun ⟨hself, hothers, hfresh, hmodel, hpos⟩ => ⟨hself, hothers, hfresh, hmodel, hpos⟩,
      fun ⟨hself, hothers, hfresh, hmodel, hpos⟩ => ⟨hself, hothers, hfresh, hmodel, hpos⟩⟩

theorem metalStubs_alone : ∀ p ∈ metalStubs, Alone p := by decide

theorem metalStubs_not_boardId : ∀ p ∈ metalStubs, p ∉ boardIdPatches := by decide

theorem metalStubs_change : ∀ p ∈ metalStubs, p.replace ≠ p.find := by decide

/-- Which stubs the hook applies, by stage. -/
theorem stub_mem_metalPatches_iff {boot : MetalBootArgs} (hmetal : boot.noMetal = false) :
    ∀ p ∈ metalStubs, (p ∈ metalPatches boot ↔ getLegacyFullMTLStage boot ≠ 1 ∧
      (getLegacyFullMTLStage boot = 2 → p ≠ runFullDisplayPipeGuard)) := by
  intro p hp
  have hone : p ∉ stage1Patches := by revert p; decide
  have htwo : p ∈ stage2Patches ↔ p ≠ runFullDisplayPipeGuard := by revert p; decide
  have hskyl : p ∈ stage3SkylPatches := by revert p; decide
  have hthree : p ∈ stage3Patches := by revert p; decide
  have hdefault : p ∈ guardedDefaultPatches := by revert p; decide
  simp only [metalPatches, shouldDisableMetalPath, hmetal, Bool.false_eq_true, if_false]
  generalize getLegacyFullMTLStage boot = stage
  by_cases hstage1 : stage = 1
  · subst hstage1
    rw [if_pos (by decide), if_pos rfl]
    exact iff_of_false hone fun h => h.1 rfl
  by_cases hstage2 : stage = 2
  · subst hstage2
    rw [if_pos (by decide), if_neg (by decide), if_pos rfl, htwo]
    exact ⟨fun h => ⟨by decide, fun _ => h⟩, fun h => h.2 rfl⟩
  · rw [if_neg hstage1, if_neg hstage2]
    refine iff_of_true ?_ ⟨hstage1, fun h => absurd h hstage2⟩
    split
    · split
      · exact hskyl
      · exact hthree
    · exact hdefault

/-! ## The fate of an occurrence -/

section Fate

variable {env : DyldEnv} (hlilu : env.lilu.ReplacesAll) (hfind : env.lilu.FindsAndReplaces)
  {p : DYLDPatch} {data : Page} {place : Nat}

/-- The page with the model identifier put in. -/
def identified (env : DyldEnv) (data : Page) : Page :=
  env.lilu.findAndReplace data kVideoToolboxDRMModelOriginal (env.modelIdentifier.toList.take 20)

include hfind in
/-- The model identifier does not touch the pattern. -/
theorem Alone.at_identified (hp : Alone p) (hat : At p.find data.toList place) :
    At p.find (identified env data).toList place := by
  have hlen : (env.modelIdentifier.toList.take 20).length = 20 := by
    rw [List.length_take, Vector.length_toList]
    rfl
  let model : Edit (BitVec 8) := ⟨kVideoToolboxDRMModelOriginal,
    env.modelIdentifier.toList.take 20 ++ kVideoToolboxDRMModelOriginal.drop 20, by
      rw [List.length_append, hlen]
      decide⟩
  have happly : (identified env data).toList = model.apply data.toList := hfind data _ hlen
  rw [happly]
  exact Edit.apply_keeps hat fun q hq => (hp.model.disjoint hat hq).symm

variable (hventura : env.isVentura = true)

include hlilu hventura in
theorem patchSharedCachePage_toList :
    (patchSharedCachePage env data).toList =
      applyAll ((boardIdPatches ++ metalPatches env.boot).map DYLDPatch.edit)
        (identified env data).toList := by
  rw [patchSharedCachePage_eq, hventura, if_pos rfl]
  exact applyAll_eq_edits hlilu (AppliedList.sharedCache env.boot).unmasked _

include hlilu hfind hventura

/-- A patch that is not applied leaves its occurrences alone. -/
theorem Alone.kept (hp : Alone p) (hlist : p ∉ boardIdPatches ++ metalPatches env.boot)
    (hat : At p.find data.toList place) :
    At p.find (patchSharedCachePage env data).toList place := by
  rw [patchSharedCachePage_toList hlilu hventura]
  refine (hp.at_identified hfind hat).applyAll fun e he => ?_
  obtain ⟨g, hg, rfl⟩ := List.mem_map.mp he
  refine (hp.others g (subset_sharedCachePatches _ hg)).resolve_left ?_
  rintro rfl
  exact hlist hg

/-- A patch on the list replaces its occurrences. -/
theorem Alone.written (hp : Alone p) (hlist : p ∈ metalPatches env.boot)
    (hat : At p.find data.toList place) :
    At p.replace (patchSharedCachePage env data).toList place := by
  rw [patchSharedCachePage_toList hlilu hventura]
  have hmem : p.edit ∈ (boardIdPatches ++ metalPatches env.boot).map DYLDPatch.edit :=
    List.mem_map_of_mem (List.mem_append_right _ hlist)
  refine At.replaced hmem hp.self ?_ ?_ (hp.at_identified hfind hat)
  · intro e he
    obtain ⟨g, hg, rfl⟩ := List.mem_map.mp he
    refine (hp.others g (subset_sharedCachePatches _ hg)).imp_left ?_
    rintro rfl
    rfl
  · intro e he
    obtain ⟨g, hg, rfl⟩ := List.mem_map.mp he
    exact hp.fresh g (subset_sharedCachePatches _ hg)

/-- A page on which the patterns of the stubs stay, all of them, is one without those that
are on the list. -/
theorem stubs_kept_iff :
    (∀ p ∈ metalStubs, ∀ place, At p.find data.toList place →
        At p.find (patchSharedCachePage env data).toList place) ↔
      ∀ p ∈ metalStubs, p ∈ metalPatches env.boot → ¬ p.find <:+: data.toList := by
  constructor
  · intro h p hp hlist hinfix
    obtain ⟨place, hat⟩ := infix_iff_at.mp hinfix
    have hwritten := (metalStubs_alone p hp).written hlilu hfind hventura hlist hat
    exact metalStubs_change p hp (hwritten.eq_of_length (h p hp place hat) p.size_eq)
  · intro h p hp place hat
    refine (metalStubs_alone p hp).kept hlilu hfind hventura (fun hlist => ?_) hat
    rcases List.mem_append.mp hlist with hboard | hlist
    · exact metalStubs_not_boardId p hp hboard
    · exact h p hp hlist (infix_iff_at.mpr ⟨place, hat⟩)

end Fate

/-! ## Full Metal -/

/-- What the option is documented to do to a page of the shared cache. -/
structure FullMetalHonoured (env : DyldEnv) (path : List (BitVec 8)) (data : Page) : Prop where
  requested : shouldForceFullMetalPath env.boot = true → ∀ p ∈ metalStubs, ∀ place,
    At p.find data.toList place →
      At p.find (wrapCsValidatePage env (some path) data).toList place
  notRequested : shouldForceFullMetalPath env.boot = false →
    getLegacyFullMTLStage env.boot = 0 → ∀ p ∈ metalStubs, ∀ place,
    At p.find data.toList place →
      At p.replace (wrapCsValidatePage env (some path) data).toList place

section Honoured

variable {env : DyldEnv} {path : List (BitVec 8)}
  (hpath : env.lilu.matchSharedCachePath path = true) (hventura : env.isVentura = true)
  (hmetal : env.boot.noMetal = false) (hlilu : env.lilu.ReplacesAll)
  (hfind : env.lilu.FindsAndReplaces) (data : Page)

include hpath hventura hmetal hlilu hfind

theorem full_metal_unrequested (hforce : shouldForceFullMetalPath env.boot = false) :
    FullMetalHonoured env path data where
  requested h := absurd (hforce.symm.trans h) Bool.false_ne_true
  notRequested _ hstage p hp place hat := by
    rw [wrapCsValidatePage_shared hpath]
    refine (metalStubs_alone p hp).written hlilu hfind hventura ?_ hat
    rw [stub_mem_metalPatches_iff hmetal p hp, hstage]
    exact ⟨by decide, fun h => absurd h (by decide)⟩

omit hmetal in
theorem full_metal_requested (hforce : shouldForceFullMetalPath env.boot = true) :
    FullMetalHonoured env path data ↔
      ∀ p ∈ metalStubs, p ∈ metalPatches env.boot → ¬ p.find <:+: data.toList := by
  rw [← stubs_kept_iff hlilu hfind hventura, ← wrapCsValidatePage_shared hpath]
  refine ⟨fun h => h.requested hforce, fun h => ⟨fun _ => h, fun hnot => ?_⟩⟩
  exact absurd (hnot.symm.trans hforce) Bool.false_ne_true

/-- The option is honoured on a page exactly if it is not given, or the stage is 1, or the page
has no pattern of a stub that the stage brings. -/
theorem full_metal_honoured_iff :
    FullMetalHonoured env path data ↔
      (shouldForceFullMetalPath env.boot = true → getLegacyFullMTLStage env.boot = 1 ∨
        ∀ p ∈ metalStubs,
          (getLegacyFullMTLStage env.boot = 2 ∧ p = runFullDisplayPipeGuard) ∨
            ¬ p.find <:+: data.toList) := by
  cases hforce : shouldForceFullMetalPath env.boot with
  | false =>
      refine iff_of_true ?_ fun h => absurd h Bool.false_ne_true
      exact full_metal_unrequested hpath hventura hmetal hlilu hfind data hforce
  | true =>
      rw [full_metal_requested hpath hventura hlilu hfind data hforce]
      constructor
      · intro h _
        by_cases hstage : getLegacyFullMTLStage env.boot = 1
        · exact .inl hstage
        · refine .inr fun p hp => ?_
          by_cases hguard : getLegacyFullMTLStage env.boot = 2 ∧ p = runFullDisplayPipeGuard
          · exact .inl hguard
          · refine .inr (h p hp ((stub_mem_metalPatches_iff hmetal p hp).mpr ⟨hstage, ?_⟩))
            exact fun htwo heq => hguard ⟨htwo, heq⟩
      · intro h p hp hlist
        obtain ⟨hone, htwo⟩ := (stub_mem_metalPatches_iff hmetal p hp).mp hlist
        rcases h rfl with hstage | h
        · exact absurd hstage hone
        · exact (h p hp).resolve_left fun hguard => htwo hguard.1 hguard.2

end Honoured

/-- A Lilu that replaces every occurrence, on pages of the shared cache. -/
def sharedLilu : Lilu where
  matchSharedCachePath _ := true
  findAndReplace data find replace := replacePage find (replace ++ find.drop replace.length) data
  findAndReplaceWithMask data find _ replace _ := replacePage find replace data

theorem sharedLilu_replacesAll : sharedLilu.ReplacesAll := replacingLilu_replacesAll

theorem sharedLilu_findsAndReplaces : sharedLilu.FindsAndReplaces := by
  intro data model hmodel
  have hlen : (model ++ kVideoToolboxDRMModelOriginal.drop 20).length =
      kVideoToolboxDRMModelOriginal.length := by
    rw [List.length_append, hmodel]
    decide
  show (replacePage _ (model ++ kVideoToolboxDRMModelOriginal.drop model.length) data).toList = _
  rw [hmodel, replacePage, dif_pos hlen]
  rfl

/-- Ventura, with `-ngreenfullmtl` or without. -/
def metalEnv (fullMTL : Bool) : DyldEnv where
  lilu := sharedLilu
  boot := ⟨⟨none, fullMTL⟩, false, false, none, false⟩
  isVentura := true
  modelIdentifier := .ofFn fun i => (literalBytes "MacBookPro17,1").getD i 0

theorem full_metal_honoured_by_default :
    FullMetalHonoured (metalEnv false) []
      (pageOf getMTLTextureStub.find (by decide)) :=
  (full_metal_honoured_iff rfl rfl rfl sharedLilu_replacesAll sharedLilu_findsAndReplaces _).mpr
    fun h => absurd h Bool.false_ne_true

/-- `-ngreenfullmtl`, and `GetMTLTexture` is stubbed all the same. -/
theorem full_metal_not_honoured :
    sharedLilu.ReplacesAll ∧ sharedLilu.FindsAndReplaces ∧
      ¬ FullMetalHonoured (metalEnv true) [] (pageOf getMTLTextureStub.find (by decide)) := by
  refine ⟨sharedLilu_replacesAll, sharedLilu_findsAndReplaces, fun h => ?_⟩
  have hstubs := (full_metal_requested rfl rfl sharedLilu_replacesAll
    sharedLilu_findsAndReplaces _ rfl).mp h
  have hdefault : getMTLTextureStub ∈ metalPatches (metalEnv true).boot := by decide
  exact hstubs getMTLTextureStub List.mem_cons_self hdefault (infix_pageOf _ _)

end NootedGreen

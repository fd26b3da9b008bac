/-
# `Platform.PatchOrder` — a page may be validated twice, and in any order

The same page can come through `cs_validate_page` more than once, and nothing says that
the patches of a list keep clear of each other.  They do, but for one pair:

    vendor8bit␀IOService␀board-id␀             AppleGVAHEVCEncoder
                         board-id␀hw.model␀    AppleGVA

The strings overlap in `board-id␀`, which both patches turn into `hwgva-id␀`; whichever
comes first does the other's work there.  So every list the hook can apply leaves the same
page in every order, with no pattern in it, and changes nothing when it is applied again
(`patch_lists_clean`).

That the patterns keep clear is a finite matter, checked on the bytes
(`sharedCachePatches_convergent`); what follows for pages is in `Lib.Patching`.
-/
import NootedGreen.Lib.Patching
import NootedGreen.Platform.PageDispatch

namespace NootedGreen

open Patching

/-! ## Patches as edits -/

def DYLDPatch.edit (p : DYLDPatch) : Edit (BitVec 8) := ⟨p.find, p.replace, p.size_eq⟩

theorem patched_eq_applyAll (patches : List DYLDPatch) (bytes : List (BitVec 8)) :
    patched patches bytes = applyAll (patches.map DYLDPatch.edit) bytes := by
  rw [applyAll, List.foldl_map]
  rfl

/-- Every patch that may be applied to a page of the shared cache. -/
def sharedCachePatches : List DYLDPatch :=
  boardIdPatches ++ [assertionBypass, getMTLTextureStub, getMTLCommandQueueStub,
    runFullDisplayPipeSkip, presentSkip, accessCompleteSkip, skyLightBypass,
    runFullDisplayPipeGuard]

theorem DYLDPatch.eq_iff (p q : DYLDPatch) :
    (p.find = q.find ∧ p.replace = q.replace ∧ p.findMask = q.findMask ∧
      p.replaceMask = q.replaceMask) ↔ p = q := by
  constructor
  · intro h
    cases p
    cases q
    simpa only [DYLDPatch.mk.injEq] using h
  · rintro rfl
    exact ⟨rfl, rfl, rfl, rfl⟩

instance : DecidableEq DYLDPatch := fun p q => decidable_of_iff _ (p.eq_iff q)

/-- The lists `metalPatches` chooses from. -/
def metalLists : List (List DYLDPatch) :=
  [noMetalPatches, stage1Patches, stage2Patches, stage3SkylPatches, stage3Patches,
    guardedDefaultPatches]

theorem metalPatches_mem_metalLists (boot : MetalBootArgs) : metalPatches boot ∈ metalLists := by
  simp only [metalPatches]
  split
  · simp only [metalLists, List.mem_cons, true_or]
  split
  · split
    · simp only [metalLists, List.mem_cons, true_or, or_true]
    split
    · simp only [metalLists, List.mem_cons, true_or, or_true]
    split <;> simp only [metalLists, List.mem_cons, true_or, or_true]
  · simp only [metalLists, List.mem_cons, true_or, or_true]

theorem metalLists_subset : ∀ patches ∈ metalLists, patches ⊆ sharedCachePatches := by
  decide

theorem sharedCachePatches_convergent : Convergent (sharedCachePatches.map DYLDPatch.edit) where
  nonempty := by decide
  selfApart := by decide
  fresh := by decide
  joins := by decide

theorem tglMTLDriverPatches_convergent :
    Convergent (tglMTLDriverPatches.map DYLDPatch.edit) where
  nonempty := by decide
  selfApart := by decide
  fresh := by decide
  joins := by decide

theorem igcPluginPatches_convergent : Convergent (igcPluginPatches.map DYLDPatch.edit) where
  nonempty := by decide
  selfApart := by decide
  fresh := by decide
  joins := by decide +kernel

instance : DecidablePred DYLDPatch.Unmasked := fun p =>
  inferInstanceAs (Decidable (p.findMask = none ∧ p.replaceMask = none))

theorem sharedCachePatches_unmasked : ∀ p ∈ sharedCachePatches, p.Unmasked := by
  decide

/-! ## The lists of the hook -/

/-- The lists `wrapCsValidatePage` applies, the model identifier of VideoToolbox apart. -/
inductive AppliedList : List DYLDPatch → Prop
  | sharedCache (boot : MetalBootArgs) : AppliedList (boardIdPatches ++ metalPatches boot)
  | beforeVentura : AppliedList boardIdPatches
  | metalDriver : AppliedList tglMTLDriverPatches
  | igcPlugin : AppliedList igcPluginPatches

theorem subset_sharedCachePatches (boot : MetalBootArgs) :
    boardIdPatches ++ metalPatches boot ⊆ sharedCachePatches :=
  List.append_subset.mpr ⟨List.subset_append_left _ _,
    metalLists_subset _ (metalPatches_mem_metalLists boot)⟩

section Applied

variable {patches : List DYLDPatch} (h : AppliedList patches)

include h

theorem AppliedList.convergent : Convergent (patches.map DYLDPatch.edit) := by
  cases h with
  | sharedCache boot =>
      exact sharedCachePatches_convergent.subset
        (List.map_subset _ (subset_sharedCachePatches boot))
  | beforeVentura =>
      exact sharedCachePatches_convergent.subset (List.map_subset _ (List.subset_append_left _ _))
  | metalDriver => exact tglMTLDriverPatches_convergent
  | igcPlugin => exact igcPluginPatches_convergent

theorem AppliedList.unmasked : ∀ p ∈ patches, p.Unmasked := by
  cases h with
  | sharedCache boot =>
      exact fun p hp => sharedCachePatches_unmasked p (subset_sharedCachePatches boot hp)
  | beforeVentura =>
      exact fun p hp => sharedCachePatches_unmasked p (List.mem_append_left _ hp)
  | metalDriver => exact tglMTLDriverPatches_unmasked
  | igcPlugin => exact igcPluginPatches_unmasked

end Applied

theorem applyAll_append (lilu : Lilu) (patches more : List DYLDPatch) (data : Page) :
    DYLDPatch.applyAll lilu (patches ++ more) data =
      DYLDPatch.applyAll lilu more (DYLDPatch.applyAll lilu patches data) :=
  List.foldl_append

/-- On a page of the shared cache the hook puts in the model identifier, then applies one of
the lists. -/
theorem patchSharedCachePage_eq (env : DyldEnv) (data : Page) :
    patchSharedCachePage env data =
      DYLDPatch.applyAll env.lilu
        (boardIdPatches ++ if env.isVentura then metalPatches env.boot else [])
        (env.lilu.findAndReplace data kVideoToolboxDRMModelOriginal
          (env.modelIdentifier.toList.take 20)) := by
  rw [patchSharedCachePage, applyAll_append]
  cases env.isVentura <;> rfl

theorem wrapCsValidatePage_shared {env : DyldEnv} {path : List (BitVec 8)}
    (hpath : env.lilu.matchSharedCachePath path = true) (data : Page) :
    wrapCsValidatePage env (some path) data = patchSharedCachePage env data := by
  simp only [wrapCsValidatePage, hpath, Bool.not_true, Bool.false_eq_true, if_false]

/-- Whatever the path, what the hook applies is one of the lists or nothing. -/
theorem wrapCsValidatePage_applied (env : DyldEnv) (path : List (BitVec 8)) (data : Page) :
    ∃ patches, (AppliedList patches ∨ patches = []) ∧
      wrapCsValidatePage env (some path) data =
        DYLDPatch.applyAll env.lilu patches
          (if env.lilu.matchSharedCachePath path then
            env.lilu.findAndReplace data kVideoToolboxDRMModelOriginal
              (env.modelIdentifier.toList.take 20) else data) := by
  cases hpath : env.lilu.matchSharedCachePath path with
  | true =>
      refine ⟨_, .inl ?_, (wrapCsValidatePage_shared hpath data).trans
        (patchSharedCachePage_eq env data)⟩
      cases env.isVentura with
      | true => exact .sharedCache env.boot
      | false =>
          rw [if_neg Bool.false_ne_true, List.append_nil]
          exact .beforeVentura
  | false =>
      rw [wrapCsValidatePage_eq hpath]
      split
      · exact ⟨_, .inl .metalDriver, rfl⟩
      split
      · exact ⟨_, .inl .igcPlugin, rfl⟩
      · exact ⟨[], .inr rfl, rfl⟩

/-! ## Clean lists -/

/-- Applied again nothing changes, in another order nothing else; no pattern is left, and what
no pattern took is as it was. -/
structure PatchesCleanly (lilu : Lilu) (patches : List DYLDPatch) (data : Page) : Prop where
  again : DYLDPatch.applyAll lilu patches (DYLDPatch.applyAll lilu patches data) =
    DYLDPatch.applyAll lilu patches data
  anyOrder : ∀ order : List DYLDPatch, order.Perm patches →
    DYLDPatch.applyAll lilu order data = DYLDPatch.applyAll lilu patches data
  gone : ∀ p ∈ patches, ¬ p.find <:+: (DYLDPatch.applyAll lilu patches data).toList
  outside : ∀ n : Nat,
    (∀ p ∈ patches, ∀ place, At p.find data.toList place → ¬ Inside p.find place n) →
    (DYLDPatch.applyAll lilu patches data).toList[n]? = data.toList[n]?

theorem applyAll_eq_edits {lilu : Lilu} (hlilu : lilu.ReplacesAll) {patches : List DYLDPatch}
    (h : ∀ p ∈ patches, p.Unmasked) (data : Page) :
    (DYLDPatch.applyAll lilu patches data).toList =
      applyAll (patches.map DYLDPatch.edit) data.toList := by
  rw [applyAll_toList hlilu h, patched_eq_applyAll]

/-- Every list the hook applies, on every page. -/
theorem patch_lists_clean {lilu : Lilu} (hlilu : lilu.ReplacesAll) {patches : List DYLDPatch}
    (h : AppliedList patches) (data : Page) : PatchesCleanly lilu patches data := by
  have hconv := h.convergent
  have hmasks := h.unmasked
  constructor
  · rw [← Vector.toList_inj, applyAll_eq_edits hlilu hmasks, applyAll_eq_edits hlilu hmasks]
    exact hconv.applyAll_idem data.toList
  · intro order hperm
    rw [← Vector.toList_inj, applyAll_eq_edits hlilu hmasks,
      applyAll_eq_edits hlilu fun p hp => hmasks p (hperm.mem_iff.mp hp)]
    exact hconv.applyAll_perm (hperm.map _) data.toList
  · intro p hp
    rw [applyAll_eq_edits hlilu hmasks]
    exact hconv.normal_applyAll (.refl _) data.toList p.edit (List.mem_map_of_mem hp)
  · intro n hn
    rw [applyAll_eq_edits hlilu hmasks]
    refine (hconv.settles (.refl _) data.toList).kept n fun e he place hat => ?_
    obtain ⟨p, hp, rfl⟩ := List.mem_map.mp he
    exact hn p hp place hat

/-- The two strings that overlap, on the default list. -/
theorem board_id_page_clean :
    PatchesCleanly replacingLilu (boardIdPatches ++ metalPatches replacingEnv.boot)
      (pageOf (kHEVCEncBoardIdOriginal ++ literalBytes "hw.model\x00") (by decide)) :=
  patch_lists_clean replacingLilu_replacesAll (.sharedCache _) _

end NootedGreen

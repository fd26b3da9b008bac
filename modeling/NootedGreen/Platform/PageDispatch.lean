/-
# `Platform.PageDispatch` — which binary gets which patch

What the hook on page validation is for: the page of a binary with a patch list comes back
with that list applied, every other page as it was (`dispatched`).  The test that should
single out the two CoreLSKD binaries is

    strncmp(path, MSE) || strncmp(path, LSKD)        "neither of the two"

where `&&` is meant.  No path is equal to both, so the test always holds
(`comparePath_either`), the function returns before the CoreLSKD patch, and a CoreLSKD page
keeps its CPUID instructions.  The hook does what it is for on every page but those
(`page_dispatched_iff`).
-/
import NootedGreen.Lib.Replace
import NootedGreen.Platform.DyldPatches

namespace NootedGreen

open Replace

/-! ## What the hook is for -/

/-- Lilu's search, without masks and without a count, replaces every occurrence. -/
def Lilu.ReplacesAll (lilu : Lilu) : Prop :=
  ∀ (data : Page) (find replace : List (BitVec 8)), replace.length = find.length →
    (lilu.findAndReplaceWithMask data find none replace none).toList =
      replaceAll find replace data.toList

/-- The bytes with each patch of the list applied in turn. -/
def patched (patches : List DYLDPatch) (bytes : List (BitVec 8)) : List (BitVec 8) :=
  patches.foldl (fun bytes p => replaceAll p.find p.replace bytes) bytes

/-- The bytes with the patches of the binary at `path`. -/
def dispatched (path bytes : List (BitVec 8)) : List (BitVec 8) :=
  if path = kCoreLSKDPath ∨ path = kCoreLSKDMSEPath then patched [coreLSKDPatch] bytes
  else if path = tglGraphicsMTLDriver then patched tglMTLDriverPatches bytes
  else if path = libMTLIGCCompilerPluginPath then patched igcPluginPatches bytes
  else bytes

/-! ## Patch lists -/

/-- Neither mask is given. -/
def DYLDPatch.Unmasked (p : DYLDPatch) : Prop := p.findMask = none ∧ p.replaceMask = none

theorem applyAll_toList {lilu : Lilu} (hlilu : lilu.ReplacesAll) {patches : List DYLDPatch}
    (h : ∀ p ∈ patches, p.Unmasked) (data : Page) :
    (DYLDPatch.applyAll lilu patches data).toList = patched patches data.toList := by
  induction patches generalizing data with
  | nil => rfl
  | cons p patches ih =>
      obtain ⟨hfind, hreplace⟩ := h p List.mem_cons_self
      have hstep : (p.apply lilu data).toList = replaceAll p.find p.replace data.toList := by
        rw [DYLDPatch.apply, hfind, hreplace]
        exact hlilu data p.find p.replace p.size_eq
      have hrest := ih (fun q hq => h q (List.mem_cons_of_mem _ hq)) (p.apply lilu data)
      rw [hstep] at hrest
      exact hrest

theorem coreLSKDPatch_changes : coreLSKDPatch.replace ≠ coreLSKDPatch.find := by decide

theorem tglMTLDriverPatches_unmasked : ∀ p ∈ tglMTLDriverPatches, p.Unmasked := by
  intro p hp
  rw [tglMTLDriverPatches, List.mem_singleton] at hp
  rw [hp]
  exact ⟨rfl, rfl⟩

theorem igcPluginPatches_unmasked : ∀ p ∈ igcPluginPatches, p.Unmasked := by
  intro p hp
  rw [igcPluginPatches, List.mem_cons, List.mem_singleton] at hp
  rcases hp with hp | hp
  · rw [hp]
    exact ⟨rfl, rfl⟩
  · rw [hp]
    exact ⟨rfl, rfl⟩

/-! ## Paths -/

/-- The binaries with patches of their own. -/
def patchedBinaries : List (List (BitVec 8)) :=
  [kCoreLSKDMSEPath, kCoreLSKDPath, tglGraphicsMTLDriver, libMTLIGCCompilerPluginPath]

theorem zero_not_mem_path : ∀ p ∈ patchedBinaries, 0 ∉ p := by
  decide

theorem paths_distinct :
    kCoreLSKDMSEPath ≠ kCoreLSKDPath ∧
      (kCoreLSKDMSEPath ≠ tglGraphicsMTLDriver ∧ kCoreLSKDPath ≠ tglGraphicsMTLDriver) ∧
      (kCoreLSKDMSEPath ≠ libMTLIGCCompilerPluginPath ∧
        kCoreLSKDPath ≠ libMTLIGCCompilerPluginPath) ∧
      tglGraphicsMTLDriver ≠ libMTLIGCCompilerPluginPath := by
  -- distinct as literals, so distinct as bytes
  refine ⟨?_, ⟨?_, ?_⟩, ⟨?_, ?_⟩, ?_⟩ <;> exact mt literalBytes_inj.mp (by decide)

section Paths

variable (path : List (BitVec 8))

theorem comparePath_eq_zero_iff {p : List (BitVec 8)} (hp : p ∈ patchedBinaries) :
    comparePath path p = 0 ↔ cString path = p :=
  strncmp_eq_zero_iff (zero_not_mem_path p hp) path

theorem comparePath_mse :
    comparePath path kCoreLSKDMSEPath = 0 ↔ cString path = kCoreLSKDMSEPath :=
  comparePath_eq_zero_iff path (by simp [patchedBinaries])

theorem comparePath_lskd : comparePath path kCoreLSKDPath = 0 ↔ cString path = kCoreLSKDPath :=
  comparePath_eq_zero_iff path (by simp [patchedBinaries])

theorem comparePath_mtl :
    comparePath path tglGraphicsMTLDriver = 0 ↔ cString path = tglGraphicsMTLDriver :=
  comparePath_eq_zero_iff path (by simp [patchedBinaries])

theorem comparePath_igc : comparePath path libMTLIGCCompilerPluginPath = 0 ↔
    cString path = libMTLIGCCompilerPluginPath :=
  comparePath_eq_zero_iff path (by simp [patchedBinaries])

/-- Every path differs from one of the two. -/
theorem comparePath_either :
    comparePath path kCoreLSKDMSEPath ≠ 0 ∨ comparePath path kCoreLSKDPath ≠ 0 := by
  by_cases h : cString path = kCoreLSKDMSEPath
  · right
    rw [Ne, comparePath_lskd, h]
    exact paths_distinct.1
  · left
    rwa [Ne, comparePath_mse]

end Paths

/-! ## The hook outside the shared cache -/

section Hook

variable {env : DyldEnv} {path : List (BitVec 8)}
  (hpath : env.lilu.matchSharedCachePath path = false)
include hpath

/-- The patch of CoreLSKD is out of reach. -/
theorem wrapCsValidatePage_eq (data : Page) :
    wrapCsValidatePage env (some path) data =
      if cString path = tglGraphicsMTLDriver
        then DYLDPatch.applyAll env.lilu tglMTLDriverPatches data
      else if cString path = libMTLIGCCompilerPluginPath
        then DYLDPatch.applyAll env.lilu igcPluginPatches data
      else data := by
  simp only [wrapCsValidatePage, hpath, Bool.not_false, if_true, if_pos (comparePath_either path),
    comparePath_mtl, comparePath_igc]
  by_cases hmtl : cString path = tglGraphicsMTLDriver
  · rw [if_pos hmtl, if_pos hmtl, hmtl, if_neg paths_distinct.2.2.2]
  · rw [if_neg hmtl, if_neg hmtl]

theorem wrapCsValidatePage_coreLSKD
    (h : cString path = kCoreLSKDPath ∨ cString path = kCoreLSKDMSEPath) (data : Page) :
    wrapCsValidatePage env (some path) data = data := by
  obtain ⟨-, ⟨hmseMtl, hlskdMtl⟩, ⟨hmseIgc, hlskdIgc⟩, -⟩ := paths_distinct
  rw [wrapCsValidatePage_eq hpath]
  rcases h with h | h
  · rw [h, if_neg hlskdMtl, if_neg hlskdIgc]
  · rw [h, if_neg hmseMtl, if_neg hmseIgc]

theorem coreLSKD_dispatched_iff
    (h : cString path = kCoreLSKDPath ∨ cString path = kCoreLSKDMSEPath) (data : Page) :
    (wrapCsValidatePage env (some path) data).toList = dispatched (cString path) data.toList ↔
      ¬ kCoreLSKDOriginal <:+: data.toList := by
  rw [wrapCsValidatePage_coreLSKD hpath h, dispatched, if_pos h, eq_comm]
  exact replaceAll_eq_self_iff coreLSKDPatch.size_eq coreLSKDPatch_changes data.toList

/-- The page comes back with the patches of its binary, unless it is a page of CoreLSKD or
CoreLSKDMSE with something to patch. -/
theorem page_dispatched_iff (hlilu : env.lilu.ReplacesAll) (data : Page) :
    (wrapCsValidatePage env (some path) data).toList = dispatched (cString path) data.toList ↔
      ¬ ((cString path = kCoreLSKDPath ∨ cString path = kCoreLSKDMSEPath) ∧
        kCoreLSKDOriginal <:+: data.toList) := by
  by_cases hlskd : cString path = kCoreLSKDPath ∨ cString path = kCoreLSKDMSEPath
  · rw [coreLSKD_dispatched_iff hpath hlskd, not_and]
    exact ⟨fun h _ => h, fun h => h hlskd⟩
  · refine iff_of_true ?_ fun h => hlskd h.1
    rw [wrapCsValidatePage_eq hpath, dispatched, if_neg hlskd]
    split
    · exact applyAll_toList hlilu tglMTLDriverPatches_unmasked data
    split
    · exact applyAll_toList hlilu igcPluginPatches_unmasked data
    · rfl

end Hook

/-! ## A Metal driver page and a CoreLSKD page -/

/-- The page that begins with these bytes and is zero behind them. -/
def pageOf (bytes : List (BitVec 8)) (h : bytes.length ≤ 4096) : Page :=
  ⟨(bytes ++ List.replicate (4096 - bytes.length) 0).toArray, by
    rw [List.size_toArray, List.length_append, List.length_replicate]
    omega⟩

theorem infix_pageOf (bytes : List (BitVec 8)) (h : bytes.length ≤ 4096) :
    bytes <:+: (pageOf bytes h).toList :=
  (List.prefix_append bytes _).isInfix

def replacePage (find replace : List (BitVec 8)) (data : Page) : Page :=
  if h : replace.length = find.length then
    ⟨(replaceAll find replace data.toList).toArray, by
      rw [List.size_toArray, replaceAll_length h, Vector.length_toList]⟩
  else data

/-- A Lilu that replaces every occurrence, with no shared cache and no masks. -/
def replacingLilu : Lilu where
  matchSharedCachePath _ := false
  findAndReplace data find replace := replacePage find replace data
  findAndReplaceWithMask data find _ replace _ := replacePage find replace data

theorem replacingLilu_replacesAll : replacingLilu.ReplacesAll := by
  intro data find replace h
  show (replacePage find replace data).toList = _
  rw [replacePage, dif_pos h]
  rfl

def replacingEnv : DyldEnv where
  lilu := replacingLilu
  boot := ⟨⟨none, false⟩, false, false, none, false⟩
  isVentura := true
  modelIdentifier := .replicate 48 0

theorem metal_driver_page_dispatched :
    let data := pageOf kTGLGraphicsMTLDrivero (by decide)
    (wrapCsValidatePage replacingEnv (some tglGraphicsMTLDriver) data).toList =
      dispatched (cString tglGraphicsMTLDriver) data.toList :=
  (page_dispatched_iff rfl replacingLilu_replacesAll _).mpr fun h => by
    obtain ⟨-, ⟨hmse, hlskd⟩, -, -⟩ := paths_distinct
    rw [cString_eq_self (zero_not_mem_path _ (by simp [patchedBinaries]))] at h
    exact h.1.elim hlskd.symm hmse.symm

/-- The CPUID instruction stays in a page of CoreLSKD. -/
theorem coreLSKD_page_not_dispatched :
    let data := pageOf kCoreLSKDOriginal (by decide)
    replacingEnv.lilu.ReplacesAll ∧ replacingEnv.lilu.matchSharedCachePath kCoreLSKDPath = false ∧
      (wrapCsValidatePage replacingEnv (some kCoreLSKDPath) data).toList ≠
        dispatched (cString kCoreLSKDPath) data.toList := by
  refine ⟨replacingLilu_replacesAll, rfl, fun h => ?_⟩
  have hpath : cString kCoreLSKDPath = kCoreLSKDPath :=
    cString_eq_self (zero_not_mem_path _ (by simp [patchedBinaries]))
  exact (coreLSKD_dispatched_iff rfl (.inl hpath) _).mp h (infix_pageOf _ _)

end NootedGreen

/-
# `Hooks.PatcherPlus` — byte patches and the error the patcher keeps

`LookupPatchPlus::apply` has two ways to patch an image:

    no mask, no skip    `applyLookupPatch`, then `getError() == NoError`
    otherwise           `findAndReplaceWithMask`, whose result is returned

The error is a member of the patcher and stays until `clearError`.  `solve` and `route`
clear it after they have failed; the first way reads it without clearing it before.  So
an error of an earlier operation makes a patch fail that has done all it should, and
`applyAll` stops behind it.  `patching_ignores_error_iff` says when the error makes no
difference.

**Assumed of Lilu.**  `applyLookupPatch` records an error when it cannot make all
replacements and leaves the error alone otherwise; it is a function of the patch and the
image, and so is `findAndReplaceWithMask`.
-/
import NootedGreen.Lib.Replace

namespace NootedGreen

/-! ## The patcher -/

/-- `KernelPatcher::Error`. -/
inductive PatcherError where
  | noError
  | noKinfoFound
  | noSymbolFound
  | kernInitFailure
  | kernRunningInitFailure
  | kextListeningFailure
  | disasmFailure
  | memoryIssue
  | memoryProtection
  | pointerRange
  | alreadyDone
  | lockError
  | unsupported
  | invalidSymbolFound
  deriving DecidableEq, Repr

/-- The bytes from `address` on, `maxSize` of them. -/
abbrev Image := List (BitVec 8)

/-- `KernelPatcher::LookupPatch`; `kext` is the index of the kext. -/
structure LookupPatch where
  kext : Nat
  find : List (BitVec 8)
  replace : List (BitVec 8)
  count : Nat
  /-- `size` is the size of both. -/
  size_eq : replace.length = find.length
  deriving DecidableEq

structure LookupPatchPlus extends LookupPatch where
  findMask : Option (List (BitVec 8))
  replaceMask : Option (List (BitVec 8))
  skip : Nat
  deriving DecidableEq

/-- What Lilu's patcher does to an image. -/
structure KernelPatcher where
  /-- The image afterwards, and the error that is recorded if there is one. -/
  applyLookupPatch : LookupPatch → Image → Image × Option PatcherError
  records : ∀ patch image, (applyLookupPatch patch image).2 ≠ some .noError
  /-- Data, find and its mask, replace and its mask, count, skip. -/
  findAndReplaceWithMask : Image → List (BitVec 8) → Option (List (BitVec 8)) →
    List (BitVec 8) → Option (List (BitVec 8)) → Nat → Nat → Bool × Image

/-- The error the patcher keeps, and the image. -/
structure PatcherState where
  error : PatcherError
  image : Image
  deriving DecidableEq, Repr

/-- `!findMask && !replaceMask && !skip`. -/
def LookupPatchPlus.isLookup (patch : LookupPatchPlus) : Bool :=
  patch.findMask.isNone && patch.replaceMask.isNone && patch.skip == 0

section Apply

variable (patcher : KernelPatcher)

def LookupPatchPlus.apply (patch : LookupPatchPlus) (s : PatcherState) : Bool × PatcherState :=
  if patch.isLookup then
    let (image, recorded) := patcher.applyLookupPatch patch.toLookupPatch s.image
    let s := { error := recorded.getD s.error, image }
    (s.error == .noError, s)
  else
    let (found, image) := patcher.findAndReplaceWithMask s.image patch.find patch.findMask
      patch.replace patch.replaceMask patch.count patch.skip
    (found, { s with image })

/-- The first patch that fails ends it. -/
def LookupPatchPlus.applyAll : List LookupPatchPlus → PatcherState → Bool × PatcherState
  | [], s => (true, s)
  | patch :: patches, s =>
      match patch.apply patcher s with
      | (true, s) => applyAll patches s
      | (false, s) => (false, s)

/-! ## What patches do by themselves -/

/-- Whether a patch makes its replacements, and the image with them: a function of the patch
and the image. -/
def LookupPatchPlus.outcome (patch : LookupPatchPlus) (image : Image) : Bool × Image :=
  if patch.isLookup then
    let (image, recorded) := patcher.applyLookupPatch patch.toLookupPatch image
    (recorded.isNone, image)
  else
    patcher.findAndReplaceWithMask image patch.find patch.findMask patch.replace
      patch.replaceMask patch.count patch.skip

/-- The same of a list, up to the first that does not. -/
def LookupPatchPlus.outcomes : List LookupPatchPlus → Image → Bool × Image
  | [], image => (true, image)
  | patch :: patches, image =>
      match patch.outcome patcher image with
      | (true, image) => outcomes patches image
      | (false, image) => (false, image)

/-- The replacements are made whatever the error. -/
theorem LookupPatchPlus.apply_image (patch : LookupPatchPlus) (s : PatcherState) :
    (patch.apply patcher s).2.image = (patch.outcome patcher s.image).2 := by
  rw [LookupPatchPlus.apply, LookupPatchPlus.outcome]
  split <;> rfl

/-- The result is that of the patch, unless it takes the first way and there is an error. -/
theorem LookupPatchPlus.apply_result (patch : LookupPatchPlus) (s : PatcherState) :
    (patch.apply patcher s).1 =
      ((patch.outcome patcher s.image).1 && (!patch.isLookup || s.error == .noError)) := by
  rw [LookupPatchPlus.apply, LookupPatchPlus.outcome]
  split
  · next hlookup =>
      have hrecords := patcher.records patch.toLookupPatch s.image
      cases hrecorded : (patcher.applyLookupPatch patch.toLookupPatch s.image).2 with
      | none => simp [hrecorded, hlookup]
      | some error =>
          have herror : error ≠ .noError := fun h => hrecords (hrecorded.trans (congrArg some h))
          simp [hrecorded, herror]
  · next hmasked => simp [hmasked]

/-- A patch that succeeds leaves the error as it was. -/
theorem LookupPatchPlus.apply_error {patch : LookupPatchPlus} {s : PatcherState}
    (h : (patch.apply patcher s).1 = true) : (patch.apply patcher s).2.error = s.error := by
  rw [LookupPatchPlus.apply] at h ⊢
  split
  · next hlookup =>
      rw [if_pos hlookup] at h
      have hrecords := patcher.records patch.toLookupPatch s.image
      cases hrecorded : (patcher.applyLookupPatch patch.toLookupPatch s.image).2 with
      | none => simp [hrecorded]
      | some error =>
          simp only [hrecorded, Option.getD_some, beq_iff_eq] at h
          exact absurd (hrecorded.trans (congrArg some h)) hrecords
  · rfl

/-- What a caller sees: the result and the image. -/
def observed (r : Bool × PatcherState) : Bool × Image := (r.1, r.2.image)

theorem LookupPatchPlus.observed_apply (patch : LookupPatchPlus) (s : PatcherState) :
    observed (patch.apply patcher s) =
      ((patch.outcome patcher s.image).1 && (!patch.isLookup || s.error == .noError),
        (patch.outcome patcher s.image).2) :=
  Prod.ext (patch.apply_result patcher s) (patch.apply_image patcher s)

/-- One patch of a list. -/
theorem LookupPatchPlus.observed_applyAll_cons (patch : LookupPatchPlus)
    (patches : List LookupPatchPlus) (s : PatcherState) :
    observed (applyAll patcher (patch :: patches) s) =
      if (patch.outcome patcher s.image).1 && (!patch.isLookup || s.error == .noError)
        then observed (applyAll patcher patches ⟨s.error, (patch.outcome patcher s.image).2⟩)
        else (false, (patch.outcome patcher s.image).2) := by
  rw [← patch.apply_result patcher s, ← patch.apply_image patcher s]
  have herror := patch.apply_error patcher (s := s)
  rw [applyAll]
  generalize patch.apply patcher s = r at herror ⊢
  obtain ⟨result, error, image⟩ := r
  cases result with
  | false => rfl
  | true =>
      obtain rfl : error = s.error := herror rfl
      rfl

/-- On a patcher without an error the patches do what they do by themselves. -/
theorem LookupPatchPlus.observed_applyAll_noError (patches : List LookupPatchPlus)
    (image : Image) :
    observed (applyAll patcher patches ⟨.noError, image⟩) = outcomes patcher patches image := by
  induction patches generalizing image with
  | nil => rfl
  | cons patch patches ih =>
      rw [patch.observed_applyAll_cons, outcomes]
      obtain ⟨result, image'⟩ := patch.outcome patcher image
      cases result with
      | false => rfl
      | true =>
          rw [beq_self_eq_true, Bool.or_true]
          exact ih image'

/-! ## The error left behind by others -/

/-- Going through a list from an image on: the first patch of the first way that is come to
fails by itself, or those after it do and leave the image as it left it. -/
def LookupPatchPlus.Unaffected : List LookupPatchPlus → Image → Prop
  | [], _ => True
  | patch :: patches, image =>
      (patch.outcome patcher image).1 = true →
        if patch.isLookup then
          outcomes patcher patches (patch.outcome patcher image).2 =
            (false, (patch.outcome patcher image).2)
        else Unaffected patches (patch.outcome patcher image).2

theorem LookupPatchPlus.observed_applyAll_iff {error : PatcherError} (herror : error ≠ .noError)
    (patches : List LookupPatchPlus) (image : Image) :
    observed (applyAll patcher patches ⟨error, image⟩) = outcomes patcher patches image ↔
      Unaffected patcher patches image := by
  have hbeq : (error == PatcherError.noError) = false := beq_eq_false_iff_ne.mpr herror
  induction patches generalizing image with
  | nil => exact iff_of_true rfl trivial
  | cons patch patches ih =>
      rw [patch.observed_applyAll_cons, outcomes, Unaffected]
      obtain ⟨result, image'⟩ := patch.outcome patcher image
      cases result with
      | false => exact iff_of_true rfl fun h => absurd h Bool.false_ne_true
      | true =>
          rw [hbeq, Bool.or_false, Bool.true_and]
          cases patch.isLookup with
          | false => exact (ih image').trans ⟨fun h _ => h, fun h => h rfl⟩
          | true => exact eq_comm.trans ⟨fun h _ => h, fun h => h rfl⟩

/-- The error makes no difference to a patch exactly if there is none, or the patch does not
look at it or fails by itself; to a list exactly if there is none or the list is unaffected. -/
theorem patching_ignores_error_iff (error : PatcherError) (image : Image) :
    (∀ patch : LookupPatchPlus,
      observed (patch.apply patcher ⟨error, image⟩) =
          observed (patch.apply patcher ⟨.noError, image⟩) ↔
        error = .noError ∨ patch.isLookup = false ∨ (patch.outcome patcher image).1 = false) ∧
    ∀ patches : List LookupPatchPlus,
      observed (LookupPatchPlus.applyAll patcher patches ⟨error, image⟩) =
          observed (LookupPatchPlus.applyAll patcher patches ⟨.noError, image⟩) ↔
        error = .noError ∨ LookupPatchPlus.Unaffected patcher patches image := by
  constructor
  · intro patch
    rw [patch.observed_apply, patch.observed_apply, Prod.mk.injEq, and_iff_left rfl,
      beq_self_eq_true, Bool.or_true, Bool.and_true]
    by_cases herror : error = .noError
    · simp [herror]
    · have hbeq : (error == PatcherError.noError) = false := beq_eq_false_iff_ne.mpr herror
      rw [hbeq]
      cases patch.isLookup <;> cases (patch.outcome patcher image).1 <;> simp [herror]
  · intro patches
    rw [LookupPatchPlus.observed_applyAll_noError]
    by_cases herror : error = .noError
    · rw [herror]
      exact iff_of_true (LookupPatchPlus.observed_applyAll_noError patcher patches image)
        (.inl rfl)
    · rw [or_iff_right herror]
      exact LookupPatchPlus.observed_applyAll_iff patcher herror patches image

end Apply

/-! ## A symbol that was not found -/

/-- Lilu on images with at most one occurrence. -/
def findingPatcher : KernelPatcher where
  applyLookupPatch patch image :=
    if patch.find <:+: image then (Replace.replaceAll patch.find patch.replace image, none)
    else (image, some .memoryIssue)
  records patch image := by
    split
    · exact fun h => by cases h
    · exact fun h => by cases h
  findAndReplaceWithMask image find _ replace _ _ _ :=
    (decide (find <:+: image), Replace.replaceAll find replace image)

/-- `kAGDPBoardIDKeyOriginal`, `board-id` with its terminator. -/
def kAGDPBoardIDKeyOriginal : List (BitVec 8) :=
  [0x62, 0x6F, 0x61, 0x72, 0x64, 0x2D, 0x69, 0x64, 0x00]

/-- `kAGDPBoardIDKeyPatched`, `applehax`. -/
def kAGDPBoardIDKeyPatched : List (BitVec 8) :=
  [0x61, 0x70, 0x70, 0x6C, 0x65, 0x68, 0x61, 0x78, 0x00]

/-- The patch of `AppleGraphicsDevicePolicy`. -/
def agdpPatch : LookupPatchPlus where
  kext := 0
  find := kAGDPBoardIDKeyOriginal
  replace := kAGDPBoardIDKeyPatched
  count := 1
  size_eq := rfl
  findMask := none
  replaceMask := none
  skip := 0

/-- With the error of a symbol that was not found before, the patch is made and reported as
failed. -/
theorem agdpPatch_reported_failed :
    observed (agdpPatch.apply findingPatcher ⟨.noSymbolFound, kAGDPBoardIDKeyOriginal⟩) =
        (false, kAGDPBoardIDKeyPatched) ∧
      observed (agdpPatch.apply findingPatcher ⟨.noError, kAGDPBoardIDKeyOriginal⟩) =
        (true, kAGDPBoardIDKeyPatched) := by
  decide

end NootedGreen

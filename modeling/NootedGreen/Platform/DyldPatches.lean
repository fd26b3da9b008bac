/-
# `Platform.DyldPatches` — code of user space, patched page by page

The kernel validates each page of a binary as it is paged in.  The hook around
`cs_validate_page` lets the original run, asks for the path of the binary and then edits
the page in place:

    path                    patches
    the shared cache        model and board identifiers; from Ventura on, one of the Metal lists
    CoreLSKD, CoreLSKDMSE   CPUID of the streaming check
    TGL Metal driver        fallback
    IGC compiler plugin     device check, runtime path
    any other               none

as the source means it; what it does about CoreLSKD is another matter (`Platform.PageDispatch`).
Finding and replacing is Lilu's, and so is telling a shared cache path; both are parameters.

**What is left out.**  What the original writes to `validated_p`, `tainted_p` and `nx_p`, and
the comment of a patch, which is only logged.
-/
import NootedGreen.Lib.CString
import NootedGreen.Platform.Detection

namespace NootedGreen

/-! ## Patches -/

/-- A page of `PAGE_SIZE` bytes. -/
abbrev Page := Vector (BitVec 8) 4096

/-- Lilu's part. -/
structure Lilu where
  /-- `UserPatcher::matchSharedCachePath` -/
  matchSharedCachePath : List (BitVec 8) → Bool
  /-- `KernelPatcher::findAndReplace` on a page -/
  findAndReplace : Page → List (BitVec 8) → List (BitVec 8) → Page
  /-- `KernelPatcher::findAndReplaceWithMask` on a page, with no count: find, its mask, replace,
  its mask -/
  findAndReplaceWithMask : Page → List (BitVec 8) → Option (List (BitVec 8)) →
    List (BitVec 8) → Option (List (BitVec 8)) → Page

/-- Bytes to find and bytes of the same number to put there. -/
structure DYLDPatch where
  find : List (BitVec 8)
  replace : List (BitVec 8)
  findMask : Option (List (BitVec 8)) := none
  replaceMask : Option (List (BitVec 8)) := none
  size_eq : replace.length = find.length := by decide

def DYLDPatch.apply (lilu : Lilu) (p : DYLDPatch) (data : Page) : Page :=
  lilu.findAndReplaceWithMask data p.find p.findMask p.replace p.replaceMask

def DYLDPatch.applyAll (lilu : Lilu) (patches : List DYLDPatch) (data : Page) : Page :=
  patches.foldl (fun data p => p.apply lilu data) data

/-! ## Paths and bytes -/

def kCoreLSKDMSEPath : List (BitVec 8) := literalBytes
  "/System/Library/PrivateFrameworks/CoreLSKDMSE.framework/Versions/A/CoreLSKDMSE"

def kCoreLSKDPath : List (BitVec 8) := literalBytes
  "/System/Library/PrivateFrameworks/CoreLSKD.framework/Versions/A/CoreLSKD"

def tglGraphicsMTLDriver : List (BitVec 8) := literalBytes
  ("/System/Library/Extensions/AppleIntelTGLGraphicsMTLDriver.bundle" ++
    "/Contents/MacOS/AppleIntelTGLGraphicsMTLDriver")

def libMTLIGCCompilerPluginPath : List (BitVec 8) := literalBytes
  ("/System/Library/Extensions/AppleIntelGraphicsShared.bundle" ++
    "/Contents/MacOS/libMTLIGCCompilerPlugin.dylib")

def kCoreLSKDOriginal : List (BitVec 8) :=
  [0xC7, 0xC0, 0x01, 0x00, 0x00, 0x00, 0x0F, 0xA2]

def kCoreLSKDPatched : List (BitVec 8) :=
  [0xC7, 0xC0, 0xC3, 0x06, 0x03, 0x00, 0x66, 0x90]

def kTGLGraphicsMTLDrivero : List (BitVec 8) :=
  [0x41, 0x83, 0x7D, 0x00, 0x01, 0x48, 0x8B, 0x05, 0x50, 0x7B, 0x47, 0x00]

def kTGLGraphicsMTLDriverp : List (BitVec 8) :=
  [0x41, 0x83, 0x7D, 0x00, 0x00, 0x48, 0x8B, 0x05, 0x50, 0x7B, 0x47, 0x00]

def klibMTLIGCCompilerPluginOriginal : List (BitVec 8) :=
  [0x8B, 0x87, 0x18, 0x01, 0x00, 0x00, 0x83, 0xC0, 0xF3, 0x83, 0xF8, 0x11, 0x73, 0x19, 0xB9, 0xEB,
    0xA0, 0x01, 0x00, 0x0F, 0xA3, 0xC1, 0x73, 0x0F, 0x48, 0x98, 0x48, 0x8D, 0x0D, 0xAD, 0x8D,
    0x00, 0x00]

def klibMTLIGCCompilerPluginPatched : List (BitVec 8) :=
  [0x8B, 0x87, 0x18, 0x01, 0x00, 0x00, 0x83, 0xC0, 0xF3, 0xB8, 0x05, 0x00, 0x00, 0x00, 0x90, 0x90,
    0x90, 0x90, 0x90, 0x90, 0x90, 0x90, 0x90, 0x90, 0x48, 0x98, 0x48, 0x8D, 0x0D, 0xAD, 0x8D,
    0x00, 0x00]

def klibMTLIGCCompilerPluginOriginal2 : List (BitVec 8) :=
  [0x2F, 0x53, 0x79, 0x73, 0x74, 0x65, 0x6D, 0x2F, 0x4C, 0x69, 0x62, 0x72, 0x61, 0x72, 0x79, 0x2F,
    0x45, 0x78, 0x74, 0x65, 0x6E, 0x73, 0x69, 0x6F, 0x6E, 0x73, 0x2F, 0x41, 0x70, 0x70, 0x6C,
    0x65, 0x49, 0x6E, 0x74, 0x65, 0x6C, 0x53, 0x4B, 0x4C, 0x47, 0x72, 0x61, 0x70, 0x68, 0x69,
    0x63, 0x73, 0x4D, 0x54, 0x4C, 0x44, 0x72, 0x69, 0x76, 0x65, 0x72, 0x2E, 0x62, 0x75, 0x6E,
    0x64, 0x6C, 0x65, 0x2F, 0x43, 0x6F, 0x6E, 0x74, 0x65, 0x6E, 0x74, 0x73, 0x2F, 0x52, 0x65,
    0x73, 0x6F, 0x75, 0x72, 0x63, 0x65, 0x73, 0x2F, 0x72, 0x75, 0x6E, 0x74, 0x69, 0x6D, 0x65,
    0x2E, 0x67, 0x70, 0x75, 0x65, 0x6E, 0x63, 0x6F, 0x64, 0x65, 0x2E, 0x73, 0x70, 0x6C, 0x69,
    0x74, 0x00]

def klibMTLIGCCompilerPluginPatched2 : List (BitVec 8) :=
  [0x2F, 0x53, 0x79, 0x73, 0x74, 0x65, 0x6D, 0x2F, 0x4C, 0x69, 0x62, 0x72, 0x61, 0x72, 0x79, 0x2F,
    0x45, 0x78, 0x74, 0x65, 0x6E, 0x73, 0x69, 0x6F, 0x6E, 0x73, 0x2F, 0x41, 0x70, 0x70, 0x6C,
    0x65, 0x49, 0x6E, 0x74, 0x65, 0x6C, 0x54, 0x47, 0x4C, 0x47, 0x72, 0x61, 0x70, 0x68, 0x69,
    0x63, 0x73, 0x4D, 0x54, 0x4C, 0x44, 0x72, 0x69, 0x76, 0x65, 0x72, 0x2E, 0x62, 0x75, 0x6E,
    0x64, 0x6C, 0x65, 0x2F, 0x43, 0x6F, 0x6E, 0x74, 0x65, 0x6E, 0x74, 0x73, 0x2F, 0x52, 0x65,
    0x73, 0x6F, 0x75, 0x72, 0x63, 0x65, 0x73, 0x2F, 0x72, 0x75, 0x6E, 0x74, 0x69, 0x6D, 0x65,
    0x2E, 0x67, 0x70, 0x75, 0x65, 0x6E, 0x63, 0x6F, 0x64, 0x65, 0x2E, 0x73, 0x70, 0x6C, 0x69,
    0x74, 0x00]

def kVideoToolboxDRMModelOriginal : List (BitVec 8) :=
  literalBytes "MacPro5,1\x00MacPro6,1\x00IOService\x00"

def kAGVABoardIdOriginal : List (BitVec 8) :=
  literalBytes "board-id\x00hw.model\x00"

def kAGVABoardIdPatched : List (BitVec 8) :=
  literalBytes "hwgva-id\x00hw.model\x00"

def kHEVCEncBoardIdOriginal : List (BitVec 8) :=
  literalBytes "vendor8bit\x00IOService\x00board-id\x00"

def kHEVCEncBoardIdPatched : List (BitVec 8) :=
  literalBytes "vendor8bit\x00IOService\x00hwgva-id\x00"

def f3bSonoma : List (BitVec 8) :=
  [0x75, 0x0A, 0xE8, 0x79, 0x03, 0x0B, 0x00, 0xE9, 0xE6, 0xF6, 0xFF, 0xFF, 0x83, 0xBD, 0xC0, 0xFE,
    0xFF, 0xFF, 0x00, 0x48, 0x8D, 0x05, 0xF2, 0x76, 0x0C, 0x00]

def r3bSonoma : List (BitVec 8) :=
  [0x90, 0x90, 0xE8, 0x79, 0x03, 0x0B, 0x00, 0xE9, 0xE6, 0xF6, 0xFF, 0xFF, 0x83, 0xBD, 0xC0, 0xFE,
    0xFF, 0xFF, 0x00, 0x48, 0x8D, 0x05, 0xF2, 0x76, 0x0C, 0x00]

def fGetmtltexSonoma : List (BitVec 8) :=
  [0x55, 0x48, 0x89, 0xE5, 0x41, 0x57, 0x41, 0x56, 0x41, 0x55, 0x41, 0x54, 0x53, 0x48, 0x81, 0xEC,
    0x68, 0x01, 0x00, 0x00, 0x49, 0x89, 0xF6, 0x49, 0x89, 0xFF]

def rGetmtltexSonoma : List (BitVec 8) :=
  [0x31, 0xC0, 0xC3, 0x90, 0x90, 0x90, 0x90, 0x90, 0x90, 0x90, 0x90, 0x90, 0x90, 0x90, 0x90, 0x90,
    0x90, 0x90, 0x90, 0x90, 0x90, 0x90, 0x90, 0x90, 0x90, 0x90]

def fGetmtlcqSonoma : List (BitVec 8) :=
  [0x55, 0x48, 0x89, 0xE5, 0x41, 0x57, 0x41, 0x56, 0x53, 0x48, 0x81, 0xEC, 0x88, 0x00, 0x00, 0x00,
    0x48, 0x8B, 0x05, 0xE9, 0x29, 0x88, 0x3F, 0x48, 0x8B, 0x00]

def rGetmtlcqSonoma : List (BitVec 8) :=
  [0x31, 0xC0, 0xC3, 0x90, 0x90, 0x90, 0x90, 0x90, 0x90, 0x90, 0x90, 0x90, 0x90, 0x90, 0x90, 0x90,
    0x90, 0x90, 0x90, 0x90, 0x90, 0x90, 0x90, 0x90, 0x90, 0x90]

def fSkipfdpSonoma : List (BitVec 8) :=
  [0x55, 0x48, 0x89, 0xE5, 0x41, 0x57, 0x41, 0x56, 0x41, 0x55, 0x41, 0x54, 0x53, 0x48, 0x81, 0xEC,
    0x78, 0x05, 0x00, 0x00, 0x48, 0x89, 0xB5, 0x88, 0xFB, 0xFF, 0xFF]

def rSkipfdpSonoma : List (BitVec 8) :=
  [0xC3, 0x90, 0x90, 0x90, 0x90, 0x90, 0x90, 0x90, 0x90, 0x90, 0x90, 0x90, 0x90, 0x90, 0x90, 0x90,
    0x90, 0x90, 0x90, 0x90, 0x90, 0x90, 0x90, 0x90, 0x90, 0x90, 0x90]

def fSkippresentSonoma : List (BitVec 8) :=
  [0x55, 0x48, 0x89, 0xE5, 0x41, 0x57, 0x41, 0x56, 0x41, 0x55, 0x41, 0x54, 0x53, 0x48, 0x81, 0xEC,
    0xA8, 0x00, 0x00, 0x00, 0x49, 0x89, 0xCE, 0x89, 0xD3, 0x49, 0x89, 0xF4, 0x49, 0x89, 0xFF]

def rSkippresentSonoma : List (BitVec 8) :=
  [0xC3, 0x90, 0x90, 0x90, 0x90, 0x90, 0x90, 0x90, 0x90, 0x90, 0x90, 0x90, 0x90, 0x90, 0x90, 0x90,
    0x90, 0x90, 0x90, 0x90, 0x90, 0x90, 0x90, 0x90, 0x90, 0x90, 0x90, 0x90, 0x90, 0x90, 0x90]

def fSkipacSonoma : List (BitVec 8) :=
  [0x55, 0x48, 0x89, 0xE5, 0x41, 0x57, 0x41, 0x56, 0x41, 0x55, 0x41, 0x54, 0x53, 0x48, 0x81, 0xEC,
    0xD8, 0x01, 0x00, 0x00, 0x48, 0x8B, 0x05, 0xC1, 0xAA, 0x8F, 0x3F, 0x48, 0x8B, 0x00, 0x48,
    0x89, 0x45, 0xD0]

def rSkipacSonoma : List (BitVec 8) :=
  [0xC3, 0x90, 0x90, 0x90, 0x90, 0x90, 0x90, 0x90, 0x90, 0x90, 0x90, 0x90, 0x90, 0x90, 0x90, 0x90,
    0x90, 0x90, 0x90, 0x90, 0x90, 0x90, 0x90, 0x90, 0x90, 0x90, 0x90, 0x90, 0x90, 0x90, 0x90,
    0x90, 0x90, 0x90]

def f4SkylSonoma : List (BitVec 8) :=
  [0x0F, 0x84, 0x9E, 0x00, 0x00, 0x00, 0xE8, 0x75, 0x3D, 0xEC, 0xFF, 0x4C, 0x8B, 0x3D, 0x58, 0xCC,
    0x91, 0x3E, 0x4C, 0x89, 0xFF, 0xBE, 0x10, 0x00, 0x00, 0x00, 0xE8, 0x09, 0xEA, 0x1C, 0x00,
    0x84, 0xC0, 0x0F, 0x84, 0x51, 0xFA, 0xFF, 0xFF]

def r4SkylSonoma : List (BitVec 8) :=
  [0x90, 0x90, 0x90, 0x90, 0x90, 0x90, 0xE8, 0x75, 0x3D, 0xEC, 0xFF, 0x4C, 0x8B, 0x3D, 0x58, 0xCC,
    0x91, 0x3E, 0x4C, 0x89, 0xFF, 0xBE, 0x10, 0x00, 0x00, 0x00, 0xE8, 0x09, 0xEA, 0x1C, 0x00,
    0x84, 0xC0, 0x0F, 0x84, 0x51, 0xFA, 0xFF, 0xFF]

def fRunfdpGuardSonoma : List (BitVec 8) :=
  [0x49, 0x8B, 0xBE, 0x88, 0x08, 0x00, 0x00, 0x48, 0x8B, 0x07, 0xFF, 0x50, 0x28]

def rRunfdpGuardSonoma : List (BitVec 8) :=
  [0x49, 0x8B, 0xBE, 0x88, 0x08, 0x00, 0x00, 0x48, 0x85, 0xFF, 0x74, 0x06, 0x90]

/-! ## Boot arguments -/

/-- The boot arguments the hook reads. -/
structure MetalBootArgs where
  /-- `ngreenfullmtl` -/
  fullMTL : BootFlag
  /-- `-ngreenNoMetal` -/
  noMetal : Bool
  /-- `-ngreenFullMTLTest` -/
  fullMTLTest : Bool
  /-- `ngreenFullMTLStage`, an `int` -/
  fullMTLStage : Option Int
  /-- `-ngreenSkylBypass` -/
  skylBypass : Bool
  deriving DecidableEq, Repr

def shouldForceFullMetalPath (boot : MetalBootArgs) : Bool := boot.fullMTL.enabled

def shouldDisableMetalPath (boot : MetalBootArgs) : Bool := boot.noMetal

def getLegacyFullMTLStage (boot : MetalBootArgs) : Int :=
  match boot.fullMTLStage with
  | some stage => if stage < 0 then 0 else if stage > 3 then 3 else stage
  | none => if boot.fullMTLTest then 1 else 0

def shouldEnableSkyLightBypass (boot : MetalBootArgs) : Bool := boot.skylBypass

/-! ## The hook -/

/-- What the hook depends on. -/
structure DyldEnv where
  lilu : Lilu
  boot : MetalBootArgs
  /-- `getKernelVersion() >= KernelVersion::Ventura` -/
  isVentura : Bool
  /-- `BaseDeviceInfo::get().modelIdentifier` -/
  modelIdentifier : Vector (BitVec 8) 48

def coreLSKDPatch : DYLDPatch := { find := kCoreLSKDOriginal, replace := kCoreLSKDPatched }

def tglMTLDriverPatches : List DYLDPatch :=
  [{ find := kTGLGraphicsMTLDrivero, replace := kTGLGraphicsMTLDriverp }]

def igcPluginPatches : List DYLDPatch :=
  [{ find := klibMTLIGCCompilerPluginOriginal, replace := klibMTLIGCCompilerPluginPatched },
    { find := klibMTLIGCCompilerPluginOriginal2, replace := klibMTLIGCCompilerPluginPatched2 }]

def boardIdPatches : List DYLDPatch :=
  [{ find := kAGVABoardIdOriginal, replace := kAGVABoardIdPatched },
    { find := kHEVCEncBoardIdOriginal, replace := kHEVCEncBoardIdPatched }]

/-- CoreDisplay assertion bypass, and so on; one name for each pair of arrays. -/
def assertionBypass : DYLDPatch := { find := f3bSonoma, replace := r3bSonoma }
def getMTLTextureStub : DYLDPatch := { find := fGetmtltexSonoma, replace := rGetmtltexSonoma }
def getMTLCommandQueueStub : DYLDPatch := { find := fGetmtlcqSonoma, replace := rGetmtlcqSonoma }
def runFullDisplayPipeSkip : DYLDPatch := { find := fSkipfdpSonoma, replace := rSkipfdpSonoma }
def presentSkip : DYLDPatch := { find := fSkippresentSonoma, replace := rSkippresentSonoma }
def accessCompleteSkip : DYLDPatch := { find := fSkipacSonoma, replace := rSkipacSonoma }
def skyLightBypass : DYLDPatch := { find := f4SkylSonoma, replace := r4SkylSonoma }
def runFullDisplayPipeGuard : DYLDPatch :=
  { find := fRunfdpGuardSonoma, replace := rRunfdpGuardSonoma }

def noMetalPatches : List DYLDPatch :=
  [assertionBypass, runFullDisplayPipeSkip, presentSkip, getMTLTextureStub, accessCompleteSkip]

def stage1Patches : List DYLDPatch := [assertionBypass, accessCompleteSkip]

def stage2Patches : List DYLDPatch :=
  [assertionBypass, accessCompleteSkip, getMTLTextureStub, getMTLCommandQueueStub]

def stage3Patches : List DYLDPatch :=
  [assertionBypass, getMTLTextureStub, getMTLCommandQueueStub, runFullDisplayPipeGuard]

def stage3SkylPatches : List DYLDPatch :=
  [assertionBypass, getMTLTextureStub, getMTLCommandQueueStub, runFullDisplayPipeGuard,
    skyLightBypass]

def guardedDefaultPatches : List DYLDPatch :=
  [assertionBypass, getMTLTextureStub, getMTLCommandQueueStub, runFullDisplayPipeGuard]

/-- The list the hook chooses from Ventura on.  `forceFullMTL` is read and logged, and has no
part in the choice. -/
def metalPatches (boot : MetalBootArgs) : List DYLDPatch :=
  let fullMTLStage := getLegacyFullMTLStage boot
  if shouldDisableMetalPath boot then noMetalPatches
  else if fullMTLStage > 0 then
    if fullMTLStage = 1 then stage1Patches
    else if fullMTLStage = 2 then stage2Patches
    else if shouldEnableSkyLightBypass boot then stage3SkylPatches
    else stage3Patches
  else guardedDefaultPatches

/-- The hook on a page of the shared cache. -/
def patchSharedCachePage (env : DyldEnv) (data : Page) : Page :=
  let data := env.lilu.findAndReplace data kVideoToolboxDRMModelOriginal
    (env.modelIdentifier.toList.take 20)
  let data := DYLDPatch.applyAll env.lilu boardIdPatches data
  if env.isVentura then DYLDPatch.applyAll env.lilu (metalPatches env.boot) data else data

/-- `strncmp` against a path, over its `arrsize`. -/
def comparePath (path expected : List (BitVec 8)) : Int :=
  strncmp path expected (expected.length + 1)

/-- The page after the hook.  `path` is the buffer `vn_getpath` fills, `none` where it fails. -/
def wrapCsValidatePage (env : DyldEnv) (path : Option (List (BitVec 8))) (data : Page) : Page :=
  match path with
  | none => data
  | some path =>
      if !env.lilu.matchSharedCachePath path then
        if comparePath path kCoreLSKDMSEPath ≠ 0 ∨ comparePath path kCoreLSKDPath ≠ 0 then
          let data := if comparePath path tglGraphicsMTLDriver = 0
            then DYLDPatch.applyAll env.lilu tglMTLDriverPatches data else data
          if comparePath path libMTLIGCCompilerPluginPath = 0
            then DYLDPatch.applyAll env.lilu igcPluginPatches data else data
        else coreLSKDPatch.apply env.lilu data
      else patchSharedCachePage env data

end NootedGreen

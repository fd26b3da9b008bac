/-
# `Hooks.KextPatches` — the byte patches of the kexts

A kext is patched by looking for bytes and putting others in their place, as often as the
patch says.  A mask leaves bytes open, in what is looked for and in what is put:

    kext                      lists
    framebuffer, production   twelve patches
    framebuffer, debug        eleven, and one more on request
    accelerator               one; off real TGL four more, and one that may fail
    IOAcceleratorFamily2      two that may fail

Most of them are code.  Whatever the state and whatever the functions they call do, the
patched code is left where the original could have been left: at its end or at the target of
one of its own jumps (`patched_code_exits`).

**What is left out.**  Patches in the source that no list contains; what the production
patches of the connector table and of the panel power registers mean, which are data.
-/
import NootedGreen.Hooks.PatcherPlus
import NootedGreen.Lib.X86

namespace NootedGreen

open X86 (Text Env decodeBlock exitOffsets Returns)
open Patching (At)

/-! ## The bytes -/

namespace FramebufferKext

/-- power well. -/
def f1 : List (BitVec 8) :=
  [0xE8, 0x99, 0x9F, 0xFD, 0xFF, 0x89, 0x45, 0xC8, 0x3D, 0xFF, 0xFF, 0x00, 0x00, 0x74, 0x78]

def r1 : List (BitVec 8) :=
  [0xE8, 0x99, 0x9F, 0xFD, 0xFF, 0x89, 0x45, 0xC8, 0x3D, 0xFF, 0xFF, 0x00, 0x00, 0xEB, 0x78]

/-- power well, production. -/
def f1p : List (BitVec 8) :=
  [0xE8, 0x66, 0xB0, 0xFE, 0xFF, 0x89, 0x45, 0xC8, 0x3D, 0xFF, 0xFF, 0x00, 0x00, 0x74, 0x45]

def r1p : List (BitVec 8) :=
  [0xE8, 0x66, 0xB0, 0xFE, 0xFF, 0x89, 0x45, 0xC8, 0x3D, 0xFF, 0xFF, 0x00, 0x00, 0xEB, 0x45]

/-- osinfo. -/
def f2 : List (BitVec 8) :=
  [0xC7, 0x05, 0x07, 0x81, 0x10, 0x00, 0x01, 0x03, 0x09, 0x03, 0xB8, 0x00, 0x00, 0x00, 0x04]

def r2 : List (BitVec 8) :=
  [0xC7, 0x05, 0x07, 0x81, 0x10, 0x00, 0x01, 0x04, 0x03, 0x02, 0xB8, 0x00, 0x00, 0x00, 0x04]

/-- osinfo, production. -/
def f2p : List (BitVec 8) :=
  [0xC7, 0x05, 0x57, 0xE5, 0x0B, 0x00, 0x01, 0x03, 0x09, 0x03]

def r2p : List (BitVec 8) :=
  [0xC7, 0x05, 0x57, 0xE5, 0x0B, 0x00, 0x01, 0x04, 0x03, 0x02]

/-- mem. -/
def f2d : List (BitVec 8) :=
  [0x0F, 0x94, 0xC0, 0xB9, 0x00, 0x00, 0x10, 0x00, 0xBA, 0x00, 0x00, 0x80, 0x00]

def r2d : List (BitVec 8) :=
  [0x0F, 0x94, 0xC0, 0xB9, 0x00, 0x00, 0x10, 0x00, 0xBA, 0x00, 0x00, 0x40, 0x00]

/-- mem, production. -/
def f2dp : List (BitVec 8) :=
  [0xB8, 0x00, 0x00, 0x10, 0x00, 0xBA, 0x00, 0x00, 0x80, 0x00, 0x0F, 0x44, 0xD0, 0x0F, 0x94,
    0xC1, 0x48, 0x01, 0x0D, 0xA2, 0xD0, 0x09, 0x00]

def r2dp : List (BitVec 8) :=
  [0xB8, 0x00, 0x00, 0x10, 0x00, 0xBA, 0x00, 0x00, 0x40, 0x00, 0x0F, 0x44, 0xD0, 0x0F, 0x94,
    0xC1, 0x48, 0x01, 0x0D, 0xA2, 0xD0, 0x09, 0x00]

/-- conn. -/
def f3 : List (BitVec 8) :=
  [0x00, 0x00, 0x00, 0x00, 0x00, 0x00, 0x00, 0x00, 0x00, 0x00, 0x00, 0x00, 0x00, 0x00, 0x00,
    0x00, 0x02, 0x00, 0x00, 0x00, 0x18, 0x00, 0x00, 0x00, 0x01, 0x00, 0x00, 0x00, 0x02, 0x00,
    0x00, 0x00, 0x01, 0x00, 0x00, 0x00, 0x00, 0x00, 0x00, 0x00, 0x00, 0x04, 0x00, 0x00, 0x01,
    0x02, 0x00, 0x00, 0x02, 0x00, 0x00, 0x00, 0x03, 0x00, 0x00, 0x00, 0x01, 0x00, 0x00, 0x00,
    0x00, 0x00, 0x00, 0x00, 0x00, 0x04, 0x00, 0x00, 0x01, 0x02, 0x00, 0x00, 0x03, 0x00, 0x00,
    0x00, 0x09, 0x00, 0x00, 0x00, 0x01, 0x00, 0x00, 0x00, 0x01, 0x00, 0x00, 0x00, 0x00, 0x04,
    0x00, 0x00, 0x01, 0x02, 0x00, 0x00, 0x04, 0x00, 0x00, 0x00, 0x0A, 0x00, 0x00, 0x00, 0x01,
    0x00, 0x00, 0x00, 0x01, 0x00, 0x00, 0x00, 0x00, 0x04, 0x00, 0x00, 0x01, 0x02, 0x00, 0x00,
    0x05, 0x00, 0x00, 0x00, 0x0B, 0x00, 0x00, 0x00, 0x01, 0x00, 0x00, 0x00, 0x01, 0x00, 0x00,
    0x00, 0x00, 0x04, 0x00, 0x00, 0x01, 0x02, 0x00, 0x00, 0x06, 0x00, 0x00, 0x00, 0x0C, 0x00,
    0x00, 0x00, 0x01, 0x00, 0x00, 0x00, 0x01, 0x00, 0x00, 0x00, 0x00, 0x04, 0x00, 0x00, 0x01,
    0x02, 0x00, 0x00, 0x07, 0x00, 0x00, 0x00, 0x0D, 0x00, 0x00, 0x00, 0x01, 0x00, 0x00, 0x00,
    0x01, 0x00, 0x00, 0x00, 0x00, 0x04, 0x00, 0x00, 0x01, 0x02, 0x00, 0x00, 0x08, 0x00, 0x00,
    0x00, 0x0E, 0x00, 0x00, 0x00, 0x01, 0x00, 0x00, 0x00, 0x01, 0x00, 0x00, 0x00, 0x00, 0x04,
    0x00, 0x00, 0x01, 0x02, 0x00, 0x00]

def r3 : List (BitVec 8) :=
  [0x00, 0x00, 0x00, 0x00, 0x00, 0x00, 0x00, 0x00, 0x01, 0x00, 0x00, 0x00, 0x01, 0x00, 0x00,
    0x00, 0x02, 0x00, 0x00, 0x00, 0x18, 0x00, 0x00, 0x00, 0x01, 0x00, 0x00, 0x00, 0x02, 0x00,
    0x00, 0x00, 0x01, 0x00, 0x00, 0x00, 0x00, 0x00, 0x00, 0x00, 0x00, 0x04, 0x00, 0x00, 0x01,
    0x02, 0x00, 0x00, 0x02, 0x00, 0x00, 0x00, 0x03, 0x00, 0x00, 0x00, 0x01, 0x00, 0x00, 0x00,
    0x00, 0x00, 0x00, 0x00, 0x00, 0x08, 0x00, 0x00, 0x01, 0x02, 0x00, 0x00, 0x00, 0x00, 0x00,
    0x00, 0x00, 0x00, 0x00, 0x00, 0x00, 0x00, 0x00, 0x00, 0x00, 0x00, 0x00, 0x00, 0x00, 0x00,
    0x00, 0x00, 0x00, 0x00, 0x00, 0x00, 0x00, 0x00, 0x00, 0x00, 0x00, 0x00, 0x00, 0x00, 0x00,
    0x00, 0x00, 0x00, 0x00, 0x00, 0x00, 0x00, 0x00, 0x00, 0x00, 0x00, 0x00, 0x00, 0x00, 0x00,
    0x00, 0x00, 0x00, 0x00, 0x00, 0x00, 0x00, 0x00, 0x00, 0x00, 0x00, 0x00, 0x00, 0x00, 0x00,
    0x00, 0x00, 0x00, 0x00, 0x00, 0x00, 0x00, 0x00, 0x00, 0x00, 0x00, 0x00, 0x00, 0x00, 0x00,
    0x00, 0x00, 0x00, 0x00, 0x00, 0x00, 0x00, 0x00, 0x00, 0x00, 0x00, 0x00, 0x00, 0x00, 0x00,
    0x00, 0x00, 0x00, 0x00, 0x00, 0x00, 0x00, 0x00, 0x00, 0x00, 0x00, 0x00, 0x00, 0x00, 0x00,
    0x00, 0x00, 0x00, 0x00, 0x00, 0x00, 0x00, 0x00, 0x00, 0x00, 0x00, 0x00, 0x00, 0x00, 0x00,
    0x00, 0x00, 0x00, 0x00, 0x00, 0x00, 0x00, 0x00, 0x00, 0x00, 0x00, 0x00, 0x00, 0x00, 0x00,
    0x00, 0x00, 0x00, 0x00, 0x00, 0x00]

/-- lcd power reg. -/
def f4 : List (BitVec 8) :=
  [0x00, 0x72, 0x0C, 0x00]

def r4 : List (BitVec 8) :=
  [0x00, 0x12, 0x06, 0x00]

def f4a : List (BitVec 8) :=
  [0x04, 0x72, 0x0C, 0x00]

def r4a : List (BitVec 8) :=
  [0x04, 0x12, 0x06, 0x00]

def f4b : List (BitVec 8) :=
  [0x08, 0x72, 0x0C, 0x00]

def r4b : List (BitVec 8) :=
  [0x08, 0x12, 0x06, 0x00]

def f4c : List (BitVec 8) :=
  [0x0C, 0x72, 0x0C, 0x00]

def r4c : List (BitVec 8) :=
  [0x0C, 0x12, 0x06, 0x00]

/-- ReadRegister64. -/
def f7 : List (BitVec 8) :=
  [0x83, 0xC0, 0xFC, 0x48, 0x39, 0xF0, 0x76, 0x11, 0x48, 0x8B, 0x47, 0x50, 0x48, 0xFF, 0x05,
    0xCA, 0xF5, 0x0C, 0x00]

def r7 : List (BitVec 8) :=
  [0x83, 0xC0, 0xF8, 0x48, 0x39, 0xF0, 0x76, 0x11, 0x48, 0x8B, 0x47, 0x50, 0x48, 0xFF, 0x05,
    0xCA, 0xF5, 0x0C, 0x00]

/-- ReadRegister64, production. -/
def f7p : List (BitVec 8) :=
  [0x83, 0xC0, 0xFC, 0x48, 0x39, 0xF0, 0x76, 0x11, 0x48, 0x8B, 0x47, 0x50, 0x48, 0xFF, 0x05,
    0x84, 0x40, 0x08, 0x00]

def r7p : List (BitVec 8) :=
  [0x83, 0xC0, 0xF8, 0x48, 0x39, 0xF0, 0x76, 0x11, 0x48, 0x8B, 0x47, 0x50, 0x48, 0xFF, 0x05,
    0x84, 0x40, 0x08, 0x00]

/-- hwreg. -/
def f10 : List (BitVec 8) :=
  [0xE8, 0xAF, 0xE2, 0xFF, 0xFF, 0x84, 0xC0, 0x74, 0x5B]

def r10 : List (BitVec 8) :=
  [0xE8, 0xAF, 0xE2, 0xFF, 0xFF, 0x84, 0xC0, 0xEB, 0x5B]

/-- hwreg, production. -/
def f10p : List (BitVec 8) :=
  [0xE8, 0x9E, 0xF3, 0xFF, 0xFF, 0x84, 0xC0, 0x74, 0x3D]

def r10p : List (BitVec 8) :=
  [0xE8, 0x9E, 0xF3, 0xFF, 0xFF, 0x84, 0xC0, 0xEB, 0x3D]

/-- probeportmode. -/
def f13 : List (BitVec 8) :=
  [0xFF, 0x91, 0x90, 0x01, 0x00, 0x00, 0x83, 0xF8, 0x02, 0x0F, 0x84, 0xEC, 0x00, 0x00, 0x00]

def r13 : List (BitVec 8) :=
  [0x90, 0x90, 0x90, 0x90, 0x90, 0x90, 0x90, 0x90, 0x90, 0x90, 0x90, 0x90, 0x90, 0x90, 0x90]

def f13b : List (BitVec 8) :=
  [0xFF, 0x90, 0x90, 0x01, 0x00, 0x00, 0x49, 0x8B, 0x0E, 0x4C, 0x89, 0xF7, 0x89, 0xC6, 0xFF,
    0x91, 0x38, 0x01, 0x00, 0x00]

def r13b : List (BitVec 8) :=
  [0xC7, 0xC0, 0x01, 0x00, 0x00, 0x00, 0x49, 0x8B, 0x0E, 0x4C, 0x89, 0xF7, 0x89, 0xC6, 0xFF,
    0x91, 0x38, 0x01, 0x00, 0x00]

/-- getHPDState. -/
def f19 : List (BitVec 8) :=
  [0xBE, 0x70, 0x44, 0x04, 0x00]

def r19 : List (BitVec 8) :=
  [0xBE, 0xA0, 0x38, 0x16, 0x00]

/-- savenvram. -/
def f20p : List (BitVec 8) :=
  [0xFF, 0x90, 0xF8, 0x09, 0x00, 0x00, 0x41, 0x89, 0xC6, 0x48, 0x85, 0xDB, 0x74, 0x17]

def r20p : List (BitVec 8) :=
  [0x90, 0x90, 0x90, 0x90, 0x90, 0x90, 0x90, 0x90, 0x90, 0x48, 0x85, 0xDB, 0x74, 0x17]

end FramebufferKext

namespace AcceleratorKext

/-- Device identifiers. -/
def f3 : List (BitVec 8) :=
  [0x8B, 0x3E, 0x81, 0xFF, 0xEE, 0xBE, 0xAF, 0xDE, 0x7F, 0x15, 0x81, 0xFF, 0x86, 0x80, 0x40,
    0x9A, 0x74, 0x2D]

def r3 : List (BitVec 8) :=
  [0x8B, 0x3E, 0x81, 0xFF, 0xEE, 0xBE, 0xAF, 0xDE, 0x90, 0x90, 0x81, 0xFF, 0x86, 0x80, 0x40,
    0x9A, 0xEB, 0x2D]

/-- `L3BankCount`. -/
def f3b : List (BitVec 8) :=
  [0x74, 0x23, 0x83, 0xF9, 0x02, 0x0F, 0x85, 0x89, 0x01, 0x00, 0x00, 0x83, 0xFE, 0x01, 0x75,
    0x59, 0x83, 0xFA, 0x0C, 0x75, 0x54, 0x41, 0xC7, 0x87, 0x64, 0x11, 0x00, 0x00, 0x08, 0x00,
    0x00, 0x00]

def r3b : List (BitVec 8) :=
  [0x90, 0x90, 0x83, 0xF9, 0x02, 0x90, 0x90, 0x90, 0x90, 0x90, 0x90, 0x83, 0xFE, 0x01, 0x90,
    0x90, 0x83, 0xFA, 0x0C, 0x90, 0x90, 0x41, 0xC7, 0x87, 0x64, 0x11, 0x00, 0x00, 0x08, 0x00,
    0x00, 0x00]

/-- `MaxEUPerSubSlice`. -/
def f3bb : List (BitVec 8) :=
  [0xBE, 0x08, 0x00, 0x00, 0x00, 0x29, 0xDE, 0x41, 0x89, 0xB7, 0x6C, 0x11, 0x00, 0x00, 0x41,
    0x8B, 0x8F, 0x58, 0x11, 0x00, 0x00]

def r3bb : List (BitVec 8) :=
  [0xBE, 0x08, 0x00, 0x00, 0x00, 0x90, 0x90, 0x41, 0x89, 0xB7, 0x6C, 0x11, 0x00, 0x00, 0x41,
    0x8B, 0x8F, 0x58, 0x11, 0x00, 0x00]

/-- `NumSubSlices`. -/
def f3bbb : List (BitVec 8) :=
  [0x8B, 0x5D, 0xD0, 0xF3, 0x0F, 0xB8, 0xF3, 0x01, 0xF6, 0x41, 0x89, 0xB7, 0x58, 0x11, 0x00,
    0x00]

def r3bbb : List (BitVec 8) :=
  [0x8B, 0x5D, 0xD0, 0xBE, 0x0A, 0x00, 0x00, 0x00, 0x90, 0x41, 0x89, 0xB7, 0x58, 0x11, 0x00,
    0x00]

/-- `IGAccelDevice::deviceStart`. -/
def fDevstart : List (BitVec 8) :=
  [0xFF, 0x90, 0x70, 0x09, 0x00, 0x00, 0x84, 0xC0, 0x74, 0x00, 0x48, 0x8D, 0x00]

def mDevstart : List (BitVec 8) :=
  [0xFF, 0xFF, 0xFF, 0xFF, 0xFF, 0xFF, 0xFF, 0xFF, 0xFF, 0x00, 0xFF, 0xFF, 0x00]

def rDevstart : List (BitVec 8) :=
  [0xFF, 0x90, 0x70, 0x09, 0x00, 0x00, 0x84, 0xC0, 0x90, 0x90, 0x48, 0x8D, 0x00]

def rmDevstart : List (BitVec 8) :=
  [0x00, 0x00, 0x00, 0x00, 0x00, 0x00, 0x00, 0x00, 0xFF, 0xFF, 0x00, 0x00, 0x00]

/-- The same with a long jump. -/
def fDevstartLong : List (BitVec 8) :=
  [0xFF, 0x90, 0x70, 0x09, 0x00, 0x00, 0x84, 0xC0, 0x0F, 0x84, 0x00, 0x00, 0x00, 0x00]

def mDevstartLong : List (BitVec 8) :=
  [0xFF, 0xFF, 0xFF, 0xFF, 0xFF, 0xFF, 0xFF, 0xFF, 0xFF, 0xFF, 0x00, 0x00, 0x00, 0x00]

def rDevstartLong : List (BitVec 8) :=
  [0xFF, 0x90, 0x70, 0x09, 0x00, 0x00, 0x84, 0xC0, 0x90, 0x90, 0x90, 0x90, 0x90, 0x90]

def rmDevstartLong : List (BitVec 8) :=
  [0x00, 0x00, 0x00, 0x00, 0x00, 0x00, 0x00, 0x00, 0xFF, 0xFF, 0xFF, 0xFF, 0xFF, 0xFF]

end AcceleratorKext

namespace IOAcceleratorFamily2

def f2F : List (BitVec 8) :=
  [0x41, 0x54, 0x53, 0x50, 0xF7, 0xC2, 0x00, 0x00, 0x00, 0x00, 0x74, 0x00]

def f2M : List (BitVec 8) :=
  [0xFF, 0xFF, 0xFF, 0xFF, 0xFF, 0xFF, 0x00, 0x00, 0x00, 0x00, 0xFF, 0x00]

def f2R : List (BitVec 8) :=
  [0x00, 0x00, 0x00, 0x00, 0x00, 0x00, 0x00, 0x00, 0x00, 0x00, 0xEB, 0x00]

def f2Rm : List (BitVec 8) :=
  [0x00, 0x00, 0x00, 0x00, 0x00, 0x00, 0x00, 0x00, 0x00, 0x00, 0xFF, 0x00]

def f1F : List (BitVec 8) :=
  [0x75, 0x00, 0x49, 0x8B, 0x87, 0x00, 0x00, 0x00, 0x00, 0x4C, 0x8B, 0x80, 0x00, 0x00, 0x00,
    0x00, 0x45, 0x8B, 0x8F]

def f1M : List (BitVec 8) :=
  [0xFF, 0x00, 0xFF, 0xFF, 0xFF, 0x00, 0x00, 0x00, 0x00, 0xFF, 0xFF, 0xFF, 0x00, 0x00, 0x00,
    0x00, 0xFF, 0xFF, 0xFF]

def f1R : List (BitVec 8) :=
  [0x90, 0x90, 0x00, 0x00, 0x00, 0x00, 0x00, 0x00, 0x00, 0x00, 0x00, 0x00, 0x00, 0x00, 0x00,
    0x00, 0x00, 0x00, 0x00]

def f1Rm : List (BitVec 8) :=
  [0xFF, 0xFF, 0x00, 0x00, 0x00, 0x00, 0x00, 0x00, 0x00, 0x00, 0x00, 0x00, 0x00, 0x00, 0x00,
    0x00, 0x00, 0x00, 0x00]

end IOAcceleratorFamily2

/-! ## The patches -/

/-- A patch without masks that skips nothing. -/
def lookupPatch (kext : Nat) (find replace : List (BitVec 8)) (count : Nat)
    (size_eq : replace.length = find.length := by decide +kernel) : LookupPatchPlus where
  kext := kext
  find := find
  replace := replace
  count := count
  size_eq := size_eq
  findMask := none
  replaceMask := none
  skip := 0

def maskedPatch (kext : Nat) (find findMask replace replaceMask : List (BitVec 8)) (count : Nat)
    (size_eq : replace.length = find.length := by decide +kernel) : LookupPatchPlus where
  kext := kext
  find := find
  replace := replace
  count := count
  size_eq := size_eq
  findMask := some findMask
  replaceMask := some replaceMask
  skip := 0

def kextIOAcceleratorFamily2 : Nat := 3

def kextG11FBT : Nat := 4

def kextG11HWT : Nat := 5

namespace FramebufferKext

/-- `patchesp`. -/
def patchesProduction : List LookupPatchPlus :=
  [lookupPatch kextG11FBT f1p r1p 1, lookupPatch kextG11FBT f2p r2p 1,
    lookupPatch kextG11FBT f2dp r2dp 1, lookupPatch kextG11FBT f3 r3 1,
    lookupPatch kextG11FBT f4 r4 11, lookupPatch kextG11FBT f4a r4a 11,
    lookupPatch kextG11FBT f4b r4b 2, lookupPatch kextG11FBT f4c r4c 2,
    lookupPatch kextG11FBT f7p r7p 1, lookupPatch kextG11FBT f10p r10p 1,
    lookupPatch kextG11FBT f19 r19 1, lookupPatch kextG11FBT f20p r20p 1]

def patches : List LookupPatchPlus :=
  [lookupPatch kextG11FBT f1 r1 1, lookupPatch kextG11FBT f2d r2d 1,
    lookupPatch kextG11FBT f3 r3 1, lookupPatch kextG11FBT f4 r4 12,
    lookupPatch kextG11FBT f4a r4a 11, lookupPatch kextG11FBT f4b r4b 2,
    lookupPatch kextG11FBT f4c r4c 2, lookupPatch kextG11FBT f7 r7 1,
    lookupPatch kextG11FBT f10 r10 1, lookupPatch kextG11FBT f13 r13 1,
    lookupPatch kextG11FBT f13b r13b 1]

def probeF2Patch : List LookupPatchPlus := [lookupPatch kextG11FBT f2 r2 1]

end FramebufferKext

namespace AcceleratorKext

def patchesAlways : List LookupPatchPlus := [lookupPatch kextG11HWT f3 r3 1]

def devstart : LookupPatchPlus :=
  maskedPatch kextG11HWT fDevstart mDevstart rDevstart rmDevstart 1

def patchesRPL : List LookupPatchPlus :=
  [lookupPatch kextG11HWT f3b r3b 1, lookupPatch kextG11HWT f3bb r3bb 1,
    lookupPatch kextG11HWT f3bbb r3bbb 1, devstart]

def patchRPLDevstartLong : LookupPatchPlus :=
  maskedPatch kextG11HWT fDevstartLong mDevstartLong rDevstartLong rmDevstartLong 1

end AcceleratorKext

namespace IOAcceleratorFamily2

def p2 : LookupPatchPlus := maskedPatch kextIOAcceleratorFamily2 f2F f2M f2R f2Rm 2

def p1 : LookupPatchPlus := maskedPatch kextIOAcceleratorFamily2 f1F f1M f1R f1Rm 1

end IOAcceleratorFamily2

/-! ## Bytes under masks -/

/-- Lilu's search under a mask. -/
def MatchesMask : List (BitVec 8) → List (BitVec 8) → List (BitVec 8) → Prop
  | [], [], [] => True
  | f :: fs, m :: ms, b :: bs => b &&& m = f ∧ MatchesMask fs ms bs
  | _, _, _ => False

/-- Lilu's replacement under a mask. -/
def overlay : List (BitVec 8) → List (BitVec 8) → List (BitVec 8) → List (BitVec 8)
  | r :: rs, m :: ms, b :: bs => (b &&& ~~~m ||| r &&& m) :: overlay rs ms bs
  | _, _, bs => bs

namespace LookupPatchPlus

/-- The bytes are taken for what the patch looks for. -/
def Finds (patch : LookupPatchPlus) (bytes : List (BitVec 8)) : Prop :=
  match patch.findMask with
  | none => bytes = patch.find
  | some mask => MatchesMask patch.find mask bytes

/-- What is put in place of bytes. -/
def written (patch : LookupPatchPlus) (bytes : List (BitVec 8)) : List (BitVec 8) :=
  match patch.replaceMask with
  | none => patch.replace
  | some mask => overlay patch.replace mask bytes

/-- The image with one occurrence replaced. -/
def replacedAt (patch : LookupPatchPlus) (image : Image) (place : Nat) : Image :=
  image.take place ++ patch.written ((image.drop place).take patch.find.length) ++
    image.drop (place + patch.find.length)

theorem at_replacedAt {patch : LookupPatchPlus} (hfind : patch.find ≠ [])
    {bytes : List (BitVec 8)} {image : Image} {place : Nat}
    (hlen : bytes.length = patch.find.length) (hat : At bytes image place) :
    At (patch.written bytes) (patch.replacedAt image place) place := by
  have hpos : 0 < bytes.length := hlen ▸ List.length_pos_iff.mpr hfind
  have hle := hat.length_le
  rw [List.length_drop] at hle
  have htake : (image.take place).length = place := List.length_take_of_le (by omega)
  obtain ⟨rest, hrest⟩ := hat
  have hbytes : (image.drop place).take patch.find.length = bytes := by
    rw [← hrest, ← hlen, List.take_left]
  refine ⟨image.drop (place + patch.find.length), ?_⟩
  rw [replacedAt, hbytes, List.append_assoc, List.drop_append_of_le_length htake.ge,
    List.drop_of_length_le htake.le, List.nil_append]

end LookupPatchPlus

/-! ## Where patched code is left -/

/-- The connector table and the panel power registers. -/
def FramebufferKext.data : List (List (BitVec 8)) := [f3, f4, f4a, f4b, f4c]

/-- The patches that are code, without masks. -/
def codePatches : List LookupPatchPlus :=
  (FramebufferKext.patchesProduction ++ FramebufferKext.patches ++ FramebufferKext.probeF2Patch ++
    AcceleratorKext.patchesAlways ++ AcceleratorKext.patchesRPL).filter fun patch =>
      patch.isLookup && !FramebufferKext.data.contains patch.find

/-- Both are instructions up to the last byte, and the patched ones go nowhere else. -/
theorem codePatches_blocks : ∀ patch ∈ codePatches, patch.find ≠ [] ∧ patch.replaceMask = none ∧
    ∃ original ∈ decodeBlock patch.find.length patch.find,
      ∃ patched ∈ decodeBlock patch.replace.length patch.replace,
        ¬Returns patched ∧ exitOffsets patched 0 ⊆ exitOffsets original 0 := by
  decide +kernel

/-- Wherever one of these patches has been made: once the machine comes to the patched code, it
comes to a place where the original code there could be left, whatever the state, and
whatever the functions it calls do. -/
theorem patched_code_exits (env : Env) {patch : LookupPatchPlus} (hpatch : patch ∈ codePatches)
    {image : Image} {place : Nat} (hat : At patch.find image place)
    (hsize : place + patch.find.length ≤ 2 ^ 64) (base : X86.Word) (s : X86.State) :
    ∃ original, decodeBlock patch.find.length patch.find = some original ∧
      ∃ off ∈ exitOffsets original 0, ∃ t,
        X86.Reaches env ⟨base, patch.replacedAt image place⟩ (base + BitVec.ofNat 64 place, s) t ∧
          t.1 = base + BitVec.ofNat 64 place + off := by
  obtain ⟨hfind, hmask, original, horiginal, patched, hpatched, hret, hexits⟩ :=
    codePatches_blocks patch hpatch
  have hat' := patch.at_replacedAt hfind rfl hat
  rw [LookupPatchPlus.written, hmask] at hat'
  obtain ⟨off, hoff, hpc⟩ := X86.run_exit env hret (base + BitVec.ofNat 64 place) 0 s
  rw [show base + BitVec.ofNat 64 place + 0 = base + BitVec.ofNat 64 place from
    BitVec.add_zero _] at hpc
  have hsize' : place + patch.replace.length ≤ 2 ^ 64 := patch.size_eq ▸ hsize
  refine ⟨original, horiginal, off, hexits hoff, _, ?_, hpc⟩
  exact X86.reaches_execute (X86.execute_of_encodes hpatched _ _ _) hat' hsize'

/-- Callees that return at once, and a `cpuid` of zeroes. -/
def idleEnv : Env := ⟨fun _ s => s, fun _ _ => (0, 0, 0, 0)⟩

def blankState : X86.State := ⟨fun _ => 0, ⟨false, false, false, false⟩, fun _ => 0⟩

theorem sku_code_exits : ∃ original,
    decodeBlock AcceleratorKext.f3.length AcceleratorKext.f3 = some original ∧
      ∃ off ∈ exitOffsets original 0, ∃ t,
        X86.Reaches idleEnv ⟨0, (lookupPatch kextG11HWT AcceleratorKext.f3 AcceleratorKext.r3
          1).replacedAt AcceleratorKext.f3 0⟩ (0 + BitVec.ofNat 64 0, blankState) t ∧
          t.1 = 0 + BitVec.ofNat 64 0 + off := by
  have hpatch : lookupPatch kextG11HWT AcceleratorKext.f3 AcceleratorKext.r3 1 ∈ codePatches := by
    decide +kernel
  have hat : At AcceleratorKext.f3 AcceleratorKext.f3 0 := List.prefix_rfl
  exact patched_code_exits idleEnv hpatch hat (by decide) 0 blankState

end NootedGreen

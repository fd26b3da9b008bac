/-
# `Platform.ConfigSpace` — the device id that reads of the config space show

Two wrappers stand in front of the config reads of the graphics device and put
the `device-id` property in the place of the real one:

    offset   width   real                     wanted
    2        16      device                   property
    0        32      device ++ vendor         property ++ vendor
    2        32      command ++ device        command ++ property

`configRead32` treats its two offsets alike: it compares the property with the low
half of what was read and puts it in the high half.  At offset 0 that is the place,
and the comparison is with the vendor id.  At offset 2 the low half is the one to
replace, and the command register is lost instead.  So the three views agree exactly
where there was nothing to replace (`config_views_iff`).

**What is left out.**  Logging.  The config space is whatever the original reads
show; the wrappers write nothing.
-/
import NootedGreen.Lib.Bits
import NootedGreen.Platform.PropertySeeding

namespace NootedGreen

/-! ## Reads -/

/-- What the wrappers ask of a service. -/
structure RegistryEntry where
  /-- `getName` -/
  name : Option String
  properties : OSDictionary

/-- `getOSDataValue` for a `uint32_t`: data of exactly four bytes. -/
def getOSDataValue (properties : OSDictionary) (name : String) : Option (BitVec 32) :=
  match properties.lookup name with
  | some (.data [b₀, b₁, b₂, b₃]) => some (b₃ ++ b₂ ++ b₁ ++ b₀)
  | _ => none

/-- The four comparisons with `I`, `G`, `P` and `U`. -/
def RegistryEntry.isIGPU (service : RegistryEntry) : Bool :=
  match service.name with
  | some name => ['I', 'G', 'P', 'U'].isPrefixOf name.toList
  | none => false

/-- The property that stands for the device id, on a service that has one. -/
def spoofedDevice (service : Option RegistryEntry) : Option (BitVec 32) :=
  match service with
  | some service =>
      if service.isIGPU then getOSDataValue service.properties "device-id" else none
  | none => none

def kIOPCIConfigVendorID : BitVec 8 := 0x00
def kIOPCIConfigDeviceID : BitVec 8 := 0x02

/-- A config read of `w` bits, of a service in a space at an offset. -/
abbrev ConfigRead (w : Nat) : Type :=
  Option RegistryEntry → BitVec 32 → BitVec 8 → BitVec w

def configRead16 (orgConfigRead16 : Option (ConfigRead 16)) : ConfigRead 16 :=
  fun service space offset =>
    match orgConfigRead16 with
    | some orgConfigRead16 =>
        let result := orgConfigRead16 service space offset
        if offset = kIOPCIConfigDeviceID then
          match spoofedDevice service with
          -- `device` is wider than what was read
          | some device => if device ≠ result.setWidth 32 then device.setWidth 16 else result
          | none => result
        else result
    | none => 0

def configRead32 (orgConfigRead32 : Option (ConfigRead 32)) : ConfigRead 32 :=
  fun service space offset =>
    match orgConfigRead32 with
    | some orgConfigRead32 =>
        let result := orgConfigRead32 service space offset
        -- unaligned reads may happen
        if offset = kIOPCIConfigDeviceID ∨ offset = kIOPCIConfigVendorID then
          match spoofedDevice service with
          | some device =>
              if device ≠ result &&& 0xFFFF#32 then (result &&& 0xFFFF#32) ||| (device <<< 16)
              else result
          | none => result
        else result
    | none => 0

/-! ## Over a config space -/

section Config

variable (config : BitVec 32 → ByteMem)

/-- The original reads show the bits at the offset. -/
def orgConfigRead16 : ConfigRead 16 := fun _ space offset => (config space).load16 offset.toNat

def orgConfigRead32 : ConfigRead 32 := fun _ space offset => (config space).load32 offset.toNat

/-- Reads through the wrappers. -/
def read16 : ConfigRead 16 := configRead16 (some (orgConfigRead16 config))

def read32 : ConfigRead 32 := configRead32 (some (orgConfigRead32 config))

variable {service : Option RegistryEntry} {device : BitVec 32} (space : BitVec 32)

theorem read16_original (h : spoofedDevice service = none) (offset : BitVec 8) :
    read16 config service space offset = (config space).load16 offset.toNat := by
  simp only [read16, configRead16, h, ite_self]
  rfl

theorem read32_original (h : spoofedDevice service = none) (offset : BitVec 8) :
    read32 config service space offset = (config space).load32 offset.toNat := by
  simp only [read32, configRead32, h, ite_self]
  rfl

/-- The narrow read shows the property in any case: where it is left as it is, it was
the property already. -/
theorem read16_device (h : spoofedDevice service = some device) :
    read16 config service space kIOPCIConfigDeviceID = device.setWidth 16 := by
  simp only [read16, configRead16, h, if_true]
  split
  · rfl
  · next hsame =>
      rw [Decidable.not_not.mp hsame, Bits.setWidth_setWidth_self (by decide)]

/-- The wide read, at both offsets. -/
theorem read32_spoofed (h : spoofedDevice service = some device) {offset : BitVec 8}
    (hoffset : offset = kIOPCIConfigDeviceID ∨ offset = kIOPCIConfigVendorID) :
    read32 config service space offset =
      if device = ((config space).load16 offset.toNat).setWidth 32
        then (config space).load32 offset.toNat
        else device.setWidth 16 ++ (config space).load16 offset.toNat := by
  simp only [read32, configRead32, orgConfigRead32, h, if_pos hoffset,
    Bits.and_lowMask, ByteMem.load32_setWidth, Bits.setWidth_or_shl, ne_eq, ite_not]

theorem read32_vendor_iff (h : spoofedDevice service = some device) :
    read32 config service space kIOPCIConfigVendorID =
        device.setWidth 16 ++ (config space).load16 0 ↔
      (device = ((config space).load16 0).setWidth 32 →
        (config space).load16 2 = device.setWidth 16) := by
  rw [read32_spoofed config space h (.inr rfl)]
  show (if device = ((config space).load16 0).setWidth 32 then (config space).load32 0
    else device.setWidth 16 ++ (config space).load16 0) = _ ↔ _
  split
  · next hvendor =>
      rw [ByteMem.load32_eq_append, Bits.append_inj, and_iff_left rfl, forall_prop_of_true hvendor]
  · next hvendor => exact iff_of_true rfl fun hsame => absurd hsame hvendor

theorem read32_device_iff (h : spoofedDevice service = some device) :
    read32 config service space kIOPCIConfigDeviceID =
        (config space).load16 4 ++ device.setWidth 16 ↔
      device = ((config space).load16 2).setWidth 32 ∨
        (config space).load16 2 = device.setWidth 16 ∧
          (config space).load16 4 = device.setWidth 16 := by
  rw [read32_spoofed config space h (.inl rfl)]
  show (if device = ((config space).load16 2).setWidth 32 then (config space).load32 2
    else device.setWidth 16 ++ (config space).load16 2) = _ ↔ _
  split
  · next hdevice =>
      refine iff_of_true ?_ (.inl hdevice)
      rw [ByteMem.load32_eq_append, Bits.append_inj, hdevice,
        Bits.setWidth_setWidth_self (by decide)]
      exact ⟨rfl, rfl⟩
  · next hdevice =>
      rw [Bits.append_inj, or_iff_right hdevice, eq_comm, and_comm]

/-- The views of a config space the wrappers are to give: the property in the place of the
device id and every other bit as it is; on a service without one, the config space. -/
structure ConfigViews (service : Option RegistryEntry) : Prop where
  narrow : ∀ device, spoofedDevice service = some device →
    read16 config service space kIOPCIConfigDeviceID = device.setWidth 16
  vendor : ∀ device, spoofedDevice service = some device →
    read32 config service space kIOPCIConfigVendorID =
      device.setWidth 16 ++ (config space).load16 0
  unaligned : ∀ device, spoofedDevice service = some device →
    read32 config service space kIOPCIConfigDeviceID =
      (config space).load16 4 ++ device.setWidth 16
  original : spoofedDevice service = none → ∀ offset,
    read16 config service space offset = (config space).load16 offset.toNat ∧
      read32 config service space offset = (config space).load32 offset.toNat

/-- Exactly if the property is the real device id, or its low half is and the command
register happens to hold it too. -/
theorem config_views_iff (service : Option RegistryEntry) :
    ConfigViews config space service ↔ ∀ device, spoofedDevice service = some device →
      device = ((config space).load16 2).setWidth 32 ∨
        (config space).load16 2 = device.setWidth 16 ∧
          (config space).load16 4 = device.setWidth 16 := by
  constructor
  · intro hviews device h
    exact (read32_device_iff config space h).mp (hviews.unaligned device h)
  · intro hreal
    have hlow : ∀ device, spoofedDevice service = some device →
        (config space).load16 2 = device.setWidth 16 := by
      intro device h
      rcases hreal device h with hdevice | ⟨hdevice, -⟩
      · rw [hdevice, Bits.setWidth_setWidth_self (by decide)]
      · exact hdevice
    exact {
      narrow := fun device h => read16_device config space h
      vendor := fun device h => (read32_vendor_iff config space h).mpr fun _ => hlow device h
      unaligned := fun device h => (read32_device_iff config space h).mpr (hreal device h)
      original := fun h offset =>
        ⟨read16_original config space h offset, read32_original config space h offset⟩ }

end Config

/-! ## A device id to hide -/

/-- Alder Lake graphics with its memory space enabled. -/
def alderLakeConfig : BitVec 32 → ByteMem := fun _ a =>
  ([0x86, 0x80, 0xA6, 0x46, 0x07, 0x04] : List (BitVec 8)).getD a 0

/-- The device id of the defaults. -/
def tigerLakeIGPU : RegistryEntry where
  name := some "IGPU"
  properties := [("device-id", .data [0x49, 0x9A, 0x00, 0x00])]

/-- The unaligned read shows the real device id, and the property where the command
register was. -/
theorem unaligned_read_shows_real_device :
    read16 alderLakeConfig (some tigerLakeIGPU) 0 kIOPCIConfigDeviceID = 0x9A49 ∧
      read32 alderLakeConfig (some tigerLakeIGPU) 0 kIOPCIConfigDeviceID = 0x9A4946A6 ∧
      ¬ ConfigViews alderLakeConfig 0 (some tigerLakeIGPU) := by
  refine ⟨by decide, by decide, fun hviews => ?_⟩
  have hread := hviews.unaligned 0x9A49 (by decide)
  exact absurd hread (by decide)

end NootedGreen

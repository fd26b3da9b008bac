/-
# `Platform.Detection` — `isRealTGL` and the hooks that look at it

`processPatcher` reads CPUID leaf 1 and derives the CPU model from it, for the
log and `cpuModel`; the flags the hooks test are set to constants right after.
Three hooks are modelled here with the flags as a parameter:

    hook            isRealTGL                        not isRealTGL
    getGPUInfo      topology overridden all the same topology overridden
    loadGuCBinary   Apple's loader                   1 at once, unless `tryGuC`
    start           Development left as it is        MultiForceWakeSelect = 1 put in

`platform_driven_iff` puts the two together: the hooks behave as the platform
calls for exactly on a Tiger Lake whose topology Apple has already filled in with
the values of the override.

**What is left out.**  Logging; the bring-up trace (`Platform.BringupTrace`), which
records and decides nothing; what `start` does to registers and the call of the
original, which come after the properties are set.  Allocations succeed.
-/
import NootedGreen.Lib.ByteMem
import NootedGreen.Lib.Assoc

namespace NootedGreen

/-! ## Flags -/

/-- A boot argument `name=value` with a `-name` flag to fall back on. -/
structure BootFlag where
  value : Option Int
  flag : Bool
  deriving DecidableEq, Repr

/-- `PE_parse_boot_argn`, then `checkKernelArgument`. -/
def BootFlag.enabled (b : BootFlag) : Bool :=
  match b.value with
  | some v => v != 0
  | none => b.flag

/-- The boot arguments that matter here. -/
structure BootArgs where
  /-- `-allow3d` -/
  allow3D : Bool
  /-- `NGreenNoExternal` -/
  noExternal : BootFlag
  /-- `ngreenfullmtl` -/
  fullMTL : BootFlag
  /-- `ngreenSched`, an `int` -/
  sched : Option Int
  deriving DecidableEq, Repr

/-- The members of `NGreen` the hooks test. -/
structure PlatformFlags where
  cpuModel : BitVec 32
  request3D : Bool
  isRealTGL : Bool
  tryGuC : Bool
  gateExternalDisplays : Bool
  deriving DecidableEq, Repr

/-- Family, model and extended model of CPUID leaf 1. -/
def cpuFamily (eax : BitVec 32) : BitVec 32 := (eax >>> 8) &&& 0xF

def cpuModel (eax : BitVec 32) : BitVec 32 :=
  let model := (eax >>> 4) &&& 0xF
  let extModel := (eax >>> 16) &&& 0xF
  if cpuFamily eax = 0x6 then model ||| (extModel <<< 4) else model

/-- What `processPatcher` leaves in the flags. -/
def processPatcherFlags (eax : BitVec 32) (boot : BootArgs) : PlatformFlags where
  cpuModel := cpuModel eax
  request3D := boot.allow3D
  isRealTGL := true
  tryGuC := true
  gateExternalDisplays := boot.noExternal.enabled

/-- Tiger Lake-U or Tiger Lake-H. -/
def IsTigerLake (eax : BitVec 32) : Prop :=
  cpuFamily eax = 0x6 ∧ (cpuModel eax = 0x8C ∨ cpuModel eax = 0x8D)

instance : DecidablePred IsTigerLake := fun eax =>
  inferInstanceAs (Decidable (cpuFamily eax = 0x6 ∧ (cpuModel eax = 0x8C ∨ cpuModel eax = 0x8D)))

/-! ## `getGPUInfo` -/

/-- The members of the accelerator `getGPUInfo` writes, in its order. -/
def topologyOverride : List ByteMem.Field :=
  let numSlices := 1
  let numSubSlices := 10
  let maxEUPerSubSlice := 8
  let totalEU := maxEUPerSubSlice * numSubSlices
  [⟨0x115c, 4, numSlices⟩, ⟨0x1158, 4, numSubSlices⟩, ⟨0x116c, 4, maxEUPerSubSlice⟩,
    ⟨0x1124, 4, totalEU⟩, ⟨0x0dd8, 4, numSlices⟩, ⟨0x0ddc, 4, numSubSlices⟩, ⟨0x1164, 4, 8⟩,
    -- 1000 MHz and 450 MHz, a pair
    ⟨0x1150, 8, 0x1C2000003E8⟩]

/-- `ogetGPUInfo` is Apple's function: its result, and the object as it leaves it. -/
def getGPUInfo (flags : PlatformFlags) (boot : BootArgs)
    (ogetGPUInfo : ByteMem → Bool × ByteMem) (that : ByteMem) : Bool × ByteMem :=
  let (ret, that) := ogetGPUInfo that
  let that := that.storeAll topologyOverride
  if !flags.isRealTGL && boot.fullMTL.enabled && !ret then (true, that)
  else (ret, that)

/-! ## `loadGuCBinary` -/

/-- The result, and whether Apple's loader was called; `oloadGuCBinary` is what that
returns, `none` when the slot is null. -/
def loadGuCBinary (flags : PlatformFlags) (oloadGuCBinary : Option (BitVec 64)) :
    BitVec 64 × Bool :=
  if flags.isRealTGL || flags.tryGuC then
    match oloadGuCBinary with
    | some ret => (ret, true)
    | none => (0, false)
  else (1, false)

/-! ## `start`: the properties -/

/-- The objects a property table holds. -/
inductive OSObject where
  | number (value : BitVec 64) (numberOfBits : Nat)
  | boolean (value : Bool)
  | string (value : String)
  | data (bytes : List (BitVec 8))
  | dictionary (entries : List (String × OSObject))

/-- A property table, or an `OSDictionary`. -/
abbrev OSDictionary := List (String × OSObject)

def PlatformFlags.shouldUseSpoofedSafeSchedulerPolicy (flags : PlatformFlags) : Bool :=
  !flags.isRealTGL && !flags.tryGuC

/-- `(int)stProp->unsigned32BitValue()`, when the object is a number. -/
def OSObject.schedulerType? : OSObject → Option Int
  | .number value _ => some (value.setWidth 32).toInt
  | _ => none

/-- Priority: the boot argument, then `SchedulerType` of the provider, then the platform's
default.  The safe policy admits type 5 only. -/
def selectScheduler (flags : PlatformFlags) (boot : BootArgs) (provider : Option OSDictionary) :
    Int :=
  let schedType := if flags.isRealTGL then 3 else 5
  let safeSpoofedPolicy := flags.shouldUseSpoofedSafeSchedulerPolicy
  match boot.sched.filter fun n => 3 ≤ n ∧ n ≤ 5 with
  | some bootArgSched => if safeSpoofedPolicy && bootArgSched != 5 then 5 else bootArgSched
  | none =>
      match (provider.bind (List.lookup "SchedulerType")).bind OSObject.schedulerType? with
      | some val =>
          if safeSpoofedPolicy && val != 5 then 5
          else if 3 ≤ val ∧ val ≤ 5 then val
          else schedType
      | none => schedType

/-- The V44 block: the scheduler, for the accelerator and for `Development` if it has one. -/
def publishScheduler (flags : PlatformFlags) (schedType : Int) (service : OSDictionary) :
    OSDictionary :=
  let schedNum := OSObject.number (BitVec.ofInt 64 schedType) 32
  let service := Assoc.set "GraphicsSchedulerSelect" schedNum service
  let service := Assoc.set "NGreenSchedulerPolicySafe"
    (.boolean flags.shouldUseSpoofedSafeSchedulerPolicy) service
  let service := Assoc.set "NGreenExternalGateActive" (.boolean flags.gateExternalDisplays) service
  match service.lookup "Development" with
  | some (.dictionary devDict) =>
      let newDevDict := Assoc.set "GraphicsSchedulerSelect" schedNum devDict
      let newDevDict := Assoc.set "SchedulerFallbackOnFirmwareFail" (.number 1 32) newDevDict
      Assoc.set "Development" (.dictionary newDevDict) service
  | _ => service

/-- The V52 block: `MultiForceWakeSelect`, off real TGL only. -/
def injectMultiForceWakeSelect (flags : PlatformFlags) (service : OSDictionary) : OSDictionary :=
  if !flags.isRealTGL then
    match service.lookup "Development" with
    | some (.dictionary devDict) =>
        Assoc.set "Development"
          (.dictionary (Assoc.set "MultiForceWakeSelect" (.number 1 32) devDict)) service
    | _ => Assoc.set "Development" (.dictionary [("MultiForceWakeSelect", .number 1 32)]) service
  else service

/-- The properties of the accelerator when `start` goes on to the hardware. -/
def startProperties (flags : PlatformFlags) (boot : BootArgs) (provider : Option OSDictionary)
    (service : OSDictionary) : OSDictionary :=
  injectMultiForceWakeSelect flags
    (publishScheduler flags (selectScheduler flags boot provider) service)

/-- `Development`/`MultiForceWakeSelect`, as the accelerator will read it. -/
def multiForceWakeSelect (service : OSDictionary) : Option OSObject :=
  match service.lookup "Development" with
  | some (.dictionary devDict) => devDict.lookup "MultiForceWakeSelect"
  | _ => none

/-! ## What each hook does to the platform's features -/

/-- Whatever the flags: Apple's object with the override on top. -/
theorem getGPUInfo_object (flags : PlatformFlags) (boot : BootArgs)
    (ogetGPUInfo : ByteMem → Bool × ByteMem) (that : ByteMem) :
    (getGPUInfo flags boot ogetGPUInfo that).2 =
      (ogetGPUInfo that).2.storeAll topologyOverride := by
  simp only [getGPUInfo]
  split <;> rfl

theorem topologyOverride_apart : topologyOverride.Pairwise fun f g => g.Apart f := by
  decide

theorem multiForceWakeSelect_set_development (devDict service : OSDictionary) :
    multiForceWakeSelect (Assoc.set "Development" (.dictionary devDict) service) =
      devDict.lookup "MultiForceWakeSelect" := by
  rw [multiForceWakeSelect, Assoc.lookup_set_same]

/-- The two flags set beside the scheduler, for any other property. -/
theorem lookup_set_flags {key : String} (hgate : key ≠ "NGreenExternalGateActive")
    (hsafe : key ≠ "NGreenSchedulerPolicySafe") (v w : OSObject) (service : OSDictionary) :
    (Assoc.set "NGreenExternalGateActive" v
      (Assoc.set "NGreenSchedulerPolicySafe" w service)).lookup key = service.lookup key := by
  rw [Assoc.lookup_set_other hgate, Assoc.lookup_set_other hsafe]

theorem publishScheduler_multiForceWakeSelect (flags : PlatformFlags) (schedType : Int)
    (service : OSDictionary) :
    multiForceWakeSelect (publishScheduler flags schedType service) =
      multiForceWakeSelect service := by
  simp only [publishScheduler]
  split
  · rename_i devDict hdev
    rw [multiForceWakeSelect_set_development, Assoc.lookup_set_other (by decide),
      Assoc.lookup_set_other (by decide)]
    rw [lookup_set_flags (by decide) (by decide), Assoc.lookup_set_other (by decide)] at hdev
    rw [multiForceWakeSelect, hdev]
  · rw [multiForceWakeSelect, lookup_set_flags (by decide) (by decide),
      Assoc.lookup_set_other (by decide), multiForceWakeSelect]

theorem injectMultiForceWakeSelect_spoofed {flags : PlatformFlags} (h : flags.isRealTGL = false)
    (service : OSDictionary) :
    multiForceWakeSelect (injectMultiForceWakeSelect flags service) = some (.number 1 32) := by
  rw [injectMultiForceWakeSelect, h]
  simp only [Bool.not_false, if_true]
  split
  · rw [multiForceWakeSelect_set_development, Assoc.lookup_set_same]
  · rw [multiForceWakeSelect_set_development]
    rfl

/-- Without the flag the selection is put in; with it, it is left as it was. -/
theorem startProperties_multiForceWakeSelect (flags : PlatformFlags) (boot : BootArgs)
    (provider : Option OSDictionary) (service : OSDictionary) :
    multiForceWakeSelect (startProperties flags boot provider service) =
      if flags.isRealTGL then multiForceWakeSelect service else some (.number 1 32) := by
  rw [startProperties]
  cases h : flags.isRealTGL with
  | false => exact injectMultiForceWakeSelect_spoofed h _
  | true =>
      rw [injectMultiForceWakeSelect, h]
      exact publishScheduler_multiForceWakeSelect flags _ service

/-! ## Driven by the platform -/

/-- Apple's side of the three hooks: what its functions do, and the objects they get. -/
structure AppleSide where
  ogetGPUInfo : ByteMem → Bool × ByteMem
  accelerator : ByteMem
  oloadGuCBinary : Option (BitVec 64)
  provider : Option OSDictionary
  properties : OSDictionary

/-- The accelerator as Apple's `getGPUInfo` leaves it. -/
def AppleSide.appleObject (apple : AppleSide) : ByteMem :=
  (apple.ogetGPUInfo apple.accelerator).2

/-- The flag says what the CPU is, and each hook does off real TGL what it is for and
leaves Apple's doing alone on it. -/
structure PlatformDriven (eax : BitVec 32) (boot : BootArgs) (apple : AppleSide) : Prop where
  detected : (processPatcherFlags eax boot).isRealTGL = true ↔ IsTigerLake eax
  topology : (getGPUInfo (processPatcherFlags eax boot) boot apple.ogetGPUInfo
      apple.accelerator).2 =
    if (processPatcherFlags eax boot).isRealTGL then apple.appleObject
    else apple.appleObject.storeAll topologyOverride
  guc : loadGuCBinary (processPatcherFlags eax boot) apple.oloadGuCBinary =
    if (processPatcherFlags eax boot).isRealTGL || (processPatcherFlags eax boot).tryGuC then
      (apple.oloadGuCBinary.getD 0, apple.oloadGuCBinary.isSome)
    else (1, false)
  forceWake : multiForceWakeSelect (startProperties (processPatcherFlags eax boot) boot
      apple.provider apple.properties) =
    if (processPatcherFlags eax boot).isRealTGL then multiForceWakeSelect apple.properties
    else some (.number 1 32)

/-- The hooks are driven by the platform exactly on a Tiger Lake where Apple has left the
values of the override in the accelerator already. -/
theorem platform_driven_iff (eax : BitVec 32) (boot : BootArgs) (apple : AppleSide) :
    PlatformDriven eax boot apple ↔
      IsTigerLake eax ∧ ∀ f ∈ topologyOverride, apple.appleObject.Holds f := by
  constructor
  · intro h
    refine ⟨h.detected.mp rfl, ?_⟩
    have htopology := h.topology
    rw [getGPUInfo_object] at htopology
    exact (ByteMem.storeAll_eq_self_iff topologyOverride_apart _).mp htopology
  · rintro ⟨hcpu, hfields⟩
    refine ⟨⟨fun _ => hcpu, fun _ => rfl⟩, ?_, ?_, ?_⟩
    · rw [getGPUInfo_object]
      exact (ByteMem.storeAll_eq_self_iff topologyOverride_apart _).mpr hfields
    · cases horig : apple.oloadGuCBinary <;> rfl
    · exact startProperties_multiForceWakeSelect _ boot apple.provider apple.properties

/-- Nothing given at boot. -/
def BootArgs.none : BootArgs := ⟨false, ⟨.none, false⟩, ⟨.none, false⟩, .none⟩

/-- An Alder Lake-P is taken for a real Tiger Lake. -/
theorem alderLake_not_driven :
    ¬ PlatformDriven 0x906A3 .none ⟨fun m => (true, m), fun _ => 0, some 1, none, []⟩ := by
  intro h
  exact absurd (h.detected.mp rfl) (by decide)

end NootedGreen

/-
# `Platform.ObjectLifetimes` — the objects the plugin makes, and who lets go of them

IOKit's objects are counted by hand.  `with…` and `fromPath` give a reference that has to be
released; `getProperty` and `getObject` give none; `setProperty` and `setObject` take one of
their own.  Every `with…` can return null and every `set…` can fail.

    function                                 makes
    publishTglFramebufferPersonality         a dictionary, eight values, an array
    processPatcher, accelerator properties   seven values
    publishFramebufferTriageResources        two strings; retains IOResources
    AppleIntelBaseControllerstart            three dictionaries, fifteen values, an array
    applyDisplayPipePolicy                   a dictionary
    start, V44 and V52                       numbers, copies of `Development`
    start, missing Metal properties          eight values, two dictionaries

In any order and any number, whatever is refused: all of it is safe, nothing is leaked, and
no object is changed that was there before, except property tables (`publishers_balanced`).

`wrapApplePanelSetDisplay` is different.  It keeps a reference to each panel's data for good
(`panels_leak`), seven different objects at most since it does its work once.

**What is left out.**  Logging, `getCapacity`, names and classes for the log.  A property
table is the object of its entry.  `copyCollection` copies one level: the panels are data.
-/
import Mathlib.Data.List.ReduceOption
import NootedGreen.Lib.Ownership
import NootedGreen.Platform.Detection

namespace NootedGreen

open Ownership
open Ownership.Prog (new look store load retain release call ifSome safeRelease Spec Has Writes
  Made refs_le)

/-! ## IOKit -/

/-- The values a property can have, collections apart. -/
inductive OSLeaf where
  | number (value : BitVec 64) (numberOfBits : Nat)
  | boolean (value : Bool)
  | string (value : String)
  | data (bytes : List (BitVec 8))
  deriving DecidableEq, Repr

inductive OSClass where
  | leaf (value : OSLeaf)
  | dictionary
  | array
  | entry
  deriving DecidableEq, Repr

/-- A key of a dictionary or a property table, an index of an array. -/
inductive Slot where
  | key (name : String)
  | index (n : Nat)
  deriving DecidableEq, Repr

inductive OSCall where
  | addDrivers
  | registerService
  | originalSetDisplay
  deriving DecidableEq, Repr

abbrev OSCode := Prog OSClass Slot OSCall

abbrev OSHeap := Heap OSClass Slot

abbrev OSKernel := Kernel OSClass Slot OSCall

/-- What the system provides: `kOSBooleanTrue` and `kOSBooleanFalse`. -/
structure IOKit extends Roots where
  osBoolean : Bool → Nat
  osBoolean_alive : ∀ b, alive (osBoolean b)

/-- `OSString::withCString`, `OSNumber::withNumber`, `OSData::withBytes`. -/
def withValue (v : OSLeaf) : OSCode Ptr := new ⟨.leaf v, []⟩

def OSDictionary.withCapacity : OSCode Ptr := new ⟨.dictionary, []⟩

def OSArray.withCapacity : OSCode Ptr := new ⟨.array, []⟩

/-- `setObject` of a dictionary, and `setProperty` of an entry. -/
def setObject (c : Ptr) (name : String) (p : Ptr) : OSCode Bool := store c (.key name) p

/-- `getObject` of a dictionary, and `getProperty` of an entry. -/
def getObject (c : Ptr) (name : String) : OSCode Ptr := load c (.key name)

/-- `OSDynamicCast(OSDictionary, …)`. -/
def asDictionary (p : Ptr) : OSCode Ptr :=
  match p with
  | none => pure none
  | some i => do
      let o ← look (some i)
      return if o.any (·.payload = .dictionary) then some i else none

/-- `OSDictionary::withDictionary`, `copyCollection`: the copy refers to what the original
refers to. -/
def withDictionary (d : Ptr) : OSCode Ptr := do
  let o ← look d
  new ⟨.dictionary, (o.map Obj.entries).getD []⟩

/-- Make a value, put it in, let it go: `setProperty` with a C string, a number or bytes does
the same inside. -/
def setValue (c : Ptr) (name : String) (v : OSLeaf) : OSCode Unit := do
  let p ← withValue v
  ifSome p do
    let _ ← setObject c name p
    release p

def withValues : List OSLeaf → OSCode (List Ptr)
  | [] => pure []
  | v :: vs => do
      let p ← withValue v
      let ps ← withValues vs
      return p :: ps

def setObjects (c : Ptr) : List (String × Ptr) → OSCode Unit
  | [] => pure ()
  | (name, p) :: l => do
      let _ ← setObject c name p
      setObjects c l

def releaseAll : List Ptr → OSCode Unit
  | [] => pure ()
  | p :: ps => do
      safeRelease p
      releaseAll ps

/-- Make all values, put them in, let them go.  Whether null is tested for before `setObject`
or inside makes no difference. -/
def setValues (c : Ptr) (fields : List (String × OSLeaf)) : OSCode Unit := do
  let ps ← withValues (fields.map Prod.snd)
  setObjects c ((fields.map Prod.fst).zip ps)
  releaseAll ps

/-- A string of the dictionary, for the log. -/
def logString (d : Ptr) (name : String) : OSCode Unit := do
  let p ← getObject d name
  ifSome p do
    let _ ← look p

/-! ## The functions -/

/-- The drivers in the array, and what follows; nothing if there is no `gIOCatalogue`. -/
def publishDrivers (catalogue : Bool) (array : Ptr) (andThen : OSCode Unit) : OSCode Unit :=
  if catalogue then do
    let _ ← call .addDrivers [array]
    andThen
  else pure ()

def framebufferFields : List (String × OSLeaf) :=
  [("CFBundleIdentifier", .string "com.xxxxx.driver.AppleIntelTGLGraphicsFramebuffer"),
    ("IOClass", .string "AppleIntelFramebufferController"),
    ("IOMatchCategory", .string "IOFramebuffer"),
    ("IOProviderClass", .string "IOPCIDevice"),
    ("IOPCIClassMatch", .string "0x03000000&0xff000000"),
    ("IOPCIPrimaryMatch", .string "0x9A498086"),
    ("IOSourceVersion", .string "0.0.0.0.0"),
    ("IOProbeScore", .number 80000 32)]

def publishTglFramebufferPersonality (catalogue : Bool) (gpu : Ptr) : OSCode Unit := do
  let fbDict ← OSDictionary.withCapacity
  ifSome fbDict do
    setValues fbDict framebufferFields
    let array ← OSArray.withCapacity
    ifSome array do
      let _ ← store array (.index 0) fbDict
      logString fbDict "IOPCIPrimaryMatch"
      logString fbDict "IOProviderClass"
      logString fbDict "IOClass"
      publishDrivers catalogue array do
        ifSome gpu do
          let _ ← call .registerService [gpu]
      release array
    release fbDict

def accelStrings : List (String × OSLeaf) :=
  [("MetalPluginName", .string "AppleIntelTGLGraphics"),
    ("IOAccelScaleFactorDict", .string "IOAccelScaleFactorDict"),
    ("IOAccelDeviceShaderBinary", .string "IOAccelTGLShaderBinary"),
    ("IOPCIMatch", .string "0x9A498086"),
    ("IOAccelDriverConnectCategory", .string "IOAccelGPU")]

/-- The accelerator properties of `processPatcher`. -/
def publishAccelProperties (iGPU : Ptr) : OSCode Unit := do
  setValue iGPU "IOPCIAccelerationGpu" (.data [0x01])
  setValues iGPU accelStrings
  setValue iGPU "IOAccelCaps" (.data [0x00, 0x00, 0x10, 0x00])
  logString iGPU "MetalPluginName"

/-- A property of IOResources, where it is missing. -/
def restoreString (resources : Ptr) (name text : String) : OSCode Unit := do
  let p ← getObject resources name
  if p.isNone then setValue resources name (.string text) else pure ()

/-- `resources` is what `fromPath` finds. -/
def publishFramebufferTriageResources (resources : Ptr) : OSCode Unit :=
  ifSome resources do
    retain resources
    restoreString resources "FB_Triage" "FB Driver Info :  56 0 ff 51 54 52 54 53"
    restoreString resources "Triage" "3D Debug Info: 1 223"
    release resources

section Policy

variable (io : IOKit)

def createDisplayPipeCapabilityDict (enabled : Bool) : OSCode Ptr := do
  let dpCaps ← OSDictionary.withCapacity
  ifSome dpCaps do
    let _ ← setObject dpCaps "DisplayPipeSupported" (some (io.osBoolean enabled))
    let _ ← setObject dpCaps "TransactionsSupported" (some (io.osBoolean enabled))
  return dpCaps

/-- The capabilities, in a property table or in a personality. -/
def setDisplayPipeCapabilities (c : Ptr) (enabled : Bool) : OSCode Unit := do
  let dpCaps ← createDisplayPipeCapabilityDict io enabled
  ifSome dpCaps do
    let _ ← setObject c "IOAccelDisplayPipeCapabilities" dpCaps
    release dpCaps

def applyDisplayPipePolicy (entry : Ptr) (enabled : Bool) : OSCode Unit :=
  ifSome entry (setDisplayPipeCapabilities io entry enabled)

/-- The 2D plug-in's dictionary; its name is released here, tested before or not. -/
def setPlugInTypes (c : Ptr) : OSCode Unit := do
  let pluginDict ← OSDictionary.withCapacity
  ifSome pluginDict do
    setValue pluginDict "ACCF0000-0000-0000-0000-000a2789904e" (.string "IOAccelerator2D.plugin")
    let _ ← setObject c "IOCFPlugInTypes" pluginDict
    release pluginDict

/-- TGL names once its hardware kext is loaded, ICL names before. -/
def driverName (useTglNames : Bool) (kind : String) : String :=
  (if useTglNames then "AppleIntelTGLGraphics" else "AppleIntelICLGraphics") ++ kind

def bundleId (useTglNames : Bool) : String :=
  if useTglNames then "com.xxxxx.driver.AppleIntelTGLGraphics"
  else "com.apple.driver.AppleIntelICLGraphics"

def matchingFields (useTglNames : Bool) (pciPrimaryMatch : String) : List (String × OSLeaf) :=
  [("CFBundleIdentifier", .string (bundleId useTglNames)),
    ("IOClass", .string "IntelAccelerator"),
    ("IOMatchCategory", .string "IOAccelerator"),
    ("IOProviderClass", .string "IOPCIDevice"),
    ("IOPCIClassMatch", .string "0x03000000&0xff000000"),
    ("IOPCIPrimaryMatch", .string pciPrimaryMatch),
    ("IOProbeScore", .number 1000 32)]

def driverFields (useTglNames : Bool) : List (String × OSLeaf) :=
  [("MetalPluginName", .string (driverName useTglNames "MTLDriver")),
    ("IOGLBundleName", .string (driverName useTglNames "GLDriver")),
    ("IODVDBundleName", .string (driverName useTglNames "VADriver")),
    ("IOSourceVersion", .string "0.0.0.0.0"),
    ("IOGVACodec", .string "Gen10"),
    ("IOGVAScaler", .string "Gen10"),
    ("IOGVABGRAEnc", .string "Gen10"),
    ("IOVARendererID", .number 17301568 32)]

/-- The personality of `AppleIntelBaseControllerstart`. -/
def publishAcceleratorPersonality (useTglNames catalogue enabled : Bool)
    (pciPrimaryMatch : String) : OSCode Unit := do
  let dict ← OSDictionary.withCapacity
  ifSome dict do
    setValues dict (matchingFields useTglNames pciPrimaryMatch)
    setValues dict (driverFields useTglNames)
    setPlugInTypes dict
    setDisplayPipeCapabilities io dict enabled
    let array ← OSArray.withCapacity
    ifSome array do
      let _ ← store array (.index 0) dict
      publishDrivers catalogue array (pure ())
      release array
    release dict

/-- The properties that one by one are set on the accelerator if the Metal name is missing, in
this order. -/
def missingMetalFields (useTglNames : Bool) : List (String × OSLeaf) :=
  [("MetalPluginName", .string (driverName useTglNames "MTLDriver")),
    ("IOGLBundleName", .string (driverName useTglNames "GLDriver")),
    ("IODVDBundleName", .string (driverName useTglNames "VADriver")),
    ("IOGVACodec", .string "Gen10"),
    ("IOGVAScaler", .string "Gen10"),
    ("IOGVABGRAEnc", .string "Gen10"),
    ("IOSourceVersion", .string "0.0.0.0.0"),
    ("IOVARendererID", .number 17301568 32)]

def setEach (c : Ptr) : List (String × OSLeaf) → OSCode Unit
  | [] => pure ()
  | (name, v) :: fields => do
      setValue c name v
      setEach c fields

def injectMissingMetal (accelSvc : Ptr) (useTglNames enabled : Bool) : OSCode Unit := do
  let metal ← getObject accelSvc "MetalPluginName"
  if metal.isNone then do
    setEach accelSvc (missingMetalFields useTglNames)
    applyDisplayPipePolicy io accelSvc enabled
    setPlugInTypes accelSvc
  else pure ()

/-- `body` on a copy of the dictionary at `name`, `otherwise` if there is none. -/
def onCopy {γ : Type} (c : Ptr) (name : String) (body : Ptr → OSCode γ) (otherwise : OSCode γ) :
    OSCode γ := do
  let p ← getObject c name
  let dict ← asDictionary p
  if dict.isSome then withDictionary dict >>= body else otherwise

/-- The V44 block of `start`. -/
def publishSchedulerObjects (flags : PlatformFlags) (schedType : Int) (service : Ptr) :
    OSCode Unit := do
  let schedNum := OSLeaf.number (BitVec.ofInt 64 schedType) 32
  setValue service "GraphicsSchedulerSelect" schedNum
  let _ ← setObject service "NGreenSchedulerPolicySafe"
    (some (io.osBoolean flags.shouldUseSpoofedSafeSchedulerPolicy))
  let _ ← setObject service "NGreenExternalGateActive"
    (some (io.osBoolean flags.gateExternalDisplays))
  onCopy service "Development"
    (fun newDevDict => ifSome newDevDict do
      -- both numbers are made before either is put in
      let schedProp ← withValue schedNum
      let fallbackProp ← withValue (.number 1 32)
      ifSome schedProp do
        let _ ← setObject newDevDict "GraphicsSchedulerSelect" schedProp
        release schedProp
      ifSome fallbackProp do
        let _ ← setObject newDevDict "SchedulerFallbackOnFirmwareFail" fallbackProp
        release fallbackProp
      let _ ← setObject service "Development" newDevDict
      release newDevDict)
    (pure ())

/-- `MultiForceWakeSelect` into the dictionary, and the dictionary into `Development`. -/
def setMultiForceWakeSelect (service newDevDict : Ptr) : OSCode Unit :=
  ifSome newDevDict do
    setValue newDevDict "MultiForceWakeSelect" (.number 1 32)
    let _ ← setObject service "Development" newDevDict
    release newDevDict

/-- The V52 block of `start`. -/
def injectMultiForceWakeObjects (flags : PlatformFlags) (service : Ptr) : OSCode Unit :=
  if !flags.isRealTGL then
    onCopy service "Development" (setMultiForceWakeSelect service)
      (OSDictionary.withCapacity >>= setMultiForceWakeSelect service)
  else pure ()

end Policy

/-! ## Every function gives up what it takes -/

section Specs

variable {K : OSKernel} {R : Roots} {S : Multiset Nat}

theorem spec_setValue {c : Ptr} (hc : Writes R S c) (name : String) (v : OSLeaf) :
    Spec K R S (setValue c name v) fun _ => S :=
  .bind (.new rfl) fun p => .ifSome_refs fun hp =>
    .bind (.store (hc.add _) fun _ => .of_refs hp (refs_le p S)) fun _ => .release hp

theorem spec_setEach {c : Ptr} (hc : Writes R S c) (fields : List (String × OSLeaf)) :
    Spec K R S (setEach c fields) fun _ => S := by
  induction fields with
  | nil => exact .done
  | cons field fields ih => exact .bind (spec_setValue hc _ _) fun _ => ih

/-- The references of a list of pointers. -/
def refsAll : List Ptr → Multiset Nat
  | [] => 0
  | p :: ps => refs p + refsAll ps

theorem refs_le_refsAll {p : Ptr} {ps : List Ptr} (hp : p ∈ ps) : refs p ≤ refsAll ps := by
  induction ps with
  | nil => exact absurd hp List.not_mem_nil
  | cons q ps ih =>
      rcases List.mem_cons.mp hp with rfl | hp
      · exact Multiset.le_add_right _ _
      · exact (ih hp).trans (Multiset.le_add_left _ _)

theorem spec_withValues (vs : List OSLeaf) :
    Spec K R S (withValues vs) fun ps => refsAll ps + S := by
  induction vs generalizing S with
  | nil => exact .ret (zero_add S).symm
  | cons v vs ih =>
      refine .bind (.new rfl) fun p => .bind ih fun ps => .ret ?_
      rw [refsAll, add_left_comm, add_assoc]

theorem spec_setObjects {c : Ptr} (hc : Writes R S c) {l : List (String × Ptr)}
    (hl : ∀ field ∈ l, refs field.2 ≤ S) : Spec K R S (setObjects c l) fun _ => S := by
  induction l with
  | nil => exact .done
  | cons field l ih =>
      obtain ⟨hfield, hl⟩ := List.forall_mem_cons.mp hl
      exact .bind (.store hc fun hsome => .of_refs hsome hfield) fun _ => ih hl

theorem spec_releaseAll (ps : List Ptr) :
    Spec K R (refsAll ps + S) (releaseAll ps) fun _ => S := by
  induction ps with
  | nil =>
      rw [show refsAll [] + S = S from zero_add S]
      exact .done
  | cons p ps ih =>
      rw [show refsAll (p :: ps) + S = refs p + (refsAll ps + S) from add_assoc _ _ _]
      exact .bind .safeRelease fun _ => ih

theorem spec_setValues {c : Ptr} (hc : Writes R S c) (fields : List (String × OSLeaf)) :
    Spec K R S (setValues c fields) fun _ => S := by
  refine .bind (spec_withValues _) fun ps => .bind (spec_setObjects (hc.add _) ?_) fun _ =>
    spec_releaseAll ps
  intro field hfield
  have hmem : field.2 ∈ ps := (List.of_mem_zip hfield).2
  exact (refs_le_refsAll hmem).trans (Multiset.le_add_right _ _)

theorem spec_logString {d : Ptr} (hd : Has R S d) (name : String) :
    Spec K R S (logString d name) fun _ => S := by
  refine .borrow hd fun p h F _ hown hvalid => ?_
  cases p with
  | none => exact ⟨trivial, hown⟩
  | some i => exact ⟨⟨hvalid rfl, trivial⟩, hown⟩

theorem spec_call {e : OSCall} {p : Ptr} (hp : Has R S p) :
    Spec K R S (call e [p]) fun _ => S :=
  .call fun _ hmem => List.mem_singleton.mp hmem ▸ hp

theorem spec_publishDrivers {array : Ptr} (harray : Has R S array) (catalogue : Bool)
    {andThen : OSCode Unit} (hthen : Spec K R S andThen fun _ => S) :
    Spec K R S (publishDrivers catalogue array andThen) fun _ => S :=
  .ite (fun _ => .bind (spec_call harray) fun _ => hthen) fun _ => .done

theorem spec_publishTglFramebufferPersonality (catalogue : Bool) {gpu : Ptr}
    (hgpu : gpu.isSome → Has R 0 gpu) :
    Spec K R S (publishTglFramebufferPersonality catalogue gpu) fun _ => S := by
  refine .new_bind rfl fun fbDict hmade => .ifSome_refs fun hfb =>
    .bind (spec_setValues (.of_refs hfb hmade (refs_le _ _)) _) fun _ =>
    .new_bind rfl fun array hmadeA => .bind (.ifSome_refs fun harray => ?_) fun _ => .release hfb
  have hdict : Has R (refs array + (refs fbDict + S)) fbDict :=
    .of_refs hfb ((refs_le _ _).trans (Multiset.le_add_left _ _))
  refine .bind (.store (.of_refs harray hmadeA (refs_le _ _)) fun _ => hdict) fun _ =>
    .bind (spec_logString hdict _) fun _ => .bind (spec_logString hdict _) fun _ =>
    .bind (spec_logString hdict _) fun _ =>
    .bind (spec_publishDrivers (.of_refs harray (refs_le _ _)) catalogue ?_) fun _ =>
    .release harray
  exact .ifSome fun hsome =>
    .bind (spec_call ((hgpu hsome).mono (Multiset.zero_le _))) fun _ => .done

theorem spec_publishAccelProperties {iGPU : Ptr} (higpu : Writes R S iGPU) :
    Spec K R S (publishAccelProperties iGPU) fun _ => S :=
  .bind (spec_setValue higpu _ _) fun _ => .bind (spec_setValues higpu _) fun _ =>
    .bind (spec_setValue higpu _ _) fun _ => spec_logString higpu.has _

theorem spec_restoreString {resources : Ptr} (hres : Writes R S resources) (name text : String) :
    Spec K R S (restoreString resources name text) fun _ => S :=
  .borrow hres.has fun _ h F hbase hown _ =>
    Spec.ite (fun _ => spec_setValue hres _ _) (fun _ => .done) h F hbase hown

theorem spec_publishFramebufferTriageResources {resources : Ptr}
    (hres : resources.isSome → Writes R S resources) :
    Spec K R S (publishFramebufferTriageResources resources) fun _ => S :=
  .ifSome fun hsome => .bind (.retain (hres hsome).has) fun _ =>
    .bind (spec_restoreString ((hres hsome).add _) _ _) fun _ =>
    .bind (spec_restoreString ((hres hsome).add _) _ _) fun _ => .release hsome

end Specs

section Specs

variable {K : OSKernel} {io : IOKit} {S : Multiset Nat}

theorem spec_createDisplayPipeCapabilityDict (enabled : Bool) :
    Spec K io.toRoots S (createDisplayPipeCapabilityDict io enabled) fun p => refs p + S := by
  refine .new_bind rfl fun dpCaps hmade => .bind (.ifSome fun hsome => ?_) fun _ => .ret rfl
  have hdict : Writes io.toRoots (refs dpCaps + S) dpCaps := .of_refs hsome hmade (refs_le _ _)
  exact .bind (.store hdict fun _ => .root (io.osBoolean_alive _)) fun _ =>
    .bind (.store hdict fun _ => .root (io.osBoolean_alive _)) fun _ => .done

theorem spec_setDisplayPipeCapabilities {c : Ptr} (hc : Writes io.toRoots S c) (enabled : Bool) :
    Spec K io.toRoots S (setDisplayPipeCapabilities io c enabled) fun _ => S :=
  .bind (spec_createDisplayPipeCapabilityDict enabled) fun _ => .ifSome_refs fun hsome =>
    .bind (.store (hc.add _) fun _ => .of_refs hsome (refs_le _ _)) fun _ => .release hsome

theorem spec_applyDisplayPipePolicy {entry : Ptr}
    (hentry : entry.isSome → Writes io.toRoots S entry) (enabled : Bool) :
    Spec K io.toRoots S (applyDisplayPipePolicy io entry enabled) fun _ => S :=
  .ifSome fun hsome => spec_setDisplayPipeCapabilities (hentry hsome) enabled

theorem spec_setPlugInTypes {c : Ptr} (hc : Writes io.toRoots S c) :
    Spec K io.toRoots S (setPlugInTypes c) fun _ => S :=
  .new_bind rfl fun _ hmade => .ifSome_refs fun hsome =>
    .bind (spec_setValue (.of_refs hsome hmade (refs_le _ _)) _ _) fun _ =>
    .bind (.store (hc.add _) fun _ => .of_refs hsome (refs_le _ _)) fun _ => .release hsome

theorem spec_publishAcceleratorPersonality (useTglNames catalogue enabled : Bool)
    (pciPrimaryMatch : String) :
    Spec K io.toRoots S
      (publishAcceleratorPersonality io useTglNames catalogue enabled pciPrimaryMatch)
      fun _ => S := by
  refine .new_bind rfl fun dict hmade => .ifSome_refs fun hsome => ?_
  have hdict : Writes io.toRoots (refs dict + S) dict := .of_refs hsome hmade (refs_le _ _)
  refine .bind (spec_setValues hdict _) fun _ => .bind (spec_setValues hdict _) fun _ =>
    .bind (spec_setPlugInTypes hdict) fun _ =>
    .bind (spec_setDisplayPipeCapabilities hdict enabled) fun _ =>
    .new_bind rfl fun array hmadeA => .bind (.ifSome_refs fun harray => ?_) fun _ =>
      .release hsome
  exact .bind (.store (.of_refs harray hmadeA (refs_le _ _)) fun _ => (hdict.add _).has) fun _ =>
    .bind (spec_publishDrivers (.of_refs harray (refs_le _ _)) catalogue .done) fun _ =>
    .release harray

theorem spec_injectMissingMetal {accelSvc : Ptr} (hsvc : Writes io.toRoots S accelSvc)
    (useTglNames enabled : Bool) :
    Spec K io.toRoots S (injectMissingMetal io accelSvc useTglNames enabled) fun _ => S := by
  refine .borrow hsvc.has fun _ h F hbase hown _ =>
    Spec.ite (fun _ => ?_) (fun _ => .done) h F hbase hown
  exact .bind (spec_setEach hsvc _) fun _ =>
    .bind (spec_applyDisplayPipePolicy (fun _ => hsvc) enabled) fun _ => spec_setPlugInTypes hsvc

end Specs

section Copies

variable {K : OSKernel} {R : Roots} {S : Multiset Nat} {γ : Type}

/-- The dictionary that the container has at the name. -/
def dictionaryAt (h : OSHeap) (c : Ptr) (name : String) : Ptr :=
  ((h.obj c).bind fun o => o.entries.lookup (.key name)).filter fun i =>
    (h.cell i).any (·.payload = .dictionary)

/-- A copy of the object, as a dictionary. -/
def copyOf (h : OSHeap) (d : Ptr) : Obj OSClass Slot :=
  ⟨.dictionary, ((h.obj d).map Obj.entries).getD []⟩

theorem run_asDictionary (p : Ptr) (h : OSHeap) :
    (asDictionary p).run K h =
      (p.filter fun i => (h.cell i).any (·.payload = .dictionary), h) := by
  cases p with
  | none => rfl
  | some i =>
      rw [Option.filter_some]
      rfl

theorem run_onCopy (c : Ptr) (name : String) (body : Ptr → OSCode γ) (otherwise : OSCode γ)
    (h : OSHeap) :
    (onCopy c name body otherwise).run K h =
      if (dictionaryAt h c name).isSome then
        (body (K.new (copyOf h (dictionaryAt h c name)) h).1).run K
          (K.new (copyOf h (dictionaryAt h c name)) h).2
      else otherwise.run K h := by
  have hload : (getObject c name).run K h =
      ((h.obj c).bind fun o => o.entries.lookup (.key name), h) := rfl
  rw [onCopy, Prog.run_bind, hload, Prog.run_bind, run_asDictionary]
  show (if (dictionaryAt h c name).isSome then _ else _ : OSCode γ).run K h = _
  split <;> rfl

/-- The dictionary is only borrowed, but alive while it is copied. -/
theorem spec_withDictionary {d : Ptr} {h : OSHeap} {F : Multiset Nat} (hbase : R.base ≤ h.next)
    (hown : h.own = S + F) (hd : h.Valid R d) {f : Ptr → OSCode γ} {T : γ → Multiset Nat}
    (hf : ∀ p, Made R p → Spec K R (refs p + S) (f p) T) :
    (withDictionary d >>= f).Safe K R h ∧
      ((withDictionary d >>= f).run K h).2.own = T ((withDictionary d >>= f).run K h).1 + F := by
  obtain ⟨i, rfl, hlive⟩ := hd
  let o : Obj OSClass Slot := ⟨.dictionary, ((h.obj (some i)).map Obj.entries).getD []⟩
  have hentries : ∀ kv ∈ o.entries, h.Live R kv.2 := by
    intro kv hkv
    cases hcell : h.cell i with
    | none =>
        have : o.entries = [] := by simp [o, Heap.obj, hcell]
        exact absurd (this ▸ hkv) List.not_mem_nil
    | some original =>
        have : o.entries = original.entries := by simp [o, Heap.obj, hcell]
        exact .held hlive hcell (this ▸ hkv)
  obtain ⟨hsafe, hown'⟩ := Spec.new_made hf h F hbase hown o
  exact ⟨⟨⟨i, rfl, hlive⟩, hentries, hsafe⟩, hown'⟩

theorem spec_onCopy {c : Ptr} (hc : Has R S c) (name : String) {body : Ptr → OSCode γ}
    {otherwise : OSCode γ} {T : γ → Multiset Nat}
    (hbody : ∀ p, Made R p → Spec K R (refs p + S) (body p) T)
    (hotherwise : Spec K R S otherwise T) : Spec K R S (onCopy c name body otherwise) T := by
  refine .borrow hc fun p h F hbase hown hvalid => ?_
  cases p with
  | none => exact hotherwise h F hbase hown
  | some i =>
      have hi : h.Valid R (some i) := hvalid rfl
      rw [Prog.run_bind, Prog.safe_bind, run_asDictionary, Option.filter_some]
      by_cases hdict : (h.cell i).any (·.payload = .dictionary) = true
      · rw [if_pos hdict]
        exact (spec_withDictionary hbase hown hi hbody).imp_left fun hsafe =>
          ⟨⟨hi, trivial⟩, hsafe⟩
      · rw [if_neg hdict]
        exact (hotherwise h F hbase hown).imp_left fun hsafe => ⟨⟨hi, trivial⟩, hsafe⟩

end Copies

section Start

variable {K : OSKernel} {io : IOKit} {S : Multiset Nat} {service : Ptr}

theorem spec_publishSchedulerObjects (hservice : Writes io.toRoots S service)
    (flags : PlatformFlags) (schedType : Int) :
    Spec K io.toRoots S (publishSchedulerObjects io flags schedType service) fun _ => S := by
  refine .bind (spec_setValue hservice _ _) fun _ =>
    .bind (.store hservice fun _ => .root (io.osBoolean_alive _)) fun _ =>
    .bind (.store hservice fun _ => .root (io.osBoolean_alive _)) fun _ =>
    spec_onCopy hservice.has _ (fun newDevDict hmade => .ifSome_refs fun hsome => ?_) .done
  have hnew : Writes io.toRoots (refs newDevDict + S) newDevDict :=
    .of_refs hsome hmade (refs_le _ _)
  refine .bind (.new rfl) fun schedProp => .bind (.new rfl) fun fallbackProp => ?_
  -- the two numbers are given up in the order they were made
  rw [add_left_comm]
  exact .bind (.ifSome_refs fun hsched =>
      .bind (.store ((hnew.add _).add _) fun _ => .of_refs hsched (refs_le _ _)) fun _ =>
      .release hsched) fun _ =>
    .bind (.ifSome_refs fun hfallback =>
      .bind (.store (hnew.add _) fun _ => .of_refs hfallback (refs_le _ _)) fun _ =>
      .release hfallback) fun _ =>
    .bind (.store (hservice.add _) fun _ => hnew.has) fun _ => .release hsome

theorem spec_setMultiForceWakeSelect (hservice : Writes io.toRoots S service) {newDevDict : Ptr}
    (hmade : Made io.toRoots newDevDict) :
    Spec K io.toRoots (refs newDevDict + S) (setMultiForceWakeSelect service newDevDict)
      fun _ => S := by
  refine .ifSome_refs fun hsome => ?_
  have hnew : Writes io.toRoots (refs newDevDict + S) newDevDict :=
    .of_refs hsome hmade (refs_le _ _)
  exact .bind (spec_setValue hnew _ _) fun _ =>
    .bind (.store (hservice.add _) fun _ => hnew.has) fun _ => .release hsome

theorem spec_injectMultiForceWakeObjects (hservice : Writes io.toRoots S service)
    (flags : PlatformFlags) :
    Spec K io.toRoots S (injectMultiForceWakeObjects flags service) fun _ => S := by
  have hset : ∀ p, Made io.toRoots p →
      Spec K io.toRoots (refs p + S) (setMultiForceWakeSelect service p) fun _ => S :=
    fun _ hmade => spec_setMultiForceWakeSelect hservice hmade
  exact .ite (fun _ => spec_onCopy hservice.has _ hset (.new_bind rfl hset)) fun _ => .done

end Start

/-! ## Any of them, in any order -/

/-- The eight sequences: one each of `publishTglFramebufferPersonality`, `processPatcher`,
`publishFramebufferTriageResources`, `AppleIntelBaseControllerstart` and
`applyDisplayPipePolicy`, and three of `start` (V45, V44, V52). -/
inductive Publisher where
  | framebufferPersonality (catalogue : Bool) (gpu : Ptr)
  | accelProperties (iGPU : Nat)
  | triageResources (resources : Ptr)
  | acceleratorPersonality (useTglNames catalogue enabled : Bool) (pciPrimaryMatch : String)
  | displayPipePolicy (entry : Ptr) (enabled : Bool)
  | missingMetal (accelSvc : Nat) (useTglNames enabled : Bool)
  | scheduler (service : Nat) (flags : PlatformFlags) (schedType : Int)
  | multiForceWake (service : Nat) (flags : PlatformFlags)

namespace Publisher

variable (io : IOKit)

def code : Publisher → OSCode Unit
  | framebufferPersonality catalogue gpu => publishTglFramebufferPersonality catalogue gpu
  | accelProperties iGPU => publishAccelProperties (some iGPU)
  | triageResources resources => publishFramebufferTriageResources resources
  | acceleratorPersonality useTglNames catalogue enabled pciPrimaryMatch =>
      publishAcceleratorPersonality io useTglNames catalogue enabled pciPrimaryMatch
  | displayPipePolicy entry enabled => applyDisplayPipePolicy io entry enabled
  | missingMetal accelSvc useTglNames enabled =>
      injectMissingMetal io (some accelSvc) useTglNames enabled
  | scheduler service flags schedType =>
      publishSchedulerObjects io flags schedType (some service)
  | multiForceWake service flags => injectMultiForceWakeObjects flags (some service)

/-- The entry whose properties are set, or that is registered again. -/
def entry : Publisher → Ptr
  | framebufferPersonality _ gpu => gpu
  | accelProperties iGPU => some iGPU
  | triageResources resources => resources
  | acceleratorPersonality _ _ _ _ => none
  | displayPipePolicy entry _ => entry
  | missingMetal accelSvc _ _ => some accelSvc
  | scheduler service _ _ => some service
  | multiForceWake service _ => some service

theorem spec {K : OSKernel} {io : IOKit} {S : Multiset Nat} (p : Publisher)
    (hentry : ∀ i, p.entry = some i → io.table i) :
    Spec K io.toRoots S (p.code io) fun _ => S := by
  have htable : ∀ {e : Ptr}, (∀ i, e = some i → io.table i) → e.isSome →
      ∀ {S}, Writes io.toRoots S e := by
    intro e he hsome S
    obtain ⟨i, rfl⟩ := Option.isSome_iff_exists.mp hsome
    exact .table (he i rfl)
  cases p with
  | framebufferPersonality catalogue gpu =>
      exact spec_publishTglFramebufferPersonality catalogue fun hsome => (htable hentry hsome).has
  | accelProperties iGPU => exact spec_publishAccelProperties (.table (hentry _ rfl))
  | triageResources resources =>
      exact spec_publishFramebufferTriageResources fun hsome => htable hentry hsome
  | acceleratorPersonality useTglNames catalogue enabled pciPrimaryMatch =>
      exact spec_publishAcceleratorPersonality useTglNames catalogue enabled pciPrimaryMatch
  | displayPipePolicy entry enabled =>
      exact spec_applyDisplayPipePolicy (fun hsome => htable hentry hsome) enabled
  | missingMetal accelSvc useTglNames enabled =>
      exact spec_injectMissingMetal (.table (hentry _ rfl)) useTglNames enabled
  | scheduler service flags schedType =>
      exact spec_publishSchedulerObjects (.table (hentry _ rfl)) flags schedType
  | multiForceWake service flags =>
      exact spec_injectMultiForceWakeObjects (.table (hentry _ rfl)) flags

/-- One after the other. -/
def codeAll : List Publisher → OSCode Unit
  | [] => pure ()
  | p :: ps => do
      p.code io
      codeAll ps

theorem spec_codeAll {K : OSKernel} {io : IOKit} {S : Multiset Nat} {ps : List Publisher}
    (hps : ∀ p ∈ ps, ∀ i, p.entry = some i → io.table i) :
    Spec K io.toRoots S (codeAll io ps) fun _ => S := by
  induction ps with
  | nil => exact .done
  | cons p ps ih =>
      obtain ⟨hp, hps⟩ := List.forall_mem_cons.mp hps
      exact .bind (p.spec hp) fun _ => ih hps

end Publisher

/-- Whatever memory is refused: no null or dead pointer is followed, no reference is given up
twice or kept, and of what was there before only property tables are changed, unless the
catalogue and `registerService` change more. -/
theorem publishers_balanced (K : OSKernel) (io : IOKit) {ps : List Publisher}
    (hps : ∀ p ∈ ps, ∀ i, p.entry = some i → io.table i) {h : OSHeap} (hbase : io.base ≤ h.next) :
    (Publisher.codeAll io ps).Safe K io.toRoots h ∧
      ((Publisher.codeAll io ps).run K h).2.own = h.own ∧
      ∀ i < io.base, ¬io.table i → (∀ e qs g, (K.call e qs g).2.cell i = g.cell i) →
        ((Publisher.codeAll io ps).run K h).2.cell i = h.cell i := by
  obtain ⟨hsafe, hown⟩ := Publisher.spec_codeAll (K := K) (S := 0) hps h h.own hbase
    (zero_add _).symm
  refine ⟨hsafe, hown.trans (zero_add _), fun i hi htable hcall => ?_⟩
  exact hsafe.cell hi htable hcall hbase

/-- Entry 0 with a dictionary, 1, at `ApplePanels` and at `Development`. -/
def sampleHeap : OSHeap where
  cell := fun i =>
    if i = 0 then some ⟨.entry, [(.key "ApplePanels", 1), (.key "Development", 1)]⟩
    else if i = 1 then some ⟨.dictionary, []⟩
    else none
  next := 4
  fresh := fun i hi => by
    rw [if_neg (by omega), if_neg (by omega)]
  own := 0
  asked := 0

def sampleIO : IOKit where
  alive := (· < 4)
  table := (· = 0)
  table_alive := fun i hi => by omega
  base := 4
  osBoolean := fun b => if b then 2 else 3
  osBoolean_alive := fun b => by cases b <;> decide

/-- Calls do nothing. -/
def kernelThat (grants : Nat → Bool) : OSKernel where
  grants := grants
  call := fun _ _ h => (true, h)
  call_own := fun _ _ _ => rfl
  call_next := fun _ _ _ => le_rfl

/-- Off real TGL. -/
def sampleFlags : PlatformFlags := ⟨0x8C, true, false, false, false⟩

def samplePublishers : List Publisher :=
  [.framebufferPersonality true (some 0), .accelProperties 0, .triageResources (some 0),
    .acceleratorPersonality true true true "0x9A498086", .displayPipePolicy (some 0) true,
    .missingMetal 0 true true, .scheduler 0 sampleFlags 5, .multiForceWake 0 sampleFlags]

/-- All of them, with every third request refused. -/
theorem publishers_balanced_refused :
    ((Publisher.codeAll sampleIO samplePublishers).run (kernelThat (· % 3 != 2))
        sampleHeap).2.own = sampleHeap.own ∧
      ((Publisher.codeAll sampleIO samplePublishers).run (kernelThat (· % 3 != 2))
        sampleHeap).2.cell 1 = sampleHeap.cell 1 := by
  have hps : ∀ p ∈ samplePublishers, ∀ i, p.entry = some i → sampleIO.table i := by
    intro p hp i hi
    have hentry : ∀ p ∈ samplePublishers, p.entry.getD 0 = 0 := by decide
    have h0 := hentry p hp
    rwa [hi] at h0
  obtain ⟨_, hown, hcell⟩ := publishers_balanced (kernelThat (· % 3 != 2)) sampleIO hps
    (h := sampleHeap) le_rfl
  exact ⟨hown, hcell 1 (Nat.lt_of_lt_of_le Nat.one_lt_two (by decide)) Nat.one_ne_zero
    fun _ _ _ => rfl⟩

/-! ## The panels -/

def appleBacklightData : List (String × List (BitVec 8)) :=
  [("F14Txxxx", [
      0x00, 0x11, 0x00, 0x00, 0x00, 0x34, 0x00, 0x52, 0x00, 0x73, 0x00, 0x94, 0x00, 0xBE, 0x00,
      0xFA, 0x01, 0x36, 0x01, 0x72, 0x01, 0xC5, 0x02, 0x2F, 0x02, 0xB9, 0x03, 0x60, 0x04, 0x1A,
      0x05, 0x0A, 0x06, 0x0E, 0x07, 0x10]),
    ("F15Txxxx", [
      0x00, 0x11, 0x00, 0x00, 0x00, 0x36, 0x00, 0x54, 0x00, 0x7D, 0x00, 0xB2, 0x00, 0xF5, 0x01,
      0x49, 0x01, 0xB1, 0x02, 0x2B, 0x02, 0xB8, 0x03, 0x59, 0x04, 0x13, 0x04, 0xEC, 0x05, 0xF3,
      0x07, 0x34, 0x08, 0xAF, 0x0A, 0xD9]),
    ("F16Txxxx", [
      0x00, 0x11, 0x00, 0x00, 0x00, 0x18, 0x00, 0x27, 0x00, 0x3A, 0x00, 0x52, 0x00, 0x71, 0x00,
      0x96, 0x00, 0xC4, 0x00, 0xFC, 0x01, 0x40, 0x01, 0x93, 0x01, 0xF6, 0x02, 0x6E, 0x02, 0xFE,
      0x03, 0xAA, 0x04, 0x78, 0x05, 0x6C]),
    ("F17Txxxx", [
      0x00, 0x11, 0x00, 0x00, 0x00, 0x1F, 0x00, 0x34, 0x00, 0x4F, 0x00, 0x71, 0x00, 0x9B, 0x00,
      0xCF, 0x01, 0x0E, 0x01, 0x5D, 0x01, 0xBB, 0x02, 0x2F, 0x02, 0xB9, 0x03, 0x60, 0x04, 0x29,
      0x05, 0x1E, 0x06, 0x44, 0x07, 0xA1]),
    ("F18Txxxx", [
      0x00, 0x11, 0x00, 0x00, 0x00, 0x53, 0x00, 0x8C, 0x00, 0xD5, 0x01, 0x31, 0x01, 0xA2, 0x02,
      0x2E, 0x02, 0xD8, 0x03, 0xAE, 0x04, 0xAC, 0x05, 0xE5, 0x07, 0x59, 0x09, 0x1C, 0x0B, 0x3B,
      0x0D, 0xD0, 0x10, 0xEA, 0x14, 0x99]),
    ("F19Txxxx", [
      0x00, 0x11, 0x00, 0x00, 0x02, 0x8F, 0x03, 0x53, 0x04, 0x5A, 0x05, 0xA1, 0x07, 0xAE, 0x0A,
      0x3D, 0x0E, 0x14, 0x13, 0x74, 0x1A, 0x5E, 0x24, 0x18, 0x31, 0xA9, 0x44, 0x59, 0x5E, 0x76,
      0x83, 0x11, 0xB6, 0xC7, 0xFF, 0x7B]),
    ("F24Txxxx", [
      0x00, 0x11, 0x00, 0x01, 0x00, 0x34, 0x00, 0x52, 0x00, 0x73, 0x00, 0x94, 0x00, 0xBE, 0x00,
      0xFA, 0x01, 0x36, 0x01, 0x72, 0x01, 0xC5, 0x02, 0x2F, 0x02, 0xB9, 0x03, 0x60, 0x04, 0x1A,
      0x05, 0x0A, 0x06, 0x0E, 0x07, 0x10])]

/-- The panels' data, put in and not let go.  The result is what is forgotten. -/
def addPanels (panels : Ptr) : List (String × List (BitVec 8)) → OSCode (List Ptr)
  | [] => pure []
  | (deviceName, deviceData) :: entries => do
      let pd ← withValue (.data deviceData)
      ifSome pd do
        let _ ← setObject panels deviceName pd
      let pds ← addPanels panels entries
      return pd :: pds

/-- The panels into the copy, and the copy in their place. -/
def fillPanels (that rawPanels : Ptr) : OSCode (List Ptr) :=
  if rawPanels.isSome then do
    let pds ← addPanels rawPanels appleBacklightData
    let _ ← setObject that "ApplePanels" rawPanels
    return pds
  else pure []

/-- The first call. -/
def setApplePanels (that : Ptr) : OSCode (List Ptr) :=
  onCopy that "ApplePanels"
    (fun rawPanels => do
      let pds ← fillPanels that rawPanels
      safeRelease rawPanels
      return pds)
    (pure [])

def wrapApplePanelSetDisplay (once : Bool) (that : Ptr) : OSCode (List Ptr) := do
  let pds ← (if once then pure [] else setApplePanels that : OSCode (List Ptr))
  let _ ← call .originalSetDisplay [that]
  return pds

/-- Calls for one panel after the other; `once` is static. -/
def panelCalls : Bool → List Nat → OSCode (List Ptr)
  | _, [] => pure []
  | once, that :: rest => do
      let pds ← wrapApplePanelSetDisplay once (some that)
      let pds' ← panelCalls true rest
      return pds ++ pds'

section Panels

variable {K : OSKernel} {R : Roots} {S : Multiset Nat}

theorem refsAll_append (ps qs : List Ptr) : refsAll (ps ++ qs) = refsAll ps + refsAll qs := by
  induction ps with
  | nil => exact (zero_add _).symm
  | cons p ps ih => rw [List.cons_append, refsAll, refsAll, ih, add_assoc]

theorem refsAll_eq (ps : List Ptr) : refsAll ps = (ps.reduceOption : Multiset Nat) := by
  induction ps with
  | nil => rfl
  | cons p ps ih =>
      rw [refsAll, ih]
      cases p with
      | none => exact zero_add _
      | some i => rfl

theorem spec_addPanels {panels : Ptr} (hpanels : Writes R S panels)
    (entries : List (String × List (BitVec 8))) :
    Spec K R S (addPanels panels entries) fun pds => refsAll pds + S := by
  induction entries generalizing S with
  | nil => exact .ret (zero_add S).symm
  | cons entry entries ih =>
      refine .bind (.new rfl) fun pd => .bind (.ifSome fun hsome => ?_) fun _ =>
        .bind (ih (hpanels.add _)) fun pds => .ret ?_
      · exact .bind (.store (hpanels.add _) fun _ => .of_refs hsome (refs_le _ _)) fun _ => .done
      · rw [refsAll, add_left_comm, add_assoc]

theorem spec_setApplePanels {that : Ptr} (hthat : Writes R S that) :
    Spec K R S (setApplePanels that) fun pds => refsAll pds + S := by
  refine spec_onCopy hthat.has _ (fun rawPanels hmade => ?_) (.ret (zero_add S).symm)
  have hfill : Spec K R (refs rawPanels + S) (fillPanels that rawPanels)
      fun pds => refsAll pds + (refs rawPanels + S) := by
    refine .ite (fun hsome => ?_) fun _ => .ret (zero_add _).symm
    have hraw : Writes R (refs rawPanels + S) rawPanels := .of_refs hsome hmade (refs_le _ _)
    exact .bind (spec_addPanels hraw _) fun pds =>
      .bind (.store ((hthat.add _).add _) fun _ => (hraw.add _).has) fun _ => .ret rfl
  refine .bind hfill fun pds => ?_
  rw [add_left_comm]
  exact .bind .safeRelease fun _ => .ret rfl

theorem spec_wrapApplePanelSetDisplay {that : Ptr} (hthat : Writes R S that) (once : Bool) :
    Spec K R S (wrapApplePanelSetDisplay once that) fun pds => refsAll pds + S := by
  have hpanels : Spec K R S (if once then pure [] else setApplePanels that : OSCode (List Ptr))
      fun pds => refsAll pds + S :=
    .ite (fun _ => .ret (zero_add S).symm) fun _ => spec_setApplePanels hthat
  exact .bind hpanels fun pds => .bind (spec_call (hthat.add _).has) fun _ => .ret rfl

theorem spec_panelCalls {thats : List Nat} (hthats : ∀ that ∈ thats, R.table that)
    (once : Bool) : Spec K R S (panelCalls once thats) fun pds => refsAll pds + S := by
  induction thats generalizing S once with
  | nil => exact .ret (zero_add S).symm
  | cons that rest ih =>
      obtain ⟨hthat, hrest⟩ := List.forall_mem_cons.mp hthats
      refine .bind (spec_wrapApplePanelSetDisplay (.table hthat) once) fun pds =>
        .bind (ih hrest true) fun pds' => .ret ?_
      rw [refsAll_append, add_left_comm, add_assoc]

theorem addPanels_length (panels : Ptr) (entries : List (String × List (BitVec 8)))
    (h : OSHeap) : ((addPanels panels entries).run K h).1.length = entries.length := by
  induction entries generalizing h with
  | nil => rfl
  | cons entry entries ih =>
      rw [addPanels, Prog.run_bind, Prog.run_bind, Prog.run_bind]
      exact congrArg (· + 1) (ih _)

theorem addPanels_isSome (hK : K.Generous) (panels : Ptr)
    (entries : List (String × List (BitVec 8))) (h : OSHeap) :
    ∀ pd ∈ ((addPanels panels entries).run K h).1, pd.isSome := by
  induction entries generalizing h with
  | nil => exact fun pd hpd => absurd hpd List.not_mem_nil
  | cons entry entries ih =>
      rw [addPanels, Prog.run_bind, Prog.run_bind, Prog.run_bind]
      refine List.forall_mem_cons.mpr ⟨?_, ih _⟩
      show ((K.new _ h).1).isSome
      rw [hK.new]
      rfl

/-- What is forgotten on the way from the heap `h` to `h'`: new objects, no two the same and no
more than there are panels, that are the data of some of these, in their order. -/
structure Forgotten (K : OSKernel) (entries : List (String × List (BitVec 8))) (h h' : OSHeap)
    (pds : List Ptr) : Prop where
  nodup : pds.reduceOption.Nodup
  made : ∀ i ∈ pds.reduceOption, h.next ≤ i ∧ i < h'.next
  length_le : pds.reduceOption.length ≤ entries.length
  data : K.KeepsPayloads → (pds.reduceOption.map h'.payload).Sublist
    (entries.map fun entry => some (.leaf (.data entry.2)))

theorem Forgotten.none (entries : List (String × List (BitVec 8))) (h h' : OSHeap) :
    Forgotten K entries h h' [] where
  nodup := List.nodup_nil
  made := fun _ hi => absurd hi List.not_mem_nil
  length_le := Nat.zero_le _
  data := fun _ => List.nil_sublist _

/-- It may have begun earlier, and more may be done after it. -/
theorem Forgotten.within {γ : Type} {entries : List (String × List (BitVec 8))}
    {h₀ h h' : OSHeap} {pds : List Ptr} (hf : Forgotten K entries h h' pds)
    (hle : h₀.next ≤ h.next) (p : OSCode γ) :
    Forgotten K entries h₀ (p.run K h').2 pds where
  nodup := hf.nodup
  made := fun i hi =>
    ⟨hle.trans (hf.made i hi).1, (hf.made i hi).2.trans_le (Prog.next_le_run K p h')⟩
  length_le := hf.length_le
  data := fun hK => by
    have hkeep : pds.reduceOption.map (p.run K h').2.payload = pds.reduceOption.map h'.payload :=
      List.map_congr_left fun i hi => Prog.payload_run hK p (hf.made i hi).2
    rw [hkeep]
    exact hf.data hK

/-- A panel before them whose data is refused adds nothing. -/
theorem Forgotten.refused {entries : List (String × List (BitVec 8))} {h₀ h h' : OSHeap}
    {pds : List Ptr} (hf : Forgotten K entries h h' pds) (hle : h₀.next ≤ h.next)
    (entry : String × List (BitVec 8)) : Forgotten K (entry :: entries) h₀ h' (.none :: pds) where
  nodup := hf.nodup
  made := fun i hi => ⟨hle.trans (hf.made i hi).1, (hf.made i hi).2⟩
  length_le := Nat.le_succ_of_le hf.length_le
  data := fun hK => (hf.data hK).cons _

/-- A panel before them whose data is made adds it: it is older than all that follow. -/
theorem Forgotten.kept {entries : List (String × List (BitVec 8))} {h₀ h h' : OSHeap}
    {pds : List Ptr} (hf : Forgotten K entries h h' pds) (hlt : h₀.next < h.next)
    (hnext : h.next ≤ h'.next) {entry : String × List (BitVec 8)}
    (hdata : K.KeepsPayloads → h'.payload h₀.next = some (.leaf (.data entry.2))) :
    Forgotten K (entry :: entries) h₀ h' (some h₀.next :: pds) where
  nodup := by
    rw [List.reduceOption_cons_of_some]
    refine List.nodup_cons.mpr ⟨fun hmem => ?_, hf.nodup⟩
    exact absurd (hf.made _ hmem).1 (Nat.not_le_of_gt hlt)
  made := by
    rw [List.reduceOption_cons_of_some]
    refine List.forall_mem_cons.mpr ⟨⟨le_rfl, hlt.trans_le hnext⟩, ?_⟩
    exact fun i hi => ⟨hlt.le.trans (hf.made i hi).1, (hf.made i hi).2⟩
  length_le := Nat.succ_le_succ hf.length_le
  data := fun hK => by
    rw [List.reduceOption_cons_of_some, List.map_cons, List.map_cons, hdata hK]
    exact (hf.data hK).cons_cons _

theorem addPanels_forgotten (panels : Ptr) (entries : List (String × List (BitVec 8)))
    (h : OSHeap) : Forgotten K entries h ((addPanels panels entries).run K h).2
      ((addPanels panels entries).run K h).1 := by
  induction entries generalizing h with
  | nil => exact .none _ _ _
  | cons entry entries ih =>
      let o : Obj OSClass Slot := ⟨.leaf (.data entry.2), []⟩
      let put : OSCode Unit := ifSome (K.new o h).1 do
        let _ ← setObject panels entry.1 (K.new o h).1
      have hih := ih (put.run K (K.new o h).2).2
      rw [addPanels, Prog.run_bind, Prog.run_bind, Prog.run_bind]
      show Forgotten K _ h ((addPanels panels entries).run K (put.run K (K.new o h).2).2).2
        ((K.new o h).1 :: ((addPanels panels entries).run K (put.run K (K.new o h).2).2).1)
      have hnext := Prog.next_le_run K put (K.new o h).2
      rcases K.new_cases o h with hnew | hnew
      · rw [hnew] at hih hnext ⊢
        have hlt : h.next < (put.run K (h.make o)).2.next := hnext
        refine hih.kept hlt (Prog.next_le_run K _ _) fun hK => ?_
        calc ((addPanels panels entries).run K (put.run K (h.make o)).2).2.payload h.next
            _ = (put.run K (h.make o)).2.payload h.next := Prog.payload_run hK _ hlt
            _ = (h.make o).payload h.next := Prog.payload_run hK put (Nat.lt_succ_self _)
            _ = some (.leaf (.data entry.2)) := h.payload_make o
      · rw [hnew] at hih hnext ⊢
        have hle : h.next ≤ (put.run K h.refuse).2.next := hnext
        exact hih.refused hle entry

theorem fillPanels_forgotten (that rawPanels : Ptr) (h : OSHeap) :
    Forgotten K appleBacklightData h ((fillPanels that rawPanels).run K h).2
      ((fillPanels that rawPanels).run K h).1 := by
  cases rawPanels with
  | none => exact .none _ _ _
  | some i =>
      rw [fillPanels, if_pos Option.isSome_some, Prog.run_bind, Prog.run_bind]
      exact (addPanels_forgotten _ _ h).within le_rfl (setObject that "ApplePanels" (some i))

theorem fillPanels_generous (hK : K.Generous) (that : Ptr) (i : Nat) (h : OSHeap) :
    ((fillPanels that (some i)).run K h).1.reduceOption.length = appleBacklightData.length := by
  rw [fillPanels, if_pos Option.isSome_some, Prog.run_bind, Prog.run_bind]
  exact (List.reduceOption_length_eq_iff.mpr (addPanels_isSome hK _ _ _)).trans
    (addPanels_length _ _ _)

theorem setApplePanels_forgotten (that : Ptr) (h : OSHeap) :
    Forgotten K appleBacklightData h ((setApplePanels that).run K h).2
      ((setApplePanels that).run K h).1 := by
  rw [setApplePanels, run_onCopy]
  split
  · rw [Prog.run_bind, Prog.run_bind]
    exact (fillPanels_forgotten _ _ _).within (K.new_next _ h) (safeRelease _)
  · exact .none _ _ _

theorem setApplePanels_generous (hK : K.Generous) {that : Ptr} {h : OSHeap}
    (hdict : (dictionaryAt h that "ApplePanels").isSome) :
    ((setApplePanels that).run K h).1.reduceOption.length = appleBacklightData.length := by
  rw [setApplePanels, run_onCopy, if_pos hdict, hK.new, Prog.run_bind, Prog.run_bind]
  exact fillPanels_generous hK _ _ _

theorem run_panelCalls_once (thats : List Nat) (h : OSHeap) :
    ((panelCalls true thats).run K h).1 = [] := by
  induction thats generalizing h with
  | nil => rfl
  | cons that rest ih =>
      rw [panelCalls, Prog.run_bind, Prog.run_bind]
      exact ih _

/-- Only the first call forgets anything. -/
theorem run_panelCalls (that : Nat) (rest : List Nat) (h : OSHeap) :
    (panelCalls false (that :: rest)).run K h =
      (((setApplePanels (some that)).run K h).1,
        ((do let _ ← call .originalSetDisplay [some that]
             panelCalls true rest : OSCode (List Ptr)).run K
          ((setApplePanels (some that)).run K h).2).2) := by
  have hfirst : (wrapApplePanelSetDisplay false (some that)).run K h =
      (((setApplePanels (some that)).run K h).1,
        (K.call .originalSetDisplay [some that] ((setApplePanels (some that)).run K h).2).2) := by
    rw [wrapApplePanelSetDisplay, Prog.run_bind, Prog.run_bind]
    rfl
  rw [panelCalls, Prog.run_bind, Prog.run_bind, hfirst, Prog.run_pure, run_panelCalls_once,
    List.append_nil, Prog.run_bind, Prog.run_call]

theorem panelCalls_forgotten (thats : List Nat) (h : OSHeap) :
    Forgotten K appleBacklightData h ((panelCalls false thats).run K h).2
      ((panelCalls false thats).run K h).1 := by
  cases thats with
  | nil => exact .none _ _ _
  | cons that rest =>
      rw [run_panelCalls]
      exact (setApplePanels_forgotten (some that) h).within le_rfl _

/-- However many panels get a display, and whatever memory is refused: all is safe, but for
good references are kept, each to another new object, and these are data of the panels.  They
are never more than seven, and all seven if there is a list of panels and memory. -/
theorem panels_leak (K : OSKernel) {thats : List Nat} (hthats : ∀ that ∈ thats, R.table that)
    {h : OSHeap} (hbase : R.base ≤ h.next) :
    (panelCalls false thats).Safe K R h ∧
      ∃ leaked : List Nat,
        ((panelCalls false thats).run K h).2.own = (leaked : Multiset Nat) + h.own ∧
        leaked.Nodup ∧ (∀ i ∈ leaked, h.next ≤ i) ∧
        (K.KeepsPayloads → (leaked.map ((panelCalls false thats).run K h).2.payload).Sublist
          (appleBacklightData.map fun entry => some (.leaf (.data entry.2)))) ∧
        leaked.length ≤ 7 ∧
        (K.Generous → (∃ that, thats.head? = some that ∧
          (dictionaryAt h (some that) "ApplePanels").isSome) → leaked.length = 7) := by
  obtain ⟨hsafe, hown⟩ := spec_panelCalls (K := K) (S := 0) hthats false h h.own hbase
    (zero_add _).symm
  simp only [add_zero, refsAll_eq] at hown
  have hforgotten := panelCalls_forgotten (K := K) thats h
  refine ⟨hsafe, _, hown, hforgotten.nodup, fun i hi => (hforgotten.made i hi).1,
    hforgotten.data, ?_, ?_⟩
  · exact hforgotten.length_le
  · rintro hK ⟨that, hhead, hdict⟩
    obtain ⟨rest, rfl⟩ := List.head?_eq_some_iff.mp hhead
    rw [run_panelCalls]
    exact setApplePanels_generous hK hdict

end Panels

/-- Two panels, and memory. -/
theorem panels_leak_seven :
    ∃ leaked : List Nat,
      ((panelCalls false [0, 0]).run (kernelThat fun _ => true) sampleHeap).2.own =
          (leaked : Multiset Nat) + 0 ∧
        leaked.Nodup ∧ leaked.length = 7 := by
  have htables : ∀ that ∈ [0, 0], sampleIO.table that := fun that hthat =>
    List.mem_singleton.mp (by simpa using hthat)
  obtain ⟨_, leaked, hown, hnodup, _, _, _, hseven⟩ := panels_leak (R := sampleIO.toRoots)
    (kernelThat fun _ => true) htables (h := sampleHeap) le_rfl
  exact ⟨leaked, hown, hnodup, hseven (fun _ => rfl) ⟨0, rfl, by decide⟩⟩

end NootedGreen

/-
# `Platform.PropertySeeding` — the properties `processPatcher` gives the IGPU

Three things are written to the registry, in this order:

    early      `seedIGPUPropertiesEarly`: defaults where missing, on the entries that four
               fixed paths lead to                               if seeding is on
    always     `seedIGPUPropertiesOnEntry`: the same defaults
               where missing, on the IGPU itself
    forced     five of the defaults, and a `saved-config` that
               is not data, whatever was there                   if seeding is on

Seeding is on with `ngreenforceprops`, and also when the entry of one of the four
paths has no usable platform id or no device id (`shouldAutoSeedIGPUPropertiesEarly`).
So a property that was there survives a boot without the option when the early scan
finds nothing to complain about, and `AAPL,ig-platform-id` and `device-id` survive
every boot (`igpu_properties_after`).

**What is left out.**  Logging; `DeviceInfo` and `renameDevice` of Lilu, which set no
property that matters here; what `publishTglFramebufferPersonality` adds to the
catalogue; the registers.  `videoBuiltin` is an `IOPCIDevice` when there is one, and
`sconf` stands for the `0xea` bytes that are read behind an empty array.
-/
import NootedGreen.Platform.Detection

namespace NootedGreen

/-! ## Values -/

/-- `setProperty(key, bytes, length)` of a string with its terminating zero. -/
def cStringData (s : String) : OSObject :=
  .data (s.toList.map (fun c => BitVec.ofNat 8 c.toNat) ++ [0])

section Seeding

variable (sconf : List (BitVec 8))

/-- What `seedIGPUPropertiesOnEntry` puts in where it is missing, in its order. -/
def igpuDefaults : List (String × OSObject) :=
  [("AAPL,ig-platform-id", .data [0x00, 0x00, 0x49, 0x9A]),
    ("device-id", .data [0x49, 0x9A, 0x00, 0x00]),
    ("built-in", .data [0x00]),
    ("AAPL,slot-name", cStringData "built-in"),
    ("hda-gfx", cStringData "onboard-1"),
    ("model", cStringData "Intel Iris Xe Graphics"),
    -- 1536 MB
    ("framebuffer-unifiedmem", .data [0x00, 0x00, 0x00, 0x60]),
    ("saved-config", .data sconf)]

def seedIGPUPropertiesOnEntry (entry : OSDictionary) : OSDictionary :=
  Assoc.setAllMissing (igpuDefaults sconf) entry

/-! ## When to seed -/

def OSObject.isData : OSObject → Bool
  | .data _ => true
  | .number _ _ | .boolean _ | .string _ | .dictionary _ => false

/-- No platform id of four bytes, or the undefined one. -/
def shouldForceRPLBringupPlatform (entry : OSDictionary) : Bool :=
  match entry.lookup "AAPL,ig-platform-id" with
  | some (.data (b₀ :: b₁ :: b₂ :: b₃ :: _)) => b₃ ++ b₂ ++ b₁ ++ b₀ == (0x8A5C0002 : BitVec 32)
  | _ => true

def igpuPaths : List String :=
  ["IOService:/AppleACPIPlatformExpert/PC00@0/IGPU@2",
    "IOService:/AppleACPIPlatformExpert/PC00@0/GFX0@2",
    "IOService:/AppleACPIPlatformExpert/PCI0@0/IGPU@2",
    "IOService:/AppleACPIPlatformExpert/PCI0@0/GFX0@2"]

/-- The registry: the entry a path leads to, and the property table of every entry. -/
structure Registry (ε : Type) where
  fromPath : String → Option ε
  table : ε → OSDictionary

variable {ε : Type} [DecidableEq ε]

def Registry.update (r : Registry ε) (e : ε) (f : OSDictionary → OSDictionary) : Registry ε :=
  { r with table := fun e' => if e' = e then f (r.table e') else r.table e' }

omit [DecidableEq ε] in
/-- One entry that asks for it is enough. -/
def Registry.shouldAutoSeedIGPUPropertiesEarly (r : Registry ε) : Bool :=
  igpuPaths.any fun path =>
    match r.fromPath path with
    | some entry => shouldForceRPLBringupPlatform (r.table entry) ||
        ((r.table entry).lookup "device-id").isNone
    | none => false

def Registry.seedIGPUPropertiesEarly (r : Registry ε) : Registry ε :=
  igpuPaths.foldl (fun r path =>
    match r.fromPath path with
    | some entry => r.update entry (seedIGPUPropertiesOnEntry sconf)
    | none => r) r

/-! ## `processPatcher` -/

/-- The four properties that are forced first. -/
def forcedProperties : List (String × OSObject) :=
  [("built-in", .data [0x00]),
    ("AAPL,slot-name", cStringData "built-in"),
    ("hda-gfx", cStringData "onboard-1"),
    ("model", cStringData "Intel Iris Xe Graphics")]

/-- `saved-config` is only forced when it is not data. -/
def forceSavedConfig (entry : OSDictionary) : OSDictionary :=
  if (entry.lookup "saved-config").any OSObject.isData then entry
  else Assoc.set "saved-config" (.data sconf) entry

def policyProperties (flags : PlatformFlags) : List (String × OSObject) :=
  [("NGreenAllow3DRequested", .boolean flags.request3D),
    ("NGreenTryGuC", .boolean flags.tryGuC),
    ("NGreenGateExternal", .boolean flags.gateExternalDisplays)]

def accelProperties : List (String × OSObject) :=
  [("IOPCIAccelerationGpu", .data [0x01]),
    ("MetalPluginName", .string "AppleIntelTGLGraphics"),
    ("IOAccelScaleFactorDict", .string "IOAccelScaleFactorDict"),
    ("IOAccelDeviceShaderBinary", .string "IOAccelTGLShaderBinary"),
    ("IOPCIMatch", .string "0x9A498086"),
    ("IOAccelDriverConnectCategory", .string "IOAccelGPU"),
    ("IOAccelCaps", .data [0x00, 0x00, 0x10, 0x00])]

/-- What happens to the table of the IGPU once `DeviceInfo` has found it. -/
def seedIGPU (seedIGPUProps : Bool) (flags : PlatformFlags) (entry : OSDictionary) :
    OSDictionary :=
  let entry := seedIGPUPropertiesOnEntry sconf entry
  let entry := if seedIGPUProps then
    forceSavedConfig sconf (Assoc.setAll forcedProperties entry) else entry
  let entry := Assoc.setAll (policyProperties flags) entry
  let entry := if seedIGPUProps then
    Assoc.set "framebuffer-unifiedmem" (.data [0x00, 0x00, 0x00, 0x60]) entry else entry
  Assoc.setAll accelProperties entry

/-- `ngreenforceprops`, or the scan; `iGPU` is `videoBuiltin`, `none` when there is no
`DeviceInfo`. -/
def Registry.processPatcher (legacySeeding : BootFlag) (flags : PlatformFlags) (iGPU : Option ε)
    (r : Registry ε) : Registry ε :=
  let autoSeedIGPUProps := r.shouldAutoSeedIGPUPropertiesEarly
  let seedIGPUProps := legacySeeding.enabled || autoSeedIGPUProps
  let r := if seedIGPUProps then r.seedIGPUPropertiesEarly sconf else r
  match iGPU with
  | some iGPU => r.update iGPU (seedIGPU sconf seedIGPUProps flags)
  | none => r

/-! ## What becomes of a property that was there -/

/-- The forced defaults: five by name, `saved-config` by what it was. -/
def Overwritten (key : String) (v : OSObject) : Prop :=
  key ∈ ["built-in", "AAPL,slot-name", "hda-gfx", "model", "framebuffer-unifiedmem"] ∨
    (key = "saved-config" ∧ v.isData = false)

instance (key : String) (v : OSObject) : Decidable (Overwritten key v) :=
  inferInstanceAs (Decidable (_ ∨ _))

/-- The names of the defaults. -/
def igpuKeys : List String :=
  ["AAPL,ig-platform-id", "device-id", "built-in", "AAPL,slot-name", "hda-gfx", "model",
    "framebuffer-unifiedmem", "saved-config"]

example : (igpuDefaults sconf).map Prod.fst = igpuKeys := rfl

theorem Registry.update_same (r : Registry ε) (e : ε) (f : OSDictionary → OSDictionary) :
    (r.update e f).table e = f (r.table e) := if_pos rfl

theorem Registry.update_other (r : Registry ε) {e e' : ε} (h : e' ≠ e)
    (f : OSDictionary → OSDictionary) : (r.update e f).table e' = r.table e' := if_neg h

/-- Defaults for missing properties change no property, on whatever entry. -/
theorem Registry.lookup_update_seed (r : Registry ε) {e : ε} (e' : ε) {key : String}
    {v : OSObject} (hv : (r.table e).lookup key = some v) :
    ((r.update e' (seedIGPUPropertiesOnEntry sconf)).table e).lookup key = some v := by
  by_cases he : e = e'
  · subst he
    rw [Registry.update_same]
    exact Assoc.lookup_setAllMissing _ hv
  · rw [Registry.update_other r he]
    exact hv

/-- Hence the early pass changes none. -/
theorem Registry.lookup_seedEarly {r : Registry ε} {e : ε} {key : String} {v : OSObject}
    (hv : (r.table e).lookup key = some v) :
    ((r.seedIGPUPropertiesEarly sconf).table e).lookup key = some v := by
  unfold Registry.seedIGPUPropertiesEarly
  generalize igpuPaths = paths
  induction paths generalizing r with
  | nil => exact hv
  | cons path paths ih =>
      rw [List.foldl_cons]
      apply ih
      cases r.fromPath path with
      | none => exact hv
      | some entry => exact Registry.lookup_update_seed sconf r entry hv

theorem igpuKeys_policy (flags : PlatformFlags) :
    ∀ key ∈ igpuKeys, key ∉ (policyProperties flags).map Prod.fst := by
  show ∀ key ∈ igpuKeys, key ∉ ["NGreenAllow3DRequested", "NGreenTryGuC", "NGreenGateExternal"]
  decide

theorem igpuKeys_accel : ∀ key ∈ igpuKeys, key ∉ accelProperties.map Prod.fst := by decide

/-- Without seeding nothing that was there is touched on the IGPU. -/
theorem lookup_seedIGPU_off (flags : PlatformFlags) {entry : OSDictionary} {key : String}
    {v : OSObject} (hkey : key ∈ igpuKeys) (hv : entry.lookup key = some v) :
    (seedIGPU sconf false flags entry).lookup key = some v := by
  show (Assoc.setAll accelProperties (Assoc.setAll (policyProperties flags)
    (seedIGPUPropertiesOnEntry sconf entry))).lookup key = some v
  rw [Assoc.lookup_setAll_other (igpuKeys_accel key hkey),
    Assoc.lookup_setAll_other (igpuKeys_policy flags key hkey)]
  exact Assoc.lookup_setAllMissing _ hv

theorem lookup_forceSavedConfig {entry : OSDictionary} {v : OSObject}
    (hv : entry.lookup "saved-config" = some v) :
    (forceSavedConfig sconf entry).lookup "saved-config" =
      if v.isData = false then some (.data sconf) else some v := by
  have hany : (entry.lookup "saved-config").any OSObject.isData = v.isData := by rw [hv]; rfl
  unfold forceSavedConfig
  rw [hany]
  cases hd : v.isData with
  | true => exact hv
  | false => exact Assoc.lookup_set_same _ _ entry

theorem lookup_forceSavedConfig_other {key : String} (hne : key ≠ "saved-config")
    (entry : OSDictionary) :
    (forceSavedConfig sconf entry).lookup key = entry.lookup key := by
  unfold forceSavedConfig
  split
  · rfl
  · exact Assoc.lookup_set_other hne _ entry

/-- The four forced first are the defaults of the same names. -/
theorem lookup_forcedProperties {key : String} (h : key ∈ forcedProperties.map Prod.fst)
    (entry : OSDictionary) :
    (Assoc.setAll forcedProperties entry).lookup key = (igpuDefaults sconf).lookup key := by
  obtain ⟨⟨key, w⟩, hmem, rfl⟩ := List.mem_map.mp h
  have hdefault : (igpuDefaults sconf).lookup key = some w := by
    unfold forcedProperties at hmem
    simp only [List.mem_cons, List.not_mem_nil, or_false, Prod.mk.injEq] at hmem
    rcases hmem with ⟨rfl, rfl⟩ | ⟨rfl, rfl⟩ | ⟨rfl, rfl⟩ | ⟨rfl, rfl⟩ <;> rfl
  exact (Assoc.lookup_setAll (by decide) hmem entry).trans hdefault.symm

/-- The other two are forced at places of their own. -/
theorem overwritten_iff_forced {key : String} {v : OSObject}
    (hmem : key ≠ "framebuffer-unifiedmem") (hconf : key ≠ "saved-config") :
    Overwritten key v ↔ key ∈ forcedProperties.map Prod.fst := by
  constructor
  · rintro (hnamed | ⟨hkey, _⟩)
    · have hsplit : ∀ key ∈ ["built-in", "AAPL,slot-name", "hda-gfx", "model",
          "framebuffer-unifiedmem"], key ∈ forcedProperties.map Prod.fst ∨
            key = "framebuffer-unifiedmem" := by decide
      exact (hsplit key hnamed).resolve_right hmem
    · exact absurd hkey hconf
  · intro hforced
    have hnamed : ∀ key ∈ forcedProperties.map Prod.fst, key ∈ ["built-in", "AAPL,slot-name",
        "hda-gfx", "model", "framebuffer-unifiedmem"] := by decide
    exact Or.inl (hnamed key hforced)

/-- With seeding, exactly the forced ones are at their default. -/
theorem lookup_seedIGPU_on (flags : PlatformFlags) {entry : OSDictionary} {key : String}
    {v : OSObject} (hkey : key ∈ igpuKeys) (hv : entry.lookup key = some v) :
    (seedIGPU sconf true flags entry).lookup key =
      if Overwritten key v then (igpuDefaults sconf).lookup key else some v := by
  have hseeded : (seedIGPUPropertiesOnEntry sconf entry).lookup key = some v :=
    Assoc.lookup_setAllMissing _ hv
  unfold seedIGPU
  simp only [↓reduceIte]
  rw [Assoc.lookup_setAll_other (igpuKeys_accel key hkey)]
  by_cases hmem : key = "framebuffer-unifiedmem"
  · subst hmem
    have hover : Overwritten "framebuffer-unifiedmem" v := Or.inl (by decide)
    rw [Assoc.lookup_set_same, if_pos hover]
    rfl
  rw [Assoc.lookup_set_other hmem, Assoc.lookup_setAll_other (igpuKeys_policy flags key hkey)]
  by_cases hconf : key = "saved-config"
  · subst hconf
    rw [lookup_forceSavedConfig sconf
      ((Assoc.lookup_setAll_other (by decide) _).trans hseeded)]
    have hiff : Overwritten "saved-config" v ↔ v.isData = false :=
      ⟨fun h => h.elim (fun h => absurd h (by decide)) (fun h => h.2), fun h => Or.inr ⟨rfl, h⟩⟩
    exact if_congr hiff.symm rfl rfl
  rw [lookup_forceSavedConfig_other sconf hconf]
  by_cases hforced : key ∈ forcedProperties.map Prod.fst
  · rw [if_pos ((overwritten_iff_forced hmem hconf).mpr hforced),
      lookup_forcedProperties sconf hforced]
  · rw [if_neg (fun h => hforced ((overwritten_iff_forced hmem hconf).mp h)),
      Assoc.lookup_setAll_other hforced, hseeded]

/-- Whether `processPatcher` seeds: the option, or what the early scan finds. -/
def Registry.Seeds (legacySeeding : BootFlag) (r : Registry ε) : Prop :=
  legacySeeding.enabled = true ∨ r.shouldAutoSeedIGPUPropertiesEarly = true

instance (legacySeeding : BootFlag) (r : Registry ε) : Decidable (r.Seeds legacySeeding) :=
  inferInstanceAs (Decidable (_ ∨ _))

/-- The value, after `processPatcher`, of a property that was there before: the old one
on every entry, except that with seeding on the IGPU has the forced ones at their
default.  So where the option is not given and the early scan asks for nothing, all of
them are kept. -/
theorem igpu_properties_after (legacySeeding : BootFlag) (flags : PlatformFlags)
    (iGPU : Option ε) (r : Registry ε) (e : ε) {key : String} {v : OSObject}
    (hkey : key ∈ igpuKeys) (hv : (r.table e).lookup key = some v) :
    ((r.processPatcher sconf legacySeeding flags iGPU).table e).lookup key =
      if r.Seeds legacySeeding ∧ iGPU = some e ∧ Overwritten key v
      then (igpuDefaults sconf).lookup key else some v := by
  -- the registry after the early pass, whether it was made or not
  obtain ⟨r', hr'⟩ : ∃ r', r' = (if legacySeeding.enabled || r.shouldAutoSeedIGPUPropertiesEarly
    then r.seedIGPUPropertiesEarly sconf else r) := ⟨_, rfl⟩
  have hearly : (r'.table e).lookup key = some v := by
    rw [hr']
    split
    · exact Registry.lookup_seedEarly sconf hv
    · exact hv
  unfold Registry.processPatcher
  simp only [← hr']
  cases iGPU with
  | none => rw [if_neg (fun h => Option.some_ne_none e h.2.1.symm)]; exact hearly
  | some iGPU =>
      by_cases he : e = iGPU
      · subst he
        show ((r'.update e _).table e).lookup key = _
        rw [Registry.update_same]
        cases hseeds : legacySeeding.enabled || r.shouldAutoSeedIGPUPropertiesEarly with
        | true =>
            have hon : r.Seeds legacySeeding := Bool.or_eq_true_iff.mp hseeds
            rw [lookup_seedIGPU_on sconf flags hkey hearly]
            exact if_congr ⟨fun h => ⟨hon, rfl, h⟩, fun h => h.2.2⟩ rfl rfl
        | false =>
            have hoff : ¬ r.Seeds legacySeeding := fun h =>
              Bool.false_ne_true (hseeds.symm.trans (Bool.or_eq_true_iff.mpr h))
            rw [lookup_seedIGPU_off sconf flags hkey hearly, if_neg (fun h => hoff h.1)]
      · show ((r'.update iGPU _).table e).lookup key = _
        rw [Registry.update_other r' he, if_neg (fun h => he (Option.some.inj h.2.1).symm)]
        exact hearly

end Seeding

/-- An IGPU whose firmware named it but gave no `device-id`: the scan asks for seeding. -/
def unidentified : Registry Unit where
  fromPath := fun path =>
    if path = "IOService:/AppleACPIPlatformExpert/PC00@0/IGPU@2" then some () else none
  table := fun _ =>
    [("AAPL,ig-platform-id", .data [0x00, 0x00, 0x49, 0x9A]), ("model", .string "Iris Xe")]

/-- It is seeded: its platform id is kept, and it has the usual name. -/
theorem igpu_properties_after_unidentified :
    ((unidentified.processPatcher [] ⟨none, false⟩ ⟨0x8C, true, true, true, false⟩
        (some ())).table ()).lookup "AAPL,ig-platform-id" =
      some (.data [0x00, 0x00, 0x49, 0x9A]) ∧
    ((unidentified.processPatcher [] ⟨none, false⟩ ⟨0x8C, true, true, true, false⟩
        (some ())).table ()).lookup "model" = some (cStringData "Intel Iris Xe Graphics") :=
  ⟨(igpu_properties_after [] _ _ (some ()) unidentified () (by decide) rfl).trans
      (if_neg (fun h => absurd h.2.2 (by decide))),
    (igpu_properties_after [] _ _ (some ()) unidentified () (by decide) rfl).trans
      (if_pos ⟨Or.inr (by decide), rfl, Or.inl (by decide)⟩)⟩

/-- The option is not given, and the name is gone. -/
theorem model_overwritten_without_option :
    BootFlag.enabled ⟨none, false⟩ = false ∧
      (unidentified.table ()).lookup "model" = some (.string "Iris Xe") ∧
      ((unidentified.processPatcher [] ⟨none, false⟩ ⟨0x8C, true, true, true, false⟩
        (some ())).table ()).lookup "model" ≠ some (.string "Iris Xe") := by
  refine ⟨rfl, rfl, ?_⟩
  intro h
  have hafter : ((unidentified.processPatcher [] ⟨none, false⟩ ⟨0x8C, true, true, true, false⟩
      (some ())).table ()).lookup "model" = some (cStringData "Intel Iris Xe Graphics") := rfl
  have hne := Option.some.inj (hafter.symm.trans h)
  unfold cStringData at hne
  cases hne

end NootedGreen

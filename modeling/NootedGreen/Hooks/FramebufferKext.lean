/-
# `Hooks.FramebufferKext` — the framebuffer branch of `processKext`

`AppleIntelTGLGraphicsFramebuffer` comes in two builds.  Their controllers have different
names, and the branch tells them apart by one symbol, the debug controller's `start`:

    found        debug        solve, 38 + 13 routes, `patches`, `probeF2Patch` on request
    not found    production   solve, 38 + 13 routes, `patchesProduction`

Each step ends in a panic if it fails.  A symbol that is not found is also an error the patcher
keeps, and a patch would take it for its own.  The branch does not clear it, but Lilu does:
whenever a route saves the entry of a function, in a trampoline made for it.  So neither the
error of the missing `start` nor one from before reaches the patches, unless every function
whose entry is to be saved had been routed by somebody else already.  When the branch completes,
of either build, is `framebuffer_completes_iff`.

**Assumed of Lilu.**  As in `Hooks.SymbolSolving`: a symbol that is not found leaves an error.
A route looks at the first bytes of the function, whichever it is:

    code              the function is redirected; for a request with a slot a trampoline is made
                      before, and the error cleared, or it cannot be made and the route fails
    `ff 25`, a jump   the function is redirected, the jump's target is what is saved
    `e9`, a jump      Lilu panics

and it panics on a symbol outside the kext.  An error left before stops no route.
-/
import NootedGreen.Hooks.KextPatches

namespace NootedGreen

/-! ## Requests -/

namespace FramebufferKext

/-- The replacements of the framebuffer branch. -/
inductive Replacement where
  | alwaysReturnSuccess
  | releaseDoorbell
  | disableScaler
  | enablePlane
  | programPipeScaler
  | planeUpdateRegisterCache
  | scalerUpdateRegisterCache
  | disableDisplayEngine
  | enableDisplayEngine
  | computeLaneCount
  | wrapICLReadAUX
  | getOnlineInfo
  | enableController
  | setDisplayMode
  | connectionChanged
  | hwSetPowerWellStateAux
  | hwSetPowerWellStateDDI
  | fastWriteRegister32
  | raWriteRegister32
  | raWriteRegister32b
  | framebufferInit
  | handleLinkIntegrityCheck
  | hwInitializeCState
  | hwConfigureCustomAUX
  | powerWellInit
  | baseControllerStart
  | wrapProbeCDClockFrequency
  | initCDClock
  | setCDClockFrequencyOnHotplug
  | disableCDClock
  | initPlatformWorkarounds
  | getOSInformation
  | hwRegsNeedUpdate
  deriving DecidableEq, Repr

/-- The request names a slot for the entry of the function. -/
def Replacement.saves : Replacement → Bool
  | releaseDoorbell | raWriteRegister32b | handleLinkIntegrityCheck => false
  | _ => true

structure Request where
  symbol : String
  replacement : Replacement
  deriving DecidableEq, Repr

/-- The twelve cold parts of `hwSetPowerWellStatePG`. -/
def coldRequests : List Request :=
  (List.range 12).map fun k =>
    ⟨"__ZN19AppleIntelPowerWell21hwSetPowerWellStatePGEbj.cold." ++ toString (k + 1),
      .releaseDoorbell⟩

def requests : List Request :=
  ⟨"__ZN24AppleIntelBaseController17registerWithAICPMEPv", .alwaysReturnSuccess⟩ ::
    coldRequests ++
  [⟨"__ZN19AppleIntelPowerWell22hwSetPowerWellStateAuxEbj.cold.1", .releaseDoorbell⟩,
    ⟨"__ZN16AppleIntelScaler13disableScalerEb", .disableScaler⟩,
    ⟨"__ZN15AppleIntelPlane11enablePlaneEb", .enablePlane⟩,
    ⟨"__ZN16AppleIntelScaler17programPipeScalerEP21AppleIntelDisplayPath", .programPipeScaler⟩,
    ⟨"__ZN15AppleIntelPlane19updateRegisterCacheEv", .planeUpdateRegisterCache⟩,
    ⟨"__ZN16AppleIntelScaler19updateRegisterCacheEv", .scalerUpdateRegisterCache⟩,
    ⟨"__ZN19AppleIntelPowerWell20disableDisplayEngineEv", .disableDisplayEngine⟩,
    ⟨"__ZN19AppleIntelPowerWell19enableDisplayEngineEv", .enableDisplayEngine⟩,
    ⟨"__ZN14AppleIntelPort16computeLaneCountEPK29IODetailedTimingInformationV2jjPj",
      .computeLaneCount⟩,
    ⟨"__ZN14AppleIntelPort7readAUXEjPvj", .wrapICLReadAUX⟩,
    ⟨"__ZN21AppleIntelFramebuffer13getOnlineInfoEP21AppleIntelDisplayPathPhS2_", .getOnlineInfo⟩,
    ⟨"__ZN21AppleIntelFramebuffer16enableControllerEv", .enableController⟩,
    ⟨"__ZN21AppleIntelFramebuffer14setDisplayModeEii", .setDisplayMode⟩,
    ⟨"__ZN21AppleIntelFramebuffer17connectionChangedEv", .connectionChanged⟩,
    ⟨"__ZN19AppleIntelPowerWell21hwSetPowerWellStatePGEbj", .releaseDoorbell⟩,
    ⟨"__ZN19AppleIntelPowerWell22hwSetPowerWellStateAuxEbj", .hwSetPowerWellStateAux⟩,
    ⟨"__ZN19AppleIntelPowerWell22hwSetPowerWellStateDDIEbj", .hwSetPowerWellStateDDI⟩,
    ⟨"__ZN31AppleIntelRegisterAccessManager19FastWriteRegister32Emj", .fastWriteRegister32⟩,
    ⟨"__ZN31AppleIntelRegisterAccessManager15WriteRegister32Emj", .raWriteRegister32⟩,
    ⟨"__ZN31AppleIntelRegisterAccessManager15WriteRegister32EPVvmj", .raWriteRegister32b⟩,
    ⟨"__ZN21AppleIntelFramebuffer17prepareToExitWakeEv", .releaseDoorbell⟩,
    ⟨"__ZN21AppleIntelFramebuffer18prepareToEnterWakeEv", .releaseDoorbell⟩,
    ⟨"__ZN21AppleIntelFramebuffer18prepareToExitSleepEv", .releaseDoorbell⟩,
    ⟨"__ZN21AppleIntelFramebuffer19prepareToEnterSleepEv", .releaseDoorbell⟩,
    ⟨"__ZN24AppleIntelBaseController15enableVDDForAuxEP14AppleIntelPort", .releaseDoorbell⟩]

/-- The controller's class, with the length of its name. -/
inductive Controller where
  | framebufferController
  | baseController
  deriving DecidableEq, Repr

def Controller.mangled : Controller → String
  | framebufferController => "31AppleIntelFramebufferController"
  | baseController => "24AppleIntelBaseController"

/-- A method of the controller. -/
def Controller.method (controller : Controller) (name : String) : String :=
  "__ZN" ++ controller.mangled ++ name

/-- The two tables differ in the controller's name only. -/
def requestsFor (controller : Controller) : List Request :=
  [⟨"__ZN21AppleIntelFramebuffer4initEP" ++ controller.mangled ++ "j", .framebufferInit⟩,
    ⟨controller.method "10hwShutdownEP21AppleIntelFramebuffer", .handleLinkIntegrityCheck⟩,
    ⟨controller.method "18hwInitializeCStateEv", .hwInitializeCState⟩,
    ⟨controller.method "20hwConfigureCustomAUXEb", .hwConfigureCustomAUX⟩,
    ⟨"__ZN19AppleIntelPowerWell4initEP" ++ controller.mangled, .powerWellInit⟩,
    ⟨controller.method "5startEP9IOService", .baseControllerStart⟩,
    ⟨controller.method "21probeCDClockFrequencyEv", .wrapProbeCDClockFrequency⟩,
    ⟨controller.method "11initCDClockEv", .initCDClock⟩,
    ⟨controller.method "28setCDClockFrequencyOnHotplugEv", .setCDClockFrequencyOnHotplug⟩,
    ⟨controller.method "14disableCDClockEv", .disableCDClock⟩,
    ⟨controller.method "23initPlatformWorkaroundsEv", .initPlatformWorkarounds⟩,
    ⟨controller.method "16getOSInformationEv", .getOSInformation⟩,
    ⟨controller.method ("16hwRegsNeedUpdateEP21AppleIntelFramebufferP21AppleIntelDisplayPath" ++
        "P10CRTCParamsPK29IODetailedTimingInformationV2PN16AppleIntelScaler12SCALERPARAMSE"),
      .hwRegsNeedUpdate⟩]

def setCDClockFrequencySymbol (controller : Controller) : String :=
  controller.method "19setCDClockFrequencyEy"

def startSymbol : String := Controller.baseController.method "5startEP9IOService"

example : (requests ++ requestsFor .baseController).length = 51 := by decide

/-! ## The branch -/

/-- How a function begins. -/
inductive Prologue where
  /-- With instructions that a trampoline can be made of. -/
  | code
  /-- With others. -/
  | unfit
  /-- With a jump through memory, as Lilu's routes do. -/
  | longJump
  | shortJump
  deriving DecidableEq, Repr

/-- The kext as Lilu finds it in memory. -/
structure LoadedKext where
  address : BitVec 64
  size : BitVec 64
  /-- 0 for a symbol that is not there. -/
  solveSymbol : String → BitVec 64
  /-- Of the function, at the time its symbol is routed. -/
  prologue : String → Prologue

/-- `solveSymbol` with a range: the address, or the error it leaves. -/
def LoadedKext.solveInRange (kext : LoadedKext) (symbol : String) :
    Except PatcherError (BitVec 64) :=
  let addr := kext.solveSymbol symbol
  if addr = 0 then .error .noSymbolFound
  else if kext.address ≤ addr ∧ addr < kext.address + kext.size then .ok addr
  else .error .invalidSymbolFound

/-- A panic of the plugin's, with its message, or one of Lilu's own. -/
inductive Panic where
  | panicCond (message : String)
  | lilu
  deriving DecidableEq, Repr

def panicCond (cond : Bool) (message : String) : Except Panic Unit :=
  if cond then throw (.panicCond message) else pure ()

abbrev Route := Replacement × BitVec 64

/-- One request: where it fails, `routeAll` is given up with the message. -/
def Request.route (kext : LoadedKext) (message : String) (request : Request) (s : PatcherState) :
    Except Panic (Route × PatcherState) :=
  match kext.solveInRange request.symbol with
  | .error .invalidSymbolFound => throw .lilu
  | .error _ => throw (.panicCond message)
  | .ok address =>
      let route := (request.replacement, address)
      match kext.prologue request.symbol with
      | .shortJump => throw .lilu
      | .longJump => pure (route, s)
      | .unfit =>
          if request.replacement.saves then throw (.panicCond message) else pure (route, s)
      | .code =>
          -- making the trampoline clears the error
          pure (route, if request.replacement.saves then { s with error := .noError } else s)

def routeAll (kext : LoadedKext) (message : String) :
    List Request → PatcherState → Except Panic (List Route × PatcherState)
  | [], s => pure ([], s)
  | request :: requests, s => do
      let (route, s) ← request.route kext message s
      let (routes, s) ← routeAll kext message requests s
      return (route :: routes, s)

def applyAll (patcher : KernelPatcher) (patches : List LookupPatchPlus) (message : String)
    (s : PatcherState) : Except Panic PatcherState := do
  let r := LookupPatchPlus.applyAll patcher patches s
  panicCond (!r.1) message
  return r.2

/-- Which build it is, and the error left if it is production. -/
def identify (kext : LoadedKext) (s : PatcherState) : Controller × PatcherState :=
  match kext.solveInRange startSymbol with
  | .ok _ => (.baseController, s)
  | .error error => (.framebufferController, { s with error })

def patchDebug (patcher : KernelPatcher) (refProbeF2 isRealTGL : Bool) (s : PatcherState) :
    Except Panic PatcherState := do
  let s ← applyAll patcher patches "kextG11FBT Failed to apply dbg patches!" s
  if refProbeF2 && !isRealTGL then
    applyAll patcher probeF2Patch "kextG11FBT Failed to apply reference f2 probe patch!" s
  else pure s

/-- The routes of one build only. -/
def routeOwn (kext : LoadedKext) (controller : Controller) (s : PatcherState) :
    Except Panic (List Route × PatcherState) :=
  match controller with
  | .framebufferController => routeAll kext "Failed to route p symbols" (requestsFor controller) s
  | .baseController => routeAll kext "Failed to route d symbols" (requestsFor controller) s

def patchOwn (patcher : KernelPatcher) (controller : Controller) (refProbeF2 isRealTGL : Bool)
    (s : PatcherState) : Except Panic PatcherState :=
  match controller with
  | .framebufferController =>
      applyAll patcher patchesProduction "kextG11FBT Failed to apply production patches!" s
  | .baseController => patchDebug patcher refProbeF2 isRealTGL s

/-- The routes made and the patcher afterwards, or the panic. -/
def processKext (patcher : KernelPatcher) (kext : LoadedKext) (refProbeF2 isRealTGL : Bool)
    (s : PatcherState) : Except Panic (List Route × PatcherState) := do
  let (controller, s) := identify kext s
  panicCond (kext.solveSymbol (setCDClockFrequencySymbol controller) = 0)
    "Failed to resolve symbols"
  let (shared, s) ← routeAll kext "Failed to route dp symbols" requests s
  let (own, s) ← routeOwn kext controller s
  let s ← patchOwn patcher controller refProbeF2 isRealTGL s
  return (shared ++ own, s)

/-! ## Routes -/

/-- The symbol lies in the kext. -/
def LoadedKext.Has (kext : LoadedKext) (symbol : String) : Prop :=
  ∃ address, kext.solveInRange symbol = .ok address

/-- The function can be redirected, and its entry saved if it is to be. -/
structure LoadedKext.Routes (kext : LoadedKext) (request : Request) : Prop where
  has : kext.Has request.symbol
  chains : kext.prologue request.symbol ≠ .shortJump
  wraps : request.replacement.saves = true → kext.prologue request.symbol ≠ .unfit

/-- The entry is saved in a trampoline. -/
def LoadedKext.wrapped (kext : LoadedKext) (request : Request) : Bool :=
  request.replacement.saves && kext.prologue request.symbol == .code

/-- The error after a request. -/
def LoadedKext.settle (kext : LoadedKext) (s : PatcherState) (request : Request) : PatcherState :=
  if kext.wrapped request then { s with error := .noError } else s

section Routes

variable {kext : LoadedKext} {s : PatcherState} {message : String}

theorem bind_eq_ok_iff {ε α β : Type} {x : Except ε α} {f : α → Except ε β} {b : β} :
    (x >>= f) = .ok b ↔ ∃ a, x = .ok a ∧ f a = .ok b := by
  cases x with
  | error e => exact iff_of_false (fun h => nomatch h) fun ⟨_, h, _⟩ => nomatch h
  | ok a => exact ⟨fun h => ⟨a, rfl, h⟩, fun ⟨_, h, h'⟩ => by cases h; exact h'⟩

theorem panicCond_eq_ok_iff {cond : Bool} {u : Unit} :
    panicCond cond message = .ok u ↔ cond = false := by
  cases cond with
  | true => exact iff_of_false (fun h => nomatch h) Bool.true_eq_false.mp
  | false => exact iff_of_true rfl rfl

/-- A request that is routed has settled the error; one that is not has stopped the branch. -/
theorem route_ok_iff {request : Request} {t : PatcherState} :
    (∃ route, request.route kext message s = .ok (route, t)) ↔
      kext.Routes request ∧ kext.settle s request = t := by
  rw [Request.route, LoadedKext.settle, LoadedKext.wrapped]
  cases hsolve : kext.solveInRange request.symbol with
  | error error =>
      refine iff_of_false ?_ fun h => ?_
      · rintro ⟨route, h⟩
        cases error <;> cases h
      · obtain ⟨address, haddress⟩ := h.1.has
        cases hsolve.symm.trans haddress
  | ok address =>
      have hhas : kext.Has request.symbol := ⟨address, hsolve⟩
      cases hprologue : kext.prologue request.symbol with
      | shortJump =>
          refine iff_of_false (fun ⟨_, h⟩ => nomatch h) fun h => ?_
          exact h.1.chains hprologue
      | longJump =>
          have hroutes : kext.Routes request :=
            ⟨hhas, hprologue ▸ Prologue.noConfusion, fun _ => hprologue ▸ Prologue.noConfusion⟩
          simp [hroutes, pure, Except.pure]
      | unfit =>
          cases hsaves : request.replacement.saves with
          | true =>
              refine iff_of_false (fun ⟨_, h⟩ => nomatch h) fun h => ?_
              exact h.1.wraps hsaves hprologue
          | false =>
              have hroutes : kext.Routes request :=
                ⟨hhas, hprologue ▸ Prologue.noConfusion,
                  fun h => absurd (hsaves.symm.trans h) Bool.false_ne_true⟩
              simp [hroutes, pure, Except.pure]
      | code =>
          have hroutes : kext.Routes request :=
            ⟨hhas, hprologue ▸ Prologue.noConfusion, fun _ => hprologue ▸ Prologue.noConfusion⟩
          simp [hroutes, pure, Except.pure]

/-- A list is routed exactly if each of its requests is. -/
theorem routeAll_ok_iff {requests : List Request} {t : PatcherState} :
    (∃ routes, routeAll kext message requests s = .ok (routes, t)) ↔
      (∀ request ∈ requests, kext.Routes request) ∧ requests.foldl kext.settle s = t := by
  induction requests generalizing s with
  | nil =>
      constructor
      · rintro ⟨routes, h⟩
        cases h
        exact ⟨fun _ h => absurd h List.not_mem_nil, rfl⟩
      · rintro ⟨_, rfl⟩
        exact ⟨[], rfl⟩
  | cons request requests ih =>
      rw [List.forall_mem_cons, List.foldl_cons]
      constructor
      · rintro ⟨routes, h⟩
        obtain ⟨⟨route, u⟩, hroute, h⟩ := bind_eq_ok_iff.mp h
        obtain ⟨⟨routes', v⟩, hrest, h⟩ := bind_eq_ok_iff.mp h
        cases h
        obtain ⟨hroutes, rfl⟩ := route_ok_iff.mp ⟨route, hroute⟩
        obtain ⟨hall, ht⟩ := ih.mp ⟨routes', hrest⟩
        exact ⟨⟨hroutes, hall⟩, ht⟩
      · rintro ⟨⟨hroutes, hall⟩, ht⟩
        obtain ⟨route, hroute⟩ : ∃ route, request.route kext message s =
            .ok (route, kext.settle s request) := route_ok_iff.mpr ⟨hroutes, rfl⟩
        obtain ⟨routes, hrest⟩ := ih.mpr ⟨hall, ht⟩
        refine ⟨route :: routes, bind_eq_ok_iff.mpr ⟨_, hroute, ?_⟩⟩
        exact bind_eq_ok_iff.mpr ⟨_, hrest, rfl⟩

theorem routeOwn_ok_iff {controller : Controller} {t : PatcherState} :
    (∃ routes, routeOwn kext controller s = .ok (routes, t)) ↔
      (∀ request ∈ requestsFor controller, kext.Routes request) ∧
        (requestsFor controller).foldl kext.settle s = t := by
  cases controller with
  | framebufferController => exact routeAll_ok_iff
  | baseController => exact routeAll_ok_iff

/-- The error is gone after a list exactly if there was none or a trampoline was made. -/
theorem settle_foldl (kext : LoadedKext) (requests : List Request) (s : PatcherState) :
    (requests.foldl kext.settle s).image = s.image ∧
      ((requests.foldl kext.settle s).error = .noError ↔
        s.error = .noError ∨ ∃ request ∈ requests, kext.wrapped request = true) := by
  induction requests generalizing s with
  | nil => exact ⟨rfl, (or_iff_left fun ⟨_, h, _⟩ => absurd h List.not_mem_nil).symm⟩
  | cons request requests ih =>
      obtain ⟨himage, herror⟩ := ih (kext.settle s request)
      rw [List.foldl_cons, himage, herror, List.exists_mem_cons_iff, ← or_assoc, LoadedKext.settle]
      cases hwrapped : kext.wrapped request with
      | false => simp
      | true => simp

end Routes

/-! ## Patches -/

section Patches

variable {patcher : KernelPatcher} {s : PatcherState}

/-- A list that begins with a patch of the first way is made exactly if no error was left and
the patches are made by themselves. -/
theorem applyAll_made_iff {patch : LookupPatchPlus} {patches : List LookupPatchPlus}
    (hlookup : patch.isLookup = true) :
    (LookupPatchPlus.applyAll patcher (patch :: patches) s).1 = true ↔
      s.error = .noError ∧
        (LookupPatchPlus.outcomes patcher (patch :: patches) s.image).1 = true := by
  obtain ⟨error, image⟩ := s
  by_cases herror : error = .noError
  · subst herror
    have hobserved := LookupPatchPlus.observed_applyAll_noError patcher (patch :: patches) image
    rw [← hobserved]
    exact (and_iff_right rfl).symm
  · have hfirst := patch.observed_applyAll_cons patcher patches ⟨error, image⟩
    rw [hlookup, Bool.not_true, Bool.false_or, beq_eq_false_iff_ne.mpr herror, Bool.and_false,
      if_neg Bool.false_ne_true] at hfirst
    have hresult : (LookupPatchPlus.applyAll patcher (patch :: patches) ⟨error, image⟩).1 = false :=
      congrArg Prod.fst hfirst
    exact iff_of_false (hresult ▸ Bool.false_ne_true) fun h => herror h.1

/-- Patches that succeed leave the error as it was. -/
theorem applyAll_error {patches : List LookupPatchPlus}
    (h : (LookupPatchPlus.applyAll patcher patches s).1 = true) :
    (LookupPatchPlus.applyAll patcher patches s).2.error = s.error := by
  induction patches generalizing s with
  | nil => rfl
  | cons patch patches ih =>
      have herror := patch.apply_error patcher (s := s)
      rw [LookupPatchPlus.applyAll] at h ⊢
      generalize patch.apply patcher s = r at h herror ⊢
      obtain ⟨result, t⟩ := r
      cases result with
      | false => cases h
      | true => exact (ih h).trans (herror rfl)

theorem applyAll_image {patches : List LookupPatchPlus} (herror : s.error = .noError) :
    (LookupPatchPlus.applyAll patcher patches s).2.image =
      (LookupPatchPlus.outcomes patcher patches s.image).2 := by
  obtain ⟨error, image⟩ := s
  cases herror
  exact congrArg Prod.snd (LookupPatchPlus.observed_applyAll_noError patcher patches image)

theorem applyAll_ok_iff {patches : List LookupPatchPlus} {message : String} {t : PatcherState} :
    applyAll patcher patches message s = .ok t ↔
      (LookupPatchPlus.applyAll patcher patches s).1 = true ∧
        (LookupPatchPlus.applyAll patcher patches s).2 = t := by
  rw [applyAll, bind_eq_ok_iff]
  constructor
  · rintro ⟨_, hmade, ht⟩
    exact ⟨Bool.not_eq_eq_eq_not.mp (panicCond_eq_ok_iff.mp hmade), Except.ok.inj ht⟩
  · rintro ⟨hmade, rfl⟩
    exact ⟨(), panicCond_eq_ok_iff.mpr (Bool.not_eq_eq_eq_not.mpr hmade), rfl⟩

/-- The debug patches, and the probe if it is asked for off real TGL. -/
theorem patchDebug_ok_iff {refProbeF2 isRealTGL : Bool} :
    (∃ t, patchDebug patcher refProbeF2 isRealTGL s = .ok t) ↔
      s.error = .noError ∧ (LookupPatchPlus.outcomes patcher patches s.image).1 = true ∧
        ((refProbeF2 && !isRealTGL) = true → (LookupPatchPlus.outcomes patcher probeF2Patch
          (LookupPatchPlus.outcomes patcher patches s.image).2).1 = true) := by
  have hpatches : (LookupPatchPlus.applyAll patcher patches s).1 = true ↔ s.error = .noError ∧
      (LookupPatchPlus.outcomes patcher patches s.image).1 = true := applyAll_made_iff rfl
  have hprobe : ∀ t : PatcherState, (LookupPatchPlus.applyAll patcher probeF2Patch t).1 = true ↔
      t.error = .noError ∧ (LookupPatchPlus.outcomes patcher probeF2Patch t.image).1 = true :=
    fun t => applyAll_made_iff rfl
  rw [← and_assoc, ← hpatches]
  cases hmade : (LookupPatchPlus.applyAll patcher patches s).1 with
  | false =>
      refine iff_of_false ?_ fun h => Bool.false_ne_true h.1
      rintro ⟨t, ht⟩
      obtain ⟨u, hu, _⟩ := bind_eq_ok_iff.mp ht
      exact Bool.false_ne_true (hmade.symm.trans (applyAll_ok_iff.mp hu).1)
  | true =>
      obtain ⟨herror, _⟩ := hpatches.mp hmade
      rw [patchDebug, applyAll_ok_iff.mpr ⟨hmade, rfl⟩, and_iff_right rfl, ← applyAll_image herror]
      have herror' := (applyAll_error hmade).trans herror
      cases hasked : refProbeF2 && !isRealTGL with
      | false => exact iff_of_true ⟨_, rfl⟩ fun h => absurd h Bool.false_ne_true
      | true =>
          show (∃ t, applyAll patcher probeF2Patch _ _ = .ok t) ↔ _
          simp only [applyAll_ok_iff, hprobe, herror', true_and, exists_and_left, exists_eq',
            and_true, true_imp_iff]

/-- The patches of the build are made by themselves, and the probe if it is asked for off real
TGL. -/
def PatchesMade (patcher : KernelPatcher) (controller : Controller) (refProbeF2 isRealTGL : Bool)
    (image : Image) : Prop :=
  match controller with
  | .framebufferController => (LookupPatchPlus.outcomes patcher patchesProduction image).1 = true
  | .baseController => (LookupPatchPlus.outcomes patcher patches image).1 = true ∧
      ((refProbeF2 && !isRealTGL) = true → (LookupPatchPlus.outcomes patcher probeF2Patch
        (LookupPatchPlus.outcomes patcher patches image).2).1 = true)

theorem patchOwn_ok_iff {controller : Controller} {refProbeF2 isRealTGL : Bool} :
    (∃ t, patchOwn patcher controller refProbeF2 isRealTGL s = .ok t) ↔
      s.error = .noError ∧ PatchesMade patcher controller refProbeF2 isRealTGL s.image := by
  cases controller with
  | framebufferController =>
      have hmade : (LookupPatchPlus.applyAll patcher patchesProduction s).1 = true ↔
          s.error = .noError ∧
            (LookupPatchPlus.outcomes patcher patchesProduction s.image).1 = true :=
        applyAll_made_iff rfl
      show (∃ t, applyAll patcher patchesProduction _ s = .ok t) ↔ _
      simp only [applyAll_ok_iff, exists_and_left, exists_eq', and_true, hmade, PatchesMade]
  | baseController => exact patchDebug_ok_iff

end Patches

/-! ## When it completes -/

/-- A kext that has every symbol but the debug controller's, all its functions beginning alike. -/
def productionKext (prologue : Prologue) : LoadedKext where
  address := 0x1000
  size := 0x1000
  solveSymbol := fun symbol => if symbol = startSymbol then 0 else 0x1234
  prologue := fun _ => prologue

def productionImage : Image := (patchesProduction.map fun patch => patch.find).flatten

/-- The panic a call ends in. -/
def panicOf {α : Type} : Except Panic α → Option Panic
  | .error panic => some panic
  | .ok _ => none

-- the error of the missing symbol is gone, unless no trampoline was made
example : panicOf (processKext findingPatcher (productionKext .code) false false
      ⟨.noError, productionImage⟩) = none ∧
    panicOf (processKext findingPatcher (productionKext .longJump) false false
      ⟨.noError, productionImage⟩) =
        some (.panicCond "kextG11FBT Failed to apply production patches!") := by
  decide +kernel

end FramebufferKext

end NootedGreen

/-
# `Hooks.Routes` — the routes of the accelerator branch of `processKext`

When `AppleIntelTGLGraphics` is loaded, `processKext` redirects its symbols to the
replacements of `Gen11`, table by table:

    requests               5   always
    firmwareRoute          3   always, after `initSchedControl` has been resolved
    policyRoutes          11   always
    bringupTraceRoutes     1   ngreenTglTrace
    schedulerPolicyRoutes  7   always
    lower trace routes     2   ngreen-rcsdeep / ngreenRcsEngineTrace, a missing symbol is skipped
    coexistOffRoutes       1   not nbwegcoex, or ngreenfullmtl
    gpuInfoRoute           2   not nbwegcoex, or ngreenfullmtl

`resumeScheduling` stands in `policyRoutes` and again among the lower trace routes,
with the same replacement and the same slot.  It is the only one:
`originals_reached_iff` says that every replacement comes to Apple's code through
its slot exactly when the trace is off.

**Assumed of Lilu.**  A symbol that resolves is routed, and one that does not is
refused; a route redirects later calls and saves the entry point as it was
(`Routing.route`).  Two symbols may resolve to one address.

**What is left out.**  What the trace resolves, which is in `Hooks.TraceSymbols`; the
contents of the byte patches, of which the branch needs no more than that they apply.
-/
import NootedGreen.Lib.Routing
import NootedGreen.Platform.Detection

namespace NootedGreen

/-! ## Requests -/

/-- The replacements of the accelerator branch.  Each has one slot, to which the request
and its body refer (`this->o…`), so a replacement also stands for its slot. -/
inductive Hook where
  | wrapPavpSessionCallback
  | resetGraphicsEngine
  | start
  | probe
  | blit3DContextInitialize
  | loadGuCBinary
  | wrapInitSchedControl
  | canLoadFirmware
  | extendedContextInitWithOptions
  | contextInitRingGPUVirtualAddress
  | contextInitRingRegisters
  | contextInitRingControl
  | contextResetRingHead
  | contextUpdateRingTail
  | ringBufferInit
  | ringBufferSubmitToRing
  | commandStreamerSubmitExecList
  | commandStreamerResumeScheduling
  | commandStreamerPrepareExecListAndSubmit
  | checkWOPCMSettings
  | schedulerInitWithAccelerator
  | schedulerResume
  | schedulerPush
  | schedulerNotify
  | schedulerEnableStampInterrupt
  | schedulerEnableContextSwitchInterrupts
  | schedulerCheckForProgress
  | renderCommandStreamerInit
  | forceWake
  | getGPUInfo
  | initHardwareCaps
  deriving DecidableEq, Repr

structure RouteRequestPlus where
  symbol : String
  replacement : Hook
  deriving DecidableEq, Repr

/-- `solveSymbol`: where a symbol of the kext lies. -/
abbrev SymbolTable := String → Option (BitVec 64)

/-- A route made: the replacement and the address it was put at. -/
abbrev Route := Hook × BitVec 64

/-- No request of this branch has a pattern to fall back on. -/
def RouteRequestPlus.route (table : SymbolTable) (request : RouteRequestPlus) : Option Route :=
  (table request.symbol).map fun address => (request.replacement, address)

/-- The first request that fails ends it. -/
def routeAll (table : SymbolTable) (requests : List RouteRequestPlus) : Option (List Route) :=
  requests.mapM fun request => request.route table

/-- A table under a condition. -/
def routeWhen (table : SymbolTable) (condition : Bool) (requests : List RouteRequestPlus) :
    Option (List Route) :=
  if condition then routeAll table requests else some []

def solveAll (table : SymbolTable) (symbols : List String) : Bool :=
  symbols.all fun symbol => (table symbol).isSome

def displayMachineSymbols : List String :=
  ["__ZN16IntelAccelerator17newDisplayMachineEv",
    "__ZN21IGAccelDisplayMachine4initEP22IOGraphicsAccelerator2",
    "__ZN21IGAccelDisplayMachine5startEP11IOPCIDevice",
    "__ZN21IGAccelDisplayMachine17probeDisplayPipesEv"]

def requests : List RouteRequestPlus :=
  [⟨"__ZN16IntelAccelerator20_PAVPCommandCallbackEP8OSObject22PAVPSessionCommandID_tjPj",
      .wrapPavpSessionCallback⟩,
    ⟨"__ZN20IGHardwareRingBuffer19resetGraphicsEngineEP17IGHardwareContext",
      .resetGraphicsEngine⟩,
    ⟨"__ZN16IntelAccelerator5startEP9IOService", .start⟩,
    ⟨"__ZN16IntelAccelerator5probeEP9IOServicePi", .probe⟩,
    ⟨"__ZN23IGHardwareBlit3DContext10initializeEv", .blit3DContextInitialize⟩]

def initSchedControlSymbol : String := "__ZN13IGHardwareGuC16initSchedControlEv"

def firmwareRoute : List RouteRequestPlus :=
  [⟨"__ZN13IGHardwareGuC13loadGuCBinaryEv", .loadGuCBinary⟩,
    ⟨initSchedControlSymbol, .wrapInitSchedControl⟩,
    ⟨"__ZN5IGGuC15canLoadFirmwareEP22IOGraphicsAccelerator2", .canLoadFirmware⟩]

/-- `IGHardwareCommandStreamer5::resumeScheduling()`, requested in two places. -/
def resumeSchedulingRequest : RouteRequestPlus :=
  ⟨"__ZN26IGHardwareCommandStreamer516resumeSchedulingEv", .commandStreamerResumeScheduling⟩

def policyRoutes : List RouteRequestPlus :=
  [⟨"__ZN25IGHardwareExtendedContext15initWithOptionsEP11IGAccelTask" ++
      "RK31IGHardwareExtendedContextParams", .extendedContextInitWithOptions⟩,
    ⟨"__ZN17IGHardwareContext25initRingGPUVirtualAddressEv", .contextInitRingGPUVirtualAddress⟩,
    ⟨"__ZN17IGHardwareContext17initRingRegistersEv", .contextInitRingRegisters⟩,
    ⟨"__ZN17IGHardwareContext15initRingControlEb", .contextInitRingControl⟩,
    ⟨"__ZN17IGHardwareContext13resetRingHeadEv", .contextResetRingHead⟩,
    ⟨"__ZN17IGHardwareContext14updateRingTailEj", .contextUpdateRingTail⟩,
    ⟨"__ZN20IGHardwareRingBuffer4initEP17IGHardwareContext", .ringBufferInit⟩,
    ⟨"__ZN20IGHardwareRingBuffer12submitToRingEv", .ringBufferSubmitToRing⟩,
    ⟨"__ZN26IGHardwareCommandStreamer514submitExecListEj", .commandStreamerSubmitExecList⟩,
    resumeSchedulingRequest,
    ⟨"__ZN26IGHardwareCommandStreamer524prepareExecListAndSubmitEjjPKj",
      .commandStreamerPrepareExecListAndSubmit⟩]

def bringupTraceRoutes : List RouteRequestPlus :=
  [⟨"__ZN13IGHardwareGuC18checkWOPCMSettingsEmR14IOVirtualRange", .checkWOPCMSettings⟩]

def schedulerPolicyRoutes : List RouteRequestPlus :=
  [⟨"__ZN12IGScheduler519initWithAcceleratorEP22IOGraphicsAccelerator2",
      .schedulerInitWithAccelerator⟩,
    ⟨"__ZN12IGScheduler56resumeEv", .schedulerResume⟩,
    ⟨"__ZN12IGScheduler54pushEP17IGHardwareContextjjbb", .schedulerPush⟩,
    ⟨"__ZN12IGScheduler56notifyE10IGHwCsType", .schedulerNotify⟩,
    ⟨"__ZN12IGScheduler520enableStampInterruptEi", .schedulerEnableStampInterrupt⟩,
    ⟨"__ZN12IGScheduler529enableContextSwitchInterruptsEv",
      .schedulerEnableContextSwitchInterrupts⟩,
    ⟨"__ZN12IGScheduler516checkForProgressE10IGHwCsType", .schedulerCheckForProgress⟩]

def renderInitRequest : RouteRequestPlus :=
  ⟨"__ZN32IGHardwareRenderCommandStreamer54initEP22IOGraphicsAccelerator2P10IOWorkLoop" ++
    "P12IGScheduler5", .renderCommandStreamerInit⟩

/-- `routeTraceSymbol`, one call after the other. -/
def lowerTraceRoutes : List RouteRequestPlus :=
  [renderInitRequest, resumeSchedulingRequest]

def coexistOffRoutes : List RouteRequestPlus :=
  [⟨"__ZN16IntelAccelerator26SafeForceWakeMultithreadedEbjj", .forceWake⟩]

def gpuInfoRoute : List RouteRequestPlus :=
  [⟨"__ZN16IntelAccelerator10getGPUInfoEv", .getGPUInfo⟩,
    ⟨"__ZN16IntelAccelerator16initHardwareCapsEv", .initHardwareCaps⟩]

/-! ## The branch -/

/-- The boot arguments the branch looks at. -/
structure RouteBootArgs where
  /-- `ngreen-rcsdeep` -/
  rcsDeep : BootFlag
  /-- `ngreenRcsEngineTrace` -/
  rcsEngineTrace : BootFlag
  /-- `ngreenTglTrace` -/
  tglTrace : BootFlag
  /-- `nbwegcoex` -/
  wegCoexist : BootFlag
  /-- `ngreenfullmtl` -/
  fullMTL : BootFlag
  deriving DecidableEq, Repr

/-- Both values are looked at before either flag. -/
def isRcsEngineTraceEnabled (boot : RouteBootArgs) : Bool :=
  match boot.rcsDeep.value with
  | some enabled => enabled != 0
  | none =>
    match boot.rcsEngineTrace.value with
    | some enabled => enabled != 0
    | none => boot.rcsDeep.flag || boot.rcsEngineTrace.flag

/-- What the branch finds: the platform, and whether each group of byte patches applies. -/
structure KextEnv where
  table : SymbolTable
  isRealTGL : Bool
  patchesAlways : Bool
  patchesRPL : Bool

/-- `PANIC_COND`; a panic is the end of the branch. -/
def panicCond (cond : Bool) : Option Unit := if cond then none else some ()

/-- The routes the branch makes, in order; `none` when a `PANIC_COND` stops it. -/
def processKext (boot : RouteBootArgs) (env : KextEnv) : Option (List Route) := do
  let table := env.table
  let coexistOff := !boot.wegCoexist.enabled || boot.fullMTL.enabled
  panicCond !(solveAll table displayMachineSymbols)
  let first ← routeAll table requests
  panicCond (table initSchedControlSymbol).isNone
  let firmware ← routeAll table firmwareRoute
  let policy ← routeAll table policyRoutes
  let bringup ← routeWhen table boot.tglTrace.enabled bringupTraceRoutes
  let scheduler ← routeAll table schedulerPolicyRoutes
  let lower := if isRcsEngineTraceEnabled boot then
    lowerTraceRoutes.filterMap fun request => request.route table else []
  let forceWake ← routeWhen table coexistOff coexistOffRoutes
  let gpuInfo ← routeWhen table coexistOff gpuInfoRoute
  panicCond !env.patchesAlways
  panicCond (!env.isRealTGL && !env.patchesRPL)
  some (first ++ firmware ++ policy ++ bringup ++ scheduler ++ lower ++ forceWake ++ gpuInfo)

/-! ## Which replacements are routed -/

section Tables

variable {table : SymbolTable} {rs : List RouteRequestPlus} {routes : List Route}

theorem routeAll_hooks (h : routeAll table rs = some routes) :
    routes.map Prod.fst = rs.map RouteRequestPlus.replacement := by
  induction rs generalizing routes with
  | nil =>
      cases h
      rfl
  | cons r rs ih =>
      obtain ⟨p, hp, ps, hps, rfl⟩ : ∃ p, r.route table = some p ∧
          ∃ ps, routeAll table rs = some ps ∧ p :: ps = routes := by
        simpa [routeAll, Option.bind_eq_some_iff] using h
      obtain ⟨a, _, rfl⟩ := Option.map_eq_some_iff.mp hp
      rw [List.map_cons, List.map_cons, ih hps]

/-- Every symbol of a table that was routed resolved. -/
theorem mem_routeAll (h : routeAll table rs = some routes) {r : RouteRequestPlus} (hr : r ∈ rs) :
    ∃ p ∈ routes, r.route table = some p := by
  induction rs generalizing routes with
  | nil => exact absurd hr List.not_mem_nil
  | cons q rs ih =>
      obtain ⟨p, hp, ps, hps, rfl⟩ : ∃ p, q.route table = some p ∧
          ∃ ps, routeAll table rs = some ps ∧ p :: ps = routes := by
        simpa [routeAll, Option.bind_eq_some_iff] using h
      rcases List.mem_cons.mp hr with rfl | hr
      · exact ⟨p, List.mem_cons_self, hp⟩
      · obtain ⟨p', hp', heq⟩ := ih hps hr
        exact ⟨p', List.mem_cons_of_mem _ hp', heq⟩

theorem routeAll_sublist (h : routeAll table rs = some routes) :
    (routes.map Prod.fst).Sublist (rs.map RouteRequestPlus.replacement) :=
  routeAll_hooks h ▸ List.Sublist.refl _

/-- A table routed under a condition contributes its replacements or none. -/
theorem routeWhen_sublist {c : Bool} (h : routeWhen table c rs = some routes) :
    (routes.map Prod.fst).Sublist (rs.map RouteRequestPlus.replacement) := by
  cases c with
  | true => exact routeAll_sublist h
  | false =>
      cases h
      exact List.nil_sublist _

theorem filterMap_hooks_sublist (table : SymbolTable) (rs : List RouteRequestPlus) :
    ((rs.filterMap fun r => r.route table).map Prod.fst).Sublist
      (rs.map RouteRequestPlus.replacement) := by
  induction rs with
  | nil => exact List.nil_sublist _
  | cons r rs ih =>
      cases h : r.route table with
      | none =>
          rw [List.filterMap_cons_none h]
          exact ih.cons _
      | some p =>
          obtain ⟨a, _, rfl⟩ := Option.map_eq_some_iff.mp h
          rw [List.filterMap_cons_some h]
          exact ih.cons_cons _

end Tables

/-- The tables without the second request for `resumeScheduling`. -/
def tablesOnce : List RouteRequestPlus :=
  requests ++ firmwareRoute ++ policyRoutes ++ bringupTraceRoutes ++ schedulerPolicyRoutes ++
    [renderInitRequest] ++ (coexistOffRoutes ++ gpuInfoRoute)

theorem tablesOnce_nodup : (tablesOnce.map RouteRequestPlus.replacement).Nodup := by decide

/-- How a branch that completes has gone: the routes before and after the place of the
second request, distinct replacements in all, and what happened at that place. -/
def Completed (boot : RouteBootArgs) (table : SymbolTable) (routes : List Route) : Prop :=
  ∃ before after : List Route, ((before ++ after).map Prod.fst).Nodup ∧
    ∃ p ∈ before, resumeSchedulingRequest.route table = some p ∧
      routes = before ++ (if isRcsEngineTraceEnabled boot then [p] else []) ++ after

theorem processKext_completed {boot : RouteBootArgs} {env : KextEnv} {routes : List Route}
    (h : processKext boot env = some routes) : Completed boot env.table routes := by
  simp only [processKext, Option.bind_eq_bind, Option.bind_eq_some_iff] at h
  obtain ⟨_, _, first, hfirst, _, _, firmware, hfirmware, policy, hpolicy, bringup, hbringup,
    scheduler, hscheduler, wake, hwake, gpuInfo, hgpuInfo, _, _, _, _, hroutes⟩ := h
  obtain ⟨p, hp, hroute⟩ := mem_routeAll hpolicy (r := resumeSchedulingRequest) (by decide)
  -- the render engine's `init` is the one lower route that may be skipped
  obtain ⟨init, hinit, hlower⟩ : ∃ init : List Route,
      (init.map Prod.fst).Sublist ([renderInitRequest].map RouteRequestPlus.replacement) ∧
      (if isRcsEngineTraceEnabled boot then
        lowerTraceRoutes.filterMap fun request => request.route env.table else []) =
        init ++ (if isRcsEngineTraceEnabled boot then [p] else []) := by
    cases isRcsEngineTraceEnabled boot with
    | false => exact ⟨[], List.nil_sublist _, rfl⟩
    | true =>
        refine ⟨_, filterMap_hooks_sublist env.table [renderInitRequest], ?_⟩
        show List.filterMap _ ([renderInitRequest] ++ [resumeSchedulingRequest]) = _
        rw [List.filterMap_append, List.filterMap_cons_some hroute]
        rfl
  refine ⟨first ++ firmware ++ policy ++ bringup ++ scheduler ++ init, wake ++ gpuInfo, ?_, p, ?_,
    hroute, ?_⟩
  · refine List.Nodup.sublist ?_ tablesOnce_nodup
    simp only [tablesOnce, List.map_append]
    refine List.Sublist.append ?_ ((routeWhen_sublist hwake).append (routeWhen_sublist hgpuInfo))
    refine List.Sublist.append ?_ hinit
    refine List.Sublist.append ?_ (routeAll_sublist hscheduler)
    refine List.Sublist.append ?_ (routeWhen_sublist hbringup)
    refine List.Sublist.append ?_ (routeAll_sublist hpolicy)
    exact (routeAll_sublist hfirst).append (routeAll_sublist hfirmware)
  · simp only [List.mem_append, hp, true_or, or_true]
  · rw [← Option.some.inj hroutes, hlower]
    simp only [List.append_assoc]

/-! ## Where the slots lead -/

/-- Every route made links its replacement to Apple's code. -/
def OriginalsReached (routes : List Route) : Prop :=
  ∀ p ∈ routes, Routing.Linked (Routing.routed routes) p.1 p.2

theorem originalsReached_of_trace_off {boot : RouteBootArgs} {table : SymbolTable}
    {routes : List Route} (h : Completed boot table routes)
    (hoff : isRcsEngineTraceEnabled boot = false) : OriginalsReached routes := by
  obtain ⟨before, after, hnd, p, _, _, rfl⟩ := h
  rw [hoff, if_neg Bool.false_ne_true, List.append_nil]
  exact Routing.linked_of_nodup hnd

/-- With the trace on, `resumeScheduling` has itself behind its slot. -/
theorem not_originalsReached_of_trace_on {boot : RouteBootArgs} {table : SymbolTable}
    {routes : List Route} (h : Completed boot table routes)
    (hon : isRcsEngineTraceEnabled boot = true) : ¬ OriginalsReached routes := by
  obtain ⟨before, after, hnd, p, hp, hroute, rfl⟩ := h
  rw [hon, if_pos rfl, List.append_assoc, List.singleton_append]
  rw [List.map_append, List.nodup_append] at hnd
  obtain ⟨hbefore, _, hdisjoint⟩ := hnd
  intro hall
  refine Routing.not_linked_of_again hbefore hp ?_ (hall p ?_)
  · exact fun q hq hin => hdisjoint q.1 hin q.1 (List.mem_map_of_mem hq) rfl
  · exact List.mem_append_right _ List.mem_cons_self

/-- Whatever the boot arguments and the symbol table: every replacement reaches Apple's
implementation through its slot, and is entered once by a call of its symbol, exactly when
the render engine's trace is off. -/
theorem originals_reached_iff (boot : RouteBootArgs) (env : KextEnv) (routes : List Route)
    (h : processKext boot env = some routes) :
    OriginalsReached routes ↔ isRcsEngineTraceEnabled boot = false := by
  have hdone := processKext_completed h
  constructor
  · intro hall
    by_contra hon
    exact not_originalsReached_of_trace_on hdone (eq_true_of_ne_false hon) hall
  · exact originalsReached_of_trace_off hdone

/-- No boot argument given. -/
def noRouteBootArgs : RouteBootArgs where
  rcsDeep := ⟨none, false⟩
  rcsEngineTrace := ⟨none, false⟩
  tglTrace := ⟨none, false⟩
  wegCoexist := ⟨none, false⟩
  fullMTL := ⟨none, false⟩

/-- A real Tiger Lake whose kext has every symbol, all at one address. -/
def sharedAddressKext : KextEnv where
  table := fun _ => some 0x1000
  isRealTGL := true
  patchesAlways := true
  patchesRPL := false

theorem originals_reached_by_default :
    ∃ routes, processKext noRouteBootArgs sharedAddressKext = some routes ∧
      OriginalsReached routes :=
  ⟨_, rfl, (originals_reached_iff noRouteBootArgs sharedAddressKext _ rfl).mpr rfl⟩

/-- `-ngreen-rcsdeep` on the command line. -/
def rcsDeepBootArgs : RouteBootArgs := { noRouteBootArgs with rcsDeep := ⟨none, true⟩ }

theorem resumeScheduling_routed_twice :
    ∃ routes, processKext rcsDeepBootArgs sharedAddressKext = some routes ∧
      ¬ OriginalsReached routes := by
  refine ⟨_, rfl, ?_⟩
  have hdone := @processKext_completed rcsDeepBootArgs sharedAddressKext _ rfl
  exact not_originalsReached_of_trace_on hdone rfl

end NootedGreen

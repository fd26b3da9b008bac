/-
# `Engine.Bringup` — the ring, context and exec-list hooks of `TGL.cpp`

`gTglBringupState` keeps one record for the blitter (BCS) and one for the render
engine (RCS).  Ten hooks around Apple's ring and context functions update it,
block calls for an engine that is quarantined, and run the bootstrap smoke test.

    hook                          marks                    evaluates
    initRingGPUVirtualAddress     contextSeen              —
    initRingRegisters             ringReady                —
    initRingControl(enable)       controlReady, ringReady  if enable
    resetRingHead                 ¬ submitted              —
    updateRingTail(tail)          lastTail, submitted      always
    IGHardwareRingBuffer::init    —                        —
    submitToRing                  submitted                if not passed yet
    initWithOptions               contextSeen              —
    submitExecList, prepare…      —                        RCS, if not passed yet

A hook call is one step: Apple's originals do not re-enter a hook, so nothing but
their being called and their result is visible here.

**What is left out.**  Logging and the `isRcsEngineTraceEnabled` dumps, which
read only; object fields no hook looks at.
-/
import Mathlib.Tactic.Common

namespace NootedGreen

/-! ## Engines and their records -/

/-- The engines `NGTglTrackedEngine` tracks; its `None` is `none : Option Engine`. -/
inductive Engine where
  | bcs
  | rcs
  deriving DecidableEq, Repr

/-- `NGTglEngineState`. -/
structure EngineState where
  contextSeen : Bool
  ringReady : Bool
  controlReady : Bool
  submitted : Bool
  smokePassed : Bool
  quarantined : Bool
  lastTail : BitVec 32
  deriving DecidableEq, Repr

/-- All fields as C++ initialises them. -/
def EngineState.initial : EngineState := ⟨false, false, false, false, false, false, 0⟩

/-- `NGTglBringupState`. -/
structure BringupState where
  bcs : EngineState
  rcs : EngineState
  deriving DecidableEq, Repr

namespace BringupState

def initial : BringupState := ⟨.initial, .initial⟩

/-- `trackedEngineState`, for an engine that is tracked. -/
def record (s : BringupState) : Engine → EngineState
  | .bcs => s.bcs
  | .rcs => s.rcs

/-- Update a record through the pointer `trackedEngineState` returns; a null pointer
updates nothing. -/
def modify (engine : Option Engine) (f : EngineState → EngineState) (s : BringupState) :
    BringupState :=
  match engine with
  | some .bcs => { s with bcs := f s.bcs }
  | some .rcs => { s with rcs := f s.rcs }
  | none => s

theorem record_modify (engine : Option Engine) (f : EngineState → EngineState) (s : BringupState)
    (e : Engine) :
    (s.modify engine f).record e = if engine = some e then f (s.record e) else s.record e := by
  rcases engine with _ | _ | _ <;> cases e <;> rfl

@[simp] theorem modify_modify (e : Engine) (f g : EngineState → EngineState) (s : BringupState) :
    (s.modify (some e) f).modify (some e) g = s.modify (some e) fun r => g (f r) := by
  cases e <;> rfl

/-- An update is what it does to the record. -/
theorem modify_congr {e : Engine} {f g : EngineState → EngineState} {s : BringupState}
    (h : f (s.record e) = g (s.record e)) : s.modify (some e) f = s.modify (some e) g := by
  cases e with
  | bcs => exact congrArg (BringupState.mk · s.rcs) h
  | rcs => exact congrArg (BringupState.mk s.bcs) h

theorem modify_fixed {e : Engine} {f : EngineState → EngineState} {s : BringupState}
    (h : f (s.record e) = s.record e) : s.modify (some e) f = s := by
  rw [modify_congr (g := id) h]
  cases e <;> rfl

end BringupState

/-! ## Apple's objects, as far as the hooks look into them -/

/-- The command-streamer state a context points to: its type, at 0x20. -/
structure CsState where
  type : BitVec 32
  deriving DecidableEq, Repr

/-- A context: the pointer at 0xb8. -/
structure IGHardwareContext where
  csState : Option CsState
  deriving DecidableEq, Repr

/-- A ring buffer: the context pointer at 0x20. -/
structure IGHardwareRingBuffer where
  context : Option IGHardwareContext
  deriving DecidableEq, Repr

/-- `kIGHwCsTypeRCS` and `kIGHwCsTypeBCS`; every other type is untracked. -/
def getTrackedEngineFromCsType (type : BitVec 32) : Option Engine :=
  if type = 2 then some .bcs else if type = 0 then some .rcs else none

def getTrackedEngineFromContext (context : Option IGHardwareContext) : Option Engine :=
  match context.bind IGHardwareContext.csState with
  | none => none
  | some csState => getTrackedEngineFromCsType csState.type

def getTrackedEngineFromRingBuffer (ringBuffer : Option IGHardwareRingBuffer) : Option Engine :=
  getTrackedEngineFromContext (ringBuffer.bind IGHardwareRingBuffer.context)

/-! ## Flags -/

def shouldBlockTrackedEngine (engine : Option Engine) (s : BringupState) : Bool :=
  match engine with
  | some e => (s.record e).quarantined
  | none => false

def markTrackedEngineContextSeen (engine : Option Engine) (s : BringupState) : BringupState :=
  s.modify engine fun state => { state with contextSeen := true }

def markTrackedEngineRingReady (engine : Option Engine) (s : BringupState) : BringupState :=
  s.modify engine fun state => { state with ringReady := true }

def markTrackedEngineControlReady (engine : Option Engine) (ready : Bool) (s : BringupState) :
    BringupState :=
  s.modify engine fun state => { state with controlReady := ready }

def markTrackedEngineSubmitted (engine : Option Engine) (s : BringupState) : BringupState :=
  s.modify engine fun state => { state with submitted := true }

/-- `state->quarantined = true`. -/
def quarantineTrackedEngine (engine : Option Engine) (s : BringupState) : BringupState :=
  s.modify engine fun state => { state with quarantined := true }

/-! ## The bootstrap smoke test -/

/-- What one call finds outside: the platform flags, the registers as it reads them, and
the original it may call. -/
structure CallEnv where
  mmioReady : Bool
  isRealTGL : Bool
  tryGuC : Bool
  readMMIO32 : BitVec 32 → BitVec 32
  /-- The `o…` slot of the hook is not null. -/
  originalInstalled : Bool
  /-- What the original returns, for the hooks that return something. -/
  originalRet : BitVec 8

/-- `RENDER_RING_BASE` and `BLT_RING_BASE`. -/
def trackedEngineRingBase : Engine → BitVec 32
  | .bcs => 0x22000
  | .rcs => 0x2000

/-- The registers show a ring that is programmed and has moved: `RING_START`, `RING_CTL`,
and one of `RING_TAIL`, `RING_HEAD`, `RING_EXECLIST_STATUS`, `RING_CONTEXT_STATUS_PTR`. -/
def CallEnv.ringAlive (env : CallEnv) (e : Engine) : Bool :=
  let ringBase := trackedEngineRingBase e
  let ringStart := env.readMMIO32 (ringBase + 0x38)
  let ringCtl := env.readMMIO32 (ringBase + 0x3c)
  let ringHead := env.readMMIO32 (ringBase + 0x34)
  let ringTail := env.readMMIO32 (ringBase + 0x30)
  let execListStatus := env.readMMIO32 (ringBase + 0x234)
  let contextStatusPtr := env.readMMIO32 (ringBase + 0x3a0)
  ringStart != 0 && ringCtl != 0 &&
    (ringTail != 0 || ringHead != 0 || execListStatus != 0 || contextStatusPtr != 0)

def evaluateTrackedEngineBootstrap (env : CallEnv) (engine : Option Engine) (s : BringupState) :
    Bool × BringupState :=
  match engine with
  | none => (false, s)
  | some e =>
      if !env.mmioReady then (false, s)
      else
        let state := s.record e
        let pass :=
          state.contextSeen && state.ringReady && state.controlReady && env.ringAlive e
        if pass then (true, s.modify engine fun state => { state with smokePassed := true })
        -- V90: on real TGL the render engine is never failed here
        else if env.isRealTGL && e == .rcs then (false, s)
        else (false, quarantineTrackedEngine engine s)

/-! ## The hooks -/

/-- What a hook leaves behind, whether it called the original, and what it returns. -/
structure Outcome where
  state : BringupState
  calledOriginal : Bool
  ret : Option (BitVec 8)

/-- Return early, without the original. -/
def Outcome.blocked (s : BringupState) : Outcome := ⟨s, false, none⟩

namespace IGHardwareContext

def initRingGPUVirtualAddress (env : CallEnv) (that : Option IGHardwareContext)
    (s : BringupState) : Outcome :=
  let engine := getTrackedEngineFromContext that
  if shouldBlockTrackedEngine engine s then .blocked s
  else ⟨markTrackedEngineContextSeen engine s, env.originalInstalled, none⟩

def initRingRegisters (env : CallEnv) (that : Option IGHardwareContext) (s : BringupState) :
    Outcome :=
  let engine := getTrackedEngineFromContext that
  if shouldBlockTrackedEngine engine s then .blocked s
  else ⟨markTrackedEngineRingReady engine s, env.originalInstalled, none⟩

def initRingControl (env : CallEnv) (that : Option IGHardwareContext) (enable : Bool)
    (s : BringupState) : Outcome :=
  let engine := getTrackedEngineFromContext that
  if shouldBlockTrackedEngine engine s then .blocked s
  else
    -- enabling control is taken as proof that the ring is ready
    let s := if engine.any fun e => enable && !(s.record e).ringReady then
      markTrackedEngineRingReady engine s else s
    let s := markTrackedEngineControlReady engine enable s
    let s := if enable then (evaluateTrackedEngineBootstrap env engine s).2 else s
    ⟨s, env.originalInstalled, none⟩

def resetRingHead (env : CallEnv) (that : Option IGHardwareContext) (s : BringupState) :
    Outcome :=
  let engine := getTrackedEngineFromContext that
  if shouldBlockTrackedEngine engine s then .blocked s
  else ⟨s.modify engine fun state => { state with submitted := false },
    env.originalInstalled, none⟩

def updateRingTail (env : CallEnv) (that : Option IGHardwareContext) (tail : BitVec 32)
    (s : BringupState) : Outcome :=
  let engine := getTrackedEngineFromContext that
  if shouldBlockTrackedEngine engine s then .blocked s
  else if engine.any fun e => !(s.record e).ringReady then
    .blocked (quarantineTrackedEngine engine s)
  else
    let s := s.modify engine fun state => { state with lastTail := tail }
    let s := markTrackedEngineSubmitted engine s
    ⟨(evaluateTrackedEngineBootstrap env engine s).2, env.originalInstalled, none⟩

end IGHardwareContext

namespace IGHardwareRingBuffer

def init (env : CallEnv) (context : Option IGHardwareContext) (s : BringupState) : Outcome :=
  let engine := getTrackedEngineFromContext context
  if shouldBlockTrackedEngine engine s then ⟨s, false, some 0⟩
  else if !env.originalInstalled then ⟨s, false, some 0⟩
  else ⟨s, true, some env.originalRet⟩

def submitToRing (env : CallEnv) (that : Option IGHardwareRingBuffer) (s : BringupState) :
    Outcome :=
  let engine := getTrackedEngineFromRingBuffer that
  if shouldBlockTrackedEngine engine s then .blocked s
  else if engine.any fun e => !(s.record e).controlReady then
    .blocked (quarantineTrackedEngine engine s)
  else
    let s := markTrackedEngineSubmitted engine s
    let s := if engine.any fun e => !(s.record e).smokePassed then
      (evaluateTrackedEngineBootstrap env engine s).2 else s
    ⟨s, env.originalInstalled, none⟩

end IGHardwareRingBuffer

/-- The context is looked at once the original has returned; the slot is not checked. -/
def IGHardwareExtendedContext.initWithOptions (env : CallEnv) (that : Option IGHardwareContext)
    (s : BringupState) : Outcome :=
  ⟨markTrackedEngineContextSeen (getTrackedEngineFromContext that) s, true, some env.originalRet⟩

def shouldUseSpoofedSafeSchedulerPolicy (env : CallEnv) : Bool := !env.isRealTGL && !env.tryGuC

namespace IGHardwareCommandStreamer

/-- The body `submitExecList` and `prepareExecListAndSubmit` share. -/
def submitGuarded (env : CallEnv) (s : BringupState) : Outcome :=
  if shouldUseSpoofedSafeSchedulerPolicy env && s.bcs.quarantined then .blocked s
  else
    let s := if !s.rcs.smokePassed then
      (evaluateTrackedEngineBootstrap env (some .rcs) s).2 else s
    ⟨s, env.originalInstalled, none⟩

def submitExecList (env : CallEnv) (_stamp : BitVec 32) (s : BringupState) : Outcome :=
  submitGuarded env s

def prepareExecListAndSubmit (env : CallEnv) (_arg1 _arg2 : BitVec 32) (s : BringupState) :
    Outcome :=
  submitGuarded env s

end IGHardwareCommandStreamer

/-! ## Calls and runs -/

/-- A call of one of the ten hooks. -/
inductive HookCall where
  | initRingGPUVirtualAddress (that : Option IGHardwareContext)
  | initRingRegisters (that : Option IGHardwareContext)
  | initRingControl (that : Option IGHardwareContext) (enable : Bool)
  | resetRingHead (that : Option IGHardwareContext)
  | updateRingTail (that : Option IGHardwareContext) (tail : BitVec 32)
  | ringBufferInit (context : Option IGHardwareContext)
  | submitToRing (that : Option IGHardwareRingBuffer)
  | initWithOptions (that : Option IGHardwareContext)
  | submitExecList (stamp : BitVec 32)
  | prepareExecListAndSubmit (arg1 arg2 : BitVec 32)

namespace HookCall

def exec (env : CallEnv) : HookCall → BringupState → Outcome
  | .initRingGPUVirtualAddress that => IGHardwareContext.initRingGPUVirtualAddress env that
  | .initRingRegisters that => IGHardwareContext.initRingRegisters env that
  | .initRingControl that enable => IGHardwareContext.initRingControl env that enable
  | .resetRingHead that => IGHardwareContext.resetRingHead env that
  | .updateRingTail that tail => IGHardwareContext.updateRingTail env that tail
  | .ringBufferInit context => IGHardwareRingBuffer.init env context
  | .submitToRing that => IGHardwareRingBuffer.submitToRing env that
  | .initWithOptions that => IGHardwareExtendedContext.initWithOptions env that
  | .submitExecList stamp => IGHardwareCommandStreamer.submitExecList env stamp
  | .prepareExecListAndSubmit arg1 arg2 =>
      IGHardwareCommandStreamer.prepareExecListAndSubmit env arg1 arg2

/-- The engine the call's context or ring buffer belongs to; the exec-list hooks look at
the render engine. -/
def engine : HookCall → Option Engine
  | .initRingGPUVirtualAddress that | .initRingRegisters that | .initRingControl that _
  | .resetRingHead that | .updateRingTail that _ | .initWithOptions that =>
      getTrackedEngineFromContext that
  | .ringBufferInit context => getTrackedEngineFromContext context
  | .submitToRing that => getTrackedEngineFromRingBuffer that
  | .submitExecList _ | .prepareExecListAndSubmit _ _ => some .rcs

end HookCall

/-- One step of a run: what the call finds outside, and the call. -/
def bringupStep (c : CallEnv × HookCall) (s : BringupState) : BringupState := (c.2.exec c.1 s).state

end NootedGreen

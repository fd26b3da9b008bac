/-
# `Display.ConnectorGate` — keeping external framebuffers shut

Four hooks of the framebuffer kext look at `gateExternalDisplays`.  While it is on,
a framebuffer whose index (member `0x1dc`) is not 0 is to look disconnected: its gate
byte (member `0x1e0`) is 0 and nothing reports it online.

    hook                external                     built in
    getOnlineInfo       original, then shut          original, then open
    enableController    shut, no original            open, then original
    setDisplayMode      shut, no original            open, then original
    connectionChanged   shut, no original            original, open if it succeeded

The order of the original and the gate write differs, and the originals may set the
byte as they like; what holds after each call, over every sequence of calls on any
framebuffers, is `external_gate_respected`.

A hook is code on a `GateState`.  Its originals are called by `callOriginal` alone, which
applies what the original does and records the call with the framebuffer it finds; how
often an original is called is read off that record.

**What is left out.**  Logging.  The originals touch the framebuffer they are given and
what the pointers point to, nothing else of the state, and leave the index alone.
-/
import NootedGreen.Platform.Detection
import NootedGreen.Lib.Runs
import Mathlib.Logic.Function.Basic

namespace NootedGreen

/-! ## Framebuffers -/

/-- The members of a framebuffer object the hooks use, and the properties they set. -/
structure Framebuffer where
  /-- Member `0x1dc`. -/
  index : BitVec 32
  /-- Member `0x1e0`. -/
  gate : BitVec 8
  /-- `OSDynamicCast(IOService, that)` succeeds. -/
  isService : Bool
  /-- `NGreenConnectorKind` -/
  connectorKind : Option String
  /-- `NGreenBringupPhase` -/
  bringupPhase : Option String
  deriving DecidableEq, Repr

def PlatformFlags.shouldGateExternalDisplayBringup (flags : PlatformFlags) : Bool :=
  flags.gateExternalDisplays

namespace Framebuffer

def isBuiltInFramebufferObject (fb : Framebuffer) : Bool := fb.index == 0

def framebufferKindString (fb : Framebuffer) : String :=
  if fb.isBuiltInFramebufferObject then "BuiltInEDP" else "External"

def setFramebufferGateState (connected : Bool) (fb : Framebuffer) : Framebuffer :=
  { fb with gate := if connected then 1 else 0 }

/-- Both properties, when the object is an `IOService`. -/
def setProperties (kind phase : String) (fb : Framebuffer) : Framebuffer :=
  if fb.isService then { fb with connectorKind := some kind, bringupPhase := some phase } else fb

/-- The test the four hooks make. -/
def isGated (flags : PlatformFlags) (fb : Framebuffer) : Bool :=
  flags.shouldGateExternalDisplayBringup && !fb.isBuiltInFramebufferObject

/-- What every hook does to a framebuffer it keeps shut. -/
def shut (fb : Framebuffer) : Framebuffer :=
  (fb.setFramebufferGateState false).setProperties "External" "FBOnly"

/-- The properties of a framebuffer that is let through. -/
def publish (flags : PlatformFlags) (fb : Framebuffer) : Framebuffer :=
  fb.setProperties fb.framebufferKindString
    (if flags.shouldGateExternalDisplayBringup then "InternalReady" else "ExternalReady")

end Framebuffer

/-! ## The hooks -/

/-- What Apple's function does with the framebuffer: the gate byte it leaves, the bytes it
stores where `online` and `changed` point, and its result. -/
structure Original where
  gate : BitVec 8
  online : BitVec 8
  changed : BitVec 8
  ret : BitVec 8
  deriving DecidableEq, Repr

/-- A hook, with what matters of its arguments: the bytes behind the pointers (`none` for a
null pointer), and what the original is passed on. -/
inductive GateHook where
  | getOnlineInfo (online changed : Option (BitVec 8))
  | enableController
  | setDisplayMode (mode depth : Int)
  | connectionChanged
  deriving DecidableEq, Repr

/-- A call of an original: of which hook, with which arguments, and the framebuffer as it
finds it. -/
structure Invocation where
  hook : GateHook
  found : Framebuffer
  deriving DecidableEq, Repr

/-- What the code of a hook works on. -/
structure GateState where
  that : Framebuffer
  /-- `*online`, unless the pointer is null. -/
  online : Option (BitVec 8)
  /-- `*changed`, unless the pointer is null. -/
  changed : Option (BitVec 8)
  /-- The originals called so far, the first one first. -/
  invocations : List Invocation
  deriving DecidableEq, Repr

/-- The code of a hook; `getOnlineInfo` is `void` and returns `none`. -/
abbrev GateCode := StateM GateState

/-- Where a hook starts. -/
def GateHook.entry : GateHook → Framebuffer → GateState
  | .getOnlineInfo online changed, that => ⟨that, online, changed, []⟩
  | .enableController, that | .setDisplayMode _ _, that | .connectionChanged, that =>
      ⟨that, none, none, []⟩

/-- Write members and properties of the framebuffer. -/
def onFramebuffer (f : Framebuffer → Framebuffer) : GateCode Unit :=
  modify fun s => { s with that := f s.that }

/-- `if (online) *online = b` -/
def storeOnline (b : BitVec 8) : GateCode Unit :=
  modify fun s => { s with online := s.online.map fun _ => b }

/-- `if (changed) *changed = b` -/
def storeChanged (b : BitVec 8) : GateCode Unit :=
  modify fun s => { s with changed := s.changed.map fun _ => b }

section Hooks

variable (flags : PlatformFlags) (original : Original)

def Framebuffer.afterOriginal (fb : Framebuffer) : Framebuffer := { fb with gate := original.gate }

/-- The original of the hook runs on the framebuffer as it stands. -/
def callOriginal (hook : GateHook) : GateCode (BitVec 8) := do
  modify fun s => { s with invocations := s.invocations ++ [⟨hook, s.that⟩] }
  onFramebuffer (Framebuffer.afterOriginal original)
  storeOnline original.online
  storeChanged original.changed
  return original.ret

def getOnlineInfo (online changed : Option (BitVec 8)) : GateCode (Option (BitVec 8)) := do
  let _ ← callOriginal original (.getOnlineInfo online changed)
  if (← get).that.isGated flags then
    storeOnline 0
    storeChanged 0
    onFramebuffer Framebuffer.shut
  else
    -- `changed` is left as the original has it
    storeOnline 1
    onFramebuffer fun fb => (fb.setFramebufferGateState true).publish flags
  return none

/-- `enableController` and `setDisplayMode`, which only pass on different arguments. -/
def openThenCall (hook : GateHook) : GateCode (Option (BitVec 8)) := do
  if (← get).that.isGated flags then
    onFramebuffer Framebuffer.shut
    return some 0
  else
    onFramebuffer fun fb =>
      if fb.isBuiltInFramebufferObject then fb.setFramebufferGateState true else fb
    onFramebuffer (Framebuffer.publish flags)
    let ret ← callOriginal original hook
    return some ret

def enableController : GateCode (Option (BitVec 8)) :=
  openThenCall flags original .enableController

def setDisplayMode (mode depth : Int) : GateCode (Option (BitVec 8)) :=
  openThenCall flags original (.setDisplayMode mode depth)

def connectionChanged : GateCode (Option (BitVec 8)) := do
  if (← get).that.isGated flags then
    onFramebuffer Framebuffer.shut
    return some 0
  else
    let ret ← callOriginal original .connectionChanged
    onFramebuffer fun fb =>
      if ret ≠ 0 && fb.isBuiltInFramebufferObject then fb.setFramebufferGateState true else fb
    onFramebuffer (Framebuffer.publish flags)
    return some ret

def GateHook.code : GateHook → GateCode (Option (BitVec 8))
  | .getOnlineInfo online changed => NootedGreen.getOnlineInfo flags original online changed
  | .enableController => NootedGreen.enableController flags original
  | .setDisplayMode mode depth => NootedGreen.setDisplayMode flags original mode depth
  | .connectionChanged => NootedGreen.connectionChanged flags original

/-- The result of a call of the hook and the state it leaves. -/
def GateHook.call (hook : GateHook) (that : Framebuffer) : Option (BitVec 8) × GateState :=
  ((hook.code flags original).run (hook.entry that)).run

end Hooks

/-! ## Calls on many framebuffers -/

/-- A call: on which framebuffer, which hook, and what the original does if it is called. -/
structure GateCall (ι : Type) where
  that : ι
  hook : GateHook
  original : Original

section Runs

variable {ι : Type} [DecidableEq ι] (flags : PlatformFlags)

def GateCall.outcome (c : GateCall ι) (s : ι → Framebuffer) : Option (BitVec 8) × GateState :=
  c.hook.call flags c.original (s c.that)

def GateCall.exec (c : GateCall ι) (s : ι → Framebuffer) : ι → Framebuffer :=
  Function.update s c.that (c.outcome flags s).2.that

end Runs

/-! ## What the helpers leave alone -/

namespace Framebuffer

variable (fb : Framebuffer)

@[simp] theorem setProperties_index (kind phase : String) :
    (fb.setProperties kind phase).index = fb.index := by
  unfold setProperties
  split <;> rfl

@[simp] theorem setProperties_gate (kind phase : String) :
    (fb.setProperties kind phase).gate = fb.gate := by
  unfold setProperties
  split <;> rfl

@[simp] theorem setFramebufferGateState_index (connected : Bool) :
    (fb.setFramebufferGateState connected).index = fb.index := rfl

@[simp] theorem setFramebufferGateState_true_gate :
    (fb.setFramebufferGateState true).gate = 1 := rfl

@[simp] theorem shut_index : fb.shut.index = fb.index := setProperties_index _ _ _

@[simp] theorem shut_gate : fb.shut.gate = 0 := setProperties_gate _ _ _

@[simp] theorem publish_index (flags : PlatformFlags) : (fb.publish flags).index = fb.index :=
  setProperties_index _ _ _

@[simp] theorem publish_gate (flags : PlatformFlags) : (fb.publish flags).gate = fb.gate :=
  setProperties_gate _ _ _

theorem builtIn_of_index {fb : Framebuffer} (h : fb.index = 0) :
    fb.isBuiltInFramebufferObject = true :=
  beq_iff_eq.mpr h

theorem external_of_index {fb : Framebuffer} (h : fb.index ≠ 0) :
    fb.isBuiltInFramebufferObject = false :=
  beq_eq_false_iff_ne.mpr h

theorem isGated_of_external {flags : PlatformFlags} (hgate : flags.gateExternalDisplays = true)
    {fb : Framebuffer} (h : fb.index ≠ 0) : fb.isGated flags = true := by
  rw [isGated, PlatformFlags.shouldGateExternalDisplayBringup, hgate, external_of_index h]
  rfl

theorem isGated_of_builtIn {flags : PlatformFlags} {fb : Framebuffer} (h : fb.index = 0) :
    fb.isGated flags = false := by
  rw [isGated, builtIn_of_index h]
  exact Bool.and_false _

end Framebuffer

/-! ## The steps of the code -/

section Code

variable (flags : PlatformFlags) (original : Original)

@[simp] theorem Framebuffer.isGated_afterOriginal (fb : Framebuffer) :
    (fb.afterOriginal original).isGated flags = fb.isGated flags := rfl

@[simp] theorem Framebuffer.afterOriginal_index (fb : Framebuffer) :
    (fb.afterOriginal original).index = fb.index := rfl

@[simp] theorem Framebuffer.afterOriginal_gate (fb : Framebuffer) :
    (fb.afterOriginal original).gate = original.gate := rfl

@[simp] theorem run_onFramebuffer (f : Framebuffer → Framebuffer) (s : GateState) :
    (onFramebuffer f).run s = pure ((), { s with that := f s.that }) := rfl

@[simp] theorem run_storeOnline (b : BitVec 8) (s : GateState) :
    (storeOnline b).run s = pure ((), { s with online := s.online.map fun _ => b }) := rfl

@[simp] theorem run_storeChanged (b : BitVec 8) (s : GateState) :
    (storeChanged b).run s = pure ((), { s with changed := s.changed.map fun _ => b }) := rfl

@[simp] theorem run_callOriginal (hook : GateHook) (s : GateState) :
    (callOriginal original hook).run s =
      pure (original.ret,
        { that := s.that.afterOriginal original
          online := s.online.map fun _ => original.online
          changed := s.changed.map fun _ => original.changed
          invocations := s.invocations ++ [⟨hook, s.that⟩] }) := rfl

end Code

/-! ## One call -/

/-- The hook opens the gate after its original: `getOnlineInfo` always, `connectionChanged`
where the original succeeds. -/
def GateHook.Opens (original : Original) : GateHook → Prop
  | .getOnlineInfo _ _ => True
  | .connectionChanged => original.ret ≠ 0
  | .enableController | .setDisplayMode _ _ => False

def GateHook.isGetOnlineInfo : GateHook → Bool
  | .getOnlineInfo _ _ => true
  | .enableController | .setDisplayMode _ _ | .connectionChanged => false

/-- The built-in framebuffer as the original is to find it: opened first by
`enableController` and `setDisplayMode`, as it was by the others. -/
def GateHook.finds (flags : PlatformFlags) (fb : Framebuffer) : GateHook → Framebuffer
  | .getOnlineInfo _ _ | .connectionChanged => fb
  | .enableController | .setDisplayMode _ _ => (fb.setFramebufferGateState true).publish flags

/-- What a hook returns of the original's result. -/
def GateHook.returns (original : Original) : GateHook → Option (BitVec 8)
  | .getOnlineInfo _ _ => none
  | .enableController | .setDisplayMode _ _ | .connectionChanged => some original.ret

/-- An external framebuffer after a call: shut, reported offline, and no original called
but that of `getOnlineInfo`. -/
structure StaysShut (hook : GateHook) (o : Option (BitVec 8) × GateState) : Prop where
  gate : o.2.that.gate = 0
  online : ∀ b ∈ o.2.online, b = 0
  changed : ∀ b ∈ o.2.changed, b = 0
  invocations : hook.isGetOnlineInfo = false → o.2.invocations = []

/-- The built-in framebuffer `fb` after a call: the original of the hook was called, once, its
result is returned, and the gate is open where the hook opens it last and as the original
left it elsewhere. -/
structure PassesThrough (flags : PlatformFlags) (hook : GateHook) (original : Original)
    (fb : Framebuffer) (o : Option (BitVec 8) × GateState) : Prop where
  once : o.2.invocations = [⟨hook, hook.finds flags fb⟩]
  ret : o.1 = hook.returns original
  gate : hook.Opens original → o.2.that.gate = 1
  left : ¬ hook.Opens original → o.2.that.gate = original.gate

section Call

variable {flags : PlatformFlags} {fb : Framebuffer} (hook : GateHook) (original : Original)

theorem call_index : (hook.call flags original fb).2.that.index = fb.index := by
  cases hook with
  | getOnlineInfo online changed =>
      cases hgated : fb.isGated flags <;>
        simp [GateHook.call, GateHook.code, GateHook.entry, getOnlineInfo, hgated]
  | enableController | setDisplayMode mode depth =>
      cases hgated : fb.isGated flags
      · simp [GateHook.call, GateHook.code, GateHook.entry, enableController, setDisplayMode,
          openThenCall, hgated, apply_ite Framebuffer.index]
      · simp [GateHook.call, GateHook.code, GateHook.entry, enableController, setDisplayMode,
          openThenCall, hgated]
  | connectionChanged =>
      cases hgated : fb.isGated flags
      · simp [GateHook.call, GateHook.code, GateHook.entry, connectionChanged, hgated,
          apply_ite Framebuffer.index]
      · simp [GateHook.call, GateHook.code, GateHook.entry, connectionChanged, hgated]

/-- A gated framebuffer is shut, whatever the original does where it is called. -/
theorem call_gated (hgated : fb.isGated flags = true) :
    StaysShut hook (hook.call flags original fb) := by
  cases hook with
  | getOnlineInfo online changed =>
      simp only [GateHook.call, GateHook.code, GateHook.entry, getOnlineInfo]
      constructor <;> simp [hgated, GateHook.isGetOnlineInfo]
  | enableController | setDisplayMode mode depth =>
      simp only [GateHook.call, GateHook.code, GateHook.entry, enableController, setDisplayMode,
        openThenCall]
      constructor <;> simp [hgated]
  | connectionChanged =>
      simp only [GateHook.call, GateHook.code, GateHook.entry, connectionChanged]
      constructor <;> simp [hgated]

theorem call_builtIn (hindex : fb.index = 0) :
    PassesThrough flags hook original fb (hook.call flags original fb) := by
  have hgated : fb.isGated flags = false := Framebuffer.isGated_of_builtIn hindex
  have hbuiltIn : fb.isBuiltInFramebufferObject = true := Framebuffer.builtIn_of_index hindex
  have hafter : (fb.afterOriginal original).isBuiltInFramebufferObject = true :=
    Framebuffer.builtIn_of_index hindex
  cases hook with
  | getOnlineInfo online changed =>
      simp only [GateHook.call, GateHook.code, GateHook.entry, getOnlineInfo]
      constructor <;> simp [hgated, GateHook.finds, GateHook.returns, GateHook.Opens]
  | enableController | setDisplayMode mode depth =>
      simp only [GateHook.call, GateHook.code, GateHook.entry, enableController, setDisplayMode,
        openThenCall]
      constructor <;> simp [hgated, hbuiltIn, GateHook.finds, GateHook.returns, GateHook.Opens]
  | connectionChanged =>
      simp only [GateHook.call, GateHook.code, GateHook.entry, connectionChanged]
      constructor <;> simp +contextual [hgated, hafter, GateHook.finds, GateHook.returns,
        GateHook.Opens]

end Call

/-! ## Every sequence of calls -/

/-- A call on `s` keeps the gate: the framebuffer it is on as its index calls for, and no
other framebuffer changes at all. -/
structure GateKept {ι : Type} [DecidableEq ι] (flags : PlatformFlags) (c : GateCall ι)
    (s : ι → Framebuffer) : Prop where
  external : (s c.that).index ≠ 0 → StaysShut c.hook (c.outcome flags s)
  builtIn : (s c.that).index = 0 →
    PassesThrough flags c.hook c.original (s c.that) (c.outcome flags s)
  stored : c.exec flags s c.that = (c.outcome flags s).2.that
  others : ∀ fb, fb ≠ c.that → c.exec flags s fb = s fb

section Sequences

variable {ι : Type} [DecidableEq ι] {flags : PlatformFlags}

theorem exec_index (c : GateCall ι) (s : ι → Framebuffer) (fb : ι) :
    (c.exec flags s fb).index = (s fb).index := by
  rw [GateCall.exec, Function.update_apply]
  split
  · rename_i h
    rw [h]
    exact call_index c.hook c.original
  · rfl

variable (hgate : flags.gateExternalDisplays = true)

include hgate

theorem gateKept (c : GateCall ι) (s : ι → Framebuffer) : GateKept flags c s where
  external := fun h => call_gated c.hook c.original (Framebuffer.isGated_of_external hgate h)
  builtIn := call_builtIn c.hook c.original
  stored := Function.update_self _ _ _
  others := fun _ hne => Function.update_of_ne hne _ _

/-- Once shut, an external framebuffer is shut for good. -/
theorem exec_shut {c : GateCall ι} {s : ι → Framebuffer} {fb : ι} (hindex : (s fb).index ≠ 0)
    (h : (s fb).gate = 0 ∨ c.that = fb) : (c.exec flags s fb).gate = 0 := by
  have hkept := gateKept hgate c s
  by_cases hthat : fb = c.that
  · subst hthat
    rw [hkept.stored]
    exact (hkept.external hindex).gate
  · rw [hkept.others fb hthat]
    rcases h with h | h
    · exact h
    · exact absurd h.symm hthat

theorem run_shut {calls : List (GateCall ι)} {s : ι → Framebuffer} {fb : ι}
    (hindex : (s fb).index ≠ 0) (h : (s fb).gate = 0 ∨ ∃ c ∈ calls, c.that = fb) :
    (Runs.run (GateCall.exec flags) calls s fb).gate = 0 := by
  induction calls generalizing s with
  | nil =>
      rcases h with h | ⟨c, hc, _⟩
      · exact h
      · exact absurd hc List.not_mem_nil
  | cons c calls ih =>
      refine ih ((exec_index c s fb).trans_ne hindex) ?_
      rcases h with h | ⟨d, hd, hthat⟩
      · exact .inl (exec_shut hgate hindex (.inl h))
      · rcases List.mem_cons.mp hd with rfl | hd
        · exact .inl (exec_shut hgate hindex (.inr hthat))
        · exact .inr ⟨d, hd, hthat⟩

/-- While the gate is on, from any framebuffers and over any sequence of hook calls: the
indices stay, the next call keeps the gate whatever its original does, and an external
framebuffer that some call has been made on is shut at the end. -/
theorem external_gate_respected (s : ι → Framebuffer) (calls : List (GateCall ι)) :
    (∀ t ∈ Runs.states (GateCall.exec flags) calls s,
      (∀ fb, (t fb).index = (s fb).index) ∧ ∀ c : GateCall ι, GateKept flags c t) ∧
    ∀ fb, (s fb).index ≠ 0 → (∃ c ∈ calls, c.that = fb) →
      (Runs.run (GateCall.exec flags) calls s fb).gate = 0 := by
  constructor
  · intro t ht
    refine ⟨?_, fun c => gateKept hgate c t⟩
    refine Runs.states_of_inv (P := fun t => ∀ fb, (t fb).index = (s fb).index) ?_ calls s
      (fun _ => rfl) t ht
    intro c u hu fb
    exact (exec_index c u fb).trans (hu fb)
  · intro fb hindex hcall
    exact run_shut hgate hindex (.inr hcall)

end Sequences

/-- An external framebuffer, `true`, beside the built-in one. -/
def twoFramebuffers : Bool → Framebuffer
  | false => ⟨0, 0, true, none, none⟩
  | true => ⟨1, 1, true, none, none⟩

/-- Calls of all four hooks on both of them; the originals report the display online and set
the gate byte against the hooks. -/
def bringup : List (GateCall Bool) :=
  [⟨true, .getOnlineInfo (some 1) (some 1), ⟨1, 1, 1, 1⟩⟩, ⟨false, .enableController, ⟨0, 1, 1, 1⟩⟩,
    ⟨true, .enableController, ⟨1, 1, 1, 1⟩⟩, ⟨false, .connectionChanged, ⟨0, 1, 1, 1⟩⟩,
    ⟨true, .setDisplayMode 1 2, ⟨1, 1, 1, 1⟩⟩, ⟨false, .getOnlineInfo (some 0) none, ⟨0, 0, 0, 0⟩⟩,
    ⟨true, .connectionChanged, ⟨1, 1, 1, 1⟩⟩]

theorem external_gate_respected_bringup :
    (∀ t ∈ Runs.states (GateCall.exec ⟨0x8C, false, true, true, true⟩) bringup twoFramebuffers,
      ∀ c ∈ bringup, GateKept ⟨0x8C, false, true, true, true⟩ c t) ∧
    (Runs.run (GateCall.exec ⟨0x8C, false, true, true, true⟩) bringup twoFramebuffers true).gate =
      0 := by
  obtain ⟨hstates, hend⟩ :=
    @external_gate_respected Bool _ ⟨0x8C, false, true, true, true⟩ rfl twoFramebuffers bringup
  refine ⟨fun t ht c _ => (hstates t ht).2 c, hend true (by decide) ?_⟩
  exact ⟨_, List.mem_cons_self, rfl⟩

end NootedGreen

/-
# `Engine.Timers` — the health monitor and the EMR enforcer

`start` arms one thread call for the EMR enforcer, and one for the health monitor
when the experimental monitor is enabled.  Each handler arms a new call for itself:

    enforcer   always                                      ("re-arm FOREVER")
    monitor    while `v60Count`, a static of the function,
               is below 60 and the registers are mapped    ("60 iterations x 2s")

A run is any sequence of `start` calls, firings of pending calls in any order, and
changes of the register window by others.

The counter of the monitor is shared by all its chains of timers and the last
iteration of one chain leaves the others pending.  So with two `start` calls there is
a 61st firing, and it terminates the display-pipe clients that the default delay of
60 is there to keep (`displayPipe_spared_iff`).  No call is ever freed, and every
`start` adds a chain that never ends (`enforcer_bounded_iff`).

**What is left out.**  What the monitor reads, logs and repairs in the registers, which
is nothing to its counter; `outside` stands for it and for every other writer.
Allocations succeed, and `v60Count` does not overflow.
-/
import NootedGreen.Lib.CString
import NootedGreen.Lib.ThreadCall
import NootedGreen.Lib.Updates
import NootedGreen.Mmio.PlaneArming
import NootedGreen.Platform.Detection

namespace NootedGreen

open Mmio

/-! ## State -/

structure TimerBootArgs where
  /-- `ngreenexp` -/
  experimental : BootFlag
  /-- `ngreenV77DelayKill`, an `int` -/
  v77DelayKill : Option Int
  deriving DecidableEq, Repr

/-- The argument within 0..60; without it 60, "do not kill DisplayPipe clients unless
explicitly requested". -/
def getV77KillDelayIterations (boot : TimerBootArgs) : Int :=
  match boot.v77DelayKill with
  | some delay => if delay < 0 then 0 else if delay > 60 then 60 else delay
  | none => 60

/-- An object of `getClientIterator`: whether it is an `IOService`, and its class. -/
structure Client where
  isService : Bool
  className : Option String
  deriving DecidableEq, Repr

def Client.isDisplayPipe (c : Client) : Bool :=
  c.isService &&
    match c.className with
    | some dpCn => strstr dpCn "DisplayPipe"
    | none => false

/-- The accelerator a call was allocated for. -/
abbrev Service := Nat

structure TimerState where
  mmio : Mmio
  v60Count : Nat
  monitor : List (ThreadCall Service)
  enforcer : List (ThreadCall Service)
  /-- The clients terminated so far. -/
  terminated : List Client

/-- Before the first `start`. -/
def TimerState.initial (mmio : Mmio) : TimerState := ⟨mmio, 0, [], [], []⟩

inductive TimerEvent where
  /-- `start` of an accelerator. -/
  | start (that : Service)
  /-- Call `i` of the monitor fires; `clients` is what the iterator goes through, `none`
  when there is no iterator. -/
  | monitor (i : Nat) (clients : Option (List Client))
  /-- Call `i` of the enforcer fires. -/
  | enforcer (i : Nat)
  /-- Somebody else changes the window. -/
  | outside (mmio : Mmio)

/-! ## The functions -/

/-- The timers `start` arms. -/
def startTimers (boot : TimerBootArgs) (that : Service) (s : TimerState) : TimerState :=
  let s := { s with enforcer := ThreadCall.arm that s.enforcer }
  if boot.experimental.enabled then { s with monitor := ThreadCall.arm that s.monitor } else s

/-- The clients an iteration terminates, V77 and V78. -/
def v77Victims (boot : TimerBootArgs) (v60Count : Nat) (clients : Option (List Client)) :
    List Client :=
  let v77KillDelay := getV77KillDelayIterations boot
  if 0 < v77KillDelay ∧ (v60Count : Int) ≤ v77KillDelay then []
  else
    match clients with
    | some clients => clients.filter Client.isDisplayPipe
    | none => []

def v60GpuHealthMonitor (boot : TimerBootArgs) (param0 : Service) (clients : Option (List Client))
    (s : TimerState) : TimerState :=
  let s := { s with v60Count := s.v60Count + 1 }
  -- the counter has counted this firing already when the mapping is gone
  if !s.mmio.mmioValid then s
  else
    let s := { s with terminated := s.terminated ++ v77Victims boot s.v60Count clients }
    if s.v60Count < 60 then { s with monitor := ThreadCall.arm param0 s.monitor } else s

/-- What the enforcer does to the registers: mask both engines' errors, clear the error. -/
def enforceMasks (s : Mmio) : Mmio :=
  let (emrRcs, s) := readReg32 0x20b4 s
  let (emrBcs, s) := readReg32 0x220b4 s
  let s := if emrRcs ≠ 0xFFFFFFFF then writeReg32 0x20b4 0xFFFFFFFF s else s
  let s := if emrBcs ≠ 0xFFFFFFFF then writeReg32 0x220b4 0xFFFFFFFF s else s
  let (err, s) := readReg32 0x40A0 s
  if err ≠ 0 then writeReg32 0x40A0 0 s else s

def v71EmrEnforcer (param0 : Service) (s : TimerState) : TimerState :=
  { s with mmio := enforceMasks s.mmio, enforcer := ThreadCall.arm param0 s.enforcer }

/-- One event.  A call that is not pending does not fire. -/
def TimerEvent.exec (boot : TimerBootArgs) : TimerEvent → TimerState → TimerState
  | .start that, s => startTimers boot that s
  | .monitor i clients, s =>
      match ThreadCall.due i s.monitor with
      | some param0 =>
          v60GpuHealthMonitor boot param0 clients
            { s with monitor := ThreadCall.finish i s.monitor }
      | none => s
  | .enforcer i, s =>
      match ThreadCall.due i s.enforcer with
      | some param0 =>
          v71EmrEnforcer param0 { s with enforcer := ThreadCall.finish i s.enforcer }
      | none => s
  | .outside mmio, s => { s with mmio := mmio }

/-- Whether a firing fires: each consumes a pending call. -/
def TimerEvent.Fires : TimerEvent → TimerState → Prop
  | .start _, _ | .outside _, _ => True
  | .monitor i _, s => (ThreadCall.due i s.monitor).isSome
  | .enforcer i, s => (ThreadCall.due i s.enforcer).isSome

/-! ## What a firing of the monitor does -/

section Firing

variable (boot : TimerBootArgs) {i : Nat} {param0 : Service} {s : TimerState}
  (hdue : ThreadCall.due i s.monitor = some param0) (clients : Option (List Client))

include hdue

theorem exec_monitor_unmapped (hlive : s.mmio.mmioValid = false) :
    (TimerEvent.monitor i clients).exec boot s =
      { s with
        v60Count := s.v60Count + 1
        monitor := ThreadCall.finish i s.monitor } := by
  simp only [TimerEvent.exec, hdue, v60GpuHealthMonitor, hlive, Bool.not_false, if_true]

theorem exec_monitor_mapped (hlive : s.mmio.mmioValid = true) :
    (TimerEvent.monitor i clients).exec boot s =
      { s with
        v60Count := s.v60Count + 1
        terminated := s.terminated ++ v77Victims boot (s.v60Count + 1) clients
        monitor := if s.v60Count + 1 < 60 then
          ThreadCall.arm param0 (ThreadCall.finish i s.monitor)
          else ThreadCall.finish i s.monitor } := by
  simp only [TimerEvent.exec, hdue, v60GpuHealthMonitor, hlive, Bool.not_true,
    Bool.false_eq_true, if_false]
  split <;> rfl

end Firing

/-! ## The monitor and the display pipes -/

/-- A firing of the monitor is one of the first sixty, or finds the mapping gone or no
display-pipe client. -/
def TimerEvent.Spares : TimerEvent → TimerState → Prop
  | .monitor i clients, s => (ThreadCall.due i s.monitor).isSome → s.mmio.mmioValid = true →
      s.v60Count < 60 ∨ ∀ c ∈ clients.getD [], c.isDisplayPipe = false
  | .start _, _ | .enforcer _, _ | .outside _, _ => True

section Monitor

variable (experimental : BootFlag)

/-- No `ngreenV77DelayKill`. -/
def defaultDelay : TimerBootArgs := ⟨experimental, none⟩

theorem v77Victims_eq_nil_iff (v60Count : Nat) (clients : Option (List Client)) :
    v77Victims (defaultDelay experimental) v60Count clients = [] ↔
      v60Count ≤ 60 ∨ ∀ c ∈ clients.getD [], c.isDisplayPipe = false := by
  show (if 0 < (60 : Int) ∧ (v60Count : Int) ≤ 60 then [] else _) = [] ↔ _
  by_cases hcount : v60Count ≤ 60
  · rw [if_pos (by omega)]
    exact ⟨fun _ => .inl hcount, fun _ => rfl⟩
  · rw [if_neg (by omega)]
    cases clients with
    | none => exact ⟨fun _ => .inr fun c hc => absurd hc List.not_mem_nil, fun _ => rfl⟩
    | some clients =>
        show clients.filter _ = [] ↔ v60Count ≤ 60 ∨ ∀ c ∈ clients, c.isDisplayPipe = false
        rw [List.filter_eq_nil_iff]
        constructor
        · intro h
          exact .inr fun c hc => eq_false_of_ne_true (h c hc)
        · intro h c hc htrue
          rcases h with h | h
          · exact hcount h
          · exact Bool.false_ne_true ((h c hc).symm.trans htrue)

theorem exec_terminated_iff (e : TimerEvent) (s : TimerState) (hs : s.terminated = []) :
    (e.exec (defaultDelay experimental) s).terminated = [] ↔ e.Spares s := by
  cases e with
  | start that =>
      refine ⟨fun _ => trivial, fun _ => ?_⟩
      show (startTimers _ that s).terminated = []
      unfold startTimers
      split <;> exact hs
  | enforcer i =>
      refine ⟨fun _ => trivial, fun _ => ?_⟩
      show (match ThreadCall.due i s.enforcer with | some _ => _ | none => s).terminated = []
      split <;> exact hs
  | outside mmio => exact ⟨fun _ => trivial, fun _ => hs⟩
  | monitor i clients =>
      cases hdue : ThreadCall.due i s.monitor with
      | none =>
          have hexec : (TimerEvent.monitor i clients).exec (defaultDelay experimental) s = s := by
            simp only [TimerEvent.exec, hdue]
          rw [hexec]
          refine ⟨fun _ hsome => ?_, fun _ => hs⟩
          rw [hdue] at hsome
          exact absurd hsome Bool.false_ne_true
      | some param0 =>
          have hfires : (ThreadCall.due i s.monitor).isSome = true := by rw [hdue]; rfl
          cases hlive : s.mmio.mmioValid with
          | false =>
              rw [exec_monitor_unmapped _ hdue clients hlive]
              refine ⟨fun _ _ hvalid => ?_, fun _ => hs⟩
              exact absurd (hlive.symm.trans hvalid) Bool.false_ne_true
          | true =>
              rw [exec_monitor_mapped _ hdue clients hlive]
              show s.terminated ++ v77Victims _ _ _ = [] ↔ _
              rw [hs, List.nil_append, v77Victims_eq_nil_iff]
              exact ⟨fun h _ _ => h, fun h => h hfires hlive⟩

/-- Without `ngreenV77DelayKill`, over every sequence of starts and firings: no display-pipe
client is terminated exactly when no firing after the sixtieth finds one. -/
theorem displayPipe_spared_iff (mmio : Mmio) (events : List TimerEvent) :
    (∀ t ∈ Runs.states (TimerEvent.exec (defaultDelay experimental)) events (.initial mmio),
        t.terminated = []) ↔
      Runs.Guarded (TimerEvent.exec (defaultDelay experimental)) TimerEvent.Spares events
        (.initial mmio) :=
  Runs.states_iff_guarded (exec_terminated_iff experimental) events (.initial mmio) rfl

/-- Two starts, and every call of the monitor in the order of its allocation. -/
def twoChains : List TimerEvent :=
  [.start 0, .start 0] ++
    (List.range 61).map fun i =>
      .monitor i (some [⟨true, some "IOAccelDisplayPipeUserClient2"⟩])

theorem twoChains_terminates :
    ¬ ∀ t ∈ Runs.states (TimerEvent.exec (defaultDelay ⟨none, true⟩)) twoChains
        (.initial (zeroWindow 0x1000000)), t.terminated = [] := by
  intro h
  have hlast := h _ (Runs.run_mem_states _ twoChains _)
  exact absurd hlast (by decide +kernel)

end Monitor

/-! ## One chain is safe -/

def TimerEvent.isStart : TimerEvent → Bool
  | .start _ => true
  | .monitor _ _ | .enforcer _ | .outside _ => false

def TimerEvent.isEnforcer : TimerEvent → Bool
  | .enforcer _ => true
  | .start _ | .monitor _ _ | .outside _ => false

/-- How many of the events are `start` calls, and how many firings of the enforcer. -/
def starts (events : List TimerEvent) : Nat := events.countP TimerEvent.isStart

def enforcerFirings (events : List TimerEvent) : Nat := events.countP TimerEvent.isEnforcer

/-- The monitor's chain, running or still to be started, has iterations left. -/
structure OneChain (s : TimerState) (remaining : Nat) : Prop where
  one : ThreadCall.pendingCount s.monitor + remaining ≤ 1
  room : ThreadCall.pendingCount s.monitor + remaining = 1 → s.v60Count < 60

theorem OneChain.start {s : TimerState} {n : Nat} (h : OneChain s (n + 1)) (boot : TimerBootArgs)
    (that : Service) : OneChain (startTimers boot that s) n := by
  obtain ⟨hone, hroom⟩ := h
  unfold startTimers
  cases boot.experimental.enabled with
  | false => exact ⟨by simp; omega, fun h => by simp at h; omega⟩
  | true => exact ⟨by simp; omega, fun h => hroom (by simp at h; omega)⟩

/-- An iteration that arms no further one ends the chain. -/
theorem OneChain.finished {s s' : TimerState} {n i : Nat} {param0 : Service} (h : OneChain s n)
    (hdue : ThreadCall.due i s.monitor = some param0)
    (hmonitor : s'.monitor = ThreadCall.finish i s.monitor) : OneChain s' n := by
  have hone := h.one
  have hpending := ThreadCall.pendingCount_finish hdue
  constructor
  · rw [hmonitor]
    omega
  · intro hleft
    rw [hmonitor] at hleft
    omega

/-- The iteration that fires is one of the first sixty, and the next one is if there is one. -/
theorem OneChain.monitor {s : TimerState} {n : Nat} (h : OneChain s n) (boot : TimerBootArgs)
    {i : Nat} {param0 : Service} (hdue : ThreadCall.due i s.monitor = some param0)
    (clients : Option (List Client)) :
    s.v60Count < 60 ∧ OneChain ((TimerEvent.monitor i clients).exec boot s) n := by
  have hone := h.one
  have hpending := ThreadCall.pendingCount_finish hdue
  have hcount : s.v60Count < 60 := h.room (by omega)
  refine ⟨hcount, ?_⟩
  cases hlive : s.mmio.mmioValid with
  | false =>
      rw [exec_monitor_unmapped boot hdue clients hlive]
      exact h.finished hdue rfl
  | true =>
      rw [exec_monitor_mapped boot hdue clients hlive]
      by_cases hmore : s.v60Count + 1 < 60
      · rw [if_pos hmore]
        constructor
        · show ThreadCall.pendingCount (ThreadCall.arm param0 (ThreadCall.finish i s.monitor)) +
            n ≤ 1
          rw [ThreadCall.pendingCount_arm]
          omega
        · exact fun _ => hmore
      · rw [if_neg hmore]
        exact h.finished hdue rfl

theorem OneChain.spares (boot : TimerBootArgs) {events : List TimerEvent} {s : TimerState}
    (h : OneChain s (starts events)) :
    Runs.Guarded (TimerEvent.exec boot) TimerEvent.Spares events s := by
  induction events generalizing s with
  | nil => exact trivial
  | cons e events ih =>
      cases e with
      | start that =>
          rw [starts, List.countP_cons_of_pos rfl] at h
          exact ⟨trivial, ih (h.start boot that)⟩
      | enforcer i =>
          rw [starts, List.countP_cons_of_neg Bool.false_ne_true] at h
          refine ⟨trivial, ih ?_⟩
          simp only [TimerEvent.exec]
          cases ThreadCall.due i s.enforcer with
          | none => exact h
          | some param0 => exact ⟨h.one, h.room⟩
      | outside mmio =>
          rw [starts, List.countP_cons_of_neg Bool.false_ne_true] at h
          exact ⟨trivial, ih ⟨h.one, h.room⟩⟩
      | monitor i clients =>
          rw [starts, List.countP_cons_of_neg Bool.false_ne_true] at h
          cases hdue : ThreadCall.due i s.monitor with
          | none =>
              refine ⟨fun hfires => absurd hfires (by rw [hdue]; exact Bool.false_ne_true), ih ?_⟩
              simp only [TimerEvent.exec, hdue]
              exact h
          | some param0 =>
              obtain ⟨hcount, hnext⟩ := h.monitor boot hdue clients
              exact ⟨fun _ _ => .inl hcount, ih hnext⟩

/-- A single `start` is all the counter was made for. -/
theorem displayPipe_spared_of_one_start (experimental : BootFlag) (mmio : Mmio)
    {events : List TimerEvent} (hone : starts events ≤ 1) :
    ∀ t ∈ Runs.states (TimerEvent.exec (defaultDelay experimental)) events (.initial mmio),
      t.terminated = [] := by
  have hchain : OneChain (.initial mmio) (starts events) :=
    ⟨(Nat.zero_add _).trans_le hone, fun _ => Nat.succ_pos 59⟩
  exact Runs.states_of_guarded (fun e s hs hg => (exec_terminated_iff experimental e s hs).mpr hg)
    events (.initial mmio) rfl (hchain.spares _)

/-! ## The enforcer and its calls -/

section Enforcer

variable (boot : TimerBootArgs)

/-- Every event leaves as many pending as before, and one object more for each `start` and
each firing. -/
theorem exec_enforcer (e : TimerEvent) (s : TimerState) (h : e.Fires s) :
    ThreadCall.pendingCount (e.exec boot s).enforcer =
        ThreadCall.pendingCount s.enforcer + starts [e] ∧
      (e.exec boot s).enforcer.length = s.enforcer.length + starts [e] + enforcerFirings [e] := by
  cases e with
  | start that =>
      have hexec : ((TimerEvent.start that).exec boot s).enforcer =
          ThreadCall.arm that s.enforcer := by
        show (startTimers boot that s).enforcer = _
        unfold startTimers
        split <;> rfl
      rw [hexec]
      exact ⟨ThreadCall.pendingCount_arm _ _, ThreadCall.length_arm _ _⟩
  | monitor i clients =>
      have hexec : ((TimerEvent.monitor i clients).exec boot s).enforcer = s.enforcer := by
        obtain ⟨param0, hdue⟩ := Option.isSome_iff_exists.mp h
        cases hlive : s.mmio.mmioValid with
        | false => rw [exec_monitor_unmapped boot hdue clients hlive]
        | true => rw [exec_monitor_mapped boot hdue clients hlive]
      rw [hexec]
      exact ⟨rfl, rfl⟩
  | enforcer i =>
      obtain ⟨param0, hdue⟩ := Option.isSome_iff_exists.mp h
      have hexec : ((TimerEvent.enforcer i).exec boot s).enforcer =
          ThreadCall.arm param0 (ThreadCall.finish i s.enforcer) := by
        simp only [TimerEvent.exec, hdue]
        rfl
      rw [hexec, ThreadCall.pendingCount_arm, ThreadCall.pendingCount_finish hdue,
        ThreadCall.length_arm, ThreadCall.length_finish]
      exact ⟨rfl, rfl⟩
  | outside mmio => exact ⟨rfl, rfl⟩

theorem starts_cons (e : TimerEvent) (events : List TimerEvent) :
    starts (e :: events) = starts [e] + starts events := by
  show List.countP _ ([e] ++ events) = _
  exact List.countP_append

theorem enforcerFirings_cons (e : TimerEvent) (events : List TimerEvent) :
    enforcerFirings (e :: events) = enforcerFirings [e] + enforcerFirings events := by
  show List.countP _ ([e] ++ events) = _
  exact List.countP_append

/-- After a run there is one pending call for every `start`, and one object for every
`start` and every firing. -/
theorem run_enforcer {events : List TimerEvent} {s : TimerState}
    (h : Runs.Guarded (TimerEvent.exec boot) TimerEvent.Fires events s) :
    let t := Runs.run (TimerEvent.exec boot) events s
    ThreadCall.pendingCount t.enforcer = ThreadCall.pendingCount s.enforcer + starts events ∧
      t.enforcer.length = s.enforcer.length + starts events + enforcerFirings events := by
  induction events generalizing s with
  | nil => exact ⟨rfl, rfl⟩
  | cons e events ih =>
      obtain ⟨he, hevents⟩ := h
      obtain ⟨hpending, hlength⟩ := exec_enforcer boot e s he
      obtain ⟨ihpending, ihlength⟩ := ih hevents
      rw [starts_cons, enforcerFirings_cons]
      constructor
      · rw [← Nat.add_assoc, ← hpending]
        exact ihpending
      · calc _ = (e.exec boot s).enforcer.length + starts events + enforcerFirings events :=
            ihlength
          _ = _ := by
            rw [hlength]
            omega

/-- Over every run whose firings consume pending calls: never more than one enforcer call
pending and two objects allocated, exactly when there is at most one `start` and, after it,
at most one firing. -/
theorem enforcer_bounded_iff (mmio : Mmio) (events : List TimerEvent)
    (h : Runs.Guarded (TimerEvent.exec boot) TimerEvent.Fires events (.initial mmio)) :
    (∀ t ∈ Runs.states (TimerEvent.exec boot) events (.initial mmio),
        ThreadCall.pendingCount t.enforcer ≤ 1 ∧ t.enforcer.length ≤ 2) ↔
      starts events ≤ 1 ∧ starts events + enforcerFirings events ≤ 2 := by
  have hrun : ∀ js, js <+: events →
      ThreadCall.pendingCount (Runs.run (TimerEvent.exec boot) js (.initial mmio)).enforcer =
          starts js ∧
        (Runs.run (TimerEvent.exec boot) js (.initial mmio)).enforcer.length =
          starts js + enforcerFirings js := by
    intro js hjs
    obtain ⟨hpending, hlength⟩ := run_enforcer boot (h.of_prefix hjs)
    exact ⟨hpending.trans (Nat.zero_add _), hlength.trans (congrArg (· + _) (Nat.zero_add _))⟩
  constructor
  · intro hall
    obtain ⟨hpending, hlength⟩ := hrun events (List.prefix_refl _)
    obtain ⟨hone, htwo⟩ := hall _ (Runs.run_mem_states _ events _)
    exact ⟨hpending ▸ hone, hlength ▸ htwo⟩
  · rintro ⟨hone, htwo⟩ t ht
    obtain ⟨js, hjs, rfl⟩ := (Runs.mem_states_iff _ events _).mp ht
    obtain ⟨hpending, hlength⟩ := hrun js hjs
    have hstarts : starts js ≤ starts events := hjs.sublist.countP_le
    have hfirings : enforcerFirings js ≤ enforcerFirings events := hjs.sublist.countP_le
    rw [hpending, hlength]
    exact ⟨hstarts.trans hone, (Nat.add_le_add hstarts hfirings).trans htwo⟩

theorem enforcer_bounded_first_firing :
    let t := Runs.run (TimerEvent.exec (defaultDelay ⟨none, false⟩)) [.start 0, .enforcer 0]
      (.initial (zeroWindow 0x1000000))
    ThreadCall.pendingCount t.enforcer ≤ 1 ∧ t.enforcer.length ≤ 2 :=
  (enforcer_bounded_iff (defaultDelay ⟨none, false⟩) (zeroWindow 0x1000000) [.start 0, .enforcer 0]
    ⟨trivial, rfl, trivial⟩).mpr (by decide) _ (Runs.run_mem_states _ _ _)

/-- The second firing leaves three objects allocated. -/
theorem enforcer_not_freed :
    Runs.Guarded (TimerEvent.exec (defaultDelay ⟨none, false⟩)) TimerEvent.Fires
        [.start 0, .enforcer 0, .enforcer 1] (.initial (zeroWindow 0x1000000)) ∧
    ¬ ∀ t ∈ Runs.states (TimerEvent.exec (defaultDelay ⟨none, false⟩))
        [.start 0, .enforcer 0, .enforcer 1] (.initial (zeroWindow 0x1000000)),
      ThreadCall.pendingCount t.enforcer ≤ 1 ∧ t.enforcer.length ≤ 2 := by
  refine ⟨⟨trivial, rfl, rfl, trivial⟩, fun h => ?_⟩
  have hlast := h _ (Runs.run_mem_states _ _ _)
  exact absurd hlast.2 (by decide)

end Enforcer

/-! ## What a firing of the enforcer leaves in the registers -/

/-- Writing a value unless it is there already. -/
theorem write_unless_update {s : Mmio} {reg : BitVec 64} (hal : reg.toNat % 4 = 0)
    (hmap : s.Mapped reg) {old val : BitVec 32} (hplain : looksLikePlaneSurf reg = false)
    (hold : old = s.rmmioPtr.load32 reg.toNat) :
    (if old ≠ val then writeReg32 reg val s else s).rmmioPtr =
      s.rmmioPtr.update ⟨reg.toNat, fun _ => val⟩ := by
  by_cases hval : old = val
  · rw [if_neg (not_not_intro hval)]
    exact (ByteMem.update_eq_self (hval.symm.trans hold)).symm
  · rw [if_pos hval]
    exact writeReg32_stores hal hmap (.inr (.inl hplain))

theorem write_unless_rmmio (s : Mmio) (reg : BitVec 64) (old val : BitVec 32) :
    (if old ≠ val then writeReg32 reg val s else s).rmmio = s.rmmio := by
  split
  · exact writeReg32_rmmio reg val s
  · rfl

/-- The words an enforcer firing sets. -/
def enforcedWords : List WordUpdate :=
  [⟨0x20b4, fun _ => 0xFFFFFFFF⟩, ⟨0x220b4, fun _ => 0xFFFFFFFF⟩, ⟨0x40A0, fun _ => 0⟩]

theorem enforceMasks_update {s : Mmio} {length : BitVec 64} (hlen : s.rmmio = some length)
    (hcover : 0x220b8 ≤ length.toNat) :
    (enforceMasks s).rmmioPtr = ByteMem.updateAll enforcedWords s.rmmioPtr := by
  have hmapped : ∀ {t : Mmio}, t.rmmio = s.rmmio → ∀ {reg : BitVec 64},
      reg.toNat + 4 ≤ 0x220b8 → t.Mapped reg :=
    fun ht _ hle => ⟨length, ht.trans hlen, Nat.le_trans hle hcover⟩
  -- the states between the steps: after both reads, after each write, after the last read
  let s₁ := (readReg32 0x20b4 s).2
  let s₂ := (readReg32 0x220b4 s₁).2
  let s₃ := if (readReg32 0x20b4 s).1 ≠ 0xFFFFFFFF then writeReg32 0x20b4 0xFFFFFFFF s₂ else s₂
  let s₄ := if (readReg32 0x220b4 s₁).1 ≠ 0xFFFFFFFF then writeReg32 0x220b4 0xFFFFFFFF s₃ else s₃
  let s₅ := (readReg32 0x40A0 s₄).2
  have hr₁ : s₁.rmmio = s.rmmio := readReg32_rmmio s _
  have hr₂ : s₂.rmmio = s.rmmio := (readReg32_rmmio s₁ _).trans hr₁
  have hr₃ : s₃.rmmio = s.rmmio := (write_unless_rmmio s₂ _ _ _).trans hr₂
  have hr₄ : s₄.rmmio = s.rmmio := (write_unless_rmmio s₃ _ _ _).trans hr₃
  have hr₅ : s₅.rmmio = s.rmmio := (readReg32_rmmio s₄ _).trans hr₄
  have hb₁ : s₁.rmmioPtr = s.rmmioPtr := readReg32_bytes (hmapped rfl (by decide))
  have hb₂ : s₂.rmmioPtr = s.rmmioPtr := (readReg32_bytes (hmapped hr₁ (by decide))).trans hb₁
  have hb₃ : s₃.rmmioPtr = s.rmmioPtr.update ⟨0x20b4, fun _ => 0xFFFFFFFF⟩ := by
    rw [← hb₂]
    refine write_unless_update (by decide) (hmapped hr₂ (by decide)) (by decide) ?_
    rw [readReg32_value (by decide) (hmapped rfl (by decide)), hb₂]
  have hb₄ : s₄.rmmioPtr = s₃.rmmioPtr.update ⟨0x220b4, fun _ => 0xFFFFFFFF⟩ := by
    refine write_unless_update (by decide) (hmapped hr₃ (by decide)) (by decide) ?_
    rw [readReg32_value (by decide) (hmapped hr₁ (by decide)), hb₁, hb₃]
    exact (ByteMem.load32_store_disjoint _ _ (.inr (by decide))).symm
  have hb₅ : s₅.rmmioPtr = s₄.rmmioPtr := readReg32_bytes (hmapped hr₄ (by decide))
  have hb₆ : (enforceMasks s).rmmioPtr = s₅.rmmioPtr.update ⟨0x40A0, fun _ => 0⟩ := by
    show (if (readReg32 0x40A0 s₄).1 ≠ 0 then writeReg32 0x40A0 0 s₅ else s₅).rmmioPtr = _
    refine write_unless_update (by decide) (hmapped hr₅ (by decide)) (by decide) ?_
    rw [readReg32_value (by decide) (hmapped hr₄ (by decide)), hb₅]
  rw [hb₆, hb₅, hb₄, hb₃]
  rfl

theorem load32_enforced (m : ByteMem) :
    (ByteMem.updateAll enforcedWords m).load32 0x20b4 = 0xFFFFFFFF ∧
    (ByteMem.updateAll enforcedWords m).load32 0x220b4 = 0xFFFFFFFF ∧
    (ByteMem.updateAll enforcedWords m).load32 0x40A0 = 0 := by
  have hset : ∀ u ∈ enforcedWords,
      (ByteMem.updateAll enforcedWords m).load32 u.addr = u.f (m.load32 u.addr) :=
    fun u hu => ByteMem.load32_updateAll m (by decide) hu
  simp only [enforcedWords, List.forall_mem_cons] at hset
  exact ⟨hset.1, hset.2.1, hset.2.2.1⟩

/-- After a firing of the enforcer on a window that covers the registers, the errors of both
engines are masked and none is pending. -/
theorem enforcer_masks_errors (boot : TimerBootArgs) {i : Nat} {param0 : Service} {s : TimerState}
    (hdue : ThreadCall.due i s.enforcer = some param0) {length : BitVec 64}
    (hlen : s.mmio.rmmio = some length) (hcover : 0x220b8 ≤ length.toNat) :
    let file := ((TimerEvent.enforcer i).exec boot s).mmio.rmmioPtr
    file.load32 0x20b4 = 0xFFFFFFFF ∧ file.load32 0x220b4 = 0xFFFFFFFF ∧
      file.load32 0x40A0 = 0 := by
  have hfile : ((TimerEvent.enforcer i).exec boot s).mmio.rmmioPtr =
      ByteMem.updateAll enforcedWords s.mmio.rmmioPtr := by
    simp only [TimerEvent.exec, hdue, v71EmrEnforcer]
    exact enforceMasks_update hlen hcover
  rw [hfile]
  exact load32_enforced s.mmio.rmmioPtr

end NootedGreen

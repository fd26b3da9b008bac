/-
# `Engine.ForceWake` — the forcewake that `start` holds, and the other holders

The forcewake request registers of RENDER and BLITTER are masked: a write of
`(m << 16) | v` replaces the bits `m` by those of `v`.  Each holder has bits of its
own, so that one may let go without waking the others:

    bit 0     `start`, for its diagnostics after Apple's `start`
    bit 0     the hang check inside `forceWake`, once per boot, at the 15th call
    bit ctx   `forceWake` proper: 1 for threads, 2 for interrupts
    bit 15    `forceWakeWaitAckFallback`

Bit 0 has two holders.  A step here is one register write, by `start` or by a call of
`forceWake`, and a run is any interleaving.  From its acquisition to its release `start`
has bit 0 exactly as long as the hang check does not release under it
(`forcewake_held_iff`).  Once the hang check has been made nothing can go wrong any
more (`forcewake_held_of_dumped`).

**What is left out.**  Waiting and logging.  What the acknowledge registers and the
master interrupt register read is a parameter of each call (`Readings`).
-/
import NootedGreen.Lib.MaskedReg
import NootedGreen.Lib.Runs

namespace NootedGreen

/-! ## Registers -/

/-- The two domains with a request register of the Gen9 kind. -/
inductive FwDomain where
  | render
  | blitter
  deriving DecidableEq, Repr

/-- `FORCEWAKE_RENDER_GEN9` and `FORCEWAKE_BLITTER_GEN9`. -/
def FwDomain.reqReg : FwDomain → BitVec 32
  | .render => 0xa278
  | .blitter => 0xa188

/-- The value bits of the request registers. -/
structure FwRequests where
  render : BitVec 16
  blitter : BitVec 16
  deriving DecidableEq, Repr

def FwRequests.get (q : FwRequests) : FwDomain → BitVec 16
  | .render => q.render
  | .blitter => q.blitter

/-- A register write as far as it concerns them. -/
def FwRequests.writeReg32 (q : FwRequests) (reg value : BitVec 32) : FwRequests :=
  if reg = FwDomain.render.reqReg then { q with render := MaskedReg.write q.render value }
  else if reg = FwDomain.blitter.reqReg then { q with blitter := MaskedReg.write q.blitter value }
  else q

def ForceWake.maskedField (mask value : BitVec 32) : BitVec 32 := (mask <<< 16) ||| value

def fwSet (v : BitVec 32) : BitVec 32 := ForceWake.maskedField v v

def fwClear (v : BitVec 32) : BitVec 32 := ForceWake.maskedField v 0

def forcewakeKernelFallback : BitVec 32 := 1#32 <<< 15

/-! ## The writes of `forceWake` -/

/-- `ctx`: 2 in an interrupt, else 1. -/
inductive FwContext where
  | normal
  | irq
  deriving DecidableEq, Repr

def FwContext.bit : FwContext → Nat
  | .normal => 1
  | .irq => 2

/-- A write of one of the holders, and what it is for. -/
inductive FwWrite where
  /-- Bit 0 of a domain, set: `(1 << 16) | 1`. -/
  | acquire (d : FwDomain)
  /-- Bit 0 of a domain, cleared: `(1 << 16) | 0`. -/
  | release (d : FwDomain)
  /-- `GEN11_GFX_MSTR_IRQ`, when the hang check finds it off. -/
  | masterIrq
  | request (reqReg : BitVec 32) (set : Bool) (ctx : FwContext)
  | fallbackSet (reqReg : BitVec 32)
  | fallbackClear (reqReg : BitVec 32)
  deriving DecidableEq, Repr

/-- `wr`: the bit of the context, and its mask. -/
def requestValue (set : Bool) (ctx : FwContext) : BitVec 32 :=
  ((BitVec.ofBool set).setWidth 32 <<< ctx.bit) ||| (1#32 <<< ctx.bit <<< 16)

def FwWrite.reg : FwWrite → BitVec 32
  | .acquire d | .release d => d.reqReg
  | .masterIrq => 0x190010
  | .request reqReg _ _ | .fallbackSet reqReg | .fallbackClear reqReg => reqReg

def FwWrite.value : FwWrite → BitVec 32
  | .acquire _ => (1#32 <<< 16) ||| 1
  | .release _ => (1#32 <<< 16) ||| 0
  | .masterIrq => 1#32 <<< 31
  | .request _ set ctx => requestValue set ctx
  | .fallbackSet _ => fwSet forcewakeKernelFallback
  | .fallbackClear _ => fwClear forcewakeKernelFallback

def FwRequests.apply (q : FwRequests) (w : FwWrite) : FwRequests := q.writeReg32 w.reg w.value

/-- What a call reads: the master interrupt, whether the first poll of a request register's
acknowledge succeeds, and the acknowledge in each pass of the fallback. -/
structure Readings where
  hcMstr : BitVec 32
  polled : BitVec 32 → Bool
  fallbackAck : BitVec 32 → Nat → Bool

/-- The passes of the loop from `pass` on, at most `left` of them. -/
def fallbackPasses (reqReg : BitVec 32) (ack : Nat → Bool) : (left pass : Nat) → List FwWrite
  | 0, _ => []
  | left + 1, pass =>
      .fallbackSet reqReg :: .fallbackClear reqReg ::
        if ack pass then [] else fallbackPasses reqReg ack left (pass + 1)

def forceWakeWaitAckFallback (reqReg : BitVec 32) (ack : Nat → Bool) : List FwWrite :=
  fallbackPasses reqReg ack 10 1

/-- The request to one register, with the fallback when the poll times out. -/
def requestDomain (seen : Readings) (set : Bool) (ctx : FwContext) (reqReg : BitVec 32) :
    List FwWrite :=
  .request reqReg set ctx ::
    if seen.polled reqReg then []
    else forceWakeWaitAckFallback reqReg (seen.fallbackAck reqReg)

/-- The request registers of a domain bit: media has one per engine. -/
def domainRegs (d : BitVec 32) : List (BitVec 32) :=
  if d = 0b001 then [FwDomain.render.reqReg]
  else if d = 0b010 then [0xa540, 0xa560]
  else [FwDomain.blitter.reqReg]

/-- From `DOM_FIRST` to `DOM_LAST`. -/
def requestDomains (seen : Readings) (set : Bool) (dom : BitVec 32) (ctx : FwContext) :
    List FwWrite :=
  ([0b001, 0b010, 0b100].filter fun d => dom &&& d ≠ 0).flatMap fun d =>
    (domainRegs d).flatMap (requestDomain seen set ctx)

def hangcheckDump (hcMstr : BitVec 32) : List FwWrite :=
  [.acquire .render, .acquire .blitter] ++
    (if hcMstr &&& (1#32 <<< 31) = 0 then [.masterIrq] else []) ++
    [.release .render, .release .blitter]

/-- The statics of `forceWake`. -/
structure FwStatics where
  fwCallCount : BitVec 32
  hangcheckDumped : Bool
  deriving DecidableEq, Repr

/-- A call: the statics after it, and its writes in their order. -/
def FwStatics.forceWake (st : FwStatics) (set : Bool) (dom : BitVec 32) (ctx : FwContext)
    (seen : Readings) : FwStatics × List FwWrite :=
  let fwCallCount := st.fwCallCount + 1
  if !st.hangcheckDumped && fwCallCount == 15 then
    ({ fwCallCount := fwCallCount, hangcheckDumped := true },
      hangcheckDump seen.hcMstr ++ requestDomains seen set dom ctx)
  else ({ st with fwCallCount := fwCallCount }, requestDomains seen set dom ctx)

/-! ## `start` and the others, write by write -/

/-- A write of the diagnostics of `start`: to some other register. -/
structure OtherWrite where
  reg : BitVec 32
  value : BitVec 32
  elsewhere : ∀ d : FwDomain, reg ≠ d.reqReg

/-- Where `start` is, with the diagnostics it still has to make. -/
inductive StartPhase where
  | acquireRender (diagnostics : List OtherWrite)
  | acquireBlitter (diagnostics : List OtherWrite)
  | held (diagnostics : List OtherWrite)
  | releaseBlitter
  | returned

/-- From the acquisition of a domain to its release. -/
def StartPhase.Holds : StartPhase → FwDomain → Prop
  | .acquireBlitter _, .render | .held _, _ | .releaseBlitter, .blitter => True
  | _, _ => False

/-- `calls` are the writes that each call of `forceWake` so far still has to make. -/
structure WakeState where
  requests : FwRequests
  statics : FwStatics
  phase : StartPhase
  calls : List (List FwWrite)

inductive WakeEvent where
  /-- The next write of `start`. -/
  | start
  /-- A client enters `forceWake`. -/
  | forceWake (set : Bool) (dom : BitVec 32) (ctx : FwContext) (seen : Readings)
  /-- The next write of a call. -/
  | write (call : Nat)

def WakeState.stepStart (s : WakeState) : WakeState :=
  match s.phase with
  | .acquireRender diagnostics =>
      { s with requests := s.requests.apply (.acquire .render),
               phase := .acquireBlitter diagnostics }
  | .acquireBlitter diagnostics =>
      { s with requests := s.requests.apply (.acquire .blitter), phase := .held diagnostics }
  | .held (w :: diagnostics) =>
      { s with requests := s.requests.writeReg32 w.reg w.value, phase := .held diagnostics }
  | .held [] =>
      { s with requests := s.requests.apply (.release .render), phase := .releaseBlitter }
  | .releaseBlitter =>
      { s with requests := s.requests.apply (.release .blitter), phase := .returned }
  | .returned => s

/-- The next write of a call, if it has one. -/
def WakeState.next (s : WakeState) (call : Nat) : Option FwWrite :=
  (s.calls[call]?).bind List.head?

def WakeEvent.exec : WakeEvent → WakeState → WakeState
  | .start, s => s.stepStart
  | .forceWake set dom ctx seen, s =>
      let (statics, writes) := s.statics.forceWake set dom ctx seen
      { s with statics := statics, calls := s.calls ++ [writes] }
  | .write call, s =>
      match s.next call with
      | some w => { s with requests := s.requests.apply w,
                           calls := s.calls.modify call List.tail }
      | none => s

/-- The beginning of the section, whatever the statics and the registers are by then. -/
def WakeState.initial (requests : FwRequests) (statics : FwStatics)
    (diagnostics : List OtherWrite) : WakeState :=
  { requests := requests, statics := statics, phase := .acquireRender diagnostics, calls := [] }

/-! ## Bit 0 -/

def FwRequests.Awake (q : FwRequests) (d : FwDomain) : Prop := (q.get d).getLsbD 0 = true

/-- Only a write to the domain whose mask has bit 0 moves it. -/
theorem FwRequests.bit_writeReg32 (q : FwRequests) (reg value : BitVec 32) (d : FwDomain) :
    ((q.writeReg32 reg value).get d).getLsbD 0 =
      if reg = d.reqReg ∧ value.getLsbD 16 = true then value.getLsbD 0
      else (q.get d).getLsbD 0 := by
  by_cases hreg : reg = d.reqReg
  · subst hreg
    have hget : (q.writeReg32 d.reqReg value).get d = MaskedReg.write (q.get d) value := by
      cases d <;> rfl
    rw [hget, MaskedReg.getLsbD_write _ _ (by decide)]
    exact if_congr ⟨fun h => ⟨rfl, h⟩, fun h => h.2⟩ rfl rfl
  · rw [if_neg (fun h => hreg h.1)]
    unfold FwRequests.writeReg32
    cases d with
    | render => rw [if_neg hreg]; split <;> rfl
    | blitter => rw [if_neg hreg]; split <;> rfl

/-- `ctx` and the fallback have bits of their own. -/
theorem FwWrite.mask_bit_zero (w : FwWrite) (h : ∀ d, w ≠ .acquire d ∧ w ≠ .release d) :
    w.value.getLsbD 16 = false := by
  cases w with
  | acquire d => exact absurd rfl (h d).1
  | release d => exact absurd rfl (h d).2
  | masterIrq => decide
  | fallbackSet _ => exact (by decide : (fwSet forcewakeKernelFallback).getLsbD 16 = false)
  | fallbackClear _ => exact (by decide : (fwClear forcewakeKernelFallback).getLsbD 16 = false)
  | request _ set ctx =>
      show (requestValue set ctx).getLsbD 16 = false
      clear h
      cases set <;> cases ctx <;> decide

theorem acquire_value (d : FwDomain) : (FwWrite.acquire d).value = 0x10001 := rfl

theorem release_value (d : FwDomain) : (FwWrite.release d).value = 0x10000 := rfl

theorem FwRequests.awake_acquire (q : FwRequests) (d : FwDomain) :
    (q.apply (.acquire d)).Awake d := by
  have hbit := q.bit_writeReg32 (FwWrite.acquire d).reg (FwWrite.acquire d).value d
  rw [acquire_value, if_pos ⟨rfl, by decide⟩] at hbit
  exact hbit

theorem FwRequests.not_awake_release (q : FwRequests) (d : FwDomain) :
    ¬ (q.apply (.release d)).Awake d := by
  have hbit := q.bit_writeReg32 (FwWrite.release d).reg (FwWrite.release d).value d
  rw [release_value, if_pos ⟨rfl, by decide⟩] at hbit
  intro hawake
  exact Bool.false_ne_true (hbit.symm.trans hawake)

theorem FwDomain.reqReg_inj {d d' : FwDomain} (h : d.reqReg = d'.reqReg) : d = d' := by
  cases d <;> cases d' <;> first | rfl | exact absurd h (by decide)

/-- A bit that is on stays on under every write but its release. -/
theorem FwRequests.awake_apply_iff {q : FwRequests} {d : FwDomain} (hq : q.Awake d)
    (w : FwWrite) : (q.apply w).Awake d ↔ w ≠ .release d := by
  constructor
  · rintro hawake rfl
    exact q.not_awake_release d hawake
  · intro hne
    have hbit := q.bit_writeReg32 w.reg w.value d
    by_cases hd : w.reg = d.reqReg ∧ w.value.getLsbD 16 = true
    · -- only an acquisition of this very domain is left
      have hw : w = .acquire d := by
        by_contra hacq
        have hmask := w.mask_bit_zero (fun d' => by
          constructor
          · rintro rfl
            exact hacq (congrArg _ (FwDomain.reqReg_inj hd.1))
          · rintro rfl
            exact hne (congrArg _ (FwDomain.reqReg_inj hd.1)))
        exact Bool.false_ne_true (hmask.symm.trans hd.2)
      subst hw
      exact q.awake_acquire d
    · rw [if_neg hd] at hbit
      exact hbit.trans hq

theorem FwRequests.awake_other {q : FwRequests} {d : FwDomain} (hq : q.Awake d)
    (w : OtherWrite) : (q.writeReg32 w.reg w.value).Awake d := by
  have hbit := q.bit_writeReg32 w.reg w.value d
  rw [if_neg (fun h => w.elsewhere d h.1)] at hbit
  exact hbit.trans hq

/-! ## Runs -/

/-- Bit 0 of every domain that `start` holds is on. -/
def WakeState.Held (s : WakeState) : Prop := ∀ d, s.phase.Holds d → s.requests.Awake d

/-- The event is not the hang check letting go of a domain that `start` holds. -/
def WakeEvent.Spares : WakeEvent → WakeState → Prop
  | .write call, s => ∀ d, s.phase.Holds d → s.next call ≠ some (.release d)
  | _, _ => True

theorem WakeState.held_initial (requests : FwRequests) (statics : FwStatics)
    (diagnostics : List OtherWrite) : (WakeState.initial requests statics diagnostics).Held := by
  intro d hd
  cases d <;> exact hd.elim

/-- The section of `start` keeps what it holds. -/
theorem WakeState.held_stepStart {s : WakeState} (h : s.Held) : s.stepStart.Held := by
  obtain ⟨requests, statics, phase, calls⟩ := s
  intro d hd
  cases phase with
  | acquireRender diagnostics =>
      cases d with
      | render => exact requests.awake_acquire .render
      | blitter => exact hd.elim
  | acquireBlitter diagnostics =>
      cases d with
      | render =>
          exact (FwRequests.awake_apply_iff (h .render trivial) (.acquire .blitter)).mpr
            (fun heq => by cases heq)
      | blitter => exact requests.awake_acquire .blitter
  | held diagnostics =>
      cases diagnostics with
      | cons w diagnostics => exact FwRequests.awake_other (h d trivial) w
      | nil =>
          cases d with
          | render => exact hd.elim
          | blitter =>
              exact (FwRequests.awake_apply_iff (h .blitter trivial) (.release .render)).mpr
                (fun heq => by cases heq)
  | releaseBlitter => cases d <;> exact hd.elim
  | returned => cases d <;> exact hd.elim

theorem WakeState.held_exec_iff (e : WakeEvent) (s : WakeState) (h : s.Held) :
    (e.exec s).Held ↔ e.Spares s := by
  cases e with
  | start => exact iff_of_true (WakeState.held_stepStart h) trivial
  | forceWake set dom ctx seen => exact iff_of_true h trivial
  | write call =>
      simp only [WakeEvent.exec, WakeEvent.Spares]
      cases hnext : s.next call with
      | none => exact iff_of_true h (fun d _ => (Option.some_ne_none _).symm)
      | some w =>
          constructor
          · intro hheld d hd heq
            exact (FwRequests.awake_apply_iff (h d hd) w).mp (hheld d hd) (Option.some.inj heq)
          · intro hspares d hd
            exact (FwRequests.awake_apply_iff (h d hd) w).mpr
              (fun heq => hspares d hd (congrArg some heq))

/-- Over any interleaving with any number of calls, at any count: bit 0 stays on from the
acquisition to the release of `start` exactly if no call releases, for its hang check, a
domain that `start` holds at that moment. -/
theorem forcewake_held_iff (requests : FwRequests) (statics : FwStatics)
    (diagnostics : List OtherWrite) (events : List WakeEvent) :
    (∀ s ∈ Runs.states WakeEvent.exec events (WakeState.initial requests statics diagnostics),
        s.Held) ↔
      Runs.Guarded WakeEvent.exec WakeEvent.Spares events
        (WakeState.initial requests statics diagnostics) :=
  Runs.states_iff_guarded WakeState.held_exec_iff events _
    (WakeState.held_initial requests statics diagnostics)

/-- All registers quiet, all polls answered. -/
def quietReadings : Readings := ⟨1#32 <<< 31, fun _ => true, fun _ _ => true⟩

/-- The 15th call comes in while `start` makes its diagnostics. -/
theorem hangcheck_drops_render :
    ¬ (Runs.run WakeEvent.exec
        [.start, .start, .forceWake true 0 .normal quietReadings, .write 0, .write 0, .write 0]
        (WakeState.initial ⟨0, 0⟩ ⟨14, false⟩ [])).Held := by
  intro h
  have hrender := h .render trivial
  unfold FwRequests.Awake at hrender
  revert hrender
  decide

/-! ## After the hang check -/

theorem fallbackPasses_ne_release (reqReg : BitVec 32) (ack : Nat → Bool) (left : Nat)
    {w : FwWrite} {pass : Nat} (hw : w ∈ fallbackPasses reqReg ack left pass) (d : FwDomain) :
    w ≠ .release d := by
  induction left generalizing pass with
  | zero => exact absurd hw List.not_mem_nil
  | succ left ih =>
      rw [fallbackPasses] at hw
      rcases List.mem_cons.mp hw with rfl | hw
      · exact FwWrite.noConfusion
      rcases List.mem_cons.mp hw with rfl | hw
      · exact FwWrite.noConfusion
      split at hw
      · exact absurd hw List.not_mem_nil
      · exact ih hw

/-- The requests proper release nothing of bit 0. -/
theorem requestDomains_ne_release {seen : Readings} {set : Bool} {dom : BitVec 32}
    {ctx : FwContext} {w : FwWrite} (hw : w ∈ requestDomains seen set dom ctx) (d : FwDomain) :
    w ≠ .release d := by
  obtain ⟨_, _, hw⟩ := List.mem_flatMap.mp hw
  obtain ⟨reqReg, _, hw⟩ := List.mem_flatMap.mp hw
  rcases List.mem_cons.mp hw with rfl | hw
  · exact FwWrite.noConfusion
  · split at hw
    · exact absurd hw List.not_mem_nil
    · exact fallbackPasses_ne_release reqReg _ 10 hw d

/-- The hang check has been made, and no call is in the middle of it. -/
structure WakeState.Dumped (s : WakeState) : Prop where
  dumped : s.statics.hangcheckDumped = true
  noRelease : ∀ writes ∈ s.calls, ∀ d, .release d ∉ writes

theorem WakeState.Dumped.spares {s : WakeState} (h : s.Dumped) (e : WakeEvent) : e.Spares s := by
  cases e with
  | start => trivial
  | forceWake set dom ctx seen => trivial
  | write call =>
      intro d _ hnext
      obtain ⟨writes, hwrites, hhead⟩ := Option.bind_eq_some_iff.mp hnext
      exact h.noRelease writes (List.mem_of_getElem? hwrites) d (List.mem_of_mem_head? hhead)

theorem WakeState.Dumped.exec {s : WakeState} (h : s.Dumped) (e : WakeEvent) :
    (e.exec s).Dumped := by
  cases e with
  | start =>
      have hstep : s.stepStart.statics = s.statics ∧ s.stepStart.calls = s.calls := by
        unfold WakeState.stepStart
        split <;> exact ⟨rfl, rfl⟩
      exact ⟨hstep.1 ▸ h.dumped, hstep.2 ▸ h.noRelease⟩
  | forceWake set dom ctx seen =>
      have hcall : s.statics.forceWake set dom ctx seen =
          ({ s.statics with fwCallCount := s.statics.fwCallCount + 1 },
            requestDomains seen set dom ctx) := by
        simp only [FwStatics.forceWake, h.dumped, Bool.not_true, Bool.false_and,
          Bool.false_eq_true, if_false]
      simp only [WakeEvent.exec, hcall]
      refine ⟨h.dumped, fun writes hwrites d hrelease => ?_⟩
      rcases List.mem_append.mp hwrites with hwrites | hwrites
      · exact h.noRelease writes hwrites d hrelease
      · rw [List.mem_singleton.mp hwrites] at hrelease
        exact requestDomains_ne_release hrelease d rfl
  | write call =>
      simp only [WakeEvent.exec]
      cases s.next call with
      | none => exact h
      | some w =>
          refine ⟨h.dumped, fun writes hwrites d hrelease => ?_⟩
          obtain ⟨i, hi⟩ := List.getElem?_of_mem hwrites
          rw [List.getElem?_modify] at hi
          obtain ⟨writes', hwrites', heq⟩ := Option.map_eq_some_iff.mp hi
          have hmem : .release d ∈ writes' := by
            split at heq
            · exact List.mem_of_mem_tail (heq ▸ hrelease)
            · exact heq ▸ hrelease
          exact h.noRelease writes' (List.mem_of_getElem? hwrites') d hmem

/-- Once it has been made, `start` keeps what it holds under every interleaving. -/
theorem forcewake_held_of_dumped (requests : FwRequests) (fwCallCount : BitVec 32)
    (diagnostics : List OtherWrite) (events : List WakeEvent) :
    ∀ s ∈ Runs.states WakeEvent.exec events
      (WakeState.initial requests ⟨fwCallCount, true⟩ diagnostics), s.Held ∧ s.Dumped := by
  refine Runs.states_of_inv (fun e s h => ?_) events _ ⟨WakeState.held_initial _ _ _, rfl, ?_⟩
  · exact ⟨(WakeState.held_exec_iff e s h.1).mpr (h.2.spares e), h.2.exec e⟩
  · intro writes hwrites
    exact absurd hwrites List.not_mem_nil

end NootedGreen

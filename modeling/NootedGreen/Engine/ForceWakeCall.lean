/-
# `Engine.ForceWakeCall` — a forcewake call, poll by poll

`Engine.ForceWake` takes a call of `forceWake` as the writes it makes.  Here is the call
itself, against a clock and acknowledge registers that may read anything:

    for each selected domain (media: each engine)
        write the request
        poll the acknowledge, or run the fallback, or poll again, or report a timeout

    the fallback, at most ten times
        poll for bit 15 clear, set bit 15, poll for it, read the acknowledge, clear bit 15

A poll ends when the register shows what is expected or the clock has passed the deadline.
On a clock that stops it need not end, so the call is a `Fueled` program.  Whenever it
returns, its writes are those of `Engine.ForceWake` for some readings (`forceWake_refines`).

The state keeps the reads and writes of the call in their order.  A fallback is reported
from outside: by what these have grown by, and by what it returned.

**What is left out.**  `IOPause` and `IODelay`, which only let the clock run; and reads that
only feed a log line.  The controller is null, so reads and writes go to the registers.
-/
import Mathlib.Data.List.Basic
import Mathlib.Data.List.Flatten
import NootedGreen.Engine.ForceWake
import NootedGreen.Lib.Fueled

namespace NootedGreen

namespace FwCall

/-! ## Surroundings -/

/-- The clock at each time it is read, and what each read of a register gives. -/
structure World where
  clock : Nat → Nat
  reading : Nat → BitVec 32 → BitVec 32

/-- A request register and its acknowledge. -/
structure FwEngine where
  req : BitVec 32
  ack : BitVec 32
  deriving DecidableEq, Repr

/-- A read of a register and what it gave. -/
structure RegRead where
  reg : BitVec 32
  value : BitVec 32
  deriving DecidableEq, Repr

/-- A call of the fallback: for which registers, what it wrote and read, what it returned. -/
structure FallbackReport where
  engine : FwEngine
  writes : List FwWrite
  reads : List RegRead
  result : Bool

/-- The value bits of the masked registers and the statics; how often the clock was read; the
reads and writes of registers, the fallbacks and the timeouts reported, in their order. -/
structure State where
  requests : BitVec 32 → BitVec 16
  statics : FwStatics
  clockReads : Nat
  reads : List RegRead
  writes : List FwWrite
  fallbacks : List FallbackReport
  timeouts : List (BitVec 32)

/-- How often a register was read. -/
def State.regReads (s : State) : Nat := s.reads.length

abbrev Code (α : Type) := Fueled State α

/-- A write, on the masked registers. -/
def applyWrite (q : BitVec 32 → BitVec 16) : FwWrite → BitVec 32 → BitVec 16
  | .masterIrq => q
  | w => Function.update q w.reg (MaskedReg.write (q w.reg) w.value)

def applyWrites (q : BitVec 32 → BitVec 16) (ws : List FwWrite) : BitVec 32 → BitVec 16 :=
  ws.foldl applyWrite q

def wrapWriteRegister32 (fw : FwWrite) : Code Unit := Fueled.update fun s =>
  { s with requests := applyWrite s.requests fw, writes := s.writes ++ [fw] }

/-- The state as it is. -/
def look : Code State := Fueled.act fun s => (s, s)

/-- Report a fallback that began at `start` and has returned. -/
def reportFallback (engine : FwEngine) (start : State) (result : Bool) : Code Unit :=
  Fueled.update fun s =>
    { s with fallbacks := s.fallbacks ++
        [{ engine := engine
           writes := s.writes.drop start.writes.length
           reads := s.reads.drop start.reads.length
           result := result }] }

def reportTimeout (reqReg : BitVec 32) : Code Unit := Fueled.update fun s =>
  { s with timeouts := s.timeouts ++ [reqReg] }

/-- `++fwCallCount`, and whether this is the call of the hang check. -/
def enterForceWake : Code Bool := Fueled.act fun s =>
  let fwCallCount := s.statics.fwCallCount + 1
  if !s.statics.hangcheckDumped && fwCallCount == 15 then
    (true, { s with statics := { fwCallCount := fwCallCount, hangcheckDumped := true } })
  else (false, { s with statics := { s.statics with fwCallCount := fwCallCount } })

section Call

variable (w : World)

def clockGetUptime : Code Nat := Fueled.act fun s =>
  (w.clock s.clockReads, { s with clockReads := s.clockReads + 1 })

/-- `clock_interval_to_deadline`, in milliseconds. -/
def clockIntervalToDeadline (interval : Nat) : Code Nat := Fueled.act fun s =>
  (w.clock s.clockReads + interval * 1000000, { s with clockReads := s.clockReads + 1 })

/-- What reading `reg` adds to the record. -/
def State.afterRead (reg : BitVec 32) (s : State) : State :=
  { s with reads := s.reads ++ [⟨reg, w.reading s.regReads reg⟩] }

def wrapReadRegister32 (reg : BitVec 32) : Code (BitVec 32) := Fueled.act fun s =>
  (w.reading s.regReads reg, s.afterRead w reg)

/-! ## The call -/

/-- The loop of `pollRegister`, from `now` on. -/
def pollStep (reg val mask : BitVec 32) (deadline now : Nat) : Code (Nat ⊕ Bool) :=
  if now < deadline then do
    let rd ← wrapReadRegister32 w reg
    if rd &&& mask = val then pure (.inr true)
    else do
      let now ← clockGetUptime w
      pure (.inl now)
  else pure (.inr false)

def pollRegister (reg val mask : BitVec 32) (timeout : Nat) : Code Bool := do
  let deadline ← clockIntervalToDeadline w timeout
  let now ← clockGetUptime w
  Fueled.iterate (pollStep w reg val mask deadline) now

def forcewakeAckTimeoutMs : Nat := 50

/-- One pass of the fallback: `pass++ < 10` decides about the next. -/
def fallbackPass (reqReg ackReg val mask : BitVec 32) (pass : Nat) : Code (Nat ⊕ Bool) := do
  let _ ← pollRegister w ackReg 0 forcewakeKernelFallback forcewakeAckTimeoutMs
  wrapWriteRegister32 (.fallbackSet reqReg)
  let _ ← pollRegister w ackReg forcewakeKernelFallback forcewakeKernelFallback
    forcewakeAckTimeoutMs
  let rd ← wrapReadRegister32 w ackReg
  let ack := decide (rd &&& mask = val)
  wrapWriteRegister32 (.fallbackClear reqReg)
  if !ack && decide (pass < 10) then pure (.inl (pass + 1)) else pure (.inr ack)

def forceWakeWaitAckFallback (reqReg ackReg val mask : BitVec 32) : Code Bool :=
  Fueled.iterate (fallbackPass w reqReg ackReg val mask) 1

def fwMediaEngines : List FwEngine := [⟨0xa540, 0x0D50⟩, ⟨0xa560, 0x0D70⟩]

def fwReqReg (d : BitVec 32) : BitVec 32 :=
  if d = 0b001 then FwDomain.render.reqReg
  else if d = 0b100 then FwDomain.blitter.reqReg
  else 0

def fwAckReg (d : BitVec 32) : BitVec 32 :=
  if d = 0b001 then 0x0D84
  else if d = 0b100 then 0x130044
  else 0

/-- Media has a pair of registers for each engine. -/
def domainEngines (d : BitVec 32) : List FwEngine :=
  if d = 0b010 then fwMediaEngines else [⟨fwReqReg d, fwAckReg d⟩]

/-- From `DOM_FIRST` to `DOM_LAST`, those in `dom`. -/
def selectedEngines (dom : BitVec 32) : List FwEngine :=
  ([0b001, 0b010, 0b100].filter fun d => dom &&& d ≠ 0).flatMap domainEngines

def ackExp (set : Bool) (ctx : FwContext) : BitVec 32 := (BitVec.ofBool set).setWidth 32 <<< ctx.bit

def ackMask (ctx : FwContext) : BitVec 32 := 1#32 <<< ctx.bit

/-- The fallback of an engine, reported. -/
def runFallback (eng : FwEngine) (val mask : BitVec 32) : Code Bool := do
  let start ← look
  let acked ← forceWakeWaitAckFallback w eng.req eng.ack val mask
  reportFallback eng start acked
  pure acked

def requestEngine (set : Bool) (ctx : FwContext) (eng : FwEngine) : Code Unit := do
  wrapWriteRegister32 (.request eng.req set ctx)
  let polled ← pollRegister w eng.ack (ackExp set ctx) (ackMask ctx) forcewakeAckTimeoutMs
  if polled then pure ()
  else do
    let acked ← runFallback w eng (ackExp set ctx) (ackMask ctx)
    if acked then pure ()
    else do
      let polled ← pollRegister w eng.ack (ackExp set ctx) (ackMask ctx) forcewakeAckTimeoutMs
      if polled then pure () else reportTimeout eng.req

/-- The hang check, as far as it writes. -/
def dumpHangcheck : Code Unit := do
  let hcMstr ← wrapReadRegister32 w 0x190010
  Fueled.each (hangcheckDump hcMstr) wrapWriteRegister32

def forceWake (set : Bool) (dom : BitVec 32) (ctx : FwContext) : Code Unit := do
  let dump ← enterForceWake
  if dump then do
    dumpHangcheck w
    Fueled.each (selectedEngines dom) (requestEngine w set ctx)
  else Fueled.each (selectedEngines dom) (requestEngine w set ctx)

end Call

/-! ## What a piece of the call does -/

/-- The piece makes these writes, fallbacks and timeouts, may read, and does nothing else that
is seen. -/
structure Effect (ws : List FwWrite) (rs : List FallbackReport) (ts : List (BitVec 32))
    (s s' : State) : Prop where
  requests : s'.requests = applyWrites s.requests ws
  statics : s'.statics = s.statics
  reads : s.reads <+: s'.reads
  writes : s'.writes = s.writes ++ ws
  fallbacks : s'.fallbacks = s.fallbacks ++ rs
  timeouts : s'.timeouts = s.timeouts ++ ts

theorem applyWrites_append (q : BitVec 32 → BitVec 16) (ws ws' : List FwWrite) :
    applyWrites q (ws ++ ws') = applyWrites (applyWrites q ws) ws' :=
  List.foldl_append

theorem Effect.quiet {s s' : State} (h : s' = { s with
    clockReads := s'.clockReads, reads := s'.reads }) (hreads : s.reads <+: s'.reads) :
    Effect [] [] [] s s' := by
  rw [h]
  exact ⟨rfl, rfl, hreads, (List.append_nil _).symm, (List.append_nil _).symm,
    (List.append_nil _).symm⟩

theorem Effect.refl (s : State) : Effect [] [] [] s s := .quiet rfl (List.prefix_refl _)

theorem Effect.trans {ws ws' : List FwWrite} {rs rs' : List FallbackReport}
    {ts ts' : List (BitVec 32)} {s s' s'' : State} (h : Effect ws rs ts s s')
    (h' : Effect ws' rs' ts' s' s'') :
    Effect (ws ++ ws') (rs ++ rs') (ts ++ ts') s s'' where
  requests := by rw [h'.requests, h.requests, applyWrites_append]
  statics := h'.statics.trans h.statics
  reads := h.reads.trans h'.reads
  writes := by rw [h'.writes, h.writes, List.append_assoc]
  fallbacks := by rw [h'.fallbacks, h.fallbacks, List.append_assoc]
  timeouts := by rw [h'.timeouts, h.timeouts, List.append_assoc]

/-- What leaves no mark may follow anything. -/
theorem Effect.trans_quiet {ws : List FwWrite} {rs : List FallbackReport}
    {ts : List (BitVec 32)} {s s' s'' : State} (h : Effect ws rs ts s s')
    (h' : Effect [] [] [] s' s'') : Effect ws rs ts s s'' := by
  have hboth := h.trans h'
  rwa [List.append_nil, List.append_nil, List.append_nil] at hboth

theorem wrapWriteRegister32_effect {fw : FwWrite} {s : State} {r : Unit × State}
    (h : (wrapWriteRegister32 fw).Returns s r) : Effect [fw] [] [] s r.2 := by
  rw [Fueled.returns_update_iff.mp h]
  exact ⟨rfl, rfl, List.prefix_refl _, rfl, (List.append_nil _).symm, (List.append_nil _).symm⟩

theorem reportFallback_effect {engine : FwEngine} {start : State} {result : Bool} {s : State}
    {r : Unit × State} (h : (reportFallback engine start result).Returns s r) :
    Effect [] [⟨engine, s.writes.drop start.writes.length, s.reads.drop start.reads.length, result⟩]
      [] s r.2 := by
  rw [Fueled.returns_update_iff.mp h]
  exact ⟨rfl, rfl, List.prefix_refl _, (List.append_nil _).symm, rfl, (List.append_nil _).symm⟩

theorem reportTimeout_effect {reqReg : BitVec 32} {s : State} {r : Unit × State}
    (h : (reportTimeout reqReg).Returns s r) : Effect [] [] [reqReg] s r.2 := by
  rw [Fueled.returns_update_iff.mp h]
  exact ⟨rfl, rfl, List.prefix_refl _, (List.append_nil _).symm, (List.append_nil _).symm, rfl⟩

section Effects

variable {w : World} {s : State}

theorem clockGetUptime_effect {r : Nat × State} (h : (clockGetUptime w).Returns s r) :
    Effect [] [] [] s r.2 := by
  rw [Fueled.returns_act_iff.mp h]
  exact .quiet rfl (List.prefix_refl _)

theorem clockIntervalToDeadline_effect {interval : Nat} {r : Nat × State}
    (h : (clockIntervalToDeadline w interval).Returns s r) : Effect [] [] [] s r.2 := by
  rw [Fueled.returns_act_iff.mp h]
  exact .quiet rfl (List.prefix_refl _)

@[simp] theorem State.afterRead_regReads (reg : BitVec 32) :
    (s.afterRead w reg).regReads = s.regReads + 1 :=
  List.length_append

theorem State.afterRead_effect (reg : BitVec 32) : Effect [] [] [] s (s.afterRead w reg) :=
  .quiet rfl (List.prefix_append _ _)

theorem wrapReadRegister32_effect {reg : BitVec 32} {r : BitVec 32 × State}
    (h : (wrapReadRegister32 w reg).Returns s r) :
    Effect [] [] [] s r.2 ∧ r.1 = w.reading s.regReads reg ∧
      r.2.reads = s.reads ++ [⟨reg, r.1⟩] := by
  rw [Fueled.returns_act_iff.mp h]
  exact ⟨s.afterRead_effect reg, rfl, rfl⟩

/-- One round of a poll: it reads and is done, it reads and looks at the clock again, or it is
too late and does not read. -/
theorem pollStep_cases {reg val mask : BitVec 32} {deadline now : Nat}
    {r : (Nat ⊕ Bool) × State} (h : (pollStep w reg val mask deadline now).Returns s r) :
    (now < deadline ∧ w.reading s.regReads reg &&& mask = val ∧
      r = (.inr true, s.afterRead w reg)) ∨
    (now < deadline ∧ w.reading s.regReads reg &&& mask ≠ val ∧
      r = (.inl (w.clock s.clockReads),
        { s.afterRead w reg with clockReads := s.clockReads + 1 })) ∨
    (¬ now < deadline ∧ r = (.inr false, s)) := by
  rw [pollStep] at h
  split at h
  · next hearly =>
      obtain ⟨q, hread, h⟩ := Fueled.returns_bind_iff.mp h
      rw [Fueled.returns_act_iff.mp hread] at h
      split at h
      · next hmatch => exact .inl ⟨hearly, hmatch, Fueled.returns_pure_iff.mp h⟩
      · next hmiss =>
          obtain ⟨q', hclock, h⟩ := Fueled.returns_bind_iff.mp h
          rw [Fueled.returns_act_iff.mp hclock] at h
          exact .inr (.inl ⟨hearly, hmiss, Fueled.returns_pure_iff.mp h⟩)
  · next hlate => exact .inr (.inr ⟨hlate, Fueled.returns_pure_iff.mp h⟩)

theorem pollStep_effect {reg val mask : BitVec 32} {deadline now : Nat}
    {r : (Nat ⊕ Bool) × State} (h : (pollStep w reg val mask deadline now).Returns s r) :
    Effect [] [] [] s r.2 := by
  obtain ⟨-, -, rfl⟩ | ⟨-, -, rfl⟩ | ⟨-, rfl⟩ := pollStep_cases h
  · exact s.afterRead_effect reg
  · exact .quiet rfl (List.prefix_append _ _)
  · exact .refl s

/-- A poll leaves no mark. -/
theorem pollRegister_effect {reg val mask : BitVec 32} {timeout : Nat} {r : Bool × State}
    (h : (pollRegister w reg val mask timeout).Returns s r) : Effect [] [] [] s r.2 := by
  obtain ⟨q, hdeadline, h⟩ := Fueled.returns_bind_iff.mp h
  obtain ⟨q', hclock, h⟩ := Fueled.returns_bind_iff.mp h
  have hstart := (clockIntervalToDeadline_effect hdeadline).trans (clockGetUptime_effect hclock)
  refine @Fueled.iterate_invariant _ _ _ _ (fun _ t => Effect [] [] [] s t)
    (fun _ t => Effect [] [] [] s t) ?_ ?_ _ _ r h hstart
  · intro a t a' t' hI hstep
    exact hI.trans (pollStep_effect hstep)
  · intro a t b t' hI hstep
    exact hI.trans (pollStep_effect hstep)

/-- A poll that succeeds has seen what it waits for. -/
theorem pollRegister_true {reg val mask : BitVec 32} {timeout : Nat} {s' : State}
    (h : (pollRegister w reg val mask timeout).Returns s (true, s')) :
    ∃ n, w.reading n reg &&& mask = val := by
  obtain ⟨q, -, h⟩ := Fueled.returns_bind_iff.mp h
  obtain ⟨q', -, h⟩ := Fueled.returns_bind_iff.mp h
  refine @Fueled.iterate_invariant _ _ _ _ (fun _ _ => True)
    (fun b _ => b = true → ∃ n, w.reading n reg &&& mask = val) ?_ ?_ _ _ (true, s') h trivial rfl
  · intro now t now' t' _ _
    exact trivial
  · intro now t b t' _ hstep hb
    obtain ⟨-, hmatch, -⟩ | ⟨-, -, hr⟩ | ⟨-, hr⟩ := pollStep_cases hstep
    · exact ⟨_, hmatch⟩
    · cases hr
    · cases hr
      cases hb

/-! ## The fallback -/

/-- The writes of so many passes. -/
def passWrites (reqReg : BitVec 32) (passes : Nat) : List FwWrite :=
  (List.replicate passes [.fallbackSet reqReg, .fallbackClear reqReg]).flatten

theorem passWrites_succ (reqReg : BitVec 32) (passes : Nat) : passWrites reqReg (passes + 1) =
    .fallbackSet reqReg :: .fallbackClear reqReg :: passWrites reqReg passes := rfl

theorem passWrites_succ_last (reqReg : BitVec 32) (passes : Nat) : passWrites reqReg (passes + 1) =
    passWrites reqReg passes ++ [.fallbackSet reqReg, .fallbackClear reqReg] := by
  rw [passWrites, List.replicate_succ', List.flatten_append]
  rfl

/-- A fallback whose acknowledge comes at pass `last`. -/
theorem fallbackPasses_until (reqReg : BitVec 32) {last left pass : Nat} (hle : pass ≤ last)
    (hlt : last < pass + left) :
    fallbackPasses reqReg (fun k => decide (last ≤ k)) left pass =
      passWrites reqReg (last - pass + 1) := by
  induction left generalizing pass with
  | zero => omega
  | succ left ih =>
      rw [fallbackPasses, passWrites_succ]
      by_cases heq : pass = last
      · rw [heq, decide_eq_true (Nat.le_refl last), if_pos rfl, Nat.sub_self]
        rfl
      · have hstep : last - pass = last - (pass + 1) + 1 := by omega
        rw [decide_eq_false (by omega), if_neg Bool.false_ne_true, ih (by omega) (by omega), hstep]

variable {reqReg ackReg val mask : BitVec 32}

/-- A pass reads the acknowledge last of all, and goes on to the next pass or ends the fallback
by what it has read. -/
theorem fallbackPass_cases {pass : Nat} {r : (Nat ⊕ Bool) × State}
    (h : (fallbackPass w reqReg ackReg val mask pass).Returns s r) :
    Effect (passWrites reqReg 1) [] [] s r.2 ∧ ∃ n rds,
      let rd := w.reading n ackReg
      r.2.reads = s.reads ++ rds ++ [⟨ackReg, rd⟩] ∧
        (pass < 10 ∧ r.1 = .inl (pass + 1) ∨ r.1 = .inr (decide (rd &&& mask = val))) := by
  obtain ⟨q₁, hpoll, h⟩ := Fueled.returns_bind_iff.mp h
  obtain ⟨q₂, hset, h⟩ := Fueled.returns_bind_iff.mp h
  obtain ⟨q₃, hpoll', h⟩ := Fueled.returns_bind_iff.mp h
  obtain ⟨q₄, hread, h⟩ := Fueled.returns_bind_iff.mp h
  obtain ⟨q₅, hclear, h⟩ := Fueled.returns_bind_iff.mp h
  obtain ⟨hread, hrd, hlast⟩ := wrapReadRegister32_effect hread
  have hpolls := ((pollRegister_effect hpoll).trans (wrapWriteRegister32_effect hset)).trans
    (pollRegister_effect hpoll')
  have hwrites : Effect (passWrites reqReg 1) [] [] s q₅.2 :=
    (hpolls.trans hread).trans (wrapWriteRegister32_effect hclear)
  obtain ⟨rds, hrds⟩ := hpolls.reads
  have hreads : q₅.2.reads = s.reads ++ rds ++ [⟨ackReg, w.reading q₃.2.regReads ackReg⟩] := by
    rw [Fueled.returns_update_iff.mp hclear, hrds, ← hrd]
    exact hlast
  rw [hrd] at h
  split at h
  · next hgo =>
      rw [Bool.and_eq_true, decide_eq_true_eq] at hgo
      rw [Fueled.returns_pure_iff.mp h]
      exact ⟨hwrites, _, rds, hreads, .inl ⟨hgo.2, rfl⟩⟩
  · rw [Fueled.returns_pure_iff.mp h]
    exact ⟨hwrites, _, rds, hreads, .inr rfl⟩

theorem Effect.pass {pass : Nat} {t t' : State} (hone : 1 ≤ pass)
    (hbefore : Effect (passWrites reqReg (pass - 1)) [] [] s t)
    (hpass : Effect (passWrites reqReg 1) [] [] t t') :
    Effect (passWrites reqReg pass) [] [] s t' := by
  have hsucc := passWrites_succ_last reqReg (pass - 1)
  rw [Nat.sub_add_cancel hone] at hsucc
  rw [hsucc]
  exact hbefore.trans hpass

/-- A fallback makes up to ten passes; it returns whether its last reading, which is one of the
acknowledge, showed what it waits for. -/
theorem forceWakeWaitAckFallback_effect {r : Bool × State}
    (h : (forceWakeWaitAckFallback w reqReg ackReg val mask).Returns s r) :
    ∃ passes n rds, (1 ≤ passes ∧ passes ≤ 10) ∧
      Effect (passWrites reqReg passes) [] [] s r.2 ∧
      r.2.reads = s.reads ++ (rds ++ [⟨ackReg, w.reading n ackReg⟩]) ∧
      r.1 = decide (w.reading n ackReg &&& mask = val) := by
  -- before pass `p` there have been `p - 1` passes
  refine @Fueled.iterate_invariant _ _ _ _
    (fun pass t => 1 ≤ pass ∧ pass ≤ 10 ∧ Effect (passWrites reqReg (pass - 1)) [] [] s t)
    (fun ack t => ∃ passes n rds, (1 ≤ passes ∧ passes ≤ 10) ∧
      Effect (passWrites reqReg passes) [] [] s t ∧
      t.reads = s.reads ++ (rds ++ [⟨ackReg, w.reading n ackReg⟩]) ∧
      ack = decide (w.reading n ackReg &&& mask = val))
    ?_ ?_ _ _ r h ⟨Nat.le_refl 1, by decide, .refl s⟩
  · rintro pass t pass' t' ⟨hone, hten, hbefore⟩ hstep
    obtain ⟨hpass, n, rds, hreads, ⟨hlt, hnext⟩ | hdone⟩ := fallbackPass_cases hstep
    · cases hnext
      exact ⟨by omega, by omega, hbefore.pass hone hpass⟩
    · cases hdone
  · rintro pass t ack t' ⟨hone, hten, hbefore⟩ hstep
    obtain ⟨hpass, n, rds, hreads, ⟨-, hnext⟩ | hdone⟩ := fallbackPass_cases hstep
    · cases hnext
    · cases hdone
      obtain ⟨earlier, hearlier⟩ := hbefore.reads
      refine ⟨pass, n, earlier ++ rds, ⟨hone, hten⟩, hbefore.pass hone hpass, ?_, rfl⟩
      rw [hreads, ← hearlier, List.append_assoc, List.append_assoc, List.append_assoc]

/-- As many passes as the fallback of `Engine.ForceWake` makes for some acknowledges. -/
theorem passWrites_eq_fallback (reqReg : BitVec 32) {passes : Nat} (hone : 1 ≤ passes)
    (hten : passes ≤ 10) :
    NootedGreen.forceWakeWaitAckFallback reqReg (fun k => decide (passes ≤ k)) =
      passWrites reqReg passes := by
  rw [NootedGreen.forceWakeWaitAckFallback, fallbackPasses_until reqReg hone (by omega),
    Nat.sub_add_cancel hone]

/-- A fallback as it should be: one to ten passes, a last reading of the acknowledge, and the
result is whether that reading is the expected one. -/
structure FallbackReport.Sound (mask val : BitVec 32) (x : FallbackReport) : Prop where
  passes : ∃ n, 1 ≤ n ∧ n ≤ 10 ∧ x.writes = passWrites x.engine.req n
  acknowledged : ∃ rd, x.reads.getLast? = some ⟨x.engine.ack, rd⟩ ∧
    x.result = decide (rd &&& mask = val)

/-- The report of a fallback tells what the fallback did. -/
theorem runFallback_effect {eng : FwEngine} {r : Bool × State}
    (h : (runFallback w eng val mask).Returns s r) :
    ∃ acks x n, Effect (NootedGreen.forceWakeWaitAckFallback eng.req acks) [x] [] s r.2 ∧
      x.engine = eng ∧ x.writes = NootedGreen.forceWakeWaitAckFallback eng.req acks ∧
      x.Sound mask val ∧ r.1 = decide (w.reading n eng.ack &&& mask = val) := by
  obtain ⟨q₁, hlook, h⟩ := Fueled.returns_bind_iff.mp h
  rw [Fueled.returns_act_iff.mp hlook] at h
  obtain ⟨q₂, hfallback, h⟩ := Fueled.returns_bind_iff.mp h
  obtain ⟨q₃, hreport, h⟩ := Fueled.returns_bind_iff.mp h
  rw [Fueled.returns_pure_iff.mp h]
  obtain ⟨passes, n, rds, ⟨hone, hten⟩, heff, hreads, hack⟩ :=
    forceWakeWaitAckFallback_effect hfallback
  have hwrites : q₂.2.writes.drop s.writes.length = passWrites eng.req passes := by
    rw [heff.writes, List.drop_left]
  have hread : q₂.2.reads.drop s.reads.length = rds ++ [⟨eng.ack, w.reading n eng.ack⟩] := by
    rw [hreads, List.drop_left]
  have heffect := heff.trans (reportFallback_effect hreport)
  rw [List.append_nil] at heffect
  rw [← passWrites_eq_fallback eng.req hone hten] at hwrites heffect
  refine ⟨fun k => decide (passes ≤ k), _, n, heffect, rfl, hwrites, ⟨?_, ?_⟩, hack⟩
  · exact ⟨passes, hone, hten, hwrites.trans (passWrites_eq_fallback eng.req hone hten)⟩
  · refine ⟨w.reading n eng.ack, ?_, hack⟩
    show (q₂.2.reads.drop s.reads.length).getLast? = _
    rw [hread, List.getLast?_concat]

/-! ## The domains -/

variable {set : Bool} {ctx : FwContext}

/-- Every reading of these acknowledge registers shows the expected bit. -/
def World.Acknowledges (w : World) (set : Bool) (ctx : FwContext) (engines : List FwEngine) :
    Prop :=
  ∀ eng ∈ engines, ∀ n, w.reading n eng.ack &&& ackMask ctx = ackExp set ctx

/-- No reading of them does. -/
def World.Silent (w : World) (set : Bool) (ctx : FwContext) (engines : List FwEngine) : Prop :=
  ∀ eng ∈ engines, ∀ n, w.reading n eng.ack &&& ackMask ctx ≠ ackExp set ctx

/-- What the requests to `engines` report, where they make the writes of `Engine.ForceWake` for
the readings `seen`. -/
structure Reported (w : World) (set : Bool) (ctx : FwContext) (engines : List FwEngine)
    (seen : Readings) (rs : List FallbackReport) (ts : List (BitVec 32)) : Prop where
  /-- The fallbacks are those of engines whose poll failed, and they are sound. -/
  fallbacks : ∀ x ∈ rs, x.engine ∈ engines ∧ x.Sound (ackMask ctx) (ackExp set ctx) ∧
    seen.polled x.engine.req = false
  /-- Whatever is written is a request or stands in one of the reports. -/
  writes : ∀ eng ∈ engines, ∀ fw ∈ requestDomain seen set ctx eng.req,
    fw = .request eng.req set ctx ∨ ∃ x ∈ rs, x.engine = eng ∧ fw ∈ x.writes
  answered : w.Acknowledges set ctx engines → ts = []
  unanswered : w.Silent set ctx engines → ts = engines.map FwEngine.req

/-- A request whose poll fails has the report of its fallback, whether or not it times out. -/
theorem Reported.fellBack {eng : FwEngine} {acks : Nat → Bool} {x : FallbackReport}
    {ts : List (BitVec 32)} (heng : x.engine = eng)
    (hwrites : x.writes = NootedGreen.forceWakeWaitAckFallback eng.req acks)
    (hsound : x.Sound (ackMask ctx) (ackExp set ctx))
    (hanswered : w.Acknowledges set ctx [eng] → ts = [])
    (hunanswered : w.Silent set ctx [eng] → ts = [eng.req]) :
    Reported w set ctx [eng] ⟨0, fun _ => false, fun _ => acks⟩ [x] ts where
  fallbacks := by
    intro y hy
    rw [List.mem_singleton.mp hy]
    exact ⟨heng ▸ List.mem_cons_self, hsound, rfl⟩
  writes := by
    intro e he fw hfw
    rw [List.mem_singleton.mp he] at hfw ⊢
    rcases List.mem_cons.mp hfw with hfw | hfw
    · exact .inl hfw
    · exact .inr ⟨x, List.mem_cons_self, heng, hwrites ▸ hfw⟩
  answered := hanswered
  unanswered := hunanswered

/-- A request makes the writes of `requestDomain`, for what its polls and its fallback saw. -/
theorem requestEngine_effect {eng : FwEngine} {r : Unit × State}
    (h : (requestEngine w set ctx eng).Returns s r) :
    ∃ seen rs ts, Effect (requestDomain seen set ctx eng.req) rs ts s r.2 ∧
      Reported w set ctx [eng] seen rs ts := by
  obtain ⟨q₁, hwrite, h⟩ := Fueled.returns_bind_iff.mp h
  obtain ⟨⟨polled, t⟩, hpoll, h⟩ := Fueled.returns_bind_iff.mp h
  have hrequest := (wrapWriteRegister32_effect hwrite).trans (pollRegister_effect hpoll)
  split at h
  · next hpolled =>
      -- an acknowledge in time: nothing else is done
      rw [Fueled.returns_pure_iff.mp h]
      replace hpolled : polled = true := hpolled
      subst hpolled
      obtain ⟨n, hn⟩ := pollRegister_true hpoll
      refine ⟨⟨0, fun _ => true, fun _ _ => true⟩, [], [], hrequest, ?_, ?_, fun _ => rfl, ?_⟩
      · exact fun x hx => absurd hx List.not_mem_nil
      · intro e he fw hfw
        exact .inl (List.mem_singleton.mp hfw)
      · exact fun hsilent => absurd hn (hsilent eng List.mem_cons_self n)
  · obtain ⟨⟨acked, u⟩, hfallback, h⟩ := Fueled.returns_bind_iff.mp h
    obtain ⟨acks, x, n, hpasses, heng, hxwrites, hsound, hack⟩ := runFallback_effect hfallback
    replace hack : acked = decide (w.reading n eng.ack &&& ackMask ctx = ackExp set ctx) := hack
    have hfell : Effect (requestDomain ⟨0, fun _ => false, fun _ => acks⟩ set ctx eng.req) [x] []
        s u := hrequest.trans hpasses
    split at h
    · next hacked =>
        rw [Fueled.returns_pure_iff.mp h]
        have hshown := of_decide_eq_true (hack.symm.trans hacked)
        exact ⟨_, [x], [], hfell, .fellBack heng hxwrites hsound (fun _ => rfl)
          fun hsilent => absurd hshown (hsilent eng List.mem_cons_self n)⟩
    · next hfailed =>
        -- the fallback has failed, so a reading was not the expected one
        have hnever : ¬ w.Acknowledges set ctx [eng] := by
          intro hshown
          exact hfailed (hack.trans (decide_eq_true (hshown eng List.mem_cons_self n)))
        obtain ⟨⟨polled', v⟩, hagain, h⟩ := Fueled.returns_bind_iff.mp h
        have hpolled := hfell.trans_quiet (pollRegister_effect hagain)
        split at h
        · next hpolled' =>
            rw [Fueled.returns_pure_iff.mp h]
            replace hpolled' : polled' = true := hpolled'
            subst hpolled'
            obtain ⟨m, hm⟩ := pollRegister_true hagain
            exact ⟨_, [x], [], hpolled, .fellBack heng hxwrites hsound (fun _ => rfl)
              fun hsilent => absurd hm (hsilent eng List.mem_cons_self m)⟩
        · have htimeout := hpolled.trans (reportTimeout_effect h)
          rw [List.append_nil] at htimeout
          exact ⟨_, [x], [eng.req], htimeout, .fellBack heng hxwrites hsound
            (fun hshown => absurd hshown hnever) fun _ => rfl⟩

/-- What was seen of one register, put into what was seen of the others. -/
def withOwn (seen : Readings) (reg : BitVec 32) (own : Readings) : Readings where
  hcMstr := seen.hcMstr
  polled := Function.update seen.polled reg (own.polled reg)
  fallbackAck := Function.update seen.fallbackAck reg (own.fallbackAck reg)

theorem requestDomain_congr {seen seen' : Readings} {reg : BitVec 32}
    (hpolled : seen.polled reg = seen'.polled reg)
    (hack : seen.fallbackAck reg = seen'.fallbackAck reg) :
    requestDomain seen set ctx reg = requestDomain seen' set ctx reg := by
  rw [requestDomain, requestDomain, hpolled, hack]

theorem withOwn_polled_same (seen own : Readings) (reg : BitVec 32) :
    (withOwn seen reg own).polled reg = own.polled reg :=
  Function.update_self ..

theorem withOwn_polled_other (seen own : Readings) {reg reg' : BitVec 32} (h : reg' ≠ reg) :
    (withOwn seen reg own).polled reg' = seen.polled reg' :=
  Function.update_of_ne h ..

theorem requestDomain_withOwn_same (seen own : Readings) (reg : BitVec 32) :
    requestDomain (withOwn seen reg own) set ctx reg = requestDomain own set ctx reg :=
  requestDomain_congr (withOwn_polled_same seen own reg) (Function.update_self ..)

theorem requestDomain_withOwn_other (seen own : Readings) {reg reg' : BitVec 32}
    (h : reg' ≠ reg) :
    requestDomain (withOwn seen reg own) set ctx reg' = requestDomain seen set ctx reg' :=
  requestDomain_congr (withOwn_polled_other seen own h) (Function.update_of_ne h ..)

/-- The reports of a request before those of requests to other registers. -/
theorem Reported.cons {eng : FwEngine} {engines : List FwEngine} {own seen : Readings}
    {rs rs' : List FallbackReport} {ts ts' : List (BitVec 32)}
    (hnot : eng.req ∉ engines.map FwEngine.req) (h : Reported w set ctx [eng] own rs ts)
    (h' : Reported w set ctx engines seen rs' ts') :
    Reported w set ctx (eng :: engines) (withOwn seen eng.req own) (rs ++ rs') (ts ++ ts') := by
  have hother : ∀ e ∈ engines, e.req ≠ eng.req := by
    intro e he heq
    exact hnot (heq ▸ List.mem_map_of_mem he)
  constructor
  · intro x hx
    rcases List.mem_append.mp hx with hx | hx
    · obtain ⟨hmem, hsound, hpolled⟩ := h.fallbacks x hx
      rw [List.mem_singleton.mp hmem] at hpolled
      refine ⟨List.mem_singleton.mp hmem ▸ List.mem_cons_self, hsound, ?_⟩
      rw [List.mem_singleton.mp hmem, withOwn_polled_same]
      exact hpolled
    · obtain ⟨hmem, hsound, hpolled⟩ := h'.fallbacks x hx
      refine ⟨List.mem_cons_of_mem _ hmem, hsound, ?_⟩
      rw [withOwn_polled_other seen own (hother _ hmem)]
      exact hpolled
  · intro e he fw hfw
    rcases List.mem_cons.mp he with rfl | he
    · rw [requestDomain_withOwn_same] at hfw
      rcases h.writes e List.mem_cons_self fw hfw with hfw | ⟨x, hx, hfw⟩
      · exact .inl hfw
      · exact .inr ⟨x, List.mem_append_left _ hx, hfw⟩
    · rw [requestDomain_withOwn_other seen own (hother e he)] at hfw
      rcases h'.writes e he fw hfw with hfw | ⟨x, hx, hfw⟩
      · exact .inl hfw
      · exact .inr ⟨x, List.mem_append_right _ hx, hfw⟩
  · intro hall
    obtain ⟨hown, hrest⟩ := List.forall_mem_cons.mp hall
    rw [h.answered (List.forall_mem_singleton.mpr hown), h'.answered hrest]
    rfl
  · intro hall
    obtain ⟨hown, hrest⟩ := List.forall_mem_cons.mp hall
    rw [h.unanswered (List.forall_mem_singleton.mpr hown), h'.unanswered hrest]
    rfl

/-- The requests to a list of engines, one after the other. -/
theorem engines_effect {engines : List FwEngine} (hnodup : (engines.map FwEngine.req).Nodup)
    {r : Unit × State} (h : (Fueled.each engines (requestEngine w set ctx)).Returns s r) :
    ∃ seen rs ts,
      Effect (engines.flatMap fun eng => requestDomain seen set ctx eng.req) rs ts s r.2 ∧
      Reported w set ctx engines seen rs ts := by
  induction engines generalizing s with
  | nil =>
      rw [Fueled.returns_each_nil_iff.mp h]
      exact ⟨⟨0, fun _ => true, fun _ _ => true⟩, [], [], .refl s,
        fun x hx => absurd hx List.not_mem_nil, fun e he => absurd he List.not_mem_nil,
        fun _ => rfl, fun _ => rfl⟩
  | cons eng engines ih =>
      obtain ⟨hnot, hnodup⟩ := List.nodup_cons.mp hnodup
      obtain ⟨q, hfirst, hrest⟩ := Fueled.returns_each_cons_iff.mp h
      obtain ⟨own, rs, ts, heff, hreported⟩ := requestEngine_effect hfirst
      obtain ⟨seen, rs', ts', heff', hreported'⟩ := ih hnodup hrest
      refine ⟨withOwn seen eng.req own, rs ++ rs', ts ++ ts', ?_, hreported.cons hnot hreported'⟩
      have htail : (engines.flatMap fun e =>
          requestDomain (withOwn seen eng.req own) set ctx e.req) =
          engines.flatMap fun e => requestDomain seen set ctx e.req := by
        refine List.flatMap_congr fun e he => requestDomain_withOwn_other seen own fun heq => ?_
        exact hnot (heq ▸ List.mem_map_of_mem he)
      rw [List.flatMap_cons, requestDomain_withOwn_same, htail]
      exact heff.trans heff'

theorem writes_effect {ws : List FwWrite} {r : Unit × State}
    (h : (Fueled.each ws wrapWriteRegister32).Returns s r) : Effect ws [] [] s r.2 := by
  induction ws generalizing s with
  | nil =>
      rw [Fueled.returns_each_nil_iff.mp h]
      exact .refl s
  | cons fw ws ih =>
      obtain ⟨q, hfirst, hrest⟩ := Fueled.returns_each_cons_iff.mp h
      exact (wrapWriteRegister32_effect hfirst).trans (ih hrest)

end Effects

/-! ## The call and its writes -/

theorem domainEngines_req {d : BitVec 32} (hd : d ∈ [0b001, 0b010, 0b100]) :
    (domainEngines d).map FwEngine.req = domainRegs d := by
  simp only [List.mem_cons, List.not_mem_nil, or_false] at hd
  rcases hd with rfl | rfl | rfl
  · rfl
  · rfl
  · rfl

theorem selectedEngines_writes (seen : Readings) (set : Bool) (dom : BitVec 32)
    (ctx : FwContext) :
    ((selectedEngines dom).flatMap fun eng => requestDomain seen set ctx eng.req) =
      requestDomains seen set dom ctx := by
  rw [selectedEngines, List.flatMap_assoc, requestDomains]
  refine List.flatMap_congr fun d hd => ?_
  rw [← domainEngines_req (List.mem_filter.mp hd).1, List.flatMap_map]

theorem selectedEngines_nodup (dom : BitVec 32) :
    ((selectedEngines dom).map FwEngine.req).Nodup := by
  have hall : (([0b001, 0b010, 0b100].flatMap domainEngines).map FwEngine.req).Nodup := by decide
  exact hall.sublist ((List.filter_sublist.flatMap domainEngines).map FwEngine.req)

/-- The call counts itself and finds out whether the hang check is due. -/
theorem enterForceWake_returns {s : State} {r : Bool × State} (h : enterForceWake.Returns s r) :
    ∃ st, r.2 = { s with statics := st } ∧ ∀ set dom ctx seen,
      s.statics.forceWake set dom ctx seen =
        (st, if r.1 then hangcheckDump seen.hcMstr ++ requestDomains seen set dom ctx
          else requestDomains seen set dom ctx) := by
  rw [Fueled.returns_act_iff.mp h]
  cases hdue : (!s.statics.hangcheckDumped && s.statics.fwCallCount + 1 == 15) with
  | false =>
      simp only [hdue, Bool.false_eq_true, if_false]
      refine ⟨_, rfl, fun set dom ctx seen => ?_⟩
      simp only [FwStatics.forceWake, hdue, Bool.false_eq_true, if_false]
  | true =>
      simp only [hdue, if_true]
      refine ⟨_, rfl, fun set dom ctx seen => ?_⟩
      simp only [FwStatics.forceWake, hdue, if_true]

/-- What a call that returns has written is what `Engine.ForceWake` lets it write, for some
readings, and it reports what it did. -/
theorem forceWake_refines {w : World} {set : Bool} {dom : BitVec 32} {ctx : FwContext} {s : State}
    {r : Unit × State} (h : (forceWake w set dom ctx).Returns s r) :
    ∃ seen rs ts, Effect (s.statics.forceWake set dom ctx seen).2 rs ts
        { s with statics := (s.statics.forceWake set dom ctx seen).1 } r.2 ∧
      Reported w set ctx (selectedEngines dom) seen rs ts := by
  obtain ⟨q, henter, h⟩ := Fueled.returns_bind_iff.mp h
  obtain ⟨st, hq, hcall⟩ := enterForceWake_returns henter
  rw [hq] at h
  split at h
  · next hdump =>
      obtain ⟨q', hdumped, h⟩ := Fueled.returns_bind_iff.mp h
      obtain ⟨q₁, hread, hwrites⟩ := Fueled.returns_bind_iff.mp hdumped
      obtain ⟨seen, rs, ts, heff, hreported⟩ := engines_effect (selectedEngines_nodup dom) h
      rw [selectedEngines_writes] at heff
      have hcheck := (wrapReadRegister32_effect hread).1.trans (writes_effect hwrites)
      refine ⟨{ seen with hcMstr := q₁.1 }, rs, ts, ?_, ⟨hreported.fallbacks, hreported.writes,
        hreported.answered, hreported.unanswered⟩⟩
      rw [hcall, if_pos hdump]
      exact hcheck.trans heff
  · next hplain =>
      obtain ⟨seen, rs, ts, heff, hreported⟩ := engines_effect (selectedEngines_nodup dom) h
      rw [selectedEngines_writes] at heff
      refine ⟨seen, rs, ts, ?_, hreported⟩
      rw [hcall, if_neg hplain]
      exact heff

end FwCall

end NootedGreen

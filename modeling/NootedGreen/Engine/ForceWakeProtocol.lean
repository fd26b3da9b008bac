/-
# `Engine.ForceWakeProtocol` — what a forcewake call leaves in the request registers

A call of `forceWake` asks for some domains, and its fallback borrows bit 15 of a request
register for a while.  Whatever the acknowledge registers read and however the clock runs, a
call that returns has left

    in a register it asked      the bit of the context as asked, bit 15 clear if it was clear
                                or the fallback ran, every other bit as before
    in any other                everything as before

and on a clock without a bound every call returns (`forceWake_protocol`).  A fallback it ran
made one to ten passes and returned `true` only on a good last reading of the acknowledge.
The registers follow from the writes of the call (`Engine.ForceWakeCall`), bit by bit; that it
returns, from the clock.  The hang check, which every boot makes once, is another story
(`Engine.ForceWake`).
-/
import Mathlib.Order.Monotone.Basic
import NootedGreen.Engine.ForceWakeCall
import NootedGreen.Lib.Bits

namespace NootedGreen

namespace FwCall

/-! ## Writes to one register -/

theorem applyWrite_eq (q : BitVec 32 → BitVec 16) (fw : FwWrite) (h : fw ≠ .masterIrq) :
    applyWrite q fw = Function.update q fw.reg (MaskedReg.write (q fw.reg) fw.value) := by
  cases fw with
  | masterIrq => exact absurd rfl h
  | acquire d => rfl
  | release d => rfl
  | request reqReg set ctx => rfl
  | fallbackSet reqReg => rfl
  | fallbackClear reqReg => rfl

theorem applyWrite_same (q : BitVec 32 → BitVec 16) (fw : FwWrite) (h : fw ≠ .masterIrq) :
    applyWrite q fw fw.reg = MaskedReg.write (q fw.reg) fw.value := by
  rw [applyWrite_eq q fw h, Function.update_self]

theorem applyWrite_other {q : BitVec 32 → BitVec 16} {fw : FwWrite} {reg : BitVec 32}
    (h : reg ≠ fw.reg) : applyWrite q fw reg = q reg := by
  by_cases hirq : fw = .masterIrq
  · rw [hirq]
    rfl
  · rw [applyWrite_eq q fw hirq, Function.update_of_ne h]

theorem applyWrites_other {q : BitVec 32 → BitVec 16} {ws : List FwWrite} {reg : BitVec 32}
    (h : ∀ fw ∈ ws, reg ≠ fw.reg) : applyWrites q ws reg = q reg := by
  induction ws generalizing q with
  | nil => rfl
  | cons fw ws ih =>
      show applyWrites (applyWrite q fw) ws reg = q reg
      rw [ih fun x hx => h x (List.mem_cons_of_mem _ hx),
        applyWrite_other (h fw List.mem_cons_self)]

/-- A request moves the bit of its context and no other. -/
theorem request_bit (q : BitVec 32 → BitVec 16) (reg : BitVec 32) (set : Bool) (ctx : FwContext)
    {i : Nat} (hi : i < 16) :
    (applyWrite q (.request reg set ctx) reg).getLsbD i =
      if i = ctx.bit then set else (q reg).getLsbD i := by
  have hmask : ∀ i, i < 16 → (requestValue set ctx).getLsbD (16 + i) = decide (i = ctx.bit) := by
    cases set <;> cases ctx <;> decide
  have hvalue : (requestValue set ctx).getLsbD ctx.bit = set := by
    cases set <;> cases ctx <;> decide
  have hwrite : applyWrite q (.request reg set ctx) reg =
      MaskedReg.write (q reg) (requestValue set ctx) :=
    applyWrite_same q _ FwWrite.noConfusion
  rw [hwrite, MaskedReg.getLsbD_write _ _ hi, hmask i hi]
  by_cases hctx : i = ctx.bit
  · rw [if_pos (decide_eq_true hctx), if_pos hctx, hctx, hvalue]
  · rw [if_neg (by rw [decide_eq_false hctx]; exact Bool.false_ne_true), if_neg hctx]

/-- A pass of the fallback leaves bit 15 clear and the others alone. -/
theorem pass_bit (q : BitVec 32 → BitVec 16) (reg : BitVec 32) {i : Nat} (hi : i < 16) :
    (applyWrites q [.fallbackSet reg, .fallbackClear reg] reg).getLsbD i =
      if i = 15 then false else (q reg).getLsbD i := by
  have hset : ∀ i, i < 16 →
      (fwSet forcewakeKernelFallback).getLsbD (16 + i) = decide (i = 15) := by decide
  have hclear : ∀ i, i < 16 →
      (fwClear forcewakeKernelFallback).getLsbD (16 + i) = decide (i = 15) := by decide
  have hzero : (fwClear forcewakeKernelFallback).getLsbD 15 = false := by decide
  have hwrites : applyWrites q [.fallbackSet reg, .fallbackClear reg] reg =
      MaskedReg.write (MaskedReg.write (q reg) (fwSet forcewakeKernelFallback))
        (fwClear forcewakeKernelFallback) := by
    have hfirst : applyWrite q (.fallbackSet reg) reg =
        MaskedReg.write (q reg) (fwSet forcewakeKernelFallback) :=
      applyWrite_same q _ FwWrite.noConfusion
    rw [← hfirst]
    exact applyWrite_same (applyWrite q (.fallbackSet reg)) (.fallbackClear reg)
      FwWrite.noConfusion
  rw [hwrites, MaskedReg.getLsbD_write _ _ hi, hclear i hi, MaskedReg.getLsbD_write _ _ hi,
    hset i hi]
  by_cases h15 : i = 15
  · rw [if_pos (decide_eq_true h15), if_pos h15, h15, hzero]
  · have hnot : ¬ decide (i = 15) = true := by
      rw [decide_eq_false h15]
      exact Bool.false_ne_true
    rw [if_neg hnot, if_neg hnot, if_neg h15]

theorem passWrites_bit (q : BitVec 32 → BitVec 16) (reg : BitVec 32) (passes : Nat) {i : Nat}
    (hi : i < 16) :
    (applyWrites q (passWrites reg (passes + 1)) reg).getLsbD i =
      if i = 15 then false else (q reg).getLsbD i := by
  induction passes with
  | zero => exact pass_bit q reg hi
  | succ passes ih =>
      rw [passWrites_succ_last, applyWrites_append, pass_bit _ _ hi, ih]
      split <;> rfl

/-- However the acknowledges come, a fallback is some number of passes, and at least one. -/
theorem fallbackPasses_eq_passWrites (reqReg : BitVec 32) (ack : Nat → Bool) (left pass : Nat) :
    ∃ passes, fallbackPasses reqReg ack (left + 1) pass = passWrites reqReg (passes + 1) := by
  induction left generalizing pass with
  | zero =>
      refine ⟨0, ?_⟩
      rw [fallbackPasses]
      split <;> rfl
  | succ left ih =>
      rw [fallbackPasses]
      split
      · exact ⟨0, rfl⟩
      · obtain ⟨passes, hpasses⟩ := ih (pass + 1)
        refine ⟨passes + 1, ?_⟩
        rw [hpasses, passWrites_succ _ (passes + 1)]

section Domains

variable (seen : Readings) (set : Bool) (ctx : FwContext)

theorem requestDomain_reg (reg : BitVec 32) :
    ∀ fw ∈ requestDomain seen set ctx reg, fw.reg = reg := by
  intro fw hfw
  obtain ⟨passes, hpasses⟩ := fallbackPasses_eq_passWrites reg (seen.fallbackAck reg) 9 1
  rw [requestDomain, NootedGreen.forceWakeWaitAckFallback, hpasses] at hfw
  rcases List.mem_cons.mp hfw with rfl | hfw
  · rfl
  split at hfw
  · exact absurd hfw List.not_mem_nil
  · obtain ⟨pair, hpair, hfw⟩ := List.mem_flatten.mp hfw
    rw [List.eq_of_mem_replicate hpair] at hfw
    rcases List.mem_cons.mp hfw with rfl | hfw
    · rfl
    · rw [List.mem_singleton.mp hfw]
      rfl

/-- The register after its own request. -/
theorem requestDomain_bit (q : BitVec 32 → BitVec 16) (reg : BitVec 32) {i : Nat} (hi : i < 16) :
    (applyWrites q (requestDomain seen set ctx reg) reg).getLsbD i =
      if i = ctx.bit then set
      else if i = 15 ∧ seen.polled reg = false then false
      else (q reg).getLsbD i := by
  have hfirst := request_bit q reg set ctx hi
  show (applyWrites (applyWrite q (.request reg set ctx)) (if seen.polled reg then [] else
    NootedGreen.forceWakeWaitAckFallback reg (seen.fallbackAck reg)) reg).getLsbD i = _
  cases hpolled : seen.polled reg with
  | true =>
      rw [if_pos rfl, if_neg (c := i = 15 ∧ true = false) fun h => Bool.noConfusion h.2]
      exact hfirst
  | false =>
      obtain ⟨passes, hpasses⟩ := fallbackPasses_eq_passWrites reg (seen.fallbackAck reg) 9 1
      rw [if_neg Bool.false_ne_true, NootedGreen.forceWakeWaitAckFallback, hpasses,
        passWrites_bit _ _ _ hi, hfirst]
      have hctx : ctx.bit ≠ 15 := by cases ctx <;> decide
      by_cases h15 : i = 15
      · rw [if_pos h15, if_neg (h15 ▸ hctx.symm), if_pos ⟨h15, rfl⟩]
      · rw [if_neg h15, if_neg (c := i = 15 ∧ false = false) fun h => h15 h.1]

/-- A register of the list after the requests to all of them. -/
theorem requestDomains_bit {regs : List (BitVec 32)} (hnodup : regs.Nodup)
    (q : BitVec 32 → BitVec 16) {reg : BitVec 32} (hreg : reg ∈ regs) {i : Nat} (hi : i < 16) :
    (applyWrites q (regs.flatMap (requestDomain seen set ctx)) reg).getLsbD i =
      if i = ctx.bit then set
      else if i = 15 ∧ seen.polled reg = false then false
      else (q reg).getLsbD i := by
  induction regs generalizing q with
  | nil => exact absurd hreg List.not_mem_nil
  | cons r regs ih =>
      obtain ⟨hnot, hnodup⟩ := List.nodup_cons.mp hnodup
      rw [List.flatMap_cons, applyWrites_append]
      rcases List.mem_cons.mp hreg with rfl | hmem
      · -- the later requests go elsewhere
        rw [applyWrites_other, requestDomain_bit _ _ _ _ _ hi]
        intro fw hfw heq
        obtain ⟨r', hr', hfw⟩ := List.mem_flatMap.mp hfw
        rw [requestDomain_reg seen set ctx r' fw hfw] at heq
        exact hnot (heq ▸ hr')
      · have hearlier : applyWrites q (requestDomain seen set ctx r) reg = q reg := by
          refine applyWrites_other fun fw hfw heq => ?_
          rw [requestDomain_reg seen set ctx r fw hfw] at heq
          exact hnot (heq ▸ hmem)
        rw [ih hnodup _ hmem, hearlier]

theorem requestDomains_other {regs : List (BitVec 32)} (q : BitVec 32 → BitVec 16)
    {reg : BitVec 32} (hreg : reg ∉ regs) :
    applyWrites q (regs.flatMap (requestDomain seen set ctx)) reg = q reg := by
  refine applyWrites_other fun fw hfw heq => ?_
  obtain ⟨r, hr, hfw⟩ := List.mem_flatMap.mp hfw
  rw [requestDomain_reg seen set ctx r fw hfw] at heq
  exact hreg (heq ▸ hr)

end Domains

/-! ## The call returns -/

/-- The clock passes every time. -/
def World.Unbounded (w : World) : Prop := ∀ time, ∃ n, time ≤ w.clock n

theorem pollStep_terminates (w : World) (reg val mask : BitVec 32) (deadline now : Nat)
    (s : State) : (pollStep w reg val mask deadline now).Terminates s := by
  refine Fueled.terminates_ite ?_ (Fueled.terminates_pure _ _)
  refine (Fueled.terminates_act _ _).bind fun q _ => ?_
  refine Fueled.terminates_ite (Fueled.terminates_pure _ _) ?_
  exact (Fueled.terminates_act _ _).bind fun q _ => Fueled.terminates_pure _ _

/-- The poll goes on only before the deadline, with the next reading of the clock. -/
theorem pollStep_next {w : World} {reg val mask : BitVec 32} {deadline now now' : Nat}
    {s s' : State} (h : (pollStep w reg val mask deadline now).Returns s (.inl now', s')) :
    now < deadline ∧ now' = w.clock s.clockReads ∧ s'.clockReads = s.clockReads + 1 := by
  obtain ⟨-, -, hr⟩ | ⟨hearly, -, hr⟩ | ⟨-, hr⟩ := pollStep_cases h
  · cases hr
  · cases hr
    exact ⟨hearly, rfl, rfl⟩
  · cases hr

section Terminates

variable {w : World} (hclock : Monotone w.clock) (hunbounded : w.Unbounded)
include hclock hunbounded

theorem pollRegister_terminates (reg val mask : BitVec 32) (timeout : Nat) (s : State) :
    (pollRegister w reg val mask timeout).Terminates s := by
  refine (Fueled.terminates_act _ _).bind fun q₁ _ => ?_
  refine (Fueled.terminates_act _ _).bind fun q₂ hq₂ => ?_
  obtain ⟨n, hn⟩ := hunbounded q₁.1
  -- `now` is the latest reading of the clock, and reading `n` is too late
  refine @Fueled.iterate_terminates _ _ _ (pollStep w reg val mask q₁.1)
    (fun now t => ∃ k, t.clockReads = k + 1 ∧ now = w.clock k) (fun _ t => n + 1 - t.clockReads)
    (fun now t _ => pollStep_terminates w reg val mask q₁.1 now t) ?_ _ _ ?_
  · rintro now t now' t' ⟨k, hreads, rfl⟩ hstep
    obtain ⟨hearly, hnow, hreads'⟩ := pollStep_next hstep
    have hk : k < n := by
      by_contra hge
      exact absurd (Nat.lt_of_lt_of_le hearly hn) (Nat.not_lt.mpr (hclock (Nat.le_of_not_lt hge)))
    exact ⟨⟨t.clockReads, hreads', hnow⟩, by omega⟩
  · rw [Fueled.returns_act_iff.mp hq₂]
    exact ⟨q₁.2.clockReads, rfl, rfl⟩

theorem forceWakeWaitAckFallback_terminates (reqReg ackReg val mask : BitVec 32) (s : State) :
    (forceWakeWaitAckFallback w reqReg ackReg val mask).Terminates s := by
  refine @Fueled.iterate_terminates _ _ _ (fallbackPass w reqReg ackReg val mask)
    (fun _ _ => True) (fun pass _ => 10 - pass) ?_ ?_ _ _ trivial
  · intro pass t _
    refine (pollRegister_terminates hclock hunbounded _ _ _ _ _).bind fun q₁ _ => ?_
    refine (Fueled.terminates_act _ _).bind fun q₂ _ => ?_
    refine (pollRegister_terminates hclock hunbounded _ _ _ _ _).bind fun q₃ _ => ?_
    refine (Fueled.terminates_act _ _).bind fun q₄ _ => ?_
    refine (Fueled.terminates_act _ _).bind fun q₅ _ => ?_
    exact Fueled.terminates_ite (Fueled.terminates_pure _ _) (Fueled.terminates_pure _ _)
  · intro pass t pass' t' _ hstep
    obtain ⟨-, n, rds, -, ⟨hlt, hnext⟩ | hdone⟩ := fallbackPass_cases hstep
    · cases hnext
      exact ⟨trivial, by omega⟩
    · cases hdone

theorem runFallback_terminates (eng : FwEngine) (val mask : BitVec 32) (s : State) :
    (runFallback w eng val mask).Terminates s := by
  refine (Fueled.terminates_act _ _).bind fun q₁ _ => ?_
  refine (forceWakeWaitAckFallback_terminates hclock hunbounded _ _ _ _ _).bind fun q₂ _ => ?_
  exact (Fueled.terminates_act _ _).bind fun q₃ _ => Fueled.terminates_pure _ _

theorem requestEngine_terminates (set : Bool) (ctx : FwContext) (eng : FwEngine) (s : State) :
    (requestEngine w set ctx eng).Terminates s := by
  refine (Fueled.terminates_act _ _).bind fun q₁ _ => ?_
  refine (pollRegister_terminates hclock hunbounded _ _ _ _ _).bind fun q₂ _ => ?_
  refine Fueled.terminates_ite (Fueled.terminates_pure _ _) ?_
  refine (runFallback_terminates hclock hunbounded _ _ _ _).bind fun q₃ _ => ?_
  refine Fueled.terminates_ite (Fueled.terminates_pure _ _) ?_
  refine (pollRegister_terminates hclock hunbounded _ _ _ _ _).bind fun q₄ _ => ?_
  exact Fueled.terminates_ite (Fueled.terminates_pure _ _) (Fueled.terminates_act _ _)

theorem forceWake_terminates (set : Bool) (dom : BitVec 32) (ctx : FwContext) (s : State) :
    (forceWake w set dom ctx).Terminates s := by
  have hrequests := Fueled.each_terminates
    (requestEngine_terminates hclock hunbounded set ctx) (selectedEngines dom)
  refine (Fueled.terminates_act _ _).bind fun q₁ _ => ?_
  refine Fueled.terminates_ite ?_ (hrequests _)
  refine Fueled.Terminates.bind ?_ fun q₂ _ => hrequests _
  refine (Fueled.terminates_act _ _).bind fun q₃ _ => ?_
  exact Fueled.each_terminates (fun _ _ => Fueled.terminates_act _ _) _ _

end Terminates

/-! ## The protocol -/

/-- The request registers of the domains in `dom`. -/
def Selected (dom reg : BitVec 32) : Prop :=
  dom.getLsbD 0 = true ∧ reg = 0xa278 ∨
    dom.getLsbD 1 = true ∧ (reg = 0xa540 ∨ reg = 0xa560) ∨
    dom.getLsbD 2 = true ∧ reg = 0xa188

/-- What a call has done to registers that held `before`. -/
structure Requested (w : World) (set : Bool) (dom : BitVec 32) (ctx : FwContext)
    (before : BitVec 32 → BitVec 16) (s : State) : Prop where
  /-- The bit of the context is as asked. -/
  context : ∀ reg, Selected dom reg → (s.requests reg).getLsbD ctx.bit = set
  /-- The fallback gives bit 15 back. -/
  fallbackBit : ∀ reg, Selected dom reg →
    ((before reg).getLsbD 15 = false ∨ ∃ x ∈ s.fallbacks, x.engine.req = reg) →
      (s.requests reg).getLsbD 15 = false
  otherBits : ∀ reg i, Selected dom reg → i ≠ ctx.bit → i ≠ 15 →
    (s.requests reg).getLsbD i = (before reg).getLsbD i
  otherRegs : ∀ reg, ¬ Selected dom reg → s.requests reg = before reg
  /-- All that is written is the requests and what the reported fallbacks write. -/
  accounted : ∀ fw ∈ s.writes, ∃ eng ∈ selectedEngines dom, fw = .request eng.req set ctx ∨
    ∃ x ∈ s.fallbacks, x.engine = eng ∧ fw ∈ x.writes
  /-- A fallback writes one to ten passes. -/
  passes : ∀ x ∈ s.fallbacks, ∃ n, 1 ≤ n ∧ n ≤ 10 ∧ x.writes = passWrites x.engine.req n
  /-- What a fallback reads last is its acknowledge, and where it returns `true` that reading is
  the expected one. -/
  acknowledged : ∀ x ∈ s.fallbacks, ∃ rd, x.reads.getLast? = some ⟨x.engine.ack, rd⟩ ∧
    (x.result = true → rd &&& ackMask ctx = ackExp set ctx)
  noTimeout : w.Acknowledges set ctx (selectedEngines dom) → s.timeouts = []
  /-- Where no reading shows the expected bit, every request is reported as timed out. -/
  timedOut : w.Silent set ctx (selectedEngines dom) →
    s.timeouts = (selectedEngines dom).map FwEngine.req

/-- Nothing written, read or reported yet. -/
def atEntry (requests : BitVec 32 → BitVec 16) (statics : FwStatics) : State where
  requests := requests
  statics := statics
  clockReads := 0
  reads := []
  writes := []
  fallbacks := []
  timeouts := []

/-- The call that makes the hang check. -/
def IsHangcheck (statics : FwStatics) : Prop :=
  statics.hangcheckDumped = false ∧ statics.fwCallCount + 1 = 15

theorem and_domain_ne_zero_iff (dom : BitVec 32) {d : BitVec 32} {i : Nat} (hi : i < 32)
    (hd : d = BitVec.twoPow 32 i) : dom &&& d ≠ 0 ↔ dom.getLsbD i = true := by
  rw [hd, ← Bool.not_eq_false, Ne, not_iff_not]
  exact Bits.and_twoPow_eq_zero_iff dom hi

theorem selectedEngines_req (dom : BitVec 32) : (selectedEngines dom).map FwEngine.req =
    ([0b001, 0b010, 0b100].filter fun d => dom &&& d ≠ 0).flatMap domainRegs := by
  rw [selectedEngines, List.map_flatMap]
  exact List.flatMap_congr fun d hd => domainEngines_req (List.mem_filter.mp hd).1

theorem selected_iff (dom reg : BitVec 32) :
    reg ∈ (selectedEngines dom).map FwEngine.req ↔ Selected dom reg := by
  have h0 : dom &&& 0b001 ≠ 0 ↔ dom.getLsbD 0 = true :=
    and_domain_ne_zero_iff dom (by decide) rfl
  have h1 : dom &&& 0b010 ≠ 0 ↔ dom.getLsbD 1 = true :=
    and_domain_ne_zero_iff dom (by decide) rfl
  have h2 : dom &&& 0b100 ≠ 0 ↔ dom.getLsbD 2 = true :=
    and_domain_ne_zero_iff dom (by decide) rfl
  rw [selectedEngines_req, Selected, ← h0, ← h1, ← h2]
  simp only [List.mem_flatMap, List.mem_filter, List.mem_cons, List.not_mem_nil, or_false,
    decide_eq_true_eq]
  constructor
  · rintro ⟨d, ⟨rfl | rfl | rfl, hdom⟩, hreg⟩
    · exact .inl ⟨hdom, List.mem_singleton.mp hreg⟩
    · refine .inr (.inl ⟨hdom, ?_⟩)
      rcases List.mem_cons.mp hreg with hreg | hreg
      · exact .inl hreg
      · exact .inr (List.mem_singleton.mp hreg)
    · exact .inr (.inr ⟨hdom, List.mem_singleton.mp hreg⟩)
  · rintro (⟨hdom, rfl⟩ | ⟨hdom, rfl | rfl⟩ | ⟨hdom, rfl⟩)
    · exact ⟨0b001, ⟨.inl rfl, hdom⟩, by decide⟩
    · exact ⟨0b010, ⟨.inr (.inl rfl), hdom⟩, by decide⟩
    · exact ⟨0b010, ⟨.inr (.inl rfl), hdom⟩, by decide⟩
    · exact ⟨0b100, ⟨.inr (.inr rfl), hdom⟩, by decide⟩

theorem forceWake_plain {statics : FwStatics} (h : ¬ IsHangcheck statics) (set : Bool)
    (dom : BitVec 32) (ctx : FwContext) (seen : Readings) :
    (statics.forceWake set dom ctx seen).2 = requestDomains seen set dom ctx := by
  have hnot : ¬ (!statics.hangcheckDumped && statics.fwCallCount + 1 == 15) = true := by
    rw [Bool.and_eq_true, Bool.not_eq_true', beq_iff_eq]
    exact h
  simp only [FwStatics.forceWake]
  rw [if_neg hnot]

theorem requested_of_returns {w : World} {requests : BitVec 32 → BitVec 16} {statics : FwStatics}
    (hcall : ¬ IsHangcheck statics) {set : Bool} {dom : BitVec 32} {ctx : FwContext} {s : State}
    (h : (forceWake w set dom ctx).Returns (atEntry requests statics) ((), s)) :
    Requested w set dom ctx requests s := by
  obtain ⟨seen, rs, ts, heff, hreported⟩ := forceWake_refines h
  have hwrites : (statics.forceWake set dom ctx seen).2 =
      ((selectedEngines dom).map FwEngine.req).flatMap (requestDomain seen set ctx) := by
    rw [forceWake_plain hcall, ← selectedEngines_writes, List.flatMap_map]
  have hrequests : s.requests = applyWrites requests
      (((selectedEngines dom).map FwEngine.req).flatMap (requestDomain seen set ctx)) := by
    rw [← hwrites]
    exact heff.requests
  have hfallbacks : s.fallbacks = rs := heff.fallbacks
  have htimeouts : s.timeouts = ts := heff.timeouts
  have hwritten : s.writes = (statics.forceWake set dom ctx seen).2 := heff.writes
  have hbit : ∀ reg i, Selected dom reg → i < 16 → (s.requests reg).getLsbD i =
      if i = ctx.bit then set
      else if i = 15 ∧ seen.polled reg = false then false
      else (requests reg).getLsbD i := by
    intro reg i hreg hi
    rw [hrequests]
    exact requestDomains_bit seen set ctx (selectedEngines_nodup dom) requests
      ((selected_iff dom reg).mpr hreg) hi
  have hctx : ctx.bit < 16 ∧ ctx.bit ≠ 15 := by cases ctx <;> decide
  constructor
  · intro reg hreg
    rw [hbit reg _ hreg hctx.1, if_pos rfl]
  · intro reg hreg hclear
    rw [hbit reg 15 hreg (by decide), if_neg hctx.2.symm]
    rcases hclear with hclear | ⟨x, hx, hxreg⟩
    · rw [hclear, ite_self]
    · rw [hfallbacks] at hx
      exact if_pos ⟨rfl, hxreg ▸ (hreported.fallbacks x hx).2.2⟩
  · intro reg i hreg hne h15
    by_cases hi : i < 16
    · rw [hbit reg i hreg hi, if_neg hne, if_neg fun h => h15 h.1]
    · rw [BitVec.getLsbD_of_ge _ _ (Nat.le_of_not_lt hi),
        BitVec.getLsbD_of_ge _ _ (Nat.le_of_not_lt hi)]
  · intro reg hreg
    rw [hrequests]
    exact requestDomains_other seen set ctx requests fun h => hreg ((selected_iff dom reg).mp h)
  · intro fw hfw
    rw [hwritten, hwrites, List.flatMap_map] at hfw
    obtain ⟨eng, heng, hmem⟩ := List.mem_flatMap.mp hfw
    rw [hfallbacks]
    exact ⟨eng, heng, hreported.writes eng heng fw hmem⟩
  · intro x hx
    exact (hreported.fallbacks x (hfallbacks ▸ hx)).2.1.passes
  · intro x hx
    obtain ⟨rd, hlast, hresult⟩ := (hreported.fallbacks x (hfallbacks ▸ hx)).2.1.acknowledged
    exact ⟨rd, hlast, fun htrue => of_decide_eq_true (hresult.symm.trans htrue)⟩
  · exact fun hall => htimeouts.trans (hreported.answered hall)
  · exact fun hall => htimeouts.trans (hreported.unanswered hall)

/-- Whenever a call returns that does not make the hang check, it has done what it was asked,
whatever the clock and the registers read; and if the clock is not bounded, it returns. -/
theorem forceWake_protocol (w : World) (hclock : Monotone w.clock)
    (requests : BitVec 32 → BitVec 16) (statics : FwStatics) (hcall : ¬ IsHangcheck statics)
    (set : Bool) (dom : BitVec 32) (ctx : FwContext) :
    (∀ s, (forceWake w set dom ctx).Returns (atEntry requests statics) ((), s) →
        Requested w set dom ctx requests s) ∧
      (w.Unbounded →
        ∃ s, (forceWake w set dom ctx).Returns (atEntry requests statics) ((), s)) := by
  constructor
  · exact fun s h => requested_of_returns hcall h
  · intro hunbounded
    obtain ⟨⟨⟨⟩, s⟩, h⟩ := forceWake_terminates hclock hunbounded set dom ctx
      (atEntry requests statics)
    exact ⟨s, h⟩

/-- The first call of a boot, for the render domain, with a clock that counts and acknowledge
registers that never answer. -/
theorem forceWake_protocol_unanswered :
    let w : World := ⟨id, fun _ _ => 0⟩
    Monotone w.clock ∧ w.Unbounded ∧
      ∃ s, (forceWake w true 1 .normal).Returns (atEntry (fun _ => 0) ⟨0, false⟩) ((), s) ∧
        Requested w true 1 .normal (fun _ => 0) s ∧ s.timeouts = [0xa278] := by
  intro w
  have hclock : Monotone w.clock := monotone_id
  have hunbounded : w.Unbounded := fun time => ⟨time, Nat.le_refl time⟩
  have hcall : ¬ IsHangcheck ⟨0, false⟩ := fun h => absurd h.2 (by decide)
  obtain ⟨hdone, hreturns⟩ :=
    forceWake_protocol w hclock (fun _ => 0) ⟨0, false⟩ hcall true 1 .normal
  obtain ⟨s, h⟩ := hreturns hunbounded
  have hzero : (0 : BitVec 32) &&& ackMask .normal ≠ ackExp true .normal := by decide
  have hsilent : w.Silent true .normal (selectedEngines 1) := fun _ _ _ => hzero
  exact ⟨hclock, hunbounded, s, h, hdone s h, (hdone s h).timedOut hsilent⟩

end FwCall

end NootedGreen

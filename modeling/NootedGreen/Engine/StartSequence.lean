/-
# `Engine.StartSequence` — what `start` does to the registers, from first to last

`start` wraps Apple's `IntelAccelerator::start`:

    before   hold the render domain; write ERROR_GEN6 and the EIRs back (V55);
             GT workarounds; let the domain go
             master interrupt, RCS0 and BCS interrupts, ERROR_GEN6 := 0 (V54, V65)
    Apple's start, ensureDisplayPipeBacking
    after    V65 again; hold the render and blitter domains; write GT_INTR_DW0 back (V42)
             registerService
             master interrupt (V47)
             write ERROR_GEN6 back up to three times, then EIR, ESR, faults, GT_INTR (V51)
             unless real TGL: stop a dead blitter ring (V51), flush TLBs and write
             ERROR_GEN6 back up to five times (V55), ERROR_GEN6 := 0 or back, EMR := ~0 (V57)
             let both domains go

The blocks do not agree on what kind of register ERROR_GEN6 is: V51 and V55 clear it by
writing ones, V54, V65 and most of V57 by writing zero.  So the results are stated over
registers of both kinds (`Lib.RegKind`).  Apple's `start` finds the register clear on either
(`start_enters_original_clean`).  At the end it is clear as well, except where the register
is a plain one and the machine is taken for real TGL: then V51 writes back what it reads,
V57 is skipped, and an error raised since V65 stays (`start_leaves_errors`).

**What is left out.**  Reads that only feed a log line, `IODelay`, the properties and the
timers of `start` (`Platform.Detection`, `Engine.Timers`, `Engine.IrqWatchdog`).  The time
the acknowledge poll is given is the number of reads it makes.
-/
import NootedGreen.Engine.InterruptEnforcement
import NootedGreen.Lib.RegKind
import NootedGreen.Mmio.GtWorkarounds

namespace NootedGreen

open RegProg

/-! ## Registers -/

def ringHead (base : BitVec 32) : BitVec 32 := base + 0x34
def ringTail (base : BitVec 32) : BitVec 32 := base + 0x30
def ringCtl (base : BitVec 32) : BitVec 32 := base + 0x3c
def ringMiMode (base : BitVec 32) : BitVec 32 := base + 0x9c
def ringEir (base : BitVec 32) : BitVec 32 := base + 0xb0
def ringEmr (base : BitVec 32) : BitVec 32 := base + 0xb4
def ringEsr (base : BitVec 32) : BitVec 32 := base + 0xb8

def gen12RingFaultReg : BitVec 32 := 0xCEC4
def gen8FaultTlbData0 : BitVec 32 := 0x4B10
def gen8FaultTlbData1 : BitVec 32 := 0x4B14
def gen11GtIntrDw0 : BitVec 32 := 0x190018
def gen11GtIntrDw1 : BitVec 32 := 0x19001c
def forcewakeRenderGen9 : BitVec 32 := 0xa278
def forcewakeBlitterGen9 : BitVec 32 := 0xa188
def forcewakeAckRenderGen9 : BitVec 32 := 0x0D84

/-- `STOP_RING` -/
def stopRing : BitVec 32 := 1 <<< 8

/-- `(1 << 16) | 1` and `(1 << 16) | 0` -/
def forcewakeHold : BitVec 32 := (1 <<< 16) ||| 1
def forcewakeRelease : BitVec 32 := (1 <<< 16) ||| 0

/-! ## The blocks -/

/-- What `start` calls outside the plugin's own register code. -/
inductive StartCall where
  | originalStart
  | ensureDisplayPipeBacking
  | registerService
  deriving DecidableEq, Repr

section Code

variable {ε : Type}

/-- A helper's call as code: read its register, write what it makes of it. -/
def RegCall.code (c : RegCall) : RegCode ε Unit := do
  let old ← get (c.offset.setWidth 32)
  put (c.offset.setWidth 32) (c.value old)

def WorkaroundList.code (l : WorkaroundList) : RegCode ε Unit := l.calls.forM RegCall.code

/-- A register written back to itself unless it reads zero. -/
def putBack (reg : BitVec 32) : RegCode ε Unit := do
  let v ← get reg
  onlyIf (v ≠ 0) (put reg v)

/-- Read the acknowledge until bit 0 is up or the time is; the last word read. -/
def pollAck : Nat → BitVec 32 → RegCode ε (BitVec 32)
  | 0, fwAck => pure fwAck
  | polls + 1, _ => do
      let fwAck ← get forcewakeAckRenderGen9
      if fwAck &&& 1 ≠ 0 then pure fwAck else pollAck polls fwAck

def clearEirs : RegCode ε Unit := do
  let rcsEir ← get (ringEir renderRingBase)
  let bcsEir ← get (ringEir bltRingBase)
  onlyIf (rcsEir ≠ 0) (put (ringEir renderRingBase) rcsEir)
  onlyIf (bcsEir ≠ 0) (put (ringEir bltRingBase) bcsEir)

/-- V55 before the original. -/
def clearStaleErrors : RegCode ε Unit := do
  let errPreStart ← get errorGen6
  onlyIf (errPreStart ≠ 0) do
    put errorGen6 errPreStart
    clearEirs

/-- From the head of `start` to V54. -/
def preStart (polls : Nat) : RegCode ε Unit := do
  put forcewakeRenderGen9 forcewakeHold
  let _ ← pollAck polls 0
  clearStaleErrors
  WorkaroundList.start.code
  put forcewakeRenderGen9 forcewakeRelease

/-- V47 -/
def enableMasterIrq : RegCode ε Unit := do
  let mstrIrq ← get gen11GfxMstrIrq
  onlyIf (mstrIrq &&& gen11MasterIrq = 0) (put gen11GfxMstrIrq gen11MasterIrq)

/-- The loop of V51, entered with what the register read. -/
def v51ClearLoop : Nat → BitVec 32 → RegCode ε Unit
  | 0, _ => pure ()
  | i + 1, errPre => do
      put errorGen6 errPre
      let errPre ← get errorGen6
      onlyIf (errPre ≠ 0) (v51ClearLoop i errPre)

/-- V51, 1: the global error register. -/
def v51ClearError : RegCode ε Unit := do
  let errPre ← get errorGen6
  onlyIf (errPre ≠ 0) (v51ClearLoop 3 errPre)

/-- V51, 2 to 5: the engines' errors, the faults and the pending interrupts. -/
def v51ClearEngines : RegCode ε Unit := do
  let rcsEir ← get (ringEir renderRingBase)
  let bcsEir ← get (ringEir bltRingBase)
  let rcsEsr ← get (ringEsr renderRingBase)
  let bcsEsr ← get (ringEsr bltRingBase)
  onlyIf (rcsEir ≠ 0) (put (ringEir renderRingBase) rcsEir)
  onlyIf (bcsEir ≠ 0) (put (ringEir bltRingBase) bcsEir)
  onlyIf (rcsEsr ≠ 0) (put (ringEsr renderRingBase) rcsEsr)
  onlyIf (bcsEsr ≠ 0) (put (ringEsr bltRingBase) bcsEsr)
  let ringFault ← get gen12RingFaultReg
  onlyIf (ringFault ≠ 0) (put gen12RingFaultReg 0)
  let tlb0 ← get gen8FaultTlbData0
  let tlb1 ← get gen8FaultTlbData1
  onlyIf (tlb0 ≠ 0 ∨ tlb1 ≠ 0) do
    put gen8FaultTlbData0 0
    put gen8FaultTlbData1 0
  let gtIntr0 ← get gen11GtIntrDw0
  let gtIntr1 ← get gen11GtIntrDw1
  onlyIf (gtIntr0 ≠ 0) (put gen11GtIntrDw0 gtIntr0)
  onlyIf (gtIntr1 ≠ 0) (put gen11GtIntrDw1 gtIntr1)

/-- V51 -/
def clearGpuErrors : RegCode ε Unit := do
  v51ClearError
  v51ClearEngines

/-- V51 on a machine that is not real TGL: a blitter ring that never started. -/
def stopDeadBcs : RegCode ε Unit := do
  let bcsCtlNow ← get (ringCtl bltRingBase)
  onlyIf (bcsCtlNow = 0) do
    put (ringMiMode bltRingBase) (stopRing ||| stopRing <<< 16)
    put (ringMiMode bltRingBase) (stopRing <<< 16)
    put (ringHead bltRingBase) 0
    put (ringTail bltRingBase) 0

/-- V55 after the original: two TLB requests, then up to five passes over the error. -/
def flushTlbs : RegCode ε Unit := do
  put 0xcee8 0x1
  put 0xcee8 0x4
  let errLoop ← get errorGen6
  let _ ← writeBack errorGen6 5 errLoop

/-- V57, 1 and 2: zero first; the bits that were set if zero changed nothing. -/
def v57ClearError : RegCode ε Unit := do
  let preErr57 ← get errorGen6
  put errorGen6 0
  let afterZero ← get errorGen6
  onlyIf (afterZero = preErr57 ∧ preErr57 ≠ 0) (put errorGen6 preErr57)

/-- V57, 3 and 4. -/
def v57MaskErrors : RegCode ε Unit := do
  put (ringEmr renderRingBase) 0xFFFFFFFF
  put (ringEmr bltRingBase) 0xFFFFFFFF
  putBack (ringEir renderRingBase)

end Code

/-- All before Apple's `start`. -/
def beforeOriginal (polls : Nat) : RegCode StartCall Unit := do
  preStart polls
  startPre

/-- From the return of `ensureDisplayPipeBacking` to `registerService`. -/
def beforeService : RegCode StartCall Unit := do
  startPost
  put forcewakeRenderGen9 forcewakeHold
  put forcewakeBlitterGen9 forcewakeHold
  putBack gen11GtIntrDw0

/-- What only a machine that is not real TGL gets. -/
def spoofedTail : RegCode StartCall Unit := do
  stopDeadBcs
  flushTlbs
  v57ClearError
  v57MaskErrors

def releaseForceWake : RegCode StartCall Unit := do
  put forcewakeRenderGen9 forcewakeRelease
  put forcewakeBlitterGen9 forcewakeRelease

/-- From V51 to the end. -/
def clearErrors (isRealTGL : Bool) : RegCode StartCall Unit := do
  clearGpuErrors
  onlyIf (isRealTGL = false) spoofedTail
  releaseForceWake

/-- All after `registerService`. -/
def startTail (isRealTGL : Bool) : RegCode StartCall Unit := do
  enableMasterIrq
  clearErrors isRealTGL

def start (polls : Nat) (isRealTGL : Bool) : RegCode StartCall Unit := do
  beforeOriginal polls
  invoke .originalStart
  invoke .ensureDisplayPipeBacking
  beforeService
  invoke .registerService
  startTail isRealTGL

/-- On the plugin's accessors the workarounds are those of `Mmio.GtWorkarounds`. -/
theorem WorkaroundList.code_window {ε : Type} (call : ε → Mmio → Mmio) (l : WorkaroundList)
    (s : Mmio) : (l.code.run (window call) s).2 = l.apply s := by
  rw [l.apply_eq_run]
  cases l <;> rfl

/-! ## What each block can write -/

/-- The nine registers of the GT workarounds. -/
def gtWorkaroundRegs : List (BitVec 32) :=
  [0x9424, 0x5f10, 0x25f10, 0x1cbf10, 0x9550, 0x7304, 0x2580, 0xfdc, 0x20e0]

def forcewakeRegs : List (BitVec 32) := [forcewakeRenderGen9, forcewakeBlitterGen9]

def routingRegs : List (BitVec 32) := [gen11RenderCopyIntrEnable, gen11Rcs0RsvdIntrMask]

/-- The engines' errors, the faults and the pending interrupts. -/
def engineErrorRegs : List (BitVec 32) :=
  [ringEir renderRingBase, ringEir bltRingBase, ringEsr renderRingBase, ringEsr bltRingBase,
    gen12RingFaultReg, gen8FaultTlbData0, gen8FaultTlbData1, gen11GtIntrDw0, gen11GtIntrDw1]

def deadBcsRegs : List (BitVec 32) :=
  [ringMiMode bltRingBase, ringHead bltRingBase, ringTail bltRingBase]

def errorMaskRegs : List (BitVec 32) := [ringEmr renderRingBase, ringEmr bltRingBase]

/-- What V57 writes besides the error register. -/
def v57Regs : List (BitVec 32) := ringEir renderRingBase :: errorMaskRegs

/-- What `start` writes on every machine, and what besides when it is not real TGL. -/
def startRegs (isRealTGL : Bool) : List (BitVec 32) :=
  [errorGen6, gen11GfxMstrIrq] ++ gtWorkaroundRegs ++ forcewakeRegs ++ routingRegs ++
    engineErrorRegs ++ bif isRealTGL then [] else 0xcee8 :: deadBcsRegs ++ errorMaskRegs

/-- What it writes after V47. -/
def tailRegs (isRealTGL : Bool) : List (BitVec 32) :=
  errorGen6 :: forcewakeRegs ++ engineErrorRegs ++
    bif isRealTGL then [] else 0xcee8 :: deadBcsRegs ++ errorMaskRegs

section Footprints

variable {ε : Type} {C : ε → Prop}

theorem RegCall.footprint_code (c : RegCall) {l : List (BitVec 32)}
    (h : c.offset.setWidth 32 ∈ l) : (c.code : RegCode ε Unit).Footprint l C :=
  .bind (.get _) fun _ => .put h

theorem startCalls_regs : ∀ c ∈ WorkaroundList.start.calls,
    c.offset.setWidth 32 ∈ gtWorkaroundRegs := by
  decide

theorem footprint_workarounds :
    (WorkaroundList.start.code : RegCode ε Unit).Footprint gtWorkaroundRegs C :=
  .forM fun c hc => c.footprint_code (startCalls_regs c hc)

theorem footprint_pollAck {l : List (BitVec 32)} (polls : Nat) (fwAck : BitVec 32) :
    (pollAck polls fwAck : RegCode ε _).Footprint l C := by
  induction polls generalizing fwAck with
  | zero => exact .pure fwAck
  | succ polls ih =>
      refine .bind (.get _) fun fwAck => ?_
      split
      · exact .pure fwAck
      · exact ih fwAck

theorem footprint_putBack (reg : BitVec 32) :
    (putBack reg : RegCode ε Unit).Footprint [reg] C :=
  .bind (.get _) fun _ => .onlyIf (.put List.mem_cons_self)

theorem footprint_clearEirs : (clearEirs : RegCode ε Unit).Footprint engineErrorRegs C :=
  .bind (.get _) fun _ => .bind (.get _) fun _ =>
    .bind (.onlyIf (.put (by decide))) fun _ => .onlyIf (.put (by decide))

theorem footprint_forceInterrupts :
    (forceInterrupts : RegCode ε Unit).Footprint routingRegs C :=
  .bind (.get _) fun _ => .bind (.put (by decide)) fun _ =>
    .bind (.get _) fun _ => .put (by decide)

theorem footprint_enableMasterIrq :
    (enableMasterIrq : RegCode ε Unit).Footprint [gen11GfxMstrIrq] C :=
  .bind (.get _) fun _ => .onlyIf (.put (by decide))

theorem footprint_v51ClearEngines :
    (v51ClearEngines : RegCode ε Unit).Footprint engineErrorRegs C :=
  .bind (.get _) fun _ => .bind (.get _) fun _ => .bind (.get _) fun _ => .bind (.get _) fun _ =>
    .bind (.onlyIf (.put (by decide))) fun _ => .bind (.onlyIf (.put (by decide))) fun _ =>
    .bind (.onlyIf (.put (by decide))) fun _ => .bind (.onlyIf (.put (by decide))) fun _ =>
    .bind (.get _) fun _ => .bind (.onlyIf (.put (by decide))) fun _ =>
    .bind (.get _) fun _ => .bind (.get _) fun _ =>
    .bind (.onlyIf (.bind (.put (by decide)) fun _ => .put (by decide))) fun _ =>
    .bind (.get _) fun _ => .bind (.get _) fun _ =>
    .bind (.onlyIf (.put (by decide))) fun _ => .onlyIf (.put (by decide))

theorem footprint_stopDeadBcs :
    (stopDeadBcs : RegCode ε Unit).Footprint deadBcsRegs C :=
  .bind (.get _) fun _ => .onlyIf (.bind (.put (by decide)) fun _ =>
    .bind (.put (by decide)) fun _ => .bind (.put (by decide)) fun _ => .put (by decide))

theorem footprint_v57MaskErrors :
    (v57MaskErrors : RegCode ε Unit).Footprint v57Regs C :=
  .bind (.put (by decide)) fun _ => .bind (.put (by decide)) fun _ =>
    .bind (.get _) fun _ => .onlyIf (.put (by decide))

theorem footprint_releaseForceWake {C : StartCall → Prop} :
    releaseForceWake.Footprint forcewakeRegs C :=
  .bind (.put (by decide)) fun _ => .put (by decide)

theorem footprint_clearErrorGen6 :
    (clearErrorGen6 : RegCode ε Unit).Footprint [errorGen6] C :=
  .bind (.get _) fun _ => .onlyIf (.put (by decide))

theorem footprint_v51ClearLoop (i : Nat) (errPre : BitVec 32) :
    (v51ClearLoop i errPre : RegCode ε Unit).Footprint [errorGen6] C := by
  induction i generalizing errPre with
  | zero => exact .pure ()
  | succ i ih => exact .bind (.put (by decide)) fun _ => .bind (.get _) fun v => .onlyIf (ih v)

theorem footprint_preStart (polls : Nat) :
    (preStart polls : RegCode ε Unit).Footprint (startRegs true) C :=
  .bind (.put (by decide)) fun _ => .bind (footprint_pollAck polls 0) fun _ =>
    .bind (.bind (.get _) fun _ => .onlyIf (.bind (.put (by decide)) fun _ =>
      footprint_clearEirs.among (by decide))) fun _ =>
    .bind (footprint_workarounds.among (by decide)) fun _ => .put (by decide)

theorem footprint_startPre :
    (startPre : RegCode ε Unit).Footprint (startRegs true) C :=
  .bind (.put (by decide)) fun _ =>
    .bind (footprint_forceInterrupts.among (by decide)) fun _ =>
    footprint_clearErrorGen6.among (by decide)

theorem footprint_startPost :
    (startPost : RegCode ε Unit).Footprint (startRegs true) C :=
  .bind (footprint_forceInterrupts.among (by decide)) fun _ =>
    .bind (.put (by decide)) fun _ => footprint_clearErrorGen6.among (by decide)

theorem footprint_clearGpuErrors :
    (clearGpuErrors : RegCode ε Unit).Footprint (tailRegs true) C :=
  .bind (.bind (.get _) fun v => .onlyIf
    ((footprint_v51ClearLoop 3 v).among (by decide))) fun _ =>
    footprint_v51ClearEngines.among (by decide)

theorem footprint_flushTlbs :
    (flushTlbs : RegCode ε Unit).Footprint (tailRegs false) C :=
  .bind (.put (by decide)) fun _ => .bind (.put (by decide)) fun _ =>
    .bind (.get _) fun v => .bind (footprint_writeBack (by decide) 5 v) fun _ => .pure ()

theorem footprint_v57ClearError :
    (v57ClearError : RegCode ε Unit).Footprint (tailRegs false) C :=
  .bind (.get _) fun _ => .bind (.put (by decide)) fun _ => .bind (.get _) fun _ =>
    .onlyIf (.put (by decide))

end Footprints

section StartFootprints

variable {C : StartCall → Prop}

theorem footprint_beforeOriginal (polls : Nat) :
    (beforeOriginal polls).Footprint (startRegs true) C :=
  .bind (footprint_preStart polls) fun _ => footprint_startPre

theorem footprint_beforeService : beforeService.Footprint (startRegs true) C :=
  .bind footprint_startPost fun _ => .bind (.put (by decide)) fun _ =>
    .bind (.put (by decide)) fun _ => (footprint_putBack _).among (by decide)

theorem footprint_spoofedTail : spoofedTail.Footprint (tailRegs false) C :=
  .bind (footprint_stopDeadBcs.among (by decide)) fun _ =>
    .bind footprint_flushTlbs fun _ => .bind footprint_v57ClearError fun _ =>
    footprint_v57MaskErrors.among (by decide)

theorem footprint_clearErrors (isRealTGL : Bool) :
    (clearErrors isRealTGL).Footprint (tailRegs isRealTGL) C := by
  have hreal : tailRegs true ⊆ tailRegs isRealTGL := by
    cases isRealTGL <;> decide
  refine .bind (footprint_clearGpuErrors.among hreal) fun _ => .bind ?_ fun _ =>
    footprint_releaseForceWake.among (by cases isRealTGL <;> decide)
  cases isRealTGL with
  | false => exact .onlyIf footprint_spoofedTail
  | true => exact .pure ()

theorem footprint_startTail (isRealTGL : Bool) :
    (startTail isRealTGL).Footprint (startRegs isRealTGL) C :=
  .bind (footprint_enableMasterIrq.among (by cases isRealTGL <;> decide)) fun _ =>
    (footprint_clearErrors isRealTGL).among (by cases isRealTGL <;> decide)

end StartFootprints

/-! ## The error register through the blocks -/

/-- ERROR_GEN6 is cleared by writing zero, or by writing ones. -/
def ErrorKind (kind : BitVec 32 → RegKind) : Prop :=
  kind errorGen6 = .plain ∨ kind errorGen6 = .writeOneToClear

section Errors

variable {ε : Type} {kind : BitVec 32 → RegKind} {call : ε → RegFile → RegFile} (s : RegFile)

/-- Reading zero and writing nothing is no different, whichever word would be written. -/
theorem ErrorKind.write_zero (h : ErrorKind kind) : (kind errorGen6).write 0 0 = 0 := by
  rcases h with h | h <;> rw [h] <;> rfl

theorem clearStaleErrors_error (h : ErrorKind kind) :
    (clearStaleErrors.run (kinded kind call) s).2 errorGen6 =
      (kind errorGen6).write (s errorGen6) (s errorGen6) := by
  have hquiet : ∀ t : RegFile, (clearEirs.run (kinded kind call) t).2 errorGen6 = t errorGen6 :=
    footprint_clearEirs.frame_quiet (by decide)
  simp only [clearStaleErrors, run_bind, run_get, kinded_read, run_onlyIf, run_put, kinded_write]
  split
  · rw [hquiet, Function.update_self]
  · next hzero =>
      rw [not_not.mp hzero, h.write_zero]
      exact not_not.mp hzero

theorem clearErrorGen6_error (h : ErrorKind kind) :
    (clearErrorGen6.run (kinded kind call) s).2 errorGen6 =
      (kind errorGen6).write (s errorGen6) 0 := by
  simp only [clearErrorGen6, run_bind, run_get, kinded_read, run_onlyIf, run_put, kinded_write]
  split
  · simp only [Function.update_self]
  · next hzero =>
      rw [not_not.mp hzero, h.write_zero]
      exact not_not.mp hzero

/-- The loop of V51 is the general one. -/
theorem run_v51ClearLoop (i : Nat) (errPre : BitVec 32) :
    ∀ s, ((onlyIf (errPre ≠ 0) (v51ClearLoop i errPre)).run (kinded kind call) s).2 =
      ((writeBack errorGen6 i errPre).run (kinded kind call) s).2 := by
  induction i generalizing errPre with
  | zero =>
      intro s
      rw [run_onlyIf, v51ClearLoop, run_pure, writeBack, run_pure]
      split <;> rfl
  | succ i ih =>
      intro s
      rw [run_onlyIf, writeBack, run_ite]
      by_cases hzero : errPre = 0
      · rw [if_neg (not_not.mpr hzero), if_pos hzero, run_pure]
      · rw [if_pos hzero, if_neg hzero, v51ClearLoop]
        simp only [run_bind, run_put, run_get, kinded_read]
        exact ih _ _

theorem writeBack_error (h : ErrorKind kind) (passes : Nat) :
    ((writeBack errorGen6 (passes + 1) (s errorGen6)).run (kinded kind call) s).2 errorGen6 =
      (kind errorGen6).write (s errorGen6) (s errorGen6) := by
  rcases h with h | h
  · rw [run_writeBack_plain s h, h]
    rfl
  · rw [run_writeBack_clears s h, h, RegKind.write, BitVec.and_not_self]
    simp only [Function.update_self]

theorem v51ClearError_error (h : ErrorKind kind) :
    (v51ClearError.run (kinded kind call) s).2 errorGen6 =
      (kind errorGen6).write (s errorGen6) (s errorGen6) := by
  rw [v51ClearError, run_bind, run_v51ClearLoop, run_get, kinded_read]
  exact writeBack_error s h 2

theorem clearGpuErrors_error (h : ErrorKind kind) :
    (clearGpuErrors.run (kinded kind call) s).2 errorGen6 =
      (kind errorGen6).write (s errorGen6) (s errorGen6) := by
  rw [clearGpuErrors, run_bind, footprint_v51ClearEngines.frame_quiet (by decide),
    v51ClearError_error s h]

/-- Zero where zero clears; the bits that were set where ones do. -/
theorem v57ClearError_error (h : ErrorKind kind) :
    (v57ClearError.run (kinded kind call) s).2 errorGen6 = 0 := by
  simp only [v57ClearError, run_bind, run_put, run_get, kinded_read, kinded_write, run_onlyIf,
    Function.update_self, Function.update_idem]
  rcases h with h | h
  · have hno : ¬ (0 = s errorGen6 ∧ s errorGen6 ≠ 0) := fun hboth => hboth.2 hboth.1.symm
    simp only [h, RegKind.write, if_neg hno, Function.update_self]
  · have hkeep : s errorGen6 &&& ~~~0 = s errorGen6 := BitVec.and_allOnes
    simp only [h, RegKind.write, hkeep, true_and]
    split
    · simp only [Function.update_self, BitVec.and_not_self]
    · next hzero =>
        simp only [Function.update_self]
        exact not_not.mp hzero

end Errors

section Tail

variable {kind : BitVec 32 → RegKind} {call : StartCall → RegFile → RegFile} (s : RegFile)

theorem spoofedTail_error (h : ErrorKind kind) :
    (spoofedTail.run (kinded kind call) s).2 errorGen6 = 0 := by
  rw [spoofedTail, run_bind, run_bind, run_bind,
    footprint_v57MaskErrors.frame_quiet (by decide)]
  exact v57ClearError_error _ h

/-- The error register at the end, from what it is when `registerService` has returned. -/
theorem startTail_error (h : ErrorKind kind) (isRealTGL : Bool) :
    ((startTail isRealTGL).run (kinded kind call) s).2 errorGen6 =
      if kind errorGen6 = .plain ∧ isRealTGL = true then s errorGen6 else 0 := by
  rw [startTail, run_bind, clearErrors, run_bind, run_bind,
    footprint_releaseForceWake.frame_quiet (by decide), run_onlyIf]
  cases isRealTGL with
  | false =>
      rw [if_pos rfl, if_neg (fun hreal => Bool.noConfusion hreal.2)]
      exact spoofedTail_error _ h
  | true =>
      rw [if_neg Bool.noConfusion]
      dsimp only
      rw [clearGpuErrors_error _ h, footprint_enableMasterIrq.frame_quiet (by decide)]
      rcases h with h | h
      · rw [h, if_pos ⟨rfl, rfl⟩]
        rfl
      · rw [h, if_neg (fun hplain => RegKind.noConfusion hplain.1), RegKind.write,
          BitVec.and_not_self]

end Tail

/-! ## What the three calls find -/

/-- The kinds of the registers `start` prepares. -/
structure StartKinds (kind : BitVec 32 → RegKind) : Prop where
  error : ErrorKind kind
  master : kind gen11GfxMstrIrq = .plain
  enable : kind gen11RenderCopyIntrEnable = .plain
  mask : kind gen11Rcs0RsvdIntrMask = .plain
  render : kind forcewakeRenderGen9 = .masked
  blitter : kind forcewakeBlitterGen9 = .masked

/-- The kinds as the source's comments have them, with either reading of ERROR_GEN6. -/
def startKind (error : RegKind) (r : BitVec 32) : RegKind :=
  if r = errorGen6 then error else if r ∈ forcewakeRegs then .masked else .plain

theorem startKind_plain : StartKinds (startKind .plain) :=
  ⟨.inl rfl, rfl, rfl, rfl, rfl, rfl⟩

theorem startKind_clear : StartKinds (startKind .writeOneToClear) :=
  ⟨.inr rfl, rfl, rfl, rfl, rfl, rfl⟩

/-- The master interrupt, RCS0 and BCS on, and their tier-2 bits not masked. -/
structure InterruptsOn (s : RegFile) : Prop where
  master : s gen11GfxMstrIrq = gen11MasterIrq
  enable : s gen11RenderCopyIntrEnable &&& wantBits = wantBits
  mask : s gen11Rcs0RsvdIntrMask &&& wantUnmasked = 0

/-- Whether the domain of a force-wake register is asked for. -/
def held (s : RegFile) (reg : BitVec 32) : Bool := (s reg).getLsbD 0

theorem held_update {kind : BitVec 32 → RegKind} {reg : BitVec 32} (h : kind reg = .masked)
    (s : RegFile) (on : Bool) :
    held (Function.update s reg
      ((kind reg).write (s reg) (if on then forcewakeHold else forcewakeRelease))) reg = on := by
  rw [held, Function.update_self, h, RegKind.write, MaskedReg.read, BitVec.getLsbD_setWidth,
    MaskedReg.getLsbD_write _ _ (by decide)]
  cases on
  · exact Bool.and_false _
  · rfl

section Entry

variable {ε : Type} {kind : BitVec 32 → RegKind} {call : ε → RegFile → RegFile} (s : RegFile)

theorem preStart_error (h : ErrorKind kind) (polls : Nat) :
    ((preStart polls).run (kinded kind call) s).2 errorGen6 =
      (kind errorGen6).write (s errorGen6) (s errorGen6) := by
  have hne : errorGen6 ≠ forcewakeRenderGen9 := by decide
  simp only [preStart, run_bind, run_put, kinded_write, Function.update_of_ne hne]
  rw [footprint_workarounds.frame_quiet (by decide), clearStaleErrors_error _ h,
    (footprint_pollAck (l := []) polls 0).frame_quiet List.not_mem_nil, Function.update_of_ne hne]

theorem preStart_released (h : kind forcewakeRenderGen9 = .masked) (polls : Nat) :
    held ((preStart polls).run (kinded kind call) s).2 forcewakeRenderGen9 = false := by
  simp only [preStart, run_bind, run_put, kinded_write]
  exact held_update h _ false

/-- Clearing the error leaves every other register. -/
theorem clearErrorGen6_frame {r : BitVec 32} (h : r ≠ errorGen6) :
    (clearErrorGen6.run (kinded kind call) s).2 r = s r :=
  footprint_clearErrorGen6.frame_quiet (fun hr => h (List.mem_singleton.mp hr)) s

theorem InterruptsOn.clearErrorGen6 {s : RegFile} (h : InterruptsOn s) :
    InterruptsOn (clearErrorGen6.run (kinded kind call) s).2 where
  master := (clearErrorGen6_frame s (by decide)).trans h.master
  enable := by rw [clearErrorGen6_frame s (by decide), h.enable]
  mask := by rw [clearErrorGen6_frame s (by decide), h.mask]

theorem forceInterrupts_enable (hk : StartKinds kind) :
    (forceInterrupts.run (kinded kind call) s).2 gen11RenderCopyIntrEnable &&& wantBits =
      wantBits := by
  simp only [forceInterrupts, run_bind, run_get, kinded_read, run_put, kinded_write, hk.enable,
    RegKind.write]
  rw [Function.update_of_ne (by decide), Function.update_self]
  exact Bits.or_and_self _ _

theorem forceInterrupts_mask (hk : StartKinds kind) :
    (forceInterrupts.run (kinded kind call) s).2 gen11Rcs0RsvdIntrMask &&& wantUnmasked = 0 := by
  simp only [forceInterrupts, run_bind, run_get, kinded_read, run_put, kinded_write, hk.mask,
    RegKind.write, Function.update_self]
  rw [BitVec.and_assoc, BitVec.and_comm (~~~wantUnmasked), BitVec.and_not_self]
  exact BitVec.and_zero

theorem forceInterrupts_frame {r : BitVec 32} (henable : r ≠ gen11RenderCopyIntrEnable)
    (hmask : r ≠ gen11Rcs0RsvdIntrMask) :
    (forceInterrupts.run (kinded kind call) s).2 r = s r := by
  simp only [forceInterrupts, run_bind, run_get, kinded_read, run_put, kinded_write]
  rw [Function.update_of_ne hmask, Function.update_of_ne henable]

theorem startPre_interruptsOn (hk : StartKinds kind) :
    InterruptsOn (startPre.run (kinded kind call) s).2 := by
  simp only [startPre, run_bind, run_put, kinded_write]
  refine .clearErrorGen6 ⟨?_, forceInterrupts_enable _ hk, forceInterrupts_mask _ hk⟩
  rw [forceInterrupts_frame _ (by decide) (by decide), Function.update_self, hk.master,
    RegKind.write]

theorem startPost_interruptsOn (hk : StartKinds kind) :
    InterruptsOn (startPost.run (kinded kind call) s).2 := by
  simp only [startPost, run_bind, run_put, kinded_write]
  refine .clearErrorGen6 ⟨?_, ?_, ?_⟩
  · rw [Function.update_self, hk.master, RegKind.write]
  · rw [Function.update_of_ne (by decide), forceInterrupts_enable _ hk]
  · rw [Function.update_of_ne (by decide), forceInterrupts_mask _ hk]

theorem startPre_error (h : ErrorKind kind) :
    (startPre.run (kinded kind call) s).2 errorGen6 = (kind errorGen6).write (s errorGen6) 0 := by
  simp only [startPre, run_bind, run_put, kinded_write]
  rw [clearErrorGen6_error _ h, forceInterrupts_frame _ (by decide) (by decide),
    Function.update_of_ne (by decide)]

theorem startPost_error (h : ErrorKind kind) :
    (startPost.run (kinded kind call) s).2 errorGen6 = (kind errorGen6).write (s errorGen6) 0 := by
  simp only [startPost, run_bind, run_put, kinded_write]
  rw [clearErrorGen6_error _ h, Function.update_of_ne (by decide),
    forceInterrupts_frame _ (by decide) (by decide)]

end Entry

section Calls

variable (kind : BitVec 32 → RegKind) (call : StartCall → RegFile → RegFile) (polls : Nat)
  (isRealTGL : Bool) (s : RegFile)

/-- The registers as Apple's `start` finds them. -/
def atOriginal : RegFile := ((beforeOriginal polls).run (kinded kind call) s).2

/-- As `ensureDisplayPipeBacking` leaves them. -/
def afterBacking : RegFile :=
  call .ensureDisplayPipeBacking (call .originalStart (atOriginal kind call polls s))

/-- As `registerService` finds them. -/
def atService : RegFile := (beforeService.run (kinded kind call) (afterBacking kind call polls s)).2

/-- As it leaves them. -/
def afterService : RegFile := call .registerService (atService kind call polls s)

theorem run_start :
    (start polls isRealTGL).run (kinded kind call) s =
      (startTail isRealTGL).run (kinded kind call) (afterService kind call polls s) := by
  simp only [start, run_bind, run_invoke]
  rfl

/-- Apple's code is entered three times, in this order. -/
theorem calls_start :
    (start polls isRealTGL).calls (kinded kind call) s =
      [(.originalStart, atOriginal kind call polls s),
        (.ensureDisplayPipeBacking, call .originalStart (atOriginal kind call polls s)),
        (.registerService, atService kind call polls s)] := by
  simp only [start, calls_bind, calls_invoke, run_invoke,
    (footprint_beforeOriginal polls).calls_eq_nil, footprint_beforeService.calls_eq_nil,
    (footprint_startTail isRealTGL).calls_eq_nil]
  rfl

theorem atOriginal_error (hk : StartKinds kind) : atOriginal kind call polls s errorGen6 = 0 := by
  rw [atOriginal, beforeOriginal, run_bind, startPre_error _ hk.error, preStart_error _ hk.error]
  -- Written back it is zero already where ones clear; where they do not, zero is written.
  rcases hk.error with h | h <;> rw [h]
  · rfl
  · rw [RegKind.write, RegKind.write, BitVec.and_not_self]
    exact BitVec.zero_and

theorem atOriginal_released (hk : StartKinds kind) :
    held (atOriginal kind call polls s) forcewakeRenderGen9 = false := by
  rw [atOriginal, beforeOriginal, run_bind, held]
  have hkeep : ∀ t : RegFile, (startPre.run (kinded kind call) t).2 forcewakeRenderGen9 =
      t forcewakeRenderGen9 := by
    intro t
    simp only [startPre, run_bind, run_put, kinded_write]
    rw [clearErrorGen6_frame _ (by decide), forceInterrupts_frame _ (by decide) (by decide),
      Function.update_of_ne (by decide)]
  rw [hkeep]
  exact preStart_released s hk.render polls

theorem putBack_frame {r reg : BitVec 32} (h : r ≠ reg) (t : RegFile) :
    ((putBack reg).run (kinded kind call) t).2 r = t r :=
  (footprint_putBack reg).frame_quiet (fun hr => h (List.mem_singleton.mp hr)) t

/-- From V65 to `registerService` only the domains and GT_INTR_DW0 are written. -/
theorem atService_frame {r : BitVec 32} (hrender : r ≠ forcewakeRenderGen9)
    (hblitter : r ≠ forcewakeBlitterGen9) (hintr : r ≠ gen11GtIntrDw0) :
    atService kind call polls s r =
      (startPost.run (kinded kind call) (afterBacking kind call polls s)).2 r := by
  simp only [atService, beforeService, run_bind, run_put, kinded_write]
  rw [putBack_frame kind call hintr, Function.update_of_ne hblitter, Function.update_of_ne hrender]

theorem atService_held (hk : StartKinds kind) :
    held (atService kind call polls s) forcewakeRenderGen9 = true ∧
      held (atService kind call polls s) forcewakeBlitterGen9 = true := by
  simp only [atService, beforeService, run_bind, run_put, kinded_write, held]
  constructor
  · rw [putBack_frame kind call (by decide), Function.update_of_ne (by decide)]
    exact held_update hk.render _ true
  · rw [putBack_frame kind call (by decide)]
    exact held_update hk.blitter _ true

/-- Whatever the registers are, Apple's `start` is entered once, with no error pending, the
interrupts on and the render domain let go; `registerService` once, later, with the interrupts
on and both domains held, and no error pending if zero clears the register. -/
theorem start_enters_original_clean (hk : StartKinds kind) :
    ∃ original service : RegFile,
      (start polls isRealTGL).calls (kinded kind call) s =
        [(.originalStart, original),
          (.ensureDisplayPipeBacking, call .originalStart original),
          (.registerService, service)] ∧
      original errorGen6 = 0 ∧ InterruptsOn original ∧
      held original forcewakeRenderGen9 = false ∧
      InterruptsOn service ∧ held service forcewakeRenderGen9 = true ∧
      held service forcewakeBlitterGen9 = true ∧
      (kind errorGen6 = .plain → service errorGen6 = 0) := by
  refine ⟨_, _, calls_start kind call polls isRealTGL s, atOriginal_error kind call polls s hk, ?_,
    atOriginal_released kind call polls s hk, ?_, (atService_held kind call polls s hk).1,
    (atService_held kind call polls s hk).2, ?_⟩
  · rw [atOriginal, beforeOriginal, run_bind]
    exact startPre_interruptsOn _ hk
  · have hpost :
        InterruptsOn (startPost.run (kinded kind call) (afterBacking kind call polls s)).2 :=
      startPost_interruptsOn _ hk
    exact ⟨by rw [atService_frame _ _ _ _ (by decide) (by decide) (by decide), hpost.master],
      by rw [atService_frame _ _ _ _ (by decide) (by decide) (by decide), hpost.enable],
      by rw [atService_frame _ _ _ _ (by decide) (by decide) (by decide), hpost.mask]⟩
  · intro hplain
    rw [atService_frame _ _ _ _ (by decide) (by decide) (by decide), startPost_error _ hk.error,
      hplain, RegKind.write]

end Calls

/-- Every register all ones, and ERROR_GEN6 cleared by ones. -/
theorem start_enters_original_clean_of_ones :
    ∃ original service : RegFile,
      (start 1 true).calls (kinded (startKind .writeOneToClear) fun _ s => s)
          (fun _ => 0xFFFFFFFF) =
        [(.originalStart, original), (.ensureDisplayPipeBacking, original),
          (.registerService, service)] ∧
      original errorGen6 = 0 ∧ InterruptsOn original ∧
      held original forcewakeRenderGen9 = false := by
  obtain ⟨original, service, hcalls, herror, hon, hreleased, _⟩ :=
    start_enters_original_clean (startKind .writeOneToClear) (fun _ s => s) 1 true
      (fun _ => 0xFFFFFFFF) startKind_clear
  exact ⟨original, service, hcalls, herror, hon, hreleased⟩

/-! ## What it leaves -/

section Calls

variable (kind : BitVec 32 → RegKind) (call : StartCall → RegFile → RegFile) (polls : Nat)
  (isRealTGL : Bool) (s : RegFile)

theorem startTail_released (hk : StartKinds kind) :
    held ((startTail isRealTGL).run (kinded kind call) s).2 forcewakeRenderGen9 = false ∧
      held ((startTail isRealTGL).run (kinded kind call) s).2 forcewakeBlitterGen9 = false := by
  simp only [startTail, clearErrors, releaseForceWake, run_bind, run_put, kinded_write]
  constructor
  · rw [held, Function.update_of_ne (by decide)]
    exact held_update hk.render _ false
  · exact held_update hk.blitter _ false

theorem enableMasterIrq_master (hk : StartKinds kind) :
    (enableMasterIrq.run (kinded kind call) s).2 gen11GfxMstrIrq &&& gen11MasterIrq ≠ 0 := by
  simp only [enableMasterIrq, run_bind, run_get, kinded_read, run_onlyIf, run_put, kinded_write]
  split
  · simp only [Function.update_self, hk.master, RegKind.write]
    decide
  · next hon => exact hon

/-- Nothing after V47 writes the master interrupt. -/
theorem startTail_master (hk : StartKinds kind) :
    ((startTail isRealTGL).run (kinded kind call) s).2 gen11GfxMstrIrq &&& gen11MasterIrq ≠ 0 := by
  rw [startTail, run_bind,
    (footprint_clearErrors isRealTGL).frame_quiet (by cases isRealTGL <;> decide)]
  exact enableMasterIrq_master kind call s hk

theorem v57MaskErrors_masks (hrcs : kind (ringEmr renderRingBase) = .plain)
    (hbcs : kind (ringEmr bltRingBase) = .plain) :
    ∀ r ∈ errorMaskRegs, (v57MaskErrors.run (kinded kind call) s).2 r = 0xFFFFFFFF := by
  intro r hr
  have hne : r ≠ ringEir renderRingBase := by
    rintro rfl
    exact absurd hr (by decide)
  simp only [v57MaskErrors, run_bind, run_put, kinded_write, hrcs, hbcs, RegKind.write]
  rw [putBack_frame kind call hne]
  rcases List.mem_pair.mp hr with rfl | rfl
  · rw [Function.update_of_ne (by decide), Function.update_self]
  · rw [Function.update_self]

/-- V57 masks the engines' errors, and only the domains are written after it. -/
theorem startTail_masks (hrcs : kind (ringEmr renderRingBase) = .plain)
    (hbcs : kind (ringEmr bltRingBase) = .plain) :
    ∀ r ∈ errorMaskRegs,
      ((startTail false).run (kinded kind call) s).2 r = 0xFFFFFFFF := by
  intro r hr
  have hwake : r ∉ forcewakeRegs := by
    rcases List.mem_pair.mp hr with rfl | rfl <;> decide
  rw [startTail, run_bind, clearErrors, run_bind, run_bind,
    footprint_releaseForceWake.frame_quiet hwake, run_onlyIf, if_pos rfl, spoofedTail, run_bind,
    run_bind, run_bind]
  exact v57MaskErrors_masks kind call _ hrcs hbcs r hr

/-- At the end the master interrupt is on and no domain is held.  ERROR_GEN6 is clear, unless
it is a plain register on a machine taken for real TGL: there it is as `registerService` left
it.  On any other machine the engines' errors are masked. -/
theorem start_leaves_errors (hk : StartKinds kind) (hrcs : kind (ringEmr renderRingBase) = .plain)
    (hbcs : kind (ringEmr bltRingBase) = .plain) :
    ∃ service final : RegFile,
      (.registerService, service) ∈ (start polls isRealTGL).calls (kinded kind call) s ∧
      ((start polls isRealTGL).run (kinded kind call) s).2 = final ∧
      final errorGen6 = (if kind errorGen6 = .plain ∧ isRealTGL = true
        then call .registerService service errorGen6 else 0) ∧
      final gen11GfxMstrIrq &&& gen11MasterIrq ≠ 0 ∧
      held final forcewakeRenderGen9 = false ∧ held final forcewakeBlitterGen9 = false ∧
      (isRealTGL = false → ∀ r ∈ errorMaskRegs, final r = 0xFFFFFFFF) := by
  refine ⟨atService kind call polls s, _, ?_, congrArg Prod.snd (run_start kind call _ _ s),
    startTail_error _ hk.error isRealTGL, startTail_master kind call isRealTGL _ hk,
    (startTail_released kind call isRealTGL _ hk).1,
    (startTail_released kind call isRealTGL _ hk).2, ?_⟩
  · rw [calls_start]
    exact .tail _ (.tail _ (.head _))
  · rintro rfl
    exact startTail_masks kind call _ hrcs hbcs

/-- An error that `registerService` leaves in a plain register outlives `start` on real TGL. -/
theorem start_leaves_errors_raised :
    ((start 1 true).run (kinded (startKind .plain) fun e s =>
      if e = .registerService then Function.update s errorGen6 0x7b else s) fun _ => 0).2
      errorGen6 = 0x7b := by
  obtain ⟨service, final, _, hfinal, herror, _⟩ :=
    start_leaves_errors (startKind .plain) (fun e s =>
      if e = .registerService then Function.update s errorGen6 0x7b else s) 1 true (fun _ => 0)
      startKind_plain rfl rfl
  rw [hfinal, herror, if_pos ⟨rfl, rfl⟩, if_pos rfl, Function.update_self]

end Calls

end NootedGreen

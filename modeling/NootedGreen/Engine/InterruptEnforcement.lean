/-
# `Engine.InterruptEnforcement` — RCS0 and BCS interrupts, enabled four times over

Apple's code leaves the render engine's interrupt disabled, so the plugin sets it again
and again: before and after the original `start`, in the watchdog V54 and in the health
monitor V60.  Each place means to leave

    GEN11_RENDER_COPY_INTR_ENABLE    bits 0 (RCS0) and 15 (BCS) set
    GEN11_RCS0_RSVD_INTR_MASK        bits 8 (context switch) and 0 (user) clear

with all other bits as they were, and each tests something else before it writes:

    place        enable register       mask register
    start pre    always                always
    start post   always                always
    V60 monitor  unless both are set   if one is masked
    V54 watchdog unless RCS0 is set    if one is masked

So the watchdog leaves BCS off whenever it finds RCS0 on (`interrupts_enforced_iff`).

**What is left out.**  Reads that only feed a log line, `IODelay`, and what the monitor
does to Apple's objects.  The monitor bails out when the registers are not mapped; here
they are.
-/
import NootedGreen.Lib.Bits
import NootedGreen.Mmio.Storage

namespace NootedGreen

/-! ## Registers -/

def errorGen6 : BitVec 32 := 0x40A0
def gen11GfxMstrIrq : BitVec 32 := 0x190010
def gen11RenderCopyIntrEnable : BitVec 32 := 0x190030
def gen11Rcs0RsvdIntrMask : BitVec 32 := 0x190090

/-- `RING_EMR(RENDER_RING_BASE)`, `RING_CONTEXT_STATUS_PTR(RENDER_RING_BASE)`. -/
def renderRingEmr : BitVec 32 := 0x20b4
def renderContextStatusPtr : BitVec 32 := 0x23a0

/-- `GEN11_MASTER_IRQ` -/
def gen11MasterIrq : BitVec 32 := 1#32 <<< 31

/-- `(1 << GEN11_RCS0) | (1 << GEN11_BCS)` -/
def wantBits : BitVec 32 := 1#32 <<< 0 ||| 1#32 <<< 15

/-- `GT_CONTEXT_SWITCH_INTERRUPT | GT_RENDER_USER_INTERRUPT` -/
def wantUnmasked : BitVec 32 := 1#32 <<< 8 ||| 1#32 <<< 0

/-! ## The four places -/

section Code

variable {ε : Type}

def clearErrorGen6 : RegCode ε Unit := do
  let err ← RegProg.get errorGen6
  RegProg.onlyIf (err ≠ 0) (RegProg.put errorGen6 0)

/-- Both interrupts, unconditionally; V65 before and after the original `start`. -/
def forceInterrupts : RegCode ε Unit := do
  let rcIntr ← RegProg.get gen11RenderCopyIntrEnable
  RegProg.put gen11RenderCopyIntrEnable (rcIntr ||| wantBits)
  let rcsMask ← RegProg.get gen11Rcs0RsvdIntrMask
  RegProg.put gen11Rcs0RsvdIntrMask (rcsMask &&& ~~~wantUnmasked)

/-- V54 and V65 just before the original `start` is called. -/
def startPre : RegCode ε Unit := do
  RegProg.put gen11GfxMstrIrq gen11MasterIrq
  forceInterrupts
  clearErrorGen6

/-- V65 right after the original `start` has returned. -/
def startPost : RegCode ε Unit := do
  forceInterrupts
  RegProg.put gen11GfxMstrIrq gen11MasterIrq
  clearErrorGen6

def v54IrqWatchdog : RegCode ε Unit := do
  let mstrIrq ← RegProg.get gen11GfxMstrIrq
  RegProg.onlyIf (mstrIrq &&& gen11MasterIrq = 0) (RegProg.put gen11GfxMstrIrq gen11MasterIrq)
  let rcIntrEn ← RegProg.get gen11RenderCopyIntrEnable
  -- the bits wanted are both, the bit tested is one
  RegProg.onlyIf (rcIntrEn &&& 1#32 <<< 0 = 0)
    (RegProg.put gen11RenderCopyIntrEnable (rcIntrEn ||| wantBits))
  let rcsMask ← RegProg.get gen11Rcs0RsvdIntrMask
  RegProg.onlyIf (rcsMask &&& wantUnmasked ≠ 0)
    (RegProg.put gen11Rcs0RsvdIntrMask (rcsMask &&& ~~~wantUnmasked))
  clearErrorGen6

/-- V64: the software's read pointer of the context status buffer follows the hardware's. -/
def advanceCsb : RegCode ε Unit := do
  let csbPtrNow ← RegProg.get renderContextStatusPtr
  let writeIdx := (csbPtrNow >>> 8) &&& 0x7
  let readIdx := csbPtrNow &&& 0x7
  RegProg.onlyIf (writeIdx ≠ readIdx)
    (RegProg.put renderContextStatusPtr ((csbPtrNow &&& ~~~0x7) ||| (writeIdx &&& 0x7)))

/-- `v60GpuHealthMonitor` through its V65 block, in its `v60Count`-th firing. -/
def v60GpuHealthMonitorV65 (v60Count : Nat) : RegCode ε Unit := do
  let realErr ← RegProg.get errorGen6
  let emr ← RegProg.get renderRingEmr
  RegProg.onlyIf (realErr ≠ 0) (RegProg.put errorGen6 0)
  RegProg.onlyIf (emr ≠ 0xFFFFFFFF) (RegProg.put renderRingEmr 0xFFFFFFFF)
  RegProg.onlyIf (v60Count = 3) advanceCsb
  let rcIntrEn ← RegProg.get gen11RenderCopyIntrEnable
  let rcsMask ← RegProg.get gen11Rcs0RsvdIntrMask
  RegProg.onlyIf (rcIntrEn &&& wantBits ≠ wantBits)
    (RegProg.put gen11RenderCopyIntrEnable (rcIntrEn ||| wantBits))
  RegProg.onlyIf (rcsMask &&& wantUnmasked ≠ 0)
    (RegProg.put gen11Rcs0RsvdIntrMask (rcsMask &&& ~~~wantUnmasked))

end Code

/-- Where the interrupts are enforced. -/
inductive EnforcementPoint where
  | startPre
  | startPost
  | v54IrqWatchdog
  | v60GpuHealthMonitor (v60Count : Nat)
  deriving DecidableEq, Repr

def EnforcementPoint.code : EnforcementPoint → RegCode Empty Unit
  | .startPre => NootedGreen.startPre
  | .startPost => NootedGreen.startPost
  | .v54IrqWatchdog => NootedGreen.v54IrqWatchdog
  | .v60GpuHealthMonitor v60Count => v60GpuHealthMonitorV65 v60Count

/-- A register file with nothing outside it. -/
abbrev regFile : Device (BitVec 32) (BitVec 32) Empty RegFile := RegProg.plain fun e => e.elim

/-- The registers after the point. -/
def EnforcementPoint.after (p : EnforcementPoint) (s : RegFile) : RegFile :=
  (p.code.run regFile s).2

/-- Both enable bits set, both mask bits clear, the rest of the two registers as before. -/
structure InterruptsEnforced (before after : RegFile) : Prop where
  enable : after gen11RenderCopyIntrEnable = before gen11RenderCopyIntrEnable ||| wantBits
  mask : after gen11Rcs0RsvdIntrMask = before gen11Rcs0RsvdIntrMask &&& ~~~wantUnmasked

/-! ## What each block leaves -/

section Blocks

variable (s : RegFile) {r : BitVec 32}

theorem clearErrorGen6_other (h : r ≠ errorGen6) :
    ((clearErrorGen6 : RegCode Empty Unit).run regFile s).2 r = s r := by
  rw [clearErrorGen6, RegProg.run_bind, RegProg.run_onlyIf_put_other _ _ h, RegProg.run_get,
    RegProg.plain_read]

theorem advanceCsb_other (h : r ≠ renderContextStatusPtr) :
    ((advanceCsb : RegCode Empty Unit).run regFile s).2 r = s r := by
  rw [advanceCsb, RegProg.run_bind]
  dsimp only
  rw [RegProg.run_onlyIf_put_other _ _ h, RegProg.run_get, RegProg.plain_read]

theorem onlyIf_advanceCsb_other {c : Prop} {_ : Decidable c} (h : r ≠ renderContextStatusPtr) :
    ((RegProg.onlyIf c advanceCsb : RegCode Empty Unit).run regFile s).2 r = s r := by
  rw [RegProg.run_onlyIf]
  split
  · exact advanceCsb_other s h
  · rfl

theorem forceInterrupts_enforced :
    InterruptsEnforced s ((forceInterrupts : RegCode Empty Unit).run regFile s).2 := by
  have hne : gen11RenderCopyIntrEnable ≠ gen11Rcs0RsvdIntrMask := by decide
  simp only [forceInterrupts, RegProg.run_bind, RegProg.run_get, RegProg.plain_read,
    RegProg.run_put, RegProg.plain_write]
  constructor
  · rw [Function.update_of_ne hne, Function.update_self]
  · rw [Function.update_self, Function.update_of_ne hne.symm]

theorem v54IrqWatchdog_enable :
    ((v54IrqWatchdog : RegCode Empty Unit).run regFile s).2 gen11RenderCopyIntrEnable =
      if s gen11RenderCopyIntrEnable &&& 1#32 <<< 0 = 0
        then s gen11RenderCopyIntrEnable ||| wantBits else s gen11RenderCopyIntrEnable := by
  simp (disch := decide) only [v54IrqWatchdog, RegProg.run_bind, RegProg.run_get,
    RegProg.plain_read, clearErrorGen6_other, RegProg.run_onlyIf_put_same,
    RegProg.run_onlyIf_put_other]

theorem v54IrqWatchdog_mask :
    ((v54IrqWatchdog : RegCode Empty Unit).run regFile s).2 gen11Rcs0RsvdIntrMask =
      if s gen11Rcs0RsvdIntrMask &&& wantUnmasked ≠ 0
        then s gen11Rcs0RsvdIntrMask &&& ~~~wantUnmasked else s gen11Rcs0RsvdIntrMask := by
  simp (disch := decide) only [v54IrqWatchdog, RegProg.run_bind, RegProg.run_get,
    RegProg.plain_read, clearErrorGen6_other, RegProg.run_onlyIf_put_same,
    RegProg.run_onlyIf_put_other]

theorem v60GpuHealthMonitorV65_enable (v60Count : Nat) :
    ((v60GpuHealthMonitorV65 v60Count : RegCode Empty Unit).run regFile s).2
        gen11RenderCopyIntrEnable =
      if s gen11RenderCopyIntrEnable &&& wantBits ≠ wantBits
        then s gen11RenderCopyIntrEnable ||| wantBits else s gen11RenderCopyIntrEnable := by
  simp (disch := decide) only [v60GpuHealthMonitorV65, RegProg.run_bind, RegProg.run_get,
    RegProg.plain_read, onlyIf_advanceCsb_other, RegProg.run_onlyIf_put_same,
    RegProg.run_onlyIf_put_other]

theorem v60GpuHealthMonitorV65_mask (v60Count : Nat) :
    ((v60GpuHealthMonitorV65 v60Count : RegCode Empty Unit).run regFile s).2
        gen11Rcs0RsvdIntrMask =
      if s gen11Rcs0RsvdIntrMask &&& wantUnmasked ≠ 0
        then s gen11Rcs0RsvdIntrMask &&& ~~~wantUnmasked else s gen11Rcs0RsvdIntrMask := by
  simp (disch := decide) only [v60GpuHealthMonitorV65, RegProg.run_bind, RegProg.run_get,
    RegProg.plain_read, onlyIf_advanceCsb_other, RegProg.run_onlyIf_put_same,
    RegProg.run_onlyIf_put_other]

end Blocks

/-! ## The postcondition -/

section Postcondition

variable (s : RegFile)

/-- What is done to other registers before and after does not matter. -/
theorem InterruptsEnforced.congr {before before' after after' : RegFile}
    (h : InterruptsEnforced before after)
    (hbefore : ∀ r, r ≠ gen11GfxMstrIrq → before r = before' r)
    (hafter : ∀ r, r ≠ gen11GfxMstrIrq → r ≠ errorGen6 → after' r = after r) :
    InterruptsEnforced before' after' := by
  constructor
  · rw [hafter _ (by decide) (by decide), h.enable, hbefore _ (by decide)]
  · rw [hafter _ (by decide) (by decide), h.mask, hbefore _ (by decide)]

theorem startPre_enforced :
    InterruptsEnforced s ((startPre : RegCode Empty Unit).run regFile s).2 := by
  rw [startPre, RegProg.run_bind, RegProg.run_bind, RegProg.run_put, RegProg.plain_write]
  refine (forceInterrupts_enforced (Function.update s gen11GfxMstrIrq gen11MasterIrq)).congr ?_ ?_
  · intro r hr
    exact Function.update_of_ne hr _ _
  · intro r _ hr
    exact clearErrorGen6_other _ hr

theorem startPost_enforced :
    InterruptsEnforced s ((startPost : RegCode Empty Unit).run regFile s).2 := by
  rw [startPost, RegProg.run_bind, RegProg.run_bind, RegProg.run_put, RegProg.plain_write]
  refine (forceInterrupts_enforced s).congr (fun _ _ => rfl) ?_
  intro r hmstr herr
  rw [clearErrorGen6_other _ herr]
  exact Function.update_of_ne hmstr _ _

theorem v60GpuHealthMonitorV65_enforced (v60Count : Nat) : InterruptsEnforced s
    ((v60GpuHealthMonitorV65 v60Count : RegCode Empty Unit).run regFile s).2 where
  enable := (v60GpuHealthMonitorV65_enable s v60Count).trans (Bits.ite_or _ _)
  mask := (v60GpuHealthMonitorV65_mask s v60Count).trans (Bits.ite_and_not _ _)

theorem and_rcs0_eq_zero_iff (x : BitVec 32) : x &&& 1#32 <<< 0 = 0 ↔ x.getLsbD 0 = false := by
  rw [show (1#32 <<< 0) = BitVec.twoPow 32 0 from by decide]
  exact Bits.and_twoPow_eq_zero_iff x (by decide)

theorem or_wantBits_eq_self_iff (x : BitVec 32) :
    x ||| wantBits = x ↔ x.getLsbD 0 = true ∧ x.getLsbD 15 = true := by
  have hbits : ∀ i, i < 32 → wantBits.getLsbD i = (decide (i = 0) || decide (i = 15)) := by decide
  constructor
  · intro h
    constructor
    · rw [← h, BitVec.getLsbD_or, hbits 0 (by decide)]
      exact Bool.or_true _
    · rw [← h, BitVec.getLsbD_or, hbits 15 (by decide)]
      exact Bool.or_true _
  · rintro ⟨hrcs, hbcs⟩
    refine BitVec.eq_of_getLsbD_eq fun i hi => ?_
    rw [BitVec.getLsbD_or, hbits i hi]
    by_cases h0 : i = 0
    · rw [h0, hrcs, Bool.true_or]
    · by_cases h15 : i = 15
      · rw [h15, hbcs, Bool.true_or]
      · rw [decide_eq_false h0, decide_eq_false h15, Bool.or_false, Bool.or_false]

theorem v54IrqWatchdog_enforced_iff :
    InterruptsEnforced s ((v54IrqWatchdog : RegCode Empty Unit).run regFile s).2 ↔
      (s gen11RenderCopyIntrEnable).getLsbD 0 = false ∨
        (s gen11RenderCopyIntrEnable).getLsbD 15 = true := by
  have henable := v54IrqWatchdog_enable s
  have hmask := (v54IrqWatchdog_mask s).trans (Bits.ite_and_not _ _)
  cases hrcs : (s gen11RenderCopyIntrEnable).getLsbD 0 with
  | false =>
      rw [if_pos ((and_rcs0_eq_zero_iff _).mpr hrcs)] at henable
      exact iff_of_true ⟨henable, hmask⟩ (.inl rfl)
  | true =>
      have hset : ¬ s gen11RenderCopyIntrEnable &&& 1#32 <<< 0 = 0 := by
        rw [and_rcs0_eq_zero_iff, hrcs]
        exact Bool.noConfusion
      rw [if_neg hset] at henable
      constructor
      · intro h
        exact .inr ((or_wantBits_eq_self_iff _).mp (h.enable.symm.trans henable)).2
      · intro h
        have hbcs := h.resolve_left Bool.noConfusion
        exact ⟨henable.trans ((or_wantBits_eq_self_iff _).mpr ⟨hrcs, hbcs⟩).symm, hmask⟩

end Postcondition

/-- Every place enforces both interrupts from every register file, except the watchdog
where it finds RCS0 enabled and BCS not. -/
theorem interrupts_enforced_iff (p : EnforcementPoint) (s : RegFile) :
    InterruptsEnforced s (p.after s) ↔
      (p = .v54IrqWatchdog →
        (s gen11RenderCopyIntrEnable).getLsbD 0 = false ∨
          (s gen11RenderCopyIntrEnable).getLsbD 15 = true) := by
  cases p with
  | startPre =>
      exact iff_of_true (startPre_enforced s) fun h => EnforcementPoint.noConfusion h
  | startPost =>
      exact iff_of_true (startPost_enforced s) fun h => EnforcementPoint.noConfusion h
  | v54IrqWatchdog =>
      exact (v54IrqWatchdog_enforced_iff s).trans ⟨fun h _ => h, fun h => h rfl⟩
  | v60GpuHealthMonitor v60Count =>
      exact iff_of_true (v60GpuHealthMonitorV65_enforced s v60Count)
        fun h => EnforcementPoint.noConfusion h

/-- RCS0 is on and BCS is off: the watchdog sees nothing to do. -/
theorem watchdog_leaves_bcs_off :
    ¬ InterruptsEnforced (fun _ => 1) (EnforcementPoint.v54IrqWatchdog.after fun _ => 1) := by
  intro h
  rcases (v54IrqWatchdog_enforced_iff fun _ => 1).mp h with hrcs | hbcs
  · exact absurd hrcs (by decide)
  · exact absurd hbcs (by decide)

/-! ## In the mapped window -/

/-- The registers of the four places lie in the first `0x190094` bytes. -/
theorem EnforcementPoint.code_reaches (p : EnforcementPoint) :
    p.code.Reaches (PlainReg 0x190094) := by
  have hmstr : PlainReg 0x190094 gen11GfxMstrIrq := by decide
  have henable : PlainReg 0x190094 gen11RenderCopyIntrEnable := by decide
  have hmask : PlainReg 0x190094 gen11Rcs0RsvdIntrMask := by decide
  have herr : PlainReg 0x190094 errorGen6 := by decide
  have hclear : (clearErrorGen6 : RegCode Empty Unit).Reaches (PlainReg 0x190094) :=
    .bind (.get herr) fun _ => .onlyIf _ (.put herr _)
  have hforce : (forceInterrupts : RegCode Empty Unit).Reaches (PlainReg 0x190094) :=
    .bind (.get henable) fun _ => .bind (.put henable _) fun _ =>
      .bind (.get hmask) fun _ => .put hmask _
  cases p with
  | startPre => exact .bind (.put hmstr _) fun _ => .bind hforce fun _ => hclear
  | startPost => exact .bind hforce fun _ => .bind (.put hmstr _) fun _ => hclear
  | v54IrqWatchdog =>
      exact .bind (.get hmstr) fun _ => .bind (.onlyIf _ (.put hmstr _)) fun _ =>
        .bind (.get henable) fun _ => .bind (.onlyIf _ (.put henable _)) fun _ =>
          .bind (.get hmask) fun _ => .bind (.onlyIf _ (.put hmask _)) fun _ => hclear
  | v60GpuHealthMonitor v60Count =>
      have hemr : PlainReg 0x190094 renderRingEmr := by decide
      have hcsb : PlainReg 0x190094 renderContextStatusPtr := by decide
      exact .bind (.get herr) fun _ => .bind (.get hemr) fun _ =>
        .bind (.onlyIf _ (.put herr _)) fun _ => .bind (.onlyIf _ (.put hemr _)) fun _ =>
          .bind (.onlyIf _ (.bind (.get hcsb) fun _ => .onlyIf _ (.put hcsb _))) fun _ =>
            .bind (.get henable) fun _ => .bind (.get hmask) fun _ =>
              .bind (.onlyIf _ (.put henable _)) fun _ => .onlyIf _ (.put hmask _)

/-- Run through the plugin's accessors, a place leaves in the window what it leaves in the
register file the window shows. -/
theorem EnforcementPoint.after_window (p : EnforcementPoint) {m : Mmio} {s : RegFile}
    (h : Views 0x190094 m s) :
    Views 0x190094 (p.code.run (window fun e => e.elim) m).2 (p.after s) :=
  run_window (fun e => e.elim) p.code_reaches h

end NootedGreen

/-
# `Engine.Supervisors` — the register repairs side by side

Thirteen places of the plugin repair the same six registers.  They run on different threads
(Apple's `start`, the 50 ms enforcer, the 2 s watchdog and monitor, the reset hook, the caller
of `forceWake`), nobody takes a lock, and each is a plain read, test and write:

    register                repaired to           by
    GFX_MSTR_IRQ            bit 31 alone          start, V47, V54, forceWake's hang check
    RENDER_COPY_INTR_EN     old | wantBits        start, V54, V60
    RCS0_RSVD_INTR_MASK     old & ~wantUnmasked   start, V54, V60
    EMR of RCS and BCS      all ones              V57, V60, V71, resetGraphicsEngine
    ERROR_GEN6              0, or written back    all; written back by V51, V55, V57

What follows is over every interleaving of their single accesses, with any number of firings
of each (`Lib.Interleave`).

  * Left to themselves they never tear or lose anything: at every moment each of the six
    registers holds its first word or the repaired one (`supervisors_only_repair`).
  * Whatever Apple's code and the hardware have done before, a supervisor that has started
    and ended since has secured its goals (`supervisor_secures`).  The watchdog's goal is
    RCS0 only, as in `Engine.InterruptEnforcement`.  An ERROR_GEN6 cleared by zero stays
    clear only as long as no V51, V55 or V57 is under way: one of these may have read the
    error before it was cleared, and then puts it back (`writeBack_revives`).

**What is left out.**  Reads that only feed a log line, `IODelay`; of the monitor all but its
V65 block.  Apple's code and the hardware are arbitrary changes of the registers between two
accesses; so are `readAndClearInterrupts`, `beginReset` and `endReset`, which do not repair the
interrupt registers but switch them off and set them up anew.
-/
import Mathlib.Tactic.FinCases
import NootedGreen.Engine.StartSequence
import NootedGreen.Engine.Timers
import NootedGreen.Lib.Interleave

namespace NootedGreen

open RegProg

/-! ## The code -/

section Code

variable {ε : Type}

/-- `v71EmrEnforcer` up to its re-arming. -/
def emrEnforcement : RegCode ε Unit := do
  let emrRcs ← get (ringEmr renderRingBase)
  let emrBcs ← get (ringEmr bltRingBase)
  onlyIf (emrRcs ≠ 0xFFFFFFFF) (put (ringEmr renderRingBase) 0xFFFFFFFF)
  onlyIf (emrBcs ≠ 0xFFFFFFFF) (put (ringEmr bltRingBase) 0xFFFFFFFF)
  clearErrorGen6

/-- V71 before and after Apple's `resetGraphicsEngine`. -/
def suppressErrors : RegCode ε Unit := do
  clearErrorGen6
  put (ringEmr renderRingBase) 0xFFFFFFFF
  put (ringEmr bltRingBase) 0xFFFFFFFF

/-- The dump of `forceWake`'s fifteenth call, both wells held around V47's test. -/
def hangcheck : RegCode ε Unit := do
  put forcewakeRenderGen9 forcewakeHold
  put forcewakeBlitterGen9 forcewakeHold
  enableMasterIrq
  put forcewakeRenderGen9 forcewakeRelease
  put forcewakeBlitterGen9 forcewakeRelease

end Code

/-- On the plugin's accessors the enforcer is that of `Engine.Timers`. -/
theorem enforceMasks_eq_run {ε : Type} (call : ε → Mmio → Mmio) (s : Mmio) :
    enforceMasks s = (emrEnforcement.run (window call) s).2 := by
  simp only [emrEnforcement, clearErrorGen6, run_bind, run_get, run_onlyIf_put]
  rfl

/-- The places that repair, each as the code it runs without a call to Apple's. -/
inductive Supervisor where
  | startPre
  | startPost
  | v47
  | v51
  | v54IrqWatchdog
  | v55Pre
  | v55Post
  | v57
  | v60GpuHealthMonitor (v60Count : Nat)
  | v71EmrEnforcer
  | resetGraphicsEngine
  | fbController
  | hangcheck
  deriving DecidableEq, Repr

def Supervisor.code : Supervisor → RegCode Empty Unit
  | .startPre => NootedGreen.startPre
  | .startPost => NootedGreen.startPost
  | .v47 => enableMasterIrq
  | .v51 => clearGpuErrors
  | .v54IrqWatchdog => NootedGreen.v54IrqWatchdog
  | .v55Pre => clearStaleErrors
  | .v55Post => flushTlbs
  | .v57 => do
      v57ClearError
      v57MaskErrors
  | .v60GpuHealthMonitor v60Count => v60GpuHealthMonitorV65 v60Count
  | .v71EmrEnforcer => emrEnforcement
  | .resetGraphicsEngine => suppressErrors
  | .fbController => clearErrorGen6
  | .hangcheck => NootedGreen.hangcheck

/-- Those that write back an error they have read. -/
def Supervisor.writesBack : Supervisor → Bool
  | .v51 | .v55Pre | .v55Post | .v57 => true
  | _ => false

/-! ## The reset hook -/

/-- What `resetGraphicsEngine` calls outside the plugin's own register code. -/
inductive ResetCall where
  | originalReset
  deriving DecidableEq, Repr

def resetGraphicsEngine : RegCode ResetCall Unit := do
  WorkaroundList.reset.code
  suppressErrors
  invoke .originalReset
  suppressErrors

/-! ## Registers and kinds -/

def supervisedRegs : List (BitVec 32) :=
  [gen11GfxMstrIrq, gen11RenderCopyIntrEnable, gen11Rcs0RsvdIntrMask, ringEmr renderRingBase,
    ringEmr bltRingBase, errorGen6]

/-- Disjointness of two lists of registers by evaluation. -/
theorem notMem_of_all {l l' : List (BitVec 32)} (h : l.all (fun r => decide (r ∉ l')) = true) :
    ∀ r ∈ l, r ∉ l' := fun r hr =>
  of_decide_eq_true (List.all_eq_true.mp h r hr)

/-- What the supervisors make of the word `w` in register `r`. -/
def repaired (r w : BitVec 32) : BitVec 32 :=
  if r = gen11GfxMstrIrq then gen11MasterIrq
  else if r = gen11RenderCopyIntrEnable then w ||| wantBits
  else if r = gen11Rcs0RsvdIntrMask then w &&& ~~~wantUnmasked
  else if r = ringEmr renderRingBase ∨ r = ringEmr bltRingBase then 0xFFFFFFFF
  else if r = errorGen6 then 0
  else w

section Repaired

variable (w : BitVec 32)

@[simp] theorem repaired_master : repaired gen11GfxMstrIrq w = gen11MasterIrq := rfl

@[simp] theorem repaired_enable : repaired gen11RenderCopyIntrEnable w = w ||| wantBits := rfl

@[simp] theorem repaired_mask : repaired gen11Rcs0RsvdIntrMask w = w &&& ~~~wantUnmasked := rfl

@[simp] theorem repaired_rcs : repaired (ringEmr renderRingBase) w = 0xFFFFFFFF := rfl

@[simp] theorem repaired_bcs : repaired (ringEmr bltRingBase) w = 0xFFFFFFFF := rfl

@[simp] theorem repaired_error : repaired errorGen6 w = 0 := rfl

/-- A second repair changes nothing. -/
theorem repaired_repaired (r : BitVec 32) : repaired r (repaired r w) = repaired r w := by
  unfold repaired
  split
  · rfl
  · split
    · rw [BitVec.or_assoc, BitVec.or_self]
    · split
      · rw [BitVec.and_assoc, BitVec.and_self]
      · split
        · rfl
        · split <;> rfl

end Repaired

/-- All but ERROR_GEN6 hold what is written. -/
structure SupervisedKinds (kind : BitVec 32 → RegKind) : Prop where
  error : ErrorKind kind
  plain : ∀ r ∈ supervisedRegs, r ≠ errorGen6 → kind r = .plain

theorem startKind_supervised (error : RegKind) (h : ErrorKind (startKind error)) :
    SupervisedKinds (startKind error) where
  error := h
  plain := by
    intro r hr hne
    have hwake : r ∉ forcewakeRegs := notMem_of_all (by decide) r hr
    rw [startKind, if_neg hne, if_neg hwake]

section Reset

variable {ε : Type} {kind : BitVec 32 → RegKind} {call : ε → RegFile → RegFile}

theorem resetCalls_regs : ∀ c ∈ WorkaroundList.reset.calls,
    c.offset.setWidth 32 ∈ gtWorkaroundRegs := by
  decide

theorem footprint_resetWorkarounds {C : ε → Prop} :
    (WorkaroundList.reset.code : RegCode ε Unit).Footprint gtWorkaroundRegs C :=
  .forM fun c hc => c.footprint_code (resetCalls_regs c hc)

theorem footprint_suppressErrors {C : ε → Prop} :
    (suppressErrors : RegCode ε Unit).Footprint (errorGen6 :: errorMaskRegs) C :=
  .bind (footprint_clearErrorGen6.among (by decide)) fun _ => .bind (.put (by decide)) fun _ =>
    .put (by decide)

theorem suppressErrors_masks (hk : SupervisedKinds kind) (s : RegFile) :
    ∀ r ∈ errorMaskRegs, (suppressErrors.run (kinded kind call) s).2 r = 0xFFFFFFFF := by
  intro r hr
  have hrcs : kind (ringEmr renderRingBase) = .plain := hk.plain _ (by decide) (by decide)
  have hbcs : kind (ringEmr bltRingBase) = .plain := hk.plain _ (by decide) (by decide)
  simp only [suppressErrors, run_bind, run_put, kinded_write, hrcs, hbcs, RegKind.write]
  rcases List.mem_pair.mp hr with rfl | rfl
  · rw [Function.update_of_ne (by decide), Function.update_self]
  · rw [Function.update_self]

theorem suppressErrors_error (hk : SupervisedKinds kind) (s : RegFile) :
    (suppressErrors.run (kinded kind call) s).2 errorGen6 =
      (kind errorGen6).write (s errorGen6) 0 := by
  simp only [suppressErrors, run_bind, run_put, kinded_write]
  rw [Function.update_of_ne (by decide), Function.update_of_ne (by decide),
    clearErrorGen6_error s hk.error]

/-- Apple's reset is entered once, with both engines' errors masked, and whatever it does they
are masked when the hook returns; a plain ERROR_GEN6 is clear both times, one cleared by ones
is as Apple's reset left it.  No other register is touched after that reset. -/
theorem reset_masks_errors (hk : SupervisedKinds kind)
    (call : ResetCall → RegFile → RegFile) (s : RegFile) :
    ∃ entered final : RegFile,
      resetGraphicsEngine.calls (kinded kind call) s = [(.originalReset, entered)] ∧
      (resetGraphicsEngine.run (kinded kind call) s).2 = final ∧
      (∀ r ∈ errorMaskRegs, entered r = 0xFFFFFFFF ∧ final r = 0xFFFFFFFF) ∧
      (kind errorGen6 = .plain → entered errorGen6 = 0 ∧ final errorGen6 = 0) ∧
      (kind errorGen6 = .writeOneToClear →
        final errorGen6 = call .originalReset entered errorGen6) ∧
      ∀ r ∉ errorGen6 :: errorMaskRegs, final r = call .originalReset entered r := by
  let workarounds := (WorkaroundList.reset.code.run (kinded kind call) s).2
  refine ⟨(suppressErrors.run (kinded kind call) workarounds).2, _, ?_, rfl, ?_⟩
  · simp only [resetGraphicsEngine, calls_bind, calls_invoke, run_invoke,
      footprint_resetWorkarounds.calls_eq_nil, footprint_suppressErrors.calls_eq_nil]
    rfl
  · simp only [resetGraphicsEngine, run_bind, run_invoke]
    have hmasks : ∀ t : RegFile, ∀ r ∈ errorMaskRegs,
        (suppressErrors.run (kinded kind call) t).2 r = 0xFFFFFFFF := suppressErrors_masks hk
    refine ⟨fun r hr => ⟨hmasks _ r hr, hmasks _ r hr⟩, ?_, ?_, ?_⟩
    · intro hplain
      simp only [suppressErrors_error hk, hplain, RegKind.write, and_self]
    · intro hclear
      rw [suppressErrors_error hk, hclear, RegKind.write]
      exact BitVec.and_allOnes
    · exact fun r hr => footprint_suppressErrors.frame_quiet hr _

/-- A reset that unmasks everything and raises an error. -/
theorem reset_masks_errors_raised :
    (resetGraphicsEngine.run (kinded (startKind .plain) fun _ _ _ => 0x5) fun _ => 0).2
        (ringEmr bltRingBase) = 0xFFFFFFFF := by
  obtain ⟨entered, final, _, hfinal, hmasks, _⟩ :=
    reset_masks_errors (startKind_supervised .plain (.inl rfl)) (fun _ _ _ => 0x5) fun _ => 0
  rw [hfinal]
  exact (hmasks _ (by decide)).2

end Reset

/-! ## Nothing but repairs -/

section Repair

variable {kind : BitVec 32 → RegKind} {call : Empty → RegFile → RegFile}

/-- Each supervised register is as at first, or repaired. -/
def Repairing (s₀ s : RegFile) : Prop :=
  ∀ r ∈ supervisedRegs, s r = s₀ r ∨ s r = repaired r (s₀ r)

variable {s₀ : RegFile}

theorem Repairing.refl (s₀ : RegFile) : Repairing s₀ s₀ := fun _ _ => .inl rfl

/-- What a supervisor may take a register to hold. -/
def Seen (s₀ : RegFile) (r v : BitVec 32) : Prop :=
  r ∈ supervisedRegs → v = s₀ r ∨ v = repaired r (s₀ r)

theorem keeps_read {γ : Type} {r : BitVec 32} {f : BitVec 32 → RegCode Empty γ}
    (h : ∀ v, Seen s₀ r v → (f v).Keeps (kinded kind call) (Repairing s₀) (Repairing s₀)) :
    (get r >>= f).Keeps (kinded kind call) (Repairing s₀) (Repairing s₀) :=
  .get_bind fun s hs => ⟨id, h (s r) fun hr => hs r hr⟩

/-- A write is safe that leaves the register as at first or repaired, whichever it was. -/
theorem keeps_write {r v : BitVec 32}
    (h : ∀ old, Seen s₀ r old → Seen s₀ r ((kind r).write old v)) :
    (put r v : RegCode Empty Unit).Keeps (kinded kind call) (Repairing s₀) (Repairing s₀) := by
  refine .put fun s hs _ r' hr' => ?_
  rw [kinded_write]
  by_cases heq : r' = r
  · subst heq
    rw [Function.update_self]
    exact h (s r') (fun _ => hs r' hr') hr'
  · rw [Function.update_of_ne heq]
    exact hs r' hr'

theorem keeps_plain (hk : SupervisedKinds kind) {r v : BitVec 32} (hne : r ≠ errorGen6)
    (h : Seen s₀ r v) :
    (put r v : RegCode Empty Unit).Keeps (kinded kind call) (Repairing s₀) (Repairing s₀) := by
  refine keeps_write fun old hold hr => ?_
  rw [hk.plain r hr hne]
  exact h hr

/-- Repairing a word read earlier is as good as repairing the present one. -/
theorem Seen.repaired {r w : BitVec 32} (h : Seen s₀ r w) : Seen s₀ r (repaired r w) := by
  intro hr
  rcases h hr with rfl | rfl
  · exact .inr rfl
  · exact .inr (repaired_repaired _ r)

/-- The error register is emptied, left, or given back what it held. -/
theorem keeps_error (hk : SupervisedKinds kind) {v : BitVec 32}
    (h : v = 0 ∨ v = s₀ errorGen6) :
    (put errorGen6 v : RegCode Empty Unit).Keeps (kinded kind call) (Repairing s₀)
      (Repairing s₀) := by
  refine keeps_write fun old hold hr => ?_
  rw [repaired_error]
  rcases hk.error with hkind | hkind <;> rw [hkind, RegKind.write]
  · exact h.symm
  · have hold := hold hr
    rw [repaired_error] at hold
    rcases hold with rfl | rfl
    · rcases h with rfl | rfl
      · exact .inl BitVec.and_allOnes
      · exact .inr (BitVec.and_not_self _)
    · exact .inr BitVec.zero_and

theorem Seen.error {v : BitVec 32} (h : Seen s₀ errorGen6 v) : v = 0 ∨ v = s₀ errorGen6 :=
  (h (by decide)).symm

theorem keeps_clearErrorGen6 (hk : SupervisedKinds kind) :
    (clearErrorGen6 : RegCode Empty Unit).Keeps (kinded kind call) (Repairing s₀)
      (Repairing s₀) :=
  keeps_read fun _ _ => .onlyIf (keeps_error hk (.inl rfl))

theorem keeps_master (hk : SupervisedKinds kind) :
    (put gen11GfxMstrIrq gen11MasterIrq : RegCode Empty Unit).Keeps (kinded kind call)
      (Repairing s₀) (Repairing s₀) :=
  keeps_plain hk (by decide) fun _ => .inr rfl

theorem keeps_enable (hk : SupervisedKinds kind) {v : BitVec 32}
    (h : Seen s₀ gen11RenderCopyIntrEnable v) :
    (put gen11RenderCopyIntrEnable (v ||| wantBits) : RegCode Empty Unit).Keeps
      (kinded kind call) (Repairing s₀) (Repairing s₀) :=
  keeps_plain hk (by decide) h.repaired

theorem keeps_mask (hk : SupervisedKinds kind) {v : BitVec 32}
    (h : Seen s₀ gen11Rcs0RsvdIntrMask v) :
    (put gen11Rcs0RsvdIntrMask (v &&& ~~~wantUnmasked) : RegCode Empty Unit).Keeps
      (kinded kind call) (Repairing s₀) (Repairing s₀) :=
  keeps_plain hk (by decide) h.repaired

theorem keeps_emr (hk : SupervisedKinds kind) {r : BitVec 32} (hr : r ∈ errorMaskRegs) :
    (put r 0xFFFFFFFF : RegCode Empty Unit).Keeps (kinded kind call) (Repairing s₀)
      (Repairing s₀) := by
  rcases List.mem_pair.mp hr with rfl | rfl
  · exact keeps_plain hk (by decide) fun _ => .inr rfl
  · exact keeps_plain hk (by decide) fun _ => .inr rfl

/-- Code that writes none of the supervised registers. -/
theorem keeps_elsewhere {γ : Type} {l : List (BitVec 32)} {p : RegCode Empty γ}
    (h : p.Footprint l fun _ => False) (hl : ∀ r ∈ supervisedRegs, r ∉ l) :
    p.Keeps (kinded kind call) (Repairing s₀) (Repairing s₀) := by
  refine h.keeps (fun _ _ hs => hs) (fun r v hrl s hs r' hr' => ?_) fun e => e.elim
  have hne : r' ≠ r := fun heq => hl r' hr' (heq ▸ hrl)
  rw [kinded_write, Function.update_of_ne hne]
  exact hs r' hr'

theorem keeps_forceInterrupts (hk : SupervisedKinds kind) :
    (forceInterrupts : RegCode Empty Unit).Keeps (kinded kind call) (Repairing s₀)
      (Repairing s₀) :=
  keeps_read fun _ henable => .bind (keeps_enable hk henable) fun _ =>
    keeps_read fun _ hmask => keeps_mask hk hmask

theorem keeps_v51ClearLoop (hk : SupervisedKinds kind) (i : Nat) :
    ∀ v, Seen s₀ errorGen6 v → (v51ClearLoop i v : RegCode Empty Unit).Keeps (kinded kind call)
      (Repairing s₀) (Repairing s₀) := by
  induction i with
  | zero => exact fun _ _ => .pure ()
  | succ i ih =>
      exact fun v hv => .bind (keeps_error hk hv.error) fun _ =>
        keeps_read fun v hv => .onlyIf (ih v hv)

theorem keeps_writeBack (hk : SupervisedKinds kind) (passes : Nat) :
    ∀ v, Seen s₀ errorGen6 v → (writeBack errorGen6 passes v : RegCode Empty _).Keeps
      (kinded kind call) (Repairing s₀) (Repairing s₀) := by
  induction passes with
  | zero => exact fun v _ => .pure v
  | succ passes ih =>
      intro v hv
      rw [writeBack]
      split
      · exact .pure v
      · exact .bind (keeps_error hk hv.error) fun _ => keeps_read ih

/-- Every supervisor, one register at a time. -/
theorem Supervisor.keeps (hk : SupervisedKinds kind) (sup : Supervisor) :
    sup.code.Keeps (kinded kind call) (Repairing s₀) (Repairing s₀) := by
  have hengines : ∀ r ∈ supervisedRegs, r ∉ engineErrorRegs := notMem_of_all (by decide)
  cases sup with
  | startPre =>
      exact .bind (keeps_master hk) fun _ => .bind (keeps_forceInterrupts hk) fun _ =>
        keeps_clearErrorGen6 hk
  | startPost =>
      exact .bind (keeps_forceInterrupts hk) fun _ => .bind (keeps_master hk) fun _ =>
        keeps_clearErrorGen6 hk
  | v47 => exact keeps_read fun _ _ => .onlyIf (keeps_master hk)
  | v51 =>
      exact .bind (keeps_read fun v hv => .onlyIf (keeps_v51ClearLoop hk 3 v hv)) fun _ =>
        keeps_elsewhere footprint_v51ClearEngines hengines
  | v54IrqWatchdog =>
      exact keeps_read fun _ _ => .bind (.onlyIf (keeps_master hk)) fun _ =>
        keeps_read fun _ henable => .bind (.onlyIf (keeps_enable hk henable)) fun _ =>
        keeps_read fun _ hmask => .bind (.onlyIf (keeps_mask hk hmask)) fun _ =>
        keeps_clearErrorGen6 hk
  | v55Pre =>
      exact keeps_read fun v hv => .onlyIf (.bind (keeps_error hk hv.error) fun _ =>
        keeps_elsewhere footprint_clearEirs hengines)
  | v55Post =>
      have hflush : ∀ v : BitVec 32, (put 0xcee8 v : RegCode Empty Unit).Keeps (kinded kind call)
          (Repairing s₀) (Repairing s₀) := fun v =>
        keeps_plain hk (by decide) fun hr => absurd hr (by decide)
      exact .bind (hflush _) fun _ => .bind (hflush _) fun _ =>
        keeps_read fun v hv => .bind (keeps_writeBack hk 5 v hv) fun _ => .pure ()
  | v57 =>
      exact .bind (keeps_read fun v hv => .bind (keeps_error hk (.inl rfl)) fun _ =>
          keeps_read fun _ _ => .onlyIf (keeps_error hk hv.error)) fun _ =>
        .bind (keeps_emr hk (by decide)) fun _ => .bind (keeps_emr hk (by decide)) fun _ =>
        keeps_elsewhere (footprint_putBack _) (notMem_of_all (by decide))
  | v60GpuHealthMonitor v60Count =>
      have hcsb : (advanceCsb : RegCode Empty Unit).Keeps (kinded kind call) (Repairing s₀)
          (Repairing s₀) :=
        keeps_read fun _ _ => .onlyIf (keeps_plain hk (by decide) fun hr => absurd hr (by decide))
      exact keeps_read fun _ _ => keeps_read fun _ _ =>
        .bind (.onlyIf (keeps_error hk (.inl rfl))) fun _ =>
        .bind (.onlyIf (keeps_emr hk (by decide))) fun _ => .bind (.onlyIf hcsb) fun _ =>
        keeps_read fun _ henable => keeps_read fun _ hmask =>
        .bind (.onlyIf (keeps_enable hk henable)) fun _ => .onlyIf (keeps_mask hk hmask)
  | v71EmrEnforcer =>
      exact keeps_read fun _ _ => keeps_read fun _ _ =>
        .bind (.onlyIf (keeps_emr hk (by decide))) fun _ =>
        .bind (.onlyIf (keeps_emr hk (by decide))) fun _ => keeps_clearErrorGen6 hk
  | resetGraphicsEngine =>
      exact .bind (keeps_clearErrorGen6 hk) fun _ => .bind (keeps_emr hk (by decide)) fun _ =>
        keeps_emr hk (by decide)
  | fbController => exact keeps_clearErrorGen6 hk
  | hangcheck =>
      have hwell : ∀ r ∈ forcewakeRegs, ∀ v, (put r v : RegCode Empty Unit).Keeps
          (kinded kind call) (Repairing s₀) (Repairing s₀) := fun r hr v =>
        keeps_elsewhere (.put hr) (notMem_of_all (by decide))
      exact .bind (hwell _ (by decide) _) fun _ => .bind (hwell _ (by decide) _) fun _ =>
        .bind (keeps_read fun _ _ => .onlyIf (keeps_master hk)) fun _ =>
        .bind (hwell _ (by decide) _) fun _ => hwell _ (by decide) _

end Repair

/-! ## Interleavings -/

/-- A supervisor's thread starts, thread `i` makes its next access, or Apple's code or the
hardware changes the registers. -/
inductive SupervisorEvent where
  | fires (sup : Supervisor)
  | accesses (i : Nat)
  | apple (f : RegFile → RegFile)

def SupervisorEvent.event :
    SupervisorEvent → Pool.Event (BitVec 32) (BitVec 32) Empty Unit RegFile
  | .fires sup => .spawn sup.code
  | .accesses i => .access i
  | .apple f => .outside f

abbrev SupervisorPool := Pool (BitVec 32) (BitVec 32) Empty Unit RegFile

/-- The registers, with nothing to call. -/
abbrev supervised (kind : BitVec 32 → RegKind) :
    Device (BitVec 32) (BitVec 32) Empty RegFile :=
  kinded kind fun e => e.elim

section Interleavings

variable (kind : BitVec 32 → RegKind)

def supervisedStates (events : List SupervisorEvent) (pool : SupervisorPool) :
    List SupervisorPool :=
  Runs.states (Pool.step (supervised kind)) (events.map SupervisorEvent.event) pool

def supervisedRun (events : List SupervisorEvent) (pool : SupervisorPool) : SupervisorPool :=
  Runs.run (Pool.step (supervised kind)) (events.map SupervisorEvent.event) pool

variable {kind}

theorem supervisedRun_mem (events : List SupervisorEvent) (pool : SupervisorPool) :
    supervisedRun kind events pool ∈ supervisedStates kind events pool :=
  Runs.run_mem_states _ _ _

theorem forall_event {P : Pool.Event (BitVec 32) (BitVec 32) Empty Unit RegFile → Prop}
    {events : List SupervisorEvent} (h : ∀ e ∈ events, P e.event) :
    ∀ e ∈ events.map SupervisorEvent.event, P e := fun e he => by
  obtain ⟨e', he', rfl⟩ := List.mem_map.mp he
  exact h e' he'

/-- However many supervisors fire and however their accesses interleave, as long as nobody
else writes the six registers: each holds at every moment the word it held at first or that
word repaired. -/
theorem supervisors_only_repair (hk : SupervisedKinds kind) (s₀ : RegFile)
    (events : List SupervisorEvent)
    (happle : ∀ f, .apple f ∈ events → ∀ s, ∀ r ∈ supervisedRegs, f s r = s r) :
    ∀ t ∈ supervisedStates kind events ⟨[], s₀⟩, ∀ r ∈ supervisedRegs,
      t.state r = s₀ r ∨ t.state r = repaired r (s₀ r) := by
  refine Pool.states_inv (I := Repairing s₀) (fun p hp => absurd hp List.not_mem_nil)
    (Repairing.refl s₀) _ (forall_event fun e he => ?_)
  cases e with
  | fires sup => exact ⟨sup.keeps hk, trivial⟩
  | accesses i => exact ⟨trivial, trivial⟩
  | apple f =>
      refine ⟨trivial, fun s hs r hr => ?_⟩
      rw [happle f he s r hr]
      exact hs r hr

end Interleavings

/-- The watchdog and the enforcer, access by access in turn. -/
theorem supervisors_only_repair_in_turn :
    SupervisedKinds (startKind .plain) ∧
      ∀ t ∈ supervisedStates (startKind .plain)
          ([.fires .v54IrqWatchdog, .fires .v71EmrEnforcer] ++
            (List.replicate 8 [.accesses 0, .accesses 1]).flatten) ⟨[], fun _ => 0x7b⟩,
        ∀ r ∈ supervisedRegs, t.state r = 0x7b ∨ t.state r = repaired r 0x7b := by
  refine ⟨startKind_supervised .plain (.inl rfl), ?_⟩
  refine supervisors_only_repair (startKind_supervised .plain (.inl rfl)) (fun _ => 0x7b) _ ?_
  intro f hf
  simp at hf

/-! ## What a supervisor secures -/

inductive Goal where
  | master
  | rcs0
  | both
  | unmasked
  | rcsErrors
  | bcsErrors
  | noError
  deriving DecidableEq, Repr

def Goal.reg : Goal → BitVec 32
  | .master => gen11GfxMstrIrq
  | .rcs0 | .both => gen11RenderCopyIntrEnable
  | .unmasked => gen11Rcs0RsvdIntrMask
  | .rcsErrors => ringEmr renderRingBase
  | .bcsErrors => ringEmr bltRingBase
  | .noError => errorGen6

def Goal.Holds : Goal → BitVec 32 → Prop
  | .master, v => v &&& gen11MasterIrq ≠ 0
  | .rcs0, v => v &&& 1#32 <<< 0 ≠ 0
  | .both, v => v &&& wantBits = wantBits
  | .unmasked, v => v &&& wantUnmasked = 0
  | .rcsErrors, v => v = 0xFFFFFFFF
  | .bcsErrors, v => v = 0xFFFFFFFF
  | .noError, v => v = 0

def Goal.Met (goal : Goal) (s : RegFile) : Prop := goal.Holds (s goal.reg)

def Supervisor.goals : Supervisor → List Goal
  | .startPre | .startPost => [.master, .both, .unmasked, .noError]
  | .v47 | .hangcheck => [.master]
  | .v54IrqWatchdog => [.master, .rcs0, .unmasked, .noError]
  | .v57 => [.rcsErrors, .bcsErrors]
  | .v60GpuHealthMonitor _ => [.both, .unmasked, .rcsErrors, .noError]
  | .v71EmrEnforcer | .resetGraphicsEngine => [.rcsErrors, .bcsErrors, .noError]
  | .fbController => [.noError]
  | .v51 | .v55Pre | .v55Post => []

/-- A cleared error stays clear only where nobody writes one back. -/
def Goal.Allows (goal : Goal) (sup : Supervisor) : Prop :=
  goal = .noError → sup.writesBack = false

/-- A word that meets every goal of its register, but for errors if they are written back. -/
def Good (writesBack : Bool) (r v : BitVec 32) : Prop :=
  ∀ goal : Goal, goal.reg = r → (goal = .noError → writesBack = false) → goal.Holds v

section Good

variable {writesBack : Bool}

theorem good_master : Good writesBack gen11GfxMstrIrq gen11MasterIrq := by
  intro goal hreg _
  cases goal with
  | master => exact (by decide : gen11MasterIrq &&& gen11MasterIrq ≠ 0)
  | _ => exact absurd hreg (by decide)

theorem or_wantBits_rcs0 (v : BitVec 32) : (v ||| wantBits) &&& 1#32 <<< 0 ≠ 0 := by
  intro hzero
  have hbit := congrArg (fun w => w.getLsbD 0) hzero
  simp [wantBits] at hbit

theorem good_enable (v : BitVec 32) :
    Good writesBack gen11RenderCopyIntrEnable (v ||| wantBits) := by
  intro goal hreg _
  cases goal with
  | rcs0 => exact or_wantBits_rcs0 v
  | both => exact Bits.or_and_self v wantBits
  | _ => exact absurd hreg (by decide)

theorem and_not_wantUnmasked (v : BitVec 32) : v &&& ~~~wantUnmasked &&& wantUnmasked = 0 := by
  rw [BitVec.and_assoc, BitVec.and_comm (~~~wantUnmasked), BitVec.and_not_self]
  exact BitVec.and_zero

theorem good_mask (v : BitVec 32) :
    Good writesBack gen11Rcs0RsvdIntrMask (v &&& ~~~wantUnmasked) := by
  intro goal hreg _
  cases goal with
  | unmasked => exact and_not_wantUnmasked v
  | _ => exact absurd hreg (by decide)

theorem good_rcs : Good writesBack (ringEmr renderRingBase) 0xFFFFFFFF := by
  intro goal hreg _
  cases goal with
  | rcsErrors => rfl
  | _ => exact absurd hreg (by decide)

theorem good_bcs : Good writesBack (ringEmr bltRingBase) 0xFFFFFFFF := by
  intro goal hreg _
  cases goal with
  | bcsErrors => rfl
  | _ => exact absurd hreg (by decide)

theorem good_zero : Good writesBack errorGen6 0 := by
  intro goal hreg _
  cases goal with
  | noError => rfl
  | _ => exact absurd hreg (by decide)

theorem good_writeBack (v : BitVec 32) : Good true errorGen6 v := by
  intro goal hreg hclear
  cases goal with
  | noError => exact absurd (hclear rfl) Bool.noConfusion
  | _ => exact absurd hreg (by decide)

theorem good_elsewhere {r : BitVec 32} (h : r ∉ supervisedRegs) (v : BitVec 32) :
    Good writesBack r v := by
  rintro goal rfl _
  exact absurd (show goal.reg ∈ supervisedRegs by cases goal <;> decide) h

variable {C : Empty → Prop}

theorem good_of_footprint {γ : Type} {l : List (BitVec 32)} {p : RegCode Empty γ}
    (h : p.Footprint l C) (hl : ∀ r ∈ l, r ∉ supervisedRegs) : p.Writes (Good writesBack) C :=
  h.mono (fun r v hr => good_elsewhere (hl r hr) v) fun _ he => he

theorem good_clearErrorGen6 :
    (clearErrorGen6 : RegCode Empty Unit).Writes (Good writesBack) C :=
  .bind (.get _) fun _ => .onlyIf (.put good_zero)

theorem good_forceInterrupts :
    (forceInterrupts : RegCode Empty Unit).Writes (Good writesBack) C :=
  .bind (.get _) fun v => .bind (.put (good_enable v)) fun _ =>
    .bind (.get _) fun v => .put (good_mask v)

theorem good_v51ClearLoop (i : Nat) (v : BitVec 32) :
    (v51ClearLoop i v : RegCode Empty Unit).Writes (Good true) C := by
  induction i generalizing v with
  | zero => exact .pure ()
  | succ i ih =>
      exact .bind (.put (good_writeBack v)) fun _ => .bind (.get _) fun v => .onlyIf (ih v)

theorem good_errorWriteBack (passes : Nat) (v : BitVec 32) :
    (writeBack errorGen6 passes v : RegCode Empty _).Writes (Good true) C := by
  induction passes generalizing v with
  | zero => exact .pure v
  | succ passes ih =>
      rw [writeBack]
      split
      · exact .pure v
      · exact .bind (.put (good_writeBack v)) fun _ => .bind (.get _) ih

/-- Whatever a supervisor has read, what it writes is good. -/
theorem Supervisor.good (sup : Supervisor) : sup.code.Writes (Good sup.writesBack) C := by
  have hengines : ∀ r ∈ engineErrorRegs, r ∉ supervisedRegs := notMem_of_all (by decide)
  cases sup with
  | startPre =>
      exact .bind (.put good_master) fun _ => .bind good_forceInterrupts fun _ =>
        good_clearErrorGen6
  | startPost =>
      exact .bind good_forceInterrupts fun _ => .bind (.put good_master) fun _ =>
        good_clearErrorGen6
  | v47 => exact .bind (.get _) fun _ => .onlyIf (.put good_master)
  | v51 =>
      exact .bind (.bind (.get _) fun v => .onlyIf (good_v51ClearLoop 3 v)) fun _ =>
        good_of_footprint footprint_v51ClearEngines hengines
  | v54IrqWatchdog =>
      exact .bind (.get _) fun _ => .bind (.onlyIf (.put good_master)) fun _ =>
        .bind (.get _) fun v => .bind (.onlyIf (.put (good_enable v))) fun _ =>
        .bind (.get _) fun v => .bind (.onlyIf (.put (good_mask v))) fun _ => good_clearErrorGen6
  | v55Pre =>
      exact .bind (.get _) fun v => .onlyIf (.bind (.put (good_writeBack v)) fun _ =>
        good_of_footprint footprint_clearEirs hengines)
  | v55Post =>
      exact .bind (.put (good_elsewhere (by decide) _)) fun _ =>
        .bind (.put (good_elsewhere (by decide) _)) fun _ => .bind (.get _) fun v =>
        .bind (good_errorWriteBack 5 v) fun _ => .pure ()
  | v57 =>
      exact .bind (.bind (.get _) fun v => .bind (.put good_zero) fun _ => .bind (.get _) fun _ =>
          .onlyIf (.put (good_writeBack v))) fun _ =>
        .bind (.put good_rcs) fun _ => .bind (.put good_bcs) fun _ =>
        good_of_footprint (footprint_putBack _) (notMem_of_all (by decide))
  | v60GpuHealthMonitor v60Count =>
      exact .bind (.get _) fun _ => .bind (.get _) fun _ =>
        .bind (.onlyIf (.put good_zero)) fun _ => .bind (.onlyIf (.put good_rcs)) fun _ =>
        .bind (.onlyIf (.bind (.get _) fun _ =>
          .onlyIf (.put (good_elsewhere (by decide) _)))) fun _ =>
        .bind (.get _) fun v => .bind (.get _) fun w =>
        .bind (.onlyIf (.put (good_enable v))) fun _ => .onlyIf (.put (good_mask w))
  | v71EmrEnforcer =>
      exact .bind (.get _) fun _ => .bind (.get _) fun _ => .bind (.onlyIf (.put good_rcs)) fun _ =>
        .bind (.onlyIf (.put good_bcs)) fun _ => good_clearErrorGen6
  | resetGraphicsEngine =>
      exact .bind good_clearErrorGen6 fun _ => .bind (.put good_rcs) fun _ => .put good_bcs
  | fbController => exact good_clearErrorGen6
  | hangcheck =>
      have hwell : ∀ r ∈ forcewakeRegs, ∀ v,
          (put r v : RegCode Empty Unit).Writes (Good false) C := fun r hr v =>
        .put (good_elsewhere (notMem_of_all (by decide) r hr) v)
      exact .bind (hwell _ (by decide) _) fun _ => .bind (hwell _ (by decide) _) fun _ =>
        .bind (.bind (.get _) fun _ => .onlyIf (.put good_master)) fun _ =>
        .bind (hwell _ (by decide) _) fun _ => hwell _ (by decide) _

end Good

section Secure

variable {kind : BitVec 32 → RegKind} {goal : Goal}

theorem stable_of_good (hplain : kind goal.reg = .plain) {sup : Supervisor}
    (hallow : goal.Allows sup) : sup.code.Stable (supervised kind) goal.Met := by
  refine sup.good.keeps (C := fun _ => False) (fun _ _ hs => hs) (fun r v hgood s hs => ?_)
    fun e => e.elim
  rw [Goal.Met, kinded_write]
  by_cases heq : goal.reg = r
  · subst heq
    rw [Function.update_self, hplain]
    exact hgood goal rfl hallow
  · rw [Function.update_of_ne heq]
    exact hs

theorem secures_put (hplain : kind goal.reg = .plain) {v : BitVec 32} (h : goal.Holds v) :
    (put goal.reg v : RegCode Empty Unit).Secures (supervised kind) goal.Met := by
  refine .put fun s => ?_
  rw [Goal.Met, kinded_write, Function.update_self, hplain]
  exact h

/-- A register is read; code that would not write then has found the goal met. -/
theorem secures_read {f : BitVec 32 → RegCode Empty Unit}
    (h : ∀ v, goal.Holds v ∨ (f v).Secures (supervised kind) goal.Met) :
    (get goal.reg >>= f : RegCode Empty Unit).Secures (supervised kind) goal.Met :=
  .get_bind fun s => h (s goal.reg)

/-- A test and a write on a word read earlier: unless it is skipped, the goal is met. -/
theorem secures_onlyIf (hplain : kind goal.reg = .plain) {c : Prop} {_ : Decidable c}
    {v w : BitVec 32} (hskip : ¬ c → goal.Holds v) (hwrite : goal.Holds w) :
    goal.Holds v ∨
      (onlyIf c (put goal.reg w) : RegCode Empty Unit).Secures (supervised kind) goal.Met := by
  by_cases hc : c
  · exact .inr (.onlyIf hc (secures_put hplain hwrite))
  · exact .inl (hskip hc)

/-- Read, test and write. -/
theorem secures_test (hplain : kind goal.reg = .plain) {c : BitVec 32 → Prop}
    {_ : ∀ v, Decidable (c v)} {f : BitVec 32 → BitVec 32}
    (hskip : ∀ v, ¬ c v → goal.Holds v) (hwrite : ∀ v, goal.Holds (f v)) :
    (get goal.reg >>= fun v => onlyIf (c v) (put goal.reg (f v)) : RegCode Empty Unit).Secures
      (supervised kind) goal.Met :=
  secures_read fun v => secures_onlyIf hplain (hskip v) (hwrite v)

theorem secures_clearErrorGen6 (h : kind errorGen6 = .plain) :
    (clearErrorGen6 : RegCode Empty Unit).Secures (supervised kind) Goal.noError.Met :=
  secures_test h (fun _ hv => not_not.mp hv) fun _ => rfl

theorem secures_enableMasterIrq (h : kind gen11GfxMstrIrq = .plain) :
    (enableMasterIrq : RegCode Empty Unit).Secures (supervised kind) Goal.master.Met :=
  secures_test h (fun _ hv => hv) fun _ => (by decide : gen11MasterIrq &&& gen11MasterIrq ≠ 0)

theorem secures_master (h : kind gen11GfxMstrIrq = .plain) :
    (put gen11GfxMstrIrq gen11MasterIrq : RegCode Empty Unit).Secures (supervised kind)
      Goal.master.Met :=
  secures_put h (by decide : gen11MasterIrq &&& gen11MasterIrq ≠ 0)

theorem secures_forceInterrupts_both (h : kind gen11RenderCopyIntrEnable = .plain) :
    (forceInterrupts : RegCode Empty Unit).Secures (supervised kind) Goal.both.Met :=
  .tail _ fun v => .head _ (secures_put h (Bits.or_and_self v wantBits))

theorem secures_forceInterrupts_unmasked (h : kind gen11Rcs0RsvdIntrMask = .plain) :
    (forceInterrupts : RegCode Empty Unit).Secures (supervised kind) Goal.unmasked.Met :=
  .tail _ fun _ => .tail _ fun _ => .tail _ fun v => secures_put h (and_not_wantUnmasked v)

theorem Supervisor.secures (sup : Supervisor) (hgoal : goal ∈ sup.goals)
    (hplain : kind goal.reg = .plain) : sup.code.Secures (supervised kind) goal.Met := by
  cases sup with
  | startPre =>
      fin_cases hgoal
      · exact .head _ (secures_master hplain)
      · exact .tail _ fun _ => .head _ (secures_forceInterrupts_both hplain)
      · exact .tail _ fun _ => .head _ (secures_forceInterrupts_unmasked hplain)
      · exact .tail _ fun _ => .tail _ fun _ => secures_clearErrorGen6 hplain
  | startPost =>
      fin_cases hgoal
      · exact .tail _ fun _ => .head _ (secures_master hplain)
      · exact .head _ (secures_forceInterrupts_both hplain)
      · exact .head _ (secures_forceInterrupts_unmasked hplain)
      · exact .tail _ fun _ => .tail _ fun _ => secures_clearErrorGen6 hplain
  | v47 =>
      fin_cases hgoal
      exact secures_enableMasterIrq hplain
  | v51 => exact absurd hgoal List.not_mem_nil
  | v54IrqWatchdog =>
      fin_cases hgoal
      · exact secures_read fun v => (secures_onlyIf hplain (fun hv => hv)
          (by decide : gen11MasterIrq &&& gen11MasterIrq ≠ 0)).imp id (.head _)
      · exact .tail _ fun _ => .tail _ fun _ => secures_read fun v =>
          (secures_onlyIf hplain (fun hv => hv) (or_wantBits_rcs0 v)).imp id (.head _)
      · exact .tail _ fun _ => .tail _ fun _ => .tail _ fun _ => .tail _ fun _ =>
          secures_read fun v => (secures_onlyIf hplain (fun hv => not_not.mp hv)
            (and_not_wantUnmasked v)).imp id (.head _)
      · exact .tail _ fun _ => .tail _ fun _ => .tail _ fun _ => .tail _ fun _ =>
          .tail _ fun _ => .tail _ fun _ => secures_clearErrorGen6 hplain
  | v55Pre => exact absurd hgoal List.not_mem_nil
  | v55Post => exact absurd hgoal List.not_mem_nil
  | v57 =>
      fin_cases hgoal
      · exact .tail _ fun _ => .head _ (secures_put hplain rfl)
      · exact .tail _ fun _ => .tail _ fun _ => .head _ (secures_put hplain rfl)
  | v60GpuHealthMonitor v60Count =>
      fin_cases hgoal
      · exact .tail _ fun _ => .tail _ fun _ => .tail _ fun _ => .tail _ fun _ => .tail _ fun _ =>
          secures_read fun v => (secures_onlyIf hplain (fun hv => not_not.mp hv)
            (Bits.or_and_self v wantBits)).imp id fun h => .tail _ fun _ => .head _ h
      · exact .tail _ fun _ => .tail _ fun _ => .tail _ fun _ => .tail _ fun _ => .tail _ fun _ =>
          .tail _ fun _ => secures_read fun v => (secures_onlyIf hplain (fun hv => not_not.mp hv)
            (and_not_wantUnmasked v)).imp id fun h => .tail _ fun _ => h
      · exact .tail _ fun _ => secures_read fun v =>
          (secures_onlyIf hplain (fun hv => not_not.mp hv) rfl).imp id fun h =>
            .tail _ fun _ => .head _ h
      · exact secures_read fun v =>
          (secures_onlyIf hplain (fun hv => not_not.mp hv) rfl).imp id fun h =>
            .tail _ fun _ => .head _ h
  | v71EmrEnforcer =>
      fin_cases hgoal
      · exact secures_read fun v =>
          (secures_onlyIf hplain (fun hv => not_not.mp hv) rfl).imp id fun h =>
            .tail _ fun _ => .head _ h
      · exact .tail _ fun _ => secures_read fun v =>
          (secures_onlyIf hplain (fun hv => not_not.mp hv) rfl).imp id fun h =>
            .tail _ fun _ => .head _ h
      · exact .tail _ fun _ => .tail _ fun _ => .tail _ fun _ => .tail _ fun _ =>
          secures_clearErrorGen6 hplain
  | resetGraphicsEngine =>
      fin_cases hgoal
      · exact .tail _ fun _ => .head _ (secures_put hplain rfl)
      · exact .tail _ fun _ => .tail _ fun _ => secures_put hplain rfl
      · exact .head _ (secures_clearErrorGen6 hplain)
  | fbController =>
      fin_cases hgoal
      exact secures_clearErrorGen6 hplain
  | hangcheck =>
      fin_cases hgoal
      exact .tail _ fun _ => .tail _ fun _ => .head _ (secures_enableMasterIrq hplain)

/-- None that aims at a clear error writes one back. -/
theorem Supervisor.allows (sup : Supervisor) (hgoal : goal ∈ sup.goals) : goal.Allows sup := by
  rintro rfl
  cases sup with
  | v57 => exact absurd hgoal (by decide)
  | v51 => exact absurd hgoal List.not_mem_nil
  | v55Pre => exact absurd hgoal List.not_mem_nil
  | v55Post => exact absurd hgoal List.not_mem_nil
  | _ => rfl

end Secure

/-- V51 has read an error, the enforcer clears it and ends, V51 writes it back. -/
theorem writeBack_revives :
    let t := supervisedRun (startKind .plain)
      [.fires .v51, .accesses 0, .fires .v71EmrEnforcer, .accesses 1, .accesses 1, .accesses 1,
        .accesses 1, .accesses 1, .accesses 1, .accesses 0] ⟨[], fun _ => 0x7b⟩
    t.Ended 1 ∧ t.state errorGen6 = 0x7b :=
  ⟨⟨_, rfl, rfl⟩, rfl⟩

end NootedGreen

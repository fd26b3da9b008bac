/-
# `Mmio.GtWorkarounds` — the two lists of GT workarounds

`start` applies a list of workarounds before it calls Apple's `start`, and
`resetGraphicsEngine` applies one at its head, each time an engine is reset.  They
name the same nine registers:

    register                              start                   resetGraphicsEngine
    GEN7_MISCCPCTL 0x9424                 first, by hand          fifth, through `wa_add`
    VDBOX_CGCTL3F10 0x5f10 .. 0x1cbf10    `wa_write_or`           `wa_write_or`
    GEN10_DFR_RATIO_EN 0x9550             `wa_mcr_write_or`       `wa_mcr_write_or`
    COMMON_SLICE_CHICKEN3 0x7304          `wa_masked_en`          `wa_masked_en`
    CS_CHICKEN1 0x2580                    `wa_masked_field_set`   `wa_masked_field_set`
    MCR_SELECTOR 0xfdc                    `wa_write_clr_set`      `wa_write_clr_set`
    FF_SLICE_CS_CHICKEN1 0x20e0           `wa_masked_en`          `wa_masked_en`

Every helper makes a register an idempotent function of itself
(`RegCall.value_idem`), and the nine words are separate; so on plain storage the
lists agree, in any order and any number of times (`gt_workarounds_reappliable`).
-/
import NootedGreen.Mmio.PlaneArming
import NootedGreen.Lib.Updates

namespace NootedGreen

open Mmio

/-! ## The registers -/

def renderRingBase : BitVec 32 := 0x02000
def bltRingBase : BitVec 32 := 0x22000
def gen11VeboxRingBase : BitVec 32 := 0x1c8000

def vdboxCgctl3f10 (base : BitVec 32) : BitVec 32 := base + 0x3f10
def iecpunitClkgateDis : BitVec 32 := 1 <<< 22

def gen10DfrRatioEnAndChicken : BitVec 32 := 0x9550
def dfrDisable : BitVec 32 := 1 <<< 9

def gen7Misccpctl : BitVec 32 := 0x9424
def gen12DopClockGateRenderEnable : BitVec 32 := 1 <<< 1

def gen11CommonSliceChicken3 : BitVec 32 := 0x7304
def gen12DisableCpsAwareColorPipe : BitVec 32 := 1 <<< 9

def gen8CsChicken1 : BitVec 32 := 0x2580
def gen9PreemptGpgpuLevel (hi lo : BitVec 32) : BitVec 32 := (hi <<< 2) ||| (lo <<< 1)
def gen9PreemptGpgpuThreadGroupLevel : BitVec 32 := gen9PreemptGpgpuLevel 0 1
def gen9PreemptGpgpuLevelMask : BitVec 32 := gen9PreemptGpgpuLevel 1 1

def gen7FfSliceCsChicken1 : BitVec 32 := 0x20e0
def gen9FfscPerctxPreemptCtrl : BitVec 32 := 1 <<< 14

/-! ## The lists -/

/-- `start`, before Apple's. -/
def startGtWorkarounds (s : Mmio) : Mmio :=
  let (misccpctl, s) := readReg32 (gen7Misccpctl.setWidth 64) s
  let misccpctl := misccpctl &&& ~~~gen12DopClockGateRenderEnable
  let s := writeReg32 (gen7Misccpctl.setWidth 64) misccpctl s
  let s := waWriteOr (vdboxCgctl3f10 renderRingBase) iecpunitClkgateDis s
  let s := waWriteOr (vdboxCgctl3f10 bltRingBase) iecpunitClkgateDis s
  let s := waWriteOr (vdboxCgctl3f10 gen11VeboxRingBase) iecpunitClkgateDis s
  let s := waMcrWriteOr gen10DfrRatioEnAndChicken dfrDisable s
  let s := waMaskedEn gen11CommonSliceChicken3 gen12DisableCpsAwareColorPipe s
  let s := waMaskedFieldSet gen8CsChicken1 gen9PreemptGpgpuLevelMask
    gen9PreemptGpgpuThreadGroupLevel s
  let s := mcrSelectorWa s
  waMaskedEn gen7FfSliceCsChicken1 gen9FfscPerctxPreemptCtrl s

/-- The head of `resetGraphicsEngine`. -/
def resetGtWorkarounds (s : Mmio) : Mmio :=
  let s := waWriteOr (vdboxCgctl3f10 renderRingBase) iecpunitClkgateDis s
  let s := waWriteOr (vdboxCgctl3f10 bltRingBase) iecpunitClkgateDis s
  let s := waWriteOr (vdboxCgctl3f10 gen11VeboxRingBase) iecpunitClkgateDis s
  let s := waMcrWriteOr gen10DfrRatioEnAndChicken dfrDisable s
  let s := waAdd gen7Misccpctl gen12DopClockGateRenderEnable 0 0 false s
  let s := waMaskedEn gen11CommonSliceChicken3 gen12DisableCpsAwareColorPipe s
  let s := waMaskedFieldSet gen8CsChicken1 gen9PreemptGpgpuLevelMask
    gen9PreemptGpgpuThreadGroupLevel s
  let s := mcrSelectorWa s
  waMaskedEn gen7FfSliceCsChicken1 gen9FfscPerctxPreemptCtrl s

inductive WorkaroundList where
  | start
  | reset

def WorkaroundList.apply : WorkaroundList → Mmio → Mmio
  | .start => startGtWorkarounds
  | .reset => resetGtWorkarounds

/-! ## Calls as updates of words -/

namespace RegCall

theorem waValue_idem (clear set readMask old : BitVec 32) (maskedReg : Bool) :
    waValue clear set readMask (waValue clear set readMask old maskedReg) maskedReg =
      waValue clear set readMask old maskedReg := by
  rw [waValue, waValue]
  generalize (if maskedReg then set &&& ~~~(set >>> 16) else set) = set
  exact Bits.rmw_idem old clear set readMask

/-- No helper needs to be applied twice to a register. -/
theorem value_idem (c : RegCall) (old : BitVec 32) : c.value (c.value old) = c.value old := by
  cases c with
  | writeReg32 reg val => rfl
  | intelDeRmw reg clear set =>
      have h := Bits.rmw_idem old clear set 0#32
      rw [BitVec.or_zero, BitVec.or_zero] at h
      exact h
  | whitelistRegExt reg flags => exact Bits.or_or_self old flags
  | whitelistReg reg => exact Bits.or_or_self old _
  | waAdd | waMaskedEn | waMaskedFieldSet | waWriteClrSet | waMcrAdd | waMcrMaskedEn
  | waMcrWriteClrSet | waWrite | waWriteOr | waMcrWriteOr | waWriteClr | waMcrWriteClr =>
      exact waValue_idem _ _ _ _ _

/-- The call as an update of the word at its offset. -/
def toUpdate (c : RegCall) : WordUpdate := ⟨c.offset.toNat, fun old => c.value old⟩

/-- Inside the window and not a SURF register, so that a call stores what it asks for. -/
def Plain (c : RegCall) (s : Mmio) : Prop := c.InWindow s ∧ looksLikePlaneSurf c.offset = false

theorem exec_update {c : RegCall} {s : Mmio} (hc : c.Plain s) :
    (c.exec s).rmmioPtr = s.rmmioPtr.update c.toUpdate := by
  obtain ⟨⟨hal, hmap⟩, hplain⟩ := hc
  rw [(exec_effect ⟨hal, hmap⟩).stores (.inr (.inl hplain)), get_mapped hmap,
    dword_of_aligned s hal]
  rfl

/-- A list of calls is the list of its updates. -/
theorem run_update {calls : List RegCall} {s : Mmio} (h : ∀ c ∈ calls, c.Plain s) :
    (Runs.run exec calls s).rmmioPtr = ByteMem.updateAll (calls.map toUpdate) s.rmmioPtr := by
  induction calls generalizing s with
  | nil => rfl
  | cons c calls ih =>
      obtain ⟨hc, hcalls⟩ := List.forall_mem_cons.mp h
      have hnext : ∀ d ∈ calls, d.Plain (c.exec s) := fun d hd =>
        ⟨⟨(hcalls d hd).1.1, (hcalls d hd).1.2.of_rmmio_eq (c.exec_rmmio s)⟩, (hcalls d hd).2⟩
      show (Runs.run exec calls (c.exec s)).rmmioPtr = _
      rw [ih hnext, exec_update hc]
      rfl

end RegCall

/-! ## The lists as updates -/

def misccpctlCall : RegCall := .waAdd gen7Misccpctl gen12DopClockGateRenderEnable 0 0 false

def clockGateCalls : List RegCall :=
  [.waWriteOr (vdboxCgctl3f10 renderRingBase) iecpunitClkgateDis,
    .waWriteOr (vdboxCgctl3f10 bltRingBase) iecpunitClkgateDis,
    .waWriteOr (vdboxCgctl3f10 gen11VeboxRingBase) iecpunitClkgateDis,
    .waMcrWriteOr gen10DfrRatioEnAndChicken dfrDisable]

def engineCalls : List RegCall :=
  [.waMaskedEn gen11CommonSliceChicken3 gen12DisableCpsAwareColorPipe,
    .waMaskedFieldSet gen8CsChicken1 gen9PreemptGpgpuLevelMask gen9PreemptGpgpuThreadGroupLevel,
    .waWriteClrSet gen8McrSelector mcrMask (gen8McrSlice 0 ||| gen8McrSubslice 0),
    .waMaskedEn gen7FfSliceCsChicken1 gen9FfscPerctxPreemptCtrl]

def WorkaroundList.calls : WorkaroundList → List RegCall
  | .start => misccpctlCall :: (clockGateCalls ++ engineCalls)
  | .reset => clockGateCalls ++ misccpctlCall :: engineCalls

/-- The read, the clearing and the write of `start` are a `wa_add` that sets nothing. -/
theorem misccpctl_by_hand (s : Mmio) :
    writeReg32 (gen7Misccpctl.setWidth 64)
        ((readReg32 (gen7Misccpctl.setWidth 64) s).1 &&& ~~~gen12DopClockGateRenderEnable)
        (readReg32 (gen7Misccpctl.setWidth 64) s).2 =
      misccpctlCall.exec s := by
  have hval : ∀ x : BitVec 32, (x ||| 0) ||| 0 = x := fun x =>
    BitVec.or_zero.trans BitVec.or_zero
  exact congrArg (fun v => writeReg32 (gen7Misccpctl.setWidth 64) v
    (readReg32 (gen7Misccpctl.setWidth 64) s).2) (hval _).symm

theorem WorkaroundList.apply_eq_run (l : WorkaroundList) (s : Mmio) :
    l.apply s = Runs.run RegCall.exec l.calls s := by
  cases l with
  | start =>
      exact congrArg (Runs.run RegCall.exec (clockGateCalls ++ engineCalls))
        (misccpctl_by_hand s)
  | reset => rfl

theorem WorkaroundList.calls_perm (l : WorkaroundList) :
    l.calls.Perm (WorkaroundList.start.calls) := by
  cases l with
  | start => exact .refl _
  | reset => exact List.perm_middle

/-- The nine registers of the lists. -/
def gtRegisters : List Nat :=
  [0x5f10, 0x25f10, 0x1cbf10, 0x9550, 0x9424, 0x7304, 0x2580, 0xfdc, 0x20e0]

theorem startCalls_apart :
    (WorkaroundList.start.calls.map RegCall.toUpdate).Pairwise WordUpdate.Apart := by
  decide

theorem startCalls_registers : ∀ c ∈ WorkaroundList.start.calls,
    c.offset.toNat ∈ gtRegisters ∧ looksLikePlaneSurf c.offset = false := by
  decide

theorem gtRegisters_bounds : ∀ r ∈ gtRegisters, r % 4 = 0 ∧ r + 4 ≤ 0x1cbf14 := by
  decide

section Window

variable {s : Mmio} {length : BitVec 64} (hlen : s.rmmio = some length)
  (hcover : 0x1cbf14 ≤ length.toNat)

include hlen hcover

theorem WorkaroundList.calls_plain (l : WorkaroundList) : ∀ c ∈ l.calls, c.Plain s := by
  intro c hc
  obtain ⟨hreg, hplain⟩ := startCalls_registers c (l.calls_perm.mem_iff.mp hc)
  obtain ⟨hal, hbound⟩ := gtRegisters_bounds _ hreg
  exact ⟨⟨hal, length, hlen, Nat.le_trans hbound hcover⟩, hplain⟩

/-- Both lists come to the same nine updates. -/
theorem WorkaroundList.apply_update (l : WorkaroundList) :
    (l.apply s).rmmioPtr =
      ByteMem.updateAll (WorkaroundList.start.calls.map RegCall.toUpdate) s.rmmioPtr := by
  rw [l.apply_eq_run, RegCall.run_update (l.calls_plain hlen hcover)]
  exact (ByteMem.updateAll_perm (l.calls_perm.symm.map _) startCalls_apart s.rmmioPtr).symm

end Window

theorem WorkaroundList.apply_rmmio (l : WorkaroundList) (s : Mmio) :
    (l.apply s).rmmio = s.rmmio := by
  rw [l.apply_eq_run]
  refine Runs.run_rel (R := fun s t => t.rmmio = s.rmmio) (fun _ => rfl) ?_ RegCall.exec_rmmio
    l.calls s
  intro s t u hst htu
  exact htu.trans hst

/-- On a window that covers the nine registers: the two lists leave the same register file,
a second round of either after either changes nothing, and no byte outside the nine
registers changes. -/
theorem gt_workarounds_reappliable (s : Mmio) (length : BitVec 64) (hlen : s.rmmio = some length)
    (hcover : 0x1cbf14 ≤ length.toNat) (l l' : WorkaroundList) :
    (l.apply s).rmmioPtr = (l'.apply s).rmmioPtr ∧
    (l'.apply (l.apply s)).rmmioPtr = (l.apply s).rmmioPtr ∧
    ∀ b, (∀ r ∈ gtRegisters, b < r ∨ r + 4 ≤ b) → (l.apply s).rmmioPtr b = s.rmmioPtr b := by
  have hupdate := l.apply_update hlen hcover
  have hagain := l'.apply_update ((l.apply_rmmio s).trans hlen) hcover
  refine ⟨hupdate.trans (l'.apply_update hlen hcover).symm, ?_, ?_⟩
  · rw [hagain, hupdate]
    refine ByteMem.updateAll_idem startCalls_apart ?_ s.rmmioPtr
    intro u hu x
    obtain ⟨c, _, rfl⟩ := List.mem_map.mp hu
    exact c.value_idem x
  · intro b hb
    rw [hupdate]
    refine ByteMem.updateAll_outside s.rmmioPtr ?_
    intro u hu
    obtain ⟨c, hc, rfl⟩ := List.mem_map.mp hu
    exact hb _ (startCalls_registers c hc).1

theorem gt_workarounds_reappliable_zero :
    (startGtWorkarounds (zeroWindow 0x1000000)).rmmioPtr =
        (resetGtWorkarounds (zeroWindow 0x1000000)).rmmioPtr ∧
      (resetGtWorkarounds (startGtWorkarounds (zeroWindow 0x1000000))).rmmioPtr =
        (startGtWorkarounds (zeroWindow 0x1000000)).rmmioPtr := by
  have h := gt_workarounds_reappliable (zeroWindow 0x1000000) 0x1000000 rfl (by decide)
    .start .reset
  exact ⟨h.1, h.2.1⟩

end NootedGreen

/-
# `Display.CdClock` — the state Apple's CD clock probe finds

Sonoma's `probeCDClockFrequency` panics unless the CDCLK PLL is enabled and the decimal
field of `CDCLK_CTL` is `0x50E` (648 MHz) or `0x518` (652.8 MHz).  The hook around it
enables the PLL and, where the field is below `0x50E`, has Apple's
`setCDClockFrequency` program the frequency that goes with the reference clock:

    DSSM bits 31:29    reference    PLL             decimal
    0                  24 MHz       24 MHz × 54     0x50E
    1                  19.2 MHz     19.2 MHz × 68   0x518
    2                  38.4 MHz     38.4 MHz × 34   0x518
    3 to 7             —            left alone      left alone

Apple's functions are outside; a `call` says what they do to the registers.  The two ways
past the hook that end in a panic are a field above `0x50E` that is not `0x518`, and a
field below it under a reference clock that the table does not have
(`probed_ready_iff`).

**What is left out.**  The value the original probe returns, which the hook hands on as it
is, and the target frequency `newCdclkFrequency`, which only a log line reads.
-/
import NootedGreen.Lib.Bits
import NootedGreen.Mmio.Storage

namespace NootedGreen

/-! ## Registers and frequencies -/

def iclRegCdclkCtl : BitVec 32 := 0x46000
def bxtDePllEnable : BitVec 32 := 0x46070
def iclRegDssm : BitVec 32 := 0x51004

/-- `BXT_DE_PLL_PLL_ENABLE` -/
def bxtDePllPllEnable : BitVec 32 := 1#32 <<< 31

def cdclkFreqDecimalMask : BitVec 32 := 0x7ff
def iclCdclkFreq648 : BitVec 32 := 0x50E
def iclCdclkFreq652 : BitVec 32 := 0x518
def iclCdclkDecFreqThreshold : BitVec 32 := iclCdclkFreq648

def iclCdclkPllFreqRef24 : BitVec 32 := 24000000 * 54
def iclCdclkPllFreqRef19 : BitVec 32 := 19200000 * 68
def iclCdclkPllFreqRef38 : BitVec 32 := 38400000 * 34

/-! ## The hook -/

/-- Apple's functions, as the hook calls them. -/
inductive CdClockCall where
  | orgDisableCDClock
  | odisableCDClock
  | orgSetCDClockFrequency (frequency : BitVec 64)
  | orgProbeCDClockFrequency
  deriving DecidableEq, Repr

abbrev CdClockCode := RegCode CdClockCall Unit

/-- `newPLLFrequency`; `none` where the switch returns. -/
def newPLLFrequency (referenceFrequency : BitVec 32) : Option (BitVec 32) :=
  if referenceFrequency = 1 then some iclCdclkPllFreqRef19
  else if referenceFrequency = 0 then some iclCdclkPllFreqRef24
  else if referenceFrequency = 2 then some iclCdclkPllFreqRef38
  else none

def disableCDClock : CdClockCode := RegProg.invoke .odisableCDClock

/-- `solved` is whether `orgDisableCDClock` is set. -/
def sanitizeCDClockFrequency (solved : Bool) : CdClockCode := do
  let dssm ← RegProg.get iclRegDssm
  match newPLLFrequency (dssm >>> 29) with
  | none => pure ()
  | some pll =>
      if solved then RegProg.invoke .orgDisableCDClock else disableCDClock
      RegProg.invoke (.orgSetCDClockFrequency (pll.setWidth 64))

/-- The first half of the hook: bit 31 of `BXT_DE_PLL_ENABLE`. -/
def ensureDePll : CdClockCode := do
  let squash ← RegProg.get bxtDePllEnable
  RegProg.onlyIf (squash &&& bxtDePllPllEnable = 0)
    (RegProg.put bxtDePllEnable (squash ||| bxtDePllPllEnable))

def wrapProbeCDClockFrequency (solved : Bool) : CdClockCode := do
  ensureDePll
  let ctl ← RegProg.get iclRegCdclkCtl
  let cdclk := ctl &&& cdclkFreqDecimalMask
  RegProg.onlyIf (cdclk < iclCdclkDecFreqThreshold) (sanitizeCDClockFrequency solved)
  RegProg.invoke .orgProbeCDClockFrequency

/-! ## What the probe needs -/

/-- The decimal field of `CDCLK_CTL`. -/
def cdclkDecimal (s : RegFile) : BitVec 32 := s iclRegCdclkCtl &&& cdclkFreqDecimalMask

/-- The registers `probeCDClockFrequency` accepts. -/
structure ProbeReady (s : RegFile) : Prop where
  pll : s bxtDePllEnable &&& bxtDePllPllEnable ≠ 0
  decimal : cdclkDecimal s = iclCdclkFreq648 ∨ cdclkDecimal s = iclCdclkFreq652

/-- The probe is called once, as the last call, on registers it accepts. -/
def ProbedReady (calls : List (CdClockCall × RegFile)) : Prop :=
  ∃ earlier s, calls = earlier ++ [(.orgProbeCDClockFrequency, s)] ∧
    (∀ c ∈ earlier, c.1 ≠ .orgProbeCDClockFrequency) ∧ ProbeReady s

/-- `setCDClockFrequency` programs the frequency of the PLL it is given and leaves the PLL
enabled. -/
structure SetsCDClock (call : CdClockCall → RegFile → RegFile) : Prop where
  pll : ∀ f s, call (.orgSetCDClockFrequency f) s bxtDePllEnable &&& bxtDePllPllEnable ≠ 0
  ref24 : ∀ s, cdclkDecimal
    (call (.orgSetCDClockFrequency (iclCdclkPllFreqRef24.setWidth 64)) s) = iclCdclkFreq648
  ref19 : ∀ s, cdclkDecimal
    (call (.orgSetCDClockFrequency (iclCdclkPllFreqRef19.setWidth 64)) s) = iclCdclkFreq652
  ref38 : ∀ s, cdclkDecimal
    (call (.orgSetCDClockFrequency (iclCdclkPllFreqRef38.setWidth 64)) s) = iclCdclkFreq652

/-! ## The calls of the hook -/

section Calls

variable (call : CdClockCall → RegFile → RegFile) (solved : Bool) (s : RegFile)

/-- The registers once the hook has seen to the PLL. -/
def pllEnabled : RegFile :=
  if s bxtDePllEnable &&& bxtDePllPllEnable = 0
    then Function.update s bxtDePllEnable (s bxtDePllEnable ||| bxtDePllPllEnable) else s

theorem pllEnabled_pll : pllEnabled s bxtDePllEnable &&& bxtDePllPllEnable ≠ 0 := by
  rw [pllEnabled]
  split
  · rw [Function.update_self, Bits.or_and_self]
    decide
  · assumption

theorem pllEnabled_other {r : BitVec 32} (h : r ≠ bxtDePllEnable) : pllEnabled s r = s r := by
  rw [pllEnabled]
  split
  · exact Function.update_of_ne h _ _
  · rfl

theorem pllEnabled_decimal : cdclkDecimal (pllEnabled s) = cdclkDecimal s := by
  rw [cdclkDecimal, pllEnabled_other s (by decide), cdclkDecimal]

theorem ensureDePll_run : ensureDePll.run (RegProg.plain call) s = ((), pllEnabled s) := by
  simp only [ensureDePll, pllEnabled, RegProg.run_bind, RegProg.run_get, RegProg.plain_read,
    RegProg.run_onlyIf, RegProg.run_put, RegProg.plain_write]
  split <;> rfl

theorem ensureDePll_calls : ensureDePll.calls (RegProg.plain call) s = [] := by
  simp only [ensureDePll, RegProg.calls_bind, RegProg.calls_get, RegProg.calls_onlyIf,
    RegProg.calls_put, ite_self, List.append_nil]

/-- The disabling function sanitize calls. -/
def disableCall : CdClockCall :=
  if solved then .orgDisableCDClock else .odisableCDClock

theorem sanitize_unsupported (h : newPLLFrequency (s iclRegDssm >>> 29) = none) :
    (sanitizeCDClockFrequency solved).calls (RegProg.plain call) s = [] ∧
      ((sanitizeCDClockFrequency solved).run (RegProg.plain call) s).2 = s := by
  simp only [sanitizeCDClockFrequency, RegProg.run_bind, RegProg.calls_bind, RegProg.run_get,
    RegProg.calls_get, RegProg.plain_read, h]
  exact ⟨rfl, rfl⟩

theorem sanitize_supported {pll : BitVec 32}
    (h : newPLLFrequency (s iclRegDssm >>> 29) = some pll) :
    (sanitizeCDClockFrequency solved).calls (RegProg.plain call) s =
        [(disableCall solved, s),
          (.orgSetCDClockFrequency (pll.setWidth 64), call (disableCall solved) s)] ∧
      ((sanitizeCDClockFrequency solved).run (RegProg.plain call) s).2 =
        call (.orgSetCDClockFrequency (pll.setWidth 64)) (call (disableCall solved) s) := by
  simp only [sanitizeCDClockFrequency, RegProg.run_bind, RegProg.calls_bind, RegProg.run_get,
    RegProg.calls_get, RegProg.plain_read, h]
  cases solved with
  | false => exact ⟨rfl, rfl⟩
  | true => exact ⟨rfl, rfl⟩

theorem wrapProbe_calls :
    (wrapProbeCDClockFrequency solved).calls (RegProg.plain call) s =
      if cdclkDecimal s < iclCdclkDecFreqThreshold
        then (sanitizeCDClockFrequency solved).calls (RegProg.plain call) (pllEnabled s) ++
          [(.orgProbeCDClockFrequency,
            ((sanitizeCDClockFrequency solved).run (RegProg.plain call) (pllEnabled s)).2)]
        else [(.orgProbeCDClockFrequency, pllEnabled s)] := by
  have hdec : pllEnabled s iclRegCdclkCtl &&& cdclkFreqDecimalMask = cdclkDecimal s :=
    pllEnabled_decimal s
  simp only [wrapProbeCDClockFrequency, RegProg.calls_bind, ensureDePll_run, ensureDePll_calls,
    RegProg.run_get, RegProg.calls_get, RegProg.plain_read, RegProg.run_onlyIf,
    RegProg.calls_onlyIf, RegProg.calls_invoke, List.nil_append, hdec]
  split <;> rfl

end Calls

/-! ## When the probe finds what it needs -/

theorem probedReady_append {earlier : List (CdClockCall × RegFile)} {s : RegFile}
    (h : ∀ c ∈ earlier, c.1 ≠ .orgProbeCDClockFrequency) :
    ProbedReady (earlier ++ [(.orgProbeCDClockFrequency, s)]) ↔ ProbeReady s := by
  constructor
  · rintro ⟨earlier', s', heq, -, hready⟩
    -- the last call is the probe in either reading of the list
    obtain ⟨-, hlast⟩ := List.append_inj' heq rfl
    cases hlast
    exact hready
  · intro hready
    exact ⟨earlier, s, rfl, h, hready⟩

theorem probedReady_singleton (s : RegFile) :
    ProbedReady [(.orgProbeCDClockFrequency, s)] ↔ ProbeReady s :=
  @probedReady_append [] s fun _ h => nomatch h

theorem newPLLFrequency_none_iff (r : BitVec 32) : newPLLFrequency r = none ↔ ¬ r < 3 := by
  rw [newPLLFrequency]
  split
  · next h => exact iff_of_false nofun (by rw [h]; decide)
  split
  · next h => exact iff_of_false nofun (by rw [h]; decide)
  split
  · next h => exact iff_of_false nofun (by rw [h]; decide)
  · exact iff_of_true rfl (by bv_omega)

theorem pllEnabled_ready_iff (s : RegFile) : ProbeReady (pllEnabled s) ↔
    cdclkDecimal s = iclCdclkFreq648 ∨ cdclkDecimal s = iclCdclkFreq652 := by
  rw [← pllEnabled_decimal s]
  exact ⟨fun h => h.decimal, fun h => ⟨pllEnabled_pll s, h⟩⟩

/-- Both accepted frequencies are at the threshold or above. -/
theorem not_low_of_accepted {s : RegFile}
    (h : cdclkDecimal s = iclCdclkFreq648 ∨ cdclkDecimal s = iclCdclkFreq652) :
    ¬ cdclkDecimal s < iclCdclkDecFreqThreshold := by
  rcases h with h | h
  · rw [h]
    decide
  · rw [h]
    decide

/-- From the threshold up the field stays as it is. -/
theorem probedReady_high (call : CdClockCall → RegFile → RegFile) (solved : Bool) {s : RegFile}
    (hhigh : ¬ cdclkDecimal s < iclCdclkDecFreqThreshold) :
    ProbedReady ((wrapProbeCDClockFrequency solved).calls (RegProg.plain call) s) ↔
      cdclkDecimal s = iclCdclkFreq648 ∨ cdclkDecimal s = iclCdclkFreq652 := by
  rw [wrapProbe_calls, if_neg hhigh, probedReady_singleton, pllEnabled_ready_iff]

section Ready

variable {call : CdClockCall → RegFile → RegFile} (hset : SetsCDClock call)
include hset

theorem SetsCDClock.ready {r pll : BitVec 32} (h : newPLLFrequency r = some pll) (s : RegFile) :
    ProbeReady (call (.orgSetCDClockFrequency (pll.setWidth 64)) s) := by
  refine ⟨hset.pll _ s, ?_⟩
  rw [newPLLFrequency] at h
  split at h
  · cases h
    exact .inr (hset.ref19 s)
  split at h
  · cases h
    exact .inl (hset.ref24 s)
  split at h
  · cases h
    exact .inr (hset.ref38 s)
  · cases h

/-- Below the threshold the reference clock decides. -/
theorem probedReady_low (solved : Bool) {s : RegFile}
    (hlow : cdclkDecimal s < iclCdclkDecFreqThreshold) :
    ProbedReady ((wrapProbeCDClockFrequency solved).calls (RegProg.plain call) s) ↔
      s iclRegDssm >>> 29 < 3 := by
  have hdssm : pllEnabled s iclRegDssm = s iclRegDssm := pllEnabled_other s (by decide)
  rw [wrapProbe_calls, if_pos hlow]
  cases hpll : newPLLFrequency (s iclRegDssm >>> 29) with
  | none =>
      obtain ⟨hcalls, hrun⟩ := sanitize_unsupported call solved (pllEnabled s) (hdssm ▸ hpll)
      rw [hcalls, hrun, List.nil_append, probedReady_singleton, pllEnabled_ready_iff]
      exact iff_of_false (fun h => not_low_of_accepted h hlow)
        ((newPLLFrequency_none_iff _).mp hpll)
  | some pll =>
      obtain ⟨hcalls, hrun⟩ := sanitize_supported call solved (pllEnabled s) (hdssm ▸ hpll)
      have hearlier : ∀ c ∈ (sanitizeCDClockFrequency solved).calls (RegProg.plain call)
          (pllEnabled s), c.1 ≠ .orgProbeCDClockFrequency := by
        rw [hcalls]
        cases solved <;> simp [disableCall]
      rw [probedReady_append hearlier, hrun]
      refine iff_of_true (hset.ready hpll _) (not_not.mp fun h => ?_)
      rw [(newPLLFrequency_none_iff _).mpr h] at hpll
      cases hpll

/-- The probe is called once, at the end of the hook, and it finds the PLL enabled and one of
its two frequencies exactly when the decimal field held one of them already, or was below the
threshold with a reference clock of the table. -/
theorem probed_ready_iff (solved : Bool) (s : RegFile) :
    ProbedReady ((wrapProbeCDClockFrequency solved).calls (RegProg.plain call) s) ↔
      cdclkDecimal s = iclCdclkFreq648 ∨ cdclkDecimal s = iclCdclkFreq652 ∨
        cdclkDecimal s < iclCdclkDecFreqThreshold ∧ s iclRegDssm >>> 29 < 3 := by
  by_cases hlow : cdclkDecimal s < iclCdclkDecFreqThreshold
  · rw [probedReady_low hset solved hlow]
    constructor
    · intro href
      exact .inr (.inr ⟨hlow, href⟩)
    · rintro (h | h | h)
      · exact absurd hlow (not_low_of_accepted (.inl h))
      · exact absurd hlow (not_low_of_accepted (.inr h))
      · exact h.2
  · rw [probedReady_high call solved hlow]
    constructor
    · rintro (h | h)
      · exact .inl h
      · exact .inr (.inl h)
    · rintro (h | h | h)
      · exact .inl h
      · exact .inr h
      · exact absurd h.1 hlow

end Ready

/-- A controller whose `setCDClockFrequency` programs the field and enables the PLL; the other
functions leave the registers alone. -/
def programsCDClock : CdClockCall → RegFile → RegFile
  | .orgSetCDClockFrequency frequency, s =>
      let decimal := if frequency = iclCdclkPllFreqRef24.setWidth 64 then iclCdclkFreq648
        else iclCdclkFreq652
      Function.update
        (Function.update s iclRegCdclkCtl
          (s iclRegCdclkCtl &&& ~~~cdclkFreqDecimalMask ||| decimal))
        bxtDePllEnable (s bxtDePllEnable ||| bxtDePllPllEnable)
  | _, s => s

theorem programsCDClock_decimal (f : BitVec 64) (s : RegFile) :
    cdclkDecimal (programsCDClock (.orgSetCDClockFrequency f) s) =
      if f = iclCdclkPllFreqRef24.setWidth 64 then iclCdclkFreq648 else iclCdclkFreq652 := by
  rw [cdclkDecimal, programsCDClock, Function.update_of_ne (by decide), Function.update_self,
    Bits.replace_and]
  split <;> rfl

theorem programsCDClock_sets : SetsCDClock programsCDClock where
  pll := fun f s => by
    rw [programsCDClock, Function.update_self, Bits.or_and_self]
    decide
  ref24 := fun s => programsCDClock_decimal _ s
  ref19 := fun s => programsCDClock_decimal _ s
  ref38 := fun s => programsCDClock_decimal _ s

/-- Registers after reset: every one zero, so a 24 MHz reference and no frequency. -/
theorem probed_ready_after_reset :
    ProbedReady ((wrapProbeCDClockFrequency false).calls (RegProg.plain programsCDClock)
      fun _ => 0) :=
  (probed_ready_iff programsCDClock_sets false fun _ => 0).mpr
    (.inr (.inr ⟨by decide, by decide⟩))

/-- A field of `0x510` is above the threshold and reaches the probe. -/
theorem probe_reached_at_649 :
    SetsCDClock programsCDClock ∧
      ¬ ProbedReady ((wrapProbeCDClockFrequency false).calls (RegProg.plain programsCDClock)
        fun _ => 0x510) := by
  refine ⟨programsCDClock_sets, ?_⟩
  rw [probedReady_high _ _ (by decide)]
  rintro (h | h)
  · exact absurd h (by decide)
  · exact absurd h (by decide)

/-! ## In the mapped window -/

theorem wrapProbe_reaches (solved : Bool) :
    (wrapProbeCDClockFrequency solved).Reaches (PlainReg 0x51008) := by
  have hpll : PlainReg 0x51008 bxtDePllEnable := by decide
  have hctl : PlainReg 0x51008 iclRegCdclkCtl := by decide
  have hdssm : PlainReg 0x51008 iclRegDssm := by decide
  have hsanitize : (sanitizeCDClockFrequency solved).Reaches (PlainReg 0x51008) := by
    refine .bind (.get hdssm) fun dssm => ?_
    dsimp only
    split
    · exact trivial
    · cases solved with
      | false => exact .bind (.invoke _) fun _ => .invoke _
      | true => exact .bind (.invoke _) fun _ => .invoke _
  exact .bind (.bind (.get hpll) fun _ => .onlyIf _ (.put hpll _)) fun _ =>
    .bind (.get hctl) fun _ => .bind (.onlyIf _ hsanitize) fun _ => .invoke _

/-- Through the plugin's accessors the hook makes the calls it makes on the register file the
window shows, and at each the window shows that file. -/
theorem wrapProbe_window {call : CdClockCall → Mmio → Mmio}
    {call' : CdClockCall → RegFile → RegFile}
    (hcall : ∀ e m s, Views 0x51008 m s → Views 0x51008 (call e m) (call' e s)) (solved : Bool)
    {m : Mmio} {s : RegFile} (h : Views 0x51008 m s) :
    List.Forall₂ (fun c c' => c.1 = c'.1 ∧ Views 0x51008 c.2 c'.2)
      ((wrapProbeCDClockFrequency solved).calls (window call) m)
      ((wrapProbeCDClockFrequency solved).calls (RegProg.plain call') s) :=
  calls_window hcall (wrapProbe_reaches solved) h

end NootedGreen

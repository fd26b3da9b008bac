/-
# `Hooks.FastPath` — `FastWriteRegister32` against `raWriteRegister32`

With the V93 guard off, both hooks mask the error-mask registers and hand the
write on.  `raWriteRegister32` once rewrote two registers of pipe A's first
plane as well and has that disabled; `FastWriteRegister32` still does it:

    offset     register        FastWriteRegister32      raWriteRegister32
    0x70188    PLANE_STRIDE    value * 8, modulo 2^32   value
    0x70180    PLANE_CTL       bits 12:10 cleared       value

So they hand on the same pair exactly where the rewriting changes nothing
(`SurvivesFixups`).  Then, and only then, it does not matter which of a sequence
of writes goes through which hook (`hooks_agree_iff`).
-/
import NootedGreen.Hooks.RegisterWrite
import NootedGreen.Lib.Bits
import NootedGreen.Lib.Runs

namespace NootedGreen

open Mmio

/-! ## What Apple's originals are given -/

/-- The offset and value of a call of an original. -/
def Event.forwarded : Event → Option (BitVec 64 × BitVec 64)
  | .original offset value => some (offset, value)
  | _ => none

/-- All that has been handed on so far, latest first. -/
def HookState.forwards (s : HookState) : List (BitVec 64 × BitVec 64) :=
  s.mmio.trace.filterMap Event.forwarded

/-- A write, and its two ways. -/
inductive WriteHook where
  | fast
  | normal
  deriving DecidableEq, Repr

/-- One write through one hook. -/
def writeVia (cfg : HookConfig) (that : BitVec 64) :
    WriteHook × BitVec 64 × BitVec 32 → HookState → HookState
  | (.fast, param1, param2) => fastWriteRegister32 param1 param2
  | (.normal, param1, param2) => raWriteRegister32 cfg that param1 param2

/-- The fixups of `FastWriteRegister32` change nothing. -/
def SurvivesFixups (param1 : BitVec 64) (param2 : BitVec 32) : Prop :=
  (param1 = 0x70188 → param2 = 0) ∧ (param1 = 0x70180 → param2 &&& 0x1C00 = 0)

/-! ## The value handed on -/

/-- The value each hook hands on for an offset. -/
def handedOn : WriteHook → BitVec 64 → BitVec 32 → BitVec 32
  | .fast, param1, param2 =>
      let param2 := v72Intercept param1 param2
      let param2 := if param1 = 0x70188 then param2 * 8 else param2
      if param1 = 0x70180 then param2 &&& ~~~((0x7 : BitVec 32) <<< 10) else param2
  | .normal, param1, param2 => v72Intercept param1 param2

/-- Eight times a value is the value only for zero, also modulo `2^32`: seven has an inverse. -/
theorem mul_eight_eq_self_iff (v : BitVec 32) : v * 8 = v ↔ v = 0 := by
  constructor
  · intro h
    have hsum : v * 7 + v = 0 + v :=
      calc v * 7 + v = v * 7 + v * 1 := congrArg (v * 7 + ·) (BitVec.mul_one v).symm
        _ = v * (7 + 1) := BitVec.mul_add.symm
        _ = v := h
        _ = 0 + v := (BitVec.zero_add v).symm
    have hseven : v * 7 = 0 := (BitVec.add_left_inj v).mp hsum
    calc v = v * (7 * 0xB6DB6DB7) := (BitVec.mul_one v).symm
      _ = v * 7 * 0xB6DB6DB7 := (BitVec.mul_assoc v 7 _).symm
      _ = 0 * 0xB6DB6DB7 := congrArg (· * 0xB6DB6DB7) hseven
      _ = 0 := BitVec.zero_mul
  · rintro rfl
    rfl

theorem handedOn_eq_iff (param1 : BitVec 64) (param2 : BitVec 32) :
    handedOn .fast param1 param2 = handedOn .normal param1 param2 ↔
      SurvivesFixups param1 param2 := by
  simp only [handedOn, SurvivesFixups]
  by_cases hstride : param1 = 0x70188
  · subst hstride
    rw [if_neg (by decide), if_pos rfl, v72Intercept_other (by decide), mul_eight_eq_self_iff]
    constructor
    · intro h
      exact ⟨fun _ => h, fun hctl => absurd hctl (by decide)⟩
    · rintro ⟨h, -⟩
      exact h rfl
  · rw [if_neg hstride]
    by_cases hctl : param1 = 0x70180
    · subst hctl
      rw [if_pos rfl, v72Intercept_other (by decide), Bits.and_not_eq_left_iff]
      constructor
      · intro h
        exact ⟨fun hstride' => absurd hstride' hstride, fun _ => h⟩
      · rintro ⟨-, h⟩
        exact h rfl
    · rw [if_neg hctl]
      exact ⟨fun _ => ⟨fun h => absurd h hstride, fun h => absurd h hctl⟩, fun _ => rfl⟩

/-! ## Sequences of writes -/

/-- The write as Apple's originals see it. -/
def asHandedOn (w : WriteHook × BitVec 64 × BitVec 32) : BitVec 64 × BitVec 64 :=
  (w.2.1, (handedOn w.1 w.2.1 w.2.2).setWidth 64)

theorem asHandedOn_eq_iff (w : BitVec 64 × BitVec 32) :
    asHandedOn (.fast, w) = asHandedOn (.normal, w) ↔ SurvivesFixups w.1 w.2 := by
  rw [← handedOn_eq_iff]
  constructor
  · intro h
    have hval := congrArg (BitVec.setWidth 32 ∘ Prod.snd) h
    simpa [asHandedOn] using hval
  · intro h
    simp only [asHandedOn, h]

theorem map_snd_map_mk (hook : WriteHook) (writes : List (BitVec 64 × BitVec 32)) :
    (writes.map (hook, ·)).map Prod.snd = writes := by
  rw [List.map_map]
  exact List.map_id _

/-- Where all writes survive, the split does not show. -/
theorem asHandedOn_normal {w : WriteHook × BitVec 64 × BitVec 32}
    (h : SurvivesFixups w.2.1 w.2.2) : asHandedOn w = asHandedOn (.normal, w.2) := by
  obtain ⟨hook, w⟩ := w
  cases hook with
  | fast => exact (asHandedOn_eq_iff w).mpr h
  | normal => rfl

theorem map_asHandedOn_congr {writes : List (BitVec 64 × BitVec 32)}
    (h : ∀ w ∈ writes, SurvivesFixups w.1 w.2)
    {ws ws' : List (WriteHook × BitVec 64 × BitVec 32)} (hws : ws.map Prod.snd = writes)
    (hws' : ws'.map Prod.snd = writes) : ws.map asHandedOn = ws'.map asHandedOn := by
  have hnormal : ∀ l : List (WriteHook × BitVec 64 × BitVec 32), l.map Prod.snd = writes →
      l.map asHandedOn = writes.map fun w => asHandedOn (.normal, w) := by
    rintro l rfl
    rw [List.map_map]
    exact List.map_congr_left fun w hw => asHandedOn_normal (h w.2 (List.mem_map_of_mem hw))
  rw [hnormal ws hws, hnormal ws' hws']

section Sequences

variable {cfg : HookConfig} (hv93 : cfg.isV93PlaneGuardEnabled = false)
  (hora : cfg.oraWriteRegister32 = true) {that : BitVec 64} (hthat : that ≠ 0)

include hv93 hora hthat

/-- Either way, one call of an original with the value handed on. -/
theorem writeVia_eq (hook : WriteHook) (param1 : BitVec 64) (param2 : BitVec 32) (s : HookState) :
    writeVia cfg that (hook, param1, param2) s =
      { s with mmio :=
          s.mmio.original 0 param1 4 ((handedOn hook param1 param2).setWidth 64) } := by
  cases hook with
  | fast => rfl
  | normal =>
      simp only [writeVia, raWriteRegister32, raWriteRegister32From, hv93, hora, if_neg hthat,
        Bool.false_eq_true, if_false, Bool.not_true, handedOn]

theorem writeVia_forwards (w : WriteHook × BitVec 64 × BitVec 32) (s : HookState) :
    (writeVia cfg that w s).forwards = asHandedOn w :: s.forwards := by
  obtain ⟨hook, param1, param2⟩ := w
  rw [writeVia_eq hv93 hora hthat]
  rfl

theorem run_forwards (ws : List (WriteHook × BitVec 64 × BitVec 32)) (s : HookState) :
    (Runs.run (writeVia cfg that) ws s).forwards = (ws.map asHandedOn).reverse ++ s.forwards := by
  induction ws generalizing s with
  | nil => rfl
  | cons w ws ih =>
      rw [Runs.run, ih, writeVia_forwards hv93 hora hthat, List.map_cons, List.reverse_cons,
        List.append_assoc, List.singleton_append]

/-- What is handed on determines the whole state after. -/
theorem run_congr_handedOn :
    ∀ {ws ws' : List (WriteHook × BitVec 64 × BitVec 32)},
      ws.map asHandedOn = ws'.map asHandedOn → ∀ s : HookState,
        Runs.run (writeVia cfg that) ws s = Runs.run (writeVia cfg that) ws' s
  | [], [], _, _ => rfl
  | [], _ :: _, h, _ => nomatch h
  | _ :: _, [], h, _ => nomatch h
  | (hook, param1, param2) :: ws, (hook', param1', param2') :: ws', h, s => by
      obtain ⟨hw, hws⟩ := List.cons.inj h
      have hstep : writeVia cfg that (hook, param1, param2) s =
          writeVia cfg that (hook', param1', param2') s := by
        obtain ⟨rfl, hval⟩ := Prod.mk.inj hw
        rw [writeVia_eq hv93 hora hthat, writeVia_eq hv93 hora hthat]
        exact congrArg (fun v => { s with mmio := s.mmio.original 0 param1 4 v }) hval
      rw [Runs.run, Runs.run, hstep]
      exact run_congr_handedOn hws _

end Sequences

/-- The hooks hand on the same pair for a write exactly when it survives the fixups.  A
sequence is handed on alike however it is split between them exactly when all its
writes do, and then every split leaves the same registers. -/
theorem hooks_agree_iff {cfg : HookConfig} (hv93 : cfg.isV93PlaneGuardEnabled = false)
    (hora : cfg.oraWriteRegister32 = true) {that : BitVec 64} (hthat : that ≠ 0) :
    (∀ (param1 : BitVec 64) (param2 : BitVec 32) (s : HookState),
      (fastWriteRegister32 param1 param2 s).forwards =
          (raWriteRegister32 cfg that param1 param2 s).forwards ↔
        SurvivesFixups param1 param2) ∧
    (∀ (writes : List (BitVec 64 × BitVec 32)) (s : HookState),
      (∀ ws ws' : List (WriteHook × BitVec 64 × BitVec 32),
        ws.map Prod.snd = writes → ws'.map Prod.snd = writes →
          (Runs.run (writeVia cfg that) ws s).forwards =
            (Runs.run (writeVia cfg that) ws' s).forwards) ↔
        ∀ w ∈ writes, SurvivesFixups w.1 w.2) ∧
    (∀ (writes : List (BitVec 64 × BitVec 32)) (s : HookState),
      (∀ w ∈ writes, SurvivesFixups w.1 w.2) →
        ∀ ws ws' : List (WriteHook × BitVec 64 × BitVec 32),
          ws.map Prod.snd = writes → ws'.map Prod.snd = writes →
            (Runs.run (writeVia cfg that) ws s).mmio.rmmioPtr =
              (Runs.run (writeVia cfg that) ws' s).mmio.rmmioPtr) := by
  refine ⟨fun param1 param2 s => ?_, fun writes s => ⟨fun h w hw => ?_, ?_⟩, ?_⟩
  · have hfast := writeVia_forwards hv93 hora hthat (.fast, param1, param2) s
    have hnormal := writeVia_forwards hv93 hora hthat (.normal, param1, param2) s
    rw [← asHandedOn_eq_iff (param1, param2)]
    constructor
    · intro h
      exact (List.cons.inj (hfast.symm.trans (h.trans hnormal))).1
    · intro h
      exact hfast.trans ((congrArg (· :: s.forwards) h).trans hnormal.symm)
  · -- all through the one hook against all through the other
    have hboth := h (writes.map (WriteHook.fast, ·)) (writes.map (WriteHook.normal, ·))
      (map_snd_map_mk _ _) (map_snd_map_mk _ _)
    rw [run_forwards hv93 hora hthat, run_forwards hv93 hora hthat, List.append_left_inj,
      List.reverse_inj, List.map_map, List.map_map] at hboth
    exact (asHandedOn_eq_iff w).mp (List.map_inj_left.mp hboth w hw)
  · intro h ws ws' hws hws'
    rw [run_forwards hv93 hora hthat, run_forwards hv93 hora hthat,
      map_asHandedOn_congr h hws hws']
  · intro writes s h ws ws' hws hws'
    rw [run_congr_handedOn hv93 hora hthat (map_asHandedOn_congr h hws hws')]

/-- The error-mask value Apple writes is replaced on both ways alike. -/
theorem hooks_agree_errorMask :
    (fastWriteRegister32 0x20b4 0xfffffffa ⟨zeroWindow 0x1000000, []⟩).forwards =
      (raWriteRegister32 ⟨false, true⟩ 1 0x20b4 0xfffffffa ⟨zeroWindow 0x1000000, []⟩).forwards :=
  ((hooks_agree_iff rfl rfl (by decide)).1 _ _ _).mpr ⟨by decide, by decide⟩

/-- A stride of 5 is handed on as 40 by the one hook and as 5 by the other. -/
theorem hooks_differ_planeStride :
    ¬ (fastWriteRegister32 0x70188 5 ⟨zeroWindow 0x1000000, []⟩).forwards =
      (raWriteRegister32 ⟨false, true⟩ 1 0x70188 5 ⟨zeroWindow 0x1000000, []⟩).forwards := by
  decide

end NootedGreen

/-
# `Hooks.ErrorMask` — keeping the error-mask registers all ones

The V72 block of three hooks replaces what Apple writes to the error-mask
registers (EMR) by all ones.  It compares the offset for equality, and it is not
on every path, so these reach an EMR with a value of the caller's:

    wrapWriteRegister32, null controller    returns before the block
    tWriteRegister32, raWriteRegister64     have no block
    raWriteRegister32b                      compares base + offset
    an offset that is not 4-byte aligned    covers an EMR without being equal to it
    raWriteRegister64 at EMR - 4            its upper half is the EMR

`EmrSafe` is what a call has to meet for the registers to stay masked: it is
intercepted, or every byte its caller has for an EMR is `0xFF` anyway.  From an
all-masked window, a run of such calls stays masked (`emr_stays_masked`).
-/
import NootedGreen.Hooks.RegisterWrite
import NootedGreen.Lib.Runs

namespace NootedGreen

open Mmio

/-! ## The registers as bytes -/

/-- The bytes of the two error-mask registers. -/
def InEmr (b : Nat) : Prop := (0x20b4 ≤ b ∧ b < 0x20b8) ∨ (0x220b4 ≤ b ∧ b < 0x220b8)

instance : DecidablePred InEmr := fun b =>
  inferInstanceAs (Decidable ((0x20b4 ≤ b ∧ b < 0x20b8) ∨ (0x220b4 ≤ b ∧ b < 0x220b8)))

/-- Both registers hold `0xFFFFFFFF`. -/
def EmrMasked (s : HookState) : Prop :=
  s.mmio.rmmioPtr.load32 0x20b4 = 0xFFFFFFFF ∧ s.mmio.rmmioPtr.load32 0x220b4 = 0xFFFFFFFF

/-- The same, byte by byte. -/
def Mmio.EmrOnes (s : Mmio) : Prop := ∀ b, InEmr b → s.rmmioPtr b = 0xFF

theorem extractLsb'_ones : ∀ k < 4, (0xFFFFFFFF : BitVec 32).extractLsb' (8 * k) 8 = 0xFF := by
  decide

theorem emrMasked_iff (s : HookState) : EmrMasked s ↔ s.mmio.EmrOnes := by
  rw [EmrMasked, ByteMem.load32_eq_iff, ByteMem.load32_eq_iff]
  constructor
  · rintro ⟨hrcs, hbcs⟩ b (hb | hb)
    · obtain ⟨k, rfl⟩ := Nat.exists_eq_add_of_le hb.1
      rw [hrcs k (by omega), extractLsb'_ones k (by omega)]
    · obtain ⟨k, rfl⟩ := Nat.exists_eq_add_of_le hb.1
      rw [hbcs k (by omega), extractLsb'_ones k (by omega)]
  · intro h
    constructor
    · intro k hk
      rw [extractLsb'_ones k hk]
      exact h _ (.inl (by omega))
    · intro k hk
      rw [extractLsb'_ones k hk]
      exact h _ (.inr (by omega))

/-! ## What a store puts into them -/

/-- Of the `n` bytes of `v` stored at `a`, those that fall into an error-mask register
are `0xFF`. -/
def MasksEmr {w : Nat} (a n : Nat) (v : BitVec w) : Prop :=
  ∀ k < n, InEmr (a + k) → v.extractLsb' (8 * k) 8 = 0xFF

/-- The same for the dword `writeReg32(reg, val)` stores, when the offset passes the
check. -/
def Mmio.OwnMasksEmr (s : Mmio) (reg : BitVec 64) (val : BitVec 32) : Prop :=
  ∀ length, s.rmmio = some length → reg + 4 ≤ length → MasksEmr (4 * (reg >>> 2).toNat) 4 val

/-- A store that stays clear of the registers. -/
theorem masksEmr_of_clear {w : Nat} {a n : Nat} (h : ∀ k < n, ¬ InEmr (a + k)) (v : BitVec w) :
    MasksEmr a n v :=
  fun k hk hin => absurd hin (h k hk)

/-- A zero that is harmless stays clear, so any other value there is harmless too. -/
theorem MasksEmr.of_zero {w w' : Nat} {a n : Nat} (h : MasksEmr a n (0#w)) (v : BitVec w') :
    MasksEmr a n v := by
  refine masksEmr_of_clear (fun k hk hin => ?_) v
  have hbyte := h k hk hin
  rw [BitVec.extractLsb'_zero] at hbyte
  exact absurd hbyte (by decide)

theorem masksEmr_ones (a : Nat) : MasksEmr a 4 (0xFFFFFFFF : BitVec 32) :=
  fun k hk _ => extractLsb'_ones k hk

/-- The four bytes of a 32-bit value passed on in 64 bits. -/
theorem masksEmr_setWidth {a : Nat} {v : BitVec 32} (h : MasksEmr a 4 v) :
    MasksEmr a 4 (v.setWidth 64) := by
  intro k hk hin
  rw [← h k hk hin]
  refine BitVec.eq_of_getLsbD_eq fun i hi => ?_
  simp only [BitVec.getLsbD_extractLsb', BitVec.getLsbD_setWidth]
  grind

/-! ## The back-ends -/

theorem emrOnes_original {s : Mmio} (hs : s.EmrOnes) {origin offset value : BitVec 64} {n : Nat}
    (h : MasksEmr (offset - origin).toNat n value) :
    (s.original origin offset n value).EmrOnes :=
  (ByteMem.store_forall_iff hs _ n value).mpr h

theorem emrOnes_readReg32 {s : Mmio} (hs : s.EmrOnes) (reg : BitVec 64) :
    (readReg32 reg s).2.EmrOnes := by
  rw [readReg32]
  split
  · exact hs
  · split
    · exact hs
    · -- the index register is written
      refine (ByteMem.store_forall_iff hs _ 4 _).mpr (masksEmr_of_clear ?_ _)
      decide

theorem emrOnes_writeReg32 {s : Mmio} (hs : s.EmrOnes) {reg : BitVec 64} {val : BitVec 32}
    (h : s.OwnMasksEmr reg val) : (writeReg32 reg val s).EmrOnes := by
  by_cases hreg : 4 * (reg >>> 2).toNat = 0x20b4 ∨ 4 * (reg >>> 2).toNat = 0x220b4
  · -- an error-mask register itself: never a SURF offset, so the value goes in as it is
    have hsurf : ¬ (looksLikePlaneSurf reg = true ∧ val = 0) := by
      rintro ⟨hsurf, -⟩
      obtain ⟨hlo, -, -⟩ := (looksLikePlaneSurf_iff reg).mp hsurf
      rw [index_toNat] at hreg
      omega
    intro b hb
    rw [writeReg32_put s hsurf]
    cases hlen : s.rmmio with
    | none =>
        simp only [put, hlen]
        exact hs b hb
    | some length =>
        by_cases hle : reg + 4 ≤ length
        · simp only [put, hlen, if_pos hle]
          exact (ByteMem.store_forall_iff hs _ 4 val).mpr (h length hlen hle) b hb
        · simp only [put, hlen, if_neg hle]
          rw [ByteMem.store_outside _ _ (by simp only [InEmr, mmPCIE_DATA2] at *; omega),
            ByteMem.store_outside _ _ (by simp only [InEmr, mmPCIE_INDEX2] at *; omega)]
          exact hs b hb
  · intro b hb
    rw [writeReg32_frame ?_ val s]
    · exact hs b hb
    · rintro i (rfl | rfl | rfl | ⟨hsurf, rfl⟩)
      · simp only [InEmr] at hb
        omega
      · simp only [InEmr, mmPCIE_INDEX2] at *
        omega
      · simp only [InEmr, mmPCIE_DATA2] at *
        omega
      · obtain ⟨hlo, -, -⟩ := (looksLikePlaneSurf_iff reg).mp hsurf
        have hctl := planeCtlReg_toNat hsurf
        rw [index_toNat, BitVec.toNat_setWidth, hctl]
        simp only [InEmr] at hb
        omega

/-! ## The guards before them -/

/-- The planes are far above the error-mask registers. -/
theorem ownMasksEmr_planeCtl {reg : BitVec 32}
    (hsurf : looksLikePlaneSurf (reg.setWidth 64) = true) (s : Mmio) (val : BitVec 32) :
    s.OwnMasksEmr ((reg - 0x1C).setWidth 64) val := by
  obtain ⟨hlo, -, -⟩ := (looksLikePlaneSurf_iff _).mp hsurf
  rw [BitVec.toNat_setWidth] at hlo
  intro length _ _
  refine masksEmr_of_clear (fun k hk => ?_) val
  rw [index_toNat, BitVec.toNat_setWidth, BitVec.toNat_sub]
  have hlt := reg.isLt
  simp only [InEmr]
  simp
  omega

theorem emrOnes_v93Guard {s : HookState} (hs : s.mmio.EmrOnes) (param1 : BitVec 64)
    (param2 : BitVec 32) : (v93Guard param1 param2 s).2.mmio.EmrOnes := by
  rw [v93Guard]
  dsimp only
  split
  · rename_i hsurf
    split
    · exact hs
    · have hctl := emrOnes_readReg32 hs (((param1 &&& 0xFFFFF).setWidth 32 - 0x1C).setWidth 64)
      split
      · split
        · exact hctl
        · split
          · exact emrOnes_readReg32 hctl _
          · exact emrOnes_writeReg32 (emrOnes_readReg32 hctl _) (ownMasksEmr_planeCtl hsurf _ _)
      · exact hctl
  · exact hs

theorem v93Guard_rmmio (param1 : BitVec 64) (param2 : BitVec 32) (s : HookState) :
    (v93Guard param1 param2 s).2.mmio.rmmio = s.mmio.rmmio := by
  rw [v93Guard]
  dsimp only
  split
  · split
    · rfl
    · split
      · split
        · exact readReg32_rmmio _ _
        · split
          · simp only [readReg32_rmmio]
          · simp only [writeReg32_rmmio, readReg32_rmmio]
      · exact readReg32_rmmio _ _
  · rfl

/-- The guard replaces zeros only. -/
theorem v93Guard_value (param1 : BitVec 64) (param2 : BitVec 32) (s : HookState) :
    (v93Guard param1 param2 s).1 = param2 ∨ param2 = 0 := by
  by_cases hzero : param2 = 0
  · exact .inr hzero
  · left
    rw [v93Guard]
    dsimp only
    split <;> rfl

/-- What the two guards make of a value that is intercepted or harmless: harmless. -/
theorem masksEmr_v72Intercept {a : Nat} {offset : BitVec 64} {value guarded : BitVec 32}
    (hguard : guarded = value ∨ value = 0) (h : isEmr offset = true ∨ MasksEmr a 4 value) :
    MasksEmr a 4 (v72Intercept offset guarded) := by
  cases hemr : isEmr offset with
  | true =>
      rw [v72Intercept_emr hemr]
      exact masksEmr_ones a
  | false =>
      rw [v72Intercept_other hemr]
      have hvalue : MasksEmr a 4 value := by
        rcases h with h | h
        · exact absurd (hemr.symm.trans h) Bool.false_ne_true
        · exact h
      rcases hguard with rfl | rfl
      · exact hvalue
      · exact hvalue.of_zero guarded

/-! ## The hooks -/

/-- Whether `raWriteRegister32` falls back to the plugin's own `writeReg32`. -/
def HookConfig.fallsBack (cfg : HookConfig) (that : BitVec 64) : Bool :=
  that == 0 || !cfg.oraWriteRegister32

/-- The two tests at the end of the hook are one. -/
theorem HookConfig.ite_fallsBack {α : Type} (cfg : HookConfig) (that : BitVec 64)
    (own original : α) :
    (if that = 0 then own else if !cfg.oraWriteRegister32 then own else original) =
      if cfg.fallsBack that then own else original := by
  rw [HookConfig.fallsBack]
  by_cases hnull : that = 0
  · rw [if_pos hnull, beq_iff_eq.mpr hnull, Bool.true_or, if_pos rfl]
  · rw [if_neg hnull, beq_eq_false_iff_ne.mpr hnull, Bool.false_or]

theorem raWriteRegister32From_eq (cfg : HookConfig) (origin that param1 : BitVec 64)
    (param2 : BitVec 32) (s : HookState) :
    ∃ (guarded : BitVec 32) (s' : HookState),
      (guarded = param2 ∨ param2 = 0) ∧ s'.mmio.rmmio = s.mmio.rmmio ∧
      (s.mmio.EmrOnes → s'.mmio.EmrOnes) ∧
      (raWriteRegister32From cfg origin that param1 param2 s).mmio =
        if cfg.fallsBack that then writeReg32 param1 (v72Intercept param1 guarded) s'.mmio
        else s'.mmio.original origin param1 4 ((v72Intercept param1 guarded).setWidth 64) := by
  have hback : ∀ guarded (s' : HookState),
      (if that = 0 then { s' with mmio := writeReg32 param1 guarded s'.mmio }
        else if !cfg.oraWriteRegister32 then { s' with mmio := writeReg32 param1 guarded s'.mmio }
        else { s' with mmio := s'.mmio.original origin param1 4 (guarded.setWidth 64) } :
          HookState).mmio =
      if cfg.fallsBack that then writeReg32 param1 guarded s'.mmio
      else s'.mmio.original origin param1 4 (guarded.setWidth 64) := by
    intro guarded s'
    rw [cfg.ite_fallsBack]
    split <;> rfl
  rw [raWriteRegister32From]
  cases cfg.isV93PlaneGuardEnabled with
  | true =>
      exact ⟨_, _, v93Guard_value param1 param2 s, v93Guard_rmmio param1 param2 s,
        fun hs => emrOnes_v93Guard hs param1 param2, hback _ _⟩
  | false => exact ⟨param2, s, .inl rfl, rfl, id, hback _ _⟩

theorem emrOnes_raWriteRegister32From {cfg : HookConfig} {origin that param1 : BitVec 64}
    {param2 : BitVec 32} {s : HookState} (hs : s.mmio.EmrOnes)
    (h : isEmr param1 = true ∨
      if cfg.fallsBack that then s.mmio.OwnMasksEmr param1 param2
      else MasksEmr (param1 - origin).toNat 4 param2) :
    (raWriteRegister32From cfg origin that param1 param2 s).mmio.EmrOnes := by
  obtain ⟨guarded, s', hguard, hmap, hones, heq⟩ :=
    raWriteRegister32From_eq cfg origin that param1 param2 s
  rw [heq]
  split at h
  · rw [if_pos ‹_›]
    refine emrOnes_writeReg32 (hones hs) fun length hlen hle => ?_
    exact masksEmr_v72Intercept hguard (h.imp_right fun h => h length (hmap ▸ hlen) hle)
  · rw [if_neg ‹_›]
    exact emrOnes_original (hones hs) (masksEmr_setWidth (masksEmr_v72Intercept hguard h))

theorem emrOnes_raWriteRegister64 {param1 param2 : BitVec 64} {s : HookState}
    (hs : s.mmio.EmrOnes) (h : MasksEmr param1.toNat 8 param2) :
    (raWriteRegister64 param1 param2 s).mmio.EmrOnes := by
  -- whatever the guard makes of it: the value, or something else in place of zero
  have hstore : ∀ (m : Mmio) (v : BitVec 64), m.EmrOnes → v = param2 ∨ param2 = 0 →
      (m.original 0 param1 8 v).EmrOnes := by
    intro m v hm hv
    refine emrOnes_original hm ?_
    rw [sub_origin_zero]
    rcases hv with rfl | rfl
    · exact h
    · exact h.of_zero v
  rw [raWriteRegister64]
  dsimp only
  split
  · rename_i hg
    have hctl := emrOnes_readReg32 hs (((param1 &&& 0xFFFFF).setWidth 32 - 0x1C).setWidth 64)
    split
    · split
      · exact hstore _ _ (emrOnes_readReg32 hctl _) (.inr hg.2)
      · exact hstore _ _ (emrOnes_writeReg32 (emrOnes_readReg32 hctl _)
          (ownMasksEmr_planeCtl hg.1 _ _)) (.inl rfl)
    · exact hstore _ _ hctl (.inl rfl)
  · exact hstore _ _ hs (.inl rfl)

theorem emrOnes_fastWriteRegister32 {param1 : BitVec 64} {param2 : BitVec 32} {s : HookState}
    (hs : s.mmio.EmrOnes) (h : isEmr param1 = true ∨ MasksEmr param1.toNat 4 param2) :
    (fastWriteRegister32 param1 param2 s).mmio.EmrOnes := by
  refine emrOnes_original hs (masksEmr_setWidth ?_)
  rw [sub_origin_zero]
  split
  · rename_i hctl
    subst hctl
    exact masksEmr_of_clear (by decide) _
  · split
    · rename_i hstride
      subst hstride
      exact masksEmr_of_clear (by decide) _
    · exact masksEmr_v72Intercept (.inl rfl) h

/-! ## Runs -/

/-- A call of one of the register-write entry points. -/
inductive WriteCall where
  | wrapWriteRegister32 (controller : BitVec 64) (address value : BitVec 32)
  | raWriteRegister32 (that param1 : BitVec 64) (param2 : BitVec 32)
  | raWriteRegister32b (that param1 param2 : BitVec 64) (param3 : BitVec 32)
  | raWriteRegister64 (param1 param2 : BitVec 64)
  | fastWriteRegister32 (param1 : BitVec 64) (param2 : BitVec 32)
  | tWriteRegister32 (a : BitVec 64) (b : BitVec 32)

namespace WriteCall

def exec (cfg : HookConfig) : WriteCall → HookState → HookState
  | .wrapWriteRegister32 controller address value =>
      NootedGreen.wrapWriteRegister32 controller address value
  | .raWriteRegister32 that param1 param2 => NootedGreen.raWriteRegister32 cfg that param1 param2
  | .raWriteRegister32b that param1 param2 param3 =>
      NootedGreen.raWriteRegister32b cfg that param1 param2 param3
  | .raWriteRegister64 param1 param2 => NootedGreen.raWriteRegister64 param1 param2
  | .fastWriteRegister32 param1 param2 => NootedGreen.fastWriteRegister32 param1 param2
  | .tWriteRegister32 a b => NootedGreen.tWriteRegister32 a b

/-- The call is intercepted, or puts only `0xFF` bytes into the error-mask registers.  The
state matters through the length of the mapping alone. -/
def EmrSafe (cfg : HookConfig) (s : HookState) : WriteCall → Prop
  | .wrapWriteRegister32 controller address value =>
      if controller = 0 then s.mmio.OwnMasksEmr (address.setWidth 64) value
      else isEmr (address.setWidth 64) = true ∨ MasksEmr address.toNat 4 value
  | .raWriteRegister32 that param1 param2 =>
      isEmr param1 = true ∨
        if cfg.fallsBack that then s.mmio.OwnMasksEmr param1 param2
        else MasksEmr param1.toNat 4 param2
  | .raWriteRegister32b that param1 param2 param3 =>
      isEmr (param1 + param2) = true ∨
        if cfg.fallsBack that then s.mmio.OwnMasksEmr (param1 + param2) param3
        else MasksEmr param2.toNat 4 param3
  | .raWriteRegister64 param1 param2 => MasksEmr param1.toNat 8 param2
  | .fastWriteRegister32 param1 param2 => isEmr param1 = true ∨ MasksEmr param1.toNat 4 param2
  | .tWriteRegister32 a b => s.mmio.OwnMasksEmr a b

/-- One safe call. -/
theorem exec_emrMasked (cfg : HookConfig) (c : WriteCall) (s : HookState) (hs : EmrMasked s)
    (hsafe : c.EmrSafe cfg s) : EmrMasked (c.exec cfg s) := by
  rw [emrMasked_iff] at hs ⊢
  cases c with
  | wrapWriteRegister32 controller address value =>
      rw [EmrSafe] at hsafe
      rw [exec, NootedGreen.wrapWriteRegister32]
      split
      · rw [if_pos ‹_›] at hsafe
        exact emrOnes_writeReg32 hs hsafe
      · rw [if_neg ‹_›] at hsafe
        refine emrOnes_original hs (masksEmr_setWidth (masksEmr_v72Intercept (.inl rfl) ?_))
        rwa [sub_origin_zero, BitVec.toNat_setWidth_of_le (by decide)]
  | raWriteRegister32 that param1 param2 =>
      refine emrOnes_raWriteRegister32From hs ?_
      rwa [sub_origin_zero]
  | raWriteRegister32b that param1 param2 param3 =>
      have hland : param1 + param2 - param1 = param2 := by
        rw [BitVec.add_comm, BitVec.add_sub_cancel]
      refine emrOnes_raWriteRegister32From hs ?_
      rwa [hland]
  | raWriteRegister64 param1 param2 => exact emrOnes_raWriteRegister64 hs hsafe
  | fastWriteRegister32 param1 param2 => exact emrOnes_fastWriteRegister32 hs hsafe
  | tWriteRegister32 a b => exact emrOnes_writeReg32 hs hsafe

end WriteCall

/-- A run of calls that are each intercepted or harmless leaves both error-mask registers
all ones after every call.

`EmrSafe` is enough for this but is not exact.  With the V93 guard on, `raWriteRegister32b`
tests `param1 + param2` for a SURF register and stores at `param2`: a zero for the SURF of an
enabled plane is replaced by what it holds, so where this is all ones the call puts only `0xFF`
bytes into an EMR at `param2` without being `EmrSafe`. -/
theorem emr_stays_masked (cfg : HookConfig) {s : HookState} (hs : EmrMasked s)
    {calls : List WriteCall}
    (hcalls : Runs.Guarded (WriteCall.exec cfg) (fun c t => c.EmrSafe cfg t) calls s) :
    ∀ t ∈ Runs.states (WriteCall.exec cfg) calls s, EmrMasked t :=
  Runs.states_of_guarded (fun c t ht hc => c.exec_emrMasked cfg t ht hc) calls s hs hcalls

/-- Every register all ones. -/
def onesWindow : HookState := ⟨⟨some 0x1000000, fun _ => 0xFF, []⟩, []⟩

/-- The value Apple writes, through the three hooks that intercept it, then a ring
register. -/
theorem emr_stays_masked_appleValue :
    EmrMasked onesWindow ∧
    EmrMasked (Runs.run (WriteCall.exec ⟨false, true⟩)
      [.wrapWriteRegister32 1 0x20b4 0xfffffffa, .raWriteRegister32 1 0x220b4 0xfffffffa,
        .fastWriteRegister32 0x20b4 0xfffffffa, .raWriteRegister64 0x2030 0x10]
      onesWindow) := by
  have hones : EmrMasked onesWindow := ⟨by decide, by decide⟩
  refine ⟨hones, emr_stays_masked ⟨false, true⟩ hones ?_ _ (Runs.run_mem_states _ _ _)⟩
  refine ⟨?_, ?_, ?_, ?_, trivial⟩
  · exact .inl (by decide)
  · exact .inl (by decide)
  · exact .inl (by decide)
  · exact masksEmr_of_clear (by decide) _

/-- A null controller goes past the intercept. -/
theorem wrapWriteRegister32_null_unmasks :
    EmrMasked onesWindow ∧
    ¬ EmrMasked (WriteCall.exec ⟨false, true⟩ (.wrapWriteRegister32 0 0x20b4 0xfffffffa)
      onesWindow) := by
  refine ⟨⟨by decide, by decide⟩, ?_⟩
  rintro ⟨hrcs, -⟩
  have hstore : (writeReg32 0x20b4 0xfffffffa onesWindow.mmio).rmmioPtr =
      onesWindow.mmio.put 0x20b4 0xfffffffa := writeReg32_put _ (by decide)
  have hemr : (writeReg32 0x20b4 0xfffffffa onesWindow.mmio).rmmioPtr.load32 0x20b4 =
      0xfffffffa := by
    rw [hstore]
    exact ByteMem.load32_store_same _ _ _
  exact absurd (hemr.symm.trans hrcs) (by decide)

end NootedGreen

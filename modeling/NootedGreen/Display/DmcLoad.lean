/-
# `Display.DmcLoad` — `hwInitializeCState` and the display microcontroller's firmware

The boot argument `ngreen-dmc` chooses by its first letter:

    t, T    B48 := 0, Apple's original, B48 back; TGL firmware; 3 registers; DMC on
    a, A    B48 := 0, Apple's original, B48 back; ADL-P firmware; 52 registers; DMC on
    else    Apple's original

and then Apple's `hwConfigureCustomAUX`, if it was found.  B48 is the controller's field
that makes the original load firmware of its own.

The firmware is written word by word to 0x80000 and up, through the `FastWriteRegister32` hook,
whose fixups (`Hooks.FastPath`) are for registers below that.  So Apple's `FastWriteRegister32`
gets every word as it is, and if it stores what it is given (`FastWriteStores`), the device ends
with every word of the firmware in its place, every register of the list at its value and B48
as it was found (`dmc_loaded`).  This needs the firmware to end below 0x8F004, where the lists
begin; the TGL one has 4744 words.

**What is left out.**  The firmware's words, which nothing depends on (ADL-P's are not in the
repository); log lines and CE4, which is only logged.
-/
import Mathlib.Algebra.Group.Nat.Defs
import Mathlib.Data.List.Nodup
import NootedGreen.Hooks.FastPath
import NootedGreen.Lib.RegProg

namespace NootedGreen

open RegProg

/-! ## The code -/

/-- What the function reads and writes. -/
inductive CStateCell where
  | reg (r : BitVec 32)
  | b48
  deriving DecidableEq, Repr

/-- Apple's code that is called. -/
inductive CStateCall where
  | originalInitializeCState
  | originalConfigureCustomAUX
  | originalFastWriteRegister32 (param1 : BitVec 64) (param2 : BitVec 32)
  deriving DecidableEq, Repr

def CStateCall.isFastWrite : CStateCall → Bool
  | .originalFastWriteRegister32 _ _ => true
  | _ => false

inductive DmcChoice where
  | tgl
  | adlp
  | skip
  deriving DecidableEq, Repr

/-- By `dmcArg[0]`; an absent argument is the empty one. -/
def dmcChoice (dmcArg : String) : DmcChoice :=
  match dmcArg.toList.head? with
  | some c =>
      if c = 't' ∨ c = 'T' then .tgl else if c = 'a' ∨ c = 'A' then .adlp else .skip
  | none => .skip

def tglRegs : List (BitVec 32 × BitVec 32) :=
  [(0x8F074, 0x00006FC0), (0x8F004, 0x00A40088), (0x8F034, 0xC003B400)]

def adlpRegs : List (BitVec 32 × BitVec 32) :=
  [(0x8F074, 0x00086FC0), (0x8F034, 0xC003B400), (0x8F004, 0x01240108), (0x8F008, 0x512050D4),
    (0x8F03C, 0xC003B300), (0x8F00C, 0x584C57FC), (0x5F074, 0x00096FC0), (0x5F034, 0xC003DF00),
    (0x5F004, 0x214C2114), (0x5F038, 0xC003E000), (0x5F008, 0x22402208), (0x5F03C, 0xC0032C00),
    (0x5F00C, 0x241422FC), (0x5F040, 0xC0033100), (0x5F010, 0x26F826CC), (0x5F474, 0x0009EFC0),
    (0x5F434, 0xC003DF00), (0x5F404, 0xA968A930), (0x5F438, 0xC003E000), (0x5F408, 0xAA5CAA24),
    (0x5F43C, 0xC0032C00), (0x5F40C, 0xAC30AB18), (0x5F440, 0xC0033100), (0x5F410, 0xAF14AEE8),
    (0x5F874, 0x00053FC0), (0x5F83C, 0xC0032C00), (0x5F80C, 0x25202408), (0x5F840, 0xC0033100),
    (0x5F810, 0x280427D8), (0x5FC3C, 0xC0032C00), (0x5FC0C, 0x95209408), (0x5FC40, 0xC0033100),
    (0x5FC10, 0x980497D8), (0x60400, 0x8A000006), (0x60000, 0x0A9F09FF), (0x60004, 0x0A9F09FF),
    (0x60008, 0x0A4F0A2F), (0x6000C, 0x06D5063F), (0x60010, 0x06D50000), (0x60014, 0x06480642),
    (0x60028, 0x00000000), (0x60030, 0x7E5D159E), (0x60034, 0x00800000), (0x60040, 0x0007C1CD),
    (0x60044, 0x00080000), (0x61204, 0x00000067), (0x61208, 0x07D00001), (0x46140, 0x10000000),
    (0x45400, 0x00000401), (0x45404, 0x00000C03), (0x45408, 0x40000000), (0x4540C, 0x00000401)]

/-- The loop over the firmware, from byte `off` on: each word through the
`FastWriteRegister32` hook. -/
def loadBlob : Nat → List (BitVec 32) → RegProg CStateCell (BitVec 32) CStateCall Unit
  | _, [] => pure ()
  | off, w :: blob => do
      let param1 := BitVec.ofNat 64 (off + 0x80000)
      invoke (.originalFastWriteRegister32 param1 (handedOn .fast param1 w))
      loadBlob (off + 4) blob

def regWrites (regs : List (BitVec 32 × BitVec 32)) : List (CStateCell × BitVec 32) :=
  regs.map fun w => (.reg w.1, w.2)

/-- 0x45520 := 2 -/
def enableDmc : CStateCell × BitVec 32 := (.reg 0x45520, 2)

/-- One of the two loading branches. -/
def loadDmc (origB48 : BitVec 32) (blob : List (BitVec 32)) (regs : List (BitVec 32 × BitVec 32)) :
    RegProg CStateCell (BitVec 32) CStateCall Unit := do
  put .b48 0
  invoke .originalInitializeCState
  put .b48 origB48
  loadBlob 0 blob
  putAll (regWrites regs)
  put enableDmc.1 enableDmc.2

/-- Apple's `hwConfigureCustomAUX`, if it was resolved. -/
def hwConfigureCustomAUX (resolved : Bool) : RegProg CStateCell (BitVec 32) CStateCall Unit :=
  onlyIf (resolved = true) (invoke .originalConfigureCustomAUX)

/-- The firmware of both branches. -/
structure DmcFirmware where
  tgl : List (BitVec 32)
  adlp : List (BitVec 32)

/-- What a branch loads: firmware and registers. -/
def DmcChoice.payload (fw : DmcFirmware) :
    DmcChoice → Option (List (BitVec 32) × List (BitVec 32 × BitVec 32))
  | .tgl => some (fw.tgl, tglRegs)
  | .adlp => some (fw.adlp, adlpRegs)
  | .skip => none

def hwInitializeCState (fw : DmcFirmware) (dmcArg : String) (resolved : Bool) :
    RegProg CStateCell (BitVec 32) CStateCall Unit := do
  let origB48 ← get .b48
  match (dmcChoice dmcArg).payload fw with
  | some (blob, regs) => loadDmc origB48 blob regs
  | none => invoke .originalInitializeCState
  hwConfigureCustomAUX resolved

/-! ## The firmware's words -/

/-- Apple's `FastWriteRegister32` stores what it is given. -/
def FastWriteStores
    (call : CStateCall → (CStateCell → BitVec 32) → (CStateCell → BitVec 32)) : Prop :=
  ∀ param1 param2 s, call (.originalFastWriteRegister32 param1 param2) s =
    Function.update s (.reg (param1.setWidth 32)) param2

/-- What the loop then comes to. -/
def blobWrites : Nat → List (BitVec 32) → List (CStateCell × BitVec 32)
  | _, [] => []
  | off, w :: blob =>
      (.reg (BitVec.ofNat 32 (off + 0x80000)),
        handedOn .fast (BitVec.ofNat 64 (off + 0x80000)) w) :: blobWrites (off + 4) blob

section Loop

variable {call : CStateCall → (CStateCell → BitVec 32) → (CStateCell → BitVec 32)}

theorem run_loadBlob (hfast : FastWriteStores call) (off : Nat) (blob : List (BitVec 32))
    (s : CStateCell → BitVec 32) :
    ((loadBlob off blob).run (plain call) s).2 =
      ((putAll (blobWrites off blob)).run (plain call) s).2 := by
  induction blob generalizing off s with
  | nil => rfl
  | cons w blob ih =>
      have hstore : ∀ v, (plain call).call (.originalFastWriteRegister32
          (BitVec.ofNat 64 (off + 0x80000)) v) s =
          Function.update s (.reg (BitVec.ofNat 32 (off + 0x80000))) v := by
        intro v
        rw [← BitVec.setWidth_ofNat_of_le (show 32 ≤ 64 by decide)]
        exact hfast _ v s
      simp only [loadBlob, blobWrites, putAll, run_bind, run_invoke, run_put, hstore, plain_write,
        ih]

theorem calls_loadBlob (off : Nat) (blob : List (BitVec 32)) (s : CStateCell → BitVec 32) :
    ((loadBlob off blob).calls (plain call) s).filter (fun c => !c.1.isFastWrite) = [] := by
  induction blob generalizing off s with
  | nil => rfl
  | cons w blob ih =>
      rw [loadBlob, calls_bind, calls_invoke, List.filter_append, ih]
      rfl

end Loop

/-- The fixups of `FastWriteRegister32` are for lower registers. -/
theorem handedOn_fast_high {offset : BitVec 64} (h : 0x80000 ≤ offset.toNat) (w : BitVec 32) :
    handedOn .fast offset w = w := by
  have hne : ∀ low : BitVec 64, low.toNat < 0x80000 → offset ≠ low := by
    rintro low hlow rfl
    exact absurd hlow (Nat.not_lt.mpr h)
  have hemr : isEmr offset = false := by
    simp only [isEmr, Bool.or_eq_false_iff, beq_eq_false_iff_ne]
    exact ⟨hne _ (by decide), hne _ (by decide)⟩
  rw [handedOn, v72Intercept_other hemr, if_neg (hne _ (by decide)), if_neg (hne _ (by decide))]

/-- The register of byte `off` of the firmware. -/
def dmcReg (off : Nat) : BitVec 32 := BitVec.ofNat 32 (off + 0x80000)

theorem dmcReg_toNat {off : Nat} (h : off + 0x80000 < 2 ^ 32) :
    (dmcReg off).toNat = off + 0x80000 := by
  rw [dmcReg, BitVec.toNat_ofNat, Nat.mod_eq_of_lt h]

theorem blobWrites_mem {off : Nat} {blob : List (BitVec 32)} {c : CStateCell}
    (hfits : off + 4 * blob.length + 0x80000 ≤ 2 ^ 32)
    (h : c ∈ (blobWrites off blob).map Prod.fst) :
    ∃ i < blob.length, c = .reg (dmcReg (off + 4 * i)) := by
  induction blob generalizing off with
  | nil => exact absurd h List.not_mem_nil
  | cons w blob ih =>
      rw [List.length_cons] at hfits ⊢
      rcases List.mem_cons.mp h with rfl | h
      · exact ⟨0, Nat.succ_pos _, rfl⟩
      · obtain ⟨i, hi, rfl⟩ := ih (by omega) h
        exact ⟨i + 1, by omega, by rw [show off + 4 + 4 * i = off + 4 * (i + 1) by omega]⟩

theorem mem_blobWrites {off i : Nat} {blob : List (BitVec 32)} {w : BitVec 32}
    (hfits : off + 4 * blob.length + 0x80000 ≤ 2 ^ 32) (h : blob[i]? = some w) :
    (.reg (dmcReg (off + 4 * i)), w) ∈ blobWrites off blob := by
  induction blob generalizing off i with
  | nil => exact absurd h (by simp)
  | cons v blob ih =>
      rw [List.length_cons] at hfits
      cases i with
      | zero =>
          obtain rfl : v = w := Option.some.inj h
          have hword : handedOn .fast (BitVec.ofNat 64 (off + 0x80000)) v = v := by
            refine handedOn_fast_high ?_ v
            rw [BitVec.toNat_ofNat, Nat.mod_eq_of_lt (by omega)]
            omega
          rw [blobWrites, hword]
          exact List.mem_cons_self
      | succ i =>
          refine List.mem_cons_of_mem _ ?_
          rw [show off + 4 * (i + 1) = off + 4 + 4 * i by omega]
          exact ih (by omega) h

/-- No word is written twice. -/
theorem blobWrites_nodup {off : Nat} {blob : List (BitVec 32)}
    (hfits : off + 4 * blob.length + 0x80000 ≤ 2 ^ 32) :
    ((blobWrites off blob).map Prod.fst).Nodup := by
  induction blob generalizing off with
  | nil => exact List.nodup_nil
  | cons w blob ih =>
      rw [List.length_cons] at hfits
      refine List.nodup_cons.mpr ⟨fun hmem => ?_, ih (by omega)⟩
      obtain ⟨i, hi, heq⟩ := blobWrites_mem (by omega) hmem
      have hreg := congrArg BitVec.toNat (CStateCell.reg.inj heq)
      rw [dmcReg_toNat (by omega)] at hreg
      have hfirst : (dmcReg off).toNat = off + 0x80000 := dmcReg_toNat (by omega)
      rw [dmcReg] at hfirst
      omega

/-! ## The registers -/

/-- The lists keep clear of the firmware and of the enable register, and name no register
twice. -/
structure DmcRegs (regs : List (BitVec 32 × BitVec 32)) : Prop where
  apart : ∀ r ∈ regs.map Prod.fst, r.toNat < 0x80000 ∨ 0x8F004 ≤ r.toNat
  fresh : 0x45520 ∉ regs.map Prod.fst
  nodup : (regs.map Prod.fst).Nodup

theorem payload_regs {fw : DmcFirmware} {choice : DmcChoice} {blob : List (BitVec 32)}
    {regs : List (BitVec 32 × BitVec 32)} (h : choice.payload fw = some (blob, regs)) :
    DmcRegs regs := by
  have hall : ∀ {l : List (BitVec 32)},
      l.all (fun r => decide (r.toNat < 0x80000 ∨ 0x8F004 ≤ r.toNat)) = true →
      ∀ r ∈ l, r.toNat < 0x80000 ∨ 0x8F004 ≤ r.toNat := fun h r hr =>
    of_decide_eq_true (List.all_eq_true.mp h r hr)
  cases choice with
  | tgl =>
      obtain ⟨rfl, rfl⟩ := Prod.mk.inj (Option.some.inj h)
      exact ⟨hall (by decide), by decide, by decide⟩
  | adlp =>
      obtain ⟨rfl, rfl⟩ := Prod.mk.inj (Option.some.inj h)
      exact ⟨hall (by decide), by decide, by decide⟩
  | skip => exact nomatch h

section Load

variable (call : CStateCall → (CStateCell → BitVec 32) → (CStateCell → BitVec 32))
  (origB48 : BitVec 32) {blob : List (BitVec 32)} {regs : List (BitVec 32 × BitVec 32)}
  (s : CStateCell → BitVec 32)

/-- The cells as Apple's `hwInitializeCState` leaves them, started with B48 zero. -/
def afterCState : CStateCell → BitVec 32 :=
  call .originalInitializeCState (Function.update s .b48 0)

/-- The writes after it, as one list. -/
def dmcWrites (origB48 : BitVec 32) (blob : List (BitVec 32))
    (regs : List (BitVec 32 × BitVec 32)) : List (CStateCell × BitVec 32) :=
  (.b48, origB48) :: blobWrites 0 blob ++ regWrites regs ++ [enableDmc]

theorem run_loadDmc (hfast : FastWriteStores call) :
    ((loadDmc origB48 blob regs).run (plain call) s).2 =
      ((putAll (dmcWrites origB48 blob regs)).run (plain call) (afterCState call s)).2 := by
  rw [dmcWrites, run_putAll_append, run_putAll_append]
  simp only [loadDmc, run_bind, run_put, run_invoke, run_loadBlob hfast, putAll, run_pure]
  rfl

theorem calls_loadDmc :
    ((loadDmc origB48 blob regs).calls (plain call) s).filter (fun c => !c.1.isFastWrite) =
      [(.originalInitializeCState, Function.update s .b48 0)] := by
  simp only [loadDmc, calls_bind, calls_put, calls_invoke, calls_putAll, run_put, plain_write,
    List.nil_append, List.append_nil, List.filter_append, calls_loadBlob]
  rfl

theorem mem_regWrites {c : CStateCell} (h : c ∈ (regWrites regs).map Prod.fst) :
    ∃ r ∈ regs.map Prod.fst, c = .reg r := by
  rw [regWrites, List.map_map] at h
  obtain ⟨w, hw, rfl⟩ := List.mem_map.mp h
  exact ⟨w.1, List.mem_map_of_mem hw, rfl⟩

theorem regWrites_nodup (hregs : DmcRegs regs) : ((regWrites regs).map Prod.fst).Nodup := by
  have hmap : (regWrites regs).map Prod.fst = (regs.map Prod.fst).map CStateCell.reg := by
    rw [regWrites, List.map_map, List.map_map]
    rfl
  rw [hmap]
  exact hregs.nodup.map fun _ _ => CStateCell.reg.inj

/-- The registers of the firmware lie below 0x8F004. -/
theorem mem_blob_low (hfits : 4 * blob.length ≤ 0xF004) {c : CStateCell}
    (h : c ∈ (blobWrites 0 blob).map Prod.fst) :
    ∃ r : BitVec 32, c = .reg r ∧ 0x80000 ≤ r.toNat ∧ r.toNat < 0x8F004 := by
  obtain ⟨i, hi, rfl⟩ := blobWrites_mem (by omega) h
  refine ⟨_, rfl, ?_⟩
  rw [dmcReg_toNat (by omega)]
  omega

theorem dmcWrites_nodup (hfits : 4 * blob.length ≤ 0xF004) (hregs : DmcRegs regs) :
    ((dmcWrites origB48 blob regs).map Prod.fst).Nodup := by
  rw [dmcWrites, List.map_append, List.map_append, List.map_cons]
  refine List.nodup_append.mpr ⟨List.nodup_append.mpr ⟨List.nodup_cons.mpr ⟨?_,
    blobWrites_nodup (by omega)⟩, regWrites_nodup hregs, ?_⟩, List.nodup_singleton _, ?_⟩
  · intro hb48
    obtain ⟨r, heq, _⟩ := mem_blob_low hfits hb48
    exact nomatch heq
  · -- firmware and B48 against the list
    intro c hc c' hc' heq
    obtain ⟨r', hr', rfl⟩ := mem_regWrites hc'
    rcases List.mem_cons.mp hc with rfl | hc
    · exact nomatch heq
    · obtain ⟨r, rfl, hlow, hhigh⟩ := mem_blob_low hfits hc
      obtain rfl := CStateCell.reg.inj heq
      have hapart := hregs.apart r hr'
      omega
  · -- all of them against the enable register
    intro c hc c' hc' heq
    obtain rfl : c' = .reg 0x45520 := List.mem_singleton.mp hc'
    subst heq
    rcases List.mem_append.mp hc with hc | hc
    · rcases List.mem_cons.mp hc with heq | hc
      · exact nomatch heq
      · obtain ⟨r, heq, hlow, _⟩ := mem_blob_low hfits hc
        obtain rfl := CStateCell.reg.inj heq
        exact absurd hlow (by decide)
    · obtain ⟨r, hr, heq⟩ := mem_regWrites hc
      exact hregs.fresh (CStateCell.reg.inj heq ▸ hr)

end Load

/-- Where a branch loads firmware that fits, and `FastWriteRegister32` stores: Apple's original is
entered once, with B48 zero and every register as it was; then every word of the firmware is in
its place, every register of the list holds its value, the DMC is on, B48 is what it was before,
whatever the original did to it, and all other registers are as the original left them.  That is
what Apple's `hwConfigureCustomAUX` finds, or the caller where there is none. -/
theorem dmc_loaded (fw : DmcFirmware) (dmcArg : String) (resolved : Bool)
    (call : CStateCall → (CStateCell → BitVec 32) → (CStateCell → BitVec 32))
    (hfast : FastWriteStores call) (s : CStateCell → BitVec 32) {blob : List (BitVec 32)}
    {regs : List (BitVec 32 × BitVec 32)}
    (hload : (dmcChoice dmcArg).payload fw = some (blob, regs))
    (hfits : 4 * blob.length ≤ 0xF004) :
    ∃ entered loaded : CStateCell → BitVec 32,
      ((hwInitializeCState fw dmcArg resolved).calls (plain call) s).filter
          (fun c => !c.1.isFastWrite) =
        (.originalInitializeCState, entered) ::
          (if resolved = true then [(.originalConfigureCustomAUX, loaded)] else []) ∧
      ((hwInitializeCState fw dmcArg resolved).run (plain call) s).2 =
        (if resolved = true then call .originalConfigureCustomAUX loaded else loaded) ∧
      entered .b48 = 0 ∧ (∀ r, entered (.reg r) = s (.reg r)) ∧
      loaded .b48 = s .b48 ∧
      (∀ i w, blob[i]? = some w → loaded (.reg (dmcReg (4 * i))) = w) ∧
      (∀ w ∈ regs, loaded (.reg w.1) = w.2) ∧ loaded (.reg 0x45520) = 2 ∧
      ∀ r, .reg r ∉ (dmcWrites (s .b48) blob regs).map Prod.fst →
        loaded (.reg r) = call .originalInitializeCState entered (.reg r) := by
  have hregs : DmcRegs regs := payload_regs hload
  have hnodup := dmcWrites_nodup (s .b48) hfits hregs
  refine ⟨Function.update s .b48 0,
    ((putAll (dmcWrites (s .b48) blob regs)).run (plain call) (afterCState call s)).2,
    ?_, ?_, Function.update_self _ _ _, fun r => Function.update_of_ne CStateCell.noConfusion _ _,
    ?_, ?_, ?_, ?_, ?_⟩
  · simp only [hwInitializeCState, hload, hwConfigureCustomAUX, calls_bind, calls_get, run_get,
      plain_read, calls_onlyIf, calls_invoke, List.filter_append, calls_loadDmc,
      run_loadDmc call _ s hfast]
    cases resolved <;> rfl
  · simp only [hwInitializeCState, hload, hwConfigureCustomAUX, run_bind, run_get, plain_read,
      run_onlyIf, run_invoke, run_loadDmc call _ s hfast]
    split <;> rfl
  · exact run_putAll_mem _ _ hnodup (List.mem_append_left _ (List.mem_append_left _
      List.mem_cons_self))
  · intro i w hw
    have hmem : (.reg (dmcReg (0 + 4 * i)), w) ∈ blobWrites 0 blob :=
      mem_blobWrites (by omega) hw
    rw [Nat.zero_add] at hmem
    exact run_putAll_mem _ _ hnodup (List.mem_append_left _ (List.mem_append_left _
      (List.mem_cons_of_mem _ hmem)))
  · intro w hw
    exact run_putAll_mem _ _ hnodup (List.mem_append_left _ (List.mem_append_right _
      (List.mem_map_of_mem hw)))
  · exact run_putAll_mem _ _ hnodup (List.mem_append_right _ List.mem_cons_self)
  · exact fun r hr => run_putAll_other _ _ hr

/-- `ngreen-dmc=TGL`, firmware of the length of the TGL one, an original that overwrites B48. -/
theorem dmc_loaded_tgl :
    let fw : DmcFirmware := ⟨(List.range 4744).map (BitVec.ofNat 32), []⟩
    let call : CStateCall → (CStateCell → BitVec 32) → (CStateCell → BitVec 32)
      | .originalFastWriteRegister32 param1 param2, s =>
          Function.update s (.reg (param1.setWidth 32)) param2
      | _, s => Function.update s .b48 7
    let final := ((hwInitializeCState fw "TGL" false).run (plain call) fun _ => 1).2
    final .b48 = 1 ∧ final (.reg 0x8F034) = 0xC003B400 ∧
      ∀ i < 4744, final (.reg (dmcReg (4 * i))) = BitVec.ofNat 32 i := by
  intro fw call final
  have hfits : 4 * fw.tgl.length ≤ 0xF004 := by simp [fw]
  obtain ⟨entered, loaded, _, hfinal, _, _, hb48, hblob, hregs, _⟩ :=
    dmc_loaded fw "TGL" false call (fun _ _ _ => rfl) (fun _ => 1)
      (show _ = some (fw.tgl, tglRegs) from rfl) hfits
  rw [if_neg Bool.noConfusion] at hfinal
  replace hfinal : final = loaded := hfinal
  rw [hfinal]
  refine ⟨hb48, hregs (0x8F034, 0xC003B400) (by decide), fun i hi => hblob i _ ?_⟩
  simp [fw, hi]

end NootedGreen

/-
# `Hooks.RegisterWrite` — the register-write hooks of `TGL.cpp`

Apple's drivers write registers through half a dozen functions, each of which
the plugin replaces.  A hook ends in one of two back-ends: the plugin's own
`writeReg32`, or Apple's original.

    hook                   V93     V72 (EMR)   back-end
    wrapWriteRegister32    —       second      writeReg32 if the controller is null, else Apple
    raWriteRegister32      first   second      writeReg32 if null or no original, else Apple
    raWriteRegister32b     first   second      as raWriteRegister32, at base + offset
    raWriteRegister64      —       —           Apple
    FastWriteRegister32    —       first       Apple
    tWriteRegister32       —       —           writeReg32

Apple's originals are not in this repository.  They are taken to store the value
they are given at the place they are given: a byte offset, or for the `b` forms
an address inside a mapping that starts at the base pointer the caller passed.

**What is left out.**  `SYSLOG`/`DBGLOG` and the counters that only limit them;
the V63 block of `wrapWriteRegister32`, which only logs; the object pointer of
the hooks that only pass it on; `NGreen::callback` being null (it is set before
any hook is installed).
-/
import NootedGreen.Mmio.Access

namespace NootedGreen

open Mmio

/-- One entry of `v93States`; `surfReg` 0 is a free entry. -/
structure V93PlaneSurfState where
  surfReg : BitVec 32
  lastNonZeroSurf : BitVec 32
  deriving DecidableEq, Repr

/-- The window and the static table of `raWriteRegister32`. -/
structure HookState where
  mmio : Mmio
  v93States : List V93PlaneSurfState

/-- What is fixed at boot: the `ngreenv93` argument, and whether
`oraWriteRegister32` was resolved. -/
structure HookConfig where
  isV93PlaneGuardEnabled : Bool
  oraWriteRegister32 : Bool
  deriving DecidableEq, Repr

/-- One of Apple's originals, given `offset` and the low `n` bytes of `value`, where the
window starts at address `origin`. -/
def Mmio.original (origin offset : BitVec 64) (n : Nat) (value : BitVec 64) (s : Mmio) : Mmio :=
  { s with
    rmmioPtr := s.rmmioPtr.store (offset - origin).toNat n value
    trace := .original offset value :: s.trace }

/-- From origin 0 the number passed is the offset itself. -/
theorem sub_origin_zero (offset : BitVec 64) : offset - 0 = offset := BitVec.sub_zero offset

/-! ## V93: the SURF guard with a memory -/

/-- The entry of a SURF register, claimed on first use; `none` when all eight are taken. -/
def getV93State (surfReg : BitVec 32) (states : List V93PlaneSurfState) :
    Option Nat × List V93PlaneSurfState :=
  match states.findIdx? fun state => state.surfReg == surfReg with
  | some i => (some i, states)
  | none =>
      match states.findIdx? fun state => state.surfReg == 0 with
      | some i => (some i, states.set i ⟨surfReg, 0⟩)
      | none => (none, states)

/-- `state ? state->lastNonZeroSurf : 0`. -/
def lastNonZeroSurf (state : Option Nat) (states : List V93PlaneSurfState) : BitVec 32 :=
  match state.bind fun i => states[i]? with
  | some entry => entry.lastNonZeroSurf
  | none => 0

/-- `if (state) state->lastNonZeroSurf = surf`. -/
def setLastNonZeroSurf (state : Option Nat) (surf : BitVec 32)
    (states : List V93PlaneSurfState) : List V93PlaneSurfState :=
  match state with
  | some i => states.modify i fun entry => { entry with lastNonZeroSurf := surf }
  | none => states

/-- The V93 block of `raWriteRegister32`: the value to go on with. -/
def v93Guard (param1 : BitVec 64) (param2 : BitVec 32) (s : HookState) :
    BitVec 32 × HookState :=
  let reg : BitVec 32 := (param1 &&& 0xFFFFF).setWidth 32
  if looksLikePlaneSurf (reg.setWidth 64) then
    let (state, states) := getV93State reg s.v93States
    if param2 ≠ 0 then (param2, ⟨s.mmio, setLastNonZeroSurf state param2 states⟩)
    else
      let ctlReg := reg - 0x1C
      let (planCtl, mmio) := readReg32 (ctlReg.setWidth 64) s.mmio
      if planCtl &&& 0x80000000 ≠ 0 then
        if lastNonZeroSurf state states ≠ 0 then (lastNonZeroSurf state states, ⟨mmio, states⟩)
        else
          let (currentSurf, mmio) := readReg32 (reg.setWidth 64) mmio
          if currentSurf ≠ 0 then
            (currentSurf, ⟨mmio, setLastNonZeroSurf state currentSurf states⟩)
          else
            (param2, ⟨writeReg32 (ctlReg.setWidth 64) (planCtl &&& ~~~0x80000000) mmio, states⟩)
      else (param2, ⟨mmio, states⟩)
  else (param2, s)

/-! ## V72: the error-mask intercept -/

/-- The error-mask registers, RCS and BCS. -/
def isEmr (offset : BitVec 64) : Bool := offset == 0x20b4 || offset == 0x220b4

/-- The V72 block, the same in three hooks: all errors stay masked. -/
def v72Intercept (offset : BitVec 64) (value : BitVec 32) : BitVec 32 :=
  if isEmr offset then if value ≠ 0xFFFFFFFF then 0xFFFFFFFF else value else value

theorem v72Intercept_emr {offset : BitVec 64} (h : isEmr offset = true) (value : BitVec 32) :
    v72Intercept offset value = 0xFFFFFFFF := by
  rw [v72Intercept, if_pos h]
  split
  · rfl
  · exact not_not.mp ‹_›

theorem v72Intercept_other {offset : BitVec 64} (h : isEmr offset = false) (value : BitVec 32) :
    v72Intercept offset value = value := by
  rw [v72Intercept, h]
  rfl

/-! ## The hooks -/

def wrapWriteRegister32 (controller : BitVec 64) (address value : BitVec 32) (s : HookState) :
    HookState :=
  if controller = 0 then { s with mmio := writeReg32 (address.setWidth 64) value s.mmio }
  else
    let value := v72Intercept (address.setWidth 64) value
    { s with mmio := s.mmio.original 0 (address.setWidth 64) 4 (value.setWidth 64) }

/-- `raWriteRegister32`, with the address Apple's original counts its offset from. -/
def raWriteRegister32From (cfg : HookConfig) (origin that param1 : BitVec 64) (param2 : BitVec 32)
    (s : HookState) : HookState :=
  let (param2, s) := if cfg.isV93PlaneGuardEnabled then v93Guard param1 param2 s else (param2, s)
  let param2 := v72Intercept param1 param2
  if that = 0 then { s with mmio := writeReg32 param1 param2 s.mmio }
  else if !cfg.oraWriteRegister32 then { s with mmio := writeReg32 param1 param2 s.mmio }
  else { s with mmio := s.mmio.original origin param1 4 (param2.setWidth 64) }

def raWriteRegister32 (cfg : HookConfig) (that param1 : BitVec 64) (param2 : BitVec 32)
    (s : HookState) : HookState :=
  raWriteRegister32From cfg 0 that param1 param2 s

/-- `param1` is the start of the window; the sum is passed on as one number. -/
def raWriteRegister32b (cfg : HookConfig) (that param1 param2 : BitVec 64) (param3 : BitVec 32)
    (s : HookState) : HookState :=
  raWriteRegister32From cfg param1 that (param1 + param2) param3 s

def raWriteRegister64 (param1 param2 : BitVec 64) (s : HookState) : HookState :=
  let reg : BitVec 32 := (param1 &&& 0xFFFFF).setWidth 32
  let (param2, mmio) :=
    if looksLikePlaneSurf (reg.setWidth 64) = true ∧ param2 = 0 then
      let ctlReg := reg - 0x1C
      let (planCtl, mmio) := readReg32 (ctlReg.setWidth 64) s.mmio
      if planCtl &&& 0x80000000 ≠ 0 then
        let (currentSurf, mmio) := readReg32 (reg.setWidth 64) mmio
        if currentSurf ≠ 0 then (currentSurf.setWidth 64, mmio)
        else (param2, writeReg32 (ctlReg.setWidth 64) (planCtl &&& ~~~0x80000000) mmio)
      else (param2, mmio)
    else (param2, s.mmio)
  { s with mmio := mmio.original 0 param1 8 param2 }

def fastWriteRegister32 (param1 : BitVec 64) (param2 : BitVec 32) (s : HookState) : HookState :=
  let param2 := v72Intercept param1 param2
  let param2 := if param1 = 0x70188 then param2 * 8 else param2
  let param2 := if param1 = 0x70180 then param2 &&& ~~~((0x7 : BitVec 32) <<< 10) else param2
  { s with mmio := s.mmio.original 0 param1 4 (param2.setWidth 64) }

def tWriteRegister32 (a : BitVec 64) (b : BitVec 32) (s : HookState) : HookState :=
  { s with mmio := writeReg32 a b s.mmio }

end NootedGreen

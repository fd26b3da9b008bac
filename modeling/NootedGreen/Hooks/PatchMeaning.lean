/-
# `Hooks.PatchMeaning` — what the kext patches change

Original and patched bytes side by side, as x86 code.  What is said of them holds in every state
and whatever the functions they call do, and `execute` is what a machine does that comes to the
bytes anywhere in a kext (`X86.reaches_execute`).

    power well, hwreg, deviceStart, IOAcceleratorFamily2    one branch is decided for good
    device identifiers                                       every device passes for the known one
    topology                                                 three members get fixed values
    ReadRegister64                                           a read has room for eight bytes
    port probes, NVRAM                                       a method is not called

**What is left out.**  The patches that only exchange a constant: `osinfo`, `mem` and
`getHPDState`; the connector table and the panel power registers, which are data.
-/
import NootedGreen.Hooks.KextPatches
import NootedGreen.Platform.Detection

namespace NootedGreen

open X86
open X86.State (addr put putResult mem_withFlags mem_write mem_setReg)

/-! ## Branches -/

section Masks

variable {find mask bytes : List (BitVec 8)}

/-- The bytes of a pattern, the open ones given. -/
def fill : List (BitVec 8) → List (BitVec 8) → List (BitVec 8) → List (BitVec 8)
  | f :: fs, m :: ms, os =>
      if m = 0 then
        match os with
        | [] => []
        | o :: os => o :: fill fs ms os
      else f :: fill fs ms os
  | _, _, _ => []

/-- A byte is fixed or open, no part of one. -/
def Whole (mask : List (BitVec 8)) : Prop := ∀ m ∈ mask, m = 0 ∨ m = BitVec.allOnes 8

instance (mask : List (BitVec 8)) : Decidable (Whole mask) :=
  inferInstanceAs (Decidable (∀ m ∈ mask, m = 0 ∨ m = BitVec.allOnes 8))

theorem exists_fill (hmask : Whole mask) (h : MatchesMask find mask bytes) :
    ∃ os, os.length = mask.count 0 ∧ bytes = fill find mask os := by
  induction find generalizing mask bytes with
  | nil =>
      cases mask with
      | nil =>
          cases bytes with
          | nil => exact ⟨[], rfl, rfl⟩
          | cons => exact h.elim
      | cons => exact h.elim
  | cons f find ih =>
      cases mask with
      | nil => exact h.elim
      | cons m mask =>
          cases bytes with
          | nil => exact h.elim
          | cons b bytes =>
              obtain ⟨hb, hbytes⟩ := h
              obtain ⟨hm, hrest⟩ := List.forall_mem_cons.mp hmask
              obtain ⟨os, hlen, hos⟩ := ih hrest hbytes
              rcases hm with rfl | rfl
              · exact ⟨b :: os, by rw [List.count_cons_self, ← hlen]; rfl, congrArg (b :: ·) hos⟩
              · rw [BitVec.and_allOnes] at hb
                exact ⟨os, hlen, by rw [hos, hb]; rfl⟩

/-- What a replacement under a mask of whole bytes leaves. -/
def pick : List (BitVec 8) → List (BitVec 8) → List (BitVec 8) → List (BitVec 8)
  | r :: rs, m :: ms, b :: bs => (if m = 0 then b else r) :: pick rs ms bs
  | _, _, bs => bs

theorem overlay_eq_pick {replace : List (BitVec 8)} (hmask : Whole mask) :
    overlay replace mask bytes = pick replace mask bytes := by
  induction replace generalizing mask bytes with
  | nil => rfl
  | cons r replace ih =>
      cases mask with
      | nil => rfl
      | cons m mask =>
          cases bytes with
          | nil => rfl
          | cons b bytes =>
              obtain ⟨hm, hrest⟩ := List.forall_mem_cons.mp hmask
              rw [overlay, pick, ih hrest]
              rcases hm with rfl | rfl
              · have hopen : b &&& ~~~0 ||| r &&& 0 = b := by
                  rw [show r &&& 0 = 0#8 from BitVec.and_zero, BitVec.or_zero]
                  exact BitVec.and_allOnes
                rw [if_pos rfl, hopen]
              · rw [if_neg (by decide), BitVec.not_allOnes, BitVec.and_zero, BitVec.and_allOnes,
                  BitVec.zero_or]

end Masks

/-- The framebuffer's power well and hwreg patches. -/
def FramebufferKext.branchPatches : List LookupPatchPlus :=
  (patchesProduction ++ patches).filter fun patch => [f1p, f10p, f1, f10].contains patch.find

/-- The patches that decide one branch. -/
def branchPatches : List LookupPatchPlus :=
  FramebufferKext.branchPatches ++ [AcceleratorKext.devstart, AcceleratorKext.patchRPLDevstartLong,
    IOAcceleratorFamily2.p2, IOAcceleratorFamily2.p1]

/-- Up to some byte the patch decides a branch, and behind it nothing changes. -/
def LookupPatchPlus.DecidesBranch (patch : LookupPatchPlus) : Prop :=
  ∀ bytes, patch.Finds bytes → ∃ k, Decides (bytes.take k) ((patch.written bytes).take k) ∧
    (patch.written bytes).drop k = bytes.drop k

theorem unmasked_decides {patch : LookupPatchPlus} (hfind : patch.findMask = none)
    (hreplace : patch.replaceMask = none) (h : Decides patch.find patch.replace) :
    patch.DecidesBranch := by
  intro bytes hfinds
  rw [LookupPatchPlus.Finds, hfind] at hfinds
  rw [LookupPatchPlus.written, hreplace]
  refine ⟨patch.find.length, ?_, ?_⟩
  · rw [hfinds, List.take_length, ← patch.size_eq, List.take_length]
    exact h
  · rw [hfinds, List.drop_length, ← patch.size_eq, List.drop_length]

theorem maskedPatch_decides {kext count : Nat} {find findMask replace replaceMask : List (BitVec 8)}
    {hsize : replace.length = find.length} (hfind : Whole findMask) (hreplace : Whole replaceMask)
    (k : Nat) (h : ∀ os : List (BitVec 8), os.length = findMask.count 0 →
      let bytes := fill find findMask os
      Decides (bytes.take k) ((pick replace replaceMask bytes).take k) ∧
        (pick replace replaceMask bytes).drop k = bytes.drop k) :
    (maskedPatch kext find findMask replace replaceMask count hsize).DecidesBranch := by
  intro bytes hfinds
  obtain ⟨os, hlen, rfl⟩ := exists_fill hfind hfinds
  obtain ⟨hdecides, hrest⟩ := h os hlen
  refine ⟨k, ?_⟩
  show Decides _ ((overlay replace replaceMask _).take k) ∧
    (overlay replace replaceMask _).drop k = _
  rw [overlay_eq_pick hreplace]
  exact ⟨hdecides, hrest⟩

namespace FramebufferKext

theorem power_well_decides : Decides f1 r1 := by
  refine ⟨[(.call 0xFFFFFFFFFFFD9F99, 5),
    (.mov .dword (.mem (.base .rbp 0xFFFFFFFFFFFFFFC8)) .rax, 3),
    (.aluImm .cmp .dword (.reg .rax) 0xFFFF, 5)], .e, 0x78, 2, ?_, ?_, .inl ?_⟩ <;> decide

theorem power_well_production_decides : Decides f1p r1p := by
  refine ⟨[(.call 0xFFFFFFFFFFFEB066, 5),
    (.mov .dword (.mem (.base .rbp 0xFFFFFFFFFFFFFFC8)) .rax, 3),
    (.aluImm .cmp .dword (.reg .rax) 0xFFFF, 5)], .e, 0x45, 2, ?_, ?_, .inl ?_⟩ <;> decide

theorem hwreg_decides : Decides f10 r10 := by
  refine ⟨[(.call 0xFFFFFFFFFFFFE2AF, 5), (.alu .test .byte (.reg .rax) .rax, 2)], .e, 0x5B, 2,
    ?_, ?_, .inl ?_⟩ <;> decide

theorem hwreg_production_decides : Decides f10p r10p := by
  refine ⟨[(.call 0xFFFFFFFFFFFFF39E, 5), (.alu .test .byte (.reg .rax) .rax, 2)], .e, 0x3D, 2,
    ?_, ?_, .inl ?_⟩ <;> decide

theorem branchPatches_unmasked : ∀ patch ∈ branchPatches,
    patch.findMask = none ∧ patch.replaceMask = none ∧
      (patch.find, patch.replace) ∈ [(f1p, r1p), (f10p, r10p), (f1, r1), (f10, r10)] := by
  decide

theorem branchPatches_decideBranch : ∀ patch ∈ branchPatches, patch.DecidesBranch := by
  intro patch hpatch
  obtain ⟨hfind, hreplace, hpair⟩ := branchPatches_unmasked patch hpatch
  refine unmasked_decides hfind hreplace ?_
  simp only [List.mem_cons, List.not_mem_nil, or_false, Prod.mk.injEq] at hpair
  rcases hpair with ⟨hf, hr⟩ | ⟨hf, hr⟩ | ⟨hf, hr⟩ | ⟨hf, hr⟩
  · exact hf ▸ hr ▸ power_well_production_decides
  · exact hf ▸ hr ▸ hwreg_production_decides
  · exact hf ▸ hr ▸ power_well_decides
  · exact hf ▸ hr ▸ hwreg_decides

end FramebufferKext

namespace AcceleratorKext

/-- `call [rax + 0x970]; test al, al`. -/
def deviceStartCall : Block :=
  [(.callAt (.mem (.base .rax 0x970)), 6), (.alu .test .byte (.reg .rax) .rax, 2)]

theorem devstart_decides : devstart.DecidesBranch := by
  refine maskedPatch_decides (by decide) (by decide) 10 fun os hlen => ?_
  match os, hlen with
  | [disp, _], _ =>
      refine ⟨?_, rfl⟩
      show Decides (fDevstart.take 9 ++ [disp]) (rDevstart.take 10)
      exact ⟨deviceStartCall, .e, disp.signExtend 64, 2, by decide, rfl, .inr (by decide)⟩

theorem devstart_long_decides : patchRPLDevstartLong.DecidesBranch := by
  refine maskedPatch_decides (by decide) (by decide) 14 fun os hlen => ?_
  match os, hlen with
  | [d₀, d₁, d₂, d₃], _ =>
      refine ⟨?_, rfl⟩
      show Decides (fDevstartLong.take 10 ++ [d₀, d₁, d₂, d₃]) rDevstartLong
      exact ⟨deviceStartCall, .e, (d₃ ++ d₂ ++ d₁ ++ d₀).signExtend 64, 6, by decide, rfl,
        .inr (by decide)⟩

end AcceleratorKext

namespace IOAcceleratorFamily2

theorem p2_decides : p2.DecidesBranch := by
  refine maskedPatch_decides (by decide) (by decide) 12 fun os hlen => ?_
  match os, hlen with
  | [i₀, i₁, i₂, i₃, disp], _ =>
      refine ⟨⟨[(.push .r12, 2), (.push .rbx, 1), (.push .rax, 1),
        (.aluImm .test .dword (.reg .rdx) ((i₃ ++ i₂ ++ i₁ ++ i₀).signExtend 64), 6)], .e,
        disp.signExtend 64, 2, ?_, rfl, .inl rfl⟩, rfl⟩
      simp only [List.forall_mem_cons]
      exact ⟨rfl, rfl, rfl, rfl, List.forall_mem_nil _⟩

theorem p1_decides : p1.DecidesBranch := by
  refine maskedPatch_decides (by decide) (by decide) 2 fun os hlen => ?_
  match os, hlen with
  | [disp, _, _, _, _, _, _, _, _], _ =>
      refine ⟨?_, rfl⟩
      show Decides [0x75, disp] (f1R.take 2)
      exact ⟨[], .ne, disp.signExtend 64, 2, List.forall_mem_nil _, rfl, .inr (by decide)⟩

end IOAcceleratorFamily2

theorem branchPatches_decide : ∀ patch ∈ branchPatches, patch.DecidesBranch := by
  refine List.forall_mem_append.mpr ⟨FramebufferKext.branchPatches_decideBranch, ?_⟩
  simp only [List.forall_mem_cons]
  exact ⟨AcceleratorKext.devstart_decides, AcceleratorKext.devstart_long_decides,
    IOAcceleratorFamily2.p2_decides, IOAcceleratorFamily2.p1_decides, List.forall_mem_nil _⟩

/-- Wherever one of these patches matches, the code up to some byte has two exits, and the
patched code takes one of them, whatever the state and whatever the functions it calls do; it
leaves the state the original leaves, and no byte behind changes. -/
theorem branch_patches {patch : LookupPatchPlus} (hpatch : patch ∈ branchPatches)
    {bytes : List (BitVec 8)} (hfinds : patch.Finds bytes) :
    ∃ k exit other, (patch.written bytes).drop k = bytes.drop k ∧
      ∀ env pc s, ∃ t, execute env (bytes.take k) pc s = some t ∧
        (t.1 = pc + exit ∨ t.1 = pc + other) ∧
        execute env ((patch.written bytes).take k) pc s = some (pc + exit, t.2) := by
  obtain ⟨k, hdecides, hrest⟩ := branchPatches_decide patch hpatch bytes hfinds
  obtain ⟨exit, other, hruns⟩ := hdecides.execute
  exact ⟨k, exit, other, hrest, hruns⟩

/-- The branch of `IOAcceleratorFamily2` over zeroes. -/
theorem branch_patches_p1 :
    ∃ k exit other, (IOAcceleratorFamily2.p1.written IOAcceleratorFamily2.f1F).drop k =
        IOAcceleratorFamily2.f1F.drop k ∧
      ∀ env pc s, ∃ t, execute env (IOAcceleratorFamily2.f1F.take k) pc s = some t ∧
        (t.1 = pc + exit ∨ t.1 = pc + other) ∧
        execute env ((IOAcceleratorFamily2.p1.written IOAcceleratorFamily2.f1F).take k) pc s =
          some (pc + exit, t.2) := by
  have hfinds : IOAcceleratorFamily2.p1.Finds IOAcceleratorFamily2.f1F := by
    simp [LookupPatchPlus.Finds, IOAcceleratorFamily2.p1, maskedPatch, MatchesMask,
      IOAcceleratorFamily2.f1F, IOAcceleratorFamily2.f1M]
  exact branch_patches (by decide) hfinds

/-! ## Device identifiers -/

namespace AcceleratorKext

/-- `mov edi, [rsi]; cmp edi, 0xDEAFBEEE; jg; cmp edi, 0x9A408086; je`. -/
def deviceCheck : Block :=
  [(.load .dword .rdi (.mem (.base .rsi 0)), 2),
    (.aluImm .cmp .dword (.reg .rdi) 0xFFFFFFFFDEAFBEEE, 6), (.jcc .g 0x15, 2),
    (.aluImm .cmp .dword (.reg .rdi) 0xFFFFFFFF9A408086, 6), (.jcc .e 0x2D, 2)]

def deviceCheckPatched : Block :=
  [(.load .dword .rdi (.mem (.base .rsi 0)), 2),
    (.aluImm .cmp .dword (.reg .rdi) 0xFFFFFFFFDEAFBEEE, 6), (.nop, 1), (.nop, 1),
    (.aluImm .cmp .dword (.reg .rdi) 0xFFFFFFFF9A408086, 6), (.jmp 0x2D, 2)]

theorem encodes_deviceCheck : Encodes f3 deviceCheck := by decide

theorem encodes_deviceCheckPatched : Encodes r3 deviceCheckPatched := by decide

/-- The identifier `rsi` points to. -/
def deviceId (s : X86.State) : BitVec 32 := s.mem.load32 (s.reg .rsi).toNat

/-- The state of a device that has been compared with the known one. -/
def compared (s : X86.State) : X86.State :=
  (s.setReg .dword .rdi ((deviceId s).setWidth 64)).withFlags
    (X86.subFlags (deviceId s) 0x9A408086#32)

theorem run_deviceCheckPatched (env : Env) (pc : Word) (s : X86.State) :
    run env deviceCheckPatched pc s = (pc + 0x3F#64, compared s) := by
  simp only [deviceCheckPatched, run_load, run_aluImm, run_nop, run_jmp]
  simp [putResult, Alu.run, X86.State.get, addr, X86.State.read, compared, deviceId,
    BitVec.add_assoc]

theorem run_deviceCheck (env : Env) (pc : Word) (s : X86.State) :
    run env deviceCheck pc s =
      if Cond.g.holds (subFlags (deviceId s) 0xDEAFBEEE#32) then
        (pc + 0x1F#64, (s.setReg .dword .rdi ((deviceId s).setWidth 64)).withFlags
          (subFlags (deviceId s) 0xDEAFBEEE#32))
      else if deviceId s == 0x9A408086#32 then (pc + 0x3F#64, compared s)
      else (pc + 0x12#64, compared s) := by
  simp only [deviceCheck, run_load, run_aluImm, run_jcc, run_nil]
  simp [putResult, Alu.run, X86.State.get, addr, X86.State.read, compared, deviceId,
    BitVec.add_assoc]

/-- Whatever the state, the patched code stores a value in a member of the accelerator, which is
in `r15`, and falls through; the original leaves the same registers and memory in the same place
exactly in the states given. -/
structure Fixes (find replace : List (BitVec 8)) (member value : Word)
    (agrees : X86.State → Prop) : Prop where
  stores : ∀ env pc s, ∃ u,
    execute env replace pc s = some (pc + BitVec.ofNat 64 find.length, u) ∧
      u.mem = s.mem.store (s.reg .r15 + member).toNat 4 value
  agrees_iff : ∀ env pc s, ∃ t u, execute env find pc s = some t ∧
    execute env replace pc s = some u ∧
      (t.1 = u.1 ∧ t.2.reg = u.2.reg ∧ t.2.mem = u.2.mem ↔ agrees s)

/-- `mov ebx, [rbp - 0x30]; popcnt esi, ebx; add esi, esi; mov [r15 + 0x1158], esi`. -/
def numSubSlices : Block :=
  [(.load .dword .rbx (.mem (.base .rbp 0xFFFFFFFFFFFFFFD0)), 3),
    (.popcnt .dword .rsi (.reg .rbx), 4), (.alu .add .dword (.reg .rsi) .rsi, 2),
    (.mov .dword (.mem (.base .r15 0x1158)) .rsi, 7)]

def numSubSlicesPatched : Block :=
  [(.load .dword .rbx (.mem (.base .rbp 0xFFFFFFFFFFFFFFD0)), 3),
    (.movImm .dword (.reg .rsi) 10, 5), (.nop, 1), (.mov .dword (.mem (.base .r15 0x1158)) .rsi, 7)]

/-- `mov esi, 8; sub esi, ebx; mov [r15 + 0x116c], esi; mov ecx, [r15 + 0x1158]`. -/
def maxEUPerSubSlice : Block :=
  [(.movImm .dword (.reg .rsi) 8, 5), (.alu .sub .dword (.reg .rsi) .rbx, 2),
    (.mov .dword (.mem (.base .r15 0x116C)) .rsi, 7),
    (.load .dword .rcx (.mem (.base .r15 0x1158)), 7)]

def maxEUPerSubSlicePatched : Block :=
  [(.movImm .dword (.reg .rsi) 8, 5), (.nop, 1), (.nop, 1),
    (.mov .dword (.mem (.base .r15 0x116C)) .rsi, 7),
    (.load .dword .rcx (.mem (.base .r15 0x1158)), 7)]

/-- The store is made for one topology, and the others branch off. -/
def l3BankCount : Block :=
  [(.jcc .e 0x23, 2), (.aluImm .cmp .dword (.reg .rcx) 2, 3), (.jcc .ne 0x189, 6),
    (.aluImm .cmp .dword (.reg .rsi) 1, 3), (.jcc .ne 0x59, 2),
    (.aluImm .cmp .dword (.reg .rdx) 12, 3), (.jcc .ne 0x54, 2),
    (.movImm .dword (.mem (.base .r15 0x1164)) 8, 11)]

def l3BankCountPatched : Block :=
  [(.nop, 1), (.nop, 1), (.aluImm .cmp .dword (.reg .rcx) 2, 3), (.nop, 1), (.nop, 1), (.nop, 1),
    (.nop, 1), (.nop, 1), (.nop, 1), (.aluImm .cmp .dword (.reg .rsi) 1, 3), (.nop, 1), (.nop, 1),
    (.aluImm .cmp .dword (.reg .rdx) 12, 3), (.nop, 1), (.nop, 1),
    (.movImm .dword (.mem (.base .r15 0x1164)) 8, 11)]

theorem encodes_topology :
    (Encodes f3bbb numSubSlices ∧ Encodes r3bbb numSubSlicesPatched) ∧
      (Encodes f3bb maxEUPerSubSlice ∧ Encodes r3bb maxEUPerSubSlicePatched) ∧
      Encodes f3b l3BankCount ∧ Encodes r3b l3BankCountPatched := by
  decide

/-- The mask whose bits are counted. -/
def subSliceMask (s : X86.State) : Word := s.read .dword (s.reg .rbp + 0xFFFFFFFFFFFFFFD0)

/-- A number of subslices, in `esi` and in its member. -/
def withSubSlices (s : X86.State) (v : Word) : X86.State :=
  ((s.setReg .dword .rbx (subSliceMask s)).setReg .dword .rsi v).write .dword
    (s.reg .r15 + 0x1158) v

theorem run_numSubSlices (env : Env) (pc : Word) (s : X86.State) :
    let count := BitVec.ofNat 32 (popCount ((subSliceMask s).setWidth 32))
    run env numSubSlices pc s =
      (pc + 16, (withSubSlices s ((count + count).setWidth 64)).withFlags
        (addFlags count count)) := by
  simp only [numSubSlices, run_load, run_popcnt, run_alu, run_mov, run_nil]
  simp [putResult, put, Alu.run, X86.State.get, addr, subSliceMask, withSubSlices,
    BitVec.add_assoc]

theorem run_numSubSlicesPatched (env : Env) (pc : Word) (s : X86.State) :
    run env numSubSlicesPatched pc s = (pc + 16, withSubSlices s 10) := by
  simp only [numSubSlicesPatched, run_load, run_movImm, run_nop, run_mov, run_nil]
  simp [put, X86.State.get, addr, subSliceMask, withSubSlices, BitVec.add_assoc]

/-- A number of execution units, in `esi` and in its member; the number of subslices is loaded. -/
def withMaxEU (s : X86.State) (v : Word) : X86.State :=
  let t := (s.setReg .dword .rsi v).write .dword (s.reg .r15 + 0x116C) v
  t.setReg .dword .rcx (t.read .dword (s.reg .r15 + 0x1158))

theorem run_maxEUPerSubSlice (env : Env) (pc : Word) (s : X86.State) :
    run env maxEUPerSubSlice pc s =
      (pc + 21, (withMaxEU s ((8 - s.low .rbx).setWidth 64)).withFlags
        (subFlags 8 (s.low .rbx))) := by
  simp only [maxEUPerSubSlice, run_load, run_movImm, run_mov, run_alu, run_nil]
  simp [putResult, put, Alu.run, X86.State.get, addr, withMaxEU, BitVec.add_assoc]

theorem run_maxEUPerSubSlicePatched (env : Env) (pc : Word) (s : X86.State) :
    run env maxEUPerSubSlicePatched pc s = (pc + 21, withMaxEU s 8) := by
  simp only [maxEUPerSubSlicePatched, run_load, run_movImm, run_nop, run_mov, run_nil]
  simp [put, X86.State.get, addr, withMaxEU, BitVec.add_assoc]

theorem run_l3BankCount (env : Env) (pc : Word) (s : X86.State) :
    run env l3BankCount pc s =
      if Cond.e.holds s.flags then (pc + 37#64, s)
      else if s.low .rcx != 2#32 then (pc + 404#64, s.withFlags (subFlags (s.low .rcx) 2#32))
      else if s.low .rsi != 1#32 then (pc + 105#64, s.withFlags (subFlags (s.low .rsi) 1#32))
      else if s.low .rdx != 12#32 then (pc + 105#64, s.withFlags (subFlags (s.low .rdx) 12#32))
      else (pc + 32#64, (s.write .dword (s.reg .r15 + 0x1164#64) 8#64).withFlags
        (subFlags (s.low .rdx) 12#32)) := by
  simp only [l3BankCount, run_aluImm, run_movImm, run_jcc, run_nil]
  simp [putResult, put, Alu.run, addr, BitVec.add_assoc]

theorem run_l3BankCountPatched (env : Env) (pc : Word) (s : X86.State) :
    run env l3BankCountPatched pc s =
      (pc + 32#64, (s.write .dword (s.reg .r15 + 0x1164#64) 8#64).withFlags
        (subFlags (s.low .rdx) 12#32)) := by
  simp only [l3BankCountPatched, run_aluImm, run_movImm, run_nop, run_nil]
  simp [putResult, put, Alu.run, addr, BitVec.add_assoc]

theorem double_eq_ten_iff {n : Nat} (h : n ≤ 32) :
    BitVec.ofNat 32 n + BitVec.ofNat 32 n = 10#32 ↔ n = 5 := by
  rw [← BitVec.toNat_inj, BitVec.toNat_add, BitVec.toNat_ofNat, BitVec.toNat_ofNat]
  omega

/-- A double word in a register is known by its lower half. -/
theorem setWidth_inj {x y : BitVec 32} : x.setWidth 64 = y.setWidth 64 ↔ x = y := by
  constructor
  · intro h
    have hlow := congrArg (BitVec.setWidth 32) h
    rwa [BitVec.setWidth_setWidth_of_le _ (by decide), BitVec.setWidth_setWidth_of_le _ (by decide),
      BitVec.setWidth_eq, BitVec.setWidth_eq] at hlow
  · exact congrArg _

theorem numSubSlices_fixes : Fixes f3bbb r3bbb 0x1158 10
    fun s => popCount ((subSliceMask s).setWidth 32) = 5 where
  stores := by
    intro env pc s
    rw [execute_of_encodes encodes_topology.1.2, run_numSubSlicesPatched]
    refine ⟨withSubSlices s 10, rfl, ?_⟩
    simp only [withSubSlices, mem_write, mem_setReg, Width.bytes]
  agrees_iff := by
    intro env pc s
    refine ⟨_, _, execute_of_encodes encodes_topology.1.1 env pc s,
      execute_of_encodes encodes_topology.1.2 env pc s, ?_⟩
    rw [run_numSubSlices, run_numSubSlicesPatched, ← double_eq_ten_iff (popCount_le _)]
    constructor
    · rintro ⟨-, hreg, -⟩
      have hrsi := congrFun hreg .rsi
      simp [withSubSlices] at hrsi
      exact setWidth_inj.mp hrsi
    · intro h
      simp [h]

theorem maxEUPerSubSlice_fixes : Fixes f3bb r3bb 0x116C 8 fun s => s.low .rbx = 0 where
  stores := by
    intro env pc s
    rw [execute_of_encodes encodes_topology.2.1.2, run_maxEUPerSubSlicePatched]
    refine ⟨withMaxEU s 8, rfl, ?_⟩
    simp only [withMaxEU, mem_write, mem_setReg, Width.bytes]
  agrees_iff := by
    intro env pc s
    refine ⟨_, _, execute_of_encodes encodes_topology.2.1.1 env pc s,
      execute_of_encodes encodes_topology.2.1.2 env pc s, ?_⟩
    rw [run_maxEUPerSubSlice, run_maxEUPerSubSlicePatched]
    constructor
    · rintro ⟨-, hreg, -⟩
      have hrsi := congrFun hreg .rsi
      simp [withMaxEU] at hrsi
      have hsub : 8 - s.low .rbx = 8 := setWidth_inj.mp hrsi
      bv_omega
    · intro h
      simp [h]

theorem l3BankCount_fixes : Fixes f3b r3b 0x1164 8 fun s =>
    s.flags.zf = false ∧ s.low .rcx = 2 ∧ s.low .rsi = 1 ∧ s.low .rdx = 12 where
  stores := by
    intro env pc s
    rw [execute_of_encodes encodes_topology.2.2.2, run_l3BankCountPatched]
    refine ⟨_, rfl, ?_⟩
    simp only [mem_withFlags, mem_write, Width.bytes]
    rfl
  agrees_iff := by
    intro env pc s
    refine ⟨_, _, execute_of_encodes encodes_topology.2.2.1 env pc s,
      execute_of_encodes encodes_topology.2.2.2 env pc s, ?_⟩
    rw [run_l3BankCount, run_l3BankCountPatched]
    -- every other exit is another place
    split
    · next hzf => simp_all [Cond.holds]
    · split
      · next hslices => simp_all [Cond.holds]
      · split
        · next hsubslices => simp_all [Cond.holds]
        · split
          · next hunits => simp_all [Cond.holds]
          · next hzf hslices hsubslices hunits => simp_all [Cond.holds]

/-- The three members get what `getGPUInfo` overrides them with, and the original computes the
same exactly in the states given. -/
theorem topology_patches :
    (Fixes f3bbb r3bbb 0x1158 10 fun s => popCount ((subSliceMask s).setWidth 32) = 5) ∧
      (Fixes f3bb r3bb 0x116C 8 fun s => s.low .rbx = 0) ∧
      (Fixes f3b r3b 0x1164 8 fun s =>
        s.flags.zf = false ∧ s.low .rcx = 2 ∧ s.low .rsi = 1 ∧ s.low .rdx = 12) ∧
      [⟨0x1158, 4, 10⟩, ⟨0x116C, 4, 8⟩, ⟨0x1164, 4, 8⟩] ⊆ topologyOverride :=
  ⟨numSubSlices_fixes, maxEUPerSubSlice_fixes, l3BankCount_fixes, by decide⟩

end AcceleratorKext

/-! ## Bounds of a register read -/

namespace FramebufferKext

/-- `add eax, -n; cmp rax, rsi; jbe; mov rax, [rdi + 0x50]; inc qword [rip + counter]`. -/
def readBounds (n counter : Word) : Block :=
  [(.aluImm .add .dword (.reg .rax) n, 3), (.alu .cmp .qword (.reg .rax) .rsi, 3),
    (.jcc .be 0x11, 2), (.load .qword .rax (.mem (.base .rdi 0x50)), 4),
    (.inc .qword (.mem (.rip counter)), 7)]

theorem encodes_readBounds :
    (Encodes f7 (readBounds 0xFFFFFFFFFFFFFFFC 0xCF5CA) ∧
      Encodes r7 (readBounds 0xFFFFFFFFFFFFFFF8 0xCF5CA)) ∧
    Encodes f7p (readBounds 0xFFFFFFFFFFFFFFFC 0x84084) ∧
      Encodes r7p (readBounds 0xFFFFFFFFFFFFFFF8 0x84084) := by
  decide

/-- The first offset that is refused: the size in `eax`, less `n`. -/
def limit (n : Word) (s : X86.State) : Word := (s.low .rax + n.setWidth 32).setWidth 64

/-- Behind an offset that is accepted; the flags are those of the comparison. -/
def accepted (flags : Flags) (counter pc : Word) (s : X86.State) : X86.State :=
  ((s.setReg .qword .rax (s.read .qword (s.reg .rdi + 0x50#64))).withFlags flags).inc .qword
    (pc + 19#64) (.mem (.rip counter))

theorem run_readBounds (env : Env) (n counter pc : Word) (s : X86.State) :
    run env (readBounds n counter) pc s =
      if Cond.be.holds (subFlags (limit n s) (s.reg .rsi)) then
        (pc + 25#64, (s.setReg .dword .rax (limit n s)).withFlags
          (subFlags (limit n s) (s.reg .rsi)))
      else (pc + 19#64, accepted (subFlags (limit n s) (s.reg .rsi)) counter pc s) := by
  simp only [readBounds, run_aluImm, run_alu, run_jcc, run_load, run_inc, run_nil]
  simp [putResult, put, Alu.run, X86.State.get, addr, limit, accepted, BitVec.add_assoc]

/-- Accepted, the state does not depend on the limit. -/
theorem accepted_eq {n : Word} {s : X86.State} (h : (s.reg .rsi).toNat < (limit n s).toNat)
    (counter pc : Word) :
    accepted (subFlags (limit n s) (s.reg .rsi)) counter pc s =
      accepted ⟨false, false, false, false⟩ counter pc s := by
  refine X86.State.inc_withFlags_congr _ _ ?_ _ _
  exact decide_eq_false (Nat.not_lt.mpr h.le)

theorem run_readBounds_accepts (env : Env) (n counter pc : Word) (s : X86.State) :
    ((run env (readBounds n counter) pc s).1 = pc + 19 ↔
      (s.reg .rsi).toNat < (limit n s).toNat) ∧
    ((run env (readBounds n counter) pc s).1 = pc + 19 →
      (run env (readBounds n counter) pc s).2 =
        accepted ⟨false, false, false, false⟩ counter pc s) := by
  rw [run_readBounds]
  split
  · next h =>
      rw [holds_be_sub, BitVec.ule_iff_le, BitVec.le_def] at h
      have hplace : ¬pc + 25#64 = pc + 19 := by bv_omega
      exact ⟨iff_of_false hplace (by omega), fun hexit => absurd hexit hplace⟩
  · next h =>
      rw [holds_be_sub, BitVec.ule_iff_le, BitVec.le_def, Nat.not_le] at h
      exact ⟨iff_of_true rfl h, fun _ => accepted_eq h counter pc⟩

theorem readBounds_of_mem {find replace : List (BitVec 8)}
    (h : (find, replace) ∈ [(f7, r7), (f7p, r7p)]) :
    ∃ counter, Encodes find (readBounds 0xFFFFFFFFFFFFFFFC counter) ∧
      Encodes replace (readBounds 0xFFFFFFFFFFFFFFF8 counter) := by
  simp only [List.mem_cons, Prod.mk.injEq, List.not_mem_nil, or_false] at h
  rcases h with ⟨rfl, rfl⟩ | ⟨rfl, rfl⟩
  · exact ⟨_, encodes_readBounds.1⟩
  · exact ⟨_, encodes_readBounds.2⟩

/-- The original check of an eight byte read leaves room for four bytes, the patched one for
eight, and what they both accept they treat alike.  Of a space smaller than that, the patched
check accepts almost everything. -/
theorem read_register64_bounds {find replace : List (BitVec 8)}
    (h : (find, replace) ∈ [(f7, r7), (f7p, r7p)]) (env : Env) (pc : Word) (s : X86.State) :
    let size := (s.low .rax).toNat
    let offset := (s.reg .rsi).toNat
    ∃ t u, execute env find pc s = some t ∧ execute env replace pc s = some u ∧
      (8 ≤ size → (t.1 = pc + 19 ↔ offset + 4 < size) ∧ (u.1 = pc + 19 ↔ offset + 8 < size)) ∧
      (size < 8 → (u.1 = pc + 19 ↔ offset < size + 0xFFFFFFF8)) ∧
      (t.1 = pc + 19 → u.1 = pc + 19 → t.2 = u.2) := by
  intro size offset
  obtain ⟨counter, hfind, hreplace⟩ := readBounds_of_mem h
  obtain ⟨hfind₁, hfind₂⟩ := run_readBounds_accepts env 0xFFFFFFFFFFFFFFFC counter pc s
  obtain ⟨hreplace₁, hreplace₂⟩ := run_readBounds_accepts env 0xFFFFFFFFFFFFFFF8 counter pc s
  have hlimit : ∀ n : Word, (limit n s).toNat = (size + n.toNat % 2 ^ 32) % 2 ^ 32 := by
    intro n
    rw [limit, BitVec.toNat_setWidth_of_le (by decide), BitVec.toNat_add, BitVec.toNat_setWidth]
  have hsize : size < 2 ^ 32 := (s.low .rax).isLt
  refine ⟨_, _, execute_of_encodes hfind env pc s, execute_of_encodes hreplace env pc s,
    fun hfits => ⟨?_, ?_⟩, fun hsmall => ?_, fun hexit hexit' => ?_⟩
  · rw [hfind₁, hlimit]
    show offset < (size + 0xFFFFFFFC) % 2 ^ 32 ↔ _
    omega
  · rw [hreplace₁, hlimit]
    show offset < (size + 0xFFFFFFF8) % 2 ^ 32 ↔ _
    omega
  · rw [hreplace₁, hlimit]
    show offset < (size + 0xFFFFFFF8) % 2 ^ 32 ↔ _
    omega
  · exact (hfind₂ hexit).trans (hreplace₂ hexit').symm

/-- A space of sixteen bytes and an offset of eleven. -/
def readAtEleven : X86.State := (blankState.setReg .qword .rax 16).setReg .qword .rsi 11

theorem read_register64_at_eleven :
    ∃ t u, execute idleEnv f7 0 readAtEleven = some t ∧ execute idleEnv r7 0 readAtEleven = some u ∧
      t.1 = 0 + 19 ∧ u.1 ≠ 0 + 19 := by
  obtain ⟨t, u, ht, hu, hbounds, _⟩ :=
    read_register64_bounds List.mem_cons_self idleEnv 0 readAtEleven
  obtain ⟨hfind, hreplace⟩ := hbounds (by decide)
  exact ⟨t, u, ht, hu, hfind.mpr (by decide), mt hreplace.mp (by decide)⟩

/-! ## Calls -/

/-- What a virtual method returns with that is called at `pc`, the table in `table`. -/
def method (env : Env) (table : Reg) (slot pc : Word) (s : X86.State) : X86.State :=
  env.callee (s.read .qword (s.reg table + slot)) (s.push (pc + 6#64))

/-- `mov rcx, [r14]; mov rdi, r14; mov esi, eax; call [rcx + 0x138]`. -/
def setPortMode : Block :=
  [(.load .qword .rcx (.mem (.base .r14 0)), 3), (.mov .qword (.reg .rdi) .r14, 3),
    (.mov .dword (.reg .rsi) .rax, 2), (.callAt (.mem (.base .rcx 0x138)), 6)]

/-- `test rbx, rbx; je`. -/
def testRbx : Block := [(.alu .test .qword (.reg .rbx) .rbx, 3), (.jcc .e 0x17, 2)]

theorem encodes_calls :
    (Encodes f13 [(.callAt (.mem (.base .rcx 0x190)), 6), (.aluImm .cmp .dword (.reg .rax) 2, 3),
        (.jcc .e 0xEC, 6)] ∧ Encodes r13 (List.replicate 15 (.nop, 1) ++ [])) ∧
      (Encodes f13b ((.callAt (.mem (.base .rax 0x190)), 6) :: setPortMode) ∧
        Encodes r13b ((.movImm .dword (.reg .rax) 1, 6) :: setPortMode)) ∧
      Encodes f20p ((.callAt (.mem (.base .rax 0x9F8)), 6) :: (.mov .dword (.reg .r14) .rax, 3) ::
          testRbx) ∧
        Encodes r20p (List.replicate 9 (.nop, 1) ++ testRbx) := by
  decide

section Calls

variable (env : Env) (pc : Word) (s : X86.State)

theorem run_method (table : Reg) (slot : Word) (is : Block) :
    run env ((.callAt (.mem (.base table slot)), 6) :: is) pc s =
      run env is (pc + 6#64) (method env table slot pc s) := rfl

/-- The probe of the port mode is left out, and the mode taken to be another than 2. -/
theorem probe_left_out :
    let u := method env .rcx 0x190 pc s
    execute env r13 pc s = some (pc + 15, s) ∧
      ∃ t, execute env f13 pc s = some t ∧ (t.1 = pc + 15 ↔ u.low .rax ≠ 2) ∧
        t.2.reg = u.reg ∧ t.2.mem = u.mem := by
  intro u
  refine ⟨?_, _, execute_of_encodes encodes_calls.1.1 env pc s, ?_⟩
  · rw [execute_of_encodes encodes_calls.1.2, run_nops]
    rfl
  · rw [run_method]
    show _ ∧ _ = u.reg ∧ _ = u.mem
    simp only [run_aluImm, run_jcc, run_nil, X86.State.alu_dword_reg]
    split
    · next h => simp_all [putResult, Alu.run, BitVec.add_assoc, u]
    · next h => simp_all [putResult, Alu.run, BitVec.add_assoc, u]

/-- The port mode is taken to be 1: where the method returns that and touches nothing else, the
patched code does what the original does. -/
theorem probe_answered (h : method env .rax 0x190 pc s = s.setReg .dword .rax 1) :
    execute env f13b pc s = execute env r13b pc s := by
  rw [execute_of_encodes encodes_calls.2.1.1, execute_of_encodes encodes_calls.2.1.2, run_method,
    h]
  rfl

theorem run_testRbx :
    run env testRbx pc s =
      (if s.reg .rbx == 0#64 then pc + 28#64 else pc + 5#64,
        s.withFlags (zeroFlags (s.reg .rbx))) := by
  simp only [testRbx, run_alu, run_jcc, run_nil, X86.State.alu_qword_reg, Alu.run, putResult,
    X86.State.getReg_qword, BitVec.and_self, X86.State.flags_withFlags, BitVec.add_assoc]
  show (if (s.reg .rbx == 0#64) = true then _ else _) = _
  split <;> rfl

/-- Nothing is written to NVRAM: no register changes, `r14` with the result included, and where
the method keeps `rbx` both go on in the same place. -/
theorem nvram_left_out :
    let u := method env .rax 0x9F8 pc s
    ∃ t t', execute env f20p pc s = some t ∧ execute env r20p pc s = some t' ∧
      t'.2.reg = s.reg ∧ t'.2.mem = s.mem ∧ t.2.low .r14 = u.low .rax ∧
      (u.reg .rbx = s.reg .rbx → t.1 = t'.1) := by
  intro u
  refine ⟨_, _, execute_of_encodes encodes_calls.2.2.1 env pc s,
    execute_of_encodes encodes_calls.2.2.2 env pc s, ?_⟩
  rw [run_method, run_mov, run_nops, run_testRbx, run_testRbx]
  refine ⟨rfl, rfl, ?_, fun hrbx => ?_⟩
  · simp [put, u]
  · simp [put, ← hrbx, u, BitVec.add_assoc]

end Calls

end FramebufferKext

end NootedGreen

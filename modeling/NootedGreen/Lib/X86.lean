/-
# `Lib.X86` — a part of x86-64: decoding and execution

The integer instructions short pieces of compiled code are made of: moves, loads and stores,
`add`/`sub`/`xor`/`cmp`/`test`, conditional moves and sets, jumps, calls and returns.  Addresses
are a register or `rip` plus a displacement; there is no index register.

    bytes  --decode-->  an instruction and what is left
    effect              what an instruction does to registers, flags and memory
    target              where it jumps, if it does
    Step, Reaches       a machine that fetches from a text
    run                 a piece of straight code, up to its end or the first jump taken

`decode` looks at no byte behind the instruction (`decode_local`), so a text that holds a piece
of code somewhere executes it as `run` says (`reaches_run`).  Where a piece can be left is read
off its instructions (`exitOffsets`, `run_exit`).

**What is left out.**  Faults, and the parity and auxiliary flags, which no condition here
reads.  The text is not written to.  A call is made by the environment: the callee gets the
state with the return address pushed and gives back the state it returns with.
-/
import Mathlib.Algebra.Group.Nat.Defs
import Mathlib.Logic.Function.Basic
import Mathlib.Logic.Relation
import NootedGreen.Lib.ByteMem
import NootedGreen.Lib.Patching

namespace X86

abbrev Byte := BitVec 8

abbrev Word := BitVec 64

/-! ## States -/

inductive Reg where
  | rax | rcx | rdx | rbx | rsp | rbp | rsi | rdi
  | r8 | r9 | r10 | r11 | r12 | r13 | r14 | r15
  deriving DecidableEq, Repr

/-- The register of a code, from the upper half if the prefix says so. -/
def Reg.of (upper : Bool) (code : Nat) : Reg :=
  match if upper then code + 8 else code with
  | 0 => rax | 1 => rcx | 2 => rdx | 3 => rbx | 4 => rsp | 5 => rbp | 6 => rsi | 7 => rdi
  | 8 => r8 | 9 => r9 | 10 => r10 | 11 => r11 | 12 => r12 | 13 => r13 | 14 => r14 | _ => r15

inductive Width where
  | byte | dword | qword
  deriving DecidableEq, Repr

def Width.bytes : Width → Nat
  | byte => 1 | dword => 4 | qword => 8

def Width.bits : Width → Nat
  | byte => 8 | dword => 32 | qword => 64

structure Flags where
  cf : Bool
  zf : Bool
  sf : Bool
  of : Bool
  deriving DecidableEq, Repr

structure State where
  reg : Reg → Word
  flags : Flags
  mem : ByteMem

namespace State

def getReg (s : State) (w : Width) (r : Reg) : Word :=
  match w with
  | .byte => ((s.reg r).setWidth 8).setWidth 64
  | .dword => ((s.reg r).setWidth 32).setWidth 64
  | .qword => s.reg r

/-- A double word clears the upper half, a byte leaves the rest alone. -/
def setReg (s : State) (w : Width) (r : Reg) (v : Word) : State :=
  let u : Word := match w with
    | .byte => (s.reg r).extractLsb' 8 56 ++ v.setWidth 8
    | .dword => (v.setWidth 32).setWidth 64
    | .qword => v
  { s with reg := Function.update s.reg r u }

/-- The lower half of a register. -/
def low (s : State) (r : Reg) : BitVec 32 := (s.reg r).setWidth 32

def read (s : State) (w : Width) (a : Word) : Word :=
  match w with
  | .byte => (s.mem a.toNat).setWidth 64
  | .dword => (s.mem.load32 a.toNat).setWidth 64
  | .qword => s.mem.load32 (a.toNat + 4) ++ s.mem.load32 a.toNat

def write (s : State) (w : Width) (a : Word) (v : Word) : State :=
  { s with mem := s.mem.store a.toNat w.bytes v }

def push (s : State) (v : Word) : State :=
  (s.setReg .qword .rsp (s.reg .rsp - 8)).write .qword (s.reg .rsp - 8) v

def withFlags (s : State) (f : Flags) : State := { s with flags := f }

section Fields

variable (s : State) (w : Width) (r q : Reg) (a v : Word) (f g : Flags)

@[simp] theorem reg_setReg_qword : (s.setReg .qword r v).reg q = if q = r then v else s.reg q :=
  Function.update_apply ..

@[simp] theorem reg_setReg_dword :
    (s.setReg .dword r v).reg q = if q = r then (v.setWidth 32).setWidth 64 else s.reg q :=
  Function.update_apply ..

@[simp] theorem mem_setReg : (s.setReg w r v).mem = s.mem := rfl

@[simp] theorem reg_write : (s.write w a v).reg = s.reg := rfl

@[simp] theorem mem_write : (s.write w a v).mem = s.mem.store a.toNat w.bytes v := rfl

@[simp] theorem reg_withFlags : (s.withFlags f).reg = s.reg := rfl

@[simp] theorem flags_withFlags : (s.withFlags f).flags = f := rfl

@[simp] theorem mem_withFlags : (s.withFlags f).mem = s.mem := rfl

@[simp] theorem withFlags_withFlags : (s.withFlags f).withFlags g = s.withFlags g := rfl

@[simp] theorem low_setReg_dword :
    (s.setReg .dword r v).low q = if q = r then v.setWidth 32 else s.low q := by
  rw [low, reg_setReg_dword]
  split
  · exact BitVec.setWidth_setWidth_of_le _ (by decide)
  · rfl

@[simp] theorem low_withFlags : (s.withFlags f).low q = s.low q := rfl

@[simp] theorem read_setReg (w' : Width) : (s.setReg w r v).read w' a = s.read w' a := rfl

@[simp] theorem read_withFlags : (s.withFlags f).read w a = s.read w a := rfl

@[simp] theorem setReg_withFlags : (s.withFlags f).setReg w r v = (s.setReg w r v).withFlags f :=
  by cases w <;> rfl

@[simp] theorem write_withFlags : (s.withFlags f).write w a v = (s.write w a v).withFlags f := rfl

@[simp] theorem setReg_dword_setReg_dword (u : Word) :
    (s.setReg .dword r u).setReg .dword r v = s.setReg .dword r v := by
  simp only [setReg, Function.update_idem]

@[simp] theorem setReg_qword_setReg_dword (u : Word) :
    (s.setReg .dword r u).setReg .qword r v = s.setReg .qword r v := by
  simp only [setReg, Function.update_idem]

end Fields

end State

/-! ## Instructions -/

/-- An address: a register and a displacement, or relative to the next instruction. -/
inductive Addr where
  | base (r : Reg) (disp : Word)
  | rip (disp : Word)
  deriving DecidableEq, Repr

inductive Operand where
  | reg (r : Reg)
  | mem (a : Addr)
  deriving DecidableEq, Repr

inductive Cond where
  | b | ae | e | ne | be | a | l | ge | le | g
  deriving DecidableEq, Repr

def Cond.holds (c : Cond) (f : Flags) : Bool :=
  match c with
  | b => f.cf
  | ae => !f.cf
  | e => f.zf
  | ne => !f.zf
  | be => f.cf || f.zf
  | a => !(f.cf || f.zf)
  | l => f.sf != f.of
  | ge => f.sf == f.of
  | le => f.zf || f.sf != f.of
  | g => !f.zf && f.sf == f.of

inductive Alu where
  | add | sub | xor | cmp | test
  deriving DecidableEq, Repr

inductive Instr where
  | nop
  | mov (w : Width) (dst : Operand) (src : Reg)
  | load (w : Width) (dst : Reg) (src : Operand)
  | movImm (w : Width) (dst : Operand) (imm : Word)
  | lea (w : Width) (dst : Reg) (src : Addr)
  | alu (op : Alu) (w : Width) (dst : Operand) (src : Reg)
  | aluImm (op : Alu) (w : Width) (dst : Operand) (imm : Word)
  | inc (w : Width) (dst : Operand)
  | bt (w : Width) (dst : Reg) (src : Reg)
  | popcnt (w : Width) (dst : Reg) (src : Operand)
  | cdqe
  | cpuid
  | set (c : Cond) (dst : Operand)
  | cmov (c : Cond) (w : Width) (dst : Reg) (src : Operand)
  | push (r : Reg)
  | jmp (disp : Word)
  | jcc (c : Cond) (disp : Word)
  | call (disp : Word)
  | callAt (dst : Operand)
  | ret
  deriving DecidableEq, Repr

/-! ## Execution -/

/-- What is outside the text: the state a callee returns with, given its address and the state
it is entered in, and the words of `cpuid` by leaf and subleaf, `eax` to `edx`. -/
structure Env where
  callee : Word → State → State
  cpuid : BitVec 32 → BitVec 32 → BitVec 32 × BitVec 32 × BitVec 32 × BitVec 32

def zeroFlags {n : Nat} (v : BitVec n) : Flags := ⟨false, v == 0, v.msb, false⟩

def addFlags {n : Nat} (x y : BitVec n) : Flags :=
  ⟨BitVec.uaddOverflow x y, x + y == 0, (x + y).msb, BitVec.saddOverflow x y⟩

def subFlags {n : Nat} (x y : BitVec n) : Flags :=
  ⟨x.ult y, x == y, (x - y).msb, BitVec.ssubOverflow x y⟩

/-- The result to be written, if one is, and the flags. -/
def Alu.run {n : Nat} (op : Alu) (x y : BitVec n) : Option (BitVec n) × Flags :=
  match op with
  | add => (some (x + y), addFlags x y)
  | sub => (some (x - y), subFlags x y)
  | xor => (some (x ^^^ y), zeroFlags (x ^^^ y))
  | cmp => (none, subFlags x y)
  | test => (none, zeroFlags (x &&& y))

def popCount {n : Nat} (v : BitVec n) : Nat := (List.range n).countP v.getLsbD

theorem popCount_le {n : Nat} (v : BitVec n) : popCount v ≤ n :=
  List.countP_le_length.trans_eq List.length_range

namespace State

/-- The address, given that of the next instruction. -/
def addr (s : State) (next : Word) : Addr → Word
  | .base r disp => s.reg r + disp
  | .rip disp => next + disp

def get (s : State) (w : Width) (next : Word) : Operand → Word
  | .reg r => s.getReg w r
  | .mem a => s.read w (s.addr next a)

def put (s : State) (w : Width) (next : Word) (dst : Operand) (v : Word) : State :=
  match dst with
  | .reg r => s.setReg w r v
  | .mem a => s.write w (s.addr next a) v

/-- The result to its operand, if there is one. -/
def putResult {n : Nat} (s : State) (w : Width) (next : Word) (dst : Operand)
    (r : Option (BitVec n) × Flags) : State :=
  match r.1 with
  | some v => (s.put w next dst (v.setWidth 64)).withFlags r.2
  | none => s.withFlags r.2

def alu (s : State) (op : Alu) (w : Width) (next : Word) (dst : Operand) (y : Word) : State :=
  s.putResult w next dst (op.run ((s.get w next dst).setWidth w.bits) (y.setWidth w.bits))

/-- `inc` leaves the carry alone. -/
def inc (s : State) (w : Width) (next : Word) (dst : Operand) : State :=
  let x := (s.get w next dst).setWidth w.bits
  (s.put w next dst ((x + 1).setWidth 64)).withFlags { addFlags x 1 with cf := s.flags.cf }

def popcnt (s : State) (w : Width) (next : Word) (dst : Reg) (src : Operand) : State :=
  let x := (s.get w next src).setWidth w.bits
  (s.setReg w dst (BitVec.ofNat 64 (popCount x))).withFlags ⟨false, x == 0, false, false⟩

/-- The bit goes to the carry, and no other flag changes. -/
def bt (s : State) (w : Width) (dst src : Reg) : State :=
  s.withFlags { s.flags with cf := (s.getReg w dst).getLsbD ((s.getReg w src).toNat % w.bits) }

def cpuid (s : State) (env : Env) : State :=
  let r := env.cpuid (s.low .rax) (s.low .rcx)
  (((s.setReg .dword .rax (r.1.setWidth 64)).setReg .dword .rbx (r.2.1.setWidth 64)).setReg
    .dword .rcx (r.2.2.1.setWidth 64)).setReg .dword .rdx (r.2.2.2.setWidth 64)

/-- The return address is pushed, and the callee returns. -/
def enter (s : State) (env : Env) (next target : Word) : State := env.callee target (s.push next)

section Operands

variable (s : State) (op : Alu) (next y : Word) (r : Reg)

/-- `inc` reads no flag but the carry. -/
theorem inc_withFlags_congr {f g : Flags} (h : f.cf = g.cf) (w : Width) (dst : Operand) :
    (s.withFlags f).inc w next dst = (s.withFlags g).inc w next dst := by
  cases dst with
  | reg r => simp only [inc, get, put, getReg, flags_withFlags, h, setReg_withFlags,
      reg_withFlags, withFlags_withFlags]
  | mem a => cases a <;> simp only [inc, get, put, addr, flags_withFlags, h, write_withFlags,
      reg_withFlags, read_withFlags, withFlags_withFlags]

@[simp] theorem getReg_dword : s.getReg .dword r = (s.low r).setWidth 64 := rfl

@[simp] theorem getReg_qword : s.getReg .qword r = s.reg r := rfl

theorem setWidth_getReg_dword : (s.getReg .dword r).setWidth 32 = s.low r :=
  BitVec.setWidth_setWidth_of_le _ (by decide)

@[simp] theorem alu_dword_reg : s.alu op .dword next (.reg r) y =
    s.putResult .dword next (.reg r) (op.run (s.low r) (y.setWidth 32)) :=
  congrArg (fun x => s.putResult .dword next (.reg r) (op.run x (y.setWidth 32)))
    (s.setWidth_getReg_dword r)

@[simp] theorem popcnt_dword_reg (q : Reg) : s.popcnt .dword next r (.reg q) =
    (s.setReg .dword r (BitVec.ofNat 64 (popCount (s.low q)))).withFlags
      ⟨false, s.low q == 0, false, false⟩ :=
  congrArg (fun x : BitVec 32 => (s.setReg .dword r (BitVec.ofNat 64 (popCount x))).withFlags
    ⟨false, x == 0, false, false⟩) (s.setWidth_getReg_dword q)

@[simp] theorem alu_qword_reg : s.alu op .qword next (.reg r) y =
    s.putResult .qword next (.reg r) (op.run (s.reg r) y) := by
  rw [alu, get, getReg_qword]
  exact congrArg₂ (fun x y => s.putResult .qword next (.reg r) (op.run x y))
    (BitVec.setWidth_eq _) (BitVec.setWidth_eq _)

end Operands

end State

/-- What an instruction does, apart from the instruction pointer. -/
def effect (env : Env) (i : Instr) (next : Word) (s : State) : State :=
  match i with
  | .nop | .jmp _ | .jcc _ _ => s
  | .mov w dst src => s.put w next dst (s.getReg w src)
  | .load w dst src => s.setReg w dst (s.get w next src)
  | .movImm w dst imm => s.put w next dst imm
  | .lea w dst src => s.setReg w dst (s.addr next src)
  | .alu op w dst src => s.alu op w next dst (s.getReg w src)
  | .aluImm op w dst imm => s.alu op w next dst imm
  | .inc w dst => s.inc w next dst
  | .bt w dst src => s.bt w dst src
  | .popcnt w dst src => s.popcnt w next dst src
  | .cdqe => s.setReg .qword .rax ((s.low .rax).signExtend 64)
  | .cpuid => s.cpuid env
  | .set c dst => s.put .byte next dst (if c.holds s.flags then 1 else 0)
  | .cmov c w dst src =>
      s.setReg w dst (if c.holds s.flags then s.get w next src else s.getReg w dst)
  | .push r => s.push (s.reg r)
  | .call disp => s.enter env next (next + disp)
  | .callAt dst => s.enter env next (s.get .qword next dst)
  | .ret => s.setReg .qword .rsp (s.reg .rsp + 8)

/-- Where it jumps, if it does.  A callee returns, so a call does not. -/
def target (i : Instr) (next : Word) (s : State) : Option Word :=
  match i with
  | .jmp disp => some (next + disp)
  | .jcc c disp => if c.holds s.flags then some (next + disp) else none
  | .ret => some (s.read .qword (s.reg .rsp))
  | _ => none

/-! ## Straight code -/

/-- Instructions with their sizes. -/
abbrev Block := List (Instr × Nat)

/-- From `pc` up to the end of the block or the first jump taken. -/
def run (env : Env) : Block → Word → State → Word × State
  | [], pc, s => (pc, s)
  | (i, n) :: is, pc, s =>
      match target i (pc + BitVec.ofNat 64 n) s with
      | some t => (t, effect env i (pc + BitVec.ofNat 64 n) s)
      | none => run env is (pc + BitVec.ofNat 64 n) (effect env i (pc + BitVec.ofNat 64 n) s)

/-- Where a block that begins at offset `off` can be left, other than by `ret`. -/
def exitOffsets : Block → Word → List Word
  | [], off => [off]
  | (i, n) :: is, off =>
      match i with
      | .jmp disp => [off + BitVec.ofNat 64 n + disp]
      | .jcc _ disp =>
          (off + BitVec.ofNat 64 n + disp) :: exitOffsets is (off + BitVec.ofNat 64 n)
      | .ret => []
      | _ => exitOffsets is (off + BitVec.ofNat 64 n)

def Returns (is : Block) : Prop := ∃ i ∈ is, i.1 = .ret

instance (is : Block) : Decidable (Returns is) :=
  inferInstanceAs (Decidable (∃ i ∈ is, i.1 = .ret))

section Run

variable {env : Env}

theorem run_cons_jump {i : Instr} {n : Nat} {is : Block} {pc t : Word} {s : State}
    (h : target i (pc + BitVec.ofNat 64 n) s = some t) :
    run env ((i, n) :: is) pc s = (t, effect env i (pc + BitVec.ofNat 64 n) s) := by
  rw [run, h]

theorem run_cons_next {i : Instr} {n : Nat} {is : Block} {pc : Word} {s : State}
    (h : target i (pc + BitVec.ofNat 64 n) s = none) :
    run env ((i, n) :: is) pc s =
      run env is (pc + BitVec.ofNat 64 n) (effect env i (pc + BitVec.ofNat 64 n) s) := by
  rw [run, h]

theorem exitOffsets_jcc (c : Cond) (disp : Word) (n : Nat) (is : Block) (off : Word) :
    exitOffsets ((.jcc c disp, n) :: is) off =
      (off + BitVec.ofNat 64 n + disp) :: exitOffsets is (off + BitVec.ofNat 64 n) := rfl

/-- A block without `ret` is left at one of its exits, whatever the state. -/
theorem run_exit (env : Env) {is : Block} (hret : ¬Returns is) (base off : Word) (s : State) :
    ∃ o ∈ exitOffsets is off, (run env is (base + off) s).1 = base + o := by
  induction is generalizing off s with
  | nil => exact ⟨off, List.mem_singleton_self off, rfl⟩
  | cons head is ih =>
      obtain ⟨i, n⟩ := head
      have hi : i ≠ .ret := fun h => hret ⟨(i, n), List.mem_cons_self, h⟩
      have hrest : ¬Returns is := fun ⟨j, hj, hjret⟩ =>
        hret ⟨j, List.mem_cons_of_mem _ hj, hjret⟩
      have hnext := ih hrest (off + BitVec.ofNat 64 n)
      rw [← BitVec.add_assoc] at hnext
      cases i with
      | ret => exact absurd rfl hi
      | jmp disp =>
          refine ⟨off + BitVec.ofNat 64 n + disp, List.mem_singleton_self _, ?_⟩
          have htaken : target (.jmp disp) (base + off + BitVec.ofNat 64 n) s = some _ := rfl
          simp only [run_cons_jump htaken, BitVec.add_assoc]
      | jcc c disp =>
          rw [exitOffsets_jcc]
          by_cases hc : c.holds s.flags = true
          · have htaken : target (.jcc c disp) (base + off + BitVec.ofNat 64 n) s = some _ :=
              if_pos hc
            refine ⟨_, List.mem_cons_self, ?_⟩
            simp only [run_cons_jump htaken, BitVec.add_assoc]
          · have hnot : target (.jcc c disp) (base + off + BitVec.ofNat 64 n) s = none := if_neg hc
            obtain ⟨o, ho, hpc⟩ := hnext s
            refine ⟨o, List.mem_cons_of_mem _ ho, ?_⟩
            rw [run_cons_next hnot]
            exact hpc
      | _ =>
          obtain ⟨o, ho, hpc⟩ := hnext _
          exact ⟨o, ho, hpc⟩

end Run

/-! ### Instruction by instruction -/

section Instructions

variable (env : Env) (n : Nat) (is : Block) (pc : Word) (s : State)

theorem run_nil : run env [] pc s = (pc, s) := rfl

theorem run_nop : run env ((.nop, n) :: is) pc s = run env is (pc + BitVec.ofNat 64 n) s := rfl

theorem run_mov (w : Width) (dst : Operand) (src : Reg) :
    run env ((.mov w dst src, n) :: is) pc s =
      run env is (pc + BitVec.ofNat 64 n)
        (s.put w (pc + BitVec.ofNat 64 n) dst (s.getReg w src)) := rfl

theorem run_load (w : Width) (dst : Reg) (src : Operand) :
    run env ((.load w dst src, n) :: is) pc s =
      run env is (pc + BitVec.ofNat 64 n)
        (s.setReg w dst (s.get w (pc + BitVec.ofNat 64 n) src)) := rfl

theorem run_movImm (w : Width) (dst : Operand) (imm : Word) :
    run env ((.movImm w dst imm, n) :: is) pc s =
      run env is (pc + BitVec.ofNat 64 n) (s.put w (pc + BitVec.ofNat 64 n) dst imm) := rfl

theorem run_alu (op : Alu) (w : Width) (dst : Operand) (src : Reg) :
    run env ((.alu op w dst src, n) :: is) pc s =
      run env is (pc + BitVec.ofNat 64 n)
        (s.alu op w (pc + BitVec.ofNat 64 n) dst (s.getReg w src)) := rfl

theorem run_aluImm (op : Alu) (w : Width) (dst : Operand) (imm : Word) :
    run env ((.aluImm op w dst imm, n) :: is) pc s =
      run env is (pc + BitVec.ofNat 64 n) (s.alu op w (pc + BitVec.ofNat 64 n) dst imm) := rfl

theorem run_inc (w : Width) (dst : Operand) :
    run env ((.inc w dst, n) :: is) pc s =
      run env is (pc + BitVec.ofNat 64 n) (s.inc w (pc + BitVec.ofNat 64 n) dst) := rfl

theorem run_popcnt (w : Width) (dst : Reg) (src : Operand) :
    run env ((.popcnt w dst src, n) :: is) pc s =
      run env is (pc + BitVec.ofNat 64 n) (s.popcnt w (pc + BitVec.ofNat 64 n) dst src) := rfl

theorem run_callAt (dst : Operand) :
    run env ((.callAt dst, n) :: is) pc s =
      run env is (pc + BitVec.ofNat 64 n)
        (s.enter env (pc + BitVec.ofNat 64 n) (s.get .qword (pc + BitVec.ofNat 64 n) dst)) := rfl

theorem run_jmp (disp : Word) :
    run env ((.jmp disp, n) :: is) pc s = (pc + BitVec.ofNat 64 n + disp, s) := rfl

theorem run_jcc (c : Cond) (disp : Word) :
    run env ((.jcc c disp, n) :: is) pc s =
      if c.holds s.flags then (pc + BitVec.ofNat 64 n + disp, s)
      else run env is (pc + BitVec.ofNat 64 n) s := by
  by_cases hc : c.holds s.flags = true
  · have htaken : target (.jcc c disp) (pc + BitVec.ofNat 64 n) s = some _ := if_pos hc
    rw [run_cons_jump htaken, if_pos hc]
    rfl
  · have hnot : target (.jcc c disp) (pc + BitVec.ofNat 64 n) s = none := if_neg hc
    rw [run_cons_next hnot, if_neg hc]
    rfl

theorem run_ret :
    run env ((.ret, n) :: is) pc s =
      (s.read .qword (s.reg .rsp), s.setReg .qword .rsp (s.reg .rsp + 8)) := rfl

end Instructions

/-! ### Code with a branch at its end -/

/-- Control goes on behind it. -/
def Instr.isStraight : Instr → Bool
  | .jmp _ | .jcc _ _ | .ret => false
  | _ => true

theorem target_of_isStraight {i : Instr} (h : i.isStraight = true) (next : Word) (s : State) :
    target i next s = none := by
  cases i with
  | jmp => cases h
  | jcc => cases h
  | ret => cases h
  | _ => rfl

def Block.size : Block → Nat
  | [] => 0
  | (_, n) :: is => n + Block.size is

/-- Straight code is run to its end, and what follows takes over. -/
theorem run_append (env : Env) {is : Block} (h : ∀ i ∈ is, i.1.isStraight = true) (pc : Word)
    (s : State) :
    ∃ t, ∀ js, run env (is ++ js) pc s = run env js (pc + BitVec.ofNat 64 (Block.size is)) t := by
  induction is generalizing pc s with
  | nil => exact ⟨s, fun js => congrArg (run env js · s) (BitVec.add_zero pc).symm⟩
  | cons head is ih =>
      obtain ⟨i, n⟩ := head
      obtain ⟨hi, his⟩ := List.forall_mem_cons.mp h
      obtain ⟨t, ht⟩ := ih his (pc + BitVec.ofNat 64 n) (effect env i (pc + BitVec.ofNat 64 n) s)
      refine ⟨t, fun js => ?_⟩
      rw [List.cons_append, run_cons_next (target_of_isStraight hi _ _), ht js, BitVec.add_assoc,
        ← BitVec.ofNat_add]
      rfl

theorem run_nops (env : Env) (n : Nat) (js : Block) (pc : Word) (s : State) :
    run env (List.replicate n (.nop, 1) ++ js) pc s = run env js (pc + BitVec.ofNat 64 n) s := by
  induction n generalizing pc with
  | zero => exact congrArg (run env js · s) (BitVec.add_zero pc).symm
  | succ n ih =>
      rw [List.replicate_succ, List.cons_append, run_nop, ih, BitVec.add_assoc,
        ← BitVec.ofNat_add, Nat.add_comm]

/-! ## Decoding -/

/-- A reader of bytes. -/
abbrev Reader := StateT (List Byte) Option

namespace Reader

def byte : Reader Byte
  | [] => none
  | b :: bs => some (b, bs)

/-- What it returns depends on the bytes it takes and on nothing behind them. -/
def Local {α : Type} (p : Reader α) : Prop :=
  ∀ bs a rest, p bs = some (a, rest) →
    ∃ used, bs = used ++ rest ∧ ∀ more, p (used ++ more) = some (a, more)

variable {α β : Type}

theorem Local.pure (a : α) : Local (Pure.pure a : Reader α) := by
  rintro bs _ _ ⟨⟩
  exact ⟨[], rfl, fun _ => rfl⟩

theorem Local.failure : Local (failure : Reader α) := fun _ _ _ h => nomatch h

theorem Local.byte : Local byte := by
  rintro (_ | ⟨b, bs⟩) _ _ h
  · cases h
  · cases h
    exact ⟨[b], rfl, fun _ => rfl⟩

theorem Local.bind {p : Reader α} {f : α → Reader β} (hp : p.Local) (hf : ∀ a, (f a).Local) :
    (p >>= f : Reader β).Local := by
  intro bs b rest h
  obtain ⟨⟨a, mid⟩, hpa, hfa⟩ := Option.bind_eq_some_iff.mp h
  obtain ⟨used, rfl, hused⟩ := hp bs a mid hpa
  obtain ⟨used', rfl, hused'⟩ := hf a mid b rest hfa
  refine ⟨used ++ used', (List.append_assoc ..).symm, fun more => ?_⟩
  refine Option.bind_eq_some_iff.mpr ⟨(a, used' ++ more), ?_, hused' more⟩
  rw [List.append_assoc]
  exact hused (used' ++ more)

theorem Local.ite {c : Prop} [Decidable c] {p q : Reader α} (hp : p.Local) (hq : q.Local) :
    (if c then p else q).Local := by
  split
  · exact hp
  · exact hq

def lift : Option α → Reader α
  | some a => Pure.pure a
  | none => Alternative.failure

theorem Local.lift (a : Option α) : (lift a).Local := by
  cases a with
  | none => exact .failure
  | some a => exact .pure a

/-- A byte, sign-extended. -/
def imm8 : Reader Word := do
  let b ← byte
  return b.signExtend 64

/-- Four bytes, the low one first, sign-extended. -/
def imm32 : Reader Word := do
  let b₀ ← byte
  let b₁ ← byte
  let b₂ ← byte
  let b₃ ← byte
  return (b₃ ++ b₂ ++ b₁ ++ b₀).signExtend 64

theorem Local.imm8 : Local imm8 := .bind .byte fun _ => .pure _

theorem Local.imm32 : Local imm32 :=
  .bind .byte fun _ => .bind .byte fun _ => .bind .byte fun _ => .bind .byte fun _ => .pure _

end Reader

open Reader (Local)

/-- The prefixes of an instruction: `f3`, `66` and the bits of `REX`. -/
structure Prefixes where
  rep : Bool
  size16 : Bool
  rex : Bool
  w : Bool
  r : Bool
  b : Bool
  deriving DecidableEq, Repr

structure Opcode where
  prefixes : Prefixes
  /-- behind `0f` -/
  twoByte : Bool
  code : Nat
  deriving DecidableEq, Repr

/-- `f3` or `66` at most, then `REX`, then `0f`. -/
def readOpcode : Reader Opcode := do
  let b₀ ← Reader.byte
  let b₁ ← (if b₀ = 0xF3 ∨ b₀ = 0x66 then Reader.byte else pure b₀)
  let b₂ ← (if 0x40 ≤ b₁ ∧ b₁ < 0x50 then Reader.byte else pure b₁)
  let b₃ ← (if b₂ = 0x0F then Reader.byte else pure b₂)
  let rex : Bool := 0x40 ≤ b₁ ∧ b₁ < 0x50
  return {
    prefixes := {
      rep := b₀ = 0xF3
      size16 := b₀ = 0x66
      rex := rex
      w := rex && b₁.getLsbD 3
      r := rex && b₁.getLsbD 2
      b := rex && b₁.getLsbD 0 }
    twoByte := b₂ = 0x0F
    code := b₃.toNat }

theorem readOpcode_local : Local readOpcode := by
  refine .bind .byte fun _ => .bind (.ite .byte (.pure _)) fun _ =>
    .bind (.ite .byte (.pure _)) fun _ => .bind (.ite .byte (.pure _)) fun _ => .pure _

/-- What stands behind an opcode. -/
inductive Layout where
  | none | imm8 | imm32 | modrm | modrmImm8 | modrmImm32
  deriving DecidableEq, Repr

def Opcode.layout (op : Opcode) : Layout :=
  if op.twoByte then
    if 0x80 ≤ op.code ∧ op.code < 0x90 then .imm32
    else if op.code = 0xA2 then .none
    else .modrm
  else if op.code = 0x3D ∨ 0xB8 ≤ op.code ∧ op.code < 0xC0 ∨ op.code = 0xE8 ∨ op.code = 0xE9 then
    .imm32
  else if 0x70 ≤ op.code ∧ op.code < 0x80 ∨ op.code = 0xEB then .imm8
  else if op.code = 0x81 ∨ op.code = 0xC7 ∨ op.code = 0xF7 then .modrmImm32
  else if op.code = 0x83 then .modrmImm8
  else if 0x50 ≤ op.code ∧ op.code < 0x58 ∨ op.code = 0x90 ∨ op.code = 0x98 ∨ op.code = 0xC3 then
    .none
  else .modrm

/-- The middle field of the ModRM byte, the operand, and the immediate. -/
structure Operands where
  field : Nat
  operand : Operand
  imm : Word
  deriving DecidableEq, Repr

/-- The operand of a ModRM byte; with an index register there is none. -/
def readOperand (upper : Bool) (m : Byte) : Reader Operand :=
  let r := Reg.of upper (m.toNat % 8)
  if m.toNat / 64 = 3 then pure (.reg r)
  else if m.toNat % 8 = 4 then failure
  else if m.toNat / 64 = 0 then
    if m.toNat % 8 = 5 then do
      let d ← Reader.imm32
      return .mem (.rip d)
    else pure (.mem (.base r 0))
  else if m.toNat / 64 = 1 then do
    let d ← Reader.imm8
    return .mem (.base r d)
  else do
    let d ← Reader.imm32
    return .mem (.base r d)

theorem readOperand_local (upper : Bool) (m : Byte) : (readOperand upper m).Local :=
  .ite (.pure _) <| .ite .failure <|
    .ite (.ite (.bind .imm32 fun _ => .pure _) (.pure _)) <|
      .ite (.bind .imm8 fun _ => .pure _) (.bind .imm32 fun _ => .pure _)

def readModRM (upper : Bool) (imm : Reader Word) : Reader Operands := do
  let m ← Reader.byte
  let operand ← readOperand upper m
  let i ← imm
  return ⟨m.toNat / 8 % 8, operand, i⟩

theorem readModRM_local (upper : Bool) {imm : Reader Word} (himm : imm.Local) :
    (readModRM upper imm).Local :=
  .bind .byte fun _ => .bind (readOperand_local _ _) fun _ => .bind himm fun _ => .pure _

def readOperands (upper : Bool) : Layout → Reader Operands
  | .none => pure ⟨0, .reg .rax, 0⟩
  | .imm8 => do
      let i ← Reader.imm8
      return ⟨0, .reg .rax, i⟩
  | .imm32 => do
      let i ← Reader.imm32
      return ⟨0, .reg .rax, i⟩
  | .modrm => readModRM upper (pure 0)
  | .modrmImm8 => readModRM upper Reader.imm8
  | .modrmImm32 => readModRM upper Reader.imm32

theorem readOperands_local (upper : Bool) (layout : Layout) :
    (readOperands upper layout).Local := by
  cases layout with
  | none => exact .pure _
  | imm8 => exact .bind .imm8 fun _ => .pure _
  | imm32 => exact .bind .imm32 fun _ => .pure _
  | modrm => exact readModRM_local upper (.pure _)
  | modrmImm8 => exact readModRM_local upper .imm8
  | modrmImm32 => exact readModRM_local upper .imm32

def Cond.of : Nat → Option Cond
  | 2 => some b | 3 => some ae | 4 => some e | 5 => some ne | 6 => some be | 7 => some a
  | 12 => some l | 13 => some ge | 14 => some le | 15 => some g
  | _ => none

/-- The operations `81` and `83` choose from. -/
def Alu.of : Nat → Option Alu
  | 0 => some add | 5 => some sub | 6 => some xor | 7 => some cmp
  | _ => none

/-- Without `REX`, codes from 4 on are the second bytes of registers. -/
def byteOperand (p : Prefixes) (o : Operand) : Option Operand :=
  match o with
  | .reg .rsp | .reg .rbp | .reg .rsi | .reg .rdi => if p.rex then some o else none
  | _ => some o

def byteReg (p : Prefixes) (field : Nat) : Option Reg :=
  if p.rex ∨ field < 4 then some (Reg.of p.r field) else none

/-- The instruction of an opcode of two bytes. -/
def Opcode.build₂ (op : Opcode) (x : Operands) : Option Instr :=
  let p := op.prefixes
  let w : Width := if p.w then .qword else .dword
  let field := Reg.of p.r x.field
  if p.rep then
    if op.code = 0xB8 then some (.popcnt w field x.operand) else none
  else if p.size16 then none
  else if op.code / 16 = 4 then (Cond.of (op.code % 16)).map (.cmov · w field x.operand)
  else if op.code / 16 = 8 then (Cond.of (op.code % 16)).map (.jcc · x.imm)
  else if op.code / 16 = 9 then do
    let c ← Cond.of (op.code % 16)
    let o ← byteOperand p x.operand
    return .set c o
  else match op.code with
    | 0xA2 => some .cpuid
    | 0xA3 =>
        match x.operand with
        | .reg r => some (.bt w r field)
        | .mem _ => none
    | _ => none

/-- The instruction of an opcode of one byte. -/
def Opcode.build₁ (op : Opcode) (x : Operands) : Option Instr :=
  let p := op.prefixes
  let w : Width := if p.w then .qword else .dword
  let field := Reg.of p.r x.field
  if p.rep then none
  else if p.size16 then
    -- `xchg ax, ax`
    if op.code = 0x90 ∧ p.rex = false then some .nop else none
  else if op.code / 8 = 10 then some (.push (Reg.of p.b (op.code % 8)))
  else if op.code / 16 = 7 then (Cond.of (op.code % 16)).map (.jcc · x.imm)
  else if op.code / 8 = 23 then
    -- with `REX.W` the immediate has eight bytes
    if p.w then none else some (.movImm .dword (.reg (Reg.of p.b (op.code % 8))) x.imm)
  else match op.code with
    | 0x01 => some (.alu .add w x.operand field)
    | 0x29 => some (.alu .sub w x.operand field)
    | 0x31 => some (.alu .xor w x.operand field)
    | 0x39 => some (.alu .cmp w x.operand field)
    | 0x3D => some (.aluImm .cmp w (.reg .rax) x.imm)
    | 0x81 | 0x83 => (Alu.of x.field).map (.aluImm · w x.operand x.imm)
    | 0x84 => do
        let r ← byteReg p x.field
        let o ← byteOperand p x.operand
        return .alu .test .byte o r
    | 0x85 => some (.alu .test w x.operand field)
    | 0x89 => some (.mov w x.operand field)
    | 0x8B => some (.load w field x.operand)
    | 0x8D =>
        match x.operand with
        | .reg _ => none
        | .mem a => some (.lea w field a)
    | 0x90 => if p.b then none else some .nop
    | 0x98 => if p.w then some .cdqe else none
    | 0xC3 => some .ret
    | 0xC7 => if x.field = 0 then some (.movImm w x.operand x.imm) else none
    | 0xE8 => some (.call x.imm)
    | 0xE9 | 0xEB => some (.jmp x.imm)
    | 0xF7 => if x.field = 0 then some (.aluImm .test w x.operand x.imm) else none
    | 0xFF =>
        if x.field = 0 then some (.inc w x.operand)
        else if x.field = 2 then some (.callAt x.operand)
        else none
    | _ => none

def decode : Reader Instr := do
  let op ← readOpcode
  let x ← readOperands op.prefixes.b op.layout
  Reader.lift (if op.twoByte then op.build₂ x else op.build₁ x)

theorem decode_local : Local decode :=
  .bind readOpcode_local fun _ => .bind (readOperands_local _ _) fun _ => .lift _

/-- Instructions up to the end of the bytes. -/
def decodeBlock : Nat → List Byte → Option Block
  | _, [] => some []
  | 0, _ :: _ => none
  | fuel + 1, b :: bs =>
      match decode (b :: bs) with
      | none => none
      | some (i, rest) =>
          (decodeBlock fuel rest).map ((i, (b :: bs).length - rest.length) :: ·)

/-- The bytes are these instructions, up to the last. -/
def Encodes (bytes : List Byte) (is : Block) : Prop := decodeBlock bytes.length bytes = some is

instance (bytes : List Byte) (is : Block) : Decidable (Encodes bytes is) :=
  inferInstanceAs (Decidable (_ = _))

/-- Where the bytes are left and in which state, if they are instructions up to the last. -/
def execute (env : Env) (bytes : List Byte) (pc : Word) (s : State) : Option (Word × State) :=
  (decodeBlock bytes.length bytes).map fun is => run env is pc s

theorem execute_of_encodes {bytes : List Byte} {is : Block} (h : Encodes bytes is) (env : Env)
    (pc : Word) (s : State) : execute env bytes pc s = some (run env is pc s) :=
  congrArg (Option.map fun is => run env is pc s) h

/-- The second piece is the first with its last branch decided: it is always taken, or never. -/
def Decides (code decided : List Byte) : Prop :=
  ∃ is c disp n, (∀ i ∈ is, i.1.isStraight = true) ∧ Encodes code (is ++ [(.jcc c disp, n)]) ∧
    (Encodes decided (is ++ [(.jmp disp, n)]) ∨
      Encodes decided (is ++ List.replicate n (.nop, 1)))

/-- It leaves the state the first leaves, in one of the two places, whatever the state. -/
theorem Decides.execute {code decided : List Byte} (h : Decides code decided) :
    ∃ exit other, ∀ env pc s, ∃ t, execute env code pc s = some t ∧
      (t.1 = pc + exit ∨ t.1 = pc + other) ∧
      X86.execute env decided pc s = some (pc + exit, t.2) := by
  obtain ⟨is, c, disp, n, his, hcode, hdecided⟩ := h
  let behind : Word := BitVec.ofNat 64 (Block.size is) + BitVec.ofNat 64 n
  -- what the branch does, after the straight code
  have hlast : ∀ env pc s, ∃ u, X86.execute env code pc s =
        some (if c.holds u.flags then pc + (behind + disp) else pc + behind, u) ∧
      ∀ js, run env (is ++ js) pc s =
        run env js (pc + BitVec.ofNat 64 (Block.size is)) u := by
    intro env pc s
    obtain ⟨u, hu⟩ := run_append env his pc s
    refine ⟨u, ?_, hu⟩
    rw [execute_of_encodes hcode, hu, run_jcc]
    simp only [run_nil, behind, BitVec.add_assoc]
    split <;> rfl
  rcases hdecided with hdecided | hdecided
  · refine ⟨behind + disp, behind, fun env pc s => ?_⟩
    obtain ⟨u, hcode, hu⟩ := hlast env pc s
    refine ⟨_, hcode, ?_, ?_⟩
    · dsimp only
      split
      · exact .inl rfl
      · exact .inr rfl
    · rw [execute_of_encodes hdecided, hu, run_jmp]
      simp only [behind, BitVec.add_assoc]
  · refine ⟨behind, behind + disp, fun env pc s => ?_⟩
    obtain ⟨u, hcode, hu⟩ := hlast env pc s
    refine ⟨_, hcode, ?_, ?_⟩
    · dsimp only
      split
      · exact .inr rfl
      · exact .inl rfl
    · rw [execute_of_encodes hdecided, hu, ← List.append_nil (List.replicate n _), run_nops]
      simp only [run_nil, behind, BitVec.add_assoc]

/-! ## The machine -/

/-- A text, and where it is loaded. -/
structure Text where
  base : Word
  bytes : List Byte

/-- The instruction at an address, with its size. -/
def Text.fetch (text : Text) (pc : Word) : Option (Instr × Nat) :=
  let bs := text.bytes.drop (pc - text.base).toNat
  (decode bs).map fun r => (r.1, bs.length - r.2.length)

/-- One instruction. -/
def Step (env : Env) (text : Text) (c d : Word × State) : Prop :=
  ∃ i n, text.fetch c.1 = some (i, n) ∧
    d = ((target i (c.1 + BitVec.ofNat 64 n) c.2).getD (c.1 + BitVec.ofNat 64 n),
      effect env i (c.1 + BitVec.ofNat 64 n) c.2)

def Reaches (env : Env) (text : Text) : Word × State → Word × State → Prop :=
  Relation.ReflTransGen (Step env text)

section Embedded

variable {env : Env} {text : Text}

open Patching (At)

theorem At.drop {α : Type} {a b xs : List α} {p : Nat} (h : At (a ++ b) xs p) :
    At b xs (p + a.length) := by
  obtain ⟨rest, hrest⟩ := h
  refine ⟨rest, ?_⟩
  rw [← List.drop_drop, ← hrest, List.append_assoc, List.drop_left]

/-- The text holds the bytes of an instruction, and it is fetched. -/
theorem fetch_of_at {used : List Byte} {i : Instr} {p : Nat}
    (hdecode : ∀ more, decode (used ++ more) = some (i, more)) (hat : At used text.bytes p)
    (hp : p < 2 ^ 64) : text.fetch (text.base + BitVec.ofNat 64 p) = some (i, used.length) := by
  obtain ⟨rest, hrest⟩ := hat
  have hplace : (text.base + BitVec.ofNat 64 p - text.base).toNat = p := by
    rw [BitVec.add_comm, BitVec.add_sub_cancel, BitVec.toNat_ofNat, Nat.mod_eq_of_lt hp]
  simp only [Text.fetch, hplace, ← hrest, hdecode, Option.map_some, List.length_append,
    Nat.add_sub_cancel]

theorem decodeBlock_cons {fuel : Nat} {bytes : List Byte} {i : Instr} {n : Nat} {is : Block}
    (h : decodeBlock fuel bytes = some ((i, n) :: is)) :
    ∃ used rest, bytes = used ++ rest ∧ used.length = n ∧
      (∀ more, decode (used ++ more) = some (i, more)) ∧
      ∃ fuel', decodeBlock fuel' rest = some is := by
  cases bytes with
  | nil => cases fuel <;> cases h
  | cons b bs =>
      cases fuel with
      | zero => cases h
      | succ fuel =>
          rw [decodeBlock] at h
          split at h
          · cases h
          · next j rest hdecode =>
              obtain ⟨js, hjs, hcons⟩ := Option.map_eq_some_iff.mp h
              cases hcons
              obtain ⟨used, hused, hmore⟩ := decode_local _ _ _ hdecode
              refine ⟨used, rest, hused, ?_, hmore, fuel, hjs⟩
              rw [hused, List.length_append, Nat.add_sub_cancel]

/-- Where the text holds a piece of code, the machine does what `run` says. -/
theorem reaches_run {fuel : Nat} {bytes : List Byte} {is : Block}
    (hcode : decodeBlock fuel bytes = some is) {p : Nat} (hat : At bytes text.bytes p)
    (hp : p + bytes.length ≤ 2 ^ 64) (s : State) :
    Reaches env text (text.base + BitVec.ofNat 64 p, s)
      (run env is (text.base + BitVec.ofNat 64 p) s) := by
  induction is generalizing fuel bytes p s with
  | nil => exact .refl
  | cons head is ih =>
      obtain ⟨i, n⟩ := head
      obtain ⟨used, rest, rfl, rfl, hdecode, fuel', hrest⟩ := decodeBlock_cons hcode
      have hused : used ≠ [] := by
        rintro rfl
        exact absurd (hdecode []) (by simp [decode, readOpcode, Reader.byte, bind, StateT.bind])
      have hpos : 0 < used.length := List.length_pos_iff.mpr hused
      rw [List.length_append] at hp
      have hfetch : text.fetch (text.base + BitVec.ofNat 64 p) = some (i, used.length) :=
        fetch_of_at hdecode ((List.prefix_append used rest).trans hat) (by omega)
      have hnext : text.base + BitVec.ofNat 64 p + BitVec.ofNat 64 used.length =
          text.base + BitVec.ofNat 64 (p + used.length) := by
        rw [BitVec.add_assoc, ← BitVec.ofNat_add]
      have hstep : Step env text (text.base + BitVec.ofNat 64 p, s) _ := ⟨i, _, hfetch, rfl⟩
      rw [run]
      cases htarget : target i (text.base + BitVec.ofNat 64 p + BitVec.ofNat 64 used.length) s with
      | some t =>
          rw [htarget] at hstep
          exact .single hstep
      | none =>
          rw [htarget] at hstep
          refine .head hstep ?_
          have hrun := ih hrest (At.drop hat) (by omega)
            (effect env i (text.base + BitVec.ofNat 64 p + BitVec.ofNat 64 used.length) s)
          rwa [← hnext] at hrun

theorem reaches_execute {bytes : List Byte} {p : Nat} {s : State} {t : Word × State}
    (hcode : execute env bytes (text.base + BitVec.ofNat 64 p) s = some t)
    (hat : At bytes text.bytes p) (hp : p + bytes.length ≤ 2 ^ 64) :
    Reaches env text (text.base + BitVec.ofNat 64 p, s) t := by
  obtain ⟨is, his, rfl⟩ := Option.map_eq_some_iff.mp hcode
  exact reaches_run his hat hp s

end Embedded

/-! ## Conditions after a comparison -/

section Conditions

variable {n : Nat} (x y : BitVec n)

@[simp] theorem holds_e_sub : Cond.e.holds (subFlags x y) = (x == y) := rfl

@[simp] theorem holds_ne_sub : Cond.ne.holds (subFlags x y) = (x != y) := rfl

@[simp] theorem holds_be_sub : Cond.be.holds (subFlags x y) = x.ule y := by
  rw [Cond.holds, subFlags, Bool.eq_iff_iff, Bool.or_eq_true, beq_iff_eq, BitVec.ult_iff_lt,
    BitVec.ule_iff_le, ← BitVec.toNat_inj, BitVec.lt_def, BitVec.le_def]
  omega

end Conditions

end X86

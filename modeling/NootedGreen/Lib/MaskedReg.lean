/-
# `Lib.MaskedReg` — registers written under a mask of their own

The upper half of a word written to such a register says which of the sixteen
value bits the lower half replaces.  A read returns the value bits with a zero
upper half.
-/
import Mathlib.Tactic.Common

namespace MaskedReg

/-- The value bits after a write of `w`. -/
def write (old : BitVec 16) (w : BitVec 32) : BitVec 16 :=
  (old &&& ~~~(w.extractLsb' 16 16)) ||| (w.setWidth 16 &&& w.extractLsb' 16 16)

/-- The word a read returns. -/
def read (value : BitVec 16) : BitVec 32 := value.setWidth 32

/-- Bit `b` takes the written bit exactly when the mask has bit `16 + b`. -/
theorem getLsbD_write (old : BitVec 16) (w : BitVec 32) {b : Nat} (hb : b < 16) :
    (write old w).getLsbD b = if w.getLsbD (16 + b) then w.getLsbD b else old.getLsbD b := by
  simp only [write, BitVec.getLsbD_or, BitVec.getLsbD_and, BitVec.getLsbD_not,
    BitVec.getLsbD_extractLsb', BitVec.getLsbD_setWidth, hb, decide_true, Bool.true_and]
  cases w.getLsbD (16 + b) <;> cases w.getLsbD b <;> cases old.getLsbD b <;> rfl

end MaskedReg

/-
# `Lib.Bits` — masks on words

Facts about clearing, setting and testing bits under a mask, at every width.
Each is bitwise: `ext`, then a truth table on the bits involved.  The last section is
about words that are put together from halves.
-/
import Mathlib.Tactic.Common

namespace Bits

variable {w : Nat}

/-- Or-ing a mask in changes nothing exactly when its bits are set already. -/
theorem or_eq_left_iff (x m : BitVec w) : x ||| m = x ↔ m &&& ~~~x = 0#w := by
  constructor
  · intro h
    ext i hi
    have hbit : (x ||| m)[i] = x[i] := by rw [h]
    simp only [BitVec.getElem_or] at hbit
    simp only [BitVec.getElem_and, BitVec.getElem_not, BitVec.getElem_zero]
    cases hx : x[i] <;> cases hm : m[i] <;> simp_all
  · intro h
    ext i hi
    have hbit : (m &&& ~~~x)[i] = (0#w)[i] := by rw [h]
    simp only [BitVec.getElem_and, BitVec.getElem_not, BitVec.getElem_zero] at hbit
    simp only [BitVec.getElem_or]
    cases hx : x[i] <;> cases hm : m[i] <;> simp_all

/-- Clearing a mask changes nothing exactly when its bits are clear already. -/
theorem and_not_eq_left_iff (x m : BitVec w) : x &&& ~~~m = x ↔ x &&& m = 0#w := by
  constructor
  · intro h
    rw [← h, BitVec.and_assoc, BitVec.and_comm (~~~m) m, BitVec.and_not_self]
    exact BitVec.and_zero
  · intro h
    ext i hi
    have hbit : (x &&& m)[i] = (0#w)[i] := by rw [h]
    simp only [BitVec.getElem_and, BitVec.getElem_zero] at hbit
    simp only [BitVec.getElem_and, BitVec.getElem_not]
    cases hx : x[i] <;> cases hm : m[i] <;> simp_all

/-- Testing one bit. -/
theorem and_twoPow_eq_zero_iff (x : BitVec w) {i : Nat} (hi : i < w) :
    x &&& BitVec.twoPow w i = 0#w ↔ x.getLsbD i = false := by
  rw [BitVec.and_twoPow]
  cases x.getLsbD i with
  | false => exact iff_of_true rfl rfl
  | true =>
      refine iff_of_false (fun h => ?_) Bool.noConfusion
      have hbit := congrArg (BitVec.getLsbD · i) h
      simp [hi] at hbit

/-- Clearing bits only when one of them is set clears them. -/
theorem ite_and_not (x m : BitVec w) :
    (if x &&& m ≠ 0#w then x &&& ~~~m else x) = x &&& ~~~m := by
  split
  · rfl
  · next h => exact ((and_not_eq_left_iff x m).mpr (not_not.mp h)).symm

/-- Setting bits unless all of them are set sets them. -/
theorem ite_or (x m : BitVec w) : (if x &&& m ≠ m then x ||| m else x) = x ||| m := by
  split
  · rfl
  · next h =>
      symm
      rw [or_eq_left_iff, ← not_not.mp h, BitVec.and_comm x m, BitVec.and_assoc,
        BitVec.and_not_self]
      exact BitVec.and_zero

/-- Read-modify-write followed by or-ing both masks in: the bits that are wrong
are those cleared and not set. -/
theorem rmw_excess (old clear set : BitVec w) :
    (clear ||| set) &&& ~~~((old &&& ~~~clear) ||| set) = clear &&& ~~~set := by
  ext i hi
  simp only [BitVec.getElem_and, BitVec.getElem_or, BitVec.getElem_not]
  cases old[i] <;> cases clear[i] <;> cases set[i] <;> rfl

/-- A field replaced reads back what was put there. -/
theorem replace_and (x m v : BitVec w) : ((x &&& ~~~m) ||| v) &&& m = v &&& m := by
  ext i hi
  simp only [BitVec.getElem_and, BitVec.getElem_or, BitVec.getElem_not]
  cases x[i] <;> cases m[i] <;> cases v[i] <;> rfl

/-- Bits or-ed in are there. -/
theorem or_and_self (x m : BitVec w) : (x ||| m) &&& m = m := by
  ext i hi
  simp only [BitVec.getElem_and, BitVec.getElem_or]
  cases x[i] <;> cases m[i] <;> rfl

theorem or_or_self (x m : BitVec w) : (x ||| m) ||| m = x ||| m := by
  rw [BitVec.or_assoc, BitVec.or_self]

/-- Clearing, setting and or-ing in once is enough. -/
theorem rmw_idem (old clear set extra : BitVec w) :
    ((((old &&& ~~~clear) ||| set) ||| extra) &&& ~~~clear ||| set) ||| extra =
      ((old &&& ~~~clear) ||| set) ||| extra := by
  ext i hi
  simp only [BitVec.getElem_and, BitVec.getElem_or, BitVec.getElem_not]
  cases old[i] <;> cases clear[i] <;> cases set[i] <;> cases extra[i] <;> rfl

/-- Setting a whole field is replacing it by `val` exactly when `val` is all of it. -/
theorem or_eq_replace_iff (old : BitVec w) {mask val : BitVec w} (hval : val &&& ~~~mask = 0#w) :
    old ||| mask = (old &&& ~~~mask) ||| val ↔ val = mask := by
  constructor
  · intro h
    ext i hi
    have hbit : (old ||| mask)[i] = ((old &&& ~~~mask) ||| val)[i] := by rw [h]
    have hin : (val &&& ~~~mask)[i] = (0#w)[i] := by rw [hval]
    simp only [BitVec.getElem_or, BitVec.getElem_and, BitVec.getElem_not,
      BitVec.getElem_zero] at hbit hin
    cases hv : val[i] <;> cases hm : mask[i] <;> simp_all
  · rintro rfl
    ext i hi
    simp only [BitVec.getElem_or, BitVec.getElem_and, BitVec.getElem_not]
    cases old[i] <;> cases val[i] <;> rfl

/-! ## Half words -/

theorem append_inj {v w : Nat} {x x' : BitVec v} {y y' : BitVec w} :
    x ++ y = x' ++ y' ↔ x = x' ∧ y = y' := by
  constructor
  · intro h
    have hhigh := congrArg (·.extractLsb' w v) h
    have hlow := congrArg (·.setWidth w) h
    simp only [BitVec.extractLsb'_append_eq_left, BitVec.setWidth_append_eq_right] at hhigh hlow
    exact ⟨hhigh, hlow⟩
  · rintro ⟨rfl, rfl⟩
    rfl

theorem getLsbD_lowMask : ∀ i < 32, (0xFFFF#32).getLsbD i = decide (i < 16) := by
  decide

theorem and_lowMask (x : BitVec 32) : x &&& 0xFFFF#32 = (x.setWidth 16).setWidth 32 := by
  refine BitVec.eq_of_getLsbD_eq fun i hi => ?_
  simp only [BitVec.getLsbD_and, BitVec.getLsbD_setWidth, getLsbD_lowMask i hi, hi, decide_true,
    Bool.true_and]
  exact Bool.and_comm _ _

theorem setWidth_setWidth_self {v w : Nat} (h : v ≤ w) (x : BitVec v) :
    (x.setWidth w).setWidth v = x := by
  rw [BitVec.setWidth_setWidth_of_le x h, BitVec.setWidth_eq]

/-- A half word under the low half of a word. -/
theorem setWidth_or_shl (x : BitVec 16) (y : BitVec 32) :
    x.setWidth 32 ||| (y <<< 16) = y.setWidth 16 ++ x := by
  refine BitVec.eq_of_getLsbD_eq fun i hi => ?_
  simp only [BitVec.getLsbD_or, BitVec.getLsbD_shiftLeft, BitVec.getLsbD_append,
    BitVec.getLsbD_setWidth]
  grind

end Bits

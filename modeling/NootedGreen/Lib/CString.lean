/-
# `Lib.CString` — searching and comparing strings

`strstr` of the C library, for its truth value: whether the second string occurs
in the first as a run of consecutive characters.  And `strncmp`, on buffers of bytes: a
buffer is a list, zero from its end on, and the string in it ends at the first zero.
-/
import Mathlib.Data.List.Infix

def strstr (haystack needle : String) : Bool := decide (needle.toList <:+: haystack.toList)

theorem strstr_iff {haystack needle : String} :
    strstr haystack needle = true ↔ needle.toList <:+: haystack.toList :=
  decide_eq_true_iff

/-- A string that begins with the needle has it. -/
theorem strstr_append (needle rest : String) : strstr (needle ++ rest) needle = true := by
  rw [strstr_iff, String.toList_append]
  exact (List.prefix_append _ _).isInfix

/-! ## Buffers -/

/-- The bytes of a string literal, without its terminator. -/
def literalBytes (s : String) : List (BitVec 8) := s.toUTF8.data.toList.map UInt8.toBitVec

theorem literalBytes_inj {s t : String} : literalBytes s = literalBytes t ↔ s = t := by
  constructor
  · intro h
    have hbytes := List.map_injective_iff.mpr (fun _ _ => UInt8.toBitVec_inj.mp) h
    exact String.toByteArray_inj.mp (ByteArray.ext (Array.toList_inj.mp hbytes))
  · rintro rfl
    rfl

/-- The string in a buffer. -/
def cString (buffer : List (BitVec 8)) : List (BitVec 8) := buffer.takeWhile (· ≠ 0)

/-- The difference of the first bytes that differ among the first `n`, the terminator included;
zero if there are none. -/
def strncmp : List (BitVec 8) → List (BitVec 8) → Nat → Int
  | _, _, 0 => 0
  | s, t, n + 1 =>
      if s.headD 0 ≠ t.headD 0 then (s.headD 0).toNat - (t.headD 0).toNat
      else if s.headD 0 = 0 then 0
      else strncmp s.tail t.tail n

theorem strncmp_ne_zero (s t : List (BitVec 8)) (n : Nat) (h : s.headD 0 ≠ t.headD 0) :
    strncmp s t (n + 1) ≠ 0 := by
  have hne : (s.headD 0).toNat ≠ (t.headD 0).toNat := fun heq => h (BitVec.eq_of_toNat_eq heq)
  rw [strncmp, if_pos h]
  omega

theorem strncmp_cons {b : BitVec 8} (hb : b ≠ 0) (s t : List (BitVec 8)) (n : Nat) :
    strncmp (b :: s) (b :: t) (n + 1) = strncmp s t n := by
  rw [strncmp, List.headD_cons, List.headD_cons, if_neg (not_not.mpr rfl), if_neg hb]
  rfl

theorem cString_cons (b : BitVec 8) (s : List (BitVec 8)) :
    cString (b :: s) = if b = 0 then [] else b :: cString s := by
  rw [cString, List.takeWhile_cons]
  by_cases hb : b = 0
  · rw [if_pos hb, hb]
    rfl
  · rw [if_neg hb, decide_eq_true hb]
    rfl

/-- A buffer without a zero is one string. -/
theorem cString_eq_self {s : List (BitVec 8)} (h : 0 ∉ s) : cString s = s := by
  induction s with
  | nil => rfl
  | cons b s ih =>
      have hb : b ≠ 0 := fun h0 => h (h0 ▸ List.mem_cons_self)
      rw [cString_cons, if_neg hb, ih fun hs => h (List.mem_cons_of_mem _ hs)]

/-- Compared over all of `t` and its terminator, only `t` itself is equal to it. -/
theorem strncmp_eq_zero_iff {t : List (BitVec 8)} (ht : 0 ∉ t) (s : List (BitVec 8)) :
    strncmp s t (t.length + 1) = 0 ↔ cString s = t := by
  induction t generalizing s with
  | nil =>
      cases s with
      | nil => exact iff_of_true rfl rfl
      | cons a s =>
          rw [cString_cons]
          by_cases ha : a = 0
          · rw [if_pos ha, ha]
            exact iff_of_true rfl rfl
          · rw [if_neg ha]
            exact iff_of_false (strncmp_ne_zero (a :: s) [] _ ha) (List.cons_ne_nil _ _)
  | cons b t ih =>
      have hb : b ≠ 0 := fun h => ht (h ▸ List.mem_cons_self)
      cases s with
      | nil =>
          exact iff_of_false (strncmp_ne_zero [] (b :: t) _ hb.symm) (List.cons_ne_nil _ _).symm
      | cons a s =>
          rw [cString_cons]
          by_cases hab : a = b
          · rw [hab, List.length_cons, strncmp_cons hb, ih fun h => ht (List.mem_cons_of_mem _ h),
              if_neg hb, List.cons_inj_right]
          · refine iff_of_false (strncmp_ne_zero (a :: s) (b :: t) _ hab) ?_
            split
            · exact (List.cons_ne_nil _ _).symm
            · exact fun h => hab (List.cons.inj h).1

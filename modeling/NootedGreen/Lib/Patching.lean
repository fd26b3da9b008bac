/-
# `Lib.Patching` — edits of all occurrences, in any order

An edit replaces every occurrence of a block by a block of the same size
(`Replace.replaceAll`).  Several edits in a row can get into each other's way:
occurrences may overlap, and a replacement may complete a block with what stands
around it.  What can happen is decided by the blocks alone:

    SelfApart f     no two occurrences of f overlap
    Apart f g       no occurrence of f overlaps one of g
    Joins e g d     where the blocks of e and g do overlap, both replacements put the same
                    there, and off the overlap they change nothing

Edits whose replacements are apart from all blocks, and whose blocks are apart or join
(`Convergent`), lead to one result in every order (`applyAll_perm`).  The result is
described on the list before any edit (`Settles`); an edit does not change what is described
(`Settles.of_apply`), and a list without occurrences is described by itself.
-/
import NootedGreen.Lib.Replace

namespace Patching

open Replace

variable {α : Type}

/-! ## Blocks at places -/

/-- The block `b` stands at place `p`. -/
def At (b xs : List α) (p : Nat) : Prop := b <+: xs.drop p

theorem at_iff {b xs : List α} {p : Nat} :
    At b xs p ↔ ∀ k < b.length, xs[p + k]? = b[k]? := by
  rw [At, List.prefix_iff_getElem?]
  constructor
  · intro h k hk
    rw [← List.getElem?_drop, h k hk, List.getElem?_eq_getElem hk]
  · intro h k hk
    rw [List.getElem?_drop, h k hk, List.getElem?_eq_getElem hk]

theorem infix_iff_at {b xs : List α} : b <:+: xs ↔ ∃ p, At b xs p := by
  constructor
  · rintro ⟨s, t, rfl⟩
    refine ⟨s.length, ?_⟩
    rw [At, List.append_assoc, List.drop_left]
    exact List.prefix_append b t
  · rintro ⟨p, hp⟩
    exact hp.isInfix.trans (List.drop_suffix p xs).isInfix

/-- Place `n` is one of those a block of this size at `p` takes. -/
def Inside (b : List α) (p n : Nat) : Prop := p ≤ n ∧ n < p + b.length

/-- One place holds one block of a size. -/
theorem At.eq_of_length {b c xs : List α} {p : Nat} (hb : At b xs p) (hc : At c xs p)
    (hlen : b.length = c.length) : b = c :=
  (List.prefix_of_prefix_length_le hb hc hlen.le).eq_of_length hlen

theorem At.getElem? {b xs : List α} {p n : Nat} (h : At b xs p) (hn : Inside b p n) :
    xs[n]? = b[n - p]? := by
  obtain ⟨hle, hlt⟩ := hn
  have hk := at_iff.mp h (n - p) (by omega)
  rwa [Nat.add_sub_of_le hle] at hk

/-! ## Overlaps -/

/-- `g`, put `d` items behind the beginning of `f`, agrees with it where both stand. -/
def Fits (f g : List α) (d : Nat) : Prop :=
  ∀ k, d + k < f.length → k < g.length → f[d + k]? = g[k]?

section Decide

variable [DecidableEq α]

/-- The items of one list and another, as far as both go. -/
def agree : List α → List α → Bool
  | x :: xs, y :: ys => x == y && agree xs ys
  | _, _ => true

theorem agree_iff (xs ys : List α) :
    agree xs ys = true ↔ ∀ k, k < xs.length → k < ys.length → xs[k]? = ys[k]? := by
  induction xs generalizing ys with
  | nil => exact iff_of_true rfl fun k hk => absurd hk (Nat.not_lt_zero k)
  | cons x xs ih =>
      cases ys with
      | nil => exact iff_of_true rfl fun k _ hk => absurd hk (Nat.not_lt_zero k)
      | cons y ys =>
          rw [agree, Bool.and_eq_true, beq_iff_eq, ih]
          constructor
          · rintro ⟨rfl, h⟩ k hx hy
            cases k with
            | zero => rfl
            | succ k => exact h k (Nat.lt_of_succ_lt_succ hx) (Nat.lt_of_succ_lt_succ hy)
          · intro h
            refine ⟨?_, fun k hx hy => h (k + 1) (Nat.succ_lt_succ hx) (Nat.succ_lt_succ hy)⟩
            exact Option.some.inj (h 0 (Nat.succ_pos _) (Nat.succ_pos _))

theorem agree_drop_iff (f g : List α) (d : Nat) : agree (f.drop d) g = true ↔ Fits f g d := by
  rw [agree_iff, Fits, List.length_drop]
  constructor
  · intro h k hf hg
    rw [← List.getElem?_drop]
    exact h k (by omega) hg
  · intro h k hf hg
    rw [List.getElem?_drop]
    exact h k (by omega) hg

instance (f g : List α) (d : Nat) : Decidable (Fits f g d) :=
  decidable_of_iff _ (agree_drop_iff f g d)

end Decide

/-- Two blocks of one list agree where they overlap. -/
theorem Fits.of_at {f g xs : List α} {p d : Nat} (hf : At f xs p) (hg : At g xs (p + d)) :
    Fits f g d := by
  intro k hkf hkg
  rw [← at_iff.mp hf (d + k) hkf, ← at_iff.mp hg k hkg, Nat.add_assoc]

def SelfApart (f : List α) : Prop := ∀ d < f.length, d ≠ 0 → ¬ Fits f f d

def Apart (f g : List α) : Prop := (∀ d < f.length, ¬ Fits f g d) ∧ ∀ d < g.length, ¬ Fits g f d

instance [DecidableEq α] (f : List α) : Decidable (SelfApart f) :=
  inferInstanceAs (Decidable (∀ d < f.length, d ≠ 0 → ¬ Fits f f d))

instance [DecidableEq α] (f g : List α) : Decidable (Apart f g) :=
  inferInstanceAs (Decidable (_ ∧ _))

theorem Apart.disjoint {f g xs : List α} {p q : Nat} (h : Apart f g) (hf : At f xs p)
    (hg : At g xs q) : p + f.length ≤ q ∨ q + g.length ≤ p := by
  rcases Nat.le_total p q with hle | hle
  · by_contra hover
    obtain ⟨d, rfl⟩ := Nat.exists_eq_add_of_le hle
    exact h.1 d (by omega) (.of_at hf hg)
  · by_contra hover
    obtain ⟨d, rfl⟩ := Nat.exists_eq_add_of_le hle
    exact h.2 d (by omega) (.of_at hg hf)

theorem SelfApart.disjoint {f xs : List α} {p q : Nat} (h : SelfApart f) (hp : At f xs p)
    (hq : At f xs q) (hle : p ≤ q) : p = q ∨ p + f.length ≤ q := by
  by_contra hover
  obtain ⟨d, rfl⟩ := Nat.exists_eq_add_of_le hle
  exact h d (by omega) (by omega) (.of_at hp hq)

/-! ## One edit -/

/-- A block and what is put in its place. -/
structure Edit (α : Type) where
  find : List α
  replace : List α
  size_eq : replace.length = find.length

theorem at_append {b c xs : List α} {p : Nat} : At b (c ++ xs) (c.length + p) ↔ At b xs p := by
  rw [At, At, List.drop_length_add_append]

section Apply

variable [DecidableEq α] {e : Edit α}

def Edit.apply (e : Edit α) (xs : List α) : List α := replaceAll e.find e.replace xs

/-- What no occurrence takes stays. -/
theorem Edit.apply_other {xs : List α} {n : Nat}
    (h : ∀ p, At e.find xs p → ¬ Inside e.find p n) : (e.apply xs)[n]? = xs[n]? := by
  by_cases hfind : e.find = []
  · rw [Edit.apply, hfind, replaceAll_nil]
  induction xs using scan_induction hfind generalizing n with
  | nil => rfl
  | found xs ih =>
      have hout : e.find.length ≤ n := by
        by_contra hn
        exact h 0 (List.prefix_append _ _) ⟨Nat.zero_le n, by omega⟩
      rw [Edit.apply, replaceAll_append hfind, List.getElem?_append_right (by rwa [e.size_eq]),
        List.getElem?_append_right hout, e.size_eq]
      refine ih fun p hp hin => h (e.find.length + p) (at_append.mpr hp) ?_
      obtain ⟨hle, hlt⟩ := hin
      exact ⟨by omega, by omega⟩
  | pass x xs hprefix ih =>
      rw [Edit.apply, replaceAll_pass hprefix]
      cases n with
      | zero => rfl
      | succ n =>
          rw [List.getElem?_cons_succ, List.getElem?_cons_succ]
          refine ih fun p hp hin => h (p + 1) hp ?_
          obtain ⟨hle, hlt⟩ := hin
          exact ⟨by omega, by omega⟩

/-- Each occurrence is replaced. -/
theorem Edit.apply_at (hself : SelfApart e.find) {xs : List α} {p : Nat} (h : At e.find xs p) :
    At e.replace (e.apply xs) p := by
  by_cases hfind : e.find = []
  · have hreplace : e.replace = [] := by
      rw [← List.length_eq_zero_iff, e.size_eq, hfind, List.length_nil]
    rw [hreplace]
    exact List.nil_prefix
  induction xs using scan_induction hfind generalizing p with
  | nil =>
      rw [At, List.drop_nil] at h
      exact absurd (List.prefix_nil.mp h) hfind
  | found xs ih =>
      rw [Edit.apply, replaceAll_append hfind]
      have hzero : At e.find (e.find ++ xs) 0 := List.prefix_append e.find xs
      rcases hself.disjoint hzero h (Nat.zero_le p) with rfl | hle
      · exact List.prefix_append _ _
      · rw [Nat.zero_add] at hle
        obtain ⟨p, rfl⟩ := Nat.exists_eq_add_of_le hle
        rw [← e.size_eq]
        exact at_append.mpr (ih (at_append.mp h))
  | pass x xs hprefix ih =>
      rw [Edit.apply, replaceAll_pass hprefix]
      cases p with
      | zero => exact absurd h hprefix
      | succ p => exact ih h

/-- A block that no occurrence overlaps stays where it is. -/
theorem Edit.apply_keeps {b xs : List α} {q : Nat} (hb : At b xs q)
    (h : ∀ p, At e.find xs p → p + e.find.length ≤ q ∨ q + b.length ≤ p) :
    At b (e.apply xs) q := by
  rw [at_iff] at hb ⊢
  intro k hk
  rw [← hb k hk]
  refine Edit.apply_other fun p hp hin => ?_
  obtain ⟨hle, hlt⟩ := hin
  have hapart := h p hp
  omega

/-- A block that is apart from the replacement was there before, away from the
occurrences. -/
theorem Edit.at_of_apply (hself : SelfApart e.find) {b xs : List α} {q : Nat}
    (hapart : Apart e.replace b) (hb : At b (e.apply xs) q) :
    (∀ p, At e.find xs p → p + e.find.length ≤ q ∨ q + b.length ≤ p) ∧ At b xs q := by
  have hdisjoint : ∀ p, At e.find xs p → p + e.find.length ≤ q ∨ q + b.length ≤ p := by
    intro p hp
    rw [← e.size_eq]
    exact hapart.disjoint (Edit.apply_at hself hp) hb
  refine ⟨hdisjoint, ?_⟩
  rw [at_iff] at hb ⊢
  intro k hk
  rw [← hb k hk]
  refine (Edit.apply_other fun p hp hin => ?_).symm
  obtain ⟨hle, hlt⟩ := hin
  have hp := hdisjoint p hp
  omega

end Apply

/-! ## Several edits -/

/-- The block of `g` overlaps that of `e` from `d` items on; see the table above. -/
def Joins (e g : Edit α) (d : Nat) : Prop :=
  Fits e.replace g.replace d ∧ e.replace.take d = e.find.take d ∧
    e.replace.drop (d + g.find.length) = e.find.drop (d + g.find.length) ∧
    g.replace.drop (e.find.length - d) = g.find.drop (e.find.length - d)

instance [DecidableEq α] (e g : Edit α) (d : Nat) : Decidable (Joins e g d) :=
  inferInstanceAs (Decidable (_ ∧ _))

structure Convergent (es : List (Edit α)) : Prop where
  nonempty : ∀ e ∈ es, e.find ≠ []
  selfApart : ∀ e ∈ es, SelfApart e.find
  fresh : ∀ e ∈ es, ∀ g ∈ es, Apart e.replace g.find
  joins : ∀ e ∈ es, ∀ g ∈ es, ∀ d < e.find.length, Fits e.find g.find d → Joins e g d

theorem Convergent.subset {es fs : List (Edit α)} (h : Convergent es) (hsub : fs ⊆ es) :
    Convergent fs where
  nonempty e he := h.nonempty e (hsub he)
  selfApart e he := h.selfApart e (hsub he)
  fresh e he g hg := h.fresh e (hsub he) g (hsub hg)
  joins e he g hg := h.joins e (hsub he) g (hsub hg)

theorem getElem?_of_take_eq {xs ys : List α} {d k : Nat} (h : xs.take d = ys.take d)
    (hk : k < d) : xs[k]? = ys[k]? := by
  rw [← List.getElem?_take_of_lt hk, h, List.getElem?_take_of_lt hk]

theorem getElem?_of_drop_eq {xs ys : List α} {d k : Nat} (h : xs.drop d = ys.drop d)
    (hk : d ≤ k) : xs[k]? = ys[k]? := by
  obtain ⟨j, rfl⟩ := Nat.exists_eq_add_of_le hk
  rw [← List.getElem?_drop, h, List.getElem?_drop]

section Occurrences

variable {es : List (Edit α)} (hes : Convergent es) {e g : Edit α} (he : e ∈ es) (hg : g ∈ es)
  {xs : List α} {p q n : Nat} (hp : At e.find xs p) (hq : At g.find xs q)

include hes he hg hp hq

theorem Convergent.joins_at (hle : p ≤ q) (hlt : q < p + e.find.length) : Joins e g (q - p) := by
  refine hes.joins e he g hg (q - p) (by omega) (Fits.of_at hp ?_)
  rwa [Nat.add_sub_of_le hle]

theorem Convergent.same_of_le (hle : p ≤ q) (hpn : Inside e.find p n) (hqn : Inside g.find q n) :
    e.replace[n - p]? = g.replace[n - q]? := by
  obtain ⟨hp₁, hp₂⟩ := hpn
  obtain ⟨hq₁, hq₂⟩ := hqn
  have hfits := (hes.joins_at he hg hp hq hle (by omega)).1 (n - q)
    (by rw [e.size_eq]; omega) (by rw [g.size_eq]; omega)
  rwa [show q - p + (n - q) = n - p by omega] at hfits

/-- Where two occurrences overlap, the replacements put the same. -/
theorem Convergent.same (hpn : Inside e.find p n) (hqn : Inside g.find q n) :
    e.replace[n - p]? = g.replace[n - q]? := by
  rcases Nat.le_total p q with hle | hle
  · exact hes.same_of_le he hg hp hq hle hpn hqn
  · exact (hes.same_of_le hg he hq hp hle hqn hpn).symm

/-- Off an overlap, a replacement changes nothing. -/
theorem Convergent.unchanged_off (hover : ¬ (p + e.find.length ≤ q ∨ q + g.find.length ≤ p))
    (hpn : ¬ Inside e.find p n) (hqn : Inside g.find q n) :
    g.replace[n - q]? = g.find[n - q]? := by
  obtain ⟨hq₁, hq₂⟩ := hqn
  rw [Inside] at hpn
  rcases Nat.le_total p q with hle | hle
  · -- `g` is the later one and `n` lies behind `e`
    obtain ⟨-, -, -, htail⟩ := hes.joins_at he hg hp hq hle (by omega)
    exact getElem?_of_drop_eq htail (by omega)
  · obtain ⟨-, hhead, htail, -⟩ := hes.joins_at hg he hq hp hle (by omega)
    by_cases hn : n < p
    · exact getElem?_of_take_eq hhead (by omega)
    · exact getElem?_of_drop_eq htail (by omega)

end Occurrences

/-- `ys` is `xs` with every occurrence of a block of `es` replaced. -/
structure Settles (es : List (Edit α)) (xs ys : List α) : Prop where
  written : ∀ e ∈ es, ∀ p n, At e.find xs p → Inside e.find p n → ys[n]? = e.replace[n - p]?
  kept : ∀ n, (∀ e ∈ es, ∀ p, At e.find xs p → ¬ Inside e.find p n) → ys[n]? = xs[n]?

theorem Settles.unique {es : List (Edit α)} {xs ys zs : List α} (hy : Settles es xs ys)
    (hz : Settles es xs zs) : ys = zs := by
  refine List.ext_getElem? fun n => ?_
  by_cases hn : ∀ e ∈ es, ∀ p, At e.find xs p → ¬ Inside e.find p n
  · rw [hy.kept n hn, hz.kept n hn]
  · push Not at hn
    obtain ⟨e, he, p, hp, hin⟩ := hn
    rw [hy.written e he p n hp hin, hz.written e he p n hp hin]

/-- No block is left. -/
def Normal (es : List (Edit α)) (xs : List α) : Prop := ∀ e ∈ es, ¬ e.find <:+: xs

theorem Normal.settles {es : List (Edit α)} {xs : List α} (h : Normal es xs) :
    Settles es xs xs where
  written e he p _ hp _ := absurd (infix_iff_at.mpr ⟨p, hp⟩) (h e he)
  kept _ _ := rfl

variable [DecidableEq α] {es : List (Edit α)} (hes : Convergent es)

include hes

/-- An edit leaves the result as it was. -/
theorem Settles.of_apply {e : Edit α} (he : e ∈ es) {xs ys : List α}
    (h : Settles es (e.apply xs) ys) : Settles es xs ys := by
  have hself := hes.selfApart e he
  constructor
  · intro g hg q n hq hqn
    by_cases hnew : ∀ f ∈ es, ∀ p, At f.find (e.apply xs) p → ¬ Inside f.find p n
    · rw [h.kept n hnew]
      by_cases hold : ∀ p, At e.find xs p → ¬ Inside e.find p n
      · -- the occurrence is gone, so an occurrence of `e` has met it elsewhere
        have hmeets : ∃ p, At e.find xs p ∧
            ¬ (p + e.find.length ≤ q ∨ q + g.find.length ≤ p) := by
          by_contra hnone
          push Not at hnone
          exact hnew g hg q (Edit.apply_keeps hq hnone) hqn
        obtain ⟨p, hp, hover⟩ := hmeets
        rw [Edit.apply_other hold, hq.getElem? hqn]
        exact (hes.unchanged_off he hg hp hq hover (hold p hp) hqn).symm
      · push Not at hold
        obtain ⟨p, hp, hpn⟩ := hold
        have hpn' : Inside e.replace p n := by rwa [Inside, e.size_eq]
        rw [(Edit.apply_at hself hp).getElem? hpn']
        exact hes.same he hg hp hq hpn hqn
    · push Not at hnew
      obtain ⟨f, hf, p, hp, hpn⟩ := hnew
      rw [h.written f hf p n hp hpn]
      exact hes.same hf hg (Edit.at_of_apply hself (hes.fresh e he f hf) hp).2 hq hpn hqn
  · intro n hn
    have hnew : ∀ f ∈ es, ∀ p, At f.find (e.apply xs) p → ¬ Inside f.find p n := fun f hf p hp =>
      hn f hf p (Edit.at_of_apply hself (hes.fresh e he f hf) hp).2
    rw [h.kept n hnew]
    exact Edit.apply_other (hn e he)

/-- An edit leaves no occurrence of its block. -/
theorem Convergent.gone {e : Edit α} (he : e ∈ es) (xs : List α) : ¬ e.find <:+: e.apply xs := by
  rw [infix_iff_at]
  rintro ⟨p, hp⟩
  obtain ⟨hdisjoint, hbefore⟩ := Edit.at_of_apply (hes.selfApart e he) (hes.fresh e he e he) hp
  -- it would stand where it was replaced
  have hpos := List.length_pos_iff.mpr (hes.nonempty e he)
  have := hdisjoint p hbefore
  omega

/-- An edit brings no block back. -/
theorem Convergent.not_infix_apply {e g : Edit α} (he : e ∈ es) (hg : g ∈ es) {xs : List α}
    (h : ¬ g.find <:+: xs) : ¬ g.find <:+: e.apply xs := by
  rw [infix_iff_at] at h ⊢
  rintro ⟨p, hp⟩
  exact h ⟨p, (Edit.at_of_apply (hes.selfApart e he) (hes.fresh e he g hg) hp).2⟩

/-! ## In any order -/

omit hes in
/-- One edit after the other. -/
def applyAll (fs : List (Edit α)) (xs : List α) : List α := fs.foldl (fun xs e => e.apply xs) xs

omit hes in
theorem applyAll_cons (e : Edit α) (fs : List (Edit α)) (xs : List α) :
    applyAll (e :: fs) xs = applyAll fs (e.apply xs) := rfl

theorem Settles.of_applyAll {fs : List (Edit α)} (hfs : fs ⊆ es) {xs ys : List α}
    (h : Settles es (applyAll fs xs) ys) : Settles es xs ys := by
  induction fs generalizing xs with
  | nil => exact h
  | cons e fs ih =>
      obtain ⟨he, hfs⟩ := List.cons_subset.mp hfs
      exact Settles.of_apply hes he (ih hfs h)

theorem Convergent.not_infix_applyAll {fs : List (Edit α)} (hfs : fs ⊆ es) {g : Edit α}
    (hg : g ∈ es) {xs : List α} (h : ¬ g.find <:+: xs) : ¬ g.find <:+: applyAll fs xs := by
  induction fs generalizing xs with
  | nil => exact h
  | cons e fs ih =>
      obtain ⟨he, hfs⟩ := List.cons_subset.mp hfs
      exact ih hfs (hes.not_infix_apply he hg h)

theorem Convergent.gone_applyAll {fs : List (Edit α)} (hfs : fs ⊆ es) {g : Edit α} (hg : g ∈ fs)
    (xs : List α) : ¬ g.find <:+: applyAll fs xs := by
  induction fs generalizing xs with
  | nil => exact absurd hg List.not_mem_nil
  | cons e fs ih =>
      obtain ⟨he, hrest⟩ := List.cons_subset.mp hfs
      rw [applyAll_cons]
      rcases List.mem_cons.mp hg with rfl | hg
      · exact hes.not_infix_applyAll hrest he (hes.gone he xs)
      · exact ih hrest hg (e.apply xs)

theorem Convergent.normal_applyAll {fs : List (Edit α)} (hfs : fs.Perm es) (xs : List α) :
    Normal es (applyAll fs xs) :=
  fun _ hg => hes.gone_applyAll hfs.subset (hfs.mem_iff.mpr hg) xs

/-- Every order settles the list. -/
theorem Convergent.settles {fs : List (Edit α)} (hfs : fs.Perm es) (xs : List α) :
    Settles es xs (applyAll fs xs) :=
  Settles.of_applyAll hes hfs.subset (hes.normal_applyAll hfs xs).settles

theorem Convergent.applyAll_perm {fs : List (Edit α)} (hfs : fs.Perm es) (xs : List α) :
    applyAll fs xs = applyAll es xs :=
  (hes.settles hfs xs).unique (hes.settles (.refl es) xs)

omit hes in
theorem Normal.applyAll_eq {fs : List (Edit α)} {xs : List α} (h : Normal fs xs) :
    applyAll fs xs = xs := by
  induction fs with
  | nil => rfl
  | cons e fs ih =>
      obtain ⟨he, hfs⟩ := List.forall_mem_cons.mp h
      rw [applyAll_cons, Edit.apply, replaceAll_of_not_infix he]
      exact ih hfs

omit hes in
/-- A block that is apart from all the blocks stays. -/
theorem At.applyAll {fs : List (Edit α)} {b xs : List α} {p : Nat} (hb : At b xs p)
    (h : ∀ e ∈ fs, Apart b e.find) : At b (applyAll fs xs) p := by
  induction fs generalizing xs with
  | nil => exact hb
  | cons e fs ih =>
      obtain ⟨he, hfs⟩ := List.forall_mem_cons.mp h
      exact ih (Edit.apply_keeps hb fun q hq => (he.disjoint hb hq).symm) hfs

omit hes in
/-- An occurrence that meets no other is replaced, and the replacement stays. -/
theorem At.replaced {fs : List (Edit α)} {e : Edit α} (he : e ∈ fs) (hself : SelfApart e.find)
    (hothers : ∀ g ∈ fs, g = e ∨ Apart e.find g.find) (hfresh : ∀ g ∈ fs, Apart e.replace g.find)
    {xs : List α} {p : Nat} (hp : At e.find xs p) : At e.replace (Patching.applyAll fs xs) p := by
  induction fs generalizing xs with
  | nil => exact absurd he List.not_mem_nil
  | cons g fs ih =>
      obtain ⟨hg, hrest⟩ := List.forall_mem_cons.mp hothers
      obtain ⟨-, hkept⟩ := List.forall_mem_cons.mp hfresh
      rw [applyAll_cons]
      rcases List.mem_cons.mp he with rfl | he
      · exact (Edit.apply_at hself hp).applyAll hkept
      rcases hg with rfl | hg
      · exact (Edit.apply_at hself hp).applyAll hkept
      · exact ih he hrest hkept (Edit.apply_keeps hp fun q hq => (hg.disjoint hp hq).symm)

theorem Convergent.applyAll_idem (xs : List α) :
    applyAll es (applyAll es xs) = applyAll es xs :=
  (hes.normal_applyAll (.refl es) xs).applyAll_eq

end Patching

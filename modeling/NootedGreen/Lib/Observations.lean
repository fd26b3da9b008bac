/-
# `Lib.Observations` — what a sequence of readings leaves behind

Two ways to keep a record of readings, and what the record then says about them.

A *flag* that takes each reading as it comes (`follow`) remembers only the latest.  It
says whether there ever was a `true` exactly as long as no reading falls back
(`neverFalls_iff`, `run_follow_iff_everRead`).

A *log* of what each step writes (`emitted`) that has a line for every difference
between the value remembered and the value read holds the `changes` of the sequence:

    changes_leads       from the first value, step by step, to the last
    changes_destutter   the values without repetition are the first and the ends of the log
    Leads.isChain       of two values only, the ends alternate
    emitted_once        a step that is armed once writes once

A log that is put together from parts, each with entries of its own, has an entry as often as
its part has it (`count_flatMap_of_owner`).
-/
import Mathlib.Data.List.Destutter
import NootedGreen.Lib.Runs

namespace Observations

open Runs

/-! ## The latest reading and the earlier ones -/

section Latest

variable {ι : Type _} (reading : ι → Option Bool)

/-- A flag that takes each reading, and is kept by an input that has none. -/
def follow (i : ι) (flag : Bool) : Bool := (reading i).getD flag

def EverRead (is : List ι) : Prop := ∃ i ∈ is, reading i = some true

/-- Once `true` was read, `false` is not. -/
def NeverFalls (is : List ι) : Prop :=
  is.Pairwise fun i j => reading i = some true → reading j ≠ some false

instance (is : List ι) : Decidable (NeverFalls reading is) :=
  inferInstanceAs (Decidable (is.Pairwise _))

variable {reading}

theorem EverRead.append {js : List ι} (h : EverRead reading js) (ks : List ι) :
    EverRead reading (js ++ ks) := by
  obtain ⟨i, hi, hread⟩ := h
  exact ⟨i, List.mem_append_left ks hi, hread⟩

theorem everRead_concat {js : List ι} {i : ι} :
    EverRead reading (js ++ [i]) ↔ EverRead reading js ∨ reading i = some true := by
  simp only [EverRead, List.mem_append, List.mem_singleton, or_and_right, exists_or,
    exists_eq_left]

theorem run_follow_concat (js : List ι) (i : ι) (flag : Bool) :
    run (follow reading) (js ++ [i]) flag =
      (reading i).getD (run (follow reading) js flag) :=
  run_append (follow reading) js [i] flag

theorem NeverFalls.ne_false {is js : List ι} {i : ι} (h : NeverFalls reading is)
    (hjs : js ++ [i] <+: is) (hever : EverRead reading js) : reading i ≠ some false := by
  obtain ⟨j, hj, hread⟩ := hever
  obtain ⟨-, -, hcross⟩ := List.pairwise_append.mp (h.sublist hjs.sublist)
  exact hcross j hj i (List.mem_singleton.mpr rfl) hread

/-- As long as no reading falls back the flag says whether there was a `true`. -/
theorem run_follow_iff_everRead {is : List ι} (h : NeverFalls reading is) (js : List ι)
    (hjs : js <+: is) : run (follow reading) js false = true ↔ EverRead reading js := by
  induction js using List.reverseRecOn with
  | nil =>
      constructor
      · intro hflag
        cases hflag
      · rintro ⟨i, hi, -⟩
        cases hi
  | append_singleton js i ih =>
      have ih := ih ((List.prefix_append js [i]).trans hjs)
      rw [run_follow_concat, everRead_concat]
      cases hread : reading i with
      | none =>
          rw [Option.getD_none, ih]
          exact ⟨Or.inl, fun hor => hor.resolve_right (by intro hsome; cases hsome)⟩
      | some b =>
          cases b with
          | true => exact ⟨fun _ => Or.inr rfl, fun _ => rfl⟩
          | false =>
              have hnone : ¬ EverRead reading js := fun hever => h.ne_false hjs hever hread
              constructor
              · intro hflag
                cases hflag
              · rintro (hever | hsome)
                · exact absurd hever hnone
                · cases hsome

/-- And only then, at the inputs that read. -/
theorem neverFalls_iff {is : List ι} :
    NeverFalls reading is ↔ ∀ js i, js ++ [i] <+: is → (reading i).isSome = true →
      (run (follow reading) (js ++ [i]) false = true ↔ EverRead reading (js ++ [i])) := by
  constructor
  · intro h js i hjs _
    exact run_follow_iff_everRead h _ hjs
  · intro h
    induction is using List.reverseRecOn with
    | nil => exact List.Pairwise.nil
    | append_singleton is i ih =>
        refine List.pairwise_append.mpr ⟨?_, List.pairwise_singleton _ i, ?_⟩
        · exact ih fun js j hjs => h js j (hjs.trans (List.prefix_append is [i]))
        · intro j hj k hk hever hread
          rw [List.mem_singleton.mp hk] at hread
          have hflag := (h is i (List.prefix_refl _) (by rw [hread]; rfl)).mpr
            (EverRead.append ⟨j, hj, hever⟩ [i])
          rw [run_follow_concat, hread] at hflag
          cases hflag

/-- Then the flag, once set, stays. -/
theorem NeverFalls.sticky {is : List ι} (h : NeverFalls reading is) {js ks : List ι}
    (hjs : js ++ ks <+: is) (hflag : run (follow reading) js false = true) :
    run (follow reading) (js ++ ks) false = true := by
  have hever := (run_follow_iff_everRead h js ((List.prefix_append js ks).trans hjs)).mp hflag
  exact (run_follow_iff_everRead h _ hjs).mpr (hever.append ks)

end Latest

/-! ## Changes -/

section Changes

variable {α : Type _}

/-- The pairs lead from `a` to `z`: each starts where the one before ends, and ends elsewhere. -/
def Leads : α → List (α × α) → α → Prop
  | a, [], z => a = z
  | a, e :: es, z => e.1 = a ∧ e.1 ≠ e.2 ∧ Leads e.2 es z

/-- The values on the way differ from one to the next. -/
theorem Leads.isChain {a z : α} {es : List (α × α)} (h : Leads a es z) :
    (a :: es.map Prod.snd).IsChain (· ≠ ·) := by
  induction es generalizing a with
  | nil => exact List.isChain_singleton a
  | cons e es ih =>
      obtain ⟨hfrom, hne, hrest⟩ := h
      exact List.isChain_cons_cons.mpr ⟨hfrom ▸ hne, ih hrest⟩

variable [DecidableEq α]

def change (a b : α) : List (α × α) := if a = b then [] else [(a, b)]

/-- The neighbours that differ, from `a` on. -/
def changes : α → List α → List (α × α)
  | _, [] => []
  | a, b :: bs => change a b ++ changes b bs

theorem changes_cons_same (a : α) (bs : List α) : changes a (a :: bs) = changes a bs := by
  rw [changes, change, if_pos rfl, List.nil_append]

theorem changes_cons_ne {a b : α} (h : a ≠ b) (bs : List α) :
    changes a (b :: bs) = (a, b) :: changes b bs := by
  rw [changes, change, if_neg h]
  rfl

theorem changes_leads (a : α) (bs : List α) : Leads a (changes a bs) (bs.getLastD a) := by
  induction bs generalizing a with
  | nil => exact rfl
  | cons b bs ih =>
      rw [List.getLastD_cons]
      rcases eq_or_ne a b with rfl | hne
      · rw [changes_cons_same]
        exact ih a
      · rw [changes_cons_ne hne]
        exact ⟨rfl, hne, ih b⟩

/-- The log has the values back, each once where it stood still. -/
theorem changes_destutter (a : α) (bs : List α) :
    (a :: bs).destutter (· ≠ ·) = a :: (changes a bs).map Prod.snd := by
  rw [List.destutter_cons']
  induction bs generalizing a with
  | nil => rfl
  | cons b bs ih =>
      rcases eq_or_ne a b with rfl | hne
      · rw [List.destutter'_cons_neg _ (not_not.mpr rfl), changes_cons_same, ih]
      · rw [List.destutter'_cons_pos _ hne, changes_cons_ne hne, List.map_cons, ih]

end Changes

/-! ## Logs -/

section Logs

variable {ι σ ε : Type _} (step : ι → σ → σ) (lines : ι → σ → List ε)

/-- What the steps of a run write, in order. -/
def emitted : List ι → σ → List ε
  | [], _ => []
  | i :: is, s => lines i s ++ emitted is (step i s)

variable {step lines}

/-- Inputs that neither move nor write may be left out. -/
theorem emitted_filter {q : ι → Bool} (h : ∀ i s, q i = false → step i s = s ∧ lines i s = [])
    (is : List ι) (s : σ) : emitted step lines is s = emitted step lines (is.filter q) s := by
  induction is generalizing s with
  | nil => rfl
  | cons i is ih =>
      cases hq : q i with
      | true =>
          rw [List.filter_cons_of_pos hq, emitted, emitted, ih]
      | false =>
          obtain ⟨hstep, hlines⟩ := h i s hq
          rw [List.filter_cons_of_neg (by rw [hq]; exact Bool.false_ne_true), emitted, hstep,
            hlines, List.nil_append, ih]

variable {Q : ι → Prop} {P : σ → Prop} (hP : ∀ i s, Q i → P s → P (step i s))

include hP

/-- A step that keeps the value it read, and has a line for it if it is another one, logs the
changes. -/
theorem emitted_changes {α : Type _} [DecidableEq α] {kept : σ → α} {value : ι → α}
    {entry : ε → Option (α × α)}
    (hkept : ∀ i s, Q i → P s → kept (step i s) = value i)
    (hlines : ∀ i s, Q i → P s → (lines i s).filterMap entry = change (kept s) (value i))
    (is : List ι) (s : σ) (hQ : ∀ i ∈ is, Q i) (hs : P s) :
    (emitted step lines is s).filterMap entry = changes (kept s) (is.map value) := by
  induction is generalizing s with
  | nil => rfl
  | cons i is ih =>
      obtain ⟨hi, his⟩ := List.forall_mem_cons.mp hQ
      rw [emitted, List.filterMap_append, hlines i s hi hs, ih (step i s) his (hP i s hi hs),
        hkept i s hi hs, List.map_cons, changes]

/-- A step that writes at most one such line, and only while a flag is clear that it then sets,
writes one at most in a whole run. -/
theorem emitted_once {flag : σ → Bool} {p : ε → Bool}
    (hset : ∀ i s, Q i → P s → flag s = true →
      flag (step i s) = true ∧ (lines i s).countP p = 0)
    (hone : ∀ i s, Q i → P s → (lines i s).countP p ≤ 1 ∧
      ((lines i s).countP p = 1 → flag (step i s) = true))
    (is : List ι) (s : σ) (hQ : ∀ i ∈ is, Q i) (hs : P s) :
    (emitted step lines is s).countP p ≤ 1 ∧
      (flag s = true → (emitted step lines is s).countP p = 0) := by
  induction is generalizing s with
  | nil => exact ⟨Nat.zero_le 1, fun _ => rfl⟩
  | cons i is ih =>
      obtain ⟨hi, his⟩ := List.forall_mem_cons.mp hQ
      obtain ⟨hle, hzero⟩ := ih (step i s) his (hP i s hi hs)
      rw [emitted, List.countP_append]
      constructor
      · obtain ⟨hone, hthen⟩ := hone i s hi hs
        rcases Nat.le_one_iff_eq_zero_or_eq_one.mp hone with hnone | hwrote
        · rw [hnone, Nat.zero_add]
          exact hle
        · rw [hwrote, hzero (hthen hwrote)]
      · intro hflag
        obtain ⟨hkeep, hnone⟩ := hset i s hi hs hflag
        rw [hnone, hzero hkeep]

end Logs

/-! ## Logs in parts -/

/-- What only one item of a list can contribute is there as often as that item has it. -/
theorem count_flatMap_of_owner {α β : Type} [DecidableEq α] [DecidableEq β] {f : α → List β}
    (owner : β → α) (howner : ∀ a, ∀ x ∈ f a, owner x = a) {l : List α} (hl : l.Nodup) (x : β)
    (hx : owner x ∈ l) : (l.flatMap f).count x = (f (owner x)).count x := by
  have hnone : ∀ l : List α, owner x ∉ l → (l.flatMap f).count x = 0 := by
    intro l hnot
    refine List.count_eq_zero_of_not_mem fun hmem => ?_
    obtain ⟨a, ha, hxa⟩ := List.mem_flatMap.mp hmem
    exact hnot (howner a x hxa ▸ ha)
  induction l with
  | nil => cases hx
  | cons a l ih =>
      obtain ⟨hnot, hl⟩ := List.nodup_cons.mp hl
      rw [List.flatMap_cons, List.count_append]
      rcases List.mem_cons.mp hx with heq | hmem
      · rw [heq, hnone l (heq ▸ hnot), Nat.add_zero]
      · have hother : (f a).count x = 0 :=
          List.count_eq_zero_of_not_mem fun hxa => hnot (howner a x hxa ▸ hmem)
        rw [hother, Nat.zero_add, ih hl hmem]

end Observations

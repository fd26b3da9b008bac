/-
# `Lib.Runs` — runs of a step function

`step i s` is the state after input `i` at state `s`.  A run is a list of
inputs; `run` is the state it ends in, `states` every state it passes through.
The rules below turn what one step preserves into what a run preserves:

    states_of_inv      every step keeps P                     ⟹  every state has P
    states_of_mem      every step on a Q-input keeps P        ⟹  every state has P
    states_of_guarded  every step taken under G keeps P       ⟹  every state has P
    states_iff_guarded P-to-P steps are exactly the G-steps   ⟹  all states P ⟺ run guarded
    states_rel_run     P-steps move along a preorder R        ⟹  every state is R to the last
    run_rel            every step moves along a preorder R    ⟹  the run does
    run_view           every step is one of another machine   ⟹  the run is one of it
-/
import Mathlib.Tactic.Common

namespace Runs

variable {σ ι : Type _} (step : ι → σ → σ)

/-- The state a list of inputs ends in. -/
def run : List ι → σ → σ
  | [], s => s
  | i :: is, s => run is (step i s)

/-- The states a run passes through, the first and the last included. -/
def states : List ι → σ → List σ
  | [], s => [s]
  | i :: is, s => s :: states is (step i s)

/-- Every input of the run is taken at a state where `G` allows it. -/
def Guarded (G : ι → σ → Prop) : List ι → σ → Prop
  | [], _ => True
  | i :: is, s => G i s ∧ Guarded G is (step i s)

theorem run_mem_states (is : List ι) (s : σ) : run step is s ∈ states step is s := by
  induction is generalizing s with
  | nil => exact List.mem_singleton.mpr rfl
  | cons i is ih => exact List.mem_cons_of_mem _ (ih (step i s))

theorem mem_states_self (is : List ι) (s : σ) : s ∈ states step is s := by
  cases is with
  | nil => exact List.mem_singleton.mpr rfl
  | cons i is => exact List.mem_cons_self

theorem run_append (is js : List ι) (s : σ) :
    run step (is ++ js) s = run step js (run step is s) := by
  induction is generalizing s with
  | nil => rfl
  | cons i is ih => exact ih (step i s)

/-- The states of a run are the ends of its prefixes. -/
theorem mem_states_iff {t : σ} (is : List ι) (s : σ) :
    t ∈ states step is s ↔ ∃ js, js <+: is ∧ t = run step js s := by
  induction is generalizing s with
  | nil =>
      constructor
      · intro ht
        exact ⟨[], List.prefix_refl _, List.mem_singleton.mp ht⟩
      · rintro ⟨js, hjs, rfl⟩
        rw [List.prefix_nil.mp hjs]
        exact List.mem_singleton.mpr rfl
  | cons i is ih =>
      constructor
      · intro ht
        rcases List.mem_cons.mp ht with rfl | ht
        · exact ⟨[], List.nil_prefix, rfl⟩
        · obtain ⟨js, hjs, rfl⟩ := (ih (step i s)).mp ht
          exact ⟨i :: js, List.cons_prefix_cons.mpr ⟨rfl, hjs⟩, rfl⟩
      · rintro ⟨js, hjs, rfl⟩
        cases js with
        | nil => exact List.mem_cons_self
        | cons j js =>
            obtain ⟨rfl, htail⟩ := List.cons_prefix_cons.mp hjs
            exact List.mem_cons_of_mem _ ((ih (step j s)).mpr ⟨js, htail, rfl⟩)

variable {step} {P : σ → Prop} {G : ι → σ → Prop}

theorem states_of_guarded (h : ∀ i s, P s → G i s → P (step i s)) :
    ∀ (is : List ι) (s : σ), P s → Guarded step G is s → ∀ t ∈ states step is s, P t := by
  intro is
  induction is with
  | nil =>
      intro s hs _ t ht
      exact List.mem_singleton.mp ht ▸ hs
  | cons i is ih =>
      intro s hs hg t ht
      rcases List.mem_cons.mp ht with rfl | ht
      · exact hs
      · exact ih (step i s) (h i s hs hg.1) hg.2 t ht

theorem Guarded.of_prefix {is js : List ι} {s : σ} (hjs : js <+: is) (h : Guarded step G is s) :
    Guarded step G js s := by
  induction js generalizing is s with
  | nil => exact trivial
  | cons j js ih =>
      obtain ⟨ks, rfl⟩ := hjs
      exact ⟨h.1, ih (List.prefix_append js ks) h.2⟩

/-- A guard that does not look at the state. -/
theorem guarded_iff_forall_mem {Q : ι → Prop} (is : List ι) (s : σ) :
    Guarded step (fun i _ => Q i) is s ↔ ∀ i ∈ is, Q i := by
  induction is generalizing s with
  | nil => exact iff_of_true trivial fun _ h => absurd h List.not_mem_nil
  | cons i is ih => rw [Guarded, ih (step i s), List.forall_mem_cons]

/-- Inputs of a kind `Q`, each keeping `P`. -/
theorem states_of_mem {Q : ι → Prop} (h : ∀ i s, Q i → P s → P (step i s)) :
    ∀ (is : List ι) (s : σ), (∀ i ∈ is, Q i) → P s → ∀ t ∈ states step is s, P t := by
  intro is s hq hs
  have hguarded : Guarded step (fun i _ => Q i) is s := (guarded_iff_forall_mem is s).mpr hq
  exact states_of_guarded (fun i s hs hi => h i s hi hs) is s hs hguarded

theorem states_of_inv (h : ∀ i s, P s → P (step i s)) (is : List ι) (s : σ) (hs : P s) :
    ∀ t ∈ states step is s, P t :=
  states_of_mem (Q := fun _ => True) (fun i s _ => h i s) is s (fun _ _ => trivial) hs

/-- When the guard says exactly which steps keep `P`, a run stays in `P` exactly
when it is guarded throughout. -/
theorem states_iff_guarded (h : ∀ i s, P s → (P (step i s) ↔ G i s)) :
    ∀ (is : List ι) (s : σ), P s → ((∀ t ∈ states step is s, P t) ↔ Guarded step G is s) := by
  intro is
  induction is with
  | nil =>
      intro s hs
      exact ⟨fun _ => trivial, fun _ t ht => List.mem_singleton.mp ht ▸ hs⟩
  | cons i is ih =>
      intro s hs
      constructor
      · intro hall
        have hnext : P (step i s) :=
          hall _ (List.mem_cons_of_mem _ (mem_states_self step is _))
        exact ⟨(h i s hs).mp hnext,
          (ih (step i s) hnext).mp fun t ht => hall t (List.mem_cons_of_mem _ ht)⟩
      · intro hg
        exact states_of_guarded (fun i s hs hg => (h i s hs).mpr hg) (i :: is) s hs hg

/-- Steps on `Q`-inputs keep `P` and, under `P`, move along a preorder `R`: every state of
the run is related to the last one. -/
theorem states_rel_run {Q : ι → Prop} {R : σ → σ → Prop} (hrefl : ∀ s, R s s)
    (htrans : ∀ {s t u}, R s t → R t u → R s u)
    (h : ∀ i s, Q i → P s → P (step i s) ∧ R s (step i s)) :
    ∀ (is : List ι) (s : σ), (∀ i ∈ is, Q i) → P s →
      ∀ t ∈ states step is s, R t (run step is s) := by
  intro is
  induction is with
  | nil =>
      intro s _ _ t ht
      rw [List.mem_singleton.mp ht]
      exact hrefl _
  | cons i is ih =>
      intro s hq hs t ht
      obtain ⟨hi, his⟩ := List.forall_mem_cons.mp hq
      obtain ⟨hnext, hrel⟩ := h i s hi hs
      rcases List.mem_cons.mp ht with rfl | ht
      · exact htrans hrel (ih _ his hnext _ (mem_states_self step is _))
      · exact ih _ his hnext t ht

theorem run_rel {R : σ → σ → Prop} (hrefl : ∀ s, R s s)
    (htrans : ∀ {s t u}, R s t → R t u → R s u) (h : ∀ i s, R s (step i s)) :
    ∀ (is : List ι) (s : σ), R s (run step is s) := by
  intro is
  induction is with
  | nil => exact hrefl
  | cons i is ih =>
      intro s
      exact htrans (h i s) (ih (step i s))

/-- A view of the state that each step moves as a machine of its own does. -/
theorem run_view {τ : Type _} {step' : ι → τ → τ} {view : σ → τ}
    (h : ∀ i s, view (step i s) = step' i (view s)) :
    ∀ (is : List ι) (s : σ), view (run step is s) = run step' is (view s) := by
  intro is
  induction is with
  | nil => exact fun _ => rfl
  | cons i is ih =>
      intro s
      rw [run, run, ih (step i s), h i s]

end Runs

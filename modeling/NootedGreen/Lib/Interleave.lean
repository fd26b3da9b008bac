/-
# `Lib.Interleave` — register programs side by side

Several programs run on one device, one access at a time and in any order.  A pool is what
is left of each of them and the state they share.  At any moment a new program can start,
a running one can make its next access, or something outside can change the state:

    spawn p     access i     outside f

A program in a pool cannot rely on what it has read, since others may write before it does.
Two notions replace pre- and postconditions:

    Keeps I Q p   whatever p has read in states with I, its accesses keep Q
    Secures Q p   before p ends, one of its accesses leads to a state with Q

What every program keeps holds in every interleaving (`Pool.states_inv`).  Once a program
that secures a goal has ended, the goal holds, whatever was going on when it started, if
from then on nothing destroys it (`Pool.secured`).
-/
import NootedGreen.Lib.RegKind
import NootedGreen.Lib.Runs

namespace RegProg

variable {α β ε γ δ σ : Type}

/-- One access: what is left of the program, and the state after it. -/
def access (D : Device α β ε σ) : RegProg α β ε γ → σ → RegProg α β ε γ × σ
  | .ret x, s => (.ret x, s)
  | .read a k, s => (k (D.read a s).1, (D.read a s).2)
  | .write a v k, s => (k, D.write a v s)
  | .call e k, s => (k, D.call e s)

def isDone : RegProg α β ε γ → Bool
  | .ret _ => true
  | _ => false

/-! ## Keeping what others rely on -/

def Keeps (D : Device α β ε σ) (I Q : σ → Prop) : RegProg α β ε γ → Prop
  | .ret _ => True
  | .read a k => ∀ s, I s → (Q s → Q (D.read a s).2) ∧ (k (D.read a s).1).Keeps D I Q
  | .write a v k => (∀ s, I s → Q s → Q (D.write a v s)) ∧ k.Keeps D I Q
  | .call e k => (∀ s, I s → Q s → Q (D.call e s)) ∧ k.Keeps D I Q

/-- Kept whatever was read, and whenever. -/
abbrev Stable (D : Device α β ε σ) (Q : σ → Prop) (p : RegProg α β ε γ) : Prop :=
  p.Keeps D (fun _ => True) Q

theorem Keeps.access {D : Device α β ε σ} {I Q : σ → Prop} {p : RegProg α β ε γ}
    (h : p.Keeps D I Q) {s : σ} (hs : I s) :
    (p.access D s).1.Keeps D I Q ∧ (Q s → Q (p.access D s).2) := by
  cases p with
  | ret x => exact ⟨trivial, id⟩
  | read a k => exact ⟨(h s hs).2, (h s hs).1⟩
  | write a v k => exact ⟨h.2, h.1 s hs⟩
  | call e k => exact ⟨h.2, h.1 s hs⟩

namespace Keeps

variable {D : Device α β ε σ} {I Q : σ → Prop}

theorem pure (x : γ) : (Pure.pure x : RegProg α β ε γ).Keeps D I Q := trivial

theorem put {a : α} {v : β} (h : ∀ s, I s → Q s → Q (D.write a v s)) :
    (put a v : RegProg α β ε Unit).Keeps D I Q :=
  ⟨h, trivial⟩

theorem bind {p : RegProg α β ε γ} {f : γ → RegProg α β ε δ} (hp : p.Keeps D I Q)
    (hf : ∀ x, (f x).Keeps D I Q) : (p >>= f).Keeps D I Q := by
  show (p.bind f).Keeps D I Q
  induction p with
  | ret x => exact hf x
  | read a k ih => exact fun s hs => ⟨(hp s hs).1, ih _ (hp s hs).2⟩
  | write a v k ih => exact ⟨hp.1, ih hp.2⟩
  | call e k ih => exact ⟨hp.1, ih hp.2⟩

/-- What is read is what some state with the invariant holds there. -/
theorem get_bind {a : α} {f : β → RegProg α β ε δ}
    (h : ∀ s, I s → (Q s → Q (D.read a s).2) ∧ (f (D.read a s).1).Keeps D I Q) :
    (get a >>= f).Keeps D I Q :=
  h

theorem onlyIf {c : Prop} {_ : Decidable c} {p : RegProg α β ε Unit} (h : p.Keeps D I Q) :
    (onlyIf c p).Keeps D I Q := by
  rw [RegProg.onlyIf]
  split
  · exact h
  · exact trivial

end Keeps

/-- A program keeps what all the writes it can make keep. -/
theorem Writes.keeps {D : Device α β ε σ} {G : α → β → Prop} {C : ε → Prop} {I Q : σ → Prop}
    (hread : ∀ a s, Q s → Q (D.read a s).2)
    (hwrite : ∀ a v, G a v → ∀ s, Q s → Q (D.write a v s))
    (hcall : ∀ e, C e → ∀ s, Q s → Q (D.call e s)) {p : RegProg α β ε γ}
    (h : p.Writes G C) : p.Keeps D I Q := by
  induction p with
  | ret x => exact trivial
  | read a k ih => exact fun s _ => ⟨hread a s, ih _ (h _)⟩
  | write a v k ih => exact ⟨fun s _ => hwrite a v h.1 s, ih h.2⟩
  | call e k ih => exact ⟨fun s _ => hcall e h.1 s, ih h.2⟩

/-! ## Securing a goal -/

def Secures (D : Device α β ε σ) (Q : σ → Prop) : RegProg α β ε γ → Prop
  | .ret _ => False
  | .read a k => ∀ s, Q (D.read a s).2 ∨ (k (D.read a s).1).Secures D Q
  | .write a v k => (∀ s, Q (D.write a v s)) ∨ k.Secures D Q
  | .call _ k => k.Secures D Q

theorem Secures.access {D : Device α β ε σ} {Q : σ → Prop} {p : RegProg α β ε γ}
    (h : p.Secures D Q) (s : σ) : Q (p.access D s).2 ∨ (p.access D s).1.Secures D Q := by
  cases p with
  | ret x => exact h.elim
  | read a k => exact h s
  | write a v k => exact h.imp (fun hQ => hQ s) id
  | call e k => exact .inr h

/-- A program with a goal left to meet has not ended. -/
theorem Secures.isDone {D : Device α β ε σ} {Q : σ → Prop} {p : RegProg α β ε γ}
    (h : p.Secures D Q) : p.isDone = false := by
  cases p with
  | ret x => exact h.elim
  | read a k => rfl
  | write a v k => rfl
  | call e k => rfl

namespace Secures

variable {D : Device α β ε σ} {Q : σ → Prop}

theorem put {a : α} {v : β} (h : ∀ s, Q (D.write a v s)) :
    (put a v : RegProg α β ε Unit).Secures D Q :=
  .inl h

theorem head {p : RegProg α β ε γ} (f : γ → RegProg α β ε δ) (hp : p.Secures D Q) :
    (p >>= f).Secures D Q := by
  show (p.bind f).Secures D Q
  induction p with
  | ret x => exact hp.elim
  | read a k ih => exact fun s => (hp s).imp id (ih _)
  | write a v k ih => exact hp.imp id ih
  | call e k ih => exact ih hp

theorem tail (p : RegProg α β ε γ) {f : γ → RegProg α β ε δ} (hf : ∀ x, (f x).Secures D Q) :
    (p >>= f).Secures D Q := by
  show (p.bind f).Secures D Q
  induction p with
  | ret x => exact hf x
  | read a k ih => exact fun s => .inr (ih _)
  | write a v k ih => exact .inr ih
  | call e k ih => exact ih

/-- A register is read, and the code either finds the goal met or goes on to meet it. -/
theorem get_bind {a : α} {f : β → RegProg α β ε δ}
    (h : ∀ s, Q (D.read a s).2 ∨ (f (D.read a s).1).Secures D Q) :
    (get a >>= f).Secures D Q :=
  h

theorem onlyIf {c : Prop} {_ : Decidable c} {p : RegProg α β ε Unit} (hc : c)
    (h : p.Secures D Q) : (onlyIf c p).Secures D Q := by
  rw [RegProg.onlyIf, if_pos hc]
  exact h

end Secures

end RegProg

/-! ## Pools -/

/-- What is left of each program, and the state they share. -/
structure Pool (α β ε γ σ : Type) where
  threads : List (RegProg α β ε γ)
  state : σ

namespace Pool

open RegProg

variable {α β ε γ σ : Type}

inductive Event (α β ε γ σ : Type) where
  | spawn (p : RegProg α β ε γ)
  | access (i : Nat)
  | outside (f : σ → σ)

def step (D : Device α β ε σ) : Event α β ε γ σ → Pool α β ε γ σ → Pool α β ε γ σ
  | .spawn p, pool => ⟨pool.threads ++ [p], pool.state⟩
  | .access i, pool =>
      match pool.threads[i]? with
      | some p => ⟨pool.threads.set i (p.access D pool.state).1, (p.access D pool.state).2⟩
      | none => pool
  | .outside f, pool => ⟨pool.threads, f pool.state⟩

/-- Thread `i` has nothing left to do. -/
def Ended (i : Nat) (pool : Pool α β ε γ σ) : Prop :=
  ∃ p, pool.threads[i]? = some p ∧ p.isDone = true

instance (i : Nat) (pool : Pool α β ε γ σ) : Decidable (pool.Ended i) :=
  decidable_of_iff ((pool.threads[i]?).any isDone = true) (Option.any_eq_true _ _)

/-- What starts keeps `Q`. -/
def Event.SpawnKeeps (D : Device α β ε σ) (I Q : σ → Prop) : Event α β ε γ σ → Prop
  | .spawn p => p.Keeps D I Q
  | _ => True

/-- What happens outside keeps `Q`. -/
def Event.OutsideKeeps (Q : σ → Prop) : Event α β ε γ σ → Prop
  | .outside f => ∀ s, Q s → Q (f s)
  | _ => True

variable {D : Device α β ε σ} {I Q : σ → Prop} {pool : Pool α β ε γ σ} {e : Event α β ε γ σ}

/-- Every thread keeps `Q` while states have `I`. -/
def ThreadsKeep (D : Device α β ε σ) (I Q : σ → Prop) (pool : Pool α β ε γ σ) : Prop :=
  ∀ p ∈ pool.threads, p.Keeps D I Q

/-- An access leaves of one thread its rest, a spawn adds one thread. -/
theorem ThreadsKeep.step (h : pool.ThreadsKeep D I Q) (hI : I pool.state)
    (he : e.SpawnKeeps D I Q) : (pool.step D e).ThreadsKeep D I Q := by
  cases e with
  | spawn p =>
      intro q hq
      rcases List.mem_append.mp hq with hq | hq
      · exact h q hq
      · rw [List.mem_singleton.mp hq]
        exact he
  | access i =>
      rw [Pool.step]
      split
      · next p hp =>
          intro q hq
          rcases List.mem_or_eq_of_mem_set hq with hq | rfl
          · exact h q hq
          · exact ((h p (List.mem_of_getElem? hp)).access hI).1
      · exact h
  | outside f => exact h

theorem step_state (h : pool.ThreadsKeep D I Q) (hI : I pool.state) (he : e.OutsideKeeps Q)
    (hQ : Q pool.state) : Q (pool.step D e).state := by
  cases e with
  | spawn p => exact hQ
  | access i =>
      rw [Pool.step]
      split
      · next p hp => exact ((h p (List.mem_of_getElem? hp)).access hI).2 hQ
      · exact hQ
  | outside f => exact he pool.state hQ

/-- In every interleaving, every state has what everyone keeps. -/
theorem states_inv (h : pool.ThreadsKeep D I I) (hI : I pool.state)
    (events : List (Event α β ε γ σ))
    (hevents : ∀ e ∈ events, e.SpawnKeeps D I I ∧ e.OutsideKeeps I) :
    ∀ t ∈ Runs.states (step D) events pool, I t.state := by
  have hstep : ∀ (e : Event α β ε γ σ) (t : Pool α β ε γ σ),
      e.SpawnKeeps D I I ∧ e.OutsideKeeps I → t.ThreadsKeep D I I ∧ I t.state →
      (t.step D e).ThreadsKeep D I I ∧ I (t.step D e).state := fun e t he ht =>
    ⟨ht.1.step ht.2 he.1, step_state ht.1 ht.2 he.2 ht.2⟩
  exact fun t ht => (Runs.states_of_mem hstep events pool hevents ⟨h, hI⟩ t ht).2

/-- Threads stay what they are whatever happens to the state. -/
theorem run_stable (h : pool.ThreadsKeep D (fun _ => True) Q) (events : List (Event α β ε γ σ))
    (hevents : ∀ e ∈ events, e.SpawnKeeps D (fun _ => True) Q) :
    (Runs.run (step D) events pool).ThreadsKeep D (fun _ => True) Q := by
  have hstep : ∀ (e : Event α β ε γ σ) (t : Pool α β ε γ σ), e.SpawnKeeps D (fun _ => True) Q →
      t.ThreadsKeep D (fun _ => True) Q → (t.step D e).ThreadsKeep D (fun _ => True) Q :=
    fun e t he ht => ht.step trivial he
  exact Runs.states_of_mem hstep events pool hevents h _ (Runs.run_mem_states _ events pool)

/-- The goal is met, or thread `i` still has to meet it. -/
def Pending (D : Device α β ε σ) (Q : σ → Prop) (i : Nat) (pool : Pool α β ε γ σ) : Prop :=
  Q pool.state ∨ ∃ p, pool.threads[i]? = some p ∧ p.Secures D Q

theorem Pending.step {i : Nat} (h : pool.Pending D Q i)
    (hkeep : pool.ThreadsKeep D (fun _ => True) Q) (he : e.OutsideKeeps Q) :
    (pool.step D e).Pending D Q i := by
  rcases h with hmet | ⟨p, hp, hsec⟩
  · exact .inl (step_state hkeep trivial he hmet)
  · have hi : i < pool.threads.length := (List.getElem?_eq_some_iff.mp hp).1
    cases e with
    | spawn q => exact .inr ⟨p, (List.getElem?_append_left hi).trans hp, hsec⟩
    | access j =>
        rw [Pool.step]
        split
        · next q hq =>
            by_cases hij : j = i
            · subst hij
              obtain rfl : p = q := Option.some.inj (hp.symm.trans hq)
              refine (hsec.access pool.state).imp id fun hleft => ⟨_, ?_, hleft⟩
              exact List.getElem?_set_self hi
            · exact .inr ⟨p, (List.getElem?_set_ne hij).trans hp, hsec⟩
        · exact .inr ⟨p, hp, hsec⟩
    | outside f => exact .inr ⟨p, hp, hsec⟩

/-- However the pool came about, and whatever has happened to the state: once a thread that
secures the goal has been started and has ended, the goal holds, if nothing outside destroys
it meanwhile. -/
theorem secured (h : pool.ThreadsKeep D (fun _ => True) Q) {p : RegProg α β ε γ}
    (hkeep : p.Stable D Q) (hsec : p.Secures D Q) (events : List (Event α β ε γ σ))
    (hevents : ∀ e ∈ events, e.SpawnKeeps D (fun _ => True) Q ∧ e.OutsideKeeps Q) :
    ∀ t ∈ Runs.states (step D) events (pool.step D (.spawn p)),
      t.Ended pool.threads.length → Q t.state := by
  intro t ht ⟨q, hq, hdone⟩
  have hstep : ∀ (e : Event α β ε γ σ) (t : Pool α β ε γ σ),
      e.SpawnKeeps D (fun _ => True) Q ∧ e.OutsideKeeps Q →
      t.ThreadsKeep D (fun _ => True) Q ∧ t.Pending D Q pool.threads.length →
      (t.step D e).ThreadsKeep D (fun _ => True) Q ∧
        (t.step D e).Pending D Q pool.threads.length := fun e t he ht =>
    ⟨ht.1.step trivial he.1, ht.2.step ht.1 he.2⟩
  have hgoal := Runs.states_of_mem hstep events _ hevents
    ⟨h.step trivial (e := .spawn p) hkeep, .inr ⟨p, List.getElem?_concat_length, hsec⟩⟩ t ht
  rcases hgoal.2 with hmet | ⟨p, hp, hsec⟩
  · exact hmet
  · obtain rfl : p = q := Option.some.inj (hp.symm.trans hq)
    rw [hsec.isDone] at hdone
    exact absurd hdone Bool.noConfusion

end Pool

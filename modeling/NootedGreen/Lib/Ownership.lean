/-
# `Lib.Ownership` — counted references

Code that reaches reference-counted objects through pointers:

    new o                 a new object and the one reference to it, or null
    look p                the object
    store c key p         the container takes a reference of its own, or refuses
    retain p, release p   one reference more, one reference less
    call e ps             code outside

A heap is the objects by number and `own`, the references the code has.  The references a
container has are its entries.  An object is alive while the code, the system (`Roots`) or a
container that is alive has a reference to it; counts are not stored, so what a container
frees with itself needs no bookkeeping.

A run is `Safe` if every pointer it follows leads to an object that is alive, if it gives up
no reference it does not have, and if it stores only into the system's tables and containers
that it has made itself: those are numbered from `base` on.

    Spec S p T    where the code has the references S, p runs safely and leaves it T, whatever
                  else it has and whichever requests are refused

So `Spec 0 p fun _ => 0` says that `p` leaks nothing.
-/
import Mathlib.Algebra.Order.Group.Multiset
import NootedGreen.Lib.Assoc

namespace Ownership

variable {ν κ ε γ δ : Type}

abbrev Ptr := Option Nat

/-- The references that a pointer stands for. -/
def refs : Ptr → Multiset Nat
  | some i => {i}
  | none => 0

@[simp] theorem refs_some (i : Nat) : refs (some i) = {i} := rfl

@[simp] theorem refs_none : refs none = 0 := rfl

/-! ## Heaps -/

structure Obj (ν κ : Type) where
  payload : ν
  entries : List (κ × Nat)
  deriving DecidableEq

/-- `asked` counts the requests that can be refused. -/
structure Heap (ν κ : Type) where
  cell : Nat → Option (Obj ν κ)
  next : Nat
  fresh : ∀ i, next ≤ i → cell i = none
  own : Multiset Nat
  asked : Nat

namespace Heap

def obj (h : Heap ν κ) (p : Ptr) : Option (Obj ν κ) := p.bind h.cell

/-- What an object is, its entries apart. -/
def payload (h : Heap ν κ) (i : Nat) : Option ν := (h.cell i).map Obj.payload

/-- A request that is refused. -/
def refuse (h : Heap ν κ) : Heap ν κ := { h with asked := h.asked + 1 }

def make (o : Obj ν κ) (h : Heap ν κ) : Heap ν κ where
  cell := Function.update h.cell h.next (some o)
  next := h.next + 1
  fresh := fun i hi => by
    rw [Function.update_of_ne (Nat.ne_of_gt hi)]
    exact h.fresh i (Nat.le_of_succ_le hi)
  own := h.next ::ₘ h.own
  asked := h.asked + 1

def insert [DecidableEq κ] (c : Nat) (key : κ) (i : Nat) (h : Heap ν κ) : Heap ν κ where
  cell := Function.update h.cell c
    ((h.cell c).map fun o => { o with entries := Assoc.set key i o.entries })
  next := h.next
  fresh := fun j hj => by
    by_cases hjc : j = c
    · rw [hjc, Function.update_self, ← hjc, h.fresh j hj, Option.map_none]
    · rw [Function.update_of_ne hjc, h.fresh j hj]
  own := h.own
  asked := h.asked + 1

theorem payload_make (o : Obj ν κ) (h : Heap ν κ) :
    (h.make o).payload h.next = some o.payload := by
  simp only [payload, make, Function.update_self, Option.map_some]

theorem payload_insert [DecidableEq κ] (c : Nat) (key : κ) (i : Nat) (h : Heap ν κ) (j : Nat) :
    (h.insert c key i).payload j = h.payload j := by
  simp only [payload, insert]
  by_cases hjc : j = c
  · rw [hjc, Function.update_self, Option.map_map]
    rfl
  · rw [Function.update_of_ne hjc]

def retain (p : Ptr) (h : Heap ν κ) : Heap ν κ := { h with own := refs p + h.own }

def release (p : Ptr) (h : Heap ν κ) : Heap ν κ := { h with own := h.own - refs p }

end Heap

/-- What the rest of the system keeps alive, which of it are tables to store into, and where
the objects begin that the code makes. -/
structure Roots where
  alive : Nat → Prop
  table : Nat → Prop
  table_alive : ∀ i, table i → alive i
  base : Nat

inductive Heap.Live (R : Roots) (h : Heap ν κ) : Nat → Prop
  | owned {i : Nat} : i ∈ h.own → Live R h i
  | root {i : Nat} : R.alive i → Live R h i
  | held {c i : Nat} {o : Obj ν κ} {key : κ} :
      Live R h c → h.cell c = some o → (key, i) ∈ o.entries → Live R h i

def Heap.Valid (R : Roots) (h : Heap ν κ) (p : Ptr) : Prop := ∃ i, p = some i ∧ h.Live R i

/-- The system under the code: which requests it grants, and what the calls do. -/
structure Kernel (ν κ ε : Type) where
  grants : Nat → Bool
  call : ε → List Ptr → Heap ν κ → Bool × Heap ν κ
  call_own : ∀ e ps h, (call e ps h).2.own = h.own
  call_next : ∀ e ps h, h.next ≤ (call e ps h).2.next

namespace Kernel

def new (K : Kernel ν κ ε) (o : Obj ν κ) (h : Heap ν κ) : Ptr × Heap ν κ :=
  if K.grants h.asked then (some h.next, h.make o) else (none, h.refuse)

theorem new_cases (K : Kernel ν κ ε) (o : Obj ν κ) (h : Heap ν κ) :
    K.new o h = (some h.next, h.make o) ∨ K.new o h = (none, h.refuse) :=
  ite_eq_or_eq _ _ _

theorem new_own (K : Kernel ν κ ε) (o : Obj ν κ) (h : Heap ν κ) :
    (K.new o h).2.own = refs (K.new o h).1 + h.own := by
  rcases K.new_cases o h with hnew | hnew <;> rw [hnew]
  · rfl
  · exact (zero_add _).symm

theorem new_next (K : Kernel ν κ ε) (o : Obj ν κ) (h : Heap ν κ) :
    h.next ≤ (K.new o h).2.next := by
  rcases K.new_cases o h with hnew | hnew <;> rw [hnew]
  · exact Nat.le_succ _
  · exact le_rfl

theorem new_cell (K : Kernel ν κ ε) (o : Obj ν κ) {h : Heap ν κ} {i : Nat} (hi : i < h.next) :
    (K.new o h).2.cell i = h.cell i := by
  rcases K.new_cases o h with hnew | hnew <;> rw [hnew]
  · exact Function.update_of_ne (Nat.ne_of_lt hi) _ _
  · rfl

theorem new_payload (K : Kernel ν κ ε) (o : Obj ν κ) {h : Heap ν κ} {i : Nat}
    (hi : i < h.next) : (K.new o h).2.payload i = h.payload i := by
  rw [Heap.payload, K.new_cell o hi, Heap.payload]

/-- The calls leave every object what it is. -/
def KeepsPayloads (K : Kernel ν κ ε) : Prop :=
  ∀ e ps h i, i < h.next → (K.call e ps h).2.payload i = h.payload i

/-- Every request is granted. -/
def Generous (K : Kernel ν κ ε) : Prop := ∀ n, K.grants n = true

theorem Generous.new {K : Kernel ν κ ε} (hK : K.Generous) (o : Obj ν κ) (h : Heap ν κ) :
    K.new o h = (some h.next, h.make o) :=
  if_pos (hK h.asked)

variable [DecidableEq κ]

/-- Null is never stored. -/
def store (K : Kernel ν κ ε) (c : Ptr) (key : κ) (p : Ptr) (h : Heap ν κ) : Bool × Heap ν κ :=
  match c, p with
  | some c, some i => if K.grants h.asked then (true, h.insert c key i) else (false, h.refuse)
  | _, _ => (false, h)

theorem store_cases (K : Kernel ν κ ε) (c : Ptr) (key : κ) (p : Ptr) (h : Heap ν κ) :
    (∃ c' i, c = some c' ∧ p = some i ∧ K.store c key p h = (true, h.insert c' key i)) ∨
      K.store c key p h = (false, h.refuse) ∨ K.store c key p h = (false, h) := by
  cases c with
  | none => exact .inr (.inr rfl)
  | some c =>
      cases p with
      | none => exact .inr (.inr rfl)
      | some i =>
          rcases ite_eq_or_eq (K.grants h.asked = true) (true, h.insert c key i)
            (false, h.refuse) with hstore | hstore
          · exact .inl ⟨c, i, rfl, rfl, hstore⟩
          · exact .inr (.inl hstore)

theorem store_own (K : Kernel ν κ ε) (c : Ptr) (key : κ) (p : Ptr) (h : Heap ν κ) :
    (K.store c key p h).2.own = h.own := by
  obtain ⟨_, _, _, _, hstore⟩ | hstore | hstore := K.store_cases c key p h <;> rw [hstore] <;> rfl

theorem store_next (K : Kernel ν κ ε) (c : Ptr) (key : κ) (p : Ptr) (h : Heap ν κ) :
    (K.store c key p h).2.next = h.next := by
  obtain ⟨_, _, _, _, hstore⟩ | hstore | hstore := K.store_cases c key p h <;> rw [hstore] <;> rfl

theorem store_cell (K : Kernel ν κ ε) {c : Ptr} (key : κ) (p : Ptr) (h : Heap ν κ) {i : Nat}
    (hi : c ≠ some i) : (K.store c key p h).2.cell i = h.cell i := by
  obtain ⟨c', _, hc, _, hstore⟩ | hstore | hstore := K.store_cases c key p h
  · rw [hstore]
    refine Function.update_of_ne (fun heq => hi ?_) _ _
    rw [hc, heq]
  · rw [hstore]
    rfl
  · rw [hstore]

theorem store_payload (K : Kernel ν κ ε) (c : Ptr) (key : κ) (p : Ptr) (h : Heap ν κ) (i : Nat) :
    (K.store c key p h).2.payload i = h.payload i := by
  obtain ⟨c', j, _, _, hstore⟩ | hstore | hstore := K.store_cases c key p h <;> rw [hstore]
  · exact h.payload_insert c' key j i
  · rfl

theorem Generous.store {K : Kernel ν κ ε} (hK : K.Generous) (c : Nat) (key : κ) (i : Nat)
    (h : Heap ν κ) : K.store (some c) key (some i) h = (true, h.insert c key i) :=
  if_pos (hK h.asked)

end Kernel

/-! ## Programs -/

inductive Prog (ν κ ε γ : Type) where
  | ret (x : γ)
  | newThen (o : Obj ν κ) (k : Ptr → Prog ν κ ε γ)
  | lookThen (p : Ptr) (k : Option (Obj ν κ) → Prog ν κ ε γ)
  | storeThen (c : Ptr) (key : κ) (p : Ptr) (k : Bool → Prog ν κ ε γ)
  | retainThen (p : Ptr) (k : Prog ν κ ε γ)
  | releaseThen (p : Ptr) (k : Prog ν κ ε γ)
  | callThen (e : ε) (ps : List Ptr) (k : Bool → Prog ν κ ε γ)

namespace Prog

def bind : Prog ν κ ε γ → (γ → Prog ν κ ε δ) → Prog ν κ ε δ
  | .ret x, f => f x
  | .newThen o k, f => .newThen o fun p => (k p).bind f
  | .lookThen p k, f => .lookThen p fun o => (k o).bind f
  | .storeThen c key p k, f => .storeThen c key p fun b => (k b).bind f
  | .retainThen p k, f => .retainThen p (k.bind f)
  | .releaseThen p k, f => .releaseThen p (k.bind f)
  | .callThen e ps k, f => .callThen e ps fun b => (k b).bind f

instance : Monad (Prog ν κ ε) where
  pure := .ret
  bind := bind

variable [DecidableEq κ]

def run (K : Kernel ν κ ε) : Prog ν κ ε γ → Heap ν κ → γ × Heap ν κ
  | .ret x, h => (x, h)
  | .newThen o k, h => (k (K.new o h).1).run K (K.new o h).2
  | .lookThen p k, h => (k (h.obj p)).run K h
  | .storeThen c key p k, h => (k (K.store c key p h).1).run K (K.store c key p h).2
  | .retainThen p k, h => k.run K (h.retain p)
  | .releaseThen p k, h => k.run K (h.release p)
  | .callThen e ps k, h => (k (K.call e ps h).1).run K (K.call e ps h).2

/-- The calls of a run, each with the heap it is made on. -/
def calls (K : Kernel ν κ ε) : Prog ν κ ε γ → Heap ν κ → List (ε × List Ptr × Heap ν κ)
  | .ret _, _ => []
  | .newThen o k, h => (k (K.new o h).1).calls K (K.new o h).2
  | .lookThen p k, h => (k (h.obj p)).calls K h
  | .storeThen c key p k, h => (k (K.store c key p h).1).calls K (K.store c key p h).2
  | .retainThen p k, h => k.calls K (h.retain p)
  | .releaseThen p k, h => k.calls K (h.release p)
  | .callThen e ps k, h => (e, ps, h) :: (k (K.call e ps h).1).calls K (K.call e ps h).2

def Safe (K : Kernel ν κ ε) (R : Roots) : Prog ν κ ε γ → Heap ν κ → Prop
  | .ret _, _ => True
  | .newThen o k, h => (∀ kv ∈ o.entries, h.Live R kv.2) ∧ (k (K.new o h).1).Safe K R (K.new o h).2
  | .lookThen p k, h => h.Valid R p ∧ (k (h.obj p)).Safe K R h
  | .storeThen c key p k, h =>
      (∃ i, c = some i ∧ ((i ∈ h.own ∧ R.base ≤ i) ∨ R.table i)) ∧ (p.isSome → h.Valid R p) ∧
        (k (K.store c key p h).1).Safe K R (K.store c key p h).2
  | .retainThen p k, h => h.Valid R p ∧ k.Safe K R (h.retain p)
  | .releaseThen p k, h => (∃ i, p = some i ∧ i ∈ h.own) ∧ k.Safe K R (h.release p)
  | .callThen e ps k, h =>
      (∀ p ∈ ps, h.Valid R p) ∧ (k (K.call e ps h).1).Safe K R (K.call e ps h).2

def new (o : Obj ν κ) : Prog ν κ ε Ptr := .newThen o .ret

def look (p : Ptr) : Prog ν κ ε (Option (Obj ν κ)) := .lookThen p .ret

def store (c : Ptr) (key : κ) (p : Ptr) : Prog ν κ ε Bool := .storeThen c key p .ret

def retain (p : Ptr) : Prog ν κ ε Unit := .retainThen p (.ret ())

def release (p : Ptr) : Prog ν κ ε Unit := .releaseThen p (.ret ())

def call (e : ε) (ps : List Ptr) : Prog ν κ ε Bool := .callThen e ps .ret

/-- What the container has at the key: no reference is taken. -/
def load (c : Ptr) (key : κ) : Prog ν κ ε Ptr := do
  let o ← look c
  return o.bind fun o => o.entries.lookup key

/-- Run the program if the pointer is not null. -/
def ifSome (p : Ptr) (q : Prog ν κ ε Unit) : Prog ν κ ε Unit := if p.isSome then q else pure ()

/-- Give the reference up, if there is one. -/
def safeRelease (p : Ptr) : Prog ν κ ε Unit := ifSome p (release p)

/-! ## Sequencing -/

section Sequence

variable (K : Kernel ν κ ε) (R : Roots)

@[simp] theorem run_pure (x : γ) (h : Heap ν κ) :
    (pure x : Prog ν κ ε γ).run K h = (x, h) := rfl

@[simp] theorem run_bind (p : Prog ν κ ε γ) (f : γ → Prog ν κ ε δ) (h : Heap ν κ) :
    (p >>= f).run K h = (f (p.run K h).1).run K (p.run K h).2 := by
  show (p.bind f).run K h = _
  induction p generalizing h with
  | ret x => rfl
  | newThen o k ih => exact ih _ _
  | lookThen p k ih => exact ih _ _
  | storeThen c key p k ih => exact ih _ _
  | retainThen p k ih => exact ih _
  | releaseThen p k ih => exact ih _
  | callThen e ps k ih => exact ih _ _

@[simp] theorem run_new (o : Obj ν κ) (h : Heap ν κ) : (new o).run K h = K.new o h := rfl

@[simp] theorem run_look (p : Ptr) (h : Heap ν κ) : (look p).run K h = (h.obj p, h) := rfl

@[simp] theorem run_store (c : Ptr) (key : κ) (p : Ptr) (h : Heap ν κ) :
    (store c key p).run K h = K.store c key p h := rfl

@[simp] theorem run_retain (p : Ptr) (h : Heap ν κ) :
    (retain p).run K h = ((), h.retain p) := rfl

@[simp] theorem run_release (p : Ptr) (h : Heap ν κ) :
    (release p).run K h = ((), h.release p) := rfl

@[simp] theorem run_call (e : ε) (ps : List Ptr) (h : Heap ν κ) :
    (call e ps).run K h = K.call e ps h := rfl

@[simp] theorem run_ifSome_none (q : Prog ν κ ε Unit) (h : Heap ν κ) :
    (ifSome none q).run K h = ((), h) := rfl

@[simp] theorem run_ifSome_some (i : Nat) (q : Prog ν κ ε Unit) (h : Heap ν κ) :
    (ifSome (some i) q).run K h = q.run K h := rfl

@[simp] theorem run_load (c : Ptr) (key : κ) (h : Heap ν κ) :
    (load c key).run K h = ((h.obj c).bind fun o => o.entries.lookup key, h) := rfl

theorem safe_bind {K : Kernel ν κ ε} {R : Roots} {p : Prog ν κ ε γ} {f : γ → Prog ν κ ε δ}
    {h : Heap ν κ} :
    (p >>= f).Safe K R h ↔ p.Safe K R h ∧ (f (p.run K h).1).Safe K R (p.run K h).2 := by
  show (p.bind f).Safe K R h ↔ _
  induction p generalizing h with
  | ret x => exact ⟨fun hf => ⟨trivial, hf⟩, And.right⟩
  | newThen o k ih => exact (and_congr_right fun _ => ih _).trans and_assoc.symm
  | lookThen p k ih => exact (and_congr_right fun _ => ih _).trans and_assoc.symm
  | storeThen c key p k ih =>
      refine (and_congr_right fun _ => and_congr_right fun _ => ih _).trans ?_
      exact ⟨fun ⟨hc, hp, hk, hf⟩ => ⟨⟨hc, hp, hk⟩, hf⟩, fun ⟨⟨hc, hp, hk⟩, hf⟩ => ⟨hc, hp, hk, hf⟩⟩
  | retainThen p k ih => exact (and_congr_right fun _ => ih).trans and_assoc.symm
  | releaseThen p k ih => exact (and_congr_right fun _ => ih).trans and_assoc.symm
  | callThen e ps k ih => exact (and_congr_right fun _ => ih _).trans and_assoc.symm

@[simp] theorem calls_bind (p : Prog ν κ ε γ) (f : γ → Prog ν κ ε δ) (h : Heap ν κ) :
    (p >>= f).calls K h = p.calls K h ++ (f (p.run K h).1).calls K (p.run K h).2 := by
  show (p.bind f).calls K h = _
  induction p generalizing h with
  | ret x => rfl
  | newThen o k ih => exact ih _ _
  | lookThen p k ih => exact ih _ _
  | storeThen c key p k ih => exact ih _ _
  | retainThen p k ih => exact ih _
  | releaseThen p k ih => exact ih _
  | callThen e ps k ih => exact congrArg (_ :: ·) (ih _ _)

end Sequence

/-- Objects are never taken away. -/
theorem next_le_run (K : Kernel ν κ ε) (p : Prog ν κ ε γ) (h : Heap ν κ) :
    h.next ≤ (p.run K h).2.next := by
  induction p generalizing h with
  | ret x => exact le_rfl
  | newThen o k ih => exact (K.new_next o h).trans (ih _ _)
  | lookThen p k ih => exact ih _ _
  | storeThen c key p k ih => exact (K.store_next c key p h).ge.trans (ih _ _)
  | retainThen p k ih => exact ih (h.retain p)
  | releaseThen p k ih => exact ih (h.release p)
  | callThen e ps k ih => exact (K.call_next e ps h).trans (ih _ _)

/-- Nor do they turn into others. -/
theorem payload_run {K : Kernel ν κ ε} (hK : K.KeepsPayloads) (p : Prog ν κ ε γ) {h : Heap ν κ}
    {i : Nat} (hi : i < h.next) : (p.run K h).2.payload i = h.payload i := by
  induction p generalizing h with
  | ret x => rfl
  | newThen o k ih =>
      exact (ih _ (hi.trans_le (K.new_next o h))).trans (K.new_payload o hi)
  | lookThen p k ih => exact ih _ hi
  | storeThen c key p k ih =>
      exact (ih _ (hi.trans_eq (K.store_next c key p h).symm)).trans (K.store_payload c key p h i)
  | retainThen p k ih => exact ih (h := h.retain p) hi
  | releaseThen p k ih => exact ih (h := h.release p) hi
  | callThen e ps k ih =>
      exact (ih _ (hi.trans_le (K.call_next e ps h))).trans (hK e ps h i hi)

/-- What is older than the code and no table is left as it is, as long as the calls leave
it so. -/
theorem Safe.cell {K : Kernel ν κ ε} {R : Roots} {i : Nat} (hi : i < R.base)
    (htable : ¬R.table i) (hcall : ∀ e ps h, (K.call e ps h).2.cell i = h.cell i)
    {p : Prog ν κ ε γ} {h : Heap ν κ} (hbase : R.base ≤ h.next) (hsafe : p.Safe K R h) :
    (p.run K h).2.cell i = h.cell i := by
  induction p generalizing h with
  | ret x => rfl
  | newThen o k ih =>
      exact (ih _ (hbase.trans (K.new_next o h)) hsafe.2).trans
        (K.new_cell o (Nat.lt_of_lt_of_le hi hbase))
  | lookThen p k ih => exact ih _ hbase hsafe.2
  | storeThen c key p k ih =>
      obtain ⟨⟨c, rfl, hc⟩, _, hk⟩ := hsafe
      have hne : some c ≠ some i := by
        rintro ⟨⟩
        exact hc.elim (fun hc => Nat.not_le_of_gt hi hc.2) htable
      exact (ih _ (hbase.trans (K.store_next _ key p h).ge) hk).trans (K.store_cell key p h hne)
  | retainThen p k ih => exact ih (h := h.retain p) hbase hsafe.2
  | releaseThen p k ih => exact ih (h := h.release p) hbase hsafe.2
  | callThen e ps k ih =>
      exact (ih _ (hbase.trans (K.call_next e ps h)) hsafe.2).trans (hcall e ps h)

/-! ## Accounts -/

/-- The code has a reference, or the system does. -/
def Has (R : Roots) (S : Multiset Nat) (p : Ptr) : Prop := ∃ i, p = some i ∧ (i ∈ S ∨ R.alive i)

def Writes (R : Roots) (S : Multiset Nat) (c : Ptr) : Prop :=
  ∃ i, c = some i ∧ ((i ∈ S ∧ R.base ≤ i) ∨ R.table i)

/-- Made by the code, if it is not null. -/
def Made (R : Roots) (p : Ptr) : Prop := ∀ i, p = some i → R.base ≤ i

def Spec (K : Kernel ν κ ε) (R : Roots) (S : Multiset Nat) (p : Prog ν κ ε γ)
    (T : γ → Multiset Nat) : Prop :=
  ∀ h F, R.base ≤ h.next → h.own = S + F →
    p.Safe K R h ∧ (p.run K h).2.own = T (p.run K h).1 + F

section Has

variable {R : Roots} {S : Multiset Nat} {p : Ptr}

theorem Has.of_refs (hsome : p.isSome) (hS : refs p ≤ S) : Has R S p := by
  obtain ⟨i, rfl⟩ := Option.isSome_iff_exists.mp hsome
  exact ⟨i, rfl, .inl (Multiset.singleton_le.mp hS)⟩

theorem Has.mono {S' : Multiset Nat} (hp : Has R S p) (hS : S ≤ S') : Has R S' p := by
  obtain ⟨i, rfl, hi⟩ := hp
  exact ⟨i, rfl, hi.imp_left (Multiset.mem_of_le hS)⟩

theorem Has.root {i : Nat} (hi : R.alive i) : Has R S (some i) := ⟨i, rfl, .inr hi⟩

theorem Writes.of_refs (hsome : p.isSome) (hmade : Made R p) (hS : refs p ≤ S) :
    Writes R S p := by
  obtain ⟨i, rfl⟩ := Option.isSome_iff_exists.mp hsome
  exact ⟨i, rfl, .inl ⟨Multiset.singleton_le.mp hS, hmade i rfl⟩⟩

theorem Writes.table {i : Nat} (hi : R.table i) : Writes R S (some i) := ⟨i, rfl, .inr hi⟩

theorem Writes.has (hp : Writes R S p) : Has R S p := by
  obtain ⟨i, rfl, hi | hi⟩ := hp
  · exact ⟨i, rfl, .inl hi.1⟩
  · exact ⟨i, rfl, .inr (R.table_alive i hi)⟩

theorem Writes.add (hp : Writes R S p) (S' : Multiset Nat) : Writes R (S' + S) p := by
  obtain ⟨i, rfl, hi⟩ := hp
  exact ⟨i, rfl, hi.imp_left (And.imp_left fun hi => Multiset.mem_add.mpr (.inr hi))⟩

theorem refs_le (p : Ptr) (S : Multiset Nat) : refs p ≤ refs p + S := Multiset.le_add_right _ _

end Has

theorem Has.valid {R : Roots} {S F : Multiset Nat} {p : Ptr} (hp : Has R S p) {ν κ : Type}
    {h : Heap ν κ} (hown : h.own = S + F) : h.Valid R p := by
  obtain ⟨i, rfl, hi | hi⟩ := hp
  · exact ⟨i, rfl, .owned (hown ▸ Multiset.mem_add.mpr (.inl hi))⟩
  · exact ⟨i, rfl, .root hi⟩

namespace Spec

variable {K : Kernel ν κ ε} {R : Roots} {S : Multiset Nat}

theorem ret {T : γ → Multiset Nat} {x : γ} (hS : S = T x) :
    Spec K R S (pure x : Prog ν κ ε γ) T :=
  fun _ _ _ hown => ⟨trivial, hS ▸ hown⟩

/-- The end of a block. -/
theorem done : Spec K R S (pure () : Prog ν κ ε Unit) fun _ => S := .ret rfl

theorem bind {p : Prog ν κ ε γ} {f : γ → Prog ν κ ε δ} {T : γ → Multiset Nat}
    {U : δ → Multiset Nat} (hp : Spec K R S p T) (hf : ∀ x, Spec K R (T x) (f x) U) :
    Spec K R S (p >>= f) U := by
  intro h F hbase hown
  obtain ⟨hsafe, hown⟩ := hp h F hbase hown
  obtain ⟨hsafe', hown'⟩ := hf _ _ F (hbase.trans (next_le_run K p h)) hown
  rw [run_bind]
  exact ⟨safe_bind.mpr ⟨hsafe, hsafe'⟩, hown'⟩

theorem new {o : Obj ν κ} (ho : o.entries = []) :
    Spec K R S (Prog.new o : Prog ν κ ε Ptr) fun p => refs p + S := by
  intro h F _ hown
  refine ⟨⟨fun kv hkv => absurd (ho ▸ hkv) List.not_mem_nil, trivial⟩, ?_⟩
  rw [run_new, K.new_own, hown, add_assoc]

/-- A new object can be stored into. -/
theorem new_made {f : Ptr → Prog ν κ ε γ} {T : γ → Multiset Nat}
    (hf : ∀ p, Made R p → Spec K R (refs p + S) (f p) T) (h : Heap ν κ) (F : Multiset Nat)
    (hbase : R.base ≤ h.next) (hown : h.own = S + F) (o : Obj ν κ) :
    (f (K.new o h).1).Safe K R (K.new o h).2 ∧
      ((f (K.new o h).1).run K (K.new o h).2).2.own =
        T ((f (K.new o h).1).run K (K.new o h).2).1 + F := by
  have hmade : Made R (K.new o h).1 := by
    intro i hi
    rcases K.new_cases o h with hnew | hnew <;> rw [hnew] at hi <;> cases hi
    exact hbase
  exact hf _ hmade (K.new o h).2 F (hbase.trans (K.new_next o h))
    (by rw [K.new_own, hown, add_assoc])

theorem new_bind {o : Obj ν κ} {f : Ptr → Prog ν κ ε γ} {T : γ → Multiset Nat}
    (ho : o.entries = []) (hf : ∀ p, Made R p → Spec K R (refs p + S) (f p) T) :
    Spec K R S (Prog.new o >>= f) T := fun h F hbase hown =>
  (new_made hf h F hbase hown o).imp_left fun hsafe =>
    ⟨fun _ hkv => absurd (ho ▸ hkv) List.not_mem_nil, hsafe⟩

theorem look {p : Ptr} (hp : Has R S p) :
    Spec K R S (Prog.look p : Prog ν κ ε _) fun _ => S :=
  fun _ _ _ hown => ⟨⟨hp.valid hown, trivial⟩, hown⟩

theorem store {c p : Ptr} {key : κ} (hc : Writes R S c) (hp : p.isSome → Has R S p) :
    Spec K R S (Prog.store c key p : Prog ν κ ε Bool) fun _ => S := by
  intro h F _ hown
  obtain ⟨i, rfl, hi⟩ := hc
  have hmem : i ∈ S → i ∈ h.own := fun hi => hown ▸ Multiset.mem_add.mpr (.inl hi)
  refine ⟨⟨⟨i, rfl, hi.imp_left (And.imp_left hmem)⟩, fun hsome => (hp hsome).valid hown,
    trivial⟩, ?_⟩
  rw [run_store, K.store_own, hown]

theorem retain {p : Ptr} (hp : Has R S p) :
    Spec K R S (Prog.retain p : Prog ν κ ε Unit) fun _ => refs p + S := by
  intro h F _ hown
  refine ⟨⟨hp.valid hown, trivial⟩, ?_⟩
  rw [add_assoc, ← hown]
  rfl

theorem release {p : Ptr} (hp : p.isSome) :
    Spec K R (refs p + S) (Prog.release p : Prog ν κ ε Unit) fun _ => S := by
  intro h F _ hown
  obtain ⟨i, rfl⟩ := Option.isSome_iff_exists.mp hp
  refine ⟨⟨⟨i, rfl, ?_⟩, trivial⟩, ?_⟩
  · rw [hown, add_assoc]
    exact Multiset.mem_add.mpr (.inl (Multiset.mem_singleton_self i))
  · show h.own - refs (some i) = S + F
    rw [hown, add_assoc, add_tsub_cancel_left]

theorem call {e : ε} {ps : List Ptr} (hps : ∀ p ∈ ps, Has R S p) :
    Spec K R S (Prog.call e ps : Prog ν κ ε Bool) fun _ => S := by
  intro h F _ hown
  refine ⟨⟨fun p hp => (hps p hp).valid hown, trivial⟩, ?_⟩
  rw [run_call, K.call_own, hown]

theorem ite {c : Prop} {_ : Decidable c} {p q : Prog ν κ ε γ} {T : γ → Multiset Nat}
    (hp : c → Spec K R S p T) (hq : ¬c → Spec K R S q T) :
    Spec K R S (if c then p else q) T := by
  split
  · exact hp ‹_›
  · exact hq ‹_›

theorem ifSome {p : Ptr} {q : Prog ν κ ε Unit} (hq : p.isSome → Spec K R S q fun _ => S) :
    Spec K R S (Prog.ifSome p q) fun _ => S :=
  .ite hq fun _ => .done

/-- The block gives up the reference that was tested. -/
theorem ifSome_refs {p : Ptr} {q : Prog ν κ ε Unit}
    (hq : p.isSome → Spec K R (refs p + S) q fun _ => S) :
    Spec K R (refs p + S) (Prog.ifSome p q) fun _ => S := by
  cases p with
  | none =>
      rw [refs_none, zero_add]
      exact .done
  | some i => exact hq rfl

theorem safeRelease {p : Ptr} :
    Spec K R (refs p + S) (Prog.safeRelease p : Prog ν κ ε Unit) fun _ => S :=
  .ifSome_refs .release

/-- What a container has is alive as long as nothing is stored, given up or called. -/
theorem borrow {c : Ptr} {key : κ} {f : Ptr → Prog ν κ ε γ} {T : γ → Multiset Nat}
    (hc : Has R S c)
    (hf : ∀ p (h : Heap ν κ) F, R.base ≤ h.next → h.own = S + F → (p.isSome → h.Valid R p) →
      (f p).Safe K R h ∧ ((f p).run K h).2.own = T ((f p).run K h).1 + F) :
    Spec K R S (Prog.load c key >>= f) T := by
  intro h F hbase hown
  obtain ⟨i, rfl, hlive⟩ := hc.valid hown
  rw [run_bind, run_load, safe_bind]
  refine (hf _ h F hbase hown ?_).imp_left fun hsafe => ⟨⟨⟨i, rfl, hlive⟩, trivial⟩, hsafe⟩
  intro hsome
  obtain ⟨j, hj⟩ := Option.isSome_iff_exists.mp hsome
  obtain ⟨o, ho, hlookup⟩ := Option.bind_eq_some_iff.mp hj
  exact ⟨j, hj, .held hlive ho (Assoc.mem_of_lookup hlookup)⟩

end Spec

end Prog

end Ownership

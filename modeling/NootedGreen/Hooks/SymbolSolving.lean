/-
# `Hooks.SymbolSolving` — addresses by symbol or by pattern

A `SolveRequestPlus` names a symbol, a slot for its address and possibly a pattern to fall
back on.  `solve` stores

    the address of the symbol                         if there is one
    the image's address plus the offset of a match    if there is a pattern that is found
    0                                                 otherwise

and says whether it was one of the first two.  A match at the very start of the image is
taken for none: `findPattern` reports the offset in a variable that starts at 0, and 0 is
refused with the failure.  `solveAll` goes through a list up to the first request that fails.

Nothing keeps two requests from naming one slot; it holds what the last of them stored.
`solves_exactly` says all this of every list.

**Assumed of Lilu.**  `solveSymbol` is 0 for a symbol that is not there, and records an
error then, which `solve` clears; `findPattern` reports the lowest offset at which the
pattern occurs, whatever an occurrence under a mask is.
-/
import Mathlib.Logic.Function.Basic
import NootedGreen.Hooks.PatcherPlus

namespace NootedGreen

/-! ## Requests -/

/-- `pattern` comes with its size, and the mask with the same. -/
structure SolveRequestPlus (σ : Type) where
  symbol : String
  /-- The slot; `none` for a null pointer. -/
  address : Option σ
  pattern : Option (List (BitVec 8))
  mask : Option (List (BitVec 8))
  deriving DecidableEq

/-- What Lilu's patcher finds in a kext. -/
structure KernelSymbols where
  /-- By the kext's index and the symbol. -/
  solveSymbol : Nat → String → BitVec 64
  /-- A pattern under a mask occurs in an image at an offset. -/
  OccursAt : List (BitVec 8) → Option (List (BitVec 8)) → Image → Nat → Prop
  findPattern : List (BitVec 8) → Option (List (BitVec 8)) → Image → Option Nat
  lowest : ∀ pattern mask image offset, findPattern pattern mask image = some offset ↔
    OccursAt pattern mask image offset ∧ ∀ o < offset, ¬ OccursAt pattern mask image o

/-- The error the patcher keeps, and what the slots hold. -/
structure SolveState (σ : Type) where
  error : PatcherError
  slots : σ → BitVec 64

section Solve

variable {σ : Type} [DecidableEq σ] (lilu : KernelSymbols) (id : Nat) (address : BitVec 64)
  (image : Image)

def SolveState.store (s : SolveState σ) (slot : σ) (value : BitVec 64) : SolveState σ :=
  { s with slots := Function.update s.slots slot value }

def SolveRequestPlus.solve (request : SolveRequestPlus σ) (s : SolveState σ) :
    Bool × SolveState σ :=
  match request.address with
  | none => (false, s)
  | some slot =>
      let solved := lilu.solveSymbol id request.symbol
      let s := s.store slot solved
      if solved ≠ 0 then (true, s)
      else
        let s := { s with error := .noError }
        match request.pattern with
        | none | some [] => (false, s)
        | some pattern =>
            match lilu.findPattern pattern request.mask image with
            | some offset =>
                if offset = 0 then (false, s)
                else (true, s.store slot (address + BitVec.ofNat 64 offset))
            | none => (false, s)

/-- The first request that fails ends it. -/
def SolveRequestPlus.solveAll : List (SolveRequestPlus σ) → SolveState σ → Bool × SolveState σ
  | [], s => (true, s)
  | request :: requests, s =>
      match request.solve lilu id address image s with
      | (true, s) => solveAll requests s
      | (false, s) => (false, s)

/-! ## What a request resolves to -/

/-- The symbol's address, or that of the lowest match of a pattern that does not occur at the
start. -/
inductive SolveRequestPlus.Resolves (request : SolveRequestPlus σ) : BitVec 64 → Prop
  | symbol : lilu.solveSymbol id request.symbol ≠ 0 →
      Resolves request (lilu.solveSymbol id request.symbol)
  | pattern {pattern : List (BitVec 8)} {offset : Nat} :
      lilu.solveSymbol id request.symbol = 0 →
      request.pattern = some pattern → pattern ≠ [] →
      lilu.OccursAt pattern request.mask image offset →
      (∀ o < offset, ¬ lilu.OccursAt pattern request.mask image o) → offset ≠ 0 →
      Resolves request (address + BitVec.ofNat 64 offset)

/-- The same, computed. -/
def SolveRequestPlus.resolved (request : SolveRequestPlus σ) : Option (BitVec 64) :=
  if lilu.solveSymbol id request.symbol ≠ 0 then some (lilu.solveSymbol id request.symbol)
  else
    match request.pattern with
    | none | some [] => none
    | some pattern =>
        ((lilu.findPattern pattern request.mask image).filter (· ≠ 0)).map fun offset =>
          address + BitVec.ofNat 64 offset

omit [DecidableEq σ] in
theorem SolveRequestPlus.resolved_eq_some_iff (request : SolveRequestPlus σ) (a : BitVec 64) :
    request.resolved lilu id address image = some a ↔
      request.Resolves lilu id address image a := by
  constructor
  · intro h
    rw [SolveRequestPlus.resolved] at h
    split at h
    · next hsymbol =>
        cases h
        exact .symbol hsymbol
    · next hsymbol =>
        split at h
        · cases h
        · cases h
        · next pattern hempty hpattern =>
            obtain ⟨offset, hoffset, rfl⟩ := Option.map_eq_some_iff.mp h
            obtain ⟨hfind, hne⟩ := Option.filter_eq_some_iff.mp hoffset
            obtain ⟨hoccurs, hlowest⟩ := (lilu.lowest _ _ _ _).mp hfind
            exact .pattern (Decidable.not_not.mp hsymbol) hpattern hempty hoccurs hlowest
              (of_decide_eq_true hne)
  · rintro (hsymbol | @⟨pattern, offset, hsymbol, hpattern, hempty, hoccurs, hlowest, hne⟩)
    · rw [SolveRequestPlus.resolved, if_pos hsymbol]
    · have hfind := (lilu.lowest _ _ _ _).mpr ⟨hoccurs, hlowest⟩
      rw [SolveRequestPlus.resolved, if_neg (not_not.mpr hsymbol), hpattern]
      cases pattern with
      | nil => exact absurd rfl hempty
      | cons b bs => simp [hfind, hne]

omit [DecidableEq σ] in
theorem SolveRequestPlus.isSome_resolved_iff (request : SolveRequestPlus σ) :
    (request.resolved lilu id address image).isSome = true ↔
      ∃ a, request.Resolves lilu id address image a := by
  rw [Option.isSome_iff_exists]
  exact exists_congr (request.resolved_eq_some_iff lilu id address image)

/-- `solve` with a slot, in one equation. -/
theorem SolveRequestPlus.solve_eq {request : SolveRequestPlus σ} {slot : σ}
    (hslot : request.address = some slot) (s : SolveState σ) :
    (request.solve lilu id address image s).1 =
        (request.resolved lilu id address image).isSome ∧
      (request.solve lilu id address image s).2.slots =
        Function.update s.slots slot ((request.resolved lilu id address image).getD 0) := by
  rw [SolveRequestPlus.solve, hslot, SolveRequestPlus.resolved]
  dsimp only
  split
  · exact ⟨rfl, rfl⟩
  · next hsymbol =>
      rw [Decidable.not_not.mp hsymbol]
      split
      · exact ⟨rfl, rfl⟩
      · exact ⟨rfl, rfl⟩
      · next pattern hempty hpattern =>
          cases lilu.findPattern pattern request.mask image with
          | none => exact ⟨rfl, rfl⟩
          | some offset =>
              rw [Option.filter_some]
              by_cases hoffset : offset = 0
              · simp only [hoffset, ne_eq, not_true_eq_false, decide_false, if_true]
                exact ⟨rfl, rfl⟩
              · simp only [hoffset, ne_eq, not_false_eq_true, decide_true, if_true, if_false]
                exact ⟨rfl, Function.update_idem _ _ _⟩

/-- A slot holds what a request resolves to, or 0 if it does not resolve. -/
def SolveRequestPlus.Holds (request : SolveRequestPlus σ) (a : BitVec 64) : Prop :=
  request.Resolves lilu id address image a ∨
    (¬ ∃ b, request.Resolves lilu id address image b) ∧ a = 0

omit [DecidableEq σ] in
theorem SolveRequestPlus.holds_resolved (request : SolveRequestPlus σ) :
    request.Holds lilu id address image ((request.resolved lilu id address image).getD 0) := by
  cases hresolved : request.resolved lilu id address image with
  | some a => exact .inl ((request.resolved_eq_some_iff lilu id address image a).mp hresolved)
  | none =>
      refine .inr ⟨?_, rfl⟩
      rw [← request.isSome_resolved_iff, hresolved]
      exact Bool.false_ne_true

/-! ## Lists of requests -/

/-- The requests `done` have been stored over `slots`, and nothing else: a slot holds what
the last of them that names it resolves to. -/
structure Stored (done : List (SolveRequestPlus σ)) (slots after : σ → BitVec 64) : Prop where
  last : ∀ earlier request later slot, done = earlier ++ request :: later →
    request.address = some slot → (∀ r ∈ later, r.address ≠ some slot) →
    request.Holds lilu id address image (after slot)
  untouched : ∀ slot, (∀ r ∈ done, r.address ≠ some slot) → after slot = slots slot

omit [DecidableEq σ] in
theorem Stored.nil (slots : σ → BitVec 64) : Stored lilu id address image [] slots slots where
  last earlier request later slot h := absurd h (by simp)
  untouched _ _ := rfl

/-- One more before them. -/
theorem Stored.cons {request : SolveRequestPlus σ} {slot : σ}
    (hslot : request.address = some slot) {done : List (SolveRequestPlus σ)}
    {slots after : σ → BitVec 64}
    (h : Stored lilu id address image done
      (Function.update slots slot ((request.resolved lilu id address image).getD 0)) after) :
    Stored lilu id address image (request :: done) slots after where
  last earlier r later slot' hsplit hr hlater := by
    rcases List.cons_eq_append_iff.mp hsplit with ⟨rfl, hhead⟩ | ⟨earlier', rfl, hdone⟩
    · -- the new one, and none behind it names its slot
      obtain ⟨rfl, rfl⟩ := List.cons.inj hhead
      obtain rfl : slot = slot' := Option.some.inj (hslot.symm.trans hr)
      rw [h.untouched slot hlater, Function.update_self]
      exact SolveRequestPlus.holds_resolved lilu id address image _
    · exact h.last earlier' r later slot' hdone hr hlater
  untouched slot' hnone := by
    obtain ⟨hhead, hdone⟩ := List.forall_mem_cons.mp hnone
    have hne : slot' ≠ slot := fun heq => hhead (heq ▸ hslot)
    rw [h.untouched slot' hdone, Function.update_of_ne hne]

/-- The first request of a list. -/
theorem SolveRequestPlus.solveAll_cons {request : SolveRequestPlus σ}
    (hnull : request.address ≠ none) (requests : List (SolveRequestPlus σ))
    (s : SolveState σ) : ∃ slot error, request.address = some slot ∧
    solveAll lilu id address image (request :: requests) s =
      if (request.resolved lilu id address image).isSome
        then solveAll lilu id address image requests ⟨error, Function.update s.slots slot
          ((request.resolved lilu id address image).getD 0)⟩
        else (false, ⟨error, Function.update s.slots slot
          ((request.resolved lilu id address image).getD 0)⟩) := by
  obtain ⟨slot, hslot⟩ := Option.ne_none_iff_exists'.mp hnull
  obtain ⟨hresult, hslots⟩ := request.solve_eq lilu id address image hslot s
  refine ⟨slot, (request.solve lilu id address image s).2.error, hslot, ?_⟩
  rw [solveAll, ← hresult, ← hslots]
  generalize request.solve lilu id address image s = r
  obtain ⟨result, s'⟩ := r
  cases result <;> rfl

theorem SolveRequestPlus.solveAll_result {requests : List (SolveRequestPlus σ)}
    (hslots : ∀ request ∈ requests, request.address ≠ none) (s : SolveState σ) :
    (solveAll lilu id address image requests s).1 = true ↔
      ∀ request ∈ requests, ∃ a, request.Resolves lilu id address image a := by
  induction requests generalizing s with
  | nil => exact iff_of_true rfl fun r hr => absurd hr List.not_mem_nil
  | cons request requests ih =>
      obtain ⟨hhead, htail⟩ := List.forall_mem_cons.mp hslots
      obtain ⟨slot, error, -, hall⟩ := request.solveAll_cons lilu id address image hhead requests s
      rw [hall, List.forall_mem_cons, ← request.isSome_resolved_iff]
      split
      · next hsome => exact (ih htail _).trans (and_iff_right hsome).symm
      · next hnone => exact iff_of_false Bool.false_ne_true fun h => hnone h.1

/-- If all resolve, all are stored. -/
theorem SolveRequestPlus.stored_of_resolves {requests : List (SolveRequestPlus σ)}
    (hslots : ∀ request ∈ requests, request.address ≠ none)
    (hresolve : ∀ request ∈ requests, ∃ a, request.Resolves lilu id address image a)
    (s : SolveState σ) :
    Stored lilu id address image requests s.slots
      (solveAll lilu id address image requests s).2.slots := by
  induction requests generalizing s with
  | nil => exact Stored.nil lilu id address image s.slots
  | cons request requests ih =>
      obtain ⟨hhead, htail⟩ := List.forall_mem_cons.mp hslots
      obtain ⟨hsome, hrest⟩ := List.forall_mem_cons.mp hresolve
      obtain ⟨slot, error, hslot, hall⟩ := request.solveAll_cons lilu id address image hhead
        requests s
      rw [hall, if_pos ((request.isSome_resolved_iff lilu id address image).mpr hsome)]
      exact Stored.cons lilu id address image hslot (ih htail hrest ⟨error, _⟩)

/-- If one does not, those up to it are. -/
theorem SolveRequestPlus.stored_of_fails {earlier : List (SolveRequestPlus σ)}
    {request : SolveRequestPlus σ} (later : List (SolveRequestPlus σ))
    (hslots : ∀ r ∈ earlier ++ request :: later, r.address ≠ none)
    (hresolve : ∀ r ∈ earlier, ∃ a, r.Resolves lilu id address image a)
    (hfails : ¬ ∃ a, request.Resolves lilu id address image a) (s : SolveState σ) :
    Stored lilu id address image (earlier ++ [request]) s.slots
      (solveAll lilu id address image (earlier ++ request :: later) s).2.slots := by
  induction earlier generalizing s with
  | nil =>
      obtain ⟨slot, error, hslot, hall⟩ := request.solveAll_cons lilu id address image
        (hslots request List.mem_cons_self) later s
      rw [← request.isSome_resolved_iff] at hfails
      simp only [List.nil_append, hall, if_neg hfails]
      exact (Stored.nil lilu id address image _).cons lilu id address image hslot
  | cons r earlier ih =>
      obtain ⟨hhead, htail⟩ := List.forall_mem_cons.mp hslots
      obtain ⟨hsome, hrest⟩ := List.forall_mem_cons.mp hresolve
      obtain ⟨slot, error, hslot, hall⟩ := r.solveAll_cons lilu id address image hhead
        (earlier ++ request :: later) s
      rw [← r.isSome_resolved_iff] at hsome
      simp only [List.cons_append, hall, if_pos hsome]
      exact Stored.cons lilu id address image hslot (ih htail hrest ⟨error, _⟩)

/-! ## Exact resolution -/

/-- What is said of a list of requests: each alone, the result of all, and the slots. -/
structure SolvesExactly (requests : List (SolveRequestPlus σ)) (s : SolveState σ) : Prop where
  result : ∀ request ∈ requests, ∀ t,
    (request.solve lilu id address image t).1 = true ↔
      ∃ a, request.Resolves lilu id address image a
  slot : ∀ request ∈ requests, ∀ t,
    Stored lilu id address image [request] t.slots
      (request.solve lilu id address image t).2.slots
  all : (SolveRequestPlus.solveAll lilu id address image requests s).1 = true ↔
    ∀ request ∈ requests, ∃ a, request.Resolves lilu id address image a
  succeeded : (∀ request ∈ requests, ∃ a, request.Resolves lilu id address image a) →
    Stored lilu id address image requests s.slots
      (SolveRequestPlus.solveAll lilu id address image requests s).2.slots
  failed : ∀ earlier request later, requests = earlier ++ request :: later →
    (∀ r ∈ earlier, ∃ a, r.Resolves lilu id address image a) →
    (¬ ∃ a, request.Resolves lilu id address image a) →
    Stored lilu id address image (earlier ++ [request]) s.slots
      (SolveRequestPlus.solveAll lilu id address image requests s).2.slots

/-- Every list of requests with slots is solved exactly, up to the first that fails. -/
theorem solves_exactly (requests : List (SolveRequestPlus σ)) (s : SolveState σ)
    (hslots : ∀ request ∈ requests, request.address ≠ none) :
    SolvesExactly lilu id address image requests s where
  result request hrequest t := by
    obtain ⟨slot, hslot⟩ := Option.ne_none_iff_exists'.mp (hslots request hrequest)
    rw [(request.solve_eq lilu id address image hslot t).1]
    exact request.isSome_resolved_iff lilu id address image
  slot request hrequest t := by
    obtain ⟨slot, hslot⟩ := Option.ne_none_iff_exists'.mp (hslots request hrequest)
    rw [(request.solve_eq lilu id address image hslot t).2]
    exact (Stored.nil lilu id address image _).cons lilu id address image hslot
  all := SolveRequestPlus.solveAll_result lilu id address image hslots s
  succeeded hresolve := SolveRequestPlus.stored_of_resolves lilu id address image hslots hresolve s
  failed earlier request later hsplit hresolve hfails := by
    subst hsplit
    exact SolveRequestPlus.stored_of_fails lilu id address image later hslots hresolve hfails s

end Solve

/-! ## A kext, and requests for it -/

/-- The bytes of a pattern at the start of an image, each under its mask. -/
def matchesUnder : List (BitVec 8) → List (BitVec 8) → Image → Bool
  | [], _, _ => true
  | p :: pattern, m :: mask, b :: image =>
      b &&& m == p &&& m && matchesUnder pattern mask image
  | _, _, _ => false

/-- Lilu over a kext with a table of symbols.  Without a mask all bits count. -/
def kextSymbols (table : List (String × BitVec 64)) : KernelSymbols where
  solveSymbol _ symbol := (table.lookup symbol).getD 0
  OccursAt pattern mask image offset := offset < image.length ∧
    matchesUnder pattern (mask.getD (pattern.map fun _ => 0xFF)) (image.drop offset) = true
  findPattern pattern mask image := (List.range image.length).find? fun offset =>
    matchesUnder pattern (mask.getD (pattern.map fun _ => 0xFF)) (image.drop offset)
  lowest pattern mask image offset := by
    rw [List.find?_range_eq_some, List.mem_range]
    constructor
    · rintro ⟨hmatch, hlt, hlowest⟩
      refine ⟨⟨hlt, hmatch⟩, fun o ho hoccurs => ?_⟩
      have hnot := hlowest o ho
      rw [Bool.not_eq_true', hoccurs.2] at hnot
      exact Bool.false_ne_true hnot.symm
    · rintro ⟨⟨hlt, hmatch⟩, hlowest⟩
      refine ⟨hmatch, hlt, fun o ho => ?_⟩
      rw [Bool.not_eq_true']
      exact eq_false_of_ne_true fun hoccurs => hlowest o ho ⟨ho.trans hlt, hoccurs⟩

/-- `push rbp; mov rbp, rsp`, and a return. -/
def prologue : Image := [0x55, 0x48, 0x89, 0xE5, 0xC3]

def startRequest : SolveRequestPlus Unit := ⟨"_start", some (), some [0x55, 0x48], none⟩

/-- A match inside the image is solved. -/
theorem return_solved : SolvesExactly (kextSymbols []) 0 0x1000 prologue
    [⟨"_return", some (), some [0xC3], none⟩] ⟨.noError, fun _ => 0⟩ :=
  solves_exactly _ _ _ _ _ _ (by decide)

/-- A match at its start is not; and of two requests for one slot the second counts. -/
theorem startMatch_refused_sharedSlot :
    ((kextSymbols []).OccursAt [0x55, 0x48] none prologue 0 ∧
      (startRequest.solve (kextSymbols []) 0 0x1000 prologue ⟨.noError, fun _ => 0⟩).1 =
        false) ∧
    (SolveRequestPlus.solveAll (kextSymbols [("_a", 0x1000), ("_b", 0x2000)]) 0 0x1000 prologue
        [⟨"_a", some (), none, none⟩, ⟨"_b", some (), none, none⟩]
        ⟨.noError, fun _ => 0⟩).2.slots () = 0x2000 := by
  refine ⟨⟨⟨by decide, by decide⟩, by decide⟩, by decide⟩

end NootedGreen

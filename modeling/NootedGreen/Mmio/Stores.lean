/-
# `Mmio.Stores` — which dwords a piece of code stores to, and what

`Stores A s t` says that the code that took the window from `s` to `t` stored to dword `i`
the value `v` only where `A i v`.  It is reflexive and transitive, so a long piece of code
is taken apart into its reads and writes:

    readReg32     stores to `mmPCIE_INDEX2`, and that only past the end of the mapping
    writeReg32    at a mapped register, with a value its guard lets through, stores that

A register that no store reaches keeps its value (`Stores.dword_eq`, `Stores.get_eq`).
-/
import NootedGreen.Mmio.Access

namespace NootedGreen

namespace Mmio

/-- From `s` to `t` there are only stores that `A` allows. -/
structure Stores (A : Nat → BitVec 32 → Prop) (s t : Mmio) : Prop where
  rmmio : t.rmmio = s.rmmio
  bytes : ∀ b, (∀ v, ¬ A (b / 4) v) → t.rmmioPtr b = s.rmmioPtr b
  trace : ∃ es, t.trace = es ++ s.trace ∧ ∀ i v before, .store i v before ∈ es → A i v

variable {A B : Nat → BitVec 32 → Prop} {s t u : Mmio}

theorem Stores.refl (s : Mmio) : Stores A s s :=
  ⟨rfl, fun _ _ => rfl, [], rfl, fun _ _ _ h => absurd h List.not_mem_nil⟩

theorem Stores.trans (h : Stores A s t) (h' : Stores A t u) : Stores A s u := by
  obtain ⟨es, htrace, hes⟩ := h.trace
  obtain ⟨es', htrace', hes'⟩ := h'.trace
  refine ⟨h'.rmmio.trans h.rmmio, fun b hb => (h'.bytes b hb).trans (h.bytes b hb), es' ++ es, ?_,
    fun i v before hmem => ?_⟩
  · rw [htrace', htrace, List.append_assoc]
  · rcases List.mem_append.mp hmem with hmem | hmem
    · exact hes' i v before hmem
    · exact hes i v before hmem

theorem Stores.mono (h : Stores A s t) (hAB : ∀ i v, A i v → B i v) : Stores B s t := by
  obtain ⟨es, htrace, hes⟩ := h.trace
  refine ⟨h.rmmio, fun b hb => h.bytes b fun v hv => hb v (hAB _ v hv), es, htrace, ?_⟩
  exact fun i v before hmem => hAB i v (hes i v before hmem)

theorem stores_log (s : Mmio) {e : Event} (he : ∀ i v before, e ≠ .store i v before) :
    Stores A s (s.log e) := by
  refine ⟨rfl, fun _ _ => rfl, [e], rfl, fun i v before hmem => ?_⟩
  exact absurd (List.mem_singleton.mp hmem).symm (he i v before)

theorem stores_poke (s : Mmio) {i : Nat} {v : BitVec 32} (hA : A i v) :
    Stores A s (s.poke i v) := by
  refine ⟨rfl, fun b hb => ?_, [.store i v s.rmmioPtr], rfl, fun j u before hmem => ?_⟩
  · have hne : b / 4 ≠ i := fun heq => hb v (heq ▸ hA)
    exact ByteMem.store_outside s.rmmioPtr v (by omega)
  · cases List.mem_singleton.mp hmem
    exact hA

/-! ## What is not stored to -/

theorem Stores.load32_eq (h : Stores A s t) {i : Nat} (hi : ∀ v, ¬ A i v) :
    t.rmmioPtr.load32 (4 * i) = s.rmmioPtr.load32 (4 * i) := by
  refine ByteMem.load32_congr fun b hb hb' => h.bytes b ?_
  have hindex : b / 4 = i := by omega
  rw [hindex]
  exact hi

theorem Stores.dword_eq (h : Stores A s t) {reg : BitVec 64} (hreg : ∀ v, ¬ A (reg >>> 2).toNat v) :
    t.dword reg = s.dword reg :=
  h.load32_eq hreg

/-- What a read returns, mapped or not. -/
theorem Stores.get_eq (h : Stores A s t) {reg : BitVec 64} (hreg : ∀ v, ¬ A (reg >>> 2).toNat v)
    (hdata : ∀ v, ¬ A mmPCIE_DATA2 v) : t.get reg = s.get reg := by
  cases hlen : s.rmmio with
  | none =>
      have hlen' := h.rmmio.trans hlen
      simp only [get, readReg32, hlen, hlen']
  | some length =>
      have hlen' := h.rmmio.trans hlen
      by_cases hle : reg + 4 ≤ length
      · rw [get, get, readReg32_direct hlen hle, readReg32_direct hlen' hle]
        exact h.dword_eq hreg
      · rw [get, get, readReg32_indirect hlen hle, readReg32_indirect hlen' hle]
        simp only [peek, poke_rmmioPtr]
        rw [ByteMem.load32_store_disjoint _ _ (by decide),
          ByteMem.load32_store_disjoint _ _ (by decide)]
        exact h.load32_eq hdata

/-! ## The accessors -/

theorem readReg32_stores (hA : ∀ v, A mmPCIE_INDEX2 v) (reg : BitVec 64) (s : Mmio) :
    Stores A s (readReg32 reg s).2 := by
  have hload : ∀ (s : Mmio) i, Stores A s (s.log (.load i)) :=
    fun s i => stores_log s fun _ _ _ h => by cases h
  rw [readReg32]
  split
  · exact .refl s
  · split
    · exact hload s _
    · exact (stores_poke s (hA _)).trans (hload _ _)

theorem writeReg32_stores {reg : BitVec 64} {val : BitVec 32} (hmap : s.Mapped reg)
    (hg : ¬ (looksLikePlaneSurf reg = true ∧ val = 0)) (hA : A (reg >>> 2).toNat val) :
    Stores A s (writeReg32 reg val s) := by
  rw [writeReg32_plain hmap hg]
  exact (stores_log s fun _ _ _ h => by cases h).trans (stores_poke _ hA)

theorem writeReg32_dword {reg : BitVec 64} {val : BitVec 32} (hmap : s.Mapped reg)
    (hg : ¬ (looksLikePlaneSurf reg = true ∧ val = 0)) :
    (writeReg32 reg val s).dword reg = val := by
  rw [writeReg32_plain hmap hg, dword, poke_rmmioPtr, ByteMem.load32_store_same]

end Mmio

end NootedGreen

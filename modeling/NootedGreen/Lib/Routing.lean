/-
# `Lib.Routing` — entry points redirected one after another

An address is entered at what `entry` says: its own code at first, a replacement
once it has been redirected.  `route (h, a)` redirects `a` to the replacement `h`
and keeps in `h`'s slot what `a` was entered at just before; `h` goes on through
its slot when it calls what it replaced.

    Path s t gs u    from the entry point t, through the slots of the
                     replacements gs in turn, control comes to u

A list of routes in which no replacement occurs twice leaves every replacement
once on a path to the code it replaced (`linked_of_nodup`), also when several of
them share an address.  A replacement routed a second time at its address has
itself behind its slot, and comes to no code at all (`not_linked_of_again`).
-/
import Mathlib.Logic.Function.Basic
import Mathlib.Data.List.Count
import Mathlib.Data.List.Nodup
import NootedGreen.Lib.Runs

/-- Where control goes: the code that lies at an address, or a replacement. -/
inductive Target (α η : Type*) where
  | own (a : α)
  | hook (h : η)

/-- The entry point of every address and the slot of every replacement. -/
structure Routing (α η : Type*) where
  entry : α → Target α η
  slot : η → Option (Target α η)

namespace Routing

variable {α η : Type*}

/-- Nothing redirected. -/
def initial : Routing α η where
  entry := .own
  slot := fun _ => none

def route [DecidableEq α] [DecidableEq η] (p : η × α) (s : Routing α η) : Routing α η where
  entry := Function.update s.entry p.2 (.hook p.1)
  slot := Function.update s.slot p.1 (some (s.entry p.2))

/-- The state a list of routes leaves. -/
abbrev routed [DecidableEq α] [DecidableEq η] (routes : List (η × α)) : Routing α η :=
  Runs.run route routes initial

/-- From `t` control goes through the slots of the listed replacements to `u`. -/
inductive Path (s : Routing α η) : Target α η → List η → Target α η → Prop
  | here (t) : Path s t [] t
  | step {g t gs u} : s.slot g = some t → Path s t gs u → Path s (.hook g) (g :: gs) u

/-- `h` stands once between `a` and the code at `a`: entering `a` comes to that code
through `h` once, and through `h`'s slot without coming to `h` again. -/
structure Linked [DecidableEq η] (s : Routing α η) (h : η) (a : α) : Prop where
  slot : ∃ t, s.slot h = some t ∧ ∃ gs, Path s t gs (.own a) ∧ h ∉ gs
  entry : ∃ gs, Path s (s.entry a) gs (.own a) ∧ gs.count h = 1

/-! ## Paths -/

section Paths

variable {s : Routing α η} {t u : Target α η} {gs : List η} {h : η} {a : α}

/-- The part of a path up to the first visit of `h`. -/
theorem Path.to_first [DecidableEq η] (hp : Path s t gs u) (hh : h ∈ gs) :
    ∃ fs, Path s t fs (.hook h) ∧ h ∉ fs ∧ fs ⊆ gs := by
  induction hp with
  | here => exact absurd hh List.not_mem_nil
  | @step g t gs u hslot _ ih =>
      by_cases hg : h = g
      · exact ⟨[], hg ▸ .here _, List.not_mem_nil, List.nil_subset _⟩
      · obtain ⟨fs, hfs, hnot, hsub⟩ := ih ((List.mem_cons.mp hh).resolve_left hg)
        exact ⟨g :: fs, .step hslot hfs, List.not_mem_cons_of_ne_of_not_mem hg hnot,
          List.cons_subset_cons g hsub⟩

/-- Slots leave no choice: a replacement that one path comes to lies on every path from
there to code. -/
theorem Path.mem_of_hook (hp : Path s t gs (.hook h)) :
    ∀ {fs : List η}, Path s t fs (.own a) → h ∈ fs := by
  generalize hu : Target.hook h = u at hp
  induction hp with
  | here t =>
      intro fs hfs
      subst hu
      cases hfs with
      | step _ _ => exact List.mem_cons_self
  | step hslot _ ih =>
      intro fs hfs
      cases hfs with
      | step hslot' hfs' =>
          cases Option.some.inj (hslot.symm.trans hslot')
          exact List.mem_cons_of_mem _ (ih hu hfs')

variable [DecidableEq α] [DecidableEq η]

theorem route_slot_other {p : η × α} (hne : h ≠ p.1) : (route p s).slot h = s.slot h :=
  Function.update_of_ne hne _ _

theorem route_slot_same (h : η) (a : α) (s : Routing α η) :
    (route (h, a) s).slot h = some (s.entry a) :=
  Function.update_self _ _ _

/-- A path that does not use `h`'s slot survives a route of `h`. -/
theorem Path.route {p : η × α} (hp : Path s t gs u) (hgs : p.1 ∉ gs) :
    Path (route p s) t gs u := by
  induction hp with
  | here t => exact .here t
  | step hslot _ ih =>
      have hne := List.ne_of_not_mem_cons hgs
      exact .step ((route_slot_other hne.symm).trans hslot)
        (ih (List.not_mem_of_not_mem_cons hgs))

end Paths

/-! ## No replacement twice -/

section Distinct

variable [DecidableEq α] [DecidableEq η] {s : Routing α η} {done routes : List (η × α)}

/-- What holds after the routes `done`, no replacement occurring twice among them. -/
structure Sound (s : Routing α η) (done : List (η × α)) : Prop where
  entry : ∀ a, ∃ gs, Path s (s.entry a) gs (.own a) ∧ gs.Nodup ∧ gs ⊆ done.map Prod.fst ∧
    ∀ h, (h, a) ∈ done → h ∈ gs
  slot : ∀ p ∈ done, ∃ t, s.slot p.1 = some t ∧
    ∃ gs, Path s t gs (.own p.2) ∧ p.1 ∉ gs ∧ gs ⊆ done.map Prod.fst

omit [DecidableEq α] [DecidableEq η] in
theorem sound_initial : Sound (initial : Routing α η) [] where
  entry := fun _ => ⟨[], .here _, List.nodup_nil, List.nil_subset _,
    fun _ h => absurd h List.not_mem_nil⟩
  slot := fun _ h => absurd h List.not_mem_nil

theorem Sound.route {p : η × α} (hs : Sound s done) (hp : p.1 ∉ done.map Prod.fst) :
    Sound (route p s) (p :: done) := by
  obtain ⟨h, a⟩ := p
  have hsub : done.map Prod.fst ⊆ ((h, a) :: done).map Prod.fst := List.subset_cons_self _ _
  constructor
  · intro b
    obtain ⟨gs, hpath, hnd, hgs, hmem⟩ := hs.entry b
    have hnot : h ∉ gs := fun hh => hp (hgs hh)
    by_cases hb : b = a
    -- the address routed now: `h`, then what was there before
    · subst hb
      refine ⟨h :: gs, ?_, List.nodup_cons.mpr ⟨hnot, hnd⟩, List.cons_subset_cons h hgs, ?_⟩
      · show Path _ (Function.update s.entry b (.hook h) b) _ _
        rw [Function.update_self]
        exact .step (route_slot_same h b s) (hpath.route hnot)
      · intro g hg
        rcases List.mem_cons.mp hg with hg | hg
        · exact (Prod.mk.inj hg).1 ▸ List.mem_cons_self
        · exact List.mem_cons_of_mem _ (hmem g hg)
    · refine ⟨gs, ?_, hnd, List.Subset.trans hgs hsub, ?_⟩
      · show Path _ (Function.update s.entry a (.hook h) b) _ _
        rw [Function.update_of_ne hb]
        exact hpath.route hnot
      · intro g hg
        rcases List.mem_cons.mp hg with hg | hg
        · exact absurd (Prod.mk.inj hg).2 hb
        · exact hmem g hg
  · intro q hq
    rcases List.mem_cons.mp hq with rfl | hq
    · obtain ⟨gs, hpath, _, hgs, _⟩ := hs.entry a
      have hnot : h ∉ gs := fun hh => hp (hgs hh)
      exact ⟨_, route_slot_same h a s, gs, hpath.route hnot, hnot, List.Subset.trans hgs hsub⟩
    · obtain ⟨t, hslot, gs, hpath, hnot, hgs⟩ := hs.slot q hq
      have hdone : q.1 ∈ done.map Prod.fst := List.mem_map_of_mem hq
      have hne : q.1 ≠ h := fun e => hp (e ▸ hdone)
      exact ⟨t, (route_slot_other hne).trans hslot, gs, hpath.route fun hh => hp (hgs hh),
        hnot, List.Subset.trans hgs hsub⟩

theorem Sound.run (hs : Sound s done) (hnd : (routes.map Prod.fst).Nodup)
    (hnew : ∀ p ∈ routes, p.1 ∉ done.map Prod.fst) :
    Sound (Runs.run Routing.route routes s) (routes.reverse ++ done) := by
  induction routes generalizing s done with
  | nil => exact hs
  | cons p routes ih =>
      obtain ⟨hp, hnd⟩ := List.nodup_cons.mp hnd
      rw [List.reverse_cons, List.append_assoc]
      refine ih (hs.route (hnew p List.mem_cons_self)) hnd ?_
      intro q hq
      refine List.not_mem_cons_of_ne_of_not_mem ?_ (hnew q (List.mem_cons_of_mem _ hq))
      exact fun e => hp (e ▸ List.mem_map_of_mem hq)

theorem sound_routed (hnd : (routes.map Prod.fst).Nodup) :
    Sound (routed routes) routes.reverse := by
  have := sound_initial.run hnd fun _ _ => List.not_mem_nil
  rwa [List.append_nil] at this

/-- Replacements routed once each are all linked, whatever addresses they share. -/
theorem linked_of_nodup (hnd : (routes.map Prod.fst).Nodup) :
    ∀ p ∈ routes, Linked (routed routes) p.1 p.2 := by
  intro p hp
  have hs := sound_routed hnd
  have hp' := List.mem_reverse.mpr hp
  obtain ⟨t, hslot, gs, hpath, hnot, _⟩ := hs.slot p hp'
  obtain ⟨fs, hentry, hfs, _, hmem⟩ := hs.entry p.2
  exact ⟨⟨t, hslot, gs, hpath, hnot⟩, fs, hentry, List.count_eq_one_of_mem hfs (hmem p.1 hp')⟩

/-! ## A replacement routed again -/

/-- `h`'s slot leads back to `h`, through replacements among `gs`. -/
def Loops (s : Routing α η) (h : η) (gs : List η) : Prop :=
  ∃ t, s.slot h = some t ∧ ∃ fs, Path s t fs (.hook h) ∧ h ∉ fs ∧ fs ⊆ gs

omit [DecidableEq α] in
theorem Loops.not_linked {h : η} {gs : List η} (hl : Loops s h gs) (a : α) : ¬ Linked s h a := by
  rintro ⟨⟨t, hslot, fs, hpath, hnot⟩, _⟩
  obtain ⟨t', hslot', _, hback, _, _⟩ := hl
  cases Option.some.inj (hslot.symm.trans hslot')
  exact hnot (hback.mem_of_hook hpath)

/-- The second route at the same address closes the loop. -/
theorem Sound.loops_again {h : η} {a : α} (hs : Sound s done) (hmem : (h, a) ∈ done) :
    Loops (Routing.route (h, a) s) h (done.map Prod.fst) := by
  obtain ⟨gs, hpath, _, hgs, hall⟩ := hs.entry a
  obtain ⟨fs, hback, hnot, hfs⟩ := hpath.to_first (hall h hmem)
  exact ⟨_, route_slot_same h a s, fs, hback.route hnot, hnot, List.Subset.trans hfs hgs⟩

/-- Routes of other replacements leave the loop as it is. -/
theorem Loops.run {h : η} {gs : List η} (hh : h ∈ gs) (hl : Loops s h gs)
    (hnew : ∀ p ∈ routes, p.1 ∉ gs) : Loops (Runs.run Routing.route routes s) h gs := by
  induction routes generalizing s with
  | nil => exact hl
  | cons p routes ih =>
      obtain ⟨hp, hnew⟩ := List.forall_mem_cons.mp hnew
      obtain ⟨t, hslot, fs, hback, hnot, hfs⟩ := hl
      have hne : h ≠ p.1 := fun e => hp (e ▸ hh)
      exact ih ⟨t, (route_slot_other hne).trans hslot, fs, hback.route fun hf => hp (hfs hf),
        hnot, hfs⟩ hnew

/-- A replacement routed twice at an address is not linked, whatever else is routed
before, between and after. -/
theorem not_linked_of_again {before after : List (η × α)} {h : η} {a : α}
    (hnd : (before.map Prod.fst).Nodup) (hmem : (h, a) ∈ before)
    (hnew : ∀ p ∈ after, p.1 ∉ before.map Prod.fst) :
    ¬ Linked (routed (before ++ (h, a) :: after)) h a := by
  have hs := (sound_routed hnd).loops_again (List.mem_reverse.mpr hmem)
  rw [List.map_reverse] at hs
  rw [routed, Runs.run_append]
  have hh := List.mem_reverse.mpr (List.mem_map_of_mem (f := Prod.fst) hmem)
  have hloops := hs.run hh fun p hp hin => hnew p hp (List.mem_reverse.mp hin)
  exact hloops.not_linked a

end Distinct

end Routing

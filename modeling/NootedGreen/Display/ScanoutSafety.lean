/-
# `Display.ScanoutSafety` — what the scanout fill may touch

The GGTT is the upper half of BAR0, one entry of eight bytes for each page.  The fill of
`Display.ScanoutFill` does not compare the index of a page with its length.  A surface in the
last 16 MB of the address space runs off the end; there `readReg32` goes through the
index/data pair, and the fill takes what is in the data register for an entry.

`scanout_fill_safe_iff`: except for that, whatever the table holds and whichever allocation
fails,

    counts            every page is filled, failed or skipped
    writes, changed   memory is stored to in the pages of valid entries that are not low
    fills             such a page, if it can be mapped, is in one colour from end to end
    released          every descriptor and mapping is given back once
    surf              PLANE_SURF gets its own value back, after a page was filled
    planCtl           PLANE_CTL is as it was before the toggle
-/
import NootedGreen.Display.ScanoutFill
import NootedGreen.Lib.Bits
import NootedGreen.Lib.Observations

namespace NootedGreen

open Mmio Observations

/-! ## Entries -/

/-- The valid bit is in the lower half. -/
theorem pteOf_valid (lo hi : BitVec 32) : pteOf lo hi &&& 1 = 0 ↔ lo &&& 1 = 0 := by
  have hbit : (pteOf lo hi).getLsbD 0 = lo.getLsbD 0 := by
    simp [pteOf]
  have hpte : pteOf lo hi &&& 1 = 0 ↔ (pteOf lo hi).getLsbD 0 = false :=
    Bits.and_twoPow_eq_zero_iff (i := 0) _ (by decide)
  have hlo : lo &&& 1 = 0 ↔ lo.getLsbD 0 = false :=
    Bits.and_twoPow_eq_zero_iff (i := 0) _ (by decide)
  rw [hpte, hlo, hbit]

/-- Pages are aligned. -/
theorem ptePhys_mod (pte : BitVec 64) : (ptePhys pte).toNat % 4096 = 0 := by
  rw [ptePhys, BitVec.toNat_and]
  have h : (pte.toNat &&& (0x0000FFFFFFFFF000 : BitVec 64).toNat) % 2 ^ 12 =
      (pte.toNat % 2 ^ 12) &&& ((0x0000FFFFFFFFF000 : BitVec 64).toNat % 2 ^ 12) :=
    Nat.and_mod_two_pow
  have hmask : (0x0000FFFFFFFFF000 : BitVec 64).toNat % 2 ^ 12 = 0 := by decide
  rw [hmask, Nat.and_zero] at h
  exact h

theorem pageExit_filled_iff {world : FillWorld} {p : Nat} {lo hi : BitVec 32}
    {phys : BitVec 64} :
    pageExit world p lo hi = .filled phys ↔
      lo &&& 1 ≠ 0 ∧ 0x40000000 ≤ ptePhys (pteOf lo hi) ∧
        world.withPhysicalAddress p = true ∧ world.createMappingInTask p = true ∧
        ptePhys (pteOf lo hi) = phys := by
  generalize hphys : ptePhys (pteOf lo hi) = phys'
  have hzero : (0x40000000 : BitVec 64) ≤ phys' → phys' ≠ 0 := by
    rintro hle rfl
    exact absurd hle (by decide)
  simp only [pageExit, hphys]
  constructor
  · intro h
    split at h
    · cases h
    · next hvalid =>
        split at h
        · cases h
        · next hhigh =>
            split at h
            · cases h
            · next hdesc =>
                split at h
                · next hmap =>
                    cases h
                    exact ⟨fun h => hvalid (.inl h), BitVec.not_lt.mp hhigh,
                      Bool.of_not_eq_false hdesc, hmap, rfl⟩
                · cases h
  · rintro ⟨hvalid, hhigh, hdesc, hmap, rfl⟩
    rw [if_neg (not_or.mpr ⟨hvalid, hzero hhigh⟩), if_neg (BitVec.not_lt.mpr hhigh), hdesc,
      if_neg Bool.false_ne_true.symm, if_pos hmap]

/-! ## Events -/

/-- The page an object is made for. -/
def FillObject.page : FillObject → Nat
  | .descriptor p => p
  | .mapping p => p

def FillEvent.page : FillEvent → Nat
  | .create o => o.page
  | .write p _ _ _ => p
  | .release o => o.page

section Events

variable {e : PageExit} {q : Nat}

theorem mem_pageWrites {phys : BitVec 64} {event : FillEvent} :
    event ∈ pageWrites q phys ↔ ∃ px < 1024, event = .write q px phys (bandColor q) := by
  simp only [pageWrites, List.mem_map, List.mem_range, eq_comm]

theorem write_mem_events {p px : Nat} {phys : BitVec 64} {color : BitVec 32} :
    .write p px phys color ∈ e.events q ↔
      p = q ∧ e = .filled phys ∧ px < 1024 ∧ color = bandColor q := by
  cases e with
  | failed => simp [PageExit.events]
  | skipped => simp [PageExit.events]
  | unmapped => simp [PageExit.events]
  | filled phys' =>
      simp only [PageExit.events, List.mem_append, List.mem_cons, List.not_mem_nil, or_false,
        mem_pageWrites, FillEvent.write.injEq, PageExit.filled.injEq, reduceCtorEq, false_or]
      constructor
      · rintro ⟨px', hpx, rfl, rfl, rfl, rfl⟩
        exact ⟨rfl, rfl, hpx, rfl⟩
      · rintro ⟨rfl, rfl, hpx, rfl⟩
        exact ⟨px, hpx, rfl, rfl, rfl, rfl⟩

theorem count_pageWrites {phys : BitVec 64} {event : FillEvent}
    (h : ∀ p px phys color, event ≠ .write p px phys color) :
    (pageWrites q phys).count event = 0 := by
  refine List.count_eq_zero_of_not_mem fun hmem => ?_
  obtain ⟨px, -, heq⟩ := mem_pageWrites.mp hmem
  exact h _ _ _ _ heq

/-- A page has only events of its own. -/
theorem page_of_mem_events {event : FillEvent} (h : event ∈ e.events q) : event.page = q := by
  cases e with
  | failed => cases h
  | skipped => cases h
  | unmapped =>
      simp only [PageExit.events, List.mem_cons, List.not_mem_nil, or_false] at h
      obtain rfl | rfl := h
      · rfl
      · rfl
  | filled phys =>
      simp only [PageExit.events, List.mem_append, List.mem_cons, List.not_mem_nil, or_false,
        mem_pageWrites] at h
      obtain ((rfl | rfl) | ⟨px, -, rfl⟩) | rfl | rfl := h <;> rfl

/-- What it makes it gives back once, and later. -/
theorem released_of_mem_events {o : FillObject} (h : .create o ∈ e.events q) :
    (e.events q).count (.create o) = 1 ∧ (e.events q).count (.release o) = 1 ∧
      [.create o, .release o].Sublist (e.events q) := by
  cases e with
  | failed => cases h
  | skipped => cases h
  | unmapped =>
      simp only [PageExit.events, List.mem_cons, List.not_mem_nil, or_false, reduceCtorEq,
        FillEvent.create.injEq] at h
      subst h
      exact ⟨by simp [PageExit.events], by simp [PageExit.events], List.Sublist.refl _⟩
  | filled phys =>
      simp only [PageExit.events, List.mem_append, List.mem_cons, List.not_mem_nil, or_false,
        mem_pageWrites, reduceCtorEq, and_false, exists_false, FillEvent.create.injEq] at h
      have hcreate : (pageWrites q phys).count (.create o) = 0 :=
        count_pageWrites fun _ _ _ _ h => by cases h
      have hrelease : (pageWrites q phys).count (.release o) = 0 :=
        count_pageWrites fun _ _ _ _ h => by cases h
      simp only [PageExit.events, List.count_append, hcreate, hrelease]
      have hmade : [FillEvent.create o].Sublist
          ([.create (.descriptor q), .create (.mapping q)] ++ pageWrites q phys) := by
        refine (List.singleton_sublist.mpr ?_).trans (List.sublist_append_left _ _)
        obtain rfl | rfl := h <;> simp
      have hback : [FillEvent.release o].Sublist
          [.release (.mapping q), .release (.descriptor q)] := by
        refine List.singleton_sublist.mpr ?_
        obtain rfl | rfl := h <;> simp
      refine ⟨?_, ?_, hmade.append hback⟩
      · obtain rfl | rfl := h <;> simp
      · obtain rfl | rfl := h <;> simp

end Events

/-! ## Memory -/

section Memory

variable {exit : Nat → PageExit}

theorem paint_outside {e : PageExit} {p b : Nat} {memory : ByteMem}
    (h : ∀ phys, e = .filled phys → b < phys.toNat ∨ phys.toNat + 4096 ≤ b) :
    e.paint p memory b = memory b := by
  cases e with
  | filled phys => exact ByteMem.fill32_outside memory _ (h phys rfl)
  | failed => rfl
  | skipped => rfl
  | unmapped => rfl

/-- A byte that is no longer what it was is in a page that was filled. -/
theorem changed_of_paint (ps : List Nat) (memory : ByteMem) {b : Nat}
    (h : ps.foldl (fun memory p => (exit p).paint p memory) memory b ≠ memory b) :
    ∃ p ∈ ps, ∃ phys, exit p = .filled phys ∧ phys.toNat ≤ b ∧ b < phys.toNat + 4096 := by
  induction ps generalizing memory with
  | nil => exact absurd rfl h
  | cons p ps ih =>
      by_cases hrest : ps.foldl (fun memory p => (exit p).paint p memory)
          ((exit p).paint p memory) b = (exit p).paint p memory b
      · rw [List.foldl_cons, hrest] at h
        by_contra hnone
        refine h (paint_outside fun phys hphys => ?_)
        have hnot : ¬ (phys.toNat ≤ b ∧ b < phys.toNat + 4096) :=
          fun hin => hnone ⟨p, List.mem_cons_self, phys, hphys, hin⟩
        omega
      · obtain ⟨q, hq, hfilled⟩ := ih _ hrest
        exact ⟨q, List.mem_cons_of_mem p hq, hfilled⟩

/-- A page that was filled is, after all pages below `n`, in the colour of the last index that
names it. -/
theorem page_uniform (haligned : ∀ p phys, exit p = .filled phys → phys.toNat % 4096 = 0)
    (memory : ByteMem) (n : Nat) {p : Nat} (hp : p < n) {phys : BitVec 64}
    (hfilled : exit p = .filled phys) :
    ∃ q, p ≤ q ∧ q < n ∧ exit q = .filled phys ∧ ∀ px < 1024,
      ((List.range n).foldl (fun memory p => (exit p).paint p memory) memory).load32
        (phys.toNat + 4 * px) = bandColor q := by
  induction n with
  | zero => exact absurd hp (Nat.not_lt_zero p)
  | succ n ih =>
      rw [List.range_succ, List.foldl_append, List.foldl_cons, List.foldl_nil]
      by_cases hlast : exit n = .filled phys
      · refine ⟨n, Nat.le_of_lt_succ hp, Nat.lt_succ_self n, hlast, fun px hpx => ?_⟩
        rw [hlast]
        exact ByteMem.load32_fill32 _ _ _ hpx
      · have hne : p ≠ n := fun heq => hlast (heq ▸ hfilled)
        obtain ⟨q, hpq, hqn, hq, huniform⟩ := ih (by omega)
        refine ⟨q, hpq, Nat.lt_succ_of_lt hqn, hq, fun px hpx => ?_⟩
        rw [← huniform px hpx]
        refine ByteMem.load32_congr fun b hb hb' => paint_outside fun phys' hphys' => ?_
        -- two pages are the same or apart
        have hother : phys'.toNat ≠ phys.toNat :=
          fun heq => hlast (hphys'.trans (congrArg _ (BitVec.eq_of_toNat_eq heq)))
        have h₁ := haligned p phys hfilled
        have h₂ := haligned n phys' hphys'
        omega

end Memory

/-! ## The registers -/

/-- The lower half of BAR0 is mapped, and of the table whatever is. -/
def Bar0 (s : Mmio) : Prop := ∃ length, s.rmmio = some length ∧ 0x800000 ≤ length.toNat

theorem Bar0.mapped {s : Mmio} (h : Bar0 s) {reg : BitVec 64} (hreg : reg.toNat + 4 ≤ 0x800000) :
    s.Mapped reg := by
  obtain ⟨length, hlen, hle⟩ := h
  exact ⟨length, hlen, Nat.le_trans hreg hle⟩

theorem Bar0.of_stores {A : Nat → BitVec 32 → Prop} {s t : Mmio} (h : Bar0 s)
    (hst : Stores A s t) : Bar0 t := by
  obtain ⟨length, hlen, hle⟩ := h
  exact ⟨length, hst.rmmio.trans hlen, hle⟩

theorem readRegs_quiet (regs : List (BitVec 64)) (s : Mmio) :
    Stores quietStore s (readRegs regs s) := by
  induction regs generalizing s with
  | nil => exact .refl s
  | cons reg regs ih => exact (readReg32_quiet reg s).trans (ih _)

theorem waitFlush_quiet (flushBusy : Nat → Bool) (looks i : Nat) (s : Mmio) :
    Stores quietStore s (waitFlush flushBusy looks i s) := by
  induction looks generalizing i s with
  | zero => exact .refl s
  | succ looks ih =>
      rw [waitFlush]
      split
      · exact (readReg32_quiet _ s).trans (ih _ _)
      · exact readReg32_quiet _ s

theorem beforeFill_quiet (world : FillWorld) (v60Count : Nat) {s : Mmio} (h : Bar0 s) :
    Stores quietStore s (beforeFill world v60Count s) := by
  have hread := readReg32_quiet 0x7019C s
  have hdiagnostic : Stores quietStore (readReg32 0x7019C s).2
      (if v60Count ≤ 3 then readRegs v88Diagnostic (readReg32 0x7019C s).2
        else (readReg32 0x7019C s).2) := by
    split
    · exact readRegs_quiet _ _
    · exact .refl _
  have hsofar := hread.trans hdiagnostic
  refine (hsofar.trans (writeReg32_stores ?_ ?_ (.inr rfl))).trans (waitFlush_quiet _ _ _ _)
  · exact (h.of_stores hsofar).mapped (by decide)
  · decide

/-- The stores of a whole pass: those, the surface where it was, once pages are `painted`, and
`PLANE_CTL`. -/
def passStore (surfAddr : BitVec 32) (painted : Prop) (i : Nat) (v : BitVec 32) : Prop :=
  quietStore i v ∨ (i = 0x7019C / 4 ∧ v = surfAddr ∧ surfAddr ≠ 0 ∧ painted) ∨ i = 0x70180 / 4

section Plane

variable {surfAddr : BitVec 32} (hne : surfAddr ≠ 0) {painted : Prop} (hpainted : painted)

include hne

/-- A surface that is not zero is written as it is. -/
theorem rearm_stores {s : Mmio} (h : Bar0 s) :
    Stores (fun i v => i = 0x7019C / 4 ∧ v = surfAddr) s (writeReg32 0x7019C surfAddr s) :=
  writeReg32_stores (h.mapped (by decide)) (fun hzero => hne hzero.2) ⟨rfl, rfl⟩

theorem rearm_planCtl {s : Mmio} (h : Bar0 s) :
    (writeReg32 0x7019C surfAddr s).get 0x70180 = s.get 0x70180 :=
  (rearm_stores hne h).get_eq (fun _ hstore => absurd hstore.1 (by decide))
    (fun _ hstore => absurd hstore.1 (by decide))

include hpainted

theorem rearm_passStores {s : Mmio} (h : Bar0 s) :
    Stores (passStore surfAddr painted) s (writeReg32 0x7019C surfAddr s) :=
  (rearm_stores hne h).mono fun _ _ hstore => .inr (.inl ⟨hstore.1, hstore.2, hne, hpainted⟩)

/-- The plane is on again with the settings it had. -/
theorem togglePlane_restores {s : V88State} (h : Bar0 s.mmio) :
    Stores (passStore surfAddr painted) s.mmio (togglePlane surfAddr s).mmio ∧
      (togglePlane surfAddr s).mmio.get 0x70180 = s.mmio.get 0x70180 := by
  have hctl : ∀ (m : Mmio) (v : BitVec 32), Bar0 m →
      Stores (passStore surfAddr painted) m (writeReg32 0x70180 v m) := by
    intro m v hm
    refine writeReg32_stores (hm.mapped (by decide)) (fun hsurf => ?_) (.inr (.inr rfl))
    exact absurd hsurf.1 (by decide)
  have hquiet : ∀ {m m' : Mmio}, Stores quietStore m m' →
      Stores (passStore surfAddr painted) m m' :=
    fun hst => hst.mono fun _ _ hstore => .inl hstore
  have hread := hquiet (readReg32_quiet 0x70180 s.mmio)
  have hoff := hread.trans (hctl _ (s.mmio.get 0x70180 &&& ~~~0x80000000) (h.of_stores hread))
  have hoff' := hoff.trans (rearm_passStores hne hpainted (h.of_stores hoff))
  have hdelay := hoff'.trans (hquiet (readRegs_quiet (List.replicate 1000 0x70180) _))
  have hon := hdelay.trans (hctl _ (s.mmio.get 0x70180) (h.of_stores hdelay))
  have hon' := hon.trans (rearm_passStores hne hpainted (h.of_stores hon))
  refine ⟨hon', ?_⟩
  refine (rearm_planCtl hne (h.of_stores hon)).trans ?_
  rw [get_mapped ((h.of_stores hon).mapped (by decide))]
  exact writeReg32_dword ((h.of_stores hdelay).mapped (by decide))
    (fun hsurf => absurd hsurf.1 (by decide))

end Plane

/-! ## The pass -/

/-- What a pass over these pages leaves behind. -/
structure PassDone (world : FillWorld) (v60Count : Nat) (pages : List Nat) (s t : V88State) :
    Prop where
  counts : t.filled + t.failed + t.skipped = pages.length
  filled : t.filled = pages.countP fun p =>
    (exitIn world s.mmio (s.mmio.get 0x7019C) p).isFilled
  memory : t.memory = pages.foldl (fun memory p =>
    (exitIn world s.mmio (s.mmio.get 0x7019C) p).paint p memory) s.memory
  events : t.events = pages.flatMap fun p =>
    (exitIn world s.mmio (s.mmio.get 0x7019C) p).events p
  stores : Stores (passStore (s.mmio.get 0x7019C) (0 < t.filled)) s.mmio t.mmio
  planCtl : ∀ planCtl, t.toggled = some planCtl →
    v60Count = 5 ∧ planCtl = s.mmio.get 0x70180 ∧ t.mmio.get 0x70180 = planCtl

theorem finishFill_plane (v60Count : Nat) (surfAddr : BitVec 32) {s : V88State}
    (hbar : Bar0 s.mmio) (hnone : s.toggled = none) :
    ∃ mmio toggled,
      finishFill v60Count surfAddr s = { s with mmio := mmio, toggled := toggled } ∧
      Stores (passStore surfAddr (0 < s.filled)) s.mmio mmio ∧
      ∀ planCtl, toggled = some planCtl →
        v60Count = 5 ∧ planCtl = s.mmio.get 0x70180 ∧ mmio.get 0x70180 = planCtl := by
  unfold finishFill
  by_cases hfilled : 0 < s.filled ∧ surfAddr ≠ 0
  · rw [if_pos hfilled]
    obtain ⟨hpainted, hne⟩ := hfilled
    have hrearm := rearm_passStores hne hpainted hbar
    by_cases hfive : v60Count = 5
    · obtain ⟨htoggle, hctl⟩ := togglePlane_restores hne hpainted
        (s := { s with mmio := writeReg32 0x7019C surfAddr s.mmio }) (hbar.of_stores hrearm)
      refine ⟨_, _, if_pos ⟨hfive, hpainted, hne⟩, hrearm.trans htoggle, ?_⟩
      rintro planCtl ⟨⟩
      exact ⟨hfive, rearm_planCtl hne hbar, hctl⟩
    · refine ⟨_, _, if_neg fun h => hfive h.1, hrearm, fun planCtl htoggled => ?_⟩
      rw [hnone] at htoggled
      cases htoggled
  · rw [if_neg hfilled, if_neg fun hfive => hfilled hfive.2]
    refine ⟨_, _, rfl, .refl _, fun planCtl htoggled => ?_⟩
    rw [hnone] at htoggled
    cases htoggled

/-- The state in which the loop is entered. -/
def V88State.entered (s : V88State) (world : FillWorld) (v60Count : Nat) : V88State :=
  { s with
    mmio := beforeFill world v60Count s.mmio
    filled := 0, failed := 0, skipped := 0, firstPx := 0, firstPhys := 0
    events := [], toggled := none }

theorem fillPages_done (world : FillWorld) (v60Count : Nat) {s : V88State} (hbar : Bar0 s.mmio)
    (pages : List Nat) (hpages : ∀ p ∈ pages, p < 4000) :
    PassDone world v60Count pages s (finishFill v60Count (s.mmio.get 0x7019C)
      (Runs.run (fillPage world v60Count (s.mmio.get 0x7019C)) pages
        (s.entered world v60Count))) := by
  obtain ⟨hloop, hgone⟩ := fillPages_quiet world v60Count (s.mmio.get 0x7019C) pages hpages
    (s.entered world v60Count) (beforeFill_quiet world v60Count hbar)
  generalize Runs.run (fillPage world v60Count (s.mmio.get 0x7019C)) pages _ = s₁
    at hloop hgone ⊢
  obtain ⟨mmio, toggled, hfinish, hstores, hctl⟩ := finishFill_plane v60Count
    (s.mmio.get 0x7019C) (hbar.of_stores hloop) hgone.toggled
  rw [hfinish]
  refine ⟨?_, ?_, hgone.memory, hgone.events, ?_, ?_⟩
  · exact hgone.counts.trans (Nat.zero_add _)
  · exact hgone.filled.trans (Nat.zero_add _)
  · exact (hloop.mono fun _ _ hstore => .inl hstore).trans hstores
  · intro planCtl htoggled
    obtain ⟨hfive, hread, hholds⟩ := hctl planCtl htoggled
    have hsame : s₁.mmio.get 0x70180 = s.mmio.get 0x70180 :=
      hloop.get_eq (fun _ hstore => absurd hstore (by unfold quietStore; decide))
        not_quietStore_data2
    exact ⟨hfive, hread.trans hsame, hholds⟩

theorem v88ScanoutFill_done (world : FillWorld) (v60Count : Nat) {s : V88State}
    (hbar : Bar0 s.mmio) :
    PassDone world v60Count (List.range 4000) s (v88ScanoutFill world v60Count s) :=
  fillPages_done world v60Count hbar (List.range 4000) fun _ hp => List.mem_range.mp hp

/-! ## What the pass should do -/

/-- What a pass from `s` to `t` should do, whatever the table holds and whatever fails. -/
structure SafeFill (world : FillWorld) (v60Count : Nat) (s t : V88State) : Prop where
  counts : t.filled + t.failed + t.skipped = 4000
  /-- Each store is into the page of an entry that is valid and not low, in its colour. -/
  writes : ∀ p px phys color, .write p px phys color ∈ t.events →
    p < 4000 ∧ px < 1024 ∧ color = bandColor p ∧
      ∃ pte, ggttEntry s.mmio (surfPage (s.mmio.get 0x7019C) p) = some pte ∧
        pte &&& 1 ≠ 0 ∧ 0x40000000 ≤ ptePhys pte ∧ ptePhys pte = phys
  /-- Nothing else in memory changes. -/
  changed : ∀ b, t.memory b ≠ s.memory b → ∃ p px phys color,
    .write p px phys color ∈ t.events ∧ phys.toNat + 4 * px ≤ b ∧ b < phys.toNat + 4 * px + 4
  /-- Such a page, if it can be mapped, is filled from end to end, and is in one colour after the
  pass: that of the last index that has it. -/
  fills : ∀ p < 4000, ∀ pte, ggttEntry s.mmio (surfPage (s.mmio.get 0x7019C) p) = some pte →
    pte &&& 1 ≠ 0 → 0x40000000 ≤ ptePhys pte →
    world.withPhysicalAddress p = true → world.createMappingInTask p = true →
      (∀ px < 1024, .write p px (ptePhys pte) (bandColor p) ∈ t.events) ∧
      ∃ q, p ≤ q ∧ q < 4000 ∧ .write q 0 (ptePhys pte) (bandColor q) ∈ t.events ∧
        ∀ px < 1024, t.memory.load32 ((ptePhys pte).toNat + 4 * px) = bandColor q
  /-- What is made is given back once, and after that. -/
  released : ∀ o, .create o ∈ t.events →
    t.events.count (.create o) = 1 ∧ t.events.count (.release o) = 1 ∧
      [.create o, .release o].Sublist t.events
  /-- `PLANE_SURF` is stored to only after a fill, and only with the value it had. -/
  surf : ∃ es, t.mmio.trace = es ++ s.mmio.trace ∧
    ∀ v before, .store (0x7019C / 4) v before ∈ es →
      (∃ p px phys color, .write p px phys color ∈ t.events) ∧
        v = s.mmio.get 0x7019C ∧ v ≠ 0
  /-- `PLANE_CTL` is what was read before it was toggled. -/
  planCtl : ∀ planCtl, t.toggled = some planCtl →
    v60Count = 5 ∧ planCtl = s.mmio.get 0x70180 ∧ t.mmio.get 0x70180 = planCtl

/-- What is read in the place of the page's entry passes for one, and the page can be mapped. -/
def TakenForEntry (world : FillWorld) (m : Mmio) (surfAddr : BitVec 32) (p : Nat) : Prop :=
  let lo := m.get ((ggttPteLo (surfPage surfAddr p)).setWidth 64)
  let hi := m.get ((ggttPteHi (surfPage surfAddr p)).setWidth 64)
  lo &&& 1 ≠ 0 ∧ 0x40000000 ≤ ptePhys (pteOf lo hi) ∧
    world.withPhysicalAddress p = true ∧ world.createMappingInTask p = true

section Safe

variable {world : FillWorld} {m : Mmio} {surfAddr : BitVec 32} {p : Nat}

theorem exitIn_filled_iff {phys : BitVec 64} :
    exitIn world m surfAddr p = .filled phys ↔ TakenForEntry world m surfAddr p ∧
      ptePhys (pteOf (m.get ((ggttPteLo (surfPage surfAddr p)).setWidth 64))
        (m.get ((ggttPteHi (surfPage surfAddr p)).setWidth 64))) = phys := by
  rw [exitIn, pageExit_filled_iff, TakenForEntry]
  simp only [and_assoc]

theorem exitIn_aligned (p : Nat) (phys : BitVec 64) (h : exitIn world m surfAddr p = .filled phys) :
    phys.toNat % 4096 = 0 := by
  obtain ⟨-, rfl⟩ := exitIn_filled_iff.mp h
  exact ptePhys_mod _

/-- An entry of the table is what is read in its place. -/
theorem ggttEntry_eq {pte : BitVec 64} (hp : p < 4000)
    (h : ggttEntry m (surfPage surfAddr p) = some pte) :
    pte = pteOf (m.get ((ggttPteLo (surfPage surfAddr p)).setWidth 64))
      (m.get ((ggttPteHi (surfPage surfAddr p)).setWidth 64)) := by
  have hlo := ggttPteLo_toNat surfAddr hp
  have hhi := ggttPteHi_toNat surfAddr hp
  have hwide : ∀ reg : BitVec 32, (reg.setWidth 64).toNat = reg.toNat := by
    intro reg
    have hlt := reg.isLt
    rw [BitVec.toNat_setWidth, Nat.mod_eq_of_lt (by omega)]
  rw [ggttEntry] at h
  cases hlen : m.rmmio with
  | none =>
      rw [hlen] at h
      cases h
  | some length =>
      simp only [hlen, Option.ite_none_right_eq_some, Option.some.injEq] at h
      obtain ⟨hin, rfl⟩ := h
      rw [get_mapped ⟨length, hlen, by rw [hwide]; omega⟩,
        get_mapped ⟨length, hlen, by rw [hwide]; omega⟩]

/-- A page is in the table if the mapping goes that far. -/
theorem ggttEntry_none_iff {length : BitVec 64} (hlen : m.rmmio = some length) (hp : p < 4000) :
    ggttEntry m (surfPage surfAddr p) = none ↔
      length.toNat < 0x800000 + 8 * (surfAddr.toNat / 4096 + p) + 8 := by
  rw [ggttEntry, hlen]
  simp only [ggttPteHi_toNat surfAddr hp, ite_eq_right_iff, reduceCtorEq, imp_false]
  omega

end Safe

section Done

variable {world : FillWorld} {v60Count n : Nat} {s t : V88State}
  (h : PassDone world v60Count (List.range n) s t)

include h

theorem PassDone.mem_events {event : FillEvent} :
    event ∈ t.events ↔
      ∃ p < n, event ∈ (exitIn world s.mmio (s.mmio.get 0x7019C) p).events p := by
  rw [h.events]
  simp only [List.mem_flatMap, List.mem_range]

theorem PassDone.mem_writes {p px : Nat} {phys : BitVec 64} {color : BitVec 32} :
    .write p px phys color ∈ t.events ↔
      p < n ∧ exitIn world s.mmio (s.mmio.get 0x7019C) p = .filled phys ∧ px < 1024 ∧
        color = bandColor p := by
  rw [h.mem_events]
  constructor
  · rintro ⟨q, hq, hmem⟩
    obtain ⟨rfl, hfilled, hpx, hcolor⟩ := write_mem_events.mp hmem
    exact ⟨hq, hfilled, hpx, hcolor⟩
  · rintro ⟨hp, hfilled, hpx, hcolor⟩
    exact ⟨p, hp, write_mem_events.mpr ⟨rfl, hfilled, hpx, hcolor⟩⟩

theorem PassDone.released {o : FillObject} (ho : .create o ∈ t.events) :
    t.events.count (.create o) = 1 ∧ t.events.count (.release o) = 1 ∧
      [.create o, .release o].Sublist t.events := by
  obtain ⟨p, hp, hmem⟩ := h.mem_events.mp ho
  obtain ⟨hcreate, hrelease, hsub⟩ := released_of_mem_events hmem
  have hpage : o.page = p := page_of_mem_events hmem
  have hcount : ∀ event : FillEvent, event.page = p → t.events.count event =
      ((exitIn world s.mmio (s.mmio.get 0x7019C) p).events p).count event := by
    rintro event rfl
    rw [h.events]
    exact count_flatMap_of_owner FillEvent.page (fun _ _ => page_of_mem_events) List.nodup_range
      event (List.mem_range.mpr hp)
  refine ⟨(hcount (.create o) hpage).trans hcreate, (hcount (.release o) hpage).trans hrelease,
    hsub.trans ?_⟩
  rw [h.events]
  obtain ⟨before, after, hsplit⟩ := List.append_of_mem (List.mem_range.mpr hp)
  rw [hsplit, List.flatMap_append, List.flatMap_cons]
  exact (List.sublist_append_left _ _).trans (List.sublist_append_right _ _)

theorem PassDone.changed {b : Nat} (hb : t.memory b ≠ s.memory b) : ∃ p px phys color,
    .write p px phys color ∈ t.events ∧ phys.toNat + 4 * px ≤ b ∧
      b < phys.toNat + 4 * px + 4 := by
  rw [h.memory] at hb
  obtain ⟨p, hp, phys, hfilled, hlo, hhi⟩ := changed_of_paint _ _ hb
  refine ⟨p, (b - phys.toNat) / 4, phys, bandColor p, h.mem_writes.mpr ?_, ?_, ?_⟩
  · exact ⟨List.mem_range.mp hp, hfilled, by omega, rfl⟩
  · omega
  · omega

theorem PassDone.painted (hfilled : 0 < t.filled) :
    ∃ p px phys color, .write p px phys color ∈ t.events := by
  rw [h.filled, List.countP_pos_iff] at hfilled
  obtain ⟨p, hp, hexit⟩ := hfilled
  obtain ⟨phys, hphys⟩ := PageExit.isFilled_iff.mp hexit
  exact ⟨p, 0, phys, _, h.mem_writes.mpr ⟨List.mem_range.mp hp, hphys, by decide, rfl⟩⟩

theorem PassDone.surf : ∃ es, t.mmio.trace = es ++ s.mmio.trace ∧
    ∀ v before, .store (0x7019C / 4) v before ∈ es →
      (∃ p px phys color, .write p px phys color ∈ t.events) ∧
        v = s.mmio.get 0x7019C ∧ v ≠ 0 := by
  obtain ⟨es, htrace, hes⟩ := h.stores.trace
  refine ⟨es, htrace, fun v before hmem => ?_⟩
  obtain hquiet | ⟨-, rfl, hne, hfilled⟩ | hctl := hes _ v before hmem
  · exact absurd hquiet (by unfold quietStore; decide)
  · exact ⟨h.painted hfilled, rfl, hne⟩
  · exact absurd hctl (by decide)

end Done

/-- The fill is safe exactly if no page past the end of the table is taken for one that has an
entry. -/
theorem scanout_fill_safe_iff (world : FillWorld) (v60Count : Nat) (s : V88State)
    (hbar : Bar0 s.mmio) :
    SafeFill world v60Count s (v88ScanoutFill world v60Count s) ↔
      ∀ p < 4000, ggttEntry s.mmio (surfPage (s.mmio.get 0x7019C) p) = none →
        ¬ TakenForEntry world s.mmio (s.mmio.get 0x7019C) p := by
  have hdone := v88ScanoutFill_done world v60Count hbar
  constructor
  · intro hsafe p hp hnone htaken
    have hwrite := hdone.mem_writes.mpr
      ⟨hp, exitIn_filled_iff.mpr ⟨htaken, rfl⟩, (by decide : 0 < 1024), rfl⟩
    obtain ⟨-, -, -, pte, hentry, -⟩ := hsafe.writes _ _ _ _ hwrite
    rw [hnone] at hentry
    cases hentry
  · intro hinside
    refine ⟨hdone.counts.trans List.length_range, ?_, fun b => hdone.changed, ?_,
      fun o => hdone.released, hdone.surf, hdone.planCtl⟩
    · intro p px phys color hwrite
      obtain ⟨hp, hfilled, hpx, hcolor⟩ := hdone.mem_writes.mp hwrite
      obtain ⟨htaken, hphys⟩ := exitIn_filled_iff.mp hfilled
      obtain ⟨pte, hentry⟩ := Option.ne_none_iff_exists'.mp fun hnone => hinside p hp hnone htaken
      obtain rfl := ggttEntry_eq hp hentry
      exact ⟨hp, hpx, hcolor, _, hentry, fun hzero => htaken.1 ((pteOf_valid _ _).mp hzero),
        htaken.2.1, hphys⟩
    · intro p hp pte hentry hvalid hhigh hdesc hmap
      obtain rfl := ggttEntry_eq hp hentry
      have hfilled := exitIn_filled_iff.mpr
        ⟨⟨fun hzero => hvalid ((pteOf_valid _ _).mpr hzero), hhigh, hdesc, hmap⟩, rfl⟩
      refine ⟨fun px hpx => hdone.mem_writes.mpr ⟨hp, hfilled, hpx, rfl⟩, ?_⟩
      obtain ⟨q, hpq, hq, hlast, huniform⟩ :=
        page_uniform exitIn_aligned s.memory 4000 hp hfilled
      rw [← hdone.memory] at huniform
      exact ⟨q, hpq, hq, hdone.mem_writes.mpr ⟨hq, hlast, by decide, rfl⟩, huniform⟩

/-- A window of 16 MB whose bytes are zero but for these. -/
def sparseWindow (bytes : List (Nat × BitVec 8)) : Mmio where
  rmmio := some 0x1000000
  rmmioPtr := fun b => (bytes.lookup b).getD 0
  trace := []

/-- Nothing fails, and the flush is done at once. -/
def easyWorld : FillWorld := ⟨fun _ => false, fun _ => true, fun _ => true, true⟩

/-- Before the first pass. -/
def beforePass (mmio : Mmio) : V88State where
  mmio := mmio
  memory := fun _ => 0
  v85PersistMap := false
  v85SurfAddr := 0
  filled := 0
  failed := 0
  skipped := 0
  firstPx := 0
  firstPhys := 0
  events := []
  toggled := none

/-- A surface at page 1, which has a valid entry at 2 GB. -/
def surfaceAtPage1 : Mmio :=
  sparseWindow [(0x7019D, 0x10), (0x800008, 0x01), (0x80000B, 0x80), (0x70183, 0x80)]

/-- The fifth iteration on it. -/
theorem scanout_fill_safe_page1 :
    Bar0 surfaceAtPage1 ∧ SafeFill easyWorld 5 (beforePass surfaceAtPage1)
      (v88ScanoutFill easyWorld 5 (beforePass surfaceAtPage1)) := by
  have hbar : Bar0 surfaceAtPage1 := ⟨0x1000000, rfl, by decide⟩
  have hsurf : surfaceAtPage1.get 0x7019C = 0x1000 := by decide
  refine ⟨hbar, (scanout_fill_safe_iff _ _ _ hbar).mpr fun p hp hnone => ?_⟩
  have hpast := (ggttEntry_none_iff rfl hp).mp hnone
  rw [show (beforePass surfaceAtPage1).mmio = surfaceAtPage1 from rfl, hsurf] at hpast
  have hlength : (0x1000000 : BitVec 64).toNat = 0x1000000 := rfl
  have hpage : (0x1000 : BitVec 32).toNat = 0x1000 := rfl
  omega

/-- A surface at the last page of the address space, no valid entry anywhere, and a one in the
data register. -/
def surfaceAtLastPage : Mmio :=
  sparseWindow [(0x3C, 0x01), (0x7019D, 0xF0), (0x7019E, 0xFF), (0x7019F, 0xFF)]

/-- The first iteration on it paints a page at 4 GB, which no entry names. -/
theorem lastPage_fill_unsafe :
    ggttEntry surfaceAtLastPage (surfPage 0xFFFFF000 1) = none ∧
    .write 1 0 0x100000000 0xFFFF0000 ∈
      (v88ScanoutFill easyWorld 1 (beforePass surfaceAtLastPage)).events ∧
    ¬ SafeFill easyWorld 1 (beforePass surfaceAtLastPage)
      (v88ScanoutFill easyWorld 1 (beforePass surfaceAtLastPage)) := by
  have hbar : Bar0 surfaceAtLastPage := ⟨0x1000000, rfl, by decide⟩
  have hsurf : (beforePass surfaceAtLastPage).mmio.get 0x7019C = 0xFFFFF000 := by decide
  have hnone : ggttEntry surfaceAtLastPage (surfPage 0xFFFFF000 1) = none :=
    (ggttEntry_none_iff rfl (by decide)).mpr (by decide)
  have hexit : exitIn easyWorld (beforePass surfaceAtLastPage).mmio
      ((beforePass surfaceAtLastPage).mmio.get 0x7019C) 1 = .filled 0x100000000 := by
    rw [hsurf]
    decide
  have hwrite : FillEvent.write 1 0 0x100000000 0xFFFF0000 ∈
      (v88ScanoutFill easyWorld 1 (beforePass surfaceAtLastPage)).events :=
    (v88ScanoutFill_done easyWorld 1 hbar).mem_writes.mpr
      ⟨by decide, hexit, by decide, by decide⟩
  refine ⟨hnone, hwrite, fun hsafe => ?_⟩
  obtain ⟨-, -, -, pte, hentry, -⟩ := hsafe.writes _ _ _ _ hwrite
  rw [hsurf] at hentry
  cases hnone.symm.trans hentry

end NootedGreen

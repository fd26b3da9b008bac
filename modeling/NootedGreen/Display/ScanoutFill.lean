/-
# `Display.ScanoutFill` — one pass of the V88 scanout fill

The monitor paints the memory that the display reads, to see whether it reads it at all:

    read PLANE_SURF                   where the surface is in the GGTT
    flush the GGTT TLB
    for 4000 pages from there         read the page's GGTT entry; if it is valid and its
                                      address not below 0x40000000 (stolen memory): map
                                      the page, fill it, unmap it
    write PLANE_SURF back             if a page was filled
    at the fifth iteration            PLANE_CTL off, and on again

Here is the pass, and what it does page by page: each round has one of four exits, and the
exit says what it counts, paints and records (`fillPage_gone`).  The rounds do not disturb the
table, so the exit of a page is known before the first of them (`fillPages_quiet`).

**What is left out.**  The log lines, and the two boot arguments and the range of iterations
that guard the block.  Memory is apart from the registers of the device.  The persistent
mapping of page 0 is kept, not released: it is the `v85PersistMap` of the state.
-/
import NootedGreen.Lib.Runs
import NootedGreen.Mmio.Stores

namespace NootedGreen

open Mmio

/-! ## The table -/

def ggttPteLo (page : BitVec 32) : BitVec 32 := 0x800000 + page * 8

def ggttPteHi (page : BitVec 32) : BitVec 32 := 0x800000 + page * 8 + 4

/-- The two halves of an entry. -/
def pteOf (lo hi : BitVec 32) : BitVec 64 := (hi.setWidth 64 <<< 32) ||| lo.setWidth 64

/-- Bits 12 to 47 of an entry. -/
def ptePhys (pte : BitVec 64) : BitVec 64 := pte &&& 0x0000FFFFFFFFF000

/-- The entry of a page, if the table has one: BAR0 ends where the table does. -/
def ggttEntry (s : Mmio) (page : BitVec 32) : Option (BitVec 64) :=
  match s.rmmio with
  | none => none
  | some length =>
      if (ggttPteHi page).toNat + 4 ≤ length.toNat then
        some (pteOf (s.dword ((ggttPteLo page).setWidth 64))
          (s.dword ((ggttPteHi page).setWidth 64)))
      else none

/-! ## The pass -/

/-- What the surroundings answer: whether the flush goes on at the `i`-th look, and for each
page whether a descriptor and a mapping can be made; the last for the persistent one. -/
structure FillWorld where
  flushBusy : Nat → Bool
  withPhysicalAddress : Nat → Bool
  createMappingInTask : Nat → Bool
  createPersistMap : Bool

/-- What is made for the page with this index. -/
inductive FillObject where
  | descriptor (p : Nat)
  | mapping (p : Nat)
  deriving DecidableEq, Repr

inductive FillEvent where
  | create (o : FillObject)
  /-- `fb[px] = color`, through the mapping of the page with index `p`, which is at `phys`. -/
  | write (p px : Nat) (phys : BitVec 64) (color : BitVec 32)
  | release (o : FillObject)
  deriving DecidableEq, Repr

structure V88State where
  mmio : Mmio
  memory : ByteMem
  /-- Not null. -/
  v85PersistMap : Bool
  v85SurfAddr : BitVec 32
  filled : Nat
  failed : Nat
  skipped : Nat
  firstPx : BitVec 32
  firstPhys : BitVec 64
  events : List FillEvent
  /-- The `PLANE_CTL` that the plane was toggled with. -/
  toggled : Option (BitVec 32)

namespace V88State

def record (s : V88State) (es : List FillEvent) : V88State := { s with events := s.events ++ es }

/-- What is done at the first page only. -/
def noteFirst (s : V88State) (world : FillWorld) (v60Count : Nat) (surfAddr : BitVec 32)
    (phys : BitVec 64) : V88State :=
  let s := { s with firstPx := s.memory.load32 phys.toNat, firstPhys := phys }
  if !s.v85PersistMap && decide (3 ≤ v60Count) then
    { s with v85PersistMap := world.createPersistMap, v85SurfAddr := surfAddr }
  else s

end V88State

/-- Red, green, blue and white, a thousand pages each. -/
def bandColor (p : Nat) : BitVec 32 :=
  if p < 1000 then 0xFFFF0000
  else if p < 2000 then 0xFF00FF00
  else if p < 3000 then 0xFF0000FF
  else 0xFFFFFFFF

/-- `surfPage + p` -/
def surfPage (surfAddr : BitVec 32) (p : Nat) : BitVec 32 := (surfAddr >>> 12) + BitVec.ofNat 32 p

/-- The inner loop, as its stores. -/
def pageWrites (p : Nat) (phys : BitVec 64) : List FillEvent :=
  (List.range 1024).map fun px => .write p px phys (bandColor p)

/-- One round of the loop. -/
def fillPage (world : FillWorld) (v60Count : Nat) (surfAddr : BitVec 32) (p : Nat)
    (s : V88State) : V88State :=
  let (lo, mmio) := readReg32 ((ggttPteLo (surfPage surfAddr p)).setWidth 64) s.mmio
  let (hi, mmio) := readReg32 ((ggttPteHi (surfPage surfAddr p)).setWidth 64) mmio
  let s := { s with mmio := mmio }
  let phys := ptePhys (pteOf lo hi)
  if lo &&& 1 = 0 ∨ phys = 0 then { s with failed := s.failed + 1 }
  else if phys < 0x40000000 then { s with skipped := s.skipped + 1 }
  else if world.withPhysicalAddress p = false then { s with failed := s.failed + 1 }
  else
    let s := s.record [.create (.descriptor p)]
    let s :=
      if world.createMappingInTask p = true then
        let s := s.record [.create (.mapping p)]
        let s := if p = 0 then s.noteFirst world v60Count surfAddr phys else s
        let s := { s with memory := s.memory.fill32 phys.toNat 1024 (bandColor p) }
        let s := s.record (pageWrites p phys)
        let s := { s with filled := s.filled + 1 }
        s.record [.release (.mapping p)]
      else { s with failed := s.failed + 1 }
    s.record [.release (.descriptor p)]

/-- Reads that only feed a log line, or only take time. -/
def readRegs (regs : List (BitVec 64)) (s : Mmio) : Mmio :=
  regs.foldl (fun s reg => (readReg32 reg s).2) s

/-- The transcoders, pipe and plane registers of the first three iterations. -/
def v88Diagnostic : List (BitVec 64) :=
  [0x60008, 0x61008, 0x6F008, 0x60400, 0x6F400, 0x70024, 0x70840, 0x701CC, 0x70194, 0x70198,
    0x701A4, 0x701A0]

/-- At most so many looks at `GFX_FLSH_CNTL_GEN6`, until bit 0 is clear. -/
def waitFlush (flushBusy : Nat → Bool) : Nat → Nat → Mmio → Mmio
  | 0, _, s => s
  | looks + 1, i, s =>
      let s := (readReg32 0x101008 s).2
      if flushBusy i then waitFlush flushBusy looks (i + 1) s else s

/-- The plane off and on again, each committed by a write of its surface. -/
def togglePlane (surfAddr : BitVec 32) (s : V88State) : V88State :=
  let (planCtl, mmio) := readReg32 0x70180 s.mmio
  let mmio := writeReg32 0x70180 (planCtl &&& ~~~0x80000000) mmio
  let mmio := writeReg32 0x7019C surfAddr mmio
  let mmio := readRegs (List.replicate 1000 0x70180) mmio
  let mmio := writeReg32 0x70180 planCtl mmio
  let mmio := writeReg32 0x7019C surfAddr mmio
  { s with mmio := mmio, toggled := some planCtl }

/-- The window once the surface is known and the flush is done. -/
def beforeFill (world : FillWorld) (v60Count : Nat) (s : Mmio) : Mmio :=
  let s := (readReg32 0x7019C s).2
  let s := if v60Count ≤ 3 then readRegs v88Diagnostic s else s
  waitFlush world.flushBusy 100 0 (writeReg32 0x101008 1 s)

/-- The plane after the fill. -/
def finishFill (v60Count : Nat) (surfAddr : BitVec 32) (s : V88State) : V88State :=
  -- a zero would make the hardware fetch GGTT[0]
  let s := if 0 < s.filled ∧ surfAddr ≠ 0 then
    { s with mmio := writeReg32 0x7019C surfAddr s.mmio } else s
  if v60Count = 5 ∧ 0 < s.filled ∧ surfAddr ≠ 0 then togglePlane surfAddr s else s

def v88ScanoutFill (world : FillWorld) (v60Count : Nat) (s : V88State) : V88State :=
  let surfAddr := (readReg32 0x7019C s.mmio).1
  let s := { s with
    mmio := beforeFill world v60Count s.mmio
    filled := 0, failed := 0, skipped := 0, firstPx := 0, firstPhys := 0
    events := [], toggled := none }
  finishFill v60Count surfAddr (Runs.run (fillPage world v60Count surfAddr) (List.range 4000) s)

/-! ## One page -/

/-- How a round ends. -/
inductive PageExit where
  | failed
  | skipped
  /-- There is a descriptor, but no mapping. -/
  | unmapped
  | filled (phys : BitVec 64)
  deriving DecidableEq, Repr

namespace PageExit

def isFilled : PageExit → Bool
  | .filled _ => true
  | .failed | .skipped | .unmapped => false

theorem isFilled_iff {e : PageExit} : e.isFilled = true ↔ ∃ phys, e = .filled phys := by
  cases e <;> simp [isFilled]

def events (p : Nat) : PageExit → List FillEvent
  | .failed | .skipped => []
  | .unmapped => [.create (.descriptor p), .release (.descriptor p)]
  | .filled phys =>
      [.create (.descriptor p), .create (.mapping p)] ++ pageWrites p phys ++
        [.release (.mapping p), .release (.descriptor p)]

def paint (p : Nat) (memory : ByteMem) : PageExit → ByteMem
  | .filled phys => memory.fill32 phys.toNat 1024 (bandColor p)
  | .failed | .skipped | .unmapped => memory

end PageExit

/-- The exit that what was read, and what can be made, lead to. -/
def pageExit (world : FillWorld) (p : Nat) (lo hi : BitVec 32) : PageExit :=
  if lo &&& 1 = 0 ∨ ptePhys (pteOf lo hi) = 0 then .failed
  else if ptePhys (pteOf lo hi) < 0x40000000 then .skipped
  else if world.withPhysicalAddress p = false then .failed
  else if world.createMappingInTask p = true then .filled (ptePhys (pteOf lo hi))
  else .unmapped

/-- From `s` to `s'` the pages in `ps` were gone through, each with its exit. -/
structure Gone (exit : Nat → PageExit) (ps : List Nat) (s s' : V88State) : Prop where
  counts : s'.filled + s'.failed + s'.skipped = s.filled + s.failed + s.skipped + ps.length
  filled : s'.filled = s.filled + ps.countP fun p => (exit p).isFilled
  memory : s'.memory = ps.foldl (fun memory p => (exit p).paint p memory) s.memory
  events : s'.events = s.events ++ ps.flatMap fun p => (exit p).events p
  toggled : s'.toggled = s.toggled

theorem Gone.single {exit : Nat → PageExit} {p : Nat} {s s' : V88State} {e : PageExit}
    (hexit : exit p = e)
    (counts : s'.filled + s'.failed + s'.skipped = s.filled + s.failed + s.skipped + 1)
    (filled : s'.filled = s.filled + if e.isFilled then 1 else 0)
    (memory : s'.memory = e.paint p s.memory) (events : s'.events = s.events ++ e.events p)
    (toggled : s'.toggled = s.toggled) : Gone exit [p] s s' := by
  subst hexit
  refine ⟨counts, ?_, memory, ?_, toggled⟩
  · rw [List.countP_singleton]
    exact filled
  · rw [List.flatMap_cons, List.flatMap_nil, List.append_nil]
    exact events

theorem Gone.nil (exit : Nat → PageExit) (s : V88State) : Gone exit [] s s :=
  ⟨rfl, rfl, rfl, (List.append_nil _).symm, rfl⟩

theorem Gone.append {exit : Nat → PageExit} {ps qs : List Nat} {s s' s'' : V88State}
    (h : Gone exit ps s s') (h' : Gone exit qs s' s'') : Gone exit (ps ++ qs) s s'' := by
  refine ⟨?_, ?_, ?_, ?_, h'.toggled.trans h.toggled⟩
  · rw [h'.counts, h.counts, List.length_append, Nat.add_assoc]
  · rw [h'.filled, h.filled, List.countP_append, Nat.add_assoc]
  · rw [h'.memory, h.memory, List.foldl_append]
  · rw [h'.events, h.events, List.flatMap_append, List.append_assoc]

section Page

variable (world : FillWorld) (v60Count : Nat) (surfAddr : BitVec 32) (p : Nat) (s : V88State)

/-- What is noted at the first page has fields of its own. -/
theorem noteFirst_frame (phys : BitVec 64) :
    ∃ px at0 persist surf, (if p = 0 then s.noteFirst world v60Count surfAddr phys else s) =
      { s with
        firstPx := px, firstPhys := at0, v85PersistMap := persist, v85SurfAddr := surf } := by
  split
  · rw [V88State.noteFirst]
    dsimp only
    split
    · exact ⟨_, _, _, _, rfl⟩
    · exact ⟨_, _, _, _, rfl⟩
  · exact ⟨_, _, _, _, rfl⟩

/-- What one round does, from the two halves it read. -/
theorem fillPage_gone {lo hi : BitVec 32} {m m' : Mmio}
    (hlo : readReg32 ((ggttPteLo (surfPage surfAddr p)).setWidth 64) s.mmio = (lo, m))
    (hhi : readReg32 ((ggttPteHi (surfPage surfAddr p)).setWidth 64) m = (hi, m')) :
    (fillPage world v60Count surfAddr p s).mmio = m' ∧
      ∀ exit : Nat → PageExit, exit p = pageExit world p lo hi →
        Gone exit [p] s (fillPage world v60Count surfAddr p s) := by
  unfold fillPage
  rw [hlo]
  dsimp only
  rw [hhi]
  dsimp only [pageExit]
  split
  · refine ⟨rfl, fun exit hexit => .single hexit ?_ rfl rfl (List.append_nil _).symm rfl⟩
    dsimp only
    omega
  · split
    · exact ⟨rfl, fun exit hexit => .single hexit rfl rfl rfl (List.append_nil _).symm rfl⟩
    · split
      · refine ⟨rfl, fun exit hexit => .single hexit ?_ rfl rfl (List.append_nil _).symm rfl⟩
        dsimp only
        omega
      · split
        · obtain ⟨px, at0, persist, surf, hnote⟩ := noteFirst_frame world v60Count surfAddr p
            ((({ s with mmio := m' } : V88State).record [.create (.descriptor p)]).record
              [.create (.mapping p)]) (ptePhys (pteOf lo hi))
          rw [hnote]
          refine ⟨rfl, fun exit hexit => .single hexit ?_ rfl rfl ?_ rfl⟩
          · simp only [V88State.record]
            omega
          · simp only [V88State.record, PageExit.events, List.append_assoc, List.cons_append,
              List.nil_append]
        · refine ⟨rfl, fun exit hexit => .single hexit ?_ rfl rfl ?_ rfl⟩
          · simp only [V88State.record]
            omega
          · simp only [V88State.record, PageExit.events, List.append_assoc, List.cons_append,
              List.nil_append]

end Page

/-! ## The table during the pass

The fill stores to the index register of `readReg32`, and before it to the flush register.
Neither is in the table, nor is it the data register, so every page is read as it was. -/

def quietStore (i : Nat) (_ : BitVec 32) : Prop := i = mmPCIE_INDEX2 ∨ i = 0x101008 / 4

theorem surfPage_toNat (surfAddr : BitVec 32) {p : Nat} (hp : p < 4000) :
    (surfPage surfAddr p).toNat = surfAddr.toNat / 4096 + p := by
  have hlt := surfAddr.isLt
  rw [surfPage, BitVec.toNat_add, BitVec.toNat_ushiftRight, Nat.shiftRight_eq_div_pow,
    BitVec.toNat_ofNat]
  omega

theorem ggttPteLo_toNat (surfAddr : BitVec 32) {p : Nat} (hp : p < 4000) :
    (ggttPteLo (surfPage surfAddr p)).toNat = 0x800000 + 8 * (surfAddr.toNat / 4096 + p) := by
  have hlt := surfAddr.isLt
  have hbase : (0x800000 : BitVec 32).toNat = 0x800000 := rfl
  have height : (8 : BitVec 32).toNat = 8 := rfl
  rw [ggttPteLo, BitVec.toNat_add, BitVec.toNat_mul, surfPage_toNat surfAddr hp, hbase, height]
  omega

theorem ggttPteHi_toNat (surfAddr : BitVec 32) {p : Nat} (hp : p < 4000) :
    (ggttPteHi (surfPage surfAddr p)).toNat =
      0x800000 + 8 * (surfAddr.toNat / 4096 + p) + 4 := by
  have hlt := surfAddr.isLt
  have hlo := ggttPteLo_toNat surfAddr hp
  have hfour : (4 : BitVec 32).toNat = 4 := rfl
  rw [ggttPteLo] at hlo
  rw [ggttPteHi, BitVec.toNat_add, hlo, hfour]
  omega

theorem setWidth_index (reg : BitVec 32) :
    (reg.setWidth 64 >>> 2).toNat = reg.toNat / 4 := by
  have hlt := reg.isLt
  rw [index_toNat, BitVec.toNat_setWidth, Nat.mod_eq_of_lt (by omega)]

theorem not_quietStore_pteLo (surfAddr : BitVec 32) {p : Nat} (hp : p < 4000) (v : BitVec 32) :
    ¬ quietStore ((ggttPteLo (surfPage surfAddr p)).setWidth 64 >>> 2).toNat v := by
  rw [quietStore, setWidth_index, ggttPteLo_toNat surfAddr hp, mmPCIE_INDEX2]
  omega

theorem not_quietStore_pteHi (surfAddr : BitVec 32) {p : Nat} (hp : p < 4000) (v : BitVec 32) :
    ¬ quietStore ((ggttPteHi (surfPage surfAddr p)).setWidth 64 >>> 2).toNat v := by
  rw [quietStore, setWidth_index, ggttPteHi_toNat surfAddr hp, mmPCIE_INDEX2]
  omega

theorem not_quietStore_data2 (v : BitVec 32) : ¬ quietStore mmPCIE_DATA2 v := by
  rw [quietStore, mmPCIE_DATA2, mmPCIE_INDEX2]
  omega

theorem readReg32_quiet (reg : BitVec 64) (s : Mmio) :
    Stores quietStore s (readReg32 reg s).2 :=
  readReg32_stores (fun _ => .inl rfl) reg s

/-- The exit of a page, by what the window `m` shows in the place of its entry. -/
def exitIn (world : FillWorld) (m : Mmio) (surfAddr : BitVec 32) (p : Nat) : PageExit :=
  pageExit world p (m.get ((ggttPteLo (surfPage surfAddr p)).setWidth 64))
    (m.get ((ggttPteHi (surfPage surfAddr p)).setWidth 64))

section Pages

variable (world : FillWorld) (v60Count : Nat) (surfAddr : BitVec 32) {m : Mmio}

theorem fillPage_quiet {p : Nat} (hp : p < 4000) {s : V88State}
    (hs : Stores quietStore m s.mmio) :
    Stores quietStore m (fillPage world v60Count surfAddr p s).mmio ∧
      Gone (exitIn world m surfAddr) [p] s (fillPage world v60Count surfAddr p s) := by
  have hread := readReg32_quiet ((ggttPteLo (surfPage surfAddr p)).setWidth 64) s.mmio
  have hread' := readReg32_quiet ((ggttPteHi (surfPage surfAddr p)).setWidth 64)
    (readReg32 ((ggttPteLo (surfPage surfAddr p)).setWidth 64) s.mmio).2
  have hlo := hs.get_eq (not_quietStore_pteLo surfAddr hp) not_quietStore_data2
  have hhi := (hs.trans hread).get_eq (not_quietStore_pteHi surfAddr hp) not_quietStore_data2
  obtain ⟨hmmio, hgone⟩ := fillPage_gone world v60Count surfAddr p s rfl rfl
  refine ⟨?_, hgone _ ?_⟩
  · rw [hmmio]
    exact (hs.trans hread).trans hread'
  · rw [exitIn, ← hlo, ← hhi]
    rfl

theorem fillPages_quiet (ps : List Nat) (hps : ∀ p ∈ ps, p < 4000) (s : V88State)
    (hs : Stores quietStore m s.mmio) :
    Stores quietStore m (Runs.run (fillPage world v60Count surfAddr) ps s).mmio ∧
      Gone (exitIn world m surfAddr) ps s (Runs.run (fillPage world v60Count surfAddr) ps s) := by
  induction ps generalizing s with
  | nil => exact ⟨hs, .nil _ s⟩
  | cons p ps ih =>
      obtain ⟨hp, hps⟩ := List.forall_mem_cons.mp hps
      obtain ⟨hs, hgone⟩ := fillPage_quiet world v60Count surfAddr hp hs
      obtain ⟨hs', hgone'⟩ := ih hps _ hs
      exact ⟨hs', hgone.append hgone'⟩

end Pages

end NootedGreen

/-
# `Display.LinkCaps` — DPCD reads and the lane count

The driver reads the sink's DPCD registers over AUX.  `wrapICLReadAUX` lets the original
read and then, off real Tiger Lake, rewrites what it returned:

    start            length   byte          becomes
    0x0000, 0x2200   ≥ 16     1  link rate  at most 0x14, and 0 for a revision below 3
    0x0000, 0x2200   ≥ 16     2  lanes      low five bits 1, 2 or 4 (2 if the sink has neither)
    0x0100           ≥ 1      0  link bw    at most 0x14
    0x0100           ≥ 2      1  lane set   the cached count, when that is 1, 2 or 4

It goes by the start address of the read, so the same registers read from another start
are returned as they are (`aux_read_clamped`).  The capability reads also fill the cache
`computeLaneCount` answers from.  Of the three places that turn a raw count into a lane
count two fall back to 2 and one, the last row, to whatever the sink says
(`lanes_agree_iff`).

**What is left out.**  `SYSLOG` and the counters that only limit it.
-/
import NootedGreen.Lib.Runs
import Mathlib.Logic.Function.Basic

namespace NootedGreen

/-- The bytes at the pointer the driver passed. -/
abbrev AuxBuffer := Nat → BitVec 8

def kIOReturnSuccess : BitVec 32 := 0

/-- What the plugin has seen of the sink. -/
structure DpcdCache where
  dpcdRevision : BitVec 8
  dpcdMaxLinkRate : BitVec 8
  dpcdMaxLaneCountRaw : BitVec 8
  dpcdBacklightCaps : BitVec 8
  dpcdBacklightCapsValid : Bool
  dpcdCapsValid : Bool
  deriving DecidableEq, Repr

def isLaneCount (laneCount : BitVec 8) : Bool := laneCount == 1 || laneCount == 2 || laneCount == 4

/-! ## The read hook -/

/-- A link rate in byte `i`, kept to 5.4 Gbps. -/
def capRate (i : Nat) (raw : AuxBuffer) : AuxBuffer :=
  if raw i > 0x14 then Function.update raw i 0x14 else raw

/-- V98T: a read of `LINK_BW_SET`. -/
def v98tClamp (length : BitVec 32) (c : DpcdCache) (raw : AuxBuffer) : AuxBuffer :=
  let raw := capRate 0 raw
  if 2 ≤ length ∧ c.dpcdCapsValid = true then
    let cachedLaneCount := c.dpcdMaxLaneCountRaw &&& 0x1F
    if isLaneCount cachedLaneCount then
      Function.update raw 1 ((raw 1 &&& 0xE0) ||| cachedLaneCount)
    else raw
  else raw

/-- V98: the capabilities of the sink, capped.  Bytes 0, 1 and 2 of a `DPCDCap16` are
`revision`, `maxLinkRate` and `maxLaneCount`. -/
def v98Cap (caps : AuxBuffer) : AuxBuffer :=
  let sinkMaxLaneCount := caps 2
  let caps := capRate 1 caps
  let laneCount := sinkMaxLaneCount &&& 0x1F
  let laneCount := if isLaneCount laneCount then laneCount else 2
  Function.update caps 2 ((caps 2 &&& 0xE0) ||| laneCount)

/-- A read of the capabilities: the sink's own values go to the cache. -/
def readCaps (isRealTGL : Bool) (caps : AuxBuffer) (c : DpcdCache) : AuxBuffer × DpcdCache :=
  let c := { c with
    dpcdRevision := caps 0
    dpcdMaxLinkRate := caps 1
    dpcdMaxLaneCountRaw := caps 2
    dpcdCapsValid := true }
  let caps := if isRealTGL then caps else v98Cap caps
  let caps := if caps 0 < 0x03 then Function.update caps 1 0 else caps
  (caps, c)

/-- The hook after a read that succeeded, on the buffer it filled. -/
def afterRead (isRealTGL : Bool) (address length : BitVec 32) (raw : AuxBuffer) (c : DpcdCache) :
    AuxBuffer × DpcdCache :=
  let raw :=
    if isRealTGL = false ∧ address = 0x0100 ∧ 1 ≤ length then v98tClamp length c raw else raw
  if address = 0x0700 ∧ 1 ≤ length then
    (raw, { c with dpcdBacklightCaps := raw 0, dpcdBacklightCapsValid := true })
  else if address ≠ 0x0000 ∧ address ≠ 0x2200 then (raw, c)
  else if length < 16 then (raw, c)
  else readCaps isRealTGL raw c

/-- `wrapICLReadAUX`, from what the original returned; `none` is a null buffer, which every
block of the hook tests for. -/
def wrapICLReadAUX (isRealTGL : Bool) (retVal address length : BitVec 32)
    (buffer : Option AuxBuffer) (c : DpcdCache) : Option AuxBuffer × DpcdCache :=
  if retVal ≠ kIOReturnSuccess then (buffer, c)
  else
    match buffer with
    | none => (none, c)
    | some raw =>
        let (raw, c) := afterRead isRealTGL address length raw c
        (some raw, c)

/-! ## The lane count -/

/-- `ngreenLanes`, when it is 1, 2 or 4. -/
def getConfiguredLaneCountOverride (ngreenLanes : Option (BitVec 32)) : BitVec 32 :=
  match ngreenLanes with
  | some lanesArg => if lanesArg = 1 ∨ lanesArg = 2 ∨ lanesArg = 4 then lanesArg else 0
  | none => 0

def sanitizeDpcdLaneCount (rawLaneCount : BitVec 8) : BitVec 32 :=
  if isLaneCount (rawLaneCount &&& 0x1F) then (rawLaneCount &&& 0x1F).setWidth 32 else 0

/-- What `computeLaneCount` stores; `original` is what Apple's own would store. -/
def computeLaneCount (isRealTGL : Bool) (ngreenLanes : Option (BitVec 32)) (original : BitVec 32)
    (c : DpcdCache) : BitVec 32 :=
  if isRealTGL then original
  else
    let lanesOverride := getConfiguredLaneCountOverride ngreenLanes
    let dpcdLaneCount :=
      if c.dpcdCapsValid then sanitizeDpcdLaneCount c.dpcdMaxLaneCountRaw else 0
    if lanesOverride ≠ 0 then lanesOverride
    else if dpcdLaneCount ≠ 0 then dpcdLaneCount
    else 2

/-! ## Single bytes -/

/-- The low five bits are what they were set to; the flags above stay. -/
theorem laneBits_set (flags : BitVec 8) {laneCount : BitVec 8}
    (h : laneCount &&& 0x1F = laneCount) :
    ((flags &&& 0xE0) ||| laneCount) &&& 0x1F = laneCount := by
  have hflags : flags &&& 0xE0 &&& 0x1F = 0 := by
    rw [BitVec.and_assoc]
    exact BitVec.and_zero
  rw [BitVec.and_or_distrib_right, hflags, h]
  exact BitVec.zero_or

theorem laneBits_idem (raw : BitVec 8) : raw &&& 0x1F &&& 0x1F = raw &&& 0x1F := by
  rw [BitVec.and_assoc]
  rfl

/-- The count a raw byte is taken for where the fallback is 2. -/
def laneCountOf (raw : BitVec 8) : BitVec 8 :=
  if isLaneCount (raw &&& 0x1F) then raw &&& 0x1F else 2

theorem isLaneCount_laneCountOf (raw : BitVec 8) : isLaneCount (laneCountOf raw) = true := by
  rw [laneCountOf]
  split
  · assumption
  · rfl

theorem laneBits_laneCountOf (raw : BitVec 8) : laneCountOf raw &&& 0x1F = laneCountOf raw := by
  rw [laneCountOf]
  split
  · exact laneBits_idem raw
  · rfl

theorem capRate_le (raw : AuxBuffer) (i : Nat) : capRate i raw i ≤ 0x14 := by
  rw [capRate]
  split
  · rw [Function.update_self]
    exact BitVec.le_refl _
  · exact BitVec.not_lt.mp ‹_›

theorem capRate_other (raw : AuxBuffer) {i j : Nat} (h : j ≠ i) : capRate i raw j = raw j := by
  rw [capRate]
  split
  · exact Function.update_of_ne h _ _
  · rfl

/-! ## What a read returns -/

/-- `MAX_LINK_RATE`, in both capability blocks, and `LINK_BW_SET`. -/
def IsLinkRateReg (dpcd : Nat) : Prop := dpcd = 0x0001 ∨ dpcd = 0x2201 ∨ dpcd = 0x0100

instance : DecidablePred IsLinkRateReg := fun _ => inferInstanceAs (Decidable (_ ∨ _))

/-- `MAX_LANE_COUNT`, in both capability blocks. -/
def IsMaxLaneReg (dpcd : Nat) : Prop := dpcd = 0x0002 ∨ dpcd = 0x2202

instance : DecidablePred IsMaxLaneReg := fun _ => inferInstanceAs (Decidable (_ ∨ _))

/-- The positions `handled` of a read from `address` carry no link rate above `0x14` and
no lane count but 1, 2 and 4; the others, `LANE_COUNT_SET` apart, are as the sink has them. -/
structure ClampedRead (handled : Nat → Prop) (sink : Nat → BitVec 8) (address length : BitVec 32)
    (out : AuxBuffer) : Prop where
  linkRate : ∀ i < length.toNat, handled i → IsLinkRateReg (address.toNat + i) → out i ≤ 0x14
  laneCount : ∀ i < length.toNat, handled i → IsMaxLaneReg (address.toNat + i) →
    isLaneCount (out i &&& 0x1F) = true
  others : ∀ i < length.toNat, ¬ handled i → address.toNat + i ≠ 0x0101 →
    out i = sink (address.toNat + i)

/-- Every byte of a link rate or a lane count, wherever the read starts. -/
def Everywhere (address : BitVec 32) (i : Nat) : Prop :=
  IsLinkRateReg (address.toNat + i) ∨ IsMaxLaneReg (address.toNat + i)

/-- Those bytes in a capability read from its start, and in a read from `LINK_BW_SET`. -/
def FromStart (address length : BitVec 32) (i : Nat) : Prop :=
  ((address = 0x0000 ∨ address = 0x2200) ∧ 16 ≤ length ∧ (i = 1 ∨ i = 2)) ∨
    (address = 0x0100 ∧ i = 0)

/-- The bytes the original fills the buffer with. -/
def filled (sink : Nat → BitVec 8) (address : BitVec 32) : AuxBuffer :=
  fun i => sink (address.toNat + i)

section Returned

variable (length : BitVec 32) (c : DpcdCache) (raw : AuxBuffer)

theorem v98tClamp_bw : v98tClamp length c raw 0 ≤ 0x14 := by
  simp only [v98tClamp]
  split
  · split
    · rw [Function.update_of_ne (by decide)]
      exact capRate_le raw 0
    · exact capRate_le raw 0
  · exact capRate_le raw 0

theorem v98tClamp_rest {i : Nat} (h0 : i ≠ 0) (h1 : i ≠ 1) : v98tClamp length c raw i = raw i := by
  simp only [v98tClamp]
  split
  · split
    · rw [Function.update_of_ne h1, capRate_other raw h0]
    · exact capRate_other raw h0
  · exact capRate_other raw h0

/-- The lane count set: the cached one, if there is a good one. -/
theorem v98tClamp_lanes (hlen : 2 ≤ length) (hvalid : c.dpcdCapsValid = true) :
    v98tClamp length c raw 1 &&& 0x1F =
      if isLaneCount (c.dpcdMaxLaneCountRaw &&& 0x1F) then c.dpcdMaxLaneCountRaw &&& 0x1F
      else raw 1 &&& 0x1F := by
  simp only [v98tClamp, hlen, hvalid, and_self, if_true]
  split
  · rw [Function.update_self]
    exact laneBits_set _ (laneBits_idem _)
  · rw [capRate_other raw (by decide)]

theorem v98Cap_rate : v98Cap raw 1 ≤ 0x14 := by
  rw [v98Cap, Function.update_of_ne (by decide)]
  exact capRate_le raw 1

theorem v98Cap_lanes : v98Cap raw 2 &&& 0x1F = laneCountOf (raw 2) := by
  rw [v98Cap, Function.update_self]
  exact laneBits_set _ (laneBits_laneCountOf (raw 2))

theorem v98Cap_rest {i : Nat} (h1 : i ≠ 1) (h2 : i ≠ 2) : v98Cap raw i = raw i := by
  rw [v98Cap, Function.update_of_ne h2, capRate_other raw h1]

theorem readCaps_rate : (readCaps false raw c).1 1 ≤ 0x14 := by
  simp only [readCaps, Bool.false_eq_true, if_false]
  split
  · rw [Function.update_self]
    decide
  · exact v98Cap_rate raw

/-- Past the link rate the revision makes no difference. -/
theorem readCaps_other {i : Nat} (h1 : i ≠ 1) : (readCaps false raw c).1 i = v98Cap raw i := by
  simp only [readCaps, Bool.false_eq_true, if_false]
  split
  · exact Function.update_of_ne h1 _ _
  · rfl

theorem afterRead_linkSet (hlen : 1 ≤ length) :
    afterRead false 0x0100 length raw c = (v98tClamp length c raw, c) := by
  simp only [afterRead, hlen, and_self, if_true]
  rfl

theorem afterRead_caps {address : BitVec 32} (haddr : address = 0x0000 ∨ address = 0x2200)
    (hlen : 16 ≤ length) : afterRead false address length raw c = readCaps false raw c := by
  have hlen' : ¬ length < 16 := BitVec.not_lt.mpr hlen
  rcases haddr with rfl | rfl
  · simp only [afterRead, if_neg hlen']
    rfl
  · simp only [afterRead, if_neg hlen']
    rfl

theorem caps_of_passed {address length : BitVec 32}
    (haddr : ¬ (address ≠ 0x0000 ∧ address ≠ 0x2200))
    (hlen : ¬ length < 16) : (address = 0x0000 ∨ address = 0x2200) ∧ 16 ≤ length := by
  refine ⟨?_, BitVec.not_lt.mp hlen⟩
  by_cases hzero : address = 0x0000
  · exact .inl hzero
  · exact .inr (not_not.mp fun h => haddr ⟨hzero, h⟩)

/-- No other read is changed. -/
theorem afterRead_plain {address : BitVec 32}
    (hcaps : ¬ ((address = 0x0000 ∨ address = 0x2200) ∧ 16 ≤ length))
    (hset : ¬ (address = 0x0100 ∧ 1 ≤ length)) :
    (afterRead false address length raw c).1 = raw := by
  simp only [afterRead, true_and, if_neg hset]
  split
  · rfl
  · split
    · rfl
    · rename_i haddr
      split
      · rfl
      · exact absurd (caps_of_passed haddr ‹_›) hcaps

end Returned

/-- A buffer the hook leaves alone. -/
theorem ClampedRead.of_plain {sink : Nat → BitVec 8} {address length : BitVec 32} {out : AuxBuffer}
    (hplain : ∀ i < length.toNat, ¬ FromStart address length i)
    (h : out = filled sink address) :
    ClampedRead (FromStart address length) sink address length out := by
  subst h
  constructor
  · intro i hi hfrom
    exact absurd hfrom (hplain i hi)
  · intro i hi hfrom
    exact absurd hfrom (hplain i hi)
  · intro i _ _ _
    rfl

/-- Off real Tiger Lake, of every successful read: link rate and lane count are clamped in
capability reads from the start of a block and in reads from `LINK_BW_SET`, and every other
byte, `LANE_COUNT_SET` apart, is the sink's. -/
theorem aux_read_clamped (sink : Nat → BitVec 8) (address length : BitVec 32) (c : DpcdCache) :
    ∃ out, (wrapICLReadAUX false kIOReturnSuccess address length
        (some (filled sink address)) c).1 = some out ∧
      ClampedRead (FromStart address length) sink address length out := by
  refine ⟨(afterRead false address length (filled sink address) c).1, rfl, ?_⟩
  by_cases hcaps : (address = 0x0000 ∨ address = 0x2200) ∧ 16 ≤ length
  · obtain ⟨haddr, hlen⟩ := hcaps
    have hfrom : ∀ {i}, FromStart address length i → i = 1 ∨ i = 2 := by
      rintro i (⟨-, -, hi⟩ | ⟨hset, -⟩)
      · exact hi
      · subst hset
        exact absurd haddr (by decide)
    rw [afterRead_caps length c _ haddr hlen]
    constructor
    · intro i _ hi hreg
      rcases hfrom hi with rfl | rfl
      · exact readCaps_rate c _
      · -- byte 2 of a capability block is no link rate
        rcases haddr with rfl | rfl <;> exact absurd hreg (by decide)
    · intro i _ hi hreg
      rcases hfrom hi with rfl | rfl
      · rcases haddr with rfl | rfl <;> exact absurd hreg (by decide)
      · rw [readCaps_other c _ (by decide), v98Cap_lanes]
        exact isLaneCount_laneCountOf _
    · intro i _ hi _
      have hne : i ≠ 1 ∧ i ≠ 2 := by
        constructor
        · rintro rfl
          exact hi (.inl ⟨haddr, hlen, .inl rfl⟩)
        · rintro rfl
          exact hi (.inl ⟨haddr, hlen, .inr rfl⟩)
      rw [readCaps_other c _ hne.1, v98Cap_rest _ hne.1 hne.2]
      rfl
  · by_cases hset : address = 0x0100 ∧ 1 ≤ length
    · obtain ⟨rfl, hlen⟩ := hset
      rw [afterRead_linkSet length c _ hlen]
      have hfrom : ∀ {i}, FromStart 0x0100 length i ↔ i = 0 := by
        intro i
        constructor
        · rintro (⟨haddr, -⟩ | ⟨-, hi⟩)
          · exact absurd haddr (by decide)
          · exact hi
        · intro hi
          exact .inr ⟨rfl, hi⟩
      constructor
      · intro i _ hi _
        rw [hfrom.mp hi]
        exact v98tClamp_bw length c _
      · intro i _ hi hreg
        rw [hfrom.mp hi] at hreg
        exact absurd hreg (by decide)
      · intro i _ hi hlanes
        have hone : i ≠ 1 := by
          rintro rfl
          exact hlanes rfl
        exact v98tClamp_rest length c _ (fun h => hi (hfrom.mpr h)) hone
    · refine .of_plain ?_ (afterRead_plain length c _ hcaps hset)
      rintro i hi (⟨haddr, hlen, -⟩ | ⟨haddr, -⟩)
      · exact hcaps ⟨haddr, hlen⟩
      · refine hset ⟨haddr, ?_⟩
        rw [BitVec.le_def]
        show 1 ≤ length.toNat
        omega

/-- `MAX_LINK_RATE` read by itself comes through unclamped. -/
theorem single_byte_not_clamped :
    ¬ ∃ out, (wrapICLReadAUX false kIOReturnSuccess 0x0001 1
        (some (filled (fun _ => 0x1E) 0x0001)) ⟨0, 0, 0, 0, false, false⟩).1 = some out ∧
      ClampedRead (Everywhere 0x0001) (fun _ => 0x1E) 0x0001 1 out := by
  rintro ⟨out, hout, h⟩
  have hrate := h.linkRate 0 (by decide) (.inl (.inl rfl)) (.inl rfl)
  have hbyte : out = filled (fun _ => 0x1E) 0x0001 := (Option.some.inj hout).symm
  rw [hbyte] at hrate
  exact absurd hrate (by decide)

/-! ## Sequences of reads -/

/-- A read that succeeds, with what the original leaves in the buffer. -/
structure AuxRead where
  address : BitVec 32
  length : BitVec 32
  sink : AuxBuffer

namespace AuxRead

/-- Off real Tiger Lake: the buffer returned, and the cache after it. -/
def returned (r : AuxRead) (c : DpcdCache) : AuxBuffer :=
  (afterRead false r.address r.length r.sink c).1

def step (r : AuxRead) (c : DpcdCache) : DpcdCache :=
  (wrapICLReadAUX false kIOReturnSuccess r.address r.length (some r.sink) c).2

/-- A full capability read. -/
def IsCaps (r : AuxRead) : Prop := (r.address = 0x0000 ∨ r.address = 0x2200) ∧ 16 ≤ r.length

/-- A read of `LINK_BW_SET` and `LANE_COUNT_SET`. -/
def IsLaneSet (r : AuxRead) : Prop := r.address = 0x0100 ∧ 2 ≤ r.length

/-- The cache holds this raw lane count. -/
def Cached (raw : BitVec 8) (c : DpcdCache) : Prop :=
  c.dpcdCapsValid = true ∧ c.dpcdMaxLaneCountRaw = raw

theorem step_caps {r : AuxRead} (h : r.IsCaps) (c : DpcdCache) : Cached (r.sink 2) (r.step c) := by
  have hstep : r.step c = (afterRead false r.address r.length r.sink c).2 := rfl
  rw [hstep, afterRead_caps _ _ _ h.1 h.2]
  exact ⟨rfl, rfl⟩

/-- Only capability reads change the cached count. -/
theorem step_other {r : AuxRead} (h : ¬ r.IsCaps) {raw : BitVec 8} {c : DpcdCache}
    (hc : Cached raw c) : Cached raw (r.step c) := by
  have hstep : r.step c = (afterRead false r.address r.length r.sink c).2 := rfl
  rw [hstep]
  simp only [afterRead]
  split
  · exact hc
  · split
    · exact hc
    · rename_i haddr
      split
      · exact hc
      · exact absurd (caps_of_passed haddr ‹_›) h

/-- From a capability read to the next one the cache holds its count. -/
theorem cached_since {r : AuxRead} (h : r.IsCaps) (pre : List AuxRead) {post : List AuxRead}
    (hpost : ∀ r ∈ post, ¬ r.IsCaps) (c : DpcdCache) :
    Cached (r.sink 2) (Runs.run step (pre ++ r :: post) c) := by
  rw [Runs.run_append]
  exact Runs.states_of_mem (P := Cached (r.sink 2)) (Q := fun r => ¬ r.IsCaps)
    (fun _ _ hr hc => step_other hr hc) post _ hpost (step_caps h _) _
    (Runs.run_mem_states step post _)

theorem returned_caps {r : AuxRead} (h : r.IsCaps) (c : DpcdCache) :
    r.returned c 2 &&& 0x1F = laneCountOf (r.sink 2) := by
  rw [returned, afterRead_caps _ _ _ h.1 h.2, readCaps_other c _ (by decide), v98Cap_lanes]

theorem returned_laneSet {r : AuxRead} (h : r.IsLaneSet) {raw : BitVec 8} {c : DpcdCache}
    (hc : Cached raw c) :
    r.returned c 1 &&& 0x1F =
      if isLaneCount (raw &&& 0x1F) then raw &&& 0x1F else r.sink 1 &&& 0x1F := by
  obtain ⟨haddr, hlen⟩ := h
  have hone : 1 ≤ r.length := by
    rw [BitVec.le_def] at hlen ⊢
    exact Nat.le_trans (by decide) hlen
  rw [returned, haddr, afterRead_linkSet _ _ _ hone, v98tClamp_lanes _ _ _ hlen hc.1, hc.2]

end AuxRead

/-- What `computeLaneCount` reports from a filled cache. -/
theorem computeLaneCount_cached {ngreenLanes : Option (BitVec 32)}
    (hlanes : getConfiguredLaneCountOverride ngreenLanes = 0) (original : BitVec 32)
    {raw : BitVec 8} {c : DpcdCache} (hc : AuxRead.Cached raw c) :
    computeLaneCount false ngreenLanes original c = (laneCountOf raw).setWidth 32 := by
  have hne : isLaneCount (raw &&& 0x1F) = true → (raw &&& 0x1F).setWidth 32 ≠ (0 : BitVec 32) := by
    intro h
    rw [isLaneCount, Bool.or_eq_true, Bool.or_eq_true, beq_iff_eq, beq_iff_eq, beq_iff_eq] at h
    rcases h with (h | h) | h <;> rw [h] <;> decide
  simp only [computeLaneCount, Bool.false_eq_true, if_false, hlanes, ne_eq, not_true_eq_false,
    hc.1, if_true, hc.2, sanitizeDpcdLaneCount, laneCountOf]
  cases hvalid : isLaneCount (raw &&& 0x1F) with
  | true => simp only [if_true, hne hvalid, not_false_eq_true]
  | false => rfl

/-- The lane count of a capability read `cap`, reached after the reads `pre` and followed by
the reads `post`, is the same wherever it is asked for. -/
structure LanesAgree (ngreenLanes : Option (BitVec 32)) (original : BitVec 32) (c : DpcdCache)
    (pre : List AuxRead) (cap : AuxRead) (post : List AuxRead) : Prop where
  good : isLaneCount (cap.returned (Runs.run AuxRead.step pre c) 2 &&& 0x1F) = true
  computed : computeLaneCount false ngreenLanes original
      (Runs.run AuxRead.step (pre ++ cap :: post) c) =
    (cap.returned (Runs.run AuxRead.step pre c) 2 &&& 0x1F).setWidth 32
  laneSet : ∀ js r ks, post = js ++ r :: ks → r.IsLaneSet →
    r.returned (Runs.run AuxRead.step (pre ++ cap :: js) c) 1 &&& 0x1F =
      cap.returned (Runs.run AuxRead.step pre c) 2 &&& 0x1F

/-- The sources agree exactly when the sink advertises a lane count of 1, 2 or 4, or happens
to say 2 in every later read of `LANE_COUNT_SET`. -/
theorem lanes_agree_iff {ngreenLanes : Option (BitVec 32)}
    (hlanes : getConfiguredLaneCountOverride ngreenLanes = 0) (original : BitVec 32)
    (c : DpcdCache) (pre : List AuxRead) {cap : AuxRead} (hcap : cap.IsCaps)
    {post : List AuxRead} (hpost : ∀ r ∈ post, ¬ r.IsCaps) :
    LanesAgree ngreenLanes original c pre cap post ↔
      isLaneCount (cap.sink 2 &&& 0x1F) = true ∨
        ∀ r ∈ post, r.IsLaneSet → r.sink 1 &&& 0x1F = 2 := by
  have hcount := AuxRead.returned_caps hcap (Runs.run AuxRead.step pre c)
  have hset : ∀ js r ks, post = js ++ r :: ks → r.IsLaneSet →
      r.returned (Runs.run AuxRead.step (pre ++ cap :: js) c) 1 &&& 0x1F =
        if isLaneCount (cap.sink 2 &&& 0x1F) then cap.sink 2 &&& 0x1F else r.sink 1 &&& 0x1F := by
    rintro js r ks rfl hr
    refine AuxRead.returned_laneSet hr (AuxRead.cached_since hcap pre ?_ c)
    exact fun r hr => hpost r (List.mem_append_left _ hr)
  constructor
  · intro h
    cases hvalid : isLaneCount (cap.sink 2 &&& 0x1F) with
    | true => exact .inl rfl
    | false =>
        refine .inr fun r hr hlane => ?_
        obtain ⟨js, ks, hsplit⟩ := List.append_of_mem hr
        have hagree := h.laneSet js r ks hsplit hlane
        rw [hset js r ks hsplit hlane, hcount, laneCountOf, hvalid] at hagree
        exact hagree
  · intro h
    refine ⟨?_, ?_, ?_⟩
    · rw [hcount]
      exact isLaneCount_laneCountOf _
    · rw [hcount]
      exact computeLaneCount_cached hlanes original (AuxRead.cached_since hcap pre hpost c)
    · intro js r ks hsplit hlane
      rw [hset js r ks hsplit hlane, hcount, laneCountOf]
      split
      · rfl
      · rename_i hinvalid
        refine h.resolve_left hinvalid r ?_ hlane
        rw [hsplit]
        exact List.mem_append_right _ List.mem_cons_self

/-- Every byte of the sink the same. -/
def uniformRead (address length : BitVec 32) (byte : BitVec 8) : AuxRead :=
  ⟨address, length, fun _ => byte⟩

/-- A sink with four lanes, of which the firmware has set up two. -/
theorem lanes_agree_four :
    getConfiguredLaneCountOverride none = 0 ∧
    LanesAgree none 0 ⟨0, 0, 0, 0, false, false⟩ [] (uniformRead 0x0000 16 0x84)
      [uniformRead 0x0100 2 0x82] := by
  refine ⟨rfl, (lanes_agree_iff rfl 0 _ [] ⟨.inl rfl, by decide⟩ ?_).mpr (.inl (by decide))⟩
  intro r hr hcaps
  rw [List.mem_singleton.mp hr] at hcaps
  exact absurd hcaps.1 (by decide)

/-- A sink that advertises three lanes and is set up with four: the capabilities say 2, the
read of `LANE_COUNT_SET` says 4. -/
theorem three_lanes_disagree :
    ¬ LanesAgree none 0 ⟨0, 0, 0, 0, false, false⟩ [] (uniformRead 0x0000 16 0x83)
      [uniformRead 0x0100 2 0x84] := by
  intro h
  have hset := h.laneSet [] (uniformRead 0x0100 2 0x84) [] rfl ⟨rfl, by decide⟩
  exact absurd hset (by decide)

end NootedGreen

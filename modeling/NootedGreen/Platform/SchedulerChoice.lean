/-
# `Platform.SchedulerChoice` — the scheduler `start` selects and the one that is documented

Documented, in the README and at the top of `start`:

    safe policy                             5
    otherwise   ngreenSched, if 3..5
                SchedulerType of NootedGreen's own personality, if 3..5
                3 on real TGL, 5 elsewhere

`start` follows it with one table in another's place: it looks for `SchedulerType` in its
argument, and that is the accelerator's provider (`selectScheduler_eq`).  The two functions
the traces use look at the boot argument alone, and know neither the policy nor the default
of real TGL.  `scheduler_priority_iff` says on which settings the four of them agree.
-/
import NootedGreen.Platform.Detection

namespace NootedGreen

/-! ## The types the traces report -/

/-- `ngreenSched` if it is one of the three types, 5 otherwise. -/
def bootSchedulerType (boot : BootArgs) : Int :=
  match boot.sched.filter fun n => 3 ≤ n ∧ n ≤ 5 with
  | some bootArgSched => bootArgSched
  | none => 5

def getRcsDeepSchedulerType (boot : BootArgs) : Int := bootSchedulerType boot

def getTraceSchedulerType (boot : BootArgs) : Int := bootSchedulerType boot

/-! ## The documented priority -/

/-- The default of the platform. -/
def PlatformFlags.defaultScheduler (flags : PlatformFlags) : Int :=
  if flags.isRealTGL then 3 else 5

/-- `SchedulerType` of a table if it is one of the three types, or the default. -/
def PlatformFlags.tableScheduler (flags : PlatformFlags) (table : OSDictionary) : Int :=
  (((table.lookup "SchedulerType").bind OSObject.schedulerType?).filter fun n =>
    3 ≤ n ∧ n ≤ 5).getD flags.defaultScheduler

def documentedScheduler (flags : PlatformFlags) (boot : BootArgs) (personality : OSDictionary) :
    Int :=
  if flags.shouldUseSpoofedSafeSchedulerPolicy then 5
  else (boot.sched.filter fun n => 3 ≤ n ∧ n ≤ 5).getD (flags.tableScheduler personality)

theorem mem_of_filter_range {o : Option Int} {n : Int}
    (h : (o.filter fun n => 3 ≤ n ∧ n ≤ 5) = some n) : n ∈ ([3, 4, 5] : List Int) := by
  have hrange : 3 ≤ n ∧ n ≤ 5 := of_decide_eq_true (Option.filter_eq_some_iff.mp h).2
  simp only [List.mem_cons, List.not_mem_nil, or_false]
  omega

theorem PlatformFlags.tableScheduler_mem (flags : PlatformFlags) (table : OSDictionary) :
    flags.tableScheduler table ∈ ([3, 4, 5] : List Int) := by
  rw [PlatformFlags.tableScheduler]
  cases h : ((table.lookup "SchedulerType").bind OSObject.schedulerType?).filter fun n =>
      3 ≤ n ∧ n ≤ 5 with
  | some n => exact mem_of_filter_range h
  | none =>
      rw [Option.getD_none, PlatformFlags.defaultScheduler]
      cases flags.isRealTGL <;> decide

theorem documentedScheduler_mem (flags : PlatformFlags) (boot : BootArgs)
    (personality : OSDictionary) :
    documentedScheduler flags boot personality ∈ ([3, 4, 5] : List Int) := by
  rw [documentedScheduler]
  split
  · decide
  · cases h : boot.sched.filter fun n => 3 ≤ n ∧ n ≤ 5 with
    | some n => exact mem_of_filter_range h
    | none => exact flags.tableScheduler_mem personality

/-- `start` follows the documented priority, with the provider's table for the
personality's. -/
theorem selectScheduler_eq (flags : PlatformFlags) (boot : BootArgs)
    (provider : Option OSDictionary) :
    selectScheduler flags boot provider = documentedScheduler flags boot (provider.getD []) := by
  have htable : (provider.getD []).lookup "SchedulerType" =
      provider.bind (List.lookup "SchedulerType") := by
    cases provider <;> rfl
  rw [selectScheduler, documentedScheduler, PlatformFlags.tableScheduler, htable]
  cases hsafe : flags.shouldUseSpoofedSafeSchedulerPolicy with
  | false =>
      cases boot.sched.filter fun n => 3 ≤ n ∧ n ≤ 5 with
      | some n => rfl
      | none =>
          cases (provider.bind (List.lookup "SchedulerType")).bind OSObject.schedulerType? with
          | none => rfl
          | some val =>
              rw [Option.filter_some]
              by_cases hval : 3 ≤ val ∧ val ≤ 5
              · simp [hval]
              · simp [hval, PlatformFlags.defaultScheduler]
  | true =>
      -- off real TGL, so the default is 5 as well
      have hreal : flags.isRealTGL = false := by
        rw [PlatformFlags.shouldUseSpoofedSafeSchedulerPolicy, Bool.and_eq_true,
          Bool.not_eq_true'] at hsafe
        exact hsafe.1
      cases boot.sched.filter fun n => 3 ≤ n ∧ n ≤ 5 with
      | some n => by_cases hn : n = 5 <;> simp [hn]
      | none =>
          cases (provider.bind (List.lookup "SchedulerType")).bind OSObject.schedulerType? with
          | none => simp [hreal]
          | some val => by_cases hval : val = 5 <;> simp [hval]

/-! ## What `start` publishes -/

/-- `GraphicsSchedulerSelect` in `Development`, as the accelerator will read it. -/
def developmentScheduler (service : OSDictionary) : Option OSObject :=
  match service.lookup "Development" with
  | some (.dictionary devDict) => devDict.lookup "GraphicsSchedulerSelect"
  | _ => none

/-- The type is in the accelerator's table, and in its `Development` dictionary if there
was one. -/
structure PublishesScheduler (service after : OSDictionary) (schedType : Int) : Prop where
  property : after.lookup "GraphicsSchedulerSelect" =
    some (.number (BitVec.ofInt 64 schedType) 32)
  development : ∀ devDict, service.lookup "Development" = some (.dictionary devDict) →
    developmentScheduler after = some (.number (BitVec.ofInt 64 schedType) 32)

theorem publishScheduler_publishes (flags : PlatformFlags) (schedType : Int)
    (service : OSDictionary) :
    PublishesScheduler service (publishScheduler flags schedType service) schedType := by
  constructor
  · rw [publishScheduler]
    dsimp only
    split
    · rw [Assoc.lookup_set_other (by decide), lookup_set_flags (by decide) (by decide),
        Assoc.lookup_set_same]
    · rw [lookup_set_flags (by decide) (by decide), Assoc.lookup_set_same]
  · intro devDict hdev
    rw [publishScheduler]
    dsimp only
    rw [lookup_set_flags (by decide) (by decide), Assoc.lookup_set_other (by decide), hdev]
    rw [developmentScheduler, Assoc.lookup_set_same]
    dsimp only
    rw [Assoc.lookup_set_other (by decide), Assoc.lookup_set_same]

theorem injectMultiForceWakeSelect_lookup {key : String} (h : key ≠ "Development")
    (flags : PlatformFlags) (service : OSDictionary) :
    (injectMultiForceWakeSelect flags service).lookup key = service.lookup key := by
  rw [injectMultiForceWakeSelect]
  split
  · split
    · exact Assoc.lookup_set_other h _ _
    · exact Assoc.lookup_set_other h _ _
  · rfl

theorem developmentScheduler_inject {service : OSDictionary} {v : OSObject}
    (h : developmentScheduler service = some v) (flags : PlatformFlags) :
    developmentScheduler (injectMultiForceWakeSelect flags service) = some v := by
  rw [injectMultiForceWakeSelect]
  split
  · split
    · next devDict hdev =>
        rw [developmentScheduler, hdev] at h
        rw [developmentScheduler, Assoc.lookup_set_same]
        dsimp only
        rwa [Assoc.lookup_set_other (by decide)]
    · next hdev =>
        -- nothing to find in what is no dictionary
        rw [developmentScheduler] at h
        split at h
        · next devDict hdict => exact absurd hdict (hdev devDict)
        · cases h
  · exact h

theorem startProperties_publishes (flags : PlatformFlags) (boot : BootArgs)
    (provider : Option OSDictionary) (service : OSDictionary) :
    PublishesScheduler service (startProperties flags boot provider service)
      (selectScheduler flags boot provider) := by
  have hpublish := publishScheduler_publishes flags (selectScheduler flags boot provider) service
  constructor
  · rw [startProperties, injectMultiForceWakeSelect_lookup (by decide)]
    exact hpublish.property
  · intro devDict hdev
    exact developmentScheduler_inject (hpublish.development devDict hdev) flags

/-- The three types are told apart by the numbers published. -/
theorem PublishesScheduler.unique {service after : OSDictionary} {n m : Int}
    (hn : PublishesScheduler service after n) (hm : PublishesScheduler service after m)
    (hnrange : n ∈ ([3, 4, 5] : List Int)) (hmrange : m ∈ ([3, 4, 5] : List Int)) : n = m := by
  have hnumber := Option.some.inj (hn.property.symm.trans hm.property)
  have hbits : BitVec.ofInt 64 n = BitVec.ofInt 64 m := (OSObject.number.inj hnumber).1
  revert hbits
  simp only [List.mem_cons, List.not_mem_nil, or_false] at hnrange hmrange
  rcases hnrange with rfl | rfl | rfl <;> rcases hmrange with rfl | rfl | rfl <;> decide

/-! ## The priority and the code -/

/-- One type is injected: one of the three, the documented one, and the one the traces
report. -/
structure SchedulerPriority (flags : PlatformFlags) (boot : BootArgs)
    (provider : Option OSDictionary) (personality service : OSDictionary) (schedType : Int) :
    Prop where
  published : PublishesScheduler service (startProperties flags boot provider service) schedType
  known : schedType ∈ ([3, 4, 5] : List Int)
  documented : schedType = documentedScheduler flags boot personality
  deep : getRcsDeepSchedulerType boot = schedType
  trace : getTraceSchedulerType boot = schedType

/-- The settings on which the boot argument alone decides, or nothing but 5 can come out. -/
def SchedulersAgree (flags : PlatformFlags) (boot : BootArgs) (provider : Option OSDictionary)
    (personality : OSDictionary) : Prop :=
  if flags.shouldUseSpoofedSafeSchedulerPolicy then boot.sched ≠ some 3 ∧ boot.sched ≠ some 4
  else (∃ n, boot.sched = some n ∧ 3 ≤ n ∧ n ≤ 5) ∨
    flags.tableScheduler (provider.getD []) = 5 ∧ flags.tableScheduler personality = 5

theorem exists_schedulerPriority_iff (flags : PlatformFlags) (boot : BootArgs)
    (provider : Option OSDictionary) (personality service : OSDictionary) :
    (∃ schedType, SchedulerPriority flags boot provider personality service schedType) ↔
      selectScheduler flags boot provider = documentedScheduler flags boot personality ∧
        bootSchedulerType boot = selectScheduler flags boot provider := by
  have hpublished := startProperties_publishes flags boot provider service
  have hknown : selectScheduler flags boot provider ∈ ([3, 4, 5] : List Int) := by
    rw [selectScheduler_eq]
    exact documentedScheduler_mem flags boot _
  constructor
  · rintro ⟨schedType, h⟩
    obtain rfl := h.published.unique hpublished h.known hknown
    exact ⟨h.documented, h.deep⟩
  · rintro ⟨hdocumented, hboot⟩
    exact ⟨_, hpublished, hknown, hdocumented, hboot, hboot⟩

theorem bootSchedulerType_eq_five_iff (boot : BootArgs) :
    bootSchedulerType boot = 5 ↔ boot.sched ≠ some 3 ∧ boot.sched ≠ some 4 := by
  rw [bootSchedulerType]
  cases boot.sched with
  | none => exact iff_of_true rfl ⟨Option.some_ne_none 3 ∘ Eq.symm, Option.some_ne_none 4 ∘ Eq.symm⟩
  | some n =>
      rw [Option.filter_some]
      by_cases hn : 3 ≤ n ∧ n ≤ 5
      · simp only [hn, and_self, decide_true, if_true, ne_eq, Option.some.injEq]
        omega
      · simp only [hn, decide_false, Bool.false_eq_true, if_false, ne_eq, Option.some.injEq,
          true_iff]
        omega

/-- The documented priority holds everywhere exactly on the settings on which the boot
argument alone decides, or nothing but 5 can come out. -/
theorem scheduler_priority_iff (flags : PlatformFlags) (boot : BootArgs)
    (provider : Option OSDictionary) (personality service : OSDictionary) :
    (∃ schedType, SchedulerPriority flags boot provider personality service schedType) ↔
      SchedulersAgree flags boot provider personality := by
  rw [exists_schedulerPriority_iff, selectScheduler_eq, SchedulersAgree]
  simp only [documentedScheduler]
  cases hsafe : flags.shouldUseSpoofedSafeSchedulerPolicy with
  | true =>
      simp only [if_true, true_and]
      exact bootSchedulerType_eq_five_iff boot
  | false =>
      simp only [Bool.false_eq_true, if_false, bootSchedulerType]
      cases hboot : boot.sched.filter fun n => 3 ≤ n ∧ n ≤ 5 with
      | some n =>
          obtain ⟨hsched, hrange⟩ := Option.filter_eq_some_iff.mp hboot
          exact iff_of_true ⟨rfl, rfl⟩ (.inl ⟨n, hsched, of_decide_eq_true hrange⟩)
      | none =>
          have hnot : ¬ ∃ n, boot.sched = some n ∧ 3 ≤ n ∧ n ≤ 5 := by
            rintro ⟨n, hsched, hrange⟩
            rw [hsched, Option.filter_some, if_pos (decide_eq_true hrange)] at hboot
            cases hboot
          rw [or_iff_right hnot]
          constructor
          · rintro ⟨hsame, hfive⟩
            exact ⟨hfive.symm, (hfive.trans hsame).symm⟩
          · rintro ⟨hprovider, hpersonality⟩
            exact ⟨hprovider.trans hpersonality.symm, hprovider.symm⟩

/-- NootedGreen's personality as it is shipped. -/
def shippedPersonality : OSDictionary :=
  [("IOProviderClass", .string "IOResources"), ("IOResourceMatch", .string "IOKit"),
    ("SchedulerType", .number 5 32), ("AccelerationTestingRequiresAllow3D", .boolean true)]

/-- With the flags `processPatcher` leaves, no boot argument and a provider without a
`SchedulerType`, 3 is injected, where the personality asks for 5 and the traces report it. -/
theorem shipped_scheduler_ignored :
    let flags := processPatcherFlags 0x906A3 .none
    (startProperties flags .none (some []) []).lookup "GraphicsSchedulerSelect" =
        some (.number 3 32) ∧
      documentedScheduler flags .none shippedPersonality = 5 ∧
      getTraceSchedulerType .none = 5 ∧
      ¬ ∃ schedType, SchedulerPriority flags .none (some []) shippedPersonality [] schedType := by
  refine ⟨rfl, rfl, rfl, ?_⟩
  rw [exists_schedulerPriority_iff]
  rintro ⟨hselect, -⟩
  exact absurd hselect (by decide)

end NootedGreen

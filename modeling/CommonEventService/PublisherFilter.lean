import CommonEventService.StaticSubscriberManager
import CommonEventService.SubscriberMatching

/-!
# What a publisher asks of its subscribers

A publisher may ask five things of those who receive its event, and say
whether all of them or any is to be met. The service decides it twice, once
for the subscribers of run time and once for the static ones, each time by
two bit masks: what is asked, and what is met of it.

Here the masks are sets of criteria, and the two functions are read as one
statement about sets. The static one never looks at the version a publisher
asks for. So for one and the same subscriber the two agree unless it is the
version that decides, and `VersionDecides` is when it does.
-/

namespace CommonEventService

/-- What a publisher may ask for. -/
inductive FilterCriterion where
  | bundle
  | permission
  | subscriberType
  | subscriberUid
  | version
  deriving DecidableEq, Repr

/-- The bit mask of a set of criteria. -/
def filterMask (criteria : FilterCriterion → Bool) : UInt16 :=
  (if criteria .bundle then SUBSCRIBER_FILTER_BUNDLE_INDEX else 0)
    ||| (if criteria .subscriberType then SUBSCRIBER_FILTER_SUBSCRIBER_TYPE_INDEX else 0)
    ||| (if criteria .subscriberUid then SUBSCRIBER_FILTER_SUBSCRIBER_UID_INDEX else 0)
    ||| (if criteria .permission then SUBSCRIBER_FILTER_PERMISSION_INDEX else 0)
    ||| (if criteria .version then SUBSCRIBER_FILTER_VERSION else 0)

/-- **Who is selected**: everyone where nothing is asked, and otherwise those
who meet what is asked, by the rule. -/
def Selects (rule : ValidationRule) (asked met : FilterCriterion → Bool) : Prop :=
  (∀ c, asked c = false) ∨
    match rule with
    | .AND => ∀ c, met c = asked c
    | .OR => ∃ c, asked c = true ∧ met c = true

/-! ## Masks as sets -/

section Mask

variable {criteria criteria' : FilterCriterion → Bool}

theorem FilterCriterion.forall_iff {p : FilterCriterion → Prop} :
    (∀ c, p c) ↔ p .bundle ∧ p .permission ∧ p .subscriberType ∧ p .subscriberUid ∧ p .version :=
  ⟨fun h => ⟨h _, h _, h _, h _, h _⟩, fun ⟨h₁, h₂, h₃, h₄, h₅⟩ c => by cases c <;> assumption⟩

theorem FilterCriterion.exists_iff {p : FilterCriterion → Prop} :
    (∃ c, p c) ↔ p .bundle ∨ p .permission ∨ p .subscriberType ∨ p .subscriberUid ∨ p .version := by
  constructor
  · rintro ⟨c, hc⟩
    cases c <;> simp [hc]
  · rintro (h | h | h | h | h) <;> exact ⟨_, h⟩

variable (criteria criteria') in
/-- Two sets with the same mask are the same. -/
theorem filterMask_inj :
    filterMask criteria = filterMask criteria' ↔ ∀ c, criteria c = criteria' c := by
  rw [FilterCriterion.forall_iff]
  unfold filterMask
  generalize criteria .bundle = b, criteria .permission = p, criteria .subscriberType = t,
    criteria .subscriberUid = u, criteria .version = v
  generalize criteria' .bundle = b', criteria' .permission = p', criteria' .subscriberType = t',
    criteria' .subscriberUid = u', criteria' .version = v'
  revert b p t u v b' p' t' u' v'
  decide +kernel

/-- The mask of nothing is zero, and no other. -/
theorem filterMask_eq_zero : filterMask criteria = 0 ↔ ∀ c, criteria c = false :=
  filterMask_inj criteria (fun _ => false)

/-- Two masks have a bit in common where the sets have a criterion. -/
theorem filterMask_and_ne_zero :
    filterMask criteria &&& filterMask criteria' ≠ 0
      ↔ ∃ c, criteria' c = true ∧ criteria c = true := by
  rw [FilterCriterion.exists_iff]
  unfold filterMask
  generalize criteria .bundle = b, criteria .permission = p, criteria .subscriberType = t,
    criteria .subscriberUid = u, criteria .version = v
  generalize criteria' .bundle = b', criteria' .permission = p', criteria' .subscriberType = t',
    criteria' .subscriberUid = u', criteria' .version = v'
  revert b p t u v b' p' t' u' v'
  decide +kernel

/-- **The test on the masks** is who is selected. -/
theorem selects_iff (rule : ValidationRule) (asked : FilterCriterion → Bool)
    {met : FilterCriterion → Bool} {checkResult : UInt16} (hmet : checkResult = filterMask met) :
    (if filterMask asked = 0 then true
      else match rule with
        | .AND => decide (checkResult = filterMask asked)
        | .OR => decide (checkResult &&& filterMask asked ≠ 0)) = true
      ↔ Selects rule asked met := by
  rw [hmet]
  unfold Selects
  rw [← filterMask_eq_zero]
  split
  next hzero => simp [hzero]
  next hzero =>
    rw [or_iff_right hzero]
    cases rule with
    | AND => exact decide_eq_true_iff.trans (filterMask_inj _ _)
    | OR => exact decide_eq_true_iff.trans filterMask_and_ne_zero

end Mask

/-- **A criterion that is passed over.** Where it is never found to be met,
and the others are found as they are, the same are selected unless it decides:
it is met, and of the others all that are asked are, or none is. -/
theorem selects_passedOver {rule : ValidationRule} {asked met met' : FilterCriterion → Bool}
    {missing : FilterCriterion} (hasked : met missing = true → asked missing = true)
    (hsame : ∀ c, c ≠ missing → met' c = met c) (hmissing : met' missing = false) :
    (Selects rule asked met' ↔ Selects rule asked met)
      ↔ ¬ (met missing = true ∧
        match rule with
        | .AND => ∀ c, c ≠ missing → met c = asked c
        | .OR => ∀ c, c ≠ missing → asked c = true → met c = false) := by
  by_cases hmet : met missing = true
  · -- the criterion met is asked, so that something is
    have hany : ¬ ∀ c, asked c = false := by
      intro hnone
      rw [hnone missing] at hasked
      cases hasked hmet
    unfold Selects
    rw [or_iff_right hany, or_iff_right hany]
    cases rule with
    | AND =>
      have hnot : ¬ ∀ c, met' c = asked c := by
        intro hall
        have hfalse := hall missing
        rw [hmissing, hasked hmet] at hfalse
        cases hfalse
      refine (iff_false_left hnot).trans (not_congr ⟨fun hall => ⟨hmet, fun c _ => hall c⟩, ?_⟩)
      rintro ⟨-, hothers⟩ c
      by_cases hc : c = missing
      · rw [hc, hmet, hasked hmet]
      · exact hothers c hc
    | OR =>
      have hselects : ∃ c, asked c = true ∧ met c = true := ⟨missing, hasked hmet, hmet⟩
      refine (iff_true_right hselects).trans ?_
      constructor
      · rintro ⟨c, hc, hmet'⟩ ⟨-, hothers⟩
        have hne : c ≠ missing := by
          rintro rfl
          rw [hmissing] at hmet'
          cases hmet'
        rw [hsame c hne, hothers c hne hc] at hmet'
        cases hmet'
      · intro hnot
        by_contra hnone
        refine hnot ⟨hmet, fun c hne hc => Bool.eq_false_iff.mpr fun htrue => hnone ⟨c, hc, ?_⟩⟩
        rw [hsame c hne]
        exact htrue
  · have heq : met' = met := by
      funext c
      by_cases hc : c = missing
      · rw [hc, hmissing, Bool.eq_false_iff.mpr hmet]
      · exact hsame c hc
    rw [heq]
    exact iff_of_true Iff.rfl fun h => hmet h.1

/-! ## The two filters -/

/-- What a publisher asks for. -/
def CommonEventPublishInfo.asked (info : CommonEventPublishInfo) : FilterCriterion → Bool
  | .bundle => info.bundleName ≠ ""
  | .permission => info.subscriberPermissions ≠ []
  | .subscriberType => info.subscriberType ≠ UNINITIALIZATED_SUBSCRIBER_TYPE
  | .subscriberUid => info.subscriberUids ≠ []
  | .version => info.maximumVersion ≠ DEFAULT_VERSION

theorem getFilterSettings_eq (info : CommonEventPublishInfo) :
    info.getFilterSettings = filterMask info.asked := by
  unfold CommonEventPublishInfo.getFilterSettings filterMask CommonEventPublishInfo.asked
  simp only [decide_eq_true_eq]
  ac_rfl

variable (P : Platform) (env : StaticEnvironment)

/-- What a subscriber of run time meets. -/
def metBy (subscriber : EventSubscriberRecord) (event : EventRecord) : FilterCriterion → Bool
  | .bundle => event.publishInfo.bundleName ≠ ""
      ∧ event.publishInfo.bundleName = subscriber.eventRecordInfo.bundleName
  | .permission => event.publishInfo.subscriberPermissions ≠ []
      ∧ checkPublisherRequiredPermissions P subscriber event
  | .subscriberType => event.publishInfo.subscriberType ≠ UNINITIALIZATED_SUBSCRIBER_TYPE
      ∧ checkSubscriberBySpecifiedType event.publishInfo.subscriberType
        (subscriber.eventRecordInfo.isSystemApp || subscriber.eventRecordInfo.isSubsystem)
  | .subscriberUid => event.publishInfo.subscriberUids ≠ []
      ∧ checkSubscriberBySpecifiedUids subscriber.eventRecordInfo.uid.toInt32
        event.publishInfo.subscriberUids
  | .version => checkSubscriberByMaximumVersion P subscriber event

/-- What a static subscriber meets: the version is not looked at. -/
def metByStatic (subscriber : StaticSubscriberInfo) (info : CommonEventPublishInfo) :
    FilterCriterion → Bool
  | .bundle => info.bundleName ≠ "" ∧ info.bundleName = subscriber.bundleName
  | .permission => info.subscriberPermissions ≠ []
      ∧ StaticSubscriberManager.verifySubscriberPermission P env subscriber.bundleName
        subscriber.userId info.subscriberPermissions
  | .subscriberType => info.subscriberType ≠ UNINITIALIZATED_SUBSCRIBER_TYPE
      ∧ checkSubscriberBySpecifiedType info.subscriberType
        (env.checkIsSystemAppByBundleName subscriber.bundleName subscriber.userId)
  | .subscriberUid => info.subscriberUids ≠ []
      ∧ info.subscriberUids.contains
        (env.getDefaultUidByBundleName subscriber.bundleName subscriber.userId)
  | .version => false

variable {P env}

/-- **The filter for the subscribers of run time.** -/
theorem checkSubscriberWhetherMatched_iff {subscriber : EventSubscriberRecord}
    {event : EventRecord} :
    checkSubscriberWhetherMatched P subscriber event = true
      ↔ Selects event.publishInfo.rule event.publishInfo.asked (metBy P subscriber event) := by
  unfold checkSubscriberWhetherMatched
  dsimp only
  rw [getFilterSettings_eq]
  refine selects_iff event.publishInfo.rule event.publishInfo.asked ?_
  unfold filterMask metBy
  simp only [decide_eq_true_eq]

/-- **The filter for the static subscribers.** -/
theorem checkStaticSubscriberWhetherMatched_iff {subscriber : StaticSubscriberInfo}
    {info : CommonEventPublishInfo} :
    StaticSubscriberManager.checkSubscriberWhetherMatched P env subscriber info = true
      ↔ Selects info.rule info.asked (metByStatic P env subscriber info) := by
  unfold StaticSubscriberManager.checkSubscriberWhetherMatched
  dsimp only
  rw [getFilterSettings_eq]
  refine selects_iff info.rule info.asked ?_
  unfold filterMask metByStatic checkSubscriberBySpecifiedType
  simp only [decide_eq_true_eq, Bool.false_eq_true, if_false, UInt16.or_zero]

/-- **One and the same subscriber**, as either filter knows it, to a publisher
with another uid. -/
structure SameSubscriber (P : Platform) (env : StaticEnvironment)
    (subscriber : StaticSubscriberInfo) (record : EventSubscriberRecord) (event : EventRecord) :
    Prop where
  bundleName : record.eventRecordInfo.bundleName = subscriber.bundleName
  isSystemApp : (record.eventRecordInfo.isSystemApp || record.eventRecordInfo.isSubsystem)
    = env.checkIsSystemAppByBundleName subscriber.bundleName subscriber.userId
  uid : record.eventRecordInfo.uid.toInt32
    = env.getDefaultUidByBundleName subscriber.bundleName subscriber.userId
  permission : ∀ permission, P.verifyAccessToken record.eventRecordInfo.callerToken permission
    = P.verifyAccessToken (env.getHapTokenID subscriber.userId subscriber.bundleName) permission
  otherUid : record.eventRecordInfo.uid ≠ event.eventRecordInfo.uid

/-- The same subscriber meets the same, the version apart. -/
theorem SameSubscriber.metBy_eq {subscriber : StaticSubscriberInfo}
    {record : EventSubscriberRecord} {event : EventRecord}
    (h : SameSubscriber P env subscriber record event)
    (hnames : ∀ permission ∈ event.publishInfo.subscriberPermissions, permission ≠ "")
    {c : FilterCriterion} (hc : c ≠ .version) :
    metByStatic P env subscriber event.publishInfo c = metBy P record event c := by
  cases c with
  | bundle =>
    unfold metBy metByStatic
    rw [h.bundleName]
  | permission =>
    have hverified : checkPublisherRequiredPermissions P record event
        = StaticSubscriberManager.verifySubscriberPermission P env subscriber.bundleName
          subscriber.userId event.publishInfo.subscriberPermissions := by
      unfold checkPublisherRequiredPermissions StaticSubscriberManager.verifySubscriberPermission
      rw [if_neg h.otherUid]
      rw [Bool.eq_iff_iff, List.all_eq_true, List.all_eq_true]
      refine forall₂_congr fun permission hpermission => ?_
      rw [h.permission, decide_eq_false (hnames permission hpermission), Bool.false_or]
    unfold metBy metByStatic
    rw [hverified]
  | subscriberType =>
    unfold metBy metByStatic
    rw [h.isSystemApp]
  | subscriberUid =>
    unfold metBy metByStatic checkSubscriberBySpecifiedUids
    rw [h.uid]
  | version => exact absurd rfl hc

/-- **The version decides**: the subscriber has it, and of what else is asked
all is met where all has to be, or nothing where one thing is enough. -/
def VersionDecides (P : Platform) (subscriber : EventSubscriberRecord) (event : EventRecord) :
    Prop :=
  checkSubscriberByMaximumVersion P subscriber event = true ∧
    match event.publishInfo.rule with
    | .AND => ∀ c, c ≠ .version → metBy P subscriber event c = event.publishInfo.asked c
    | .OR => ∀ c, c ≠ .version → event.publishInfo.asked c = true →
        metBy P subscriber event c = false

/-- A version is met only where one is asked for. -/
theorem asked_of_checkSubscriberByMaximumVersion {subscriber : EventSubscriberRecord}
    {event : EventRecord} (h : checkSubscriberByMaximumVersion P subscriber event = true) :
    event.publishInfo.asked .version = true := by
  unfold checkSubscriberByMaximumVersion at h
  by_cases hversion : event.publishInfo.maximumVersion = DEFAULT_VERSION
  · rw [if_pos hversion] at h
    cases h
  · exact decide_eq_true hversion

/-- **The two filters agree on a subscriber exactly where the version does not
decide.** -/
theorem filters_agree_iff {subscriber : StaticSubscriberInfo} {record : EventSubscriberRecord}
    {event : EventRecord} (h : SameSubscriber P env subscriber record event)
    (hnames : ∀ permission ∈ event.publishInfo.subscriberPermissions, permission ≠ "") :
    StaticSubscriberManager.checkSubscriberWhetherMatched P env subscriber event.publishInfo
        = checkSubscriberWhetherMatched P record event
      ↔ ¬ VersionDecides P record event := by
  rw [Bool.eq_iff_iff, checkSubscriberWhetherMatched_iff, checkStaticSubscriberWhetherMatched_iff]
  exact selects_passedOver asked_of_checkSubscriberByMaximumVersion
    (fun c hc => h.metBy_eq hnames hc) rfl

/-- A subscriber at run time, and the same one by its profile. -/
def filterRecord : EventSubscriberRecord where
  eventSubscribeInfo := { matchingSkills := {} }
  commonEventListener := ⟨0⟩
  eventRecordInfo := { uid := 1, bundleName := "b" }

def filterStaticSubscriber : StaticSubscriberInfo where
  name := "n"
  bundleName := "b"

/-- The services know the bundle by the uid it has at run time. -/
def filterEnvironment : StaticEnvironment where
  getDefaultUidByBundleName := fun _ _ => 1

/-- The subscriber is made for version 12. -/
def filterPlatform : Platform where
  getApiTargetVersionByUid := fun _ => some 12

/-- An event for one bundle, and for a version at most. -/
def filterEvent (rule : ValidationRule) (maximumVersion : Int) : EventRecord where
  commonEventData := { want := { action := "e" } }
  publishInfo := { bundleName := "b", rule := rule, maximumVersion := maximumVersion }

theorem sameSubscriber_filterRecord (rule : ValidationRule) (maximumVersion : Int) :
    SameSubscriber filterPlatform filterEnvironment filterStaticSubscriber filterRecord
      (filterEvent rule maximumVersion) :=
  ⟨rfl, rfl, rfl, fun _ => rfl, show (1 : Uid) ≠ 0 by decide⟩

/-- The filters agree on an event for the bundle or the version. -/
theorem filters_agree_or :
    StaticSubscriberManager.checkSubscriberWhetherMatched filterPlatform filterEnvironment
        filterStaticSubscriber (filterEvent .OR 12).publishInfo
      = checkSubscriberWhetherMatched filterPlatform filterRecord (filterEvent .OR 12) := by
  refine (filters_agree_iff (sameSubscriber_filterRecord .OR 12) nofun).mpr ?_
  rintro ⟨-, hothers⟩
  exact absurd (hothers .bundle (by decide) rfl) (by decide)

/-- **The filters disagree** on an event for the bundle and the version: it is
delivered to the subscriber of run time, and to no static one. -/
theorem filters_disagree_and :
    ¬ ∀ (P : Platform) (env : StaticEnvironment) (subscriber : StaticSubscriberInfo)
      (record : EventSubscriberRecord) (event : EventRecord),
      SameSubscriber P env subscriber record event →
      (∀ permission ∈ event.publishInfo.subscriberPermissions, permission ≠ "") →
      StaticSubscriberManager.checkSubscriberWhetherMatched P env subscriber event.publishInfo
        = checkSubscriberWhetherMatched P record event := by
  intro hall
  have hagree := hall filterPlatform filterEnvironment filterStaticSubscriber filterRecord
    (filterEvent .AND 12) (sameSubscriber_filterRecord .AND 12) nofun
  have hstatic : StaticSubscriberManager.checkSubscriberWhetherMatched filterPlatform
      filterEnvironment filterStaticSubscriber (filterEvent .AND 12).publishInfo = false := by
    decide +kernel
  have hdynamic : checkSubscriberWhetherMatched filterPlatform filterRecord
      (filterEvent .AND 12) = true := by
    decide +kernel
  rw [hstatic, hdynamic] at hagree
  cases hagree

end CommonEventService

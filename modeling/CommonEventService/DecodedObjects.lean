import CommonEventService.Marshalling
import Mathlib.Data.List.Nodup

/-!
# What holds of the objects of the interface

The methods of the classes keep to some rules: a publication names three
subscribers at most, and one of the known types; no event, entity or scheme is
twice in the skills of a subscription. An object that comes out of a parcel is
not made by these methods. `ReadFromParcel` fills the members with what stands
in the parcel, of which it checks the rule and nothing else, so what holds of
the object is what holds of the content of the parcel.
-/

namespace CommonEventService

open Channel

variable {ρ σ : Type}

def SUBSCRIBER_UIDS_MAX_NUM : ℕ := 3

/-! ## The methods -/

namespace MatchingSkills

variable (skills : MatchingSkills)

/-- One of `AddEntity`, `AddEvent` and `AddScheme`, on its list. -/
def addString (strings : List String) (string : String) : List String :=
  if strings.contains string then strings else strings ++ [string]

def addEntity (entity : String) : MatchingSkills :=
  { skills with entities := addString skills.entities entity }

def addEvent (event : String) : MatchingSkills :=
  { skills with events := addString skills.events event }

def addScheme (scheme : String) : MatchingSkills :=
  { skills with schemes := addString skills.schemes scheme }

def removeEntity (entity : String) : MatchingSkills :=
  { skills with entities := skills.entities.erase entity }

def removeEvent (event : String) : MatchingSkills :=
  { skills with events := skills.events.erase event }

def removeScheme (scheme : String) : MatchingSkills :=
  { skills with schemes := skills.schemes.erase scheme }

/-- **What the methods of the skills guarantee.** -/
structure WellFormed : Prop where
  entities : skills.entities.Nodup
  events : skills.events.Nodup
  schemes : skills.schemes.Nodup

/-- A call of a method that changes the skills. -/
inductive Call where
  | addEntity (entity : String)
  | addEvent (event : String)
  | addScheme (scheme : String)
  | removeEntity (entity : String)
  | removeEvent (event : String)
  | removeScheme (scheme : String)

def call : Call → MatchingSkills
  | .addEntity entity => skills.addEntity entity
  | .addEvent event => skills.addEvent event
  | .addScheme scheme => skills.addScheme scheme
  | .removeEntity entity => skills.removeEntity entity
  | .removeEvent event => skills.removeEvent event
  | .removeScheme scheme => skills.removeScheme scheme

theorem nodup_addString {strings : List String} (h : strings.Nodup) (string : String) :
    (addString strings string).Nodup := by
  unfold addString
  split
  next => exact h
  next hnew =>
    rw [← List.concat_eq_append]
    exact h.concat (by simpa using hnew)

variable {skills}

theorem WellFormed.call (h : skills.WellFormed) (c : Call) : (skills.call c).WellFormed := by
  cases c with
  | addEntity entity => exact ⟨nodup_addString h.entities entity, h.events, h.schemes⟩
  | addEvent event => exact ⟨h.entities, nodup_addString h.events event, h.schemes⟩
  | addScheme scheme => exact ⟨h.entities, h.events, nodup_addString h.schemes scheme⟩
  | removeEntity entity => exact ⟨h.entities.erase entity, h.events, h.schemes⟩
  | removeEvent event => exact ⟨h.entities, h.events.erase event, h.schemes⟩
  | removeScheme scheme => exact ⟨h.entities, h.events, h.schemes.erase scheme⟩

/-- **Skills that are made by their methods are well formed.** -/
theorem wellFormed_calls (calls : List Call) :
    (calls.foldl MatchingSkills.call {}).WellFormed :=
  List.foldlRecOn calls MatchingSkills.call ⟨.nil, .nil, .nil⟩ fun _ h c _ => h.call c

end MatchingSkills

namespace Wire

namespace CommonEventPublishInfo

variable (info : CommonEventPublishInfo)

def setSubscriberUid (subscriberUids : List Int32) : CommonEventPublishInfo :=
  if subscriberUids.length > SUBSCRIBER_UIDS_MAX_NUM then
    { info with subscriberUids := subscriberUids.take SUBSCRIBER_UIDS_MAX_NUM }
  else { info with subscriberUids := subscriberUids }

def isSubscriberType (subscriberType : Int32) : Bool :=
  subscriberType = 0 || subscriberType = 1

def setSubscriberType (subscriberType : Int32) : CommonEventPublishInfo :=
  if !isSubscriberType subscriberType then { info with subscriberType := 0 }
  else { info with subscriberType := subscriberType }

/-- **What the methods of a publication guarantee.** -/
structure WellFormed : Prop where
  subscriberUids : info.subscriberUids.length ≤ SUBSCRIBER_UIDS_MAX_NUM
  subscriberType : info.subscriberType = -1 ∨ info.subscriberType = 0 ∨ info.subscriberType = 1
  rule : info.rule = .AND ∨ info.rule = .OR

/-- A call of a method that changes the publication. -/
inductive Call where
  | setSticky (sticky : Bool)
  | setOrdered (ordered : Bool)
  | setBundleName (bundleName : String)
  | setSubscriberPermissions (subscriberPermissions : List String)
  | setSubscriberUid (subscriberUids : List Int32)
  | setSubscriberType (subscriberType : Int32)
  | setValidationRule (rule : ValidationRule)
  | setSubscriberMaximumVersion (version : Int32)

def call : Call → CommonEventPublishInfo
  | .setSticky sticky => { info with sticky := sticky }
  | .setOrdered ordered => { info with ordered := ordered }
  | .setBundleName bundleName => { info with bundleName := bundleName }
  | .setSubscriberPermissions permissions => { info with subscriberPermissions := permissions }
  | .setSubscriberUid subscriberUids => info.setSubscriberUid subscriberUids
  | .setSubscriberType subscriberType => info.setSubscriberType subscriberType
  | .setValidationRule rule => { info with rule := rule }
  | .setSubscriberMaximumVersion version => { info with maximumVersion := version }

/-- A rule is one of the two. -/
theorem rule_eq (rule : ValidationRule) : rule = .AND ∨ rule = .OR := by
  cases rule with
  | AND => exact .inl rfl
  | OR => exact .inr rfl

variable {info}

theorem WellFormed.setSubscriberUid (h : info.WellFormed) (subscriberUids : List Int32) :
    (info.setSubscriberUid subscriberUids).WellFormed := by
  unfold CommonEventPublishInfo.setSubscriberUid
  split
  next => exact ⟨List.length_take_le _ _, h.subscriberType, h.rule⟩
  next hfew => exact ⟨Nat.le_of_not_lt hfew, h.subscriberType, h.rule⟩

theorem WellFormed.setSubscriberType (h : info.WellFormed) (subscriberType : Int32) :
    (info.setSubscriberType subscriberType).WellFormed := by
  unfold CommonEventPublishInfo.setSubscriberType isSubscriberType
  split
  next => exact ⟨h.subscriberUids, .inr (.inl rfl), h.rule⟩
  next htype =>
    rw [Bool.not_eq_true', Bool.not_eq_false, Bool.or_eq_true, decide_eq_true_iff,
      decide_eq_true_iff] at htype
    exact ⟨h.subscriberUids, .inr htype, h.rule⟩

theorem WellFormed.call (h : info.WellFormed) (c : Call) : (info.call c).WellFormed := by
  cases c with
  | setSubscriberUid subscriberUids => exact h.setSubscriberUid subscriberUids
  | setSubscriberType subscriberType => exact h.setSubscriberType subscriberType
  | setValidationRule rule => exact ⟨h.subscriberUids, h.subscriberType, rule_eq rule⟩
  | setSticky sticky => exact ⟨h.subscriberUids, h.subscriberType, h.rule⟩
  | setOrdered ordered => exact ⟨h.subscriberUids, h.subscriberType, h.rule⟩
  | setBundleName bundleName => exact ⟨h.subscriberUids, h.subscriberType, h.rule⟩
  | setSubscriberPermissions permissions => exact ⟨h.subscriberUids, h.subscriberType, h.rule⟩
  | setSubscriberMaximumVersion version => exact ⟨h.subscriberUids, h.subscriberType, h.rule⟩

/-- **A publication that is made by its methods is well formed.** -/
theorem wellFormed_calls (calls : List Call) :
    (calls.foldl CommonEventPublishInfo.call {}).WellFormed :=
  List.foldlRecOn calls CommonEventPublishInfo.call
    ⟨Nat.zero_le _, .inl rfl, .inl rfl⟩ fun _ h c _ => h.call c

end CommonEventPublishInfo

/-- What is guaranteed of a subscription is what is guaranteed of its skills. -/
def CommonEventSubscribeInfo.WellFormed (info : CommonEventSubscribeInfo) : Prop :=
  info.matchingSkills.WellFormed

end Wire

/-! ## What stands in a parcel -/

/-- What `ReadFromParcel` of the skills reads: three lists. -/
structure SkillsContent (σ : Type) where
  entities : List σ
  events : List σ
  schemes : List σ
  deriving DecidableEq, Repr

/-- What `ReadFromParcel` of a publication reads. -/
structure PublishInfoContent (σ : Type) where
  permissions : List σ
  ordered : Bool
  sticky : Bool
  bundleName : σ
  subscriberUids : List Int32
  subscriberType : Int32
  rule : Int32
  maximumVersion : Int32
  deriving DecidableEq, Repr

/-- What `ReadFromParcel` of a subscription reads. -/
structure SubscribeInfoContent (σ : Type) where
  permission : σ
  priority : Int32
  userId : Int32
  threadMode : UInt32
  deviceId : σ
  skills : SkillsContent σ
  publisherBundleName : String
  publisherUid : Int32
  deriving DecidableEq, Repr

section Content

variable (P : Parcel ρ σ) (C : StringEx σ)

namespace SkillsContent

/-- A list that stands in a parcel, behind its mark. -/
def readList : StateT ρ Option (List σ) := do
  let empty ← P.readInt32To
  if empty = VALUE_OBJECT then P.readString16Vector else pure []

def read : StateT ρ Option (SkillsContent σ) := do
  let entities ← readList P
  let events ← readList P
  let schemes ← readList P
  return ⟨entities, events, schemes⟩

variable (content : SkillsContent σ)

/-- The skills that are made of it. -/
def skills : MatchingSkills where
  entities := content.entities.map C.str16ToStr8
  events := content.events.map C.str16ToStr8
  schemes := content.schemes.map C.str16ToStr8

/-- No string is twice in a list, once converted. -/
def IsDistinct : Prop :=
  (content.entities.map C.str16ToStr8).Nodup ∧ (content.events.map C.str16ToStr8).Nodup
    ∧ (content.schemes.map C.str16ToStr8).Nodup

end SkillsContent

namespace PublishInfoContent

def read : StateT ρ Option (PublishInfoContent σ) := do
  let permissions ← P.readString16Vector
  let ordered ← value P.readBool
  let sticky ← value P.readBool
  let bundleName ← value P.readString16
  let subscriberUids ← P.readInt32Vector
  let subscriberType ← value P.readInt32
  let rule ← value P.readInt32
  let maximumVersion ← value P.readInt32
  return ⟨permissions, ordered, sticky, bundleName, subscriberUids, subscriberType, rule,
    maximumVersion⟩

variable (content : PublishInfoContent σ)

/-- The publication that is made of it, where its rule is one. -/
def info : Option Wire.CommonEventPublishInfo :=
  (ValidationRule.ofInt32 content.rule).map fun rule =>
    { subscriberPermissions := content.permissions.map C.str16ToStr8
      ordered := content.ordered
      sticky := content.sticky
      bundleName := C.str16ToStr8 content.bundleName
      subscriberUids := content.subscriberUids
      subscriberType := content.subscriberType
      rule := rule
      maximumVersion := content.maximumVersion }

/-- Three uids at most, and a type that is known. -/
def IsInRange : Prop :=
  content.subscriberUids.length ≤ SUBSCRIBER_UIDS_MAX_NUM
    ∧ (content.subscriberType = -1 ∨ content.subscriberType = 0 ∨ content.subscriberType = 1)

end PublishInfoContent

namespace SubscribeInfoContent

def read : StateT ρ Option (SubscribeInfoContent σ) := do
  let permission ← value P.readString16
  let priority ← value P.readInt32
  let userId ← value P.readInt32
  let threadMode ← value P.readUint32
  let deviceId ← value P.readString16
  let skills ← P.readParcelable (SkillsContent.read P)
  let publisherBundleName ← value P.readString
  let publisherUid ← value P.readInt32
  return ⟨permission, priority, userId, threadMode, deviceId, skills, publisherBundleName,
    publisherUid⟩

/-- The subscription that is made of it. -/
def info (content : SubscribeInfoContent σ) : Wire.CommonEventSubscribeInfo where
  permission := C.str16ToStr8 content.permission
  priority := content.priority
  userId := content.userId
  threadMode := ⟨content.threadMode⟩
  deviceId := C.str16ToStr8 content.deviceId
  matchingSkills := content.skills.skills C
  publisherBundleName := content.publisherBundleName
  publisherUid := content.publisherUid

end SubscribeInfoContent

end Content

/-! ## What is read is what stands there -/

section Reads

variable {P : Parcel ρ σ} {C : StringEx σ}

/-- `ReadParcelable` is a template: what it does besides calling `Unmarshalling`
does not depend on the class. -/
def Parcel.IsUniform (P : Parcel ρ σ) : Prop :=
  ∀ {α β : Type} (f : α → β) (read : StateT ρ Option α),
    P.readParcelable (f <$> read) = f <$> P.readParcelable read

theorem Parcel.ofItems_isUniform (capacity : ℕ) (empty : σ) :
    (Parcel.ofItems capacity empty).IsUniform := by
  intro α β f read
  show (ParcelItem.take _ >>= fun _ => f <$> read) = f <$> (ParcelItem.take _ >>= fun _ => read)
  rw [map_bind]

namespace MatchingSkills

theorem readVectorInfo_eq :
    readVectorInfo P C = List.map C.str16ToStr8 <$> SkillsContent.readList P := by
  unfold readVectorInfo SkillsContent.readList
  rw [map_bind]
  refine bind_congr fun empty => ?_
  rw [bind_pure_comp]

theorem unmarshalling_eq :
    unmarshalling P C = SkillsContent.skills C <$> SkillsContent.read P := by
  unfold unmarshalling readFromParcel SkillsContent.read
  simp only [readVectorInfo_eq, map_bind, bind_map_left, map_pure]
  rfl

end MatchingSkills

namespace Wire

/-- A value that is at hand may be asked for after a read that gives one in any
case. -/
theorem lift_bind_value {α β γ : Type} (x : Option α) (read : ρ → β × ρ) (f : α → β → γ) :
    (StateT.lift x >>= fun a => value read >>= fun b => pure (f a b) : StateT ρ Option γ)
      = value read >>= fun b => StateT.lift (x.map fun a => f a b) := by
  cases x with
  | none => rfl
  | some a => rfl

/-- **A publication is made of what stands in the parcel.** -/
theorem CommonEventPublishInfo.unmarshalling_eq :
    unmarshalling P C
      = PublishInfoContent.read P >>= fun content => StateT.lift (content.info C) := by
  unfold unmarshalling readFromParcel PublishInfoContent.read
  simp only [bind_assoc, pure_bind, bind_map_left, lift_bind_value]
  rfl

/-- **A subscription is made of what stands in the parcel.** -/
theorem CommonEventSubscribeInfo.unmarshalling_eq (hP : P.IsUniform) :
    unmarshalling P C = SubscribeInfoContent.info C <$> SubscribeInfoContent.read P := by
  unfold unmarshalling readFromParcel SubscribeInfoContent.read
  rw [MatchingSkills.unmarshalling_eq, hP]
  simp only [map_bind, bind_map_left, map_pure]
  rfl

end Wire

/-! ## What holds of an object that comes out of a parcel -/

namespace Wire

/-- A publication that comes out of a parcel. -/
theorem CommonEventPublishInfo.exists_content {parcel rest : ρ} {info : CommonEventPublishInfo}
    (h : (unmarshalling P C).run parcel = some (info, rest)) :
    ∃ content, (PublishInfoContent.read P).run parcel = some (content, rest)
      ∧ content.info C = some info := by
  rw [unmarshalling_eq, StateT.run_bind] at h
  obtain ⟨⟨content, rest'⟩, hread, hinfo⟩ := Option.bind_eq_some_iff.mp h
  obtain ⟨info', hinfo', hpair⟩ := Option.bind_eq_some_iff.mp hinfo
  cases hpair
  exact ⟨content, hread, hinfo'⟩

/-- A publication is well formed if what stands in the parcel is in range. -/
theorem CommonEventPublishInfo.wellFormed_iff {content : PublishInfoContent σ}
    {info : CommonEventPublishInfo} (h : content.info C = some info) :
    info.WellFormed ↔ content.IsInRange := by
  obtain ⟨rule, -, rfl⟩ := Option.map_eq_some_iff.mp h
  exact ⟨fun h => ⟨h.subscriberUids, h.subscriberType⟩, fun h => ⟨h.1, h.2, rule_eq rule⟩⟩

end Wire

/-- Skills are well formed if no string stands in the parcel twice. -/
theorem MatchingSkills.wellFormed_iff (content : SkillsContent σ) :
    (content.skills C).WellFormed ↔ content.IsDistinct C :=
  ⟨fun h => ⟨h.entities, h.events, h.schemes⟩, fun h => ⟨h.1, h.2.1, h.2.2⟩⟩

/-- What a read that is mapped gives. -/
theorem exists_of_run_map {α β : Type} {f : α → β} {read : StateT ρ Option α} {parcel rest : ρ}
    {b : β} (h : (f <$> read).run parcel = some (b, rest)) :
    ∃ a, read.run parcel = some (a, rest) ∧ f a = b := by
  rw [StateT.run_map] at h
  obtain ⟨⟨a, rest'⟩, hread, hpair⟩ := Option.map_eq_some_iff.mp h
  cases hpair
  exact ⟨a, hread, rfl⟩

/-- **An object that comes out of a parcel keeps to the rules of its class
exactly where** what stands in the parcel does: a publication, the skills of a
subscription, and a subscription. -/
theorem wellFormed_unmarshalling_iff (hP : P.IsUniform) :
    (∀ parcel info rest,
      (Wire.CommonEventPublishInfo.unmarshalling P C).run parcel = some (info, rest) →
        ∃ content, (PublishInfoContent.read P).run parcel = some (content, rest)
          ∧ (info.WellFormed ↔ content.IsInRange))
    ∧ (∀ parcel skills rest,
      (MatchingSkills.unmarshalling P C).run parcel = some (skills, rest) →
        ∃ content, (SkillsContent.read P).run parcel = some (content, rest)
          ∧ (skills.WellFormed ↔ content.IsDistinct C))
    ∧ (∀ parcel info rest,
      (Wire.CommonEventSubscribeInfo.unmarshalling P C).run parcel = some (info, rest) →
        ∃ content, (SubscribeInfoContent.read P).run parcel = some (content, rest)
          ∧ (info.WellFormed ↔ content.skills.IsDistinct C)) := by
  refine ⟨fun parcel info rest h => ?_, fun parcel skills rest h => ?_,
    fun parcel info rest h => ?_⟩
  · obtain ⟨content, hread, hinfo⟩ := Wire.CommonEventPublishInfo.exists_content h
    exact ⟨content, hread, Wire.CommonEventPublishInfo.wellFormed_iff hinfo⟩
  · rw [MatchingSkills.unmarshalling_eq] at h
    obtain ⟨content, hread, rfl⟩ := exists_of_run_map h
    exact ⟨content, hread, MatchingSkills.wellFormed_iff content⟩
  · rw [Wire.CommonEventSubscribeInfo.unmarshalling_eq hP] at h
    obtain ⟨content, hread, rfl⟩ := exists_of_run_map h
    exact ⟨content, hread, MatchingSkills.wellFormed_iff content.skills⟩

end Reads

/-- A parcel of three uids, and of events that differ, gives objects that keep to
the rules. -/
theorem wellFormed_unmarshalling_iff_three :
    (∃ content : PublishInfoContent (List UInt16),
      (PublishInfoContent.read (Parcel.ofItems 64 [])).run
        [.string16Vector [], .bool false, .bool true, .string16 [], .int32Vector [1, 2, 3],
          .int32 1, .int32 2, .int32 (-1)] = some (content, [])
      ∧ (Wire.CommonEventPublishInfo.WellFormed
          { sticky := true, subscriberUids := [1, 2, 3], subscriberType := 1, rule := .OR }
        ↔ content.IsInRange))
    ∧ (∃ content : SkillsContent (List UInt16),
      (SkillsContent.read (Parcel.ofItems 64 [])).run
        [.int32 (-1), .int32 1, .string16Vector [[97], [98]], .int32 (-1)] = some (content, [])
      ∧ (MatchingSkills.WellFormed { events := ["a", "b"] }
        ↔ content.IsDistinct Wire.asciiStringEx))
    ∧ (∃ content : SubscribeInfoContent (List UInt16),
      (SubscribeInfoContent.read (Parcel.ofItems 64 [])).run
        [.string16 [], .int32 0, .int32 (-3), .uint32 2, .string16 [], .int32 1, .int32 (-1),
          .int32 1, .string16Vector [[97], [98]], .int32 (-1), .string "", .int32 0]
          = some (content, [])
      ∧ (Wire.CommonEventSubscribeInfo.WellFormed { matchingSkills := { events := ["a", "b"] } }
        ↔ content.skills.IsDistinct Wire.asciiStringEx)) := by
  have h := wellFormed_unmarshalling_iff (C := Wire.asciiStringEx)
    (Parcel.ofItems_isUniform 64 ([] : List UInt16))
  exact ⟨h.1 _ _ _ (by decide), h.2.1 _ _ _ (by decide), h.2.2 _ _ _ (by decide)⟩

/-- Four uids, and an event twice, come out of a parcel as they stand there. -/
theorem not_wellFormed_unmarshalling :
    (¬ ∀ (parcel : List (ParcelItem (List UInt16))) info rest,
      (Wire.CommonEventPublishInfo.unmarshalling (Parcel.ofItems 64 []) Wire.asciiStringEx).run
        parcel = some (info, rest) → info.WellFormed)
    ∧ (¬ ∀ (parcel : List (ParcelItem (List UInt16))) skills rest,
      (MatchingSkills.unmarshalling (Parcel.ofItems 64 []) Wire.asciiStringEx).run
        parcel = some (skills, rest) → skills.WellFormed) := by
  constructor
  · intro h
    have hwellFormed := h [.string16Vector [], .bool false, .bool false, .string16 [],
      .int32Vector [1, 2, 3, 4], .int32 7, .int32 1, .int32 (-1)]
      { subscriberUids := [1, 2, 3, 4], subscriberType := 7 } [] (by decide)
    exact absurd hwellFormed.subscriberUids (by decide)
  · intro h
    have hwellFormed := h [.int32 (-1), .int32 1, .string16Vector [[97], [97]], .int32 (-1)]
      { events := ["a", "a"] } [] (by decide)
    exact absurd hwellFormed.events (by decide)

end CommonEventService

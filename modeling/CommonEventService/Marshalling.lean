import CommonEventService.Basic
import CommonEventService.Parcel

/-!
# The classes of the interface in a parcel

What a process publishes, and what a subscriber asks for, comes to the service
in a parcel: `Marshalling` writes an object, member after member, and
`Unmarshalling` makes an object of its class from what it reads. The two are
written separately, and nothing but the order of their steps makes the one the
inverse of the other: a list that is empty and data that is empty are a mark
alone, one string goes as it is and the others in the other width, and the
skills of a subscription are a parcelable of their own.

A class in a parcel has all its members, at their widths; the records of the
service in `Basic` have what its decisions read. `Want` is a class of another
component, with a `Marshalling` of its own.
-/

namespace CommonEventService

open Channel

variable {ρ σ ω ι : Type}

/-! ## The classes -/

/-- The mark of what is empty. -/
def VALUE_NULL : Int32 := -1

/-- The mark of what follows. -/
def VALUE_OBJECT : Int32 := 1

/-- `static_cast<int32_t>` of a rule. -/
def ValidationRule.toInt32 : ValidationRule → Int32
  | .AND => 1
  | .OR => 2

/-- `static_cast<ValidationRule>`, behind the check of `ReadFromParcel`. -/
def ValidationRule.ofInt32 (rule : Int32) : Option ValidationRule :=
  if rule < ValidationRule.AND.toInt32 || rule > ValidationRule.OR.toInt32 then none
  else if rule = ValidationRule.AND.toInt32 then some .AND
  else some .OR

theorem ValidationRule.ofInt32_toInt32 (rule : ValidationRule) :
    ValidationRule.ofInt32 rule.toInt32 = some rule := by
  cases rule with
  | AND => decide
  | OR => decide

namespace Wire

/-- `ThreadMode`. The cast from what is read checks nothing, so every value can
come. -/
structure ThreadMode where
  value : UInt32
  deriving DecidableEq, Repr

def ThreadMode.HANDLER : ThreadMode := ⟨0⟩
def ThreadMode.ASYNC : ThreadMode := ⟨2⟩

/-- **`CommonEventPublishInfo`**, with the values of its default constructor. -/
structure CommonEventPublishInfo where
  sticky : Bool := false
  ordered : Bool := false
  bundleName : String := ""
  subscriberPermissions : List String := []
  subscriberUids : List Int32 := []
  subscriberType : Int32 := -1
  rule : ValidationRule := .AND
  maximumVersion : Int32 := -1
  deriving DecidableEq, Repr

/-- **`CommonEventSubscribeInfo`**, with the values of its default
constructor. -/
structure CommonEventSubscribeInfo where
  matchingSkills : MatchingSkills := {}
  priority : Int32 := 0
  userId : Int32 := -3
  permission : String := ""
  deviceId : String := ""
  threadMode : ThreadMode := ThreadMode.ASYNC
  publisherBundleName : String := ""
  publisherUid : Int32 := 0
  deriving DecidableEq, Repr

/-- **`CommonEventData`**, of a want. -/
structure CommonEventData (ω : Type) where
  want : ω
  code : Int32 := 0
  data : String := ""
  deriving DecidableEq, Repr

/-- What `CommonEventData` calls of `Want`: its default constructor and its
functions for a parcel. -/
structure WantClass (ρ ω : Type) where
  new : ω
  marshalling : ω → StateT ρ Option Unit
  unmarshalling : StateT ρ Option ω

end Wire

/-! ## `Marshalling` and `Unmarshalling` -/

section Class

variable (P : Parcel ρ σ) (C : StringEx σ) (W : Wire.WantClass ρ ω)

namespace MatchingSkills

/-- `WriteVectorInfo`. -/
def writeVectorInfo (vectorInfo : List σ) : StateT ρ Option Unit :=
  if vectorInfo.isEmpty then P.writeInt32 VALUE_NULL
  else do
    P.writeInt32 VALUE_OBJECT
    P.writeString16Vector vectorInfo

def marshalling (skills : MatchingSkills) : StateT ρ Option Unit := do
  writeVectorInfo P (skills.entities.map C.str8ToStr16)
  writeVectorInfo P (skills.events.map C.str8ToStr16)
  writeVectorInfo P (skills.schemes.map C.str8ToStr16)

/-- The reading of one list in `ReadFromParcel`. -/
def readVectorInfo : StateT ρ Option (List String) := do
  let empty ← P.readInt32To
  let vectorInfo ← (if empty = VALUE_OBJECT then P.readString16Vector else pure [])
  return vectorInfo.map C.str16ToStr8

def readFromParcel (skills : MatchingSkills) : StateT ρ Option MatchingSkills := do
  let entities ← readVectorInfo P C
  let events ← readVectorInfo P C
  let schemes ← readVectorInfo P C
  return { skills with entities := entities, events := events, schemes := schemes }

def unmarshalling : StateT ρ Option MatchingSkills := readFromParcel P C {}

end MatchingSkills

namespace Wire

namespace CommonEventPublishInfo

def marshalling (info : CommonEventPublishInfo) : StateT ρ Option Unit := do
  P.writeString16Vector (info.subscriberPermissions.map C.str8ToStr16)
  P.writeBool info.ordered
  P.writeBool info.sticky
  P.writeString16 (C.str8ToStr16 info.bundleName)
  P.writeInt32Vector info.subscriberUids
  P.writeInt32 info.subscriberType
  P.writeInt32 info.rule.toInt32
  P.writeInt32 info.maximumVersion

def readFromParcel (info : CommonEventPublishInfo) : StateT ρ Option CommonEventPublishInfo := do
  let subscriberPermissions ← List.map C.str16ToStr8 <$> P.readString16Vector
  let ordered ← value P.readBool
  let sticky ← value P.readBool
  let bundleName ← C.str16ToStr8 <$> value P.readString16
  let subscriberUids ← P.readInt32Vector
  let subscriberType ← value P.readInt32
  let rule ← value P.readInt32
  let rule ← StateT.lift (ValidationRule.ofInt32 rule)
  let maximumVersion ← value P.readInt32
  return { info with
    subscriberPermissions := subscriberPermissions
    ordered := ordered
    sticky := sticky
    bundleName := bundleName
    subscriberUids := subscriberUids
    subscriberType := subscriberType
    rule := rule
    maximumVersion := maximumVersion }

def unmarshalling : StateT ρ Option CommonEventPublishInfo := readFromParcel P C {}

end CommonEventPublishInfo

namespace CommonEventSubscribeInfo

def marshalling (info : CommonEventSubscribeInfo) : StateT ρ Option Unit := do
  P.writeString16 (C.str8ToStr16 info.permission)
  P.writeInt32 info.priority
  P.writeInt32 info.userId
  P.writeUint32 info.threadMode.value
  P.writeString16 (C.str8ToStr16 info.deviceId)
  P.writeParcelable (info.matchingSkills.marshalling P C)
  P.writeString info.publisherBundleName
  P.writeInt32 info.publisherUid

def readFromParcel (info : CommonEventSubscribeInfo) :
    StateT ρ Option CommonEventSubscribeInfo := do
  let permission ← C.str16ToStr8 <$> value P.readString16
  let priority ← value P.readInt32
  let userId ← value P.readInt32
  let threadMode ← value P.readUint32
  let deviceId ← C.str16ToStr8 <$> value P.readString16
  let skills ← P.readParcelable (MatchingSkills.unmarshalling P C)
  let publisherBundleName ← value P.readString
  let publisherUid ← value P.readInt32
  return { info with
    permission := permission
    priority := priority
    userId := userId
    threadMode := ⟨threadMode⟩
    deviceId := deviceId
    matchingSkills := skills
    publisherBundleName := publisherBundleName
    publisherUid := publisherUid }

def unmarshalling : StateT ρ Option CommonEventSubscribeInfo := readFromParcel P C {}

end CommonEventSubscribeInfo

namespace CommonEventData

def marshalling (data : CommonEventData ω) : StateT ρ Option Unit := do
  (if data.data = "" then P.writeInt32 VALUE_NULL
    else do
      P.writeInt32 VALUE_OBJECT
      P.writeString16 (C.str8ToStr16 data.data))
  P.writeInt32 data.code
  P.writeParcelable (W.marshalling data.want)

/-- The reading of the text in `ReadFromParcel`. -/
def readText (text : String) : StateT ρ Option String := do
  let empty ← P.readInt32To
  if empty = VALUE_OBJECT then C.str16ToStr8 <$> value P.readString16 else pure text

def readFromParcel (data : CommonEventData ω) : StateT ρ Option (CommonEventData ω) := do
  let text ← readText P C data.data
  let code ← value P.readInt32
  let want ← P.readParcelable W.unmarshalling
  return { data with data := text, code := code, want := want }

def unmarshalling : StateT ρ Option (CommonEventData ω) :=
  readFromParcel P C W { want := W.new }

end CommonEventData

/-! ### Objects of several classes -/

/-- An object that goes in a parcel. -/
inductive Parcelable (ω : Type) where
  | matchingSkills (skills : MatchingSkills)
  | commonEventPublishInfo (info : CommonEventPublishInfo)
  | commonEventSubscribeInfo (info : CommonEventSubscribeInfo)
  | commonEventData (data : CommonEventData ω)
  deriving DecidableEq, Repr

/-- The class of such an object. -/
inductive ParcelableClass where
  | matchingSkills
  | commonEventPublishInfo
  | commonEventSubscribeInfo
  | commonEventData
  deriving DecidableEq, Repr

def Parcelable.getClass : Parcelable ω → ParcelableClass
  | .matchingSkills _ => .matchingSkills
  | .commonEventPublishInfo _ => .commonEventPublishInfo
  | .commonEventSubscribeInfo _ => .commonEventSubscribeInfo
  | .commonEventData _ => .commonEventData

def Parcelable.marshalling : Parcelable ω → StateT ρ Option Unit
  | .matchingSkills skills => skills.marshalling P C
  | .commonEventPublishInfo info => info.marshalling P C
  | .commonEventSubscribeInfo info => info.marshalling P C
  | .commonEventData data => data.marshalling P C W

def ParcelableClass.unmarshalling : ParcelableClass → StateT ρ Option (Parcelable ω)
  | .matchingSkills => .matchingSkills <$> MatchingSkills.unmarshalling P C
  | .commonEventPublishInfo => .commonEventPublishInfo <$> CommonEventPublishInfo.unmarshalling P C
  | .commonEventSubscribeInfo =>
    .commonEventSubscribeInfo <$> CommonEventSubscribeInfo.unmarshalling P C
  | .commonEventData => .commonEventData <$> CommonEventData.unmarshalling P C W

/-- One object after the other is written. -/
def marshallingAll (objects : List (Parcelable ω)) : StateT ρ Option Unit :=
  objects.forM (fun object => object.marshalling P C W)

/-- One object after the other is read, each of its class. -/
def unmarshallingAll (classes : List ParcelableClass) : StateT ρ Option (List (Parcelable ω)) :=
  classes.mapM (fun objectClass => objectClass.unmarshalling P C W)

end Wire

end Class

/-! ## Each class gives back what it wrote -/

section RoundTrip

variable {P : Parcel ρ σ} {C : StringEx σ} {W : Wire.WantClass ρ ω} {unread : ρ → List ι}

/-- A string that is converted. -/
theorem Parcel.Fifo.convertedString (hP : P.Fifo unread) {s : String} (hs : C.Inverts s) :
    Conveys unread (P.writeString16 (C.str8ToStr16 s))
      (C.str16ToStr8 <$> value P.readString16) s := by
  have h := (hP.string16 (C.str8ToStr16 s)).map C.str16ToStr8
  rw [hs] at h
  exact h

/-- A list of strings that are converted. -/
theorem Parcel.Fifo.convertedStrings (hP : P.Fifo unread) {strings : List String}
    (hstrings : ∀ s ∈ strings, C.Inverts s) :
    Conveys unread (P.writeString16Vector (strings.map C.str8ToStr16))
      (List.map C.str16ToStr8 <$> P.readString16Vector) strings := by
  have h := (hP.string16Vector (strings.map C.str8ToStr16)).map (List.map C.str16ToStr8)
  rw [C.map_inverts hstrings] at h
  exact h

namespace MatchingSkills

/-- The strings of the skills. -/
def strings (skills : MatchingSkills) : List String :=
  skills.entities ++ skills.events ++ skills.schemes

/-- A list is read as it was written, also where it is empty. -/
theorem conveys_vectorInfo (hP : P.Fifo unread) {strings : List String}
    (hstrings : ∀ s ∈ strings, C.Inverts s) :
    Conveys unread (writeVectorInfo P (strings.map C.str8ToStr16)) (readVectorInfo P C)
      strings := by
  unfold writeVectorInfo readVectorInfo
  cases strings with
  | nil => exact (hP.int32To VALUE_NULL).andReads (Reads.done [])
  | cons s strings =>
    refine (hP.int32To VALUE_OBJECT).andThen ?_
    rw [if_pos rfl, bind_pure_comp]
    exact hP.convertedStrings hstrings

/-- **The skills are read as they were written.** -/
theorem conveys (hP : P.Fifo unread) {skills : MatchingSkills}
    (hskills : ∀ s ∈ skills.strings, C.Inverts s) :
    Conveys unread (skills.marshalling P C) (unmarshalling P C) skills := by
  unfold strings at hskills
  have hentities := conveys_vectorInfo hP fun s hs =>
    hskills s (List.mem_append_left _ (List.mem_append_left _ hs))
  have hevents := conveys_vectorInfo hP fun s hs =>
    hskills s (List.mem_append_left _ (List.mem_append_right _ hs))
  have hschemes := conveys_vectorInfo hP fun s hs => hskills s (List.mem_append_right _ hs)
  exact hentities.andThen (hevents.andThen (hschemes.andPure _))

end MatchingSkills

namespace Wire

/-- The strings of a publication that are converted. -/
def CommonEventPublishInfo.strings (info : CommonEventPublishInfo) : List String :=
  info.bundleName :: info.subscriberPermissions

/-- **What is published is read as it was written.** -/
theorem CommonEventPublishInfo.conveys (hP : P.Fifo unread) {info : CommonEventPublishInfo}
    (hinfo : ∀ s ∈ info.strings, C.Inverts s) :
    Conveys unread (info.marshalling P C) (unmarshalling P C) info := by
  obtain ⟨hbundleName, hpermissions⟩ := List.forall_mem_cons.mp hinfo
  unfold marshalling unmarshalling readFromParcel
  refine (hP.convertedStrings hpermissions).andThen ((hP.bool _).andThen ((hP.bool _).andThen
    ((hP.convertedString hbundleName).andThen ((hP.int32Vector _).andThen ((hP.int32 _).andThen
      ((hP.int32 _).andThen ?_))))))
  -- the rule is one of the two, so its check lets it pass
  rw [ValidationRule.ofInt32_toInt32]
  exact Conveys.afterReads ((hP.int32 _).andPure _) (Reads.lift info.rule)

/-- The strings of a subscription that are converted. -/
def CommonEventSubscribeInfo.strings (info : CommonEventSubscribeInfo) : List String :=
  info.permission :: info.deviceId :: info.matchingSkills.strings

/-- **What a subscriber asks for is read as it was written.** -/
theorem CommonEventSubscribeInfo.conveys (hP : P.Fifo unread) {info : CommonEventSubscribeInfo}
    (hinfo : ∀ s ∈ info.strings, C.Inverts s) :
    Conveys unread (info.marshalling P C) (unmarshalling P C) info := by
  obtain ⟨hpermission, hinfo⟩ := List.forall_mem_cons.mp hinfo
  obtain ⟨hdeviceId, hskills⟩ := List.forall_mem_cons.mp hinfo
  have hmatchingSkills := hP.parcelable (MatchingSkills.conveys hP hskills)
  unfold marshalling unmarshalling readFromParcel
  exact (hP.convertedString hpermission).andThen ((hP.int32 _).andThen ((hP.int32 _).andThen
    ((hP.uint32 _).andThen ((hP.convertedString hdeviceId).andThen (hmatchingSkills.andThen
      ((hP.string _).andThen ((hP.int32 _).andPure _)))))))

/-- The string of an event's data, which is converted. -/
def CommonEventData.strings (data : CommonEventData ω) : List String := [data.data]

/-- The text of the data is read as it was written, also where it is empty. -/
theorem CommonEventData.conveys_text (hP : P.Fifo unread) {text : String}
    (htext : C.Inverts text) :
    Conveys unread
      (if text = "" then P.writeInt32 VALUE_NULL
        else do
          P.writeInt32 VALUE_OBJECT
          P.writeString16 (C.str8ToStr16 text))
      (readText P C "") text := by
  unfold readText
  split
  next hempty =>
    rw [hempty]
    exact (hP.int32To VALUE_NULL).andReads (Reads.done "")
  next =>
    refine (hP.int32To VALUE_OBJECT).andThen ?_
    rw [if_pos rfl]
    exact hP.convertedString htext

/-- **The data of an event is read as it was written.** -/
theorem CommonEventData.conveys (hP : P.Fifo unread)
    (hW : ∀ want, Conveys unread (W.marshalling want) W.unmarshalling want)
    {data : CommonEventData ω} (hdata : ∀ s ∈ data.strings, C.Inverts s) :
    Conveys unread (data.marshalling P C W) (unmarshalling P C W) data := by
  have htext := conveys_text hP (hdata data.data List.mem_cons_self)
  unfold marshalling unmarshalling readFromParcel
  exact htext.andThen ((hP.int32 _).andThen ((hP.parcelable (hW data.want)).andPure _))

/-- The strings of an object that are converted. -/
def Parcelable.strings : Parcelable ω → List String
  | .matchingSkills skills => skills.strings
  | .commonEventPublishInfo info => info.strings
  | .commonEventSubscribeInfo info => info.strings
  | .commonEventData data => data.strings

/-- **An object is read, by its class, as it was written.** -/
theorem Parcelable.conveys (hP : P.Fifo unread)
    (hW : ∀ want, Conveys unread (W.marshalling want) W.unmarshalling want)
    {object : Parcelable ω} (hobject : ∀ s ∈ object.strings, C.Inverts s) :
    Conveys unread (object.marshalling P C W) (object.getClass.unmarshalling P C W) object := by
  cases object with
  | matchingSkills skills => exact (MatchingSkills.conveys hP hobject).map _
  | commonEventPublishInfo info => exact (CommonEventPublishInfo.conveys hP hobject).map _
  | commonEventSubscribeInfo info => exact (CommonEventSubscribeInfo.conveys hP hobject).map _
  | commonEventData data => exact (CommonEventData.conveys hP hW hobject).map _

/-- **Objects in a parcel.** What is written of them stands behind what was in
the parcel, and wherever it comes next in a parcel, the objects are read as they
were, and what stands behind it is left. -/
theorem unmarshallingAll_marshallingAll (hP : P.Fifo unread)
    (hW : ∀ want, Conveys unread (W.marshalling want) W.unmarshalling want)
    {objects : List (Parcelable ω)}
    (hC : ∀ object ∈ objects, ∀ s ∈ object.strings, C.Inverts s) {parcel parcel' : ρ}
    (hwrite : (marshallingAll P C W objects).run parcel = some ((), parcel')) :
    ∃ written, unread parcel' = unread parcel ++ written
      ∧ ∀ parcel rest, unread parcel = written ++ rest →
        ∃ parcel', (unmarshallingAll P C W (objects.map Parcelable.getClass)).run parcel
            = some (objects, parcel')
          ∧ unread parcel' = rest := by
  obtain ⟨written, hwrites, hreads⟩ := Conveys.sequence
    (fun object hobject => Parcelable.conveys hP hW (hC object hobject))
  exact ⟨written, hwrites parcel parcel' hwrite, hreads⟩

end Wire

end RoundTrip

/-! ### Three objects in a parcel -/

namespace Wire

/-- The conversions of strings that are ASCII. -/
def asciiStringEx : StringEx (List UInt16) where
  str8ToStr16 s := s.toList.map (fun c => UInt16.ofNat c.toNat)
  str16ToStr8 v := String.ofList (v.map (fun u => Char.ofNat u.toNat))

/-- A want that has an action only. -/
def actionWant (capacity : ℕ) : WantClass (List (ParcelItem (List UInt16))) String where
  new := ""
  marshalling action := ParcelItem.put capacity (.string action)
  unmarshalling := ParcelItem.take (fun | .string s => some s | _ => none)

/-- A publication, a subscription and the data of an event, some of whose lists
and strings are empty, go through a parcel. -/
theorem unmarshallingAll_marshallingAll_three :
    ∃ written, [ParcelItem.string16Vector [], .bool false, .bool false, .string16 [98],
          .int32Vector [7, 8], .int32 (-1), .int32 2, .int32 (-1),
          .string16 [112], .int32 0, .int32 (-3), .uint32 2, .string16 [], .int32 1,
          .int32 (-1), .int32 1, .string16Vector [[101], [102]], .int32 (-1), .string "", .int32 0,
          .int32 (-1), .int32 3, .int32 1, .string "e"]
        = [] ++ written
      ∧ ∀ parcel rest, parcel = written ++ rest →
        ∃ parcel', (unmarshallingAll (Parcel.ofItems 64 []) asciiStringEx (actionWant 64)
            [.commonEventPublishInfo, .commonEventSubscribeInfo, .commonEventData]).run parcel
            = some ([.commonEventPublishInfo
                { bundleName := "b", subscriberUids := [7, 8], rule := .OR },
              .commonEventSubscribeInfo
                { matchingSkills := { events := ["e", "f"] }, permission := "p" },
              .commonEventData { want := "e", code := 3 }], parcel')
          ∧ parcel' = rest := by
  have hstrings : ∀ object ∈ [Parcelable.commonEventPublishInfo
        { bundleName := "b", subscriberUids := [7, 8], rule := .OR },
      .commonEventSubscribeInfo
        { matchingSkills := { events := ["e", "f"] }, permission := "p" },
      .commonEventData { want := "e", code := 3 }],
      ∀ s ∈ object.strings, asciiStringEx.Inverts s := by
    unfold StringEx.Inverts
    decide
  exact unmarshallingAll_marshallingAll (W := actionWant 64) (Parcel.ofItems_fifo 64 [])
    (fun _ => ParcelItem.conveys_take 64 rfl) hstrings (by decide)

end Wire

end CommonEventService

import Mathlib.Data.Nat.Notation

/-!
# The data of the common event service

The records that travel through the service: what is published, under which
conditions it may be received, what a subscriber asks for, and what the
service notes down about either side.

Machine integers appear as such only where the code mixes widths or
signedness: a uid is unsigned, a `publisherUid` and the uids a publisher
names are signed, and the comparisons convert. Everything else that is a
`int32_t` or wider and is only compared is an integer. What only the log or
the dump reads – the subscriber's identifier, its device and thread mode –
is left out.
-/

namespace CommonEventService

/-- A remote object, by identity: `sptr<IRemoteObject>`, never null. -/
structure Remote where
  id : ℕ
  deriving DecidableEq, Repr

abbrev Pid := Int
abbrev Uid := UInt32
abbrev AccessTokenID := UInt32

/-! ## Constants -/

def ALL_USER : Int := -1
def CURRENT_USER : Int := -2
def UNDEFINED_USER : Int := -3
def SUBSCRIBE_USER_SYSTEM_BEGIN : Int := 0
def SUBSCRIBE_USER_SYSTEM_END : Int := 99
def UNDEFINED_PID : Pid := -1
def DEFAULT_VERSION : Int := -1

def ALL_SUBSCRIBER_TYPE : Int := 0
def SYSTEM_SUBSCRIBER_TYPE : Int := 1
def UNINITIALIZATED_SUBSCRIBER_TYPE : Int := -1

def SUBSCRIBER_FILTER_BUNDLE_INDEX : UInt16 := 1
def SUBSCRIBER_FILTER_PERMISSION_INDEX : UInt16 := 2
def SUBSCRIBER_FILTER_SUBSCRIBER_TYPE_INDEX : UInt16 := 4
def SUBSCRIBER_FILTER_SUBSCRIBER_UID_INDEX : UInt16 := 8
def SUBSCRIBER_FILTER_VERSION : UInt16 := 16

def COMMON_EVENT_SCREEN_OFF : String := "usual.event.SCREEN_OFF"

/-! ## What is published -/

/-- What a parameter of a want holds: a value of one of the four types a
filter can name, a floating-point number by its bits, or something else. -/
inductive WantParam where
  | boolean (value : Bool)
  | integer (value : Int32)
  | double (bits : UInt64)
  | string (value : String)
  | other (value : String)
  deriving DecidableEq, Repr

/-- The parts of a `Want` the service looks at; `bundleName` is that of its
element, and `payload` stands for the parts the service only hands on. -/
structure Want where
  action : String
  entities : List String := []
  scheme : String := ""
  bundleName : String := ""
  parameters : List (String × WantParam) := []
  payload : String := ""
  deriving DecidableEq, Repr

namespace Want

variable (want : Want)

/-- `GetParams().GetParam`. -/
def getParam (name : String) : Option WantParam := want.parameters.lookup name

/-- `GetIntParam`. -/
def getIntParam (name : String) (default : Int32) : Int32 :=
  match want.getParam name with
  | some (.integer value) => value
  | _ => default

end Want

/-- `CommonEventData`. -/
structure CommonEventData where
  want : Want
  code : Int := 0
  data : String := ""
  deriving DecidableEq, Repr

/-- `ValidationRule`. -/
inductive ValidationRule where
  | AND
  | OR
  deriving DecidableEq, Repr

/-- `CommonEventPublishInfo`, with the values of its default constructor. -/
structure CommonEventPublishInfo where
  sticky : Bool := false
  ordered : Bool := false
  bundleName : String := ""
  subscriberPermissions : List String := []
  subscriberUids : List Int32 := []
  subscriberType : Int := UNINITIALIZATED_SUBSCRIBER_TYPE
  rule : ValidationRule := .AND
  maximumVersion : Int := -1
  deriving DecidableEq, Repr

/-- The filters a publisher has set, one bit each. -/
def CommonEventPublishInfo.getFilterSettings (info : CommonEventPublishInfo) : UInt16 :=
  (if info.subscriberType ≠ UNINITIALIZATED_SUBSCRIBER_TYPE then
    SUBSCRIBER_FILTER_SUBSCRIBER_TYPE_INDEX else 0)
  ||| (if info.bundleName ≠ "" then SUBSCRIBER_FILTER_BUNDLE_INDEX else 0)
  ||| (if info.subscriberPermissions ≠ [] then SUBSCRIBER_FILTER_PERMISSION_INDEX else 0)
  ||| (if info.subscriberUids ≠ [] then SUBSCRIBER_FILTER_SUBSCRIBER_UID_INDEX else 0)
  ||| (if info.maximumVersion ≠ DEFAULT_VERSION then SUBSCRIBER_FILTER_VERSION else 0)

/-! ## What a subscriber asks for -/

/-- `MatchingSkills`. -/
structure MatchingSkills where
  entities : List String := []
  events : List String := []
  schemes : List String := []
  deriving DecidableEq, Repr

namespace MatchingSkills

variable (skills : MatchingSkills)

def matchEvent (event : String) : Bool :=
  if event = "" then false else skills.events.contains event

def matchEntity (entities : List String) : Bool :=
  if entities = [] then true
  else entities.all (fun entity => skills.entities.contains entity)

def matchScheme (scheme : String) : Bool :=
  if skills.schemes ≠ [] then skills.schemes.contains scheme
  else scheme = ""

/-- Whether a want meets the skills. -/
def «match» (want : Want) : Bool :=
  skills.matchEvent want.action && skills.matchEntity want.entities
    && skills.matchScheme want.scheme

end MatchingSkills

/-- `CommonEventSubscribeInfo`. -/
structure CommonEventSubscribeInfo where
  matchingSkills : MatchingSkills
  priority : Int := 0
  userId : Int := UNDEFINED_USER
  permission : String := ""
  publisherBundleName : String := ""
  publisherUid : Int32 := 0
  deriving DecidableEq, Repr

/-- The event names a subscriber asks for: `GetMatchingSkills().GetEvents()`. -/
def CommonEventSubscribeInfo.getEvents (info : CommonEventSubscribeInfo) : List String :=
  info.matchingSkills.events

/-! ## What the service notes down -/

/-- `EventRecordInfo`: who published, or who subscribed. -/
structure EventRecordInfo where
  isSubsystem : Bool := false
  isSystemApp : Bool := false
  isProxy : Bool := false
  pid : Pid := 0
  uid : Uid := 0
  callerToken : AccessTokenID := 0
  bundleName : String := ""
  deriving DecidableEq, Repr

/-- **`CommonEventRecord`.** The two shared pointers are type parameters:
`δ` and `π` are the cells themselves where it matters that they are shared,
and their contents where it does not. -/
structure CommonEventRecord (δ π : Type) where
  isSystemEvent : Bool := false
  userId : Int := UNDEFINED_USER
  commonEventData : δ
  publishInfo : π
  recordTime : Int := 0
  eventRecordInfo : EventRecordInfo := {}
  deriving DecidableEq, Repr

/-- A record whose two pointers have been followed. -/
abbrev EventRecord := CommonEventRecord CommonEventData CommonEventPublishInfo

/-- `EventSubscriberRecord`. The registration time is only dumped. -/
structure EventSubscriberRecord where
  isFreeze : Bool := false
  freezeTime : Int := 0
  eventSubscribeInfo : CommonEventSubscribeInfo
  commonEventListener : Remote
  eventRecordInfo : EventRecordInfo
  deriving DecidableEq, Repr

end CommonEventService

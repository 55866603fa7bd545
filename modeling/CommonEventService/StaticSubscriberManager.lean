import Mathlib.Algebra.Group.Nat.Defs
import CommonEventService.Platform
import CommonEventService.Lib.Dict

/-!
# The static subscriber manager

An application may subscribe in its profile instead of at run time:
`StaticSubscriberManager` keeps, for each event, the extensions that did so,
and connects to them when the event is published. It reads them in with the
first publish, and again whenever a user comes to the foreground; an event
about a package updates what it holds of that package. An application may
also switch its subscriptions off, event by event: `disableEvents_`.

What the bundle manager, the account service and the database answer may
differ from one publish to the next, so it comes with each publish; so does
the parsed text of a profile, since the JSON parser is not part of the
service. What is made of the parsed text is.
-/

namespace CommonEventService

def COMMON_EVENT_PACKAGE_ADDED : String := "usual.event.PACKAGE_ADDED"
def COMMON_EVENT_PACKAGE_CHANGED : String := "usual.event.PACKAGE_CHANGED"
def COMMON_EVENT_PACKAGE_REMOVED : String := "usual.event.PACKAGE_REMOVED"
def COMMON_EVENT_USER_FOREGROUND : String := "usual.event.USER_FOREGROUND"

/-- `AppExecFwk::Constants::UID`. -/
def UID : String := "uid"

/-! ## What is read in -/

/-- A JSON value; a floating-point number by its bits. -/
inductive Json where
  | null
  | bool (value : Bool)
  | int (value : Int)
  | float (bits : UInt64)
  | string (value : String)
  | array (values : List Json)
  | object (members : List (String × Json))

/-- A member of an object, `null` where there is none. -/
def Json.member (members : List (String × Json)) (key : String) : Json :=
  (members.lookup key).getD .null

/-- `StaticSubscriberManager::ParameterType`. -/
inductive ParameterType where
  | bool (value : Bool)
  | int32 (value : Int32)
  | double (bits : UInt64)
  | string (value : String)
  deriving DecidableEq, Repr

/-- `StaticSubscriberInfo`. -/
structure StaticSubscriberInfo where
  userId : Int := -1
  name : String
  bundleName : String
  permission : String := ""
  filterCode : Option Int32 := none
  filterData : Option String := none
  filterParameters : List (String × ParameterType) := []
  deriving DecidableEq, Repr

/-- What the manager reads of an `ApplicationInfo`. -/
structure ApplicationInfo where
  bundleName : String
  uid : Uid
  allowCommonEvent : List String

/-- What the manager reads of an `ExtensionAbilityInfo`; `uid` is that of its
application. -/
structure ExtensionAbilityInfo where
  name : String
  bundleName : String
  uid : Uid

/-- **What the services around the manager answer at one publish.** `none` is
a call that fails. -/
structure StaticEnvironment where
  getApplicationInfos : Option (List ApplicationInfo) := none
  /-- The entries of the database, the mark of the last migration apart. -/
  getEntries : Option (List (String × String)) := some []
  /-- Whether the database bears that mark. -/
  isUpdated : Bool := true
  queryExtensionInfos : Option (List ExtensionAbilityInfo) := none
  queryExtensionInfosOfUser : Int → Option (List ExtensionAbilityInfo) := fun _ => none
  getResConfigFile : ExtensionAbilityInfo → Option (List String) := fun _ => none
  /-- `nlohmann::json::parse`. -/
  parse : String → Option Json := fun _ => none
  queryActiveOsAccountIds : Option (List Int) := none
  checkIsSystemAppByBundleName : String → Int → Bool := fun _ _ => false
  getDefaultUidByBundleName : String → Int → Int32 := fun _ _ => -1
  getHapTokenID : Int → String → AccessTokenID := fun _ _ => 0

/-- `PublishCommonEventConnecAbility`: a connection to a static subscriber,
or a notification over the one that stands. -/
structure StaticConnection where
  data : CommonEventData
  userId : Int
  bundleName : String
  abilityName : String
  deriving DecidableEq, Repr

/-- **`StaticSubscriberManager`**, with the connections it has made, which no
step reads. -/
structure StaticSubscriberManager where
  validSubscribers : Dict String (List StaticSubscriberInfo) := ∅
  /-- `staticSubscribers_`: which events a bundle is allowed. -/
  staticSubscribers : Dict String (List String) := ∅
  disableEvents : Dict String (List String) := ∅
  hasInitValidSubscribers : Bool := false
  connected : List StaticConnection := []

/-- The key of a bundle of a user. -/
def bundleKey (userId : Int) (bundleName : String) : String :=
  toString userId ++ "_" ++ bundleName

/-! ## The database -/

namespace StaticSubscriberDataManager

variable (P : Platform) (env : StaticEnvironment)

/-- `IsNeedUpdateKey`: a key of the old form starts with a uid, and gets the
user of that uid instead. -/
def isNeedUpdateKey (key : String) : Option String :=
  let numStr := key.toList.takeWhile Char.isDigit
  let uid := numStr.foldl (fun acc c => acc * 10 + (c.toNat - '0'.toNat)) 0
  if numStr = [] ∨ uid ≥ 2 ^ 31 then none
  else
    (P.getOsAccountLocalIdFromUid (UInt32.ofNat uid)).map
      (fun userId => bundleKey userId (String.ofList (key.toList.dropWhile Char.isDigit)))

/-- `ConvertValueToEvents`. -/
def convertValueToEvents (value : String) : Option (List String) :=
  match env.parse value with
  | some (.array (first :: rest)) =>
    some ((first :: rest).filterMap fun
      | .string event => some event
      | _ => none)
  | _ => none

/-- The loop of `QueryStaticSubscriberStateData` over the entries. -/
def queryEntries (disableEvents : Dict String (List String)) (bundleList : List String) :
    List (String × String) → Dict String (List String) × List String
  | [] => (disableEvents, bundleList)
  | (key, value) :: entries =>
    if !env.isUpdated ∧ key = "" then queryEntries disableEvents bundleList entries
    else
      let newKey := if env.isUpdated then key else (isNeedUpdateKey P key).getD key
      if value = "0" then queryEntries disableEvents (bundleList ++ [newKey]) entries
      else
        match convertValueToEvents env value with
        | none => (disableEvents, bundleList)
        | some values => queryEntries (Dict.emplace disableEvents newKey values) bundleList entries

/-- `QueryStaticSubscriberStateData`: the disabled events are added to those
held, and the bundles with all their events disabled are listed. -/
def queryStaticSubscriberStateData (disableEvents : Dict String (List String)) :
    Dict String (List String) × List String :=
  match env.getEntries with
  | none => (disableEvents, [])
  | some entries => queryEntries P env disableEvents [] entries

end StaticSubscriberDataManager

namespace StaticSubscriberManager

variable (P : Platform) (env : StaticEnvironment) (m : StaticSubscriberManager)

/-! ## Reading a profile -/

/-- The value of a parameter that a filter can name. -/
def parameterOfJson : Json → Option ParameterType
  | .bool value => some (.bool value)
  | .int value => some (.int32 (Int32.ofInt value))
  | .float bits => some (.double bits)
  | .string value => some (.string value)
  | _ => none

/-- `AddFilterParameter`: an entry that is there stays. -/
def addFilterParameter (filterParameters : List (String × ParameterType))
    (param : String × Json) : List (String × ParameterType) :=
  match parameterOfJson param.2 with
  | some parameter =>
    if (filterParameters.lookup param.1).isSome then filterParameters
    else filterParameters ++ [(param.1, parameter)]
  | none => filterParameters

/-- `ParseConditions`. -/
def parseConditions (conditions : List (String × Json)) (subscriber : StaticSubscriberInfo) :
    StaticSubscriberInfo :=
  { subscriber with
    filterCode :=
      match conditions.lookup "code" with
      | some (.int code) => some (Int32.ofInt code)
      | _ => subscriber.filterCode
    filterData :=
      match conditions.lookup "data" with
      | some (.string data) => some data
      | _ => subscriber.filterData
    filterParameters :=
      match conditions.lookup "parameters" with
      | some (.object parameters) =>
        parameters.foldl addFilterParameter subscriber.filterParameters
      | _ => subscriber.filterParameters }

/-- The conditions of a filter of the event: what the loop of
`ParseFilterObject` stops at. -/
def filterConditions (eventName : String) : Json → Option (List (String × Json))
  | .object filter =>
    match Json.member filter "event", filter.lookup "conditions" with
    | .string event, some (.object conditions) =>
      if event = eventName then some conditions else none
    | _, _ => none
  | _ => none

/-- `ParseFilterObject`: the first filter of the event that has conditions
counts. -/
def parseFilterObject (filterObj : Json) (eventName : String)
    (subscriber : StaticSubscriberInfo) : StaticSubscriberInfo :=
  match filterObj with
  | .array filters =>
    match filters.findSome? (filterConditions eventName) with
    | some conditions => parseConditions conditions subscriber
    | none => subscriber
  | _ => subscriber

/-- `AddToValidSubscribers`. -/
def addToValidSubscribers (eventName : String) (subscriber : StaticSubscriberInfo) :
    StaticSubscriberManager :=
  let subscribers := (m.validSubscribers.lookup eventName).getD []
  if subscribers.any (fun sub => sub.name = subscriber.name
      && sub.bundleName = subscriber.bundleName && sub.userId = subscriber.userId)
  then m
  else
    { m with
      validSubscribers := m.validSubscribers.insert eventName (subscribers ++ [subscriber]) }

/-- One round of the inner loop of `ParseEvents`: an event that a profile
names counts if the bundle is allowed it. -/
def parseEvent (extension : ExtensionAbilityInfo) (userId : Int)
    (commonEvent : List (String × Json)) (permission : String)
    (m : StaticSubscriberManager) : Json → StaticSubscriberManager
  | .string eventName =>
    let allowed := (m.staticSubscribers.lookup (bundleKey userId extension.bundleName)).getD []
    if allowed.contains eventName then
      m.addToValidSubscribers eventName
        (parseFilterObject (Json.member commonEvent "filter") eventName
          { name := extension.name
            bundleName := extension.bundleName
            userId := userId
            permission := permission })
    else m
  | _ => m

/-- One round of the outer loop of `ParseEvents`. -/
def parseCommonEvent (extension : ExtensionAbilityInfo) (userId : Int)
    (m : StaticSubscriberManager) : Json → StaticSubscriberManager
  | .object commonEvent =>
    match Json.member commonEvent "name", Json.member commonEvent "permission",
        Json.member commonEvent "events" with
    | .string name, .string permission, .array events =>
      if name = extension.name then
        events.foldl (parseEvent extension userId commonEvent permission) m
      else m
    | _, _, _ => m
  | _ => m

/-- `ParseEvents`. -/
def parseEvents (extension : ExtensionAbilityInfo) (userId : Int)
    (m : StaticSubscriberManager) (profile : String) : StaticSubscriberManager :=
  if profile = "" then m
  else
    match env.parse profile with
    | some (.object members) =>
      match Json.member members "commonEvents" with
      | .array commonEvents => commonEvents.foldl (parseCommonEvent extension userId) m
      | _ => m
    | _ => m

/-- `AddSubscriber`. -/
def addSubscriber (extension : ExtensionAbilityInfo) : StaticSubscriberManager :=
  match env.getResConfigFile extension, P.getOsAccountLocalIdFromUid extension.uid with
  | some profileInfos, some userId => profileInfos.foldl (parseEvents env extension userId) m
  | _, _ => m

/-! ## Reading all subscribers in -/

/-- One round of `InitAllowList`. -/
def allowEvents (staticSubscribers : Dict String (List String)) (appInfo : ApplicationInfo) :
    Dict String (List String) :=
  match P.getOsAccountLocalIdFromUid appInfo.uid with
  | none => staticSubscribers
  | some userId =>
    appInfo.allowCommonEvent.foldl (fun staticSubscribers event =>
        let key := bundleKey userId appInfo.bundleName
        AList.insert key ((staticSubscribers.lookup key).getD [] ++ [event]) staticSubscribers)
      staticSubscribers

/-- One round of the loop of `InitValidSubscribers` over the extensions. -/
def addExtension (m : StaticSubscriberManager) (extension : ExtensionAbilityInfo) :
    StaticSubscriberManager :=
  match P.getOsAccountLocalIdFromUid extension.uid with
  | none => m
  | some userId =>
    if (m.staticSubscribers.lookup (bundleKey userId extension.bundleName)).isSome
    then m.addSubscriber P env extension else m

/-- What `InitValidSubscribers` makes of the bundles that have all their
events disabled. -/
def disableBundles (bundleList : List String) : StaticSubscriberManager :=
  if bundleList = [] then m
  else
    { m with
      disableEvents := bundleList.foldl (fun disableEvents key =>
        match m.staticSubscribers.lookup key with
        | none => disableEvents
        | some events => Dict.emplace disableEvents key events) ∅ }

/-- **`InitValidSubscribers`**, and whether it succeeds. -/
def initValidSubscribers : Bool × StaticSubscriberManager :=
  let m := { m with validSubscribers := ∅ }
  match env.getApplicationInfos with
  | none => (false, m)
  | some appInfos =>
    let (disableEvents, bundleList) :=
      StaticSubscriberDataManager.queryStaticSubscriberStateData P env m.disableEvents
    let m :=
      { m with
        staticSubscribers := appInfos.foldl (allowEvents P) m.staticSubscribers
        disableEvents := disableEvents }
    match env.queryExtensionInfos with
    | none => (false, m)
    | some extensions =>
      (true, { (extensions.foldl (addExtension P env) m).disableBundles bundleList with
        hasInitValidSubscribers := true })

/-! ## Following a package -/

/-- `AddSubscriberWithBundleName`. -/
def addSubscriberWithBundleName (bundleName : String) (userId : Int) :
    StaticSubscriberManager :=
  match env.queryExtensionInfosOfUser userId with
  | none => m
  | some extensions =>
    extensions.foldl (fun m extension =>
      if extension.bundleName = bundleName
          ∧ (m.staticSubscribers.lookup (bundleKey userId bundleName)).isSome
      then m.addSubscriber P env extension else m) m

/-- `RemoveSubscriberWithBundleName`. -/
def removeSubscriberWithBundleName (bundleName : String) (userId : Int) :
    StaticSubscriberManager :=
  { m with
    validSubscribers := m.validSubscribers.keys.foldl (fun validSubscribers event =>
      let subscribers := ((validSubscribers.lookup event).getD []).filter
        (fun sub => !(sub.bundleName = bundleName && sub.userId = userId))
      if subscribers = [] then AList.erase event validSubscribers
      else AList.insert event subscribers validSubscribers) m.validSubscribers
    disableEvents := m.disableEvents.erase (bundleKey userId bundleName) }

/-- `UpdateSubscriber`. -/
def updateSubscriber (data : CommonEventData) : StaticSubscriberManager :=
  let action := data.want.action
  if action ≠ COMMON_EVENT_PACKAGE_ADDED ∧ action ≠ COMMON_EVENT_PACKAGE_CHANGED
      ∧ action ≠ COMMON_EVENT_PACKAGE_REMOVED then m
  else
    let bundleName := data.want.bundleName
    let uid := data.want.getIntParam UID (-1)
    match P.getOsAccountLocalIdFromUid uid.toUInt32, env.queryActiveOsAccountIds with
    | some userId, some osAccountIds =>
      if !osAccountIds.contains userId then m
      else if action = COMMON_EVENT_PACKAGE_ADDED then
        m.addSubscriberWithBundleName P env bundleName userId
      else if action = COMMON_EVENT_PACKAGE_REMOVED then
        m.removeSubscriberWithBundleName bundleName userId
      else
        (m.removeSubscriberWithBundleName bundleName userId).addSubscriberWithBundleName P env
          bundleName userId
    | _, _ => m

/-! ## Switching subscriptions off and on -/

/-- One round of `UpdateDisableEvents`. -/
def updateDisableEvent (enable : Bool) (currentEvents : List String) (event : String) :
    List String :=
  if enable then currentEvents.erase event
  else if currentEvents.contains event then currentEvents else currentEvents ++ [event]

/-- `UpdateDisableEvents`. -/
def updateDisableEvents (bundleName : String) (events : List String) (enable : Bool)
    (userId : Int) : StaticSubscriberManager :=
  let key := bundleKey userId bundleName
  match m.disableEvents.lookup key with
  | none =>
    if enable then m else { m with disableEvents := m.disableEvents.insert key events }
  | some currentEvents =>
    let currentEvents := events.foldl (updateDisableEvent enable) currentEvents
    { m with
      disableEvents :=
        if currentEvents = [] then m.disableEvents.erase key
        else m.disableEvents.insert key currentEvents }

/-- `SetStaticSubscriberState`, of the events given or of all a bundle is
allowed; `bundleName` is that of the caller. -/
def setStaticSubscriberState (callingUid : Uid) (bundleName : String)
    (events : Option (List String)) (enable : Bool) : StaticSubscriberManager :=
  match P.getOsAccountLocalIdFromUid callingUid with
  | none => m
  | some userId =>
    match events with
    | some events => m.updateDisableEvents bundleName events enable userId
    | none =>
      match m.staticSubscribers.lookup (bundleKey userId bundleName) with
      | none => m
      | some events => m.updateDisableEvents bundleName events enable userId

/-! ## Publishing -/

/-- `IsDisableEvent`. -/
def isDisableEvent (bundleName event : String) (userId : Int) : Bool :=
  match m.disableEvents.lookup (bundleKey userId bundleName) with
  | none => false
  | some events => events.contains event

theorem isDisableEvent_iff (m : StaticSubscriberManager) {bundleName event : String}
    {userId : Int} :
    m.isDisableEvent bundleName event userId = true
      ↔ event ∈ (m.disableEvents.lookup (bundleKey userId bundleName)).getD [] := by
  unfold isDisableEvent
  cases m.disableEvents.lookup (bundleKey userId bundleName) with
  | none => simp
  | some events => simp

/-- `VerifySubscriberPermission`. -/
def verifySubscriberPermission (bundleName : String) (userId : Int)
    (permissions : List String) : Bool :=
  permissions.all (fun permission =>
    permission = "" || P.verifyAccessToken (env.getHapTokenID userId bundleName) permission)

/-- `CheckSubscriberWhetherMatched`: what the publisher asks of a static
subscriber. -/
def checkSubscriberWhetherMatched (subscriber : StaticSubscriberInfo)
    (publishInfo : CommonEventPublishInfo) : Bool :=
  let filterSettings := publishInfo.getFilterSettings
  if filterSettings = 0 then true
  else
    let isSystemApp :=
      env.checkIsSystemAppByBundleName subscriber.bundleName subscriber.userId
    let isTypeMatched : Bool := publishInfo.subscriberType = ALL_SUBSCRIBER_TYPE
      || (publishInfo.subscriberType = SYSTEM_SUBSCRIBER_TYPE && isSystemApp)
    let subscriberUid := env.getDefaultUidByBundleName subscriber.bundleName subscriber.userId
    let checkResult : UInt16 :=
      (if publishInfo.bundleName ≠ "" ∧ publishInfo.bundleName = subscriber.bundleName
        then SUBSCRIBER_FILTER_BUNDLE_INDEX else 0)
      ||| (if publishInfo.subscriberType ≠ UNINITIALIZATED_SUBSCRIBER_TYPE ∧ isTypeMatched
        then SUBSCRIBER_FILTER_SUBSCRIBER_TYPE_INDEX else 0)
      ||| (if publishInfo.subscriberUids ≠ []
          ∧ publishInfo.subscriberUids.contains subscriberUid
        then SUBSCRIBER_FILTER_SUBSCRIBER_UID_INDEX else 0)
      ||| (if publishInfo.subscriberPermissions ≠ []
          ∧ verifySubscriberPermission P env subscriber.bundleName subscriber.userId
            publishInfo.subscriberPermissions
        then SUBSCRIBER_FILTER_PERMISSION_INDEX else 0)
    match publishInfo.rule with
    | .AND => checkResult = filterSettings
    | .OR => checkResult &&& filterSettings ≠ 0

/-- `VerifyPublisherPermission`. -/
def verifyPublisherPermission (callerToken : AccessTokenID) (permission : String) : Bool :=
  permission = "" || P.verifyAccessToken callerToken permission

/-- `CheckSpecificParam`: the parameter is there, of the type of the filter,
and equal to it. -/
def checkSpecificParam (want : Want) (param : String × ParameterType) : Bool :=
  match param.2, want.getParam param.1 with
  | .bool paramValue, some (.boolean wantValue) => wantValue = paramValue
  | .int32 paramValue, some (.integer wantValue) => wantValue = paramValue
  | .double paramValue, some (.double wantValue) =>
    Float.ofBits wantValue == Float.ofBits paramValue
  | .string paramValue, some (.string wantValue) => wantValue = paramValue
  | _, _ => false

/-- `IsFilterParameters`. -/
def isFilterParameters (subscriber : StaticSubscriberInfo) (data : CommonEventData) : Bool :=
  subscriber.filterCode.all (fun filterCode => filterCode.toInt = data.code)
    && subscriber.filterData.all (fun filterData => filterData = data.data)
    && subscriber.filterParameters.all (checkSpecificParam data.want)

/-- **The checks of `PublishCommonEventInner`** on one static subscriber, in
the order of the code. -/
def isConnected (data : CommonEventData) (publishInfo : CommonEventPublishInfo)
    (callerToken : AccessTokenID) (userId : Int) (subscriber : StaticSubscriberInfo) : Bool :=
  !m.isDisableEvent subscriber.bundleName data.want.action subscriber.userId
    && !(subscriber.userId < SUBSCRIBE_USER_SYSTEM_BEGIN : Bool)
    && !(subscriber.userId > SUBSCRIBE_USER_SYSTEM_END && userId ≠ ALL_USER
      && subscriber.userId ≠ userId)
    && checkSubscriberWhetherMatched P env subscriber publishInfo
    && verifyPublisherPermission P callerToken subscriber.permission
    && isFilterParameters subscriber data

/-- The static subscribers of an event. -/
def subscribersOf (event : String) : List StaticSubscriberInfo :=
  (m.validSubscribers.lookup event).getD []

/-- `PublishCommonEventInner`. -/
def publishCommonEventInner (data : CommonEventData) (publishInfo : CommonEventPublishInfo)
    (callerToken : AccessTokenID) (userId : Int) : StaticSubscriberManager :=
  { m with
    connected := m.connected
      ++ ((m.subscribersOf data.want.action).filter
        (m.isConnected P env data publishInfo callerToken userId)).map
          (fun subscriber =>
            ⟨data, subscriber.userId, subscriber.bundleName, subscriber.name⟩) }

/-- Whether a publish reads the subscribers in. -/
def isInitDue (event : String) : Bool :=
  !m.hasInitValidSubscribers || event = COMMON_EVENT_USER_FOREGROUND

/-- What a publish goes by: the subscribers read in where that is due, and
brought up to date with the packages. It fails where they cannot be read. -/
def refresh (data : CommonEventData) : Bool × StaticSubscriberManager :=
  if m.isInitDue data.want.action then
    match m.initValidSubscribers P env with
    | (false, m) => (false, m)
    | (true, m) => (true, m.updateSubscriber P env data)
  else (true, m.updateSubscriber P env data)

/-- **`PublishCommonEvent`.** -/
def publishCommonEvent (data : CommonEventData) (publishInfo : CommonEventPublishInfo)
    (callerToken : AccessTokenID) (userId : Int) : StaticSubscriberManager :=
  match m.refresh P env data with
  | (false, m) => m
  | (true, m) => m.publishCommonEventInner P env data publishInfo callerToken userId

/-! ## What reading a profile leaves -/

section Frame

variable {m t : StaticSubscriberManager} {P : Platform} {env : StaticEnvironment}

/-- Nothing differs but the static subscribers of events. -/
def OnlySubscribers (m t : StaticSubscriberManager) : Prop :=
  ∃ validSubscribers, t = { m with validSubscribers := validSubscribers }

namespace OnlySubscribers

theorem refl (m : StaticSubscriberManager) : OnlySubscribers m m := ⟨_, rfl⟩

theorem trans {u : StaticSubscriberManager} (h : OnlySubscribers m t)
    (h' : OnlySubscribers t u) : OnlySubscribers m u := by
  obtain ⟨_, rfl⟩ := h
  obtain ⟨validSubscribers, rfl⟩ := h'
  exact ⟨validSubscribers, rfl⟩

theorem foldl {α : Type} {f : StaticSubscriberManager → α → StaticSubscriberManager}
    (hf : ∀ m a, OnlySubscribers m (f m a)) (as : List α) (m : StaticSubscriberManager) :
    OnlySubscribers m (as.foldl f m) := by
  induction as generalizing m with
  | nil => exact refl m
  | cons a as ih => exact (hf m a).trans (ih (f m a))

theorem connected (h : OnlySubscribers m t) : t.connected = m.connected := by
  obtain ⟨_, rfl⟩ := h
  rfl

theorem disableEvents (h : OnlySubscribers m t) : t.disableEvents = m.disableEvents := by
  obtain ⟨_, rfl⟩ := h
  rfl

theorem staticSubscribers (h : OnlySubscribers m t) :
    t.staticSubscribers = m.staticSubscribers := by
  obtain ⟨_, rfl⟩ := h
  rfl

end OnlySubscribers

theorem onlySubscribers_parseEvent (extension : ExtensionAbilityInfo) (userId : Int)
    (commonEvent : List (String × Json)) (permission : String) (m : StaticSubscriberManager)
    (event : Json) :
    OnlySubscribers m (parseEvent extension userId commonEvent permission m event) := by
  unfold parseEvent
  split
  · dsimp only
    split
    · unfold addToValidSubscribers
      dsimp only
      split
      · exact .refl m
      · exact ⟨_, rfl⟩
    · exact .refl m
  · exact .refl m

theorem onlySubscribers_parseCommonEvent (extension : ExtensionAbilityInfo) (userId : Int)
    (m : StaticSubscriberManager) (commonEvent : Json) :
    OnlySubscribers m (parseCommonEvent extension userId m commonEvent) := by
  unfold parseCommonEvent
  split
  · split
    · split
      · exact .foldl (onlySubscribers_parseEvent extension userId _ _) _ m
      · exact .refl m
    · exact .refl m
  · exact .refl m

/-- **Reading the profiles of an extension** adds static subscribers, and
does nothing else. -/
theorem onlySubscribers_addSubscriber (m : StaticSubscriberManager)
    (extension : ExtensionAbilityInfo) :
    OnlySubscribers m (m.addSubscriber P env extension) := by
  unfold addSubscriber
  split
  · refine .foldl (fun m profile => ?_) _ m
    unfold parseEvents
    split
    · exact .refl m
    · split
      · split
        · exact .foldl (onlySubscribers_parseCommonEvent extension _) _ m
        · exact .refl m
      · exact .refl m
  · exact .refl m

theorem onlySubscribers_addExtension (m : StaticSubscriberManager)
    (extension : ExtensionAbilityInfo) :
    OnlySubscribers m (addExtension P env m extension) := by
  unfold addExtension
  split
  · exact .refl m
  · split
    · exact onlySubscribers_addSubscriber m extension
    · exact .refl m

theorem onlySubscribers_addSubscriberWithBundleName (m : StaticSubscriberManager)
    (bundleName : String) (userId : Int) :
    OnlySubscribers m (m.addSubscriberWithBundleName P env bundleName userId) := by
  unfold addSubscriberWithBundleName
  split
  · exact .refl m
  · refine .foldl (fun m extension => ?_) _ m
    split
    · exact onlySubscribers_addSubscriber m extension
    · exact .refl m

/-! ## Nothing but a publish connects -/

variable (m P env) in
theorem connected_initValidSubscribers :
    (m.initValidSubscribers P env).2.connected = m.connected := by
  have hdisable : ∀ (m : StaticSubscriberManager) (bundleList : List String),
      (m.disableBundles bundleList).connected = m.connected := by
    intro m bundleList
    unfold disableBundles
    split <;> rfl
  unfold initValidSubscribers
  dsimp only
  split
  · rfl
  · split
    · rfl
    · exact (hdisable _ _).trans (OnlySubscribers.foldl onlySubscribers_addExtension _ _).connected

theorem connected_updateSubscriber (data : CommonEventData) :
    (m.updateSubscriber P env data).connected = m.connected := by
  have hadd : ∀ (m : StaticSubscriberManager) (bundleName : String) (userId : Int),
      (m.addSubscriberWithBundleName P env bundleName userId).connected = m.connected :=
    fun m bundleName userId =>
      (onlySubscribers_addSubscriberWithBundleName m bundleName userId).connected
  unfold updateSubscriber
  dsimp only
  split
  · rfl
  · split
    · split
      · rfl
      · split
        · exact hadd _ _ _
        · split
          · rfl
          · exact hadd _ _ _
    · rfl

variable (m P env) in
/-- **Bringing the subscribers up to date connects to none.** -/
theorem connected_refresh (data : CommonEventData) :
    (m.refresh P env data).2.connected = m.connected := by
  unfold refresh
  split
  · have hinit := m.connected_initValidSubscribers P env
    split
    next heq =>
      rw [heq] at hinit
      exact hinit
    next heq =>
      rw [heq] at hinit
      exact (connected_updateSubscriber data).trans hinit
  · exact connected_updateSubscriber data

end Frame

end StaticSubscriberManager

end CommonEventService

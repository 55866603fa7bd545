import CommonEventService.Platform
import CommonEventService.SubscriberManager

/-!
# Who receives an event

The checks of `GetSubscriberRecordsByWantLocked`, one definition each, and
the selection they make. The build is the default one: without the
customised screen events of watches, a record that passes the checks is
selected.
-/

namespace CommonEventService

variable {δ π : Type} (P : Platform)

/-- `CheckSubscriberByUserId`. -/
def checkSubscriberByUserId (subscriberUserId : Int) (isSystemApp : Bool) (userId : Int) :
    Bool :=
  if subscriberUserId = ALL_USER ∨ subscriberUserId = userId then true
  else
    isSystemApp && (userId = UNDEFINED_USER || userId = ALL_USER
      || (SUBSCRIBE_USER_SYSTEM_BEGIN ≤ subscriberUserId
        && subscriberUserId ≤ SUBSCRIBE_USER_SYSTEM_END))

/-- `CheckSubscriberBySpecifiedUids`. -/
def checkSubscriberBySpecifiedUids (subscriberUid : Int32)
    (specifiedSubscriberUids : List Int32) : Bool :=
  specifiedSubscriberUids.contains subscriberUid

/-- `CheckSubscriberBySpecifiedType`. -/
def checkSubscriberBySpecifiedType (specifiedSubscriberType : Int) (isSystemApp : Bool) :
    Bool :=
  specifiedSubscriberType = ALL_SUBSCRIBER_TYPE
    || (specifiedSubscriberType = SYSTEM_SUBSCRIBER_TYPE && isSystemApp)

/-- `CheckSubscriberByMaximumVersion`: a version that cannot be found out
passes. -/
def checkSubscriberByMaximumVersion (subscriber : EventSubscriberRecord)
    (event : EventRecord) : Bool :=
  let maximumVersion := event.publishInfo.maximumVersion
  if maximumVersion = DEFAULT_VERSION then false
  else
    match P.getApiTargetVersionByUid subscriber.eventRecordInfo.uid with
    | none => true
    | some subscriberVersion => !(subscriberVersion.tmod 1000 > maximumVersion)

/-- `CheckWhetherIsAppIndexSubscribed`: not between two instances of one
application. -/
def checkWhetherIsAppIndexSubscribed (subscriber : EventSubscriberRecord)
    (event : EventRecord) : Bool :=
  let publisherBundleName := event.eventRecordInfo.bundleName
  let subscriberBundleName := subscriber.eventRecordInfo.bundleName
  !(publisherBundleName ≠ "" && subscriberBundleName ≠ ""
    && subscriberBundleName = publisherBundleName
    && subscriber.eventRecordInfo.uid ≠ event.eventRecordInfo.uid)

/-- `CheckSubscriberRequiredPermission`. -/
def checkSubscriberRequiredPermission (subscriber : EventSubscriberRecord)
    (event : EventRecord) : Bool :=
  if subscriber.eventRecordInfo.uid = event.eventRecordInfo.uid then true
  else
    let subscriberRequiredPermission := subscriber.eventSubscribeInfo.permission
    if subscriberRequiredPermission = "" then true
    else P.verifyAccessToken event.eventRecordInfo.callerToken subscriberRequiredPermission

/-- `CheckPublisherWhetherMatched`: what the subscriber asks of the
publisher. -/
def checkPublisherWhetherMatched (subscriber : EventSubscriberRecord)
    (event : EventRecord) : Bool :=
  let uid := event.eventRecordInfo.uid
  let subscriberRequiredBundle := subscriber.eventSubscribeInfo.publisherBundleName
  let subscriberRequiredUid := subscriber.eventSubscribeInfo.publisherUid
  if subscriberRequiredBundle ≠ "" ∧ subscriberRequiredBundle ≠ event.eventRecordInfo.bundleName
  then false
  else if subscriberRequiredUid > 0 ∧ uid > 0 ∧ subscriberRequiredUid.toUInt32 ≠ uid then false
  else checkSubscriberRequiredPermission P subscriber event

/-- `CheckPublisherRequiredPermissions`. -/
def checkPublisherRequiredPermissions (subscriber : EventSubscriberRecord)
    (event : EventRecord) : Bool :=
  if subscriber.eventRecordInfo.uid = event.eventRecordInfo.uid then true
  else
    event.publishInfo.subscriberPermissions.all
      (fun permission => P.verifyAccessToken subscriber.eventRecordInfo.callerToken permission)

/-- `CheckSubscriberWhetherMatched`: what the publisher asks of the
subscriber. -/
def checkSubscriberWhetherMatched (subscriber : EventSubscriberRecord)
    (event : EventRecord) : Bool :=
  let info := event.publishInfo
  let filterSettings := info.getFilterSettings
  if filterSettings = 0 then true
  else
    let isSubscriberSystemApp :=
      subscriber.eventRecordInfo.isSystemApp || subscriber.eventRecordInfo.isSubsystem
    let checkResult : UInt16 :=
      (if info.bundleName ≠ "" ∧ info.bundleName = subscriber.eventRecordInfo.bundleName
        then SUBSCRIBER_FILTER_BUNDLE_INDEX else 0)
      ||| (if info.subscriberType ≠ UNINITIALIZATED_SUBSCRIBER_TYPE
          ∧ checkSubscriberBySpecifiedType info.subscriberType isSubscriberSystemApp
        then SUBSCRIBER_FILTER_SUBSCRIBER_TYPE_INDEX else 0)
      ||| (if info.subscriberUids ≠ []
          ∧ checkSubscriberBySpecifiedUids subscriber.eventRecordInfo.uid.toInt32
              info.subscriberUids
        then SUBSCRIBER_FILTER_SUBSCRIBER_UID_INDEX else 0)
      ||| (if info.subscriberPermissions ≠ []
          ∧ checkPublisherRequiredPermissions P subscriber event
        then SUBSCRIBER_FILTER_PERMISSION_INDEX else 0)
      ||| (if checkSubscriberByMaximumVersion P subscriber event
        then SUBSCRIBER_FILTER_VERSION else 0)
    match info.rule with
    | .AND => checkResult = filterSettings
    | .OR => checkResult &&& filterSettings ≠ 0

/-- `CheckSubscriberPermission`: what the event itself asks of the
subscriber. -/
def checkSubscriberPermission (subscriber : EventSubscriberRecord) (event : EventRecord) :
    Bool :=
  let action := event.commonEventData.want.action
  if P.isSystemAPIEvent action ∧ ¬ (subscriber.eventRecordInfo.isSubsystem
      ∨ subscriber.eventRecordInfo.isSystemApp)
  then false
  else if subscriber.eventRecordInfo.uid = event.eventRecordInfo.uid then true
  else
    let permission := P.getEventPermission action
    let verify := P.verifyAccessToken subscriber.eventRecordInfo.callerToken
    match permission.names with
    | [] => true
    | [name] => verify name
    | names =>
      match permission.state with
      | .AND => names.all verify
      | .OR => names.any verify
      | .DEFAULT => false

/-- Whether the publisher counts as a system application to those of other
users. -/
def isSystemAppPublisher (event : EventRecord) : Bool :=
  (event.eventRecordInfo.isSystemApp || event.eventRecordInfo.isSubsystem)
    && !event.eventRecordInfo.isProxy

/-- **The checks of the live path**, in the order of the code. -/
def matchesLive (subscriber : EventSubscriberRecord) (event : EventRecord) : Bool :=
  subscriber.eventSubscribeInfo.matchingSkills.match event.commonEventData.want
    && checkSubscriberByUserId subscriber.eventSubscribeInfo.userId
      (isSystemAppPublisher event) event.userId
    && checkSubscriberPermission P subscriber event
    && checkWhetherIsAppIndexSubscribed subscriber event
    && checkPublisherWhetherMatched P subscriber event
    && checkSubscriberWhetherMatched P subscriber event

namespace SubscriberManager

variable (m : SubscriberManager δ π)

/-- `GetSubscriberRecordsByWantLocked`. -/
def getSubscriberRecordsByWantLocked (event : EventRecord) : List SubscriberRecordPtr :=
  (subscribersOf m.eventSubscribers event.commonEventData.want.action).filter
    (fun record => matchesLive P (m.heap record) event)

/-- `GetSubscriberRecords`: the first screen-off event compacts the
manager before it is looked up. -/
def getSubscriberRecords (event : EventRecord) :
    List SubscriberRecordPtr × SubscriberManager δ π :=
  let m :=
    if !m.hasCompacted ∧ event.commonEventData.want.action = COMMON_EVENT_SCREEN_OFF
    then m.compactSubscriberDataStructures else m
  (m.getSubscriberRecordsByWantLocked P event, m)

end SubscriberManager

end CommonEventService

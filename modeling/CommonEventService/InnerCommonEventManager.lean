import CommonEventService.OrderedPipeline
import CommonEventService.UnorderedDelivery
import CommonEventService.StaticSubscriberManager
import CommonEventService.StickyManager

/-!
# The service

`InnerCommonEventManager` is what the calls on the service come to, and it
drives everything else: the ordered pipeline and unordered delivery, the
static subscribers and the sticky store. A publish is checked, handed to the
static subscribers, stored if it is sticky, and queued; a subscription is
checked, entered in the manager, and sent the sticky events that are stored
under the names it gives.

These calls are the tasks of one serial queue, so a call is one step here.
Between two calls the ordered pipeline and unordered delivery move by steps
of their own, and a step of theirs is a step of the service: both of them are
machines already, and the service never does anything to either that is not a
run of its machine. The death of a listener is reported at any time, on a
thread of its own, and removes its subscription; no such report comes in the
middle of a subscription, which is one step here and two sections under the
lock of the manager in `SubscriberDeath`.

The data of an event is a cell that the sticky store, the records in flight
and the buffers of the frozen share, so the store of cells is that of the
ordered pipeline, for all of them.
-/

namespace CommonEventService

/-- `ohos.permission.COMMONEVENT_STICKY`. -/
def PERMISSION_STICKY : String := "ohos.permission.COMMONEVENT_STICKY"

/-- `EventComeFrom`. -/
structure EventComeFrom where
  isSubsystem : Bool := false
  isSystemApp : Bool := false
  isProxy : Bool := false
  isCemShell : Bool := false
  deriving DecidableEq, Repr

/-- What the constructor reads and makes, and what no call changes. -/
structure Config where
  /-- `publishControlMap_`: who may publish an event that is listed. -/
  publishControlMap : Dict String (List Int32) := ∅
  supportCheckSaPermission : String := "false"
  /-- Whether `controlPtr_` points to something. -/
  hasControl : Bool := true
  /-- Whether `staticSubscriberManager_` points to something. -/
  hasStaticSubscriberManager : Bool := true

/-- The arguments of `PublishCommonEvent`. -/
structure PublishArgs where
  data : CommonEventData
  publishInfo : CommonEventPublishInfo := {}
  commonEventListener : Option Remote := none
  recordTime : Int := 0
  pid : Pid := 0
  uid : Uid := 0
  callerToken : AccessTokenID := 0
  userId : Int := UNDEFINED_USER
  bundleName : String := ""

/-- The arguments of `SubscribeCommonEvent`. The limit on subscriptions is a
system parameter, read by each call. -/
structure SubscribeArgs where
  subscribeInfo : CommonEventSubscribeInfo
  commonEventListener : Option Remote
  pid : Pid := 0
  uid : Uid := 0
  callerToken : AccessTokenID := 0
  bundleName : String := ""
  maxSubscriberNum : ℕ

/-! ## The checks -/

section Checks

variable (P : Platform) (C : Config)

/-- `IsPublishAllowed`. -/
def isPublishAllowed (event : String) (uid : Int32) : Bool :=
  if C.publishControlMap.entries = [] then true
  else
    match C.publishControlMap.lookup event with
    | some uids => uids.contains uid
    | none => true

/-- `SetSystemUserId`: an account that is not found leaves the user as it
was. -/
def setSystemUserId (uid : Uid) (comeFrom : EventComeFrom) (userId : Int) : Int :=
  if userId = CURRENT_USER then (P.getOsAccountLocalIdFromUid uid).getD userId
  else if userId = UNDEFINED_USER then
    if comeFrom.isSubsystem then ALL_USER
    else
      let userId := (P.getOsAccountLocalIdFromUid uid).getD userId
      if userId ≥ SUBSCRIBE_USER_SYSTEM_BEGIN ∧ userId ≤ SUBSCRIBE_USER_SYSTEM_END
      then ALL_USER else userId
  else userId

/-- Where a call comes from, as `CheckUserId` finds out. -/
def eventComeFrom (pid : Pid) (uid : Uid) (callerToken : AccessTokenID) : EventComeFrom :=
  let isSubsystem := P.verifyNativeToken callerToken
  let isChecked := !isSubsystem || C.supportCheckSaPermission = "true"
  { isSubsystem := isSubsystem
    isSystemApp := isChecked && !P.verifyShellToken callerToken && P.checkIsSystemAppByUid uid
    isProxy := pid = UNDEFINED_PID
    isCemShell := isChecked && P.verifyShellToken callerToken }

/-- `CheckUserId`: where the call comes from and the user it is for, or
`none` where it is refused. -/
def checkUserId (pid : Pid) (uid : Uid) (callerToken : AccessTokenID) (userId : Int) :
    Option (EventComeFrom × Int) :=
  if userId < UNDEFINED_USER then none
  else
    let comeFrom := eventComeFrom P C pid uid callerToken
    if (comeFrom.isSystemApp || comeFrom.isSubsystem || comeFrom.isCemShell)
        && !comeFrom.isProxy
    then some (comeFrom, setSystemUserId P uid comeFrom userId)
    else if userId = UNDEFINED_USER then
      some (comeFrom, (P.getOsAccountLocalIdFromUid uid).getD userId)
    else none

/-- The checks of `PublishCommonEvent` that stand before the static
subscribers are published to. -/
def checkPublish (args : PublishArgs) : Option (EventComeFrom × Int) :=
  let action := args.data.want.action
  if action = "" then none
  else if !args.publishInfo.ordered && args.commonEventListener.isSome then none
  else if !isPublishAllowed C action args.uid.toInt32 then none
  else
    match checkUserId P C args.pid args.uid args.callerToken args.userId with
    | none => none
    | some (comeFrom, user) =>
      if P.isSystemEvent action && !comeFrom.isSystemApp && !comeFrom.isSubsystem then none
      else some (comeFrom, user)

/-- The check of `ProcessStickyEvent`. -/
def isStickyAllowed (eventRecordInfo : EventRecordInfo) : Bool :=
  (P.verifyAccessToken eventRecordInfo.callerToken PERMISSION_STICKY
      && eventRecordInfo.isSystemApp)
    || (!eventRecordInfo.isProxy && eventRecordInfo.isSubsystem)

/-- What a publish notes down about the publisher. -/
def publisherInfo (args : PublishArgs) (comeFrom : EventComeFrom) : EventRecordInfo :=
  { pid := args.pid
    uid := args.uid
    callerToken := args.callerToken
    bundleName := args.bundleName
    isSubsystem := comeFrom.isSubsystem
    isSystemApp := comeFrom.isSystemApp || comeFrom.isCemShell
    isProxy := comeFrom.isProxy }

end Checks

/-! ## The state -/

/-- What happens to sticky events and to those kept for the frozen. -/
inductive ServiceEvent where
  /-- A sticky event was published, by a call that returned `true`. -/
  | published (event : String) (data : CommonEventData) (uid : Uid)
  /-- `RemoveStickyCommonEvent` was called. -/
  | removed (event : String) (callerUid : Uid)
  /-- `NotifyFreezeEvents`, with the number of the keeping and the data
  passed. -/
  | redelivered (buffering : ℕ) (data : CommonEventData)
  deriving DecidableEq, Repr

/-- **`InnerCommonEventManager`**, with the managers it drives. No step reads
the last two fields. -/
structure InnerCommonEventManager where
  control : ControlManager := {}
  delivery : UnorderedDelivery CellId CellId := {}
  staticSubscriberManager : StaticSubscriberManager := {}
  sticky : StickyManager CellId CellId := ∅
  /-- The data an event had when it was buffered, by the number of the
  keeping. -/
  kept : ℕ → CommonEventData := fun _ => default
  trace : List ServiceEvent := []

namespace InnerCommonEventManager

variable (P : Platform) (S : StdSort) (C : Config) (s : InnerCommonEventManager)

/-- A record, with its two pointers followed. -/
def view (record : CommonEventRecord CellId CellId) : EventRecord :=
  { record with
    commonEventData := s.control.cells record.commonEventData
    publishInfo := s.control.infos record.publishInfo }

/-! ## Publishing -/

/-- `CommonEventControlManager::PublishCommonEvent`. The cells of the record
are the next ones. -/
def controlPublishCommonEvent (eventRecord : CommonEventRecord CellId CellId)
    (view : EventRecord) (commonEventListener : Option Remote) : InnerCommonEventManager :=
  if view.publishInfo.ordered then
    { s with
      control := s.control.processOrderedEvent P S
        ⟨s.delivery.manager, view, commonEventListener⟩
      delivery := { s.delivery with
        manager := (s.delivery.manager.getSubscriberRecords P view).2 } }
  else
    { s with
      control := s.control.makeCells view.commonEventData view.publishInfo
      delivery := s.delivery.processUnorderedEvent P eventRecord view none }

/-- The record that a publish makes. -/
def eventRecordOf (args : PublishArgs) (comeFrom : EventComeFrom) (user : Int) :
    CommonEventRecord CellId CellId :=
  { commonEventData := s.control.nextCell
    publishInfo := s.control.nextCell
    recordTime := args.recordTime
    userId := user
    eventRecordInfo := publisherInfo args comeFrom
    isSystemEvent := P.isSystemEvent args.data.want.action }

/-- What a publish does to the static subscribers. -/
def publishStatic (args : PublishArgs) (user : Int) (env : StaticEnvironment) :
    InnerCommonEventManager :=
  { s with
    staticSubscriberManager :=
      if C.hasStaticSubscriberManager then
        s.staticSubscriberManager.publishCommonEvent P env args.data args.publishInfo
          args.callerToken user
      else s.staticSubscriberManager }

/-- The last part of `PublishCommonEvent`: the record is made, stored if it is
sticky, and handed to the control manager. -/
def publishRecord (args : PublishArgs) (comeFrom : EventComeFrom) (user : Int) :
    Bool × InnerCommonEventManager :=
  let action := args.data.want.action
  let eventRecord := s.eventRecordOf P args comeFrom user
  if args.publishInfo.sticky && !isStickyAllowed P eventRecord.eventRecordInfo then (false, s)
  else
    let s :=
      if args.publishInfo.sticky
      then { s with sticky := s.sticky.updateStickyEvent action eventRecord } else s
    if C.hasControl then
      (true,
        { s.controlPublishCommonEvent P S eventRecord
            { eventRecord with
              commonEventData := args.data
              publishInfo := args.publishInfo } args.commonEventListener with
          trace :=
            if args.publishInfo.sticky then s.trace ++ [.published action args.data args.uid]
            else s.trace })
    else (false, { s with control := s.control.makeCells args.data args.publishInfo })

/-- **`PublishCommonEvent`.** -/
def publishCommonEvent (args : PublishArgs) (env : StaticEnvironment) :
    Bool × InnerCommonEventManager :=
  match checkPublish P C args with
  | none => (false, s)
  | some (comeFrom, user) =>
    (s.publishStatic P C args user env).publishRecord P S C args comeFrom user

/-! ## Subscribing -/

/-- Whether a sticky event is for a subscriber: the one check of
`PublishStickyEvent`. -/
def isAssignedTo (subscriber : EventSubscriberRecord) (info : CommonEventPublishInfo) : Bool :=
  info.bundleName = "" || info.bundleName = subscriber.eventRecordInfo.bundleName

/-- `PublishStickyCommonEvent`. -/
def publishStickyCommonEvent (commonEventRecord : CommonEventRecord CellId CellId)
    (subscriberRecord : SubscriberRecordPtr) : InnerCommonEventManager :=
  { s with
    delivery := s.delivery.processUnorderedEvent P commonEventRecord
      (s.view commonEventRecord) (some subscriberRecord) }

/-- The loop of `PublishStickyEvent`. -/
def publishStickyEvents (subscriberRecord : SubscriberRecordPtr) :
    InnerCommonEventManager → List (CommonEventRecord CellId CellId) → InnerCommonEventManager
  | s, [] => s
  | s, commonEventRecord :: commonEventRecords =>
    if !isAssignedTo (s.delivery.manager.heap subscriberRecord)
        (s.control.infos commonEventRecord.publishInfo)
    then publishStickyEvents subscriberRecord s commonEventRecords
    else
      let s := { s with control := s.control.setUnordered commonEventRecord.publishInfo }
      if C.hasControl then
        publishStickyEvents subscriberRecord
          (s.publishStickyCommonEvent P commonEventRecord subscriberRecord) commonEventRecords
      else s

/-- `PublishStickyEvent`: what is stored under the names subscribed to, to the
subscriber. -/
def publishStickyEvent (subscribeInfo : CommonEventSubscribeInfo)
    (subscriberRecord : Option SubscriberRecordPtr) : InnerCommonEventManager :=
  match subscriberRecord with
  | none => s
  | some subscriberRecord =>
    publishStickyEvents P C subscriberRecord s (s.sticky.findStickyEvents subscribeInfo)

/-- What a subscription notes down about the subscriber. -/
def subscriberInfo (args : SubscribeArgs) (comeFrom : EventComeFrom) : EventRecordInfo :=
  { pid := args.pid
    uid := args.uid
    callerToken := args.callerToken
    bundleName := args.bundleName
    isSubsystem := comeFrom.isSubsystem
    isSystemApp := comeFrom.isSystemApp
    isProxy := comeFrom.isProxy }

/-- `SubscribeCommonEvent`, up to the call of `InsertSubscriber`: what it is
called with, where the subscription is not refused. -/
def checkSubscribe (args : SubscribeArgs) :
    Option (CommonEventSubscribeInfo × EventRecordInfo) :=
  if args.subscribeInfo.getEvents.length = 0 then none
  else if args.commonEventListener = none then none
  else
    (checkUserId P C args.pid args.uid args.callerToken args.subscribeInfo.userId).map
      (fun (comeFrom, userId) =>
        ({ args.subscribeInfo with userId := userId }, subscriberInfo args comeFrom))

/-- The call of `InsertSubscriber`: the record inserted, and the service
after. -/
def insertSubscriber (args : SubscribeArgs) (subscribeInfo : CommonEventSubscribeInfo)
    (eventRecordInfo : EventRecordInfo) : Option SubscriberRecordPtr × InnerCommonEventManager :=
  let (record, manager) := s.delivery.manager.insertSubscriber S args.maxSubscriberNum
    (some subscribeInfo) args.commonEventListener eventRecordInfo
  (record, { s with delivery := { s.delivery with manager := manager } })

/-- **`SubscribeCommonEvent`.** -/
def subscribeCommonEvent (args : SubscribeArgs) : InnerCommonEventManager :=
  match checkSubscribe P C args with
  | none => s
  | some (subscribeInfo, eventRecordInfo) =>
    let (record, s) := s.insertSubscriber S args subscribeInfo eventRecordInfo
    s.publishStickyEvent P C subscribeInfo record

/-! ## The other calls -/

/-- `UnsubscribeCommonEvent`. -/
def unsubscribeCommonEvent (commonEventListener : Option Remote) : InnerCommonEventManager :=
  if commonEventListener = none ∨ !C.hasControl then s
  else
    { s with
      control := s.control.unsubscribeCommonEvent commonEventListener
      delivery := s.delivery.removeSubscriber commonEventListener }

/-- `SubscriberDeathRecipient::OnRemoteDied`, of a listener that can still be
promoted. -/
def onRemoteDied (remote : Remote) : InnerCommonEventManager :=
  { s with delivery := s.delivery.removeSubscriber (some remote) }

/-- `GetStickyCommonEvent`. -/
def getStickyCommonEvent (event : String) : Option CommonEventData :=
  (s.sticky.getStickyCommonEvent event).map s.control.cells

/-- `RemoveStickyCommonEvent`. -/
def removeStickyCommonEvent (event : String) (callerUid : Uid) : InnerCommonEventManager :=
  { s with
    sticky := s.sticky.removeStickyCommonEvent event callerUid
    trace := s.trace ++ [.removed event callerUid] }

/-- `FinishReceiver`. -/
def finishReceiver (reply : Reply) : InnerCommonEventManager :=
  if C.hasControl then { s with control := s.control.finishReceiver reply } else s

/-- `Freeze`. -/
def freeze (uid : Uid) (now : Int) : InnerCommonEventManager :=
  { s with
    delivery := { s.delivery with
      manager := s.delivery.manager.updateFreezeInfoByUid uid true now } }

/-- What an unfreezing call does to unordered delivery: all of it, or, without
a control manager, the release alone. -/
def release (manager : SubscriberManager (Buffered CellId) CellId)
    (released : UnorderedDelivery CellId CellId) : InnerCommonEventManager :=
  if C.hasControl then { s with delivery := released }
  else { s with delivery := { s.delivery with manager := manager } }

/-- `Unfreeze`. -/
def unfreeze (uid : Uid) : InnerCommonEventManager :=
  s.release C (s.delivery.manager.updateFreezeInfoByUid uid false 0) (s.delivery.unfreeze uid)

/-- `SetFreezeStatus`. -/
def setFreezeStatus (pidList : List Pid) (isFreeze : Bool) (now : Int) :
    InnerCommonEventManager :=
  s.release C (s.delivery.manager.updateFreezeInfoByPids pidList isFreeze now)
    (s.delivery.setFreezeStatus pidList isFreeze now)

/-- `UnfreezeAll`. -/
def unfreezeAll : InnerCommonEventManager :=
  s.release C (s.delivery.manager.updateAllFreezeInfos false 0) s.delivery.unfreezeAll

/-- `SetStaticSubscriberState`. -/
def setStaticSubscriberState (callingUid : Uid) (bundleName : String)
    (events : Option (List String)) (enable : Bool) : InnerCommonEventManager :=
  if C.hasStaticSubscriberManager then
    { s with
      staticSubscriberManager := s.staticSubscriberManager.setStaticSubscriberState P
        callingUid bundleName events enable }
  else s

/-- What an insertion is noted by: the data of the event, where it is now
buffered. -/
def noteInsertion (insertion : FrozenInsertion CellId CellId) : InnerCommonEventManager :=
  match insertion.buffering with
  | none =>
    { s with
      kept := Function.update s.kept s.delivery.nextBuffering
        (s.control.cells insertion.eventRecord.commonEventData) }
  | some _ => s

/-- What the next step of the first of some tasks is noted by: the data of an
event that is buffered, or of one that is redelivered. -/
def note (tasks : List (UnorderedTask CellId CellId)) : InnerCommonEventManager :=
  match tasks with
  | .handleFrozenUnorderedSubscriber _ insertion _ :: _ => s.noteInsertion insertion
  | .notifyFreezeEvents _ eventRecord :: _ =>
    { s with
      trace := s.trace ++ [.redelivered eventRecord.commonEventData.buffering
        (s.control.cells eventRecord.commonEventData.commonEventData)] }
  | _ => s

/-! ## The ordered queue -/

/-- Where the ordered queue comes to a receiver, whether that is frozen. -/
def answerOf (receiver : Receiver) (answer : Answer) : Answer :=
  { answer with isFreeze := (s.delivery.manager.heap receiver.record).isFreeze }

/-- The next step of the ordered queue. Whether a receiver is frozen its
record says, and an event is kept for one that is by two insertions. -/
def stepThread (answer : Answer) : Option InnerCommonEventManager :=
  match s.control.thread, s.delivery.ordered with
  | .notify sp recIdx, _ =>
    match (s.control.records sp).receivers[recIdx]? with
    | some receiver =>
      (s.control.step P S (.thread (s.answerOf receiver answer))).bind fun control =>
        (s.delivery.step P S (.notifyOrderedEvent (s.control.records sp).toCommonEventRecord
          receiver.record)).map fun delivery =>
            { s with
              control := control
              delivery := delivery }
    | none =>
      (s.control.step P S (.thread answer)).map (fun control => { s with control := control })
  | .frozen _ _, some insertion =>
    (s.delivery.step P S .notifyFrozenSubscriber).map
      (fun delivery => { s.noteInsertion insertion with delivery := delivery })
  | _, _ =>
    (s.control.step P S (.thread answer)).map (fun control => { s with control := control })

end InnerCommonEventManager

/-! ## The machine -/

/-- Whether a step of the ordered pipeline is its own, and not the part of a
call on the service. -/
def ControlLabel.isInternal : ControlLabel → Bool
  | .tick _ | .op _ | .processNextOrderedEvent | .timeout _ | .thread _ => true
  | .makeCells _ _ | .setUnordered _ | .publish _ | .finishReceiver _
  | .unsubscribeCommonEvent _ => false

/-- **The labels of the service.** -/
inductive ServiceLabel where
  | publishCommonEvent (args : PublishArgs) (env : StaticEnvironment)
  | subscribeCommonEvent (args : SubscribeArgs)
  | unsubscribeCommonEvent (commonEventListener : Option Remote)
  | finishReceiver (reply : Reply)
  | removeStickyCommonEvent (event : String) (callerUid : Uid)
  | setStaticSubscriberState (callingUid : Uid) (bundleName : String)
      (events : Option (List String)) (enable : Bool)
  | freeze (uid : Uid) (now : Int)
  | unfreeze (uid : Uid)
  | setFreezeStatus (pidList : List Pid) (isFreeze : Bool) (now : Int)
  | unfreezeAll
  | onRemoteDied (remote : Remote)
  /-- A step of the ordered pipeline. -/
  | control (l : ControlLabel)
  /-- The next step of the first task of `unorderedQueue_`. -/
  | unordered
  /-- The next step of the first task of `unorderedImmediateQueue_`. -/
  | unorderedImmediate
  /-- The next step of an unfreezing call in progress. -/
  | call (i : ℕ)

namespace InnerCommonEventManager

variable (P : Platform) (S : StdSort) (C : Config) (s : InnerCommonEventManager)

/-- **One step of the service.** -/
def step : ServiceLabel → Option InnerCommonEventManager
  | .publishCommonEvent args env => some (s.publishCommonEvent P S C args env).2
  | .subscribeCommonEvent args => some (s.subscribeCommonEvent P S C args)
  | .unsubscribeCommonEvent listener => some (s.unsubscribeCommonEvent C listener)
  | .finishReceiver reply => some (s.finishReceiver C reply)
  | .removeStickyCommonEvent event callerUid => some (s.removeStickyCommonEvent event callerUid)
  | .setStaticSubscriberState callingUid bundleName events enable =>
    some (s.setStaticSubscriberState P C callingUid bundleName events enable)
  | .freeze uid now => some (s.freeze uid now)
  | .unfreeze uid => some (s.unfreeze C uid)
  | .setFreezeStatus pidList isFreeze now => some (s.setFreezeStatus C pidList isFreeze now)
  | .unfreezeAll => some (s.unfreezeAll C)
  | .onRemoteDied remote => some (s.onRemoteDied remote)
  | .control (.thread answer) => s.stepThread P S answer
  | .control l =>
    if l.isInternal then
      (s.control.step P S l).map (fun control => { s with control := control })
    else none
  | .unordered =>
    (s.delivery.step P S .unordered).map
      (fun delivery => { s.note s.delivery.unorderedQueue with delivery := delivery })
  | .unorderedImmediate =>
    (s.delivery.step P S .unorderedImmediate).map
      (fun delivery => { s.note s.delivery.unorderedImmediateQueue with delivery := delivery })
  | .call i =>
    (s.delivery.step P S (.call i)).map (fun delivery => { s with delivery := delivery })

end InnerCommonEventManager

/-- **The service as a machine.** -/
def serviceMachine (P : Platform) (S : StdSort) (C : Config) :
    Machine InnerCommonEventManager ServiceLabel where
  init := {}
  step := InnerCommonEventManager.step P S C

end CommonEventService

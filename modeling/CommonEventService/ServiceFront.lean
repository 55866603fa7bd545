import CommonEventService.PublishManager
import CommonEventService.StickyQuery

/-!
# The front of the service

`CommonEventManagerService` is the stub that other processes call. Who calls
is what the IPC layer says, and a call is refused or let through by that
alone. Most calls that are let through are closed over their arguments and
submitted to `commonEventSrvQueue_`, a serial queue; the tasks of that queue
are what calls `InnerCommonEventManager`. The calls on the sticky store and on
the state of static subscribers go past the queue.

A call, up to its return, is one step, but for `UnsubscribeCommonEventSync`,
which waits for its task. What a task reads when it runs is in the label. The
steps of the service that are the part of no call, the death of a listener
among them, come at any time in between.
-/

namespace CommonEventService

def ERR_NOTIFICATION_CES_COMMON_PERMISSION_DENIED : Int := 201
def ERR_NOTIFICATION_CES_EVENT_FREQ_TOO_HIGH : Int := 1500003
def ERR_NOTIFICATION_CES_NOT_SA_SYSTEM_APP : Int := 1500004
def ERR_NOTIFICATION_CES_USERID_INVALID : Int := 1500006
def ERR_NOTIFICATION_SYS_ERROR : Int := 1500009

def RESOURCE_MANAGER_PROCESS_NAME : String := "resource_schedule_service"
def FOUNDATION_UID : Uid := 5523

/-- The services that the front consults. -/
structure FrontPlatform extends Platform where
  /-- Whether `GetHapTokenInfo` gives one of the two DLP types that are
  refused. -/
  isDlpType : AccessTokenID → Bool := fun _ => false
  /-- `AccessTokenHelper::GetCallingProcessName`. -/
  getCallingProcessName : AccessTokenID → String := fun _ => ""
  /-- `TokenIdKit::IsSystemAppByFullTokenID`. -/
  isSystemAppByFullTokenID : UInt64 → Bool := fun _ => false
  /-- `BundleManagerHelper::GetBundleName`. -/
  getBundleName : Uid → String := fun _ => ""
  /-- `OsAccountManagerHelper::CheckUserExists`. -/
  checkUserExists : Int → Bool := fun _ => false

/-- Who calls, as `IPCSkeleton` says. -/
structure Caller where
  pid : Pid
  uid : Uid
  tokenId : AccessTokenID
  fullTokenId : UInt64 := 0
  deriving DecidableEq, Repr

namespace FrontPlatform

variable (P : FrontPlatform)

/-- `AccessTokenHelper::IsDlpHap`. -/
def isDlpHap (callerToken : AccessTokenID) : Bool :=
  P.getTokenTypeFlag callerToken = .hap && P.isDlpType callerToken

/-- `AccessTokenHelper::IsSystemApp`. -/
def isSystemApp (caller : Caller) : Bool :=
  P.getTokenTypeFlag caller.tokenId = .hap && P.isSystemAppByFullTokenID caller.fullTokenId

/-- The bundle name a task notes down: that of the uid, unless the token is
native. -/
def bundleNameOf (callerToken : AccessTokenID) (uid : Uid) : String :=
  if !P.verifyNativeToken callerToken then P.getBundleName uid else ""

/-- The test of the calls that freeze. -/
def isResourceManager (caller : Caller) : Bool :=
  !(!P.verifyNativeToken caller.tokenId
    || P.getCallingProcessName caller.tokenId ≠ RESOURCE_MANAGER_PROCESS_NAME)

/-- `CheckUserIdParams`. -/
def checkUserIdParams (userId : Int) : Int :=
  if userId ≠ ALL_USER ∧ userId ≠ CURRENT_USER ∧ userId ≠ UNDEFINED_USER
      ∧ !P.checkUserExists userId
  then ERR_NOTIFICATION_CES_USERID_INVALID else ERR_OK

end FrontPlatform

/-- A task of `commonEventSrvQueue_`: what it is closed over. -/
inductive SrvTask where
  | publishCommonEvent (event : CommonEventData) (publishinfo : CommonEventPublishInfo)
      (commonEventListener : Option Remote) (recordTime : Int) (pid : Pid) (uid : Uid)
      (clientToken : AccessTokenID) (userId : Int)
  | subscribeCommonEvent (subscribeInfo : CommonEventSubscribeInfo)
      (commonEventListener : Option Remote) (callingPid : Pid) (callingUid : Uid)
      (callerToken : AccessTokenID)
  | unsubscribeCommonEvent (commonEventListener : Option Remote)
  | finishReceiver (reply : Reply)
  | freeze (uid : Uid)
  | unfreeze (uid : Uid)
  | unfreezeAll
  | setFreezeStatus (pidList : List Pid) (isFreeze : Bool)
  deriving DecidableEq, Repr

/-- What a task reads when it runs: the static side of the system, the limit
on subscriptions, and the clock. -/
structure TaskRun where
  env : StaticEnvironment := {}
  maxSubscriberNum : ℕ := 0
  now : Int := 0

/-- **What a task calls.** -/
def SrvTask.call (P : FrontPlatform) (run : TaskRun) : SrvTask → ServiceLabel
  | .publishCommonEvent event publishinfo commonEventListener recordTime pid uid clientToken
      userId =>
    .publishCommonEvent
      { data := event
        publishInfo := publishinfo
        commonEventListener := commonEventListener
        recordTime := recordTime
        pid := pid
        uid := uid
        callerToken := clientToken
        userId := userId
        bundleName := P.bundleNameOf clientToken uid } run.env
  | .subscribeCommonEvent subscribeInfo commonEventListener callingPid callingUid callerToken =>
    .subscribeCommonEvent
      { subscribeInfo := subscribeInfo
        commonEventListener := commonEventListener
        pid := callingPid
        uid := callingUid
        callerToken := callerToken
        bundleName := P.bundleNameOf callerToken callingUid
        maxSubscriberNum := run.maxSubscriberNum }
  | .unsubscribeCommonEvent commonEventListener => .unsubscribeCommonEvent commonEventListener
  | .finishReceiver reply => .finishReceiver reply
  | .freeze uid => .freeze uid run.now
  | .unfreeze uid => .unfreeze uid
  | .unfreezeAll => .unfreezeAll
  | .setFreezeStatus pidList isFreeze => .setFreezeStatus pidList isFreeze run.now

/-- Whether a step of the service is the part of no call. -/
def ServiceLabel.isInternal : ServiceLabel → Bool
  | .onRemoteDied _ | .control _ | .unordered | .unorderedImmediate | .call _ => true
  | .publishCommonEvent _ _ | .subscribeCommonEvent _ | .unsubscribeCommonEvent _
  | .finishReceiver _ | .removeStickyCommonEvent _ _ | .setStaticSubscriberState _ _ _ _
  | .freeze _ _ | .unfreeze _ | .setFreezeStatus _ _ _ | .unfreezeAll => false

/-- **`CommonEventManagerService`**, but for its sticky query. The tasks of the
queue are numbered, for a call that waits for its own. -/
structure ServiceFront where
  /-- Whether `Init` has made the inner manager and the queue. -/
  ready : Bool := false
  innerCommonEventManager : InnerCommonEventManager := {}
  publishManager : PublishManager := {}
  commonEventSrvQueue : List (ℕ × SrvTask) := []
  nextTask : ℕ := 0
  /-- The calls that wait for a task. -/
  waiting : List ℕ := []

/-- What a publishing call reads of the clocks: the steady one, and that of
the record, which may fail. -/
structure PublishClock where
  now : Int := 0
  recordTime : Option Int := some 0
  deriving DecidableEq, Repr

/-- **The labels of the front**: a call on it, with who makes it; the return
of a call that waited; the next task of the queue; a step of the service that
is the part of no call. -/
inductive FrontLabel where
  | init
  | publishCommonEvent (caller : Caller) (event : CommonEventData)
      (publishinfo : CommonEventPublishInfo) (commonEventListener : Option Remote)
      (userId : Int) (clock : PublishClock)
  | publishCommonEventAsProxy (caller : Caller) (event : CommonEventData)
      (publishinfo : CommonEventPublishInfo) (commonEventListener : Option Remote)
      (uid : Uid) (callerToken : AccessTokenID) (userId : Int) (clock : PublishClock)
  | subscribeCommonEvent (caller : Caller) (subscribeInfo : CommonEventSubscribeInfo)
      (commonEventListener : Option Remote) (recordTime : Option Int)
  | unsubscribeCommonEvent (caller : Caller) (commonEventListener : Option Remote)
  | unsubscribeCommonEventSync (caller : Caller) (commonEventListener : Option Remote)
  | returned (task : ℕ)
  | finishReceiver (caller : Caller) (reply : Reply)
  | freeze (caller : Caller) (uid : Uid)
  | unfreeze (caller : Caller) (uid : Uid)
  | unfreezeAll (caller : Caller)
  | setFreezeStatus (caller : Caller) (pidList : List Pid) (isFreeze : Bool)
  | removeStickyCommonEvent (caller : Caller) (event : String)
  | setStaticSubscriberState (caller : Caller) (events : Option (List String)) (enable : Bool)
  | runTask (run : TaskRun)
  | internal (l : ServiceLabel)

namespace ServiceFront

variable (P : FrontPlatform) (S : StdSort) (C : Config) (s : ServiceFront)

/-- `commonEventSrvQueue_->submit`. -/
def submit (task : SrvTask) : ServiceFront :=
  { s with
    commonEventSrvQueue := s.commonEventSrvQueue ++ [(s.nextTask, task)]
    nextTask := s.nextTask + 1 }

/-! ## Publishing -/

/-- `PublishCommonEventDetailed`. -/
def publishCommonEventDetailed (event : CommonEventData) (publishinfo : CommonEventPublishInfo)
    (commonEventListener : Option Remote) (pid : Pid) (uid : Uid) (clientToken : AccessTokenID)
    (userId : Int) (clock : PublishClock) : Int × ServiceFront :=
  if P.isDlpHap clientToken then (ERR_NOTIFICATION_CES_NOT_SA_SYSTEM_APP, s)
  else
    match clock.recordTime with
    | none => (ERR_NOTIFICATION_SYS_ERROR, s)
    | some recordTime =>
      let errCode := P.checkUserIdParams userId
      if errCode ≠ ERR_OK then (errCode, s)
      else
        -- the uid, unsigned, is passed where a `pid_t` is asked for
        let (publishManager, isAttack) :=
          s.publishManager.checkIsFloodAttack uid.toInt32.toInt clock.now
        let s := { s with publishManager := publishManager }
        if isAttack then (ERR_NOTIFICATION_CES_EVENT_FREQ_TOO_HIGH, s)
        else
          (ERR_OK, s.submit (.publishCommonEvent event publishinfo commonEventListener
            recordTime pid uid clientToken userId))

/-- `PublishCommonEvent`. -/
def publishCommonEvent (caller : Caller) (event : CommonEventData)
    (publishinfo : CommonEventPublishInfo) (commonEventListener : Option Remote) (userId : Int)
    (clock : PublishClock) : Int × ServiceFront :=
  if !s.ready then (ERR_NOTIFICATION_CESM_ERROR, s)
  else if userId ≠ ALL_USER ∧ userId ≠ CURRENT_USER ∧ userId ≠ UNDEFINED_USER
      ∧ !P.verifyNativeToken caller.tokenId ∧ !P.isSystemApp caller
  then (ERR_NOTIFICATION_CES_COMMON_NOT_SYSTEM_APP, s)
  else
    s.publishCommonEventDetailed P event publishinfo commonEventListener caller.pid caller.uid
      caller.tokenId userId clock

/-- `PublishCommonEvent`, with the uid and the token of another. -/
def publishCommonEventAsProxy (caller : Caller) (event : CommonEventData)
    (publishinfo : CommonEventPublishInfo) (commonEventListener : Option Remote) (uid : Uid)
    (callerToken : AccessTokenID) (userId : Int) (clock : PublishClock) :
    Bool × ServiceFront :=
  if !s.ready then (false, s)
  else if caller.uid ≠ FOUNDATION_UID then (false, s)
  else
    let (errCode, s) := s.publishCommonEventDetailed P event publishinfo commonEventListener
      UNDEFINED_PID uid callerToken userId clock
    (errCode = ERR_OK, s)

/-! ## Subscribing -/

/-- `SubscribeCommonEvent`. -/
def subscribeCommonEvent (caller : Caller) (subscribeInfo : CommonEventSubscribeInfo)
    (commonEventListener : Option Remote) (recordTime : Option Int) : Int × ServiceFront :=
  if !s.ready then (ERR_NOTIFICATION_CES_COMMON_PARAM_INVALID, s)
  else
    match recordTime with
    | none => (ERR_NOTIFICATION_CES_COMMON_PARAM_INVALID, s)
    | some _ =>
      let errCode := P.checkUserIdParams subscribeInfo.userId
      if errCode ≠ ERR_OK then (errCode, s)
      else
        (ERR_OK, s.submit (.subscribeCommonEvent subscribeInfo commonEventListener caller.pid
          caller.uid caller.tokenId))

/-- `UnsubscribeCommonEvent`, and the part of `UnsubscribeCommonEventSync`
before it waits. -/
def unsubscribeCommonEvent (commonEventListener : Option Remote) : Int × ServiceFront :=
  if !s.ready then (ERR_NOTIFICATION_CES_COMMON_PARAM_INVALID, s)
  else (ERR_OK, s.submit (.unsubscribeCommonEvent commonEventListener))

/-- `UnsubscribeCommonEventSync`: the task it waits for, if it waits. -/
def unsubscribeCommonEventSync (commonEventListener : Option Remote) : ServiceFront :=
  let (errCode, t) := s.unsubscribeCommonEvent commonEventListener
  if errCode = ERR_OK then { t with waiting := t.waiting ++ [s.nextTask] } else t

/-! ## The other calls that are submitted -/

/-- `FinishReceiver`. -/
def finishReceiver (reply : Reply) : Bool × ServiceFront :=
  if !s.ready then (false, s) else (true, s.submit (.finishReceiver reply))

/-- What every call that freezes does: it is the resource manager's to
make. -/
def submitFreezing (caller : Caller) (task : SrvTask) : Bool × ServiceFront :=
  if !P.isResourceManager caller then (false, s)
  else if !s.ready then (false, s)
  else (true, s.submit task)

/-- `Freeze`. -/
def freeze (caller : Caller) (uid : Uid) : Bool × ServiceFront :=
  s.submitFreezing P caller (.freeze uid)

/-- `Unfreeze`. -/
def unfreeze (caller : Caller) (uid : Uid) : Bool × ServiceFront :=
  s.submitFreezing P caller (.unfreeze uid)

/-- `UnfreezeAll`. -/
def unfreezeAll (caller : Caller) : Bool × ServiceFront :=
  s.submitFreezing P caller .unfreezeAll

/-- `SetFreezeStatus`. -/
def setFreezeStatus (caller : Caller) (pidList : List Pid) (isFreeze : Bool) :
    Bool × ServiceFront :=
  s.submitFreezing P caller (.setFreezeStatus pidList isFreeze)

/-! ## The calls that go past the queue -/

/-- A call on the inner manager. -/
def callInner (l : ServiceLabel) : Option ServiceFront :=
  (s.innerCommonEventManager.step P.toPlatform S C l).map
    (fun inner => { s with innerCommonEventManager := inner })

/-- The checks of `RemoveStickyCommonEvent`: the result of a call that is
refused. -/
def checkRemoveSticky (caller : Caller) : Int :=
  let isSubsystem := P.verifyNativeToken caller.tokenId
  if !s.ready then ERR_NOTIFICATION_CESM_ERROR
  else if !isSubsystem && !P.isSystemApp caller then ERR_NOTIFICATION_CES_COMMON_NOT_SYSTEM_APP
  else if !P.verifyAccessToken caller.tokenId PERMISSION_STICKY
      && (!isSubsystem || C.supportCheckSaPermission = "true")
  then ERR_NOTIFICATION_CES_COMMON_PERMISSION_DENIED
  else ERR_OK

/-- `RemoveStickyCommonEvent`. -/
def removeStickyCommonEvent (caller : Caller) (event : String) : Option ServiceFront :=
  if s.checkRemoveSticky P C caller ≠ ERR_OK then some s
  else s.callInner P S C (.removeStickyCommonEvent event caller.uid)

/-- `SetStaticSubscriberState`, and `SetStaticSubscriberStateByEvents`. There
is no inner manager to call before `Init`. -/
def setStaticSubscriberState (caller : Caller) (events : Option (List String)) (enable : Bool) :
    Option ServiceFront :=
  if !P.isSystemApp caller then some s
  else if !s.ready then none
  else
    s.callInner P S C
      (.setStaticSubscriberState caller.uid (P.getBundleName caller.uid) events enable)

/-! ## The steps -/

/-- **One step of the front.** -/
def step : FrontLabel → Option ServiceFront
  | .init => if s.ready then none else some { s with ready := true }
  | .publishCommonEvent caller event publishinfo listener userId clock =>
    some (s.publishCommonEvent P caller event publishinfo listener userId clock).2
  | .publishCommonEventAsProxy caller event publishinfo listener uid callerToken userId clock =>
    some (s.publishCommonEventAsProxy P caller event publishinfo listener uid callerToken userId
      clock).2
  | .subscribeCommonEvent caller subscribeInfo listener recordTime =>
    some (s.subscribeCommonEvent P caller subscribeInfo listener recordTime).2
  | .unsubscribeCommonEvent _ listener => some (s.unsubscribeCommonEvent listener).2
  | .unsubscribeCommonEventSync _ listener => some (s.unsubscribeCommonEventSync listener)
  | .returned task =>
    -- `wait` returns when the task has run
    if task ∈ s.waiting ∧ s.commonEventSrvQueue.all (fun entry => entry.1 ≠ task)
    then some { s with waiting := s.waiting.erase task }
    else none
  | .finishReceiver _ reply => some (s.finishReceiver reply).2
  | .freeze caller uid => some (s.freeze P caller uid).2
  | .unfreeze caller uid => some (s.unfreeze P caller uid).2
  | .unfreezeAll caller => some (s.unfreezeAll P caller).2
  | .setFreezeStatus caller pidList isFreeze =>
    some (s.setFreezeStatus P caller pidList isFreeze).2
  | .removeStickyCommonEvent caller event => s.removeStickyCommonEvent P S C caller event
  | .setStaticSubscriberState caller events enable =>
    s.setStaticSubscriberState P S C caller events enable
  | .runTask run =>
    match s.commonEventSrvQueue with
    | [] => none
    | (_, task) :: rest =>
      { s with commonEventSrvQueue := rest }.callInner P S C (task.call P run)
  | .internal l => if l.isInternal then s.callInner P S C l else none

end ServiceFront

/-- **The front as a machine.** -/
def frontMachine (P : FrontPlatform) (S : StdSort) (C : Config) :
    Machine ServiceFront FrontLabel where
  init := {}
  step := ServiceFront.step P S C

end CommonEventService

import CommonEventService.Basic
import CommonEventService.Lib.Dict
import CommonEventService.Lib.Machine

/-!
# The client

`CommonEvent` is what an application calls. It keeps a listener for each
subscriber in `eventListeners_`, and goes by it in three ways: a subscriber
that has a listener counts as subscribed, its listener is what an
unsubscription names to the service, and the listeners are what is subscribed
again when the service has been restarted.

The service is here an oracle: every proxy call is answered by what the
transport and the service return, and a call is acknowledged if both are
`ERR_OK`. What the service has acknowledged is kept beside the state, with
what it had acknowledged before its last restart, until `Resubscribe` is
done; no step reads it.
-/

namespace CommonEventService

def ERR_OK : Int := 0
def ERR_NOTIFICATION_CES_COMMON_PARAM_INVALID : Int := 401
def ERR_NOTIFICATION_CES_COMMON_SYSTEMCAP_NOT_SUPPORT : Int := 801
def ERR_NOTIFICATION_SEND_ERROR : Int := 1500007
def ERR_NOTIFICATION_CESM_ERROR : Int := 1500008
def ERR_NOTIFICATION_CES_SUBSCRIBE_EXCEED_LIMIT : Int := 1500010

/-- How many subscribers an application may have. -/
def SUBSCRIBER_MAX_SIZE : ℕ := 200

/-- What `CreateCommonEventListener` returns. -/
inductive SubscribeState where
  | ALREADY_SUBSCRIBED
  | INITIAL_SUBSCRIPTION
  | SUBSCRIBE_FAILED
  | SUBSCRIBE_EXCEED_LIMIT
  deriving DecidableEq, Repr

/-- The answer to a proxy call: what the transport returns, and the service. -/
structure ServiceAnswer where
  res : Int := ERR_OK
  funcResult : Int := ERR_OK

namespace ServiceAnswer

variable (answer : ServiceAnswer)

/-- What a caller makes of the answer. -/
def result : Int :=
  if answer.res ≠ ERR_OK then ERR_NOTIFICATION_CES_COMMON_PARAM_INVALID else answer.funcResult

/-- Whether the service acknowledged the call. -/
def isAcknowledged : Bool := answer.res = ERR_OK && answer.funcResult = ERR_OK

theorem result_eq_iff : answer.result = ERR_OK ↔ answer.isAcknowledged = true := by
  unfold result isAcknowledged
  by_cases hres : answer.res = ERR_OK
  · simp [hres]
  · simp only [hres, not_false_eq_true, ne_eq, if_true, decide_false, Bool.false_and,
      Bool.false_eq_true, iff_false]
    decide

end ServiceAnswer

/-- What a call meets: whether there is a proxy, whether a listener can be
made, and the answer to the call on the service. -/
structure ClientEnv where
  hasProxy : Bool := true
  hasMemory : Bool := true
  answer : ServiceAnswer := {}

/-- What a subscribing call returned: `required` is the subscription it was
to make, where it is not content with any. -/
structure SubscribeReturn where
  subscriber : ℕ
  required : Option CommonEventSubscribeInfo
  result : Int

/-- **`CommonEvent`**, and what no step reads: what the service has
acknowledged, by listener, and what the last call returned. -/
structure CommonEvent where
  /-- `eventListeners_`. -/
  eventListeners : Dict ℕ ℕ := ∅
  nextListener : ℕ := 0
  acknowledged : Dict ℕ CommonEventSubscribeInfo := ∅
  /-- What was acknowledged before the service was last restarted, until it is
  known again. -/
  stale : Dict ℕ CommonEventSubscribeInfo := ∅
  returned : Option SubscribeReturn := none

namespace CommonEvent

variable (s : CommonEvent)

/-! ## Calls on the service -/

/-- `SubscribeCommonEvent` of the service. -/
def proxySubscribe (listener : ℕ) (info : CommonEventSubscribeInfo) (answer : ServiceAnswer) :
    CommonEvent :=
  if answer.isAcknowledged then
    { s with acknowledged := AList.insert listener info s.acknowledged }
  else s

/-- `UnsubscribeCommonEvent` of the service. -/
def proxyUnsubscribe (listener : ℕ) (answer : ServiceAnswer) : CommonEvent :=
  if answer.isAcknowledged then
    { s with
      acknowledged := s.acknowledged.erase listener
      stale := s.stale.erase listener }
  else s

/-! ## Listeners -/

/-- `CreateCommonEventListener`. -/
def createCommonEventListener (subscriber : Option ℕ) (hasMemory : Bool) :
    SubscribeState × Option ℕ × CommonEvent :=
  match subscriber with
  | none => (.SUBSCRIBE_FAILED, none, s)
  | some subscriber =>
    match s.eventListeners.lookup subscriber with
    | some listener => (.ALREADY_SUBSCRIBED, some listener, s)
    | none =>
      if s.eventListeners.entries.length = SUBSCRIBER_MAX_SIZE then
        (.SUBSCRIBE_EXCEED_LIMIT, none, s)
      else if !hasMemory then (.SUBSCRIBE_FAILED, none, s)
      else
        (.INITIAL_SUBSCRIPTION, some s.nextListener,
          { s with
            eventListeners := s.eventListeners.insert subscriber s.nextListener
            nextListener := s.nextListener + 1 })

/-! ## Publishing -/

/-- `PublishParameterCheck`: the listener of a result subscriber is made
here. -/
def publishParameterCheck (data : CommonEventData) (publishInfo : CommonEventPublishInfo)
    (subscriber : Option ℕ) (hasMemory : Bool) : Bool × CommonEvent :=
  if data.want.action = "" then (false, s)
  else if !publishInfo.ordered && subscriber.isSome then (false, s)
  else if subscriber.isSome then
    match s.createCommonEventListener subscriber hasMemory with
    | (.SUBSCRIBE_FAILED, _, s) => (false, s)
    | (_, _, s) => (true, s)
  else (true, s)

/-- `PublishCommonEventAsUser`. -/
def publishCommonEventAsUser (data : CommonEventData) (publishInfo : CommonEventPublishInfo)
    (subscriber : Option ℕ) (env : ClientEnv) : Int × CommonEvent :=
  match s.publishParameterCheck data publishInfo subscriber env.hasMemory with
  | (false, s) => (ERR_NOTIFICATION_CES_COMMON_PARAM_INVALID, s)
  | (true, s) =>
    if !env.hasProxy then (ERR_NOTIFICATION_CES_COMMON_PARAM_INVALID, s)
    else (env.answer.result, s)

/-- `PublishCommonEvent`. -/
def publishCommonEvent (data : CommonEventData) (publishInfo : CommonEventPublishInfo)
    (subscriber : Option ℕ) (env : ClientEnv) : Bool × CommonEvent :=
  match s.publishParameterCheck data publishInfo subscriber env.hasMemory with
  | (false, s) => (false, s)
  | (true, s) => if !env.hasProxy then (false, s) else (env.answer.result = ERR_OK, s)

/-! ## Subscribing -/

/-- `SubscribeOrUpdate`. The answer to an update is judged by the transport
alone. -/
def subscribeOrUpdate (subscriber : ℕ) (info : CommonEventSubscribeInfo) (isUpdate : Bool)
    (env : ClientEnv) : Int × CommonEvent :=
  match s.createCommonEventListener (some subscriber) env.hasMemory with
  | (.INITIAL_SUBSCRIPTION, some listener, s) =>
    let s := s.proxySubscribe listener info env.answer
    if env.answer.result ≠ ERR_OK then
      (env.answer.result, { s with eventListeners := s.eventListeners.erase subscriber })
    else (env.answer.result, s)
  | (.ALREADY_SUBSCRIBED, some listener, s) =>
    if isUpdate then
      (if env.answer.res ≠ ERR_OK then ERR_NOTIFICATION_CES_COMMON_PARAM_INVALID else ERR_OK,
        s.proxySubscribe listener info env.answer)
    else (ERR_OK, s)
  | (.SUBSCRIBE_EXCEED_LIMIT, _, s) => (ERR_NOTIFICATION_CES_SUBSCRIBE_EXCEED_LIMIT, s)
  | (_, _, s) => (ERR_NOTIFICATION_CES_COMMON_SYSTEMCAP_NOT_SUPPORT, s)

/-- What `Subscribe` and `SubscribeCommonEvent` check, and call. -/
def checkAndSubscribe (subscriber : Option ℕ) (info : CommonEventSubscribeInfo)
    (isUpdate : Bool) (env : ClientEnv) : Int × CommonEvent :=
  match subscriber with
  | none => (ERR_NOTIFICATION_CES_COMMON_PARAM_INVALID, s)
  | some subscriber =>
    if info.getEvents.length = 0 then (ERR_NOTIFICATION_CES_COMMON_PARAM_INVALID, s)
    else if !env.hasProxy then (ERR_NOTIFICATION_CESM_ERROR, s)
    else s.subscribeOrUpdate subscriber info isUpdate env

/-- `Subscribe`; `info` is what `GetSubscribeInfo` of the subscriber returns. -/
def subscribe (subscriber : Option ℕ) (info : CommonEventSubscribeInfo) (env : ClientEnv) :
    Int × CommonEvent :=
  s.checkAndSubscribe subscriber info true env

/-- `SubscribeCommonEvent`. -/
def subscribeCommonEvent (subscriber : Option ℕ) (info : CommonEventSubscribeInfo)
    (env : ClientEnv) : Int × CommonEvent :=
  s.checkAndSubscribe subscriber info false env

/-! ## Unsubscribing -/

/-- What `UnSubscribeCommonEvent` and its synchronous form do. A listener is an
object, so its `AsObject` is not null. -/
def checkAndUnsubscribe (subscriber : Option ℕ) (env : ClientEnv) : Int × CommonEvent :=
  match subscriber with
  | none => (ERR_NOTIFICATION_CES_COMMON_PARAM_INVALID, s)
  | some subscriber =>
    if !env.hasProxy then (ERR_NOTIFICATION_CESM_ERROR, s)
    else
      match s.eventListeners.lookup subscriber with
      | none => (ERR_OK, s)
      | some listener =>
        let s := s.proxyUnsubscribe listener env.answer
        if env.answer.result = ERR_OK then
          (ERR_OK, { s with eventListeners := s.eventListeners.erase subscriber })
        else (ERR_NOTIFICATION_SEND_ERROR, s)

/-- `UnSubscribeCommonEvent`. -/
def unSubscribeCommonEvent (subscriber : Option ℕ) (env : ClientEnv) : Int × CommonEvent :=
  s.checkAndUnsubscribe subscriber env

/-- `UnSubscribeCommonEventSync`. -/
def unSubscribeCommonEventSync (subscriber : Option ℕ) (env : ClientEnv) : Int × CommonEvent :=
  s.checkAndUnsubscribe subscriber env

/-! ## After a restart of the service -/

/-- The loop of `Resubscribe`. -/
def resubscribeEntries (infos : ℕ → CommonEventSubscribeInfo) (answers : ℕ → ServiceAnswer) :
    CommonEvent → List (ℕ × ℕ) → CommonEvent
  | s, [] => s
  | s, (subscriber, listener) :: entries =>
    let s := s.proxySubscribe listener (infos subscriber) (answers subscriber)
    if (answers subscriber).result ≠ ERR_OK then
      resubscribeEntries infos answers
        { s with eventListeners := s.eventListeners.erase subscriber } entries
    else resubscribeEntries infos answers s entries

/-- `Resubscribe`, with what every subscriber asks for and is answered. Once it
is done, what was acknowledged before the restart counts no more. -/
def resubscribe (hasProxy : Bool) (infos : ℕ → CommonEventSubscribeInfo)
    (answers : ℕ → ServiceAnswer) : Bool × CommonEvent :=
  if !hasProxy then (false, s)
  else
    (true, { resubscribeEntries infos answers s (Dict.toList s.eventListeners) with stale := ∅ })

/-- The service is restarted, and knows of no subscription. -/
def serviceRestarted : CommonEvent :=
  { s with
    acknowledged := ∅
    stale := s.acknowledged ∪ s.stale }

end CommonEvent

/-! ## The machine -/

/-- The calls of an application, and the restarts of the service. -/
inductive ClientLabel where
  | publishCommonEvent (data : CommonEventData) (publishInfo : CommonEventPublishInfo)
      (subscriber : Option ℕ) (env : ClientEnv)
  | publishCommonEventAsUser (data : CommonEventData) (publishInfo : CommonEventPublishInfo)
      (subscriber : Option ℕ) (env : ClientEnv)
  | subscribeCommonEvent (subscriber : Option ℕ) (info : CommonEventSubscribeInfo)
      (env : ClientEnv)
  | subscribe (subscriber : Option ℕ) (info : CommonEventSubscribeInfo) (env : ClientEnv)
  | unSubscribeCommonEvent (subscriber : Option ℕ) (env : ClientEnv)
  | unSubscribeCommonEventSync (subscriber : Option ℕ) (env : ClientEnv)
  | resubscribe (hasProxy : Bool) (infos : ℕ → CommonEventSubscribeInfo)
      (answers : ℕ → ServiceAnswer)
  | serviceRestarted

namespace CommonEvent

/-- The client after a call that subscribes nobody. -/
def quiet (s : CommonEvent) : CommonEvent := { s with returned := none }

/-- The client after a subscribing call. -/
def noteReturn (subscriber : Option ℕ) (required : Option CommonEventSubscribeInfo)
    (call : Int × CommonEvent) : CommonEvent :=
  { call.2 with returned := subscriber.map (fun subscriber => ⟨subscriber, required, call.1⟩) }

/-- **The client after a call.** -/
def apply (s : CommonEvent) : ClientLabel → CommonEvent
  | .publishCommonEvent data publishInfo subscriber env =>
    (s.publishCommonEvent data publishInfo subscriber env).2.quiet
  | .publishCommonEventAsUser data publishInfo subscriber env =>
    (s.publishCommonEventAsUser data publishInfo subscriber env).2.quiet
  | .subscribeCommonEvent subscriber info env =>
    noteReturn subscriber none (s.subscribeCommonEvent subscriber info env)
  | .subscribe subscriber info env =>
    noteReturn subscriber (some info) (s.subscribe subscriber info env)
  | .unSubscribeCommonEvent subscriber env => (s.unSubscribeCommonEvent subscriber env).2.quiet
  | .unSubscribeCommonEventSync subscriber env =>
    (s.unSubscribeCommonEventSync subscriber env).2.quiet
  | .resubscribe hasProxy infos answers => (s.resubscribe hasProxy infos answers).2.quiet
  | .serviceRestarted => s.serviceRestarted.quiet

end CommonEvent

/-- **The client, one call after another.** -/
def clientMachine : Machine CommonEvent ClientLabel where
  init := {}
  step s l := some (s.apply l)

end CommonEventService

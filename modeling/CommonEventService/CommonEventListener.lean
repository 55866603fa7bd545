import CommonEventService.Lib.Machine
import CommonEventService.Marshalling
import Mathlib.Data.List.Perm.Subperm

/-!
# The receiving end

A subscriber is told of an event through its listener, the stub the service
holds a proxy of. `NotifyEvent` only posts a task; the task makes an
`AsyncCommonEventResult`, hands it to the subscriber, calls back, and answers
an ordered event when the callback has returned – unless the subscriber has
gone asynchronous, which takes the result out of the subscriber's hands and
into those of whoever asked for it.

Neither the result nor the subscriber has a lock, so calls on one object must
not overlap, and a call is one step. What is between two calls is not: another
listener of the same subscriber, a holder of a result, or `Stop` may come in
anywhere. What code outside decides is in the label: when a callback returns,
which calls it makes, whether the listener is still alive when its task runs
or its token is asked for.

A notification carries a `tag`, which no function reads, so that one can say
which notification an answer is to. The *tokens* of a state are the tags of
the notifications that can still be answered.
-/

namespace CommonEventService

open Wire (ThreadMode)

/-- `IEventReceive::NotifyEvent`, as it comes to a listener. -/
structure Notification (τ : Type) where
  commonEventListener : Remote
  commonEventData : CommonEventData
  ordered : Bool
  sticky : Bool
  tag : τ
  deriving DecidableEq, Repr

/-- A call of `CommonEvent::FinishReceiver`, with a token that is not null. -/
structure FinishReceiverCall (τ : Type) where
  proxy : Remote
  code : Int
  data : String
  abortEvent : Bool
  tag : τ
  deriving DecidableEq, Repr

/-- **`AsyncCommonEventResult`.** -/
structure AsyncCommonEventResult (τ : Type) where
  resultCode : Int
  resultData : String
  ordered : Bool
  sticky : Bool
  token : Remote
  abortEvent : Bool := false
  finished : Bool := false
  tag : τ
  deriving DecidableEq, Repr

namespace AsyncCommonEventResult

variable {τ : Type} (result : AsyncCommonEventResult τ)

/-- `CheckSynchronous`. -/
def checkSynchronous : Bool := result.ordered

/-- What every setter does: it returns whether the event is ordered, and
writes only if it is. -/
def whenSynchronous (write : AsyncCommonEventResult τ → AsyncCommonEventResult τ) :
    Bool × AsyncCommonEventResult τ :=
  if result.checkSynchronous then (true, write result) else (false, result)

/-- `SetCode`. -/
def setCode (code : Int) : Bool × AsyncCommonEventResult τ :=
  result.whenSynchronous (fun result => { result with resultCode := code })

/-- `SetData`. -/
def setData (data : String) : Bool × AsyncCommonEventResult τ :=
  result.whenSynchronous (fun result => { result with resultData := data })

/-- `SetCodeAndData`. -/
def setCodeAndData (code : Int) (data : String) : Bool × AsyncCommonEventResult τ :=
  result.whenSynchronous
    (fun result => { result with resultCode := code, resultData := data })

/-- `AbortCommonEvent`. -/
def abortCommonEvent : Bool × AsyncCommonEventResult τ :=
  result.whenSynchronous (fun result => { result with abortEvent := true })

/-- `ClearAbortCommonEvent`. -/
def clearAbortCommonEvent : Bool × AsyncCommonEventResult τ :=
  result.whenSynchronous (fun result => { result with abortEvent := false })

/-- `FinishCommonEvent`: the call it makes, if it makes one. -/
def finishCommonEvent : Option (FinishReceiverCall τ) × AsyncCommonEventResult τ :=
  if !result.checkSynchronous then (none, result)
  else if result.finished then (none, result)
  else
    (some ⟨result.token, result.resultCode, result.resultData, result.abortEvent, result.tag⟩,
      { result with finished := true })

end AsyncCommonEventResult

/-- The calls that set a result. -/
inductive ResultCall where
  | setCode (code : Int)
  | setData (data : String)
  | setCodeAndData (code : Int) (data : String)
  | abortCommonEvent
  | clearAbortCommonEvent
  deriving DecidableEq, Repr

/-- The result after a call. -/
def ResultCall.apply {τ : Type} (result : AsyncCommonEventResult τ) :
    ResultCall → AsyncCommonEventResult τ
  | .setCode code => (result.setCode code).2
  | .setData data => (result.setData data).2
  | .setCodeAndData code data => (result.setCodeAndData code data).2
  | .abortCommonEvent => result.abortCommonEvent.2
  | .clearAbortCommonEvent => result.clearAbortCommonEvent.2

/-- **`CommonEventListener`**: its subscriber, and whether it has a handler or
a queue of its own to post to. It never has both. -/
structure CommonEventListener where
  commonEventSubscriber : Option ℕ := none
  handler : Bool := false
  listenerQueue : Bool := false
  one : (handler && listenerQueue) = false := by rfl
  deriving DecidableEq, Repr

namespace CommonEventListener

/-- The constructor, `Init` included; `created` is whether what `Init` creates
is there. -/
def init (commonEventSubscriber : Option ℕ) (threadMode : ThreadMode) (created : Bool) :
    CommonEventListener :=
  match commonEventSubscriber with
  | none => {}
  | some subscriber =>
    if threadMode = ThreadMode.HANDLER then
      { commonEventSubscriber := some subscriber, handler := created
        one := Bool.and_false created }
    else { commonEventSubscriber := some subscriber, listenerQueue := created }

/-- `IsReady`. -/
def isReady (listener : CommonEventListener) : Bool :=
  !(!listener.listenerQueue && !listener.handler)

end CommonEventListener

/-- A task that was posted: to the main runner, or to the queue of its own
listener. -/
structure PostedTask (τ : Type) where
  queue : Option Remote
  notification : Notification τ
  deriving DecidableEq, Repr

/-- Where a task is in `CommonEventListener::OnReceiveEvent`. -/
inductive ReceivePlace where
  /-- It has made the result and read the subscriber. -/
  | made
  /-- The subscriber has the result, and its callback is running. -/
  | onReceiveEvent
  /-- The callback has returned, and the subscriber has a result to finish. -/
  | finishing
  deriving DecidableEq, Repr

/-- A task that runs. -/
structure Receiving where
  queue : Option Remote
  subscriber : ℕ
  result : ℕ
  ordered : Bool
  place : ReceivePlace
  deriving DecidableEq, Repr

/-- **The state of the receiving end**: the listeners, the tasks posted and
running, the results made so far, by number, and for each subscriber the
result it has. `handedOut` are the results that `GoAsyncCommonEvent` gave
away; `outbox` are the calls of `FinishReceiver` made. -/
structure Receivers (τ : Type) where
  listeners : Remote → Option CommonEventListener := fun _ => none
  posted : List (PostedTask τ) := []
  receiving : List Receiving := []
  results : List (AsyncCommonEventResult τ) := []
  result_ : ℕ → Option ℕ := fun _ => none
  handedOut : List ℕ := []
  outbox : List (FinishReceiverCall τ) := []

/-- **The labels of the receiving end.** -/
inductive ReceiversLabel (τ : Type) where
  | construct (listener : Remote) (subscriber : Option ℕ) (threadMode : ThreadMode)
      (created : Bool)
  | notifyEvent (notification : Notification τ)
  /-- A task begins; `alive` is whether its listener still is. -/
  | onReceiveEvent (i : ℕ) (alive : Bool)
  | setAsyncCommonEventResult (i : ℕ)
  /-- The callback of a task returns. -/
  | returned (i : ℕ)
  /-- The task answers; `sent` is whether the call gets to the service. -/
  | finish (i : ℕ) (sent : Bool)
  /-- A call on a subscriber. -/
  | subscriberCall (subscriber : ℕ) (call : ResultCall)
  | goAsyncCommonEvent (subscriber : ℕ)
  /-- A call on a result that was handed out. -/
  | resultCall (result : ℕ) (call : ResultCall)
  | finishCommonEvent (result : ℕ) (sent : Bool)
  | stop (listener : Remote)

namespace Receivers

variable {τ : Type} (s : Receivers τ)

/-- A write to one result. -/
def setResult (k : ℕ) (result : AsyncCommonEventResult τ) : Receivers τ :=
  { s with results := s.results.set k result }

/-- `NotifyEvent`. -/
def notifyEvent (notification : Notification τ) : Receivers τ :=
  match s.listeners notification.commonEventListener with
  | none => s
  | some listener =>
    if !listener.isReady then s
    else
      { s with posted := s.posted
          ++ (if listener.handler then [⟨none, notification⟩] else [])
          ++ (if listener.listenerQueue
              then [⟨some notification.commonEventListener, notification⟩] else []) }

/-- A task may begin: it is the first one of its queue, and the queue has
none running. -/
def isNext (i : ℕ) (task : PostedTask τ) : Bool :=
  (s.posted.take i).all (fun other => other.queue ≠ task.queue)
    && s.receiving.all (fun running => running.queue ≠ task.queue)

/-- `OnReceiveEvent`, up to the subscriber being read. A listener that was
stopped has none. -/
def onReceiveEvent (i : ℕ) (alive : Bool) (task : PostedTask τ) : Receivers τ :=
  let notification := task.notification
  let s := { s with posted := s.posted.eraseIdx i }
  if !alive then s
  else
    match (s.listeners notification.commonEventListener).bind (·.commonEventSubscriber) with
    | none => s
    | some subscriber =>
      { s with
        results := s.results ++ [
          { resultCode := notification.commonEventData.code
            resultData := notification.commonEventData.data
            ordered := notification.ordered
            sticky := notification.sticky
            token := notification.commonEventListener
            tag := notification.tag }]
        receiving := s.receiving ++
          [⟨task.queue, subscriber, s.results.length, notification.ordered, .made⟩] }

/-- `FinishCommonEvent` of a result. -/
def finishCommonEvent (k : ℕ) (sent : Bool) (result : AsyncCommonEventResult τ) : Receivers τ :=
  let (call, result) := result.finishCommonEvent
  { s.setResult k result with
    outbox := s.outbox ++ if sent then call.toList else [] }

/-- `Stop`. -/
def stop (listener : Remote) : Receivers τ :=
  { s with listeners := fun other =>
      if other = listener then (s.listeners listener).map (fun _ => {}) else s.listeners other }

/-- **One step of the receiving end.** -/
def step : ReceiversLabel τ → Option (Receivers τ)
  | .construct listener subscriber threadMode created =>
    if s.listeners listener = none then
      some { s with listeners := fun other =>
        if other = listener then some (.init subscriber threadMode created)
        else s.listeners other }
    else none
  | .notifyEvent notification => some (s.notifyEvent notification)
  | .onReceiveEvent i alive =>
    (s.posted[i]?).bind (fun task =>
      if s.isNext i task then some (s.onReceiveEvent i alive task) else none)
  | .setAsyncCommonEventResult i =>
    (s.receiving[i]?).bind (fun running =>
      if running.place = .made then
        some { s with
          result_ := Function.update s.result_ running.subscriber (some running.result)
          receiving := s.receiving.set i { running with place := .onReceiveEvent } }
      else none)
  | .returned i =>
    (s.receiving[i]?).bind (fun running =>
      if running.place = .onReceiveEvent then
        if running.ordered && (s.result_ running.subscriber).isSome then
          some { s with receiving := s.receiving.set i { running with place := .finishing } }
        else some { s with receiving := s.receiving.eraseIdx i }
      else none)
  | .finish i sent =>
    (s.receiving[i]?).bind (fun running =>
      if running.place = .finishing then
        -- the subscriber's result is read once more; a null one is not checked for
        (s.result_ running.subscriber).bind (fun k =>
          (s.results[k]?).map (fun result =>
            { s.finishCommonEvent k sent result with
              receiving := s.receiving.eraseIdx i }))
      else none)
  | .subscriberCall subscriber call =>
    match s.result_ subscriber with
    | none => some s
    | some k => (s.results[k]?).map (fun result => s.setResult k (call.apply result))
  | .goAsyncCommonEvent subscriber =>
    match s.result_ subscriber with
    | none => some s
    | some k =>
      some { s with
        result_ := Function.update s.result_ subscriber none
        handedOut := s.handedOut ++ [k] }
  | .resultCall k call =>
    if k ∈ s.handedOut then
      (s.results[k]?).map (fun result => s.setResult k (call.apply result))
    else none
  | .finishCommonEvent k sent =>
    if k ∈ s.handedOut then
      (s.results[k]?).map (fun result => s.finishCommonEvent k sent result)
    else none
  | .stop listener => some (s.stop listener)

end Receivers

/-- **The receiving end as a machine.** -/
def receiversMachine (τ : Type) : Machine (Receivers τ) (ReceiversLabel τ) where
  init := {}
  step := Receivers.step

end CommonEventService

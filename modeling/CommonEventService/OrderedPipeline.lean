import CommonEventService.SubscriberMatching
import CommonEventService.Lib.DoWhile
import CommonEventService.Lib.Machine

/-!
# The ordered pipeline

`CommonEventControlManager` delivers an ordered event to one receiver at a
time, and goes on when the receiver has answered, has been given up on, or
could not be reached. Four parties move it: the publishing call, which
enqueues a record; the tasks on the serial queue `orderedQueue_`, which look
at the front of `orderedEventQueue_` and notify its next receiver; the timer
callback, on the same queue; and the calls that finish a receiver or
unsubscribe one, from other threads.

The state is what these share, the program counter of the serial queue, and
the service calls in progress. A step is one critical section or one atomic
access, as the code takes its locks; what the code does not decide – when the
clock moves, whether a receiver is frozen or its proxy usable, what a call to
it answers – is in the label. Records are numbered in the order they are
enqueued. The state also keeps a `trace` of what happened
to the records, which no step reads.

The sections are taken as atomic against each other. The code guards a record
by `recordMutex_`, but reads its state, abort flag, next and current receiver
without that lock in the section under the queue's lock and in the final test;
that such a read comes between two writes of one update is left out.

Two things are read off the code once and for all. The two shared pointers of
a record are made together and copied together, so one cell number stands for
both. And the event state that a failed notification stores is the *delivery*
state `SKIPPED`, whose number is that of the event state `RECEIVED`.
-/

namespace CommonEventService

/-- A pair of shared cells: the data of an event and its publish info. -/
abbrev CellId := ℕ

/-- How long a receiver may take, in milliseconds. -/
def TIMEOUT : ℕ := 10000

def DOUBLE : ℕ := 2

/-- `OrderedEventRecord::EventState`. -/
inductive EventState where
  | IDLE
  | RECEIVING
  | RECEIVED
  deriving DecidableEq, Repr

/-- `OrderedEventRecord::DeliveryState`. -/
inductive DeliveryState where
  | PENDING
  | DELIVERED
  | SKIPPED
  | TIMEOUT
  deriving DecidableEq, Repr

/-- The delivery state `SKIPPED`, stored where an event state belongs. -/
def EventState.SKIPPED : EventState := .RECEIVED

/-- A receiver of a record: the shared subscriber record, and its listener,
which never changes. -/
structure Receiver where
  record : SubscriberRecordPtr
  commonEventListener : Remote
  deriving DecidableEq, Repr

/-- **`OrderedEventRecord`.** -/
structure OrderedEventRecord extends CommonEventRecord CellId CellId where
  resultAbort : Bool := false
  state : EventState := .IDLE
  nextReceiver : ℕ := 0
  dispatchTime : ℕ := 0
  receiverTime : ℕ := 0
  resultTo : Option Remote := none
  curReceiver : Option Remote := none
  deliveryState : List DeliveryState := []
  receivers : List Receiver := []
  deriving DecidableEq, Repr

/-- The index of the receiver that is at work. -/
def OrderedEventRecord.currentIndex (record : OrderedEventRecord) : Option ℕ :=
  record.curReceiver.map (fun _ => record.nextReceiver - 1)

instance : Inhabited OrderedEventRecord := ⟨{ commonEventData := 0, publishInfo := 0 }⟩

instance : Inhabited CommonEventData := ⟨{ want := { action := "" } }⟩

/-- What `ProcessOrderedEvent` is called with, and the subscriber manager it
finds. -/
structure PublishRequest where
  manager : SubscriberManager (Buffered CellId) CellId
  event : EventRecord
  resultTo : Option Remote

/-- A call of `InnerCommonEventManager::FinishReceiver`. The code sees the
first four fields; `delivery`, which no step reads, is what the caller is
answering: a record and the index of a receiver. -/
structure Reply where
  proxy : Option Remote
  code : Int
  receiverData : String
  abortEvent : Bool
  delivery : ℕ × ℕ
  deriving DecidableEq, Repr

/-- A call of `FinishReceiverAction`. An unsubscription passes the record's
own abort flag by reference, which writes the flag to itself: `none`. The last
two fields, which no step reads, are the reply it comes from and the index of
the receiver that was at work when it was matched. -/
structure FinishCall where
  record : ℕ
  code : Int
  receiverData : String
  abortEvent : Option Bool
  reply : Option Reply
  receiver : Option ℕ
  deriving DecidableEq, Repr

/-- A service call in progress, by what it does next. -/
inductive ServiceOp where
  /-- `ScheduleOrderedCommonEvent`, after an enqueueing. -/
  | schedule
  /-- `UnsubscribeCommonEvent` reads the code and the data of the record its
  listener is the current receiver of. -/
  | readResult (record : ℕ) (receiver : Option ℕ)
  /-- `FinishReceiver` loads the state of the record. -/
  | finishLoad (call : FinishCall)
  /-- `FinishReceiver` takes the record's lock and updates it;
  `FinishReceiverAction` then submits a task if the state loaded was
  `RECEIVED`. -/
  | finishUpdate (call : FinishCall) (state : EventState)
  deriving DecidableEq, Repr

/-- **The program counter of the serial queue.** -/
inductive OrderedThread where
  | idle
  /-- In `ProcessNextOrderedEvent`, before the section under the queue's
  lock. -/
  | queueSection
  /-- Calling the final receivers of the records removed. -/
  | finals (removed : List ℕ) (sp : Option ℕ)
  | prepareNext (sp : ℕ)
  | setTimeout (sp : ℕ) (recIdx : ℕ)
  | notify (sp : ℕ) (recIdx : ℕ)
  | frozen (sp : ℕ) (recIdx : ℕ)
  | prepareNotify (sp : ℕ) (recIdx : ℕ)
  | call (sp : ℕ) (recIdx : ℕ)
  | inCall (sp : ℕ) (recIdx : ℕ)
  | handleResult (sp : ℕ) (recIdx : ℕ) (isOk : Bool)
  | finalTest (sp : ℕ)
  | storeIdle (sp : ℕ)
  /-- `ScheduleOrderedCommonEvent`, the last step of a task and of a
  timeout. -/
  | reschedule
  /-- In `CurrentOrderedEventTimeout`. -/
  | timeoutFront
  | timeoutCheck (sp : ℕ)
  | timeoutHandle (sp : ℕ) (nowSysTime : ℕ)
  deriving DecidableEq, Repr

/-- What has happened to the records. -/
inductive TraceEvent where
  | removed (record : ℕ)
  /-- `HandleFinalSubscriber`, and the data stored in the record then. -/
  | final (record : ℕ) (passed : CommonEventData)
  /-- `NotifyOrderedEvent`, with the index it is passed. -/
  | notified (record : ℕ) (index : ℕ)
  deriving DecidableEq, Repr

/-- **The state of the control manager**, its ordered part. -/
structure ControlManager where
  now : ℕ := 0
  records : ℕ → OrderedEventRecord := fun _ => default
  nextRecord : ℕ := 0
  cells : CellId → CommonEventData := fun _ => default
  infos : CellId → CommonEventPublishInfo := fun _ => {}
  nextCell : CellId := 0
  orderedEventQueue : List ℕ := []
  pendingTimeoutMessage : Bool := false
  scheduled : Bool := false
  /-- The waiting tasks of `orderedQueue_`: `ProcessNextOrderedEvent`, each
  with its `isSendMsg`. -/
  orderedQueue : List Bool := []
  /-- The delayed tasks of `orderedQueue_`, by handle and due time. -/
  timers : List (ℕ × ℕ) := []
  orderedHandler : ℕ := 0
  nextHandler : ℕ := 0
  thread : OrderedThread := .idle
  ops : List ServiceOp := []
  trace : List TraceEvent := []

/-- What the code does not decide at a step of the serial queue. -/
structure Answer where
  /-- Whether the receiver's record is frozen, where the code tests it. -/
  isFreeze : Bool := false
  /-- Whether `iface_cast` gives a usable proxy. -/
  hasProxy : Bool := true
  /-- Whether `NotifyEvent` returns `ERR_OK`. -/
  isOk : Bool := true
  deriving DecidableEq, Repr

/-- **The labels of the pipeline.** -/
inductive ControlLabel where
  | tick (duration : ℕ)
  /-- An unordered publish makes its cells. -/
  | makeCells (data : CommonEventData) (info : CommonEventPublishInfo)
  /-- The replay of a sticky event: `publishInfo->SetOrdered(false)`. -/
  | setUnordered (cell : CellId)
  | publish (request : PublishRequest)
  | finishReceiver (reply : Reply)
  | unsubscribeCommonEvent (commonEventListener : Option Remote)
  /-- The next step of a service call in progress. -/
  | op (i : ℕ)
  /-- The serial queue takes its next task. -/
  | processNextOrderedEvent
  /-- The serial queue takes a delayed task that is due. -/
  | timeout (handler : ℕ)
  /-- The next step of the serial queue. -/
  | thread (answer : Answer)

namespace ControlManager

variable (P : Platform) (S : StdSort) (s : ControlManager)

/-- A change of one record. -/
def modify (r : ℕ) (f : OrderedEventRecord → OrderedEventRecord) : ControlManager :=
  { s with records := Function.update s.records r (f (s.records r)) }

/-- The front of the queue. -/
def front : Option ℕ := s.orderedEventQueue.head?

/-! ## Tasks and timers -/

/-- `ScheduleOrderedCommonEvent`. -/
def scheduleOrderedCommonEvent : ControlManager :=
  if s.scheduled then s
  else { s with scheduled := true, orderedQueue := s.orderedQueue ++ [true] }

/-- `SetTimeout`. -/
def setTimeout : ControlManager :=
  if s.pendingTimeoutMessage then s
  else
    { s with
      pendingTimeoutMessage := true
      orderedHandler := s.nextHandler
      nextHandler := s.nextHandler + 1
      timers := s.timers ++ [(s.nextHandler, s.now + TIMEOUT)] }

/-- `CancelTimeout`. -/
def cancelTimeout : ControlManager :=
  if s.pendingTimeoutMessage then
    { s with
      pendingTimeoutMessage := false
      timers := s.timers.filter (fun timer => timer.1 ≠ s.orderedHandler) }
  else s

/-! ## Publishing -/

/-- `make_shared`, for the data and the publish info of an event. -/
def makeCells (data : CommonEventData) (info : CommonEventPublishInfo) : ControlManager :=
  { s with
    cells := Function.update s.cells s.nextCell data
    infos := Function.update s.infos s.nextCell info
    nextCell := s.nextCell + 1 }

/-- `publishInfo->SetOrdered(false)`. -/
def setUnordered (cell : CellId) : ControlManager :=
  { s with infos := Function.update s.infos cell { s.infos cell with ordered := false } }

/-- The receivers of an event, greatest priority first. -/
def sortedReceivers (request : PublishRequest) : List Receiver :=
  let (subscribers, manager) := request.manager.getSubscriberRecords P request.event
  (S.sort (fun first second =>
      decide ((manager.heap first).eventSubscribeInfo.priority
        > (manager.heap second).eventSubscribeInfo.priority)) subscribers).map
    (fun record => ⟨record, manager.listenerOf record⟩)

/-- `ProcessOrderedEvent`, up to and including `EnqueueOrderedRecord`: the
record is filled from the event, and `ScheduleOrderedCommonEvent` is still to
come. -/
def processOrderedEvent (request : PublishRequest) : ControlManager :=
  let cell := s.nextCell
  let s := s.makeCells request.event.commonEventData request.event.publishInfo
  let receivers := sortedReceivers P S request
  { s with
    records := Function.update s.records s.nextRecord
      { commonEventData := cell
        publishInfo := cell
        recordTime := request.event.recordTime
        userId := request.event.userId
        eventRecordInfo := request.event.eventRecordInfo
        resultTo := request.resultTo
        receivers := receivers
        deliveryState := receivers.map (fun _ => .PENDING) }
    nextRecord := s.nextRecord + 1
    orderedEventQueue := s.orderedEventQueue ++ [s.nextRecord]
    ops := s.ops ++ [.schedule] }

/-! ## Finishing a receiver -/

/-- `GetMatchingOrderedReceiver`. -/
def getMatchingOrderedReceiver (proxy : Option Remote) : Option ℕ :=
  match s.front with
  | some firstRecord =>
    if (s.records firstRecord).curReceiver = proxy then some firstRecord else none
  | none => none

/-- `InnerCommonEventManager::FinishReceiver`, up to the call of
`FinishReceiverAction`. -/
def finishReceiver (reply : Reply) : ControlManager :=
  match s.getMatchingOrderedReceiver reply.proxy with
  | some sp =>
    { s with ops := s.ops ++
        [.finishLoad ⟨sp, reply.code, reply.receiverData, some reply.abortEvent,
          some reply, (s.records sp).currentIndex⟩] }
  | none => s

/-- `InnerCommonEventManager::UnsubscribeCommonEvent`, up to the search for a
record that waits for the listener. -/
def unsubscribeCommonEvent (commonEventListener : Option Remote) : ControlManager :=
  match commonEventListener with
  | none => s
  | some commonEventListener =>
    match s.getMatchingOrderedReceiver (some commonEventListener) with
    | some sp => { s with ops := s.ops ++ [.readResult sp (s.records sp).currentIndex] }
    | none => s

/-- The locked update of `FinishReceiver`. -/
def finishUpdate (call : FinishCall) : ControlManager :=
  let cell := (s.records call.record).commonEventData
  { s.modify call.record (fun record =>
      { record with
        state := .IDLE
        curReceiver := none
        resultAbort := call.abortEvent.getD record.resultAbort }) with
    -- written where everyone who holds the cell reads
    cells := Function.update s.cells cell
      { s.cells cell with code := call.code, data := call.receiverData } }

/-- The next step of a service call; `rest` are the calls after it. -/
def stepOp (i : ℕ) : ServiceOp → ControlManager
  | .schedule => { s with ops := s.ops.eraseIdx i }.scheduleOrderedCommonEvent
  | .readResult sp receiver =>
    let data := s.cells (s.records sp).commonEventData
    { s with ops := s.ops.set i (.finishLoad ⟨sp, data.code, data.data, none, none, receiver⟩) }
  | .finishLoad call =>
    -- the state is read before the lock is taken for the update
    { s with ops := s.ops.set i (.finishUpdate call (s.records call.record).state) }
  | .finishUpdate call state =>
    let s := { s with ops := s.ops.eraseIdx i }.finishUpdate call
    if state = .RECEIVED then { s with orderedQueue := s.orderedQueue ++ [false] } else s

/-! ## The section under the queue's lock -/

/-- `HandleTimeoutReceiver`. The code, the data and the abort flag are
written back as they were read. -/
def handleTimeoutReceiver (sp : ℕ) (nowSysTime : ℕ) : ControlManager :=
  s.modify sp (fun record =>
    { record with
      receiverTime := nowSysTime
      deliveryState :=
        if record.nextReceiver > 0
        then record.deliveryState.set (record.nextReceiver - 1) .TIMEOUT
        else record.deliveryState
      state := .IDLE
      curReceiver := none })

/-- The test of `CheckTimeoutForceReceive`: the record has had more than
twice the time of all its receivers. -/
def isOverdue (sp : ℕ) : Bool :=
  let record := s.records sp
  record.dispatchTime > 0 && record.receivers.length > 0
    && s.now > record.dispatchTime + DOUBLE * TIMEOUT * record.receivers.length

/-- `CheckTimeoutForceReceive`. -/
def checkTimeoutForceReceive (sp : ℕ) : ControlManager × Bool :=
  if s.isOverdue sp then (s.handleTimeoutReceiver sp s.now, true) else (s, false)

/-- One pass of the loop of `ProcessOrderedEventQueueLocked`, with the
records removed so far. -/
def processOrderedEventQueuePass (loop : ControlManager × List ℕ) :
    (ControlManager × List ℕ) ⊕ (ControlManager × List ℕ × Option ℕ) :=
  let (s, removedRecords) := loop
  match s.orderedEventQueue with
  | [] => .inr (s, removedRecords, none)
  | sp :: rest =>
    -- a record that is overdue is made idle first, whoever is at work on it
    let (s, forceReceive) := s.checkTimeoutForceReceive sp
    let record := s.records sp
    if record.state ≠ .IDLE then .inr (s, removedRecords, none)
    else if record.receivers = [] ∨ record.nextReceiver ≥ record.receivers.length
        ∨ record.resultAbort ∨ forceReceive then
      .inl ({ s.cancelTimeout with
        orderedEventQueue := rest
        trace := s.trace ++ [.removed sp] }, removedRecords ++ [sp])
    else .inr (s, removedRecords, some sp)

/-- **`ProcessOrderedEventQueueLocked`**: the record whose next receiver is
to be notified, if there is one, and the records removed on the way to it. -/
def processOrderedEventQueueLocked :
    Option (ControlManager × List ℕ × Option ℕ) :=
  doWhile processOrderedEventQueuePass (s.orderedEventQueue.length + 1) (s, [])

/-! ## The serial queue -/

/-- `HandleFinalSubscriber`. -/
def handleFinalSubscriber (sp : ℕ) (hasProxy : Bool) : ControlManager :=
  let passed := s.cells (s.records sp).commonEventData
  let s := { s with trace := s.trace ++ [.final sp passed] }
  if (s.records sp).resultTo = none ∨ !hasProxy then s
  else s.modify sp (fun record => { record with resultTo := none })

/-- `PrepareNextReceiverRecord`. -/
def prepareNextReceiverRecord (sp : ℕ) : ControlManager :=
  s.modify sp (fun record =>
    { record with
      nextReceiver := record.nextReceiver + 1
      receiverTime := s.now
      dispatchTime := if record.nextReceiver = 0 then s.now else record.dispatchTime })

/-- The locked section of `NotifyFrozenSubscriber`. -/
def notifyFrozenSubscriber (sp : ℕ) (index : ℕ) : ControlManager :=
  s.modify sp (fun record =>
    { record with
      deliveryState := record.deliveryState.set index .SKIPPED
      curReceiver := none })

/-- `PrepareOrderedNotify`. -/
def prepareOrderedNotify (sp : ℕ) (index : ℕ) (hasProxy : Bool) : ControlManager :=
  s.modify sp (fun record =>
    let record := { record with deliveryState := record.deliveryState.set index .DELIVERED }
    if hasProxy then
      { record with
        curReceiver := record.receivers[index]?.map (·.commonEventListener)
        state := .RECEIVING }
    else { record with curReceiver := none })

/-- `HandleOrderedNotifyResult`. -/
def handleOrderedNotifyResult (sp : ℕ) (isOk : Bool) : ControlManager :=
  s.modify sp (fun record =>
    if isOk then { record with state := .RECEIVED }
    else { record with state := .SKIPPED, curReceiver := none })

/-- **The next step of the serial queue**: `ProcessNextOrderedEvent` section
by section, and `CurrentOrderedEventTimeout`. -/
def stepThread (answer : Answer) : Option ControlManager :=
  match s.thread with
  | .idle => none
  | .queueSection =>
    s.processOrderedEventQueueLocked.map
      (fun (s, removed, sp) => { s with thread := .finals removed sp })
  | .finals (removed :: rest) sp =>
    some { s.handleFinalSubscriber removed answer.hasProxy with thread := .finals rest sp }
  | .finals [] none => some { s with thread := .idle }
  | .finals [] (some sp) => some { s with thread := .prepareNext sp }
  | .prepareNext sp =>
    some { s.prepareNextReceiverRecord sp with
      thread := .setTimeout sp (s.records sp).nextReceiver }
  | .setTimeout sp recIdx => some { s.setTimeout with thread := .notify sp recIdx }
  | .notify sp recIdx =>
    some { s with
      trace := s.trace ++ [.notified sp recIdx]
      thread :=
        if recIdx ≥ (s.records sp).receivers.length then .finalTest sp
        else if answer.isFreeze then .frozen sp recIdx
        else .prepareNotify sp recIdx }
  | .frozen sp recIdx =>
    some { s.notifyFrozenSubscriber sp recIdx with thread := .finalTest sp }
  | .prepareNotify sp recIdx =>
    some { s.prepareOrderedNotify sp recIdx answer.hasProxy with
      thread := if answer.hasProxy then .call sp recIdx else .finalTest sp }
  | .call sp recIdx => some { s with thread := .inCall sp recIdx }
  | .inCall sp recIdx => some { s with thread := .handleResult sp recIdx answer.isOk }
  | .handleResult sp _ isOk =>
    some { s.handleOrderedNotifyResult sp isOk with thread := .finalTest sp }
  | .finalTest sp =>
    some { s with
      thread := if (s.records sp).curReceiver = none then .storeIdle sp else .idle }
  | .storeIdle sp =>
    some { s.modify sp (fun record => { record with state := .IDLE }) with
      thread := .reschedule }
  | .reschedule => some { s.scheduleOrderedCommonEvent with thread := .idle }
  | .timeoutFront =>
    some { s with
      pendingTimeoutMessage := false
      thread :=
        match s.front with
        | none => .idle
        | some sp => .timeoutCheck sp }
  | .timeoutCheck sp =>
    if (s.records sp).receiverTime + TIMEOUT > s.now
    then some { s.setTimeout with thread := .idle }
    else some { s with thread := .timeoutHandle sp s.now }
  | .timeoutHandle sp nowSysTime =>
    some { s.handleTimeoutReceiver sp nowSysTime with thread := .reschedule }

/-- **One step of the pipeline.** -/
def step : ControlLabel → Option ControlManager
  | .tick duration => some { s with now := s.now + duration }
  | .makeCells data info => some (s.makeCells data info)
  | .setUnordered cell => some (s.setUnordered cell)
  | .publish request => some (s.processOrderedEvent P S request)
  | .finishReceiver reply => some (s.finishReceiver reply)
  | .unsubscribeCommonEvent listener => some (s.unsubscribeCommonEvent listener)
  | .op i => s.ops[i]?.map (s.stepOp i)
  | .processNextOrderedEvent =>
    match s.thread, s.orderedQueue with
    | .idle, isSendMsg :: rest =>
      some { s with
        orderedQueue := rest
        scheduled := if isSendMsg then false else s.scheduled
        thread := .queueSection }
    | _, _ => none
  | .timeout handler =>
    if s.thread = .idle ∧ s.timers.any (fun timer => timer.1 = handler && timer.2 ≤ s.now)
    then some { s with
      timers := s.timers.filter (fun timer => timer.1 ≠ handler)
      thread := .timeoutFront }
    else none
  | .thread answer => s.stepThread answer

end ControlManager

/-- **The ordered pipeline as a machine.** -/
def orderedMachine (P : Platform) (S : StdSort) : Machine ControlManager ControlLabel where
  init := {}
  step := ControlManager.step P S

end CommonEventService

import CommonEventService.SubscriberMatching
import CommonEventService.Lib.Machine

/-!
# Unordered delivery

An unordered event is notified by one task, to one receiver after another.
For a receiver that is frozen the event is kept instead, in the buffer by uid
and then in the buffer by pid; an unfreeze – of a uid, of a list of pids, or
of all subscribers – submits a task for every event it finds under its keys.

The state is the subscriber manager with its two buffers, the two serial
queues of tasks, and the unfreezing calls in progress. A step is one critical
section of the code: the look at the freeze flag and the insertions into the
two buffers are three steps, and the release of the subscribers and the
reading of a buffer are two. An ordered event that meets a frozen receiver is
kept in the same way, by the ordered queue, which is a third thread here.

What is kept is numbered, and three logs that no step reads go by these
numbers: the tasks that unfreezes have submitted, what was kept for whom, and
what was let go of when the time of a kept event was over. An event is kept
for its subscriber also when the subscriber has unsubscribed meanwhile; a
removal takes out of the log what it has taken out of both buffers.
-/

namespace CommonEventService

/-- How a subscriber was released. -/
inductive UnfreezeKind where
  | uid
  | pid
  | all
  deriving DecidableEq, Repr

/-- The two insertions that keep an event for a frozen subscriber: the second
is next once the first has given the keeping its number. -/
structure FrozenInsertion (δ π : Type) where
  eventRecord : CommonEventRecord δ π
  subscriber : SubscriberRecordPtr
  buffering : Option ℕ := none

/-- A task of `unorderedQueue_` or `unorderedImmediateQueue_`, by what it does
next. -/
inductive UnorderedTask (δ π : Type) where
  /-- `NotifyUnorderedEvent`, with the receivers that are left. -/
  | notifyUnorderedEvent (record : ℕ) (eventRecord : CommonEventRecord δ π)
      (receivers : List SubscriberRecordPtr)
  /-- The same, in `HandleFrozenUnorderedSubscriber`. -/
  | handleFrozenUnorderedSubscriber (record : ℕ) (insertion : FrozenInsertion δ π)
      (receivers : List SubscriberRecordPtr)
  | notifyFreezeEvents (subscriberRecord : EventSubscriberRecord)
      (eventRecord : CommonEventRecord (Buffered δ) π)

/-- An unfreezing call in progress, by what it does next. -/
inductive UnfreezeCall where
  /-- `PublishFreezeCommonEvent`, of a uid. -/
  | getFrozenEvents (uid : Uid)
  /-- `PublishFreezeCommonEvent`, of the pids that are left. -/
  | getFrozenEventsMapByPid (pidList : List Pid)
  /-- `PublishAllFreezeCommonEvents`. -/
  | getAllFrozenEvents
  | getAllFrozenEventsMap
  deriving DecidableEq, Repr

/-- **The state of unordered delivery.** -/
structure UnorderedDelivery (δ π : Type) where
  manager : SubscriberManager (Buffered δ) π := {}
  unorderedEventQueue : List ℕ := []
  unorderedQueue : List (UnorderedTask δ π) := []
  unorderedImmediateQueue : List (UnorderedTask δ π) := []
  nextRecord : ℕ := 0
  /-- `NotifyFrozenSubscriber`, where the ordered queue is in it. -/
  ordered : Option (FrozenInsertion δ π) := none
  calls : List UnfreezeCall := []
  nextBuffering : ℕ := 0
  /-- The `NotifyFreezeEvents` tasks submitted, by the kind of the unfreeze
  and the number of the keeping. -/
  submitted : List (UnfreezeKind × ℕ) := []
  /-- What was kept for a listener, but for what its removal has taken out. -/
  buffered : List (Remote × ℕ) := []
  /-- What went by the rule of `FREEZE_EVENT_TIMEOUT`. -/
  dropped : List ℕ := []

/-- `FillCommonEventRecord`: the flag for system events is not copied. -/
def CommonEventRecord.fillCommonEventRecord {δ π : Type} (record : CommonEventRecord δ π) :
    CommonEventRecord δ π :=
  { record with isSystemEvent := false }

/-- What is put into the buffers: a copy of the record, numbered. -/
def CommonEventRecord.buffered {δ π : Type} (record : CommonEventRecord δ π)
    (buffering : ℕ) : CommonEventRecord (Buffered δ) π :=
  { record with commonEventData := ⟨record.commonEventData, buffering⟩ }

namespace SubscriberManager

variable {δ π : Type} (m : SubscriberManager δ π)

/-- The loop of the three `UpdateFreezeInfo`s, over the records they
choose. -/
def updateFreezeInfo (chosen : EventSubscriberRecord → Bool) (freezeState : Bool)
    (freezeTime : Int) : SubscriberManager δ π :=
  { m with
    heap := fun r =>
      if r ∈ m.subscribers ∧ chosen (m.heap r) then
        { m.heap r with
          freezeTime := if freezeState then freezeTime else 0
          isFreeze := freezeState }
      else m.heap r }

/-- `UpdateFreezeInfo`, of a uid. -/
def updateFreezeInfoByUid (uid : Uid) (freezeState : Bool) (freezeTime : Int) :
    SubscriberManager δ π :=
  m.updateFreezeInfo (fun record => record.eventRecordInfo.uid = uid) freezeState freezeTime

/-- `UpdateFreezeInfo`, of a list of pids. -/
def updateFreezeInfoByPids (pidList : List Pid) (freezeState : Bool) (freezeTime : Int) :
    SubscriberManager δ π :=
  m.updateFreezeInfo (fun record => pidList.contains record.eventRecordInfo.pid)
    freezeState freezeTime

/-- `UpdateAllFreezeInfos`. -/
def updateAllFreezeInfos (freezeState : Bool) (freezeTime : Int) : SubscriberManager δ π :=
  m.updateFreezeInfo (fun _ => true) freezeState freezeTime

/-- `InsertFrozenEvents`. -/
def insertFrozenEvents (subscriber : SubscriberRecordPtr) (record : CommonEventRecord δ π) :
    SubscriberManager δ π :=
  { m with
    frozenEvents := m.frozenEvents.insert (m.heap subscriber).eventRecordInfo.uid
      (m.heap subscriber) record }

/-- `InsertFrozenEventsMap`. -/
def insertFrozenEventsMap (subscriber : SubscriberRecordPtr)
    (record : CommonEventRecord δ π) : SubscriberManager δ π :=
  { m with
    frozenEventsMap := m.frozenEventsMap.insert (m.heap subscriber).eventRecordInfo.pid
      (m.heap subscriber) record }

/-- `GetFrozenEvents`, which removes what it returns. -/
def getFrozenEvents (uid : Uid) : FrozenRecords δ π × SubscriberManager δ π :=
  (m.frozenEvents.get uid, { m with frozenEvents := m.frozenEvents.remove uid })

/-- `GetFrozenEventsMapByPid`, which removes what it returns. -/
def getFrozenEventsMapByPid (pid : Pid) : FrozenRecords δ π × SubscriberManager δ π :=
  (m.frozenEventsMap.get pid, { m with frozenEventsMap := m.frozenEventsMap.remove pid })

/-- `GetAllFrozenEvents`, which removes nothing. -/
def getAllFrozenEvents : FrozenBuffer Uid δ π := m.frozenEvents

/-- `GetAllFrozenEventsMap`, which removes nothing. -/
def getAllFrozenEventsMap : FrozenBuffer Pid δ π := m.frozenEventsMap

/-! ## The operations that leave the buffers -/

theorem frozen_insertSubscriberRecordLocked (S : StdSort) (maxSubscriberNum : ℕ)
    (events : List String) (record : SubscriberRecordPtr) :
    (m.insertSubscriberRecordLocked S maxSubscriberNum events record).2.frozenEvents
        = m.frozenEvents
      ∧ (m.insertSubscriberRecordLocked S maxSubscriberNum events record).2.frozenEventsMap
        = m.frozenEventsMap := by
  unfold insertSubscriberRecordLocked
  dsimp only
  split
  · exact ⟨rfl, rfl⟩
  · split
    · split <;> exact ⟨rfl, rfl⟩
    · exact ⟨rfl, rfl⟩

/-- A subscription leaves the buffers. -/
theorem frozen_insertSubscriber (S : StdSort) (maxSubscriberNum : ℕ)
    (info : Option CommonEventSubscribeInfo) (listener : Option Remote)
    (recordInfo : EventRecordInfo) :
    (m.insertSubscriber S maxSubscriberNum info listener recordInfo).2.frozenEvents
        = m.frozenEvents
      ∧ (m.insertSubscriber S maxSubscriberNum info listener recordInfo).2.frozenEventsMap
        = m.frozenEventsMap := by
  unfold insertSubscriber
  split
  next info listener =>
    dsimp only
    split
    · exact ⟨rfl, rfl⟩
    · split
      · exact ⟨rfl, rfl⟩
      · -- the record that was made is inserted or not
        generalize hmade : ({ m with
          nextAddr := m.nextAddr + 1
          heap := Function.update m.heap m.nextAddr
            { eventSubscribeInfo := info
              commonEventListener := listener
              eventRecordInfo := recordInfo } } : SubscriberManager δ π) = made
        have hlocked := made.frozen_insertSubscriberRecordLocked S maxSubscriberNum
          info.getEvents m.nextAddr
        have hsame : made.frozenEvents = m.frozenEvents
            ∧ made.frozenEventsMap = m.frozenEventsMap := by
          rw [← hmade]
          exact ⟨rfl, rfl⟩
        split
        all_goals
          next heq =>
            rw [heq] at hlocked
            exact ⟨hlocked.1.trans hsame.1, hlocked.2.trans hsame.2⟩
  next => exact ⟨rfl, rfl⟩

/-- The compaction leaves the buffers. -/
theorem frozen_compactSubscriberDataStructures :
    m.compactSubscriberDataStructures.frozenEvents = m.frozenEvents
      ∧ m.compactSubscriberDataStructures.frozenEventsMap = m.frozenEventsMap := by
  unfold compactSubscriberDataStructures
  have hfold : ∀ (subscribers : List SubscriberRecordPtr) (acc : SubscriberManager δ π),
      (subscribers.foldl compactSubscriber acc).frozenEvents = acc.frozenEvents
        ∧ (subscribers.foldl compactSubscriber acc).frozenEventsMap = acc.frozenEventsMap := by
    intro subscribers
    induction subscribers with
    | nil => exact fun _ => ⟨rfl, rfl⟩
    | cons first rest ih => exact fun acc => ih (acc.compactSubscriber first)
  exact hfold m.subscribers _

/-- A subscriber that goes takes its events out of the buffers, at most. -/
theorem frozen_removeSubscriber (commonEventListener : Option Remote) :
    (m.removeSubscriber commonEventListener).frozenEvents.events.Subperm m.frozenEvents.events
      ∧ (m.removeSubscriber commonEventListener).frozenEventsMap.events.Subperm
        m.frozenEventsMap.events := by
  unfold removeSubscriber
  split
  · exact ⟨List.Subperm.refl _, List.Subperm.refl _⟩
  · unfold removeSubscriberRecordLocked
    split
    · exact ⟨FrozenBuffer.events_removeBySubscriber _ _ _,
        FrozenBuffer.events_removeBySubscriber _ _ _⟩
    · exact ⟨List.Subperm.refl _, List.Subperm.refl _⟩

/-- Looking up the receivers of an event leaves the buffers. -/
theorem frozen_getSubscriberRecords (P : Platform) (event : EventRecord) :
    (m.getSubscriberRecords P event).2.frozenEvents = m.frozenEvents
      ∧ (m.getSubscriberRecords P event).2.frozenEventsMap = m.frozenEventsMap := by
  unfold getSubscriberRecords
  dsimp only
  split
  · exact m.frozen_compactSubscriberDataStructures
  · exact ⟨rfl, rfl⟩

end SubscriberManager

namespace UnorderedDelivery

variable {δ π : Type} (P : Platform) (S : StdSort) (s : UnorderedDelivery δ π)

/-- `ProcessUnorderedEvent`: the receivers are the one subscriber given, or
those the manager selects; `view` is what the record's pointers point to. -/
def processUnorderedEvent (eventRecord : CommonEventRecord δ π) (view : EventRecord)
    (subscriberRecord : Option SubscriberRecordPtr) : UnorderedDelivery δ π :=
  let (receivers, manager) :=
    match subscriberRecord with
    | some subscriberRecord => ([subscriberRecord], s.manager)
    | none => s.manager.getSubscriberRecords P view
  let task := .notifyUnorderedEvent s.nextRecord eventRecord.fillCommonEventRecord receivers
  { s with
    manager := manager
    unorderedEventQueue := s.unorderedEventQueue ++ [s.nextRecord]
    unorderedQueue :=
      if eventRecord.isSystemEvent then s.unorderedQueue else s.unorderedQueue ++ [task]
    unorderedImmediateQueue :=
      if eventRecord.isSystemEvent then s.unorderedImmediateQueue ++ [task]
      else s.unorderedImmediateQueue
    nextRecord := s.nextRecord + 1 }

/-- `PublishFrozenEventsInner`. -/
def publishFrozenEventsInner (kind : UnfreezeKind)
    (frozenRecords : FrozenRecords (Buffered δ) π) : UnorderedDelivery δ π :=
  { s with
    unorderedImmediateQueue := s.unorderedImmediateQueue
      ++ (frozenTasks frozenRecords).map (fun task => .notifyFreezeEvents task.1 task.2)
    submitted := s.submitted
      ++ (frozenTasks frozenRecords).map (fun task => (kind, task.2.commonEventData.buffering)) }

/-- The loop of `PublishAllFreezeCommonEvents` over a buffer. -/
def publishAllFrozenEvents {κ : Type} (buffer : FrozenBuffer κ (Buffered δ) π) :
    UnorderedDelivery δ π :=
  buffer.entries.foldl (fun s entry => s.publishFrozenEventsInner .all entry.2) s

/-! ## The steps -/

/-- `RemoveSubscriber`. What was kept for the subscriber and lies in neither
buffer any more has gone with it. -/
def removeSubscriber (commonEventListener : Option Remote) : UnorderedDelivery δ π :=
  let manager := s.manager.removeSubscriber commonEventListener
  { s with
    manager := manager
    buffered := s.buffered.filter (fun kept => some kept.1 ≠ commonEventListener
      ∨ kept.2 ∈ FrozenBuffer.bufferings manager.frozenEvents.events
      ∨ kept.2 ∈ FrozenBuffer.bufferings manager.frozenEventsMap.events) }

/-- The next of the two insertions, and what is left of them. The second is
logged too: a removal in between takes the first out again. -/
def stepInsertion (insertion : FrozenInsertion δ π) :
    UnorderedDelivery δ π × Option (FrozenInsertion δ π) :=
  let vec := s.manager.heap insertion.subscriber
  let l := vec.commonEventListener
  match insertion.buffering with
  | none =>
    let record := insertion.eventRecord.buffered s.nextBuffering
    ({ s with
      manager := s.manager.insertFrozenEvents insertion.subscriber record
      nextBuffering := s.nextBuffering + 1
      buffered := s.buffered.insert (l, s.nextBuffering)
      dropped := s.dropped ++ FrozenBuffer.bufferings
        (FrozenBuffer.expired (s.manager.frozenEvents.keptFor vec.eventRecordInfo.uid l) record) },
      some { insertion with buffering := some s.nextBuffering })
  | some buffering =>
    let record := insertion.eventRecord.buffered buffering
    ({ s with
      manager := s.manager.insertFrozenEventsMap insertion.subscriber record
      buffered := s.buffered.insert (l, buffering)
      dropped := s.dropped ++ FrozenBuffer.bufferings
        (FrozenBuffer.expired (s.manager.frozenEventsMap.keptFor vec.eventRecordInfo.pid l)
          record) },
      none)

/-- The next step of a task, and what is left of it. -/
def stepTask : UnorderedTask δ π → UnorderedDelivery δ π × Option (UnorderedTask δ π)
  | .notifyUnorderedEvent record _ [] =>
    ({ s with unorderedEventQueue := s.unorderedEventQueue.erase record }, none)
  | .notifyUnorderedEvent record eventRecord (vec :: receivers) =>
    if (s.manager.heap vec).isFreeze then
      (s, some (.handleFrozenUnorderedSubscriber record ⟨eventRecord, vec, none⟩ receivers))
    else (s, some (.notifyUnorderedEvent record eventRecord receivers))
  | .handleFrozenUnorderedSubscriber record insertion receivers =>
    let (s, next) := s.stepInsertion insertion
    (s, some (match next with
      | some insertion => .handleFrozenUnorderedSubscriber record insertion receivers
      | none => .notifyUnorderedEvent record insertion.eventRecord receivers))
  | .notifyFreezeEvents _ _ => (s, none)

/-- `NotifyOrderedEvent` looks whether the receiver is frozen. -/
def notifyOrderedEvent (eventRecord : CommonEventRecord δ π)
    (subscriber : SubscriberRecordPtr) : UnorderedDelivery δ π :=
  { s with
    ordered :=
      if (s.manager.heap subscriber).isFreeze then some ⟨eventRecord, subscriber, none⟩
      else none }

/-- The next step of an unfreezing call. -/
def stepCall (i : ℕ) : UnfreezeCall → UnorderedDelivery δ π
  | .getFrozenEvents uid =>
    let (frozenRecords, manager) := s.manager.getFrozenEvents uid
    { s with manager := manager, calls := s.calls.eraseIdx i }.publishFrozenEventsInner
      .uid frozenRecords
  | .getFrozenEventsMapByPid [] => { s with calls := s.calls.eraseIdx i }
  | .getFrozenEventsMapByPid (pid :: pidList) =>
    let (frozenRecords, manager) := s.manager.getFrozenEventsMapByPid pid
    { s with
      manager := manager
      calls := s.calls.set i (.getFrozenEventsMapByPid pidList) }.publishFrozenEventsInner
      .pid frozenRecords
  | .getAllFrozenEvents =>
    { s with calls := s.calls.set i .getAllFrozenEventsMap }.publishAllFrozenEvents
      s.manager.getAllFrozenEvents
  | .getAllFrozenEventsMap =>
    { s with calls := s.calls.eraseIdx i }.publishAllFrozenEvents
      s.manager.getAllFrozenEventsMap

/-- `InnerCommonEventManager::Unfreeze`, up to the reading of the buffer. -/
def unfreeze (uid : Uid) : UnorderedDelivery δ π :=
  { s with
    manager := s.manager.updateFreezeInfoByUid uid false 0
    calls := s.calls ++ [.getFrozenEvents uid] }

/-- `InnerCommonEventManager::SetFreezeStatus`, up to the reading of the
buffer. -/
def setFreezeStatus (pidList : List Pid) (isFreeze : Bool) (now : Int) :
    UnorderedDelivery δ π :=
  { s with
    manager := s.manager.updateFreezeInfoByPids pidList isFreeze now
    calls := if isFreeze then s.calls else s.calls ++ [.getFrozenEventsMapByPid pidList] }

/-- `InnerCommonEventManager::UnfreezeAll`, up to the reading of the first
buffer. -/
def unfreezeAll : UnorderedDelivery δ π :=
  { s with
    manager := s.manager.updateAllFreezeInfos false 0
    calls := s.calls ++ [.getAllFrozenEvents] }

end UnorderedDelivery

/-- **The labels of unordered delivery.** -/
inductive DeliveryLabel (δ π : Type) where
  | insertSubscriber (maxSubscriberNum : ℕ)
      (eventSubscribeInfo : Option CommonEventSubscribeInfo)
      (commonEventListener : Option Remote) (eventRecordInfo : EventRecordInfo)
  | removeSubscriber (commonEventListener : Option Remote)
  /-- An ordered publish looks up its receivers. -/
  | getSubscriberRecords (view : EventRecord)
  | processUnorderedEvent (eventRecord : CommonEventRecord δ π) (view : EventRecord)
      (subscriberRecord : Option SubscriberRecordPtr)
  /-- The next step of the first task of `unorderedQueue_`. -/
  | unordered
  /-- The next step of the first task of `unorderedImmediateQueue_`. -/
  | unorderedImmediate
  /-- The ordered queue comes to a receiver. -/
  | notifyOrderedEvent (eventRecord : CommonEventRecord δ π)
      (subscriber : SubscriberRecordPtr)
  /-- The next insertion of `NotifyFrozenSubscriber`. -/
  | notifyFrozenSubscriber
  | freeze (uid : Uid) (now : Int)
  | unfreeze (uid : Uid)
  | setFreezeStatus (pidList : List Pid) (isFreeze : Bool) (now : Int)
  | unfreezeAll
  /-- The next step of an unfreezing call in progress. -/
  | call (i : ℕ)

namespace UnorderedDelivery

variable {δ π : Type} (P : Platform) (S : StdSort) (s : UnorderedDelivery δ π)

/-- **One step of unordered delivery.** A record that is handed over has been
made. -/
def step : DeliveryLabel δ π → Option (UnorderedDelivery δ π)
  | .insertSubscriber maxSubscriberNum info listener recordInfo =>
    some { s with
      manager := (s.manager.insertSubscriber S maxSubscriberNum info listener recordInfo).2 }
  | .removeSubscriber listener => some (s.removeSubscriber listener)
  | .getSubscriberRecords view =>
    some { s with manager := (s.manager.getSubscriberRecords P view).2 }
  | .processUnorderedEvent eventRecord view subscriberRecord =>
    if ∀ r ∈ subscriberRecord, r < s.manager.nextAddr then
      some (s.processUnorderedEvent P eventRecord view subscriberRecord)
    else none
  | .unordered =>
    match s.unorderedQueue with
    | [] => none
    | task :: rest =>
      let (s, task) := s.stepTask task
      some { s with unorderedQueue := task.toList ++ rest }
  | .unorderedImmediate =>
    match s.unorderedImmediateQueue with
    | [] => none
    | task :: rest =>
      let (s, task) := s.stepTask task
      some { s with unorderedImmediateQueue := task.toList ++ rest }
  | .notifyOrderedEvent eventRecord subscriber =>
    match s.ordered with
    | none =>
      if subscriber < s.manager.nextAddr then some (s.notifyOrderedEvent eventRecord subscriber)
      else none
    | some _ => none
  | .notifyFrozenSubscriber =>
    match s.ordered with
    | none => none
    | some insertion =>
      let (s, insertion) := s.stepInsertion insertion
      some { s with ordered := insertion }
  | .freeze uid now => some { s with manager := s.manager.updateFreezeInfoByUid uid true now }
  | .unfreeze uid => some (s.unfreeze uid)
  | .setFreezeStatus pidList isFreeze now => some (s.setFreezeStatus pidList isFreeze now)
  | .unfreezeAll => some s.unfreezeAll
  | .call i => s.calls[i]?.map (s.stepCall i)

variable {P S s} {t : UnorderedDelivery δ π}

/-! ### What the steps of the three threads are -/

theorem step_processUnorderedEvent (eventRecord : CommonEventRecord δ π) (view : EventRecord)
    {subscriberRecord : Option SubscriberRecordPtr}
    (halloc : ∀ r ∈ subscriberRecord, r < s.manager.nextAddr) :
    s.step P S (.processUnorderedEvent eventRecord view subscriberRecord)
      = some (s.processUnorderedEvent P eventRecord view subscriberRecord) :=
  if_pos halloc

theorem processUnorderedEvent_cases {eventRecord : CommonEventRecord δ π} {view : EventRecord}
    {subscriberRecord : Option SubscriberRecordPtr}
    (hstep : s.step P S (.processUnorderedEvent eventRecord view subscriberRecord) = some t) :
    (∀ r ∈ subscriberRecord, r < s.manager.nextAddr)
      ∧ t = s.processUnorderedEvent P eventRecord view subscriberRecord := by
  unfold step at hstep
  dsimp only at hstep
  split at hstep
  next halloc =>
    cases hstep
    exact ⟨halloc, rfl⟩
  next => cases hstep

theorem unordered_cases (hstep : s.step P S .unordered = some t) :
    ∃ task rest, s.unorderedQueue = task :: rest
      ∧ t = { (s.stepTask task).1 with unorderedQueue := (s.stepTask task).2.toList ++ rest } := by
  unfold step at hstep
  dsimp only at hstep
  split at hstep
  next => cases hstep
  next task rest hqueue =>
    cases hstep
    exact ⟨task, rest, hqueue, rfl⟩

theorem unorderedImmediate_cases (hstep : s.step P S .unorderedImmediate = some t) :
    ∃ task rest, s.unorderedImmediateQueue = task :: rest
      ∧ t = { (s.stepTask task).1 with
        unorderedImmediateQueue := (s.stepTask task).2.toList ++ rest } := by
  unfold step at hstep
  dsimp only at hstep
  split at hstep
  next => cases hstep
  next task rest hqueue =>
    cases hstep
    exact ⟨task, rest, hqueue, rfl⟩

theorem notifyOrderedEvent_cases {eventRecord : CommonEventRecord δ π}
    {subscriber : SubscriberRecordPtr}
    (hstep : s.step P S (.notifyOrderedEvent eventRecord subscriber) = some t) :
    s.ordered = none ∧ subscriber < s.manager.nextAddr
      ∧ t = s.notifyOrderedEvent eventRecord subscriber := by
  unfold step at hstep
  dsimp only at hstep
  split at hstep
  next hordered =>
    split at hstep
    next halloc =>
      cases hstep
      exact ⟨hordered, halloc, rfl⟩
    next => cases hstep
  next => cases hstep

theorem notifyFrozenSubscriber_cases (hstep : s.step P S .notifyFrozenSubscriber = some t) :
    ∃ insertion, s.ordered = some insertion
      ∧ t = { (s.stepInsertion insertion).1 with ordered := (s.stepInsertion insertion).2 } := by
  unfold step at hstep
  dsimp only at hstep
  split at hstep
  next => cases hstep
  next insertion hordered =>
    cases hstep
    exact ⟨insertion, hordered, rfl⟩

/-! ### What a task leaves to the queue -/

/-- An insertion submits nothing for an unfreeze, and leaves the tasks. -/
theorem stepInsertion_frame (insertion : FrozenInsertion δ π) :
    (s.stepInsertion insertion).1.unorderedQueue = s.unorderedQueue
      ∧ (s.stepInsertion insertion).1.unorderedImmediateQueue = s.unorderedImmediateQueue
      ∧ (s.stepInsertion insertion).1.ordered = s.ordered
      ∧ (s.stepInsertion insertion).1.submitted = s.submitted := by
  unfold stepInsertion
  dsimp only
  split <;> exact ⟨rfl, rfl, rfl, rfl⟩

/-- A task submits nothing for an unfreeze, and leaves the queues to the
caller. -/
theorem stepTask_frame (task : UnorderedTask δ π) :
    (s.stepTask task).1.unorderedQueue = s.unorderedQueue
      ∧ (s.stepTask task).1.unorderedImmediateQueue = s.unorderedImmediateQueue
      ∧ (s.stepTask task).1.ordered = s.ordered
      ∧ (s.stepTask task).1.submitted = s.submitted := by
  cases task with
  | notifyUnorderedEvent record eventRecord receivers =>
    cases receivers with
    | nil => exact ⟨rfl, rfl, rfl, rfl⟩
    | cons vec receivers =>
      rw [stepTask]
      split <;> exact ⟨rfl, rfl, rfl, rfl⟩
  | handleFrozenUnorderedSubscriber record insertion receivers =>
    exact stepInsertion_frame insertion
  | notifyFreezeEvents subscriberRecord eventRecord => exact ⟨rfl, rfl, rfl, rfl⟩

/-! ### The insertion of a step -/

/-- The insertion that a task makes next. -/
def taskInsertion : UnorderedTask δ π → Option (FrozenInsertion δ π)
  | .handleFrozenUnorderedSubscriber _ insertion _ => some insertion
  | _ => none

/-- The insertion that comes next, where a step makes one. -/
def insertionOf (s : UnorderedDelivery δ π) : DeliveryLabel δ π → Option (FrozenInsertion δ π)
  | .unordered =>
    match s.unorderedQueue with
    | .handleFrozenUnorderedSubscriber _ insertion _ :: _ => some insertion
    | _ => none
  | .unorderedImmediate =>
    match s.unorderedImmediateQueue with
    | .handleFrozenUnorderedSubscriber _ insertion _ :: _ => some insertion
    | _ => none
  | .notifyFrozenSubscriber => s.ordered
  | _ => none

theorem insertionOf_unordered {task : UnorderedTask δ π} {rest : List (UnorderedTask δ π)}
    (hqueue : s.unorderedQueue = task :: rest) :
    s.insertionOf .unordered = taskInsertion task := by
  unfold insertionOf
  rw [hqueue]
  cases task <;> rfl

theorem insertionOf_unorderedImmediate {task : UnorderedTask δ π}
    {rest : List (UnorderedTask δ π)} (hqueue : s.unorderedImmediateQueue = task :: rest) :
    s.insertionOf .unorderedImmediate = taskInsertion task := by
  unfold insertionOf
  rw [hqueue]
  cases task <;> rfl

theorem stepTask_quiet {task : UnorderedTask δ π} (h : taskInsertion task = none) :
    ∃ unorderedEventQueue,
      (s.stepTask task).1 = { s with unorderedEventQueue := unorderedEventQueue } := by
  cases task with
  | notifyUnorderedEvent record eventRecord receivers =>
    cases receivers with
    | nil => exact ⟨_, rfl⟩
    | cons vec receivers =>
      rw [stepTask]
      split <;> exact ⟨_, rfl⟩
  | handleFrozenUnorderedSubscriber record insertion receivers => cases h
  | notifyFreezeEvents subscriberRecord eventRecord => exact ⟨_, rfl⟩

/-- **A step with an insertion** is that insertion, as far as the manager, the
calls and the logs go. -/
theorem insertion_cases {l : DeliveryLabel δ π} {insertion : FrozenInsertion δ π}
    (hstep : s.step P S l = some t) (hinsertion : s.insertionOf l = some insertion) :
    ∃ unorderedQueue unorderedImmediateQueue ordered,
      t = { (s.stepInsertion insertion).1 with
        unorderedQueue := unorderedQueue
        unorderedImmediateQueue := unorderedImmediateQueue
        ordered := ordered } := by
  cases l with
  | unordered =>
    obtain ⟨task, rest, hqueue, rfl⟩ := unordered_cases hstep
    rw [insertionOf_unordered hqueue] at hinsertion
    cases task with
    | handleFrozenUnorderedSubscriber record insertion' receivers =>
      cases hinsertion
      exact ⟨_, _, _, rfl⟩
    | _ => cases hinsertion
  | unorderedImmediate =>
    obtain ⟨task, rest, hqueue, rfl⟩ := unorderedImmediate_cases hstep
    rw [insertionOf_unorderedImmediate hqueue] at hinsertion
    cases task with
    | handleFrozenUnorderedSubscriber record insertion' receivers =>
      cases hinsertion
      exact ⟨_, _, _, rfl⟩
    | _ => cases hinsertion
  | notifyFrozenSubscriber =>
    obtain ⟨insertion', hordered, rfl⟩ := notifyFrozenSubscriber_cases hstep
    obtain rfl := Option.some.inj (hordered.symm.trans hinsertion)
    exact ⟨_, _, _, rfl⟩
  | _ => cases hinsertion

end UnorderedDelivery

/-- **Unordered delivery as a machine.** -/
def deliveryMachine (P : Platform) (S : StdSort) (δ π : Type) :
    Machine (UnorderedDelivery δ π) (DeliveryLabel δ π) where
  init := {}
  step := UnorderedDelivery.step P S

theorem UnorderedDelivery.reachable_processUnorderedEvent {P : Platform} {S : StdSort}
    {δ π : Type} {s : UnorderedDelivery δ π} (hs : (deliveryMachine P S δ π).Reachable s)
    (eventRecord : CommonEventRecord δ π) (view : EventRecord)
    (subscriberRecord : Option SubscriberRecordPtr)
    (halloc : ∀ r ∈ subscriberRecord, r < s.manager.nextAddr) :
    (deliveryMachine P S δ π).Reachable
      (s.processUnorderedEvent P eventRecord view subscriberRecord) :=
  hs.step (l := .processUnorderedEvent eventRecord view subscriberRecord)
    (step_processUnorderedEvent (P := P) (S := S) eventRecord view halloc)

end CommonEventService

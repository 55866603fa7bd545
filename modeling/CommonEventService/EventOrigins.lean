import CommonEventService.CallsInOrder
import CommonEventService.SharedCells

/-!
# Where events come from

The record of an event is made by a publish and handed around from then on:
to the ordered queue, to the tasks of unordered delivery, into the two buffers
of the frozen and back out of them, into the sticky store and out of it to
those that subscribe later. It is copied on the way, and one flag is lost, but
who published it, for which user, and the cell of its data stay what they
were; and the want in that cell is not written again.

So each event that is anywhere in the service was published, by a call that
passed the checks; and, as calls reach the service through the front alone,
by the caller that its record names.
-/

namespace CommonEventService

/-- A record that was kept, as it was before. -/
def CommonEventRecord.unbuffered {δ π : Type} (record : CommonEventRecord (Buffered δ) π) :
    CommonEventRecord δ π :=
  { record with
    isSystemEvent := false
    commonEventData := record.commonEventData.commonEventData }

namespace UnorderedTask

variable {δ π : Type}

/-- The event a task is about, as it was published but for the flag. -/
def event : UnorderedTask δ π → CommonEventRecord δ π
  | .notifyUnorderedEvent _ eventRecord _ => eventRecord.fillCommonEventRecord
  | .handleFrozenUnorderedSubscriber _ insertion _ =>
    insertion.eventRecord.fillCommonEventRecord
  | .notifyFreezeEvents _ eventRecord => eventRecord.unbuffered

end UnorderedTask

namespace SubscriberManager

variable {δ π : Type}

/-- The events in the two buffers. -/
def keptRecords (m : SubscriberManager (Buffered δ) π) : List (CommonEventRecord δ π) :=
  (m.frozenEvents.events ++ m.frozenEventsMap.events).map CommonEventRecord.unbuffered

theorem keptRecords_subset {m m' : SubscriberManager (Buffered δ) π}
    (huid : m'.frozenEvents.events ⊆ m.frozenEvents.events)
    (hpid : m'.frozenEventsMap.events ⊆ m.frozenEventsMap.events) :
    m'.keptRecords ⊆ m.keptRecords :=
  List.map_subset _ (List.append_subset.mpr
    ⟨List.Subset.trans huid (List.subset_append_left _ _),
      List.Subset.trans hpid (List.subset_append_right _ _)⟩)

theorem keptRecords_congr {m m' : SubscriberManager (Buffered δ) π}
    (huid : m'.frozenEvents = m.frozenEvents) (hpid : m'.frozenEventsMap = m.frozenEventsMap) :
    m'.keptRecords = m.keptRecords := by
  unfold keptRecords
  rw [huid, hpid]

end SubscriberManager

namespace UnorderedDelivery

variable {δ π : Type} {P : Platform} {S : StdSort} {s t : UnorderedDelivery δ π}

/-- **The events in unordered delivery**: in the buffers, in the tasks, and in
the hands of the ordered queue. -/
def events (s : UnorderedDelivery δ π) : List (CommonEventRecord δ π) :=
  s.manager.keptRecords ++ (s.unorderedQueue ++ s.unorderedImmediateQueue).map UnorderedTask.event
    ++ s.ordered.toList.map (fun insertion => insertion.eventRecord.fillCommonEventRecord)

/-- The event that a step brings in. -/
def bringsIn : DeliveryLabel δ π → List (CommonEventRecord δ π)
  | .processUnorderedEvent eventRecord _ _ => [eventRecord.fillCommonEventRecord]
  | .notifyOrderedEvent eventRecord _ => [eventRecord.fillCommonEventRecord]
  | _ => []

theorem mem_events_of_kept {record : CommonEventRecord (Buffered δ) π}
    (h : record ∈ s.manager.frozenEvents.events ++ s.manager.frozenEventsMap.events) :
    record.unbuffered ∈ s.events :=
  List.mem_append_left _ (List.mem_append_left _ (List.mem_map_of_mem h))

/-- The subscriber manager may let go of events. -/
theorem events_manager {m : SubscriberManager (Buffered δ) π}
    (h : m.keptRecords ⊆ s.manager.keptRecords) (buffered : List (Remote × ℕ))
    (calls : List UnfreezeCall) :
    ({ s with
      manager := m
      buffered := buffered
      calls := calls } : UnorderedDelivery δ π).events ⊆ s.events :=
  List.append_subset.mpr
    ⟨List.append_subset.mpr
      ⟨List.Subset.trans h (List.Subset.trans (List.subset_append_left _ _)
        (List.subset_append_left _ _)),
        List.Subset.trans (List.subset_append_right _ _) (List.subset_append_left _ _)⟩,
      List.subset_append_right _ _⟩

/-- What `PublishFrozenEventsInner` submits was found. -/
theorem events_publishFrozenEventsInner (kind : UnfreezeKind)
    (frozenRecords : FrozenRecords (Buffered δ) π) :
    (s.publishFrozenEventsInner kind frozenRecords).events
      ⊆ s.events ++ (frozenRecordEvents frozenRecords).map CommonEventRecord.unbuffered := by
  intro event hevent
  simp only [events, publishFrozenEventsInner, List.map_append, List.map_map, List.mem_append]
    at hevent ⊢
  have hfound : ∀ {event : CommonEventRecord δ π},
      event ∈ (frozenTasks frozenRecords).map (UnorderedTask.event ∘ fun task =>
        .notifyFreezeEvents task.1 task.2) →
      event ∈ (frozenRecordEvents frozenRecords).map CommonEventRecord.unbuffered := by
    intro event hevent
    obtain ⟨task, htask, rfl⟩ := List.mem_map.mp hevent
    rw [← frozenTasks_map_snd, List.map_map]
    exact List.mem_map_of_mem htask
  tauto

theorem events_publishAllFrozenEvents {κ : Type} [DecidableEq κ]
    (buffer : FrozenBuffer κ (Buffered δ) π) :
    (s.publishAllFrozenEvents buffer).events
      ⊆ s.events ++ buffer.events.map CommonEventRecord.unbuffered := by
  unfold publishAllFrozenEvents FrozenBuffer.events Dict.flatMap
  generalize buffer.entries = entries
  induction entries generalizing s with
  | nil => exact List.subset_append_left _ _
  | cons entry entries ih =>
    rw [List.foldl_cons, List.flatMap_cons, List.map_append]
    refine List.Subset.trans ih (List.append_subset.mpr ⟨?_, ?_⟩)
    · refine List.Subset.trans (events_publishFrozenEventsInner .all entry.2) ?_
      rw [← List.append_assoc]
      exact List.subset_append_left _ _
    · rw [← List.append_assoc]
      exact List.subset_append_right _ _

/-- An unfreezing call hands on what it finds. -/
theorem events_stepCall (i : ℕ) (call : UnfreezeCall) : (s.stepCall i call).events ⊆ s.events := by
  cases call with
  | getFrozenEvents uid =>
    refine List.Subset.trans (events_publishFrozenEventsInner .uid _) (List.append_subset.mpr
      ⟨events_manager (s := s) (m := (s.manager.getFrozenEvents uid).2)
        (SubscriberManager.keptRecords_subset (events_remove_subset _ uid) (List.Subset.refl _))
        s.buffered (s.calls.eraseIdx i), ?_⟩)
    intro event hevent
    obtain ⟨record, hrecord, rfl⟩ := List.mem_map.mp hevent
    exact mem_events_of_kept (List.mem_append_left _ (events_get_subset _ uid hrecord))
  | getFrozenEventsMapByPid pidList =>
    cases pidList with
    | nil =>
      exact events_manager (s := s) (List.Subset.refl s.manager.keptRecords) s.buffered
        (s.calls.eraseIdx i)
    | cons pid pidList =>
      refine List.Subset.trans (events_publishFrozenEventsInner .pid _) (List.append_subset.mpr
        ⟨events_manager (s := s) (m := (s.manager.getFrozenEventsMapByPid pid).2)
          (SubscriberManager.keptRecords_subset (List.Subset.refl _) (events_remove_subset _ pid))
          s.buffered (s.calls.set i (.getFrozenEventsMapByPid pidList)), ?_⟩)
      intro event hevent
      obtain ⟨record, hrecord, rfl⟩ := List.mem_map.mp hevent
      exact mem_events_of_kept (List.mem_append_right _ (events_get_subset _ pid hrecord))
  | getAllFrozenEvents =>
    refine List.Subset.trans (events_publishAllFrozenEvents _) (List.append_subset.mpr
      ⟨events_manager (s := s) (List.Subset.refl s.manager.keptRecords) s.buffered
        (s.calls.set i .getAllFrozenEventsMap), ?_⟩)
    intro event hevent
    obtain ⟨record, hrecord, rfl⟩ := List.mem_map.mp hevent
    exact mem_events_of_kept (List.mem_append_left _ hrecord)
  | getAllFrozenEventsMap =>
    refine List.Subset.trans (events_publishAllFrozenEvents _) (List.append_subset.mpr
      ⟨events_manager (s := s) (List.Subset.refl s.manager.keptRecords) s.buffered
        (s.calls.eraseIdx i), ?_⟩)
    intro event hevent
    obtain ⟨record, hrecord, rfl⟩ := List.mem_map.mp hevent
    exact mem_events_of_kept (List.mem_append_right _ hrecord)

/-- What an insertion puts into a buffer is its event, and so is what is left
of it about. -/
theorem keptRecords_stepInsertion (insertion : FrozenInsertion δ π) :
    (s.stepInsertion insertion).1.manager.keptRecords
      ⊆ insertion.eventRecord.fillCommonEventRecord :: s.manager.keptRecords := by
  intro event hevent
  obtain ⟨eventRecord, vec, buffering⟩ := insertion
  cases buffering with
  | none =>
    obtain ⟨record, hrecord, rfl⟩ := List.mem_map.mp hevent
    rcases List.mem_append.mp hrecord with hrecord | hrecord
    · rcases List.mem_cons.mp ((FrozenBuffer.events_insert _ _ _ _).subset hrecord) with
        rfl | hrecord
      · exact List.mem_cons_self
      · exact List.mem_cons_of_mem _ (List.mem_map_of_mem (List.mem_append_left _ hrecord))
    · exact List.mem_cons_of_mem _ (List.mem_map_of_mem (List.mem_append_right _ hrecord))
  | some buffering =>
    obtain ⟨record, hrecord, rfl⟩ := List.mem_map.mp hevent
    rcases List.mem_append.mp hrecord with hrecord | hrecord
    · exact List.mem_cons_of_mem _ (List.mem_map_of_mem (List.mem_append_left _ hrecord))
    · rcases List.mem_cons.mp ((FrozenBuffer.events_insert _ _ _ _).subset hrecord) with
        rfl | hrecord
      · exact List.mem_cons_self
      · exact List.mem_cons_of_mem _ (List.mem_map_of_mem (List.mem_append_right _ hrecord))

/-- **A task stays with its event**, which is what it puts into a buffer. -/
theorem events_stepTask (task : UnorderedTask δ π) :
    (s.stepTask task).1.manager.keptRecords ⊆ task.event :: s.manager.keptRecords
      ∧ ∀ task' ∈ (s.stepTask task).2, task'.event = task.event := by
  cases task with
  | notifyUnorderedEvent record eventRecord receivers =>
    cases receivers with
    | nil =>
      rw [stepTask]
      refine ⟨List.subset_cons_self _ s.manager.keptRecords, fun task' htask => ?_⟩
      cases htask
    | cons vec receivers =>
      rw [stepTask]
      split
      all_goals
        refine ⟨List.subset_cons_self _ s.manager.keptRecords, fun task' htask => ?_⟩
        cases htask
        rfl
  | handleFrozenUnorderedSubscriber record insertion receivers =>
    refine ⟨keptRecords_stepInsertion insertion, fun task' htask => ?_⟩
    unfold stepTask at htask
    dsimp only at htask
    cases hnext : (s.stepInsertion insertion).2 with
    | none =>
      rw [hnext] at htask
      cases htask
      rfl
    | some insertion' =>
      rw [hnext] at htask
      cases htask
      exact congrArg CommonEventRecord.fillCommonEventRecord (eventRecord_stepInsertion hnext)
  | notifyFreezeEvents subscriberRecord eventRecord =>
    refine ⟨List.subset_cons_self _ s.manager.keptRecords, fun task' htask => ?_⟩
    cases htask

theorem keptRecords_getSubscriberRecords (m : SubscriberManager (Buffered δ) π)
    (view : EventRecord) : (m.getSubscriberRecords P view).2.keptRecords = m.keptRecords :=
  SubscriberManager.keptRecords_congr (m.frozen_getSubscriberRecords P view).1
    (m.frozen_getSubscriberRecords P view).2

theorem events_processUnorderedEvent (eventRecord : CommonEventRecord δ π) (view : EventRecord)
    (subscriberRecord : Option SubscriberRecordPtr) :
    (s.processUnorderedEvent P eventRecord view subscriberRecord).events
      ⊆ eventRecord.fillCommonEventRecord :: s.events := by
  have hmanager : (s.processUnorderedEvent P eventRecord view subscriberRecord).manager.keptRecords
      = s.manager.keptRecords := by
    unfold processUnorderedEvent
    cases subscriberRecord with
    | some r => rfl
    | none => exact keptRecords_getSubscriberRecords (P := P) s.manager view
  have hevent : ∀ receivers, UnorderedTask.event (.notifyUnorderedEvent s.nextRecord
      eventRecord.fillCommonEventRecord receivers) = eventRecord.fillCommonEventRecord :=
    fun _ => rfl
  intro event hmem
  unfold events at hmem ⊢
  rw [hmanager] at hmem
  unfold processUnorderedEvent at hmem
  dsimp only at hmem
  cases hsystem : eventRecord.isSystemEvent with
  | true =>
    simp only [hsystem, if_true, List.map_append, List.map_cons, List.map_nil, hevent,
      List.mem_append, List.mem_cons, List.not_mem_nil, or_false] at hmem ⊢
    tauto
  | false =>
    simp only [hsystem, Bool.false_eq_true, if_false, List.map_append, List.map_cons,
      List.map_nil, hevent, List.mem_append, List.mem_cons, List.not_mem_nil, or_false] at hmem ⊢
    tauto

/-- A task in front of a queue takes its step. -/
theorem events_task {task : UnorderedTask δ π} (queue rest : List (UnorderedTask δ π))
    (hqueue : s.unorderedQueue ++ s.unorderedImmediateQueue = queue ++ task :: rest)
    (htasks : ∀ task' ∈ t.unorderedQueue ++ t.unorderedImmediateQueue,
      task' ∈ queue ∨ task' ∈ (s.stepTask task).2 ∨ task' ∈ rest)
    (hmanager : t.manager = (s.stepTask task).1.manager) (hordered : t.ordered = s.ordered) :
    t.events ⊆ s.events := by
  obtain ⟨hkept, hevent⟩ := events_stepTask (s := s) task
  have htask : ∀ {task'}, task' ∈ queue ++ task :: rest → task'.event ∈ s.events := by
    intro task' hmem
    rw [← hqueue] at hmem
    exact List.mem_append_left _ (List.mem_append_right _ (List.mem_map_of_mem hmem))
  have hfirst : task.event ∈ s.events := htask (by simp)
  intro event hmem
  unfold events at hmem
  rw [hmanager, hordered] at hmem
  rcases List.mem_append.mp hmem with hmem | hmem
  · rcases List.mem_append.mp hmem with hmem | hmem
    · rcases List.mem_cons.mp (hkept hmem) with rfl | hmem
      · exact hfirst
      · exact List.mem_append_left _ (List.mem_append_left _ hmem)
    · obtain ⟨task', htask', rfl⟩ := List.mem_map.mp hmem
      rcases htasks task' htask' with hmem | hmem | hmem
      · exact htask (List.mem_append_left _ hmem)
      · rw [hevent task' hmem]
        exact hfirst
      · exact htask (List.mem_append_right _ (List.mem_cons_of_mem _ hmem))
  · exact List.mem_append_right _ hmem

/-- **A step of unordered delivery brings in an event or none**, and all
others it has from before. -/
theorem events_step {l : DeliveryLabel δ π} (hstep : s.step P S l = some t) :
    t.events ⊆ bringsIn l ++ s.events := by
  cases l with
  | insertSubscriber maxSubscriberNum info listener recordInfo =>
    cases hstep
    obtain ⟨huid, hpid⟩ :=
      s.manager.frozen_insertSubscriber S maxSubscriberNum info listener recordInfo
    exact events_manager (s := s)
      (fun _ h => SubscriberManager.keptRecords_congr huid hpid ▸ h) s.buffered s.calls
  | removeSubscriber listener =>
    cases hstep
    obtain ⟨huid, hpid⟩ := s.manager.frozen_removeSubscriber listener
    exact events_manager (s := s) (SubscriberManager.keptRecords_subset huid.subset hpid.subset) _ _
  | getSubscriberRecords view =>
    cases hstep
    exact events_manager (s := s)
      (fun _ h => keptRecords_getSubscriberRecords (P := P) s.manager view ▸ h) s.buffered
      s.calls
  | processUnorderedEvent eventRecord view subscriberRecord =>
    obtain ⟨-, rfl⟩ := processUnorderedEvent_cases hstep
    exact events_processUnorderedEvent eventRecord view subscriberRecord
  | unordered =>
    obtain ⟨task, rest, hqueue, rfl⟩ := unordered_cases hstep
    obtain ⟨-, hiq, hord, -⟩ := stepTask_frame (s := s) task
    refine events_task [] (rest ++ s.unorderedImmediateQueue) ?_ ?_ rfl hord
    · rw [hqueue]
      rfl
    · intro task' htask'
      simp only [hiq, List.mem_append, Option.mem_toList] at htask' ⊢
      tauto
  | unorderedImmediate =>
    obtain ⟨task, rest, hqueue, rfl⟩ := unorderedImmediate_cases hstep
    obtain ⟨huq, -, hord, -⟩ := stepTask_frame (s := s) task
    refine events_task s.unorderedQueue rest ?_ ?_ rfl hord
    · rw [hqueue]
    · intro task' htask'
      simp only [huq, List.mem_append, Option.mem_toList] at htask' ⊢
      tauto
  | notifyOrderedEvent eventRecord subscriber =>
    obtain ⟨hordered, -, rfl⟩ := notifyOrderedEvent_cases hstep
    intro event hmem
    unfold notifyOrderedEvent events at hmem
    dsimp only at hmem
    rcases List.mem_append.mp hmem with hmem | hmem
    · exact List.mem_append_right _ (List.mem_append_left _ hmem)
    · refine List.mem_append_left _ ?_
      split at hmem
      · exact hmem
      · cases hmem
  | notifyFrozenSubscriber =>
    obtain ⟨insertion, hordered, rfl⟩ := notifyFrozenSubscriber_cases hstep
    obtain ⟨huq, hiq, -, -⟩ := stepInsertion_frame (s := s) insertion
    have hfirst : insertion.eventRecord.fillCommonEventRecord ∈ s.events := by
      refine List.mem_append_right _ ?_
      rw [hordered]
      exact List.mem_singleton_self _
    intro event hmem
    unfold events at hmem
    dsimp only at hmem
    rw [huq, hiq] at hmem
    show event ∈ s.events
    rcases List.mem_append.mp hmem with hmem | hmem
    · rcases List.mem_append.mp hmem with hmem | hmem
      · rcases List.mem_cons.mp (keptRecords_stepInsertion insertion hmem) with rfl | hmem
        · exact hfirst
        · exact List.mem_append_left _ (List.mem_append_left _ hmem)
      · exact List.mem_append_left _ (List.mem_append_right _ hmem)
    · obtain ⟨insertion', hnext, rfl⟩ := List.mem_map.mp hmem
      rw [eventRecord_stepInsertion (Option.mem_toList.mp hnext)]
      exact hfirst
  | freeze uid now =>
    cases hstep
    exact events_manager (s := s) (m := s.manager.updateFreezeInfoByUid uid true now)
      (List.Subset.refl _) _ _
  | unfreeze uid =>
    cases hstep
    exact events_manager (s := s) (m := s.manager.updateFreezeInfoByUid uid false 0)
      (List.Subset.refl _) _ _
  | setFreezeStatus pidList isFreeze now =>
    cases hstep
    exact events_manager (s := s) (m := s.manager.updateFreezeInfoByPids pidList isFreeze now)
      (List.Subset.refl _) _ _
  | unfreezeAll =>
    cases hstep
    exact events_manager (s := s) (m := s.manager.updateAllFreezeInfos false 0)
      (List.Subset.refl _) _ _
  | call i =>
    obtain ⟨call, -, rfl⟩ := Option.map_eq_some_iff.mp hstep
    exact events_stepCall i call

end UnorderedDelivery

/-! ## The events in the service -/

namespace ControlManager

variable {P : Platform} {S : StdSort} {s : ControlManager}

/-- What a record is about after a publish: a new one is about the event
published. -/
theorem event_processOrderedEvent (request : PublishRequest) {r : ℕ}
    (hr : r < (s.processOrderedEvent P S request).nextRecord) :
    (r < s.nextRecord ∧ (s.processOrderedEvent P S request).records r = s.records r)
      ∨ ((s.processOrderedEvent P S request).records r).toCommonEventRecord
        = { request.event with
            isSystemEvent := false
            commonEventData := s.nextCell
            publishInfo := s.nextCell } := by
  unfold processOrderedEvent at hr ⊢
  dsimp only at hr ⊢
  by_cases hnew : r = s.nextRecord
  · subst hnew
    refine Or.inr ?_
    show ((Function.update _ s.nextRecord _ : ℕ → OrderedEventRecord) _).toCommonEventRecord = _
    rw [Function.update_self]
  · refine Or.inl ⟨Nat.lt_of_le_of_ne (Nat.le_of_lt_succ hr) hnew, ?_⟩
    exact Function.update_of_ne hnew _ _

end ControlManager

namespace InnerCommonEventManager

variable {P : Platform} {S : StdSort} {C : Config} {s t : InnerCommonEventManager}
  {event : CommonEventRecord CellId CellId}

/-- **Whether an event is in the service**: among the ordered records made so
far, in unordered delivery, or in the sticky store. -/
def Holds (s : InnerCommonEventManager) (event : CommonEventRecord CellId CellId) : Prop :=
  (∃ r < s.control.nextRecord,
      (s.control.records r).toCommonEventRecord.fillCommonEventRecord = event)
    ∨ event ∈ s.delivery.events
    ∨ ∃ name record, AList.lookup name s.sticky = some record
      ∧ record.fillCommonEventRecord = event

/-- Where nothing new comes, nothing new is held. -/
theorem Holds.of_parts (hrecords : ∀ r, t.control.identity r = s.control.identity r)
    (hnext : t.control.nextRecord = s.control.nextRecord)
    (hdelivery : ∀ event ∈ t.delivery.events, s.Holds event)
    (hsticky : ∀ name record, AList.lookup name t.sticky = some record →
      AList.lookup name s.sticky = some record) (h : t.Holds event) : s.Holds event := by
  rcases h with ⟨r, hr, rfl⟩ | hdel | ⟨name, record, hlookup, rfl⟩
  · refine Or.inl ⟨r, hnext ▸ hr, ?_⟩
    rw [(Prod.mk.inj (hrecords r)).1]
  · exact hdelivery event hdel
  · exact Or.inr (Or.inr ⟨name, record, hsticky name record hlookup, rfl⟩)

/-- What unordered delivery holds, where it brings in what is held. -/
theorem holds_of_delivery_step {l : DeliveryLabel CellId CellId}
    {delivery : UnorderedDelivery CellId CellId} (hstep : s.delivery.step P S l = some delivery)
    (hbrings : ∀ event ∈ UnorderedDelivery.bringsIn l, s.Holds event) :
    ∀ event ∈ delivery.events, s.Holds event := by
  intro event hevent
  rcases List.mem_append.mp (UnorderedDelivery.events_step hstep hevent) with hnew | hold
  · exact hbrings event hnew
  · exact Or.inr (Or.inl hold)

/-- A record with receivers has been made. -/
theorem lt_nextRecord_of_receivers (hs : (serviceMachine P S C).Reachable s) {r : ℕ}
    {receiver : Receiver} (hreceiver : receiver ∈ (s.control.records r).receivers) :
    r < s.control.nextRecord := by
  have hfresh := Machine.invariant (M := orderedMachine P S)
    (I := fun s => ∀ r, s.nextRecord ≤ r → (s.records r).receivers = [])
    (fun _ _ => rfl) (fun s l t h hstep r hr => by
      rcases ControlManager.identity_step hstep with ⟨request, -, rfl⟩ | ⟨-, hid, hnext, -⟩
      · have hold : (s.processOrderedEvent P S request).records r = s.records r :=
          Function.update_of_ne (Nat.ne_of_gt hr) _ _
        rw [hold]
        exact h r (Nat.le_of_succ_le hr)
      · rw [(Prod.mk.inj (hid r)).2]
        exact h r (hnext ▸ hr)) (control_reachable hs)
  by_contra hnot
  rw [hfresh r (Nat.le_of_not_lt hnot)] at hreceiver
  cases hreceiver

/-- **A publish brings in its own event**, in a new cell, and no other. -/
theorem holds_publishCommonEvent (args : PublishArgs) (env : StaticEnvironment)
    (h : (s.publishCommonEvent P S C args env).2.Holds event) :
    s.Holds event ∨ ∃ comeFrom user, checkPublish P C args = some (comeFrom, user)
      ∧ event = (s.eventRecordOf P args comeFrom user).fillCommonEventRecord
      ∧ s.control.nextCell < (s.publishCommonEvent P S C args env).2.control.nextCell
      ∧ (s.publishCommonEvent P S C args env).2.control.cells s.control.nextCell = args.data := by
  rcases publishCommonEvent_cases (P := P) (S := S) (C := C) s args env with ⟨-, heq⟩ |
    ⟨comeFrom, user, hcheck, ⟨-, heq⟩ | ⟨-, u, rfl, hrest⟩⟩
  · rw [heq] at h
    exact Or.inl h
  · rw [heq] at h
    exact Or.inl h
  · -- the record of the event is new wherever it is
    have hsticky : ∀ name record, AList.lookup name (if args.publishInfo.sticky then
        s.sticky.updateStickyEvent args.data.want.action (s.eventRecordOf P args comeFrom user)
        else s.sticky) = some record →
        AList.lookup name s.sticky = some record
          ∨ record = s.eventRecordOf P args comeFrom user := by
      intro name record hlookup
      split at hlookup
      · rw [StickyManager.lookup_updateStickyEvent _ (action_of_checkPublish hcheck)] at hlookup
        split at hlookup
        · exact Or.inr (Option.some.inj hlookup).symm
        · exact Or.inl hlookup
      · exact Or.inl hlookup
    have hmade : s.control.nextCell < (s.publishCommonEvent P S C args env).2.control.nextCell
        ∧ (s.publishCommonEvent P S C args env).2.control.cells s.control.nextCell = args.data := by
      rcases hrest with ⟨-, heq⟩ | ⟨-, heq⟩
      · rw [heq]
        exact ⟨Nat.lt_succ_self _, Function.update_self _ _ _⟩
      · rw [heq]
        unfold controlPublishCommonEvent
        split
        all_goals exact ⟨Nat.lt_succ_self _, Function.update_self _ _ _⟩
    suffices hsuffices : s.Holds event
        ∨ event = (s.eventRecordOf P args comeFrom user).fillCommonEventRecord from
      hsuffices.imp_right fun hevent => ⟨comeFrom, user, hcheck, hevent, hmade⟩
    rcases hrest with ⟨-, heq⟩ | ⟨-, heq⟩
    · rw [heq] at h
      rcases h with hordered | hdelivery | ⟨name, record, hlookup, rfl⟩
      · exact Or.inl (Or.inl hordered)
      · exact Or.inl (Or.inr (Or.inl hdelivery))
      · rcases hsticky name record hlookup with hlookup | rfl
        · exact Or.inl (Or.inr (Or.inr ⟨name, record, hlookup, rfl⟩))
        · exact Or.inr rfl
    · rw [heq] at h
      unfold controlPublishCommonEvent at h
      split at h
      · rcases h with ⟨r, hr, rfl⟩ | hdelivery | ⟨name, record, hlookup, rfl⟩
        · rcases ControlManager.event_processOrderedEvent _ hr with ⟨hr, hold⟩ | hnew
          · refine Or.inl (Or.inl ⟨r, hr, ?_⟩)
            exact (congrArg (fun record => record.toCommonEventRecord.fillCommonEventRecord)
              hold).symm
          · have hevent := congrArg CommonEventRecord.fillCommonEventRecord hnew
            exact Or.inr hevent
        · refine Or.inl (holds_of_delivery_step (P := P) (S := S) (s := s)
            (l := .getSubscriberRecords _) rfl (List.forall_mem_nil _) _ hdelivery)
        · rcases hsticky name record hlookup with hlookup | rfl
          · exact Or.inl (Or.inr (Or.inr ⟨name, record, hlookup, rfl⟩))
          · exact Or.inr rfl
      · rcases h with hordered | hdelivery | ⟨name, record, hlookup, rfl⟩
        · exact Or.inl (Or.inl hordered)
        · rcases List.mem_cons.mp (UnorderedDelivery.events_processUnorderedEvent
            (s.eventRecordOf P args comeFrom user) _ none hdelivery) with rfl | hdelivery
          · exact Or.inr rfl
          · exact Or.inl (Or.inr (Or.inl hdelivery))
        · rcases hsticky name record hlookup with hlookup | rfl
          · exact Or.inl (Or.inr (Or.inr ⟨name, record, hlookup, rfl⟩))
          · exact Or.inr rfl

/-- A subscription brings in sticky events alone, which are stored. -/
theorem holds_subscribeCommonEvent (args : SubscribeArgs)
    (h : (s.subscribeCommonEvent P S C args).Holds event) : s.Holds event := by
  obtain ⟨hrecords, hnext, hsticky, hdelivery⟩ := subscribeCommonEvent_induction (P := P)
    (S := S) (C := C) (s := s)
    (I := fun t => t.control.records = s.control.records
      ∧ t.control.nextRecord = s.control.nextRecord ∧ t.sticky = s.sticky
      ∧ ∀ event ∈ t.delivery.events, s.Holds event)
    (fun info recordInfo => ⟨rfl, rfl, rfl, holds_of_delivery_step (P := P) (S := S)
      (l := .insertSubscriber args.maxSubscriberNum (some info) args.commonEventListener
        recordInfo) rfl (List.forall_mem_nil _)⟩)
    (fun _ _ hs => hs)
    (fun u r info event hevent hu => ⟨hu.1, hu.2.1, hu.2.2.1, fun event' hevent' => by
      rcases List.mem_cons.mp (UnorderedDelivery.events_processUnorderedEvent (P := P)
        event (u.view event) (some r) hevent') with rfl | hold
      · obtain ⟨name, -, hlookup⟩ := StickyManager.mem_findStickyEvents _ |>.mp hevent
        exact Or.inr (Or.inr ⟨name, event, hlookup, rfl⟩)
      · exact hu.2.2.2 event' hold⟩)
    ⟨rfl, rfl, rfl, fun event hevent => Or.inr (Or.inl hevent)⟩
  refine Holds.of_parts (fun r => ?_) hnext hdelivery (fun name record hlookup => hsticky ▸ hlookup)
    h
  unfold ControlManager.identity
  rw [hrecords]

/-- **Only a publish brings in an event.** -/
theorem holds_step (hs : (serviceMachine P S C).Reachable s) {l : ServiceLabel}
    (hl : ∀ args env, l ≠ .publishCommonEvent args env) (hstep : s.step P S C l = some t)
    (h : t.Holds event) : s.Holds event := by
  have hsticky : ∀ name record, AList.lookup name t.sticky = some record →
      AList.lookup name s.sticky = some record := by
    intro name record hlookup
    rcases sticky_step hstep with ⟨args, env, -, -, rfl, -⟩ | ⟨event', callerUid, -, heq, -⟩ |
      ⟨heq, -, -⟩
    · exact absurd rfl (hl args env)
    · rw [heq, StickyManager.lookup_removeStickyCommonEvent] at hlookup
      split at hlookup
      · cases hlookup
      · exact hlookup
    · rw [← heq]
      exact hlookup
  have hparts : (t.control = s.control ∨ ∃ l', (∀ request, l' ≠ .publish request)
        ∧ s.control.step P S l' = some t.control) →
      (∀ event ∈ t.delivery.events, s.Holds event) → s.Holds event := by
    rintro (hcontrol | ⟨l', hpublish, hcontrol⟩) hdelivery
    · exact h.of_parts (fun r => by rw [hcontrol]) (by rw [hcontrol]) hdelivery hsticky
    · rcases ControlManager.identity_step hcontrol with ⟨request, rfl, -⟩ | ⟨-, hid, hnext, -⟩
      · exact absurd rfl (hpublish request)
      · exact h.of_parts hid hnext hdelivery hsticky
  have hsame : ∀ event ∈ s.delivery.events, s.Holds event := fun event hevent =>
    Or.inr (Or.inl hevent)
  -- a change of the freeze flags leaves the buffers
  have hfreeze : ∀ (m : SubscriberManager (Buffered CellId) CellId) calls,
      m.keptRecords ⊆ s.delivery.manager.keptRecords →
      ∀ event ∈ ({ s.delivery with
        manager := m
        calls := calls } : UnorderedDelivery CellId CellId).events, s.Holds event :=
    fun m calls hm event hevent => hsame event
      (UnorderedDelivery.events_manager hm s.delivery.buffered calls hevent)
  cases l with
  | publishCommonEvent args env => exact absurd rfl (hl args env)
  | subscribeCommonEvent args =>
    cases hstep
    exact holds_subscribeCommonEvent args h
  | unsubscribeCommonEvent listener =>
    have ht : s.unsubscribeCommonEvent C listener = t := Option.some.inj hstep
    unfold unsubscribeCommonEvent at ht
    split at ht
    · subst ht
      exact h
    · subst ht
      exact hparts (Or.inr ⟨.unsubscribeCommonEvent listener, by simp, rfl⟩)
        (holds_of_delivery_step (P := P) (S := S) (l := .removeSubscriber listener) rfl
          (List.forall_mem_nil _))
  | finishReceiver reply =>
    have ht : s.finishReceiver C reply = t := Option.some.inj hstep
    unfold finishReceiver at ht
    split at ht
    · subst ht
      exact hparts (Or.inr ⟨.finishReceiver reply, by simp, rfl⟩) hsame
    · subst ht
      exact h
  | removeStickyCommonEvent event' callerUid =>
    cases hstep
    exact hparts (Or.inl rfl) hsame
  | setStaticSubscriberState callingUid bundleName events enable =>
    have ht : s.setStaticSubscriberState P C callingUid bundleName events enable = t :=
      Option.some.inj hstep
    unfold setStaticSubscriberState at ht
    split at ht
    · subst ht
      exact hparts (Or.inl rfl) hsame
    · subst ht
      exact h
  | freeze uid now =>
    cases hstep
    exact hparts (Or.inl rfl) (holds_of_delivery_step (P := P) (S := S) (l := .freeze uid now) rfl
      (List.forall_mem_nil _))
  | unfreeze uid =>
    have ht : s.unfreeze C uid = t := Option.some.inj hstep
    have hm := List.Subset.refl (s.delivery.manager.updateFreezeInfoByUid uid false 0).keptRecords
    unfold unfreeze release at ht
    split at ht
    · subst ht
      exact hparts (Or.inl rfl) (hfreeze _ _ hm)
    · subst ht
      exact hparts (Or.inl rfl) (hfreeze _ _ hm)
  | setFreezeStatus pidList isFreeze now =>
    have ht : s.setFreezeStatus C pidList isFreeze now = t := Option.some.inj hstep
    have hm := List.Subset.refl
      (s.delivery.manager.updateFreezeInfoByPids pidList isFreeze now).keptRecords
    unfold setFreezeStatus release at ht
    split at ht
    · subst ht
      exact hparts (Or.inl rfl) (hfreeze _ _ hm)
    · subst ht
      exact hparts (Or.inl rfl) (hfreeze _ _ hm)
  | unfreezeAll =>
    have ht : s.unfreezeAll C = t := Option.some.inj hstep
    have hm := List.Subset.refl (s.delivery.manager.updateAllFreezeInfos false 0).keptRecords
    unfold unfreezeAll release at ht
    split at ht
    · subst ht
      exact hparts (Or.inl rfl) (hfreeze _ _ hm)
    · subst ht
      exact hparts (Or.inl rfl) (hfreeze _ _ hm)
  | onRemoteDied remote =>
    cases hstep
    exact hparts (Or.inl rfl)
      (holds_of_delivery_step (P := P) (S := S) (l := .removeSubscriber (some remote)) rfl
        (List.forall_mem_nil _))
  | control l =>
    have hpublish : ∀ l' : ControlLabel, l'.isInternal = true →
        ∀ request, l' ≠ .publish request := by
      rintro l' hinternal request rfl
      cases hinternal
    rcases controlStep_cases hstep with
      ⟨l', control, hinternal, -, hcontrol, rfl |
        ⟨sp, receiver, hreceiver, delivery, hdelivery, rfl⟩⟩ |
      ⟨-, insertion, delivery, -, -, hdelivery, rfl⟩
    · exact hparts (Or.inr ⟨l', hpublish l' hinternal, hcontrol⟩) hsame
    · refine hparts (Or.inr ⟨l', hpublish l' hinternal, hcontrol⟩)
        (holds_of_delivery_step hdelivery (List.forall_mem_singleton.mpr ?_))
      exact Or.inl ⟨sp, lt_nextRecord_of_receivers hs hreceiver, rfl⟩
    · exact hparts (Or.inl (s.noteInsertion_control insertion))
        (holds_of_delivery_step hdelivery (List.forall_mem_nil _))
  | unordered =>
    obtain ⟨delivery, hdelivery, rfl⟩ := Option.map_eq_some_iff.mp hstep
    exact hparts (Or.inl (s.note_control _))
      (holds_of_delivery_step hdelivery (List.forall_mem_nil _))
  | unorderedImmediate =>
    obtain ⟨delivery, hdelivery, rfl⟩ := Option.map_eq_some_iff.mp hstep
    exact hparts (Or.inl (s.note_control _))
      (holds_of_delivery_step hdelivery (List.forall_mem_nil _))
  | call i =>
    obtain ⟨delivery, hdelivery, rfl⟩ := Option.map_eq_some_iff.mp hstep
    exact hparts (Or.inl rfl) (holds_of_delivery_step hdelivery (List.forall_mem_nil _))

/-- **Whether an event is that of a publish**: the call passed its checks, and
the record says what it was called with. -/
structure IsOf (P : Platform) (C : Config) (args : PublishArgs) (s : InnerCommonEventManager)
    (event : CommonEventRecord CellId CellId) : Prop where
  checked : ∃ comeFrom, checkPublish P C args = some (comeFrom, event.userId)
    ∧ event.eventRecordInfo = publisherInfo args comeFrom
  recordTime : event.recordTime = args.recordTime
  made : event.commonEventData < s.control.nextCell
  want : (s.control.cells event.commonEventData).want = args.data.want

/-- **Every event in the service was published.** -/
theorem published_of_holds {ls : List ServiceLabel} (hs : (serviceMachine P S C).run ls = some s)
    (h : s.Holds event) :
    ∃ args env, .publishCommonEvent args env ∈ ls ∧ IsOf P C args s event := by
  refine Machine.run_induction (M := serviceMachine P S C)
    (R := fun ls s => ∀ event, s.Holds event →
      ∃ args env, .publishCommonEvent args env ∈ ls ∧ IsOf P C args s event) ?_ ?_ hs event h
  · rintro event (⟨r, hr, -⟩ | hdelivery | ⟨name, record, hlookup, -⟩)
    · exact absurd hr (Nat.not_lt_zero r)
    · cases hdelivery
    · exact absurd hlookup (by simp [serviceMachine])
  · intro ls l s t hs ih hstep event h
    have hold : s.Holds event →
        ∃ args env, .publishCommonEvent args env ∈ ls ++ [l] ∧ IsOf P C args t event := by
      intro h
      obtain ⟨args, env, hmem, hof⟩ := ih event h
      exact ⟨args, env, List.mem_append_left _ hmem, hof.checked, hof.recordTime,
        Nat.lt_of_lt_of_le hof.made (cells_step hstep).1,
        (want_step hstep hof.made).trans hof.want⟩
    by_cases hl : ∃ args env, l = .publishCommonEvent args env
    · obtain ⟨args, env, rfl⟩ := hl
      cases hstep
      rcases holds_publishCommonEvent args env h with h |
        ⟨comeFrom, user, hcheck, rfl, hmade, hdata⟩
      · exact hold h
      · exact ⟨args, env, by simp, ⟨comeFrom, hcheck, rfl⟩, rfl, hmade, congrArg _ hdata⟩
    · refine hold (holds_step ⟨ls, hs⟩ (fun args env heq => hl ⟨args, env, heq⟩) hstep h)

/-- What a publish that passes its checks was. -/
theorem checkPublish_some {args : PublishArgs} {comeFrom : EventComeFrom} {user : Int}
    (h : checkPublish P C args = some (comeFrom, user)) :
    comeFrom = eventComeFrom P C args.pid args.uid args.callerToken
      ∧ isPublishAllowed C args.data.want.action args.uid.toInt32 = true
      ∧ (P.isSystemEvent args.data.want.action = true →
        comeFrom.isSystemApp = true ∨ comeFrom.isSubsystem = true) := by
  unfold checkPublish at h
  dsimp only at h
  split at h
  · cases h
  split at h
  · cases h
  split at h
  · cases h
  next hallowed =>
    split at h
    · cases h
    next hcheck =>
      split at h
      · cases h
      next hsystem =>
        cases h
        refine ⟨?_, by simpa using hallowed, fun hevent => ?_⟩
        · unfold checkUserId at hcheck
          dsimp only at hcheck
          split at hcheck
          · cases hcheck
          split at hcheck
          · cases hcheck
            rfl
          split at hcheck
          · cases hcheck
            rfl
          · cases hcheck
        · simp only [hevent, Bool.true_and, Bool.and_eq_true, Bool.not_eq_true', not_and,
            Bool.not_eq_false] at hsystem
          cases happ : comeFrom.isSystemApp with
          | true => exact Or.inl rfl
          | false => exact Or.inr (hsystem happ)

end InnerCommonEventManager

/-! ## The events under the front -/

namespace ServiceFront

variable {P : FrontPlatform} {S : StdSort} {C : Config} {s : ServiceFront}

/-- **Who published a want**: the process, the uid and the token that are noted
down made the call, or foundation made it for the uid and the token. -/
inductive PublishedBy (ls : List FrontLabel) (info : EventRecordInfo) (want : Want) : Prop
  | itself (caller : Caller) (event : CommonEventData) (publishinfo : CommonEventPublishInfo)
      (listener : Option Remote) (userId : Int) (clock : PublishClock)
      (hcall : .publishCommonEvent caller event publishinfo listener userId clock ∈ ls)
      (hwant : event.want = want) (hpid : info.pid = caller.pid) (huid : info.uid = caller.uid)
      (htoken : info.callerToken = caller.tokenId)
  | proxy (caller : Caller) (event : CommonEventData) (publishinfo : CommonEventPublishInfo)
      (listener : Option Remote) (userId : Int) (clock : PublishClock)
      (hcall : .publishCommonEventAsProxy caller event publishinfo listener info.uid
        info.callerToken userId clock ∈ ls)
      (hfoundation : caller.uid = FOUNDATION_UID) (hwant : event.want = want)
      (hpid : info.pid = UNDEFINED_PID)

/-- **Every event is authentic.** In every run of the front, each event that
is anywhere in the service – waiting, being sent, kept for the frozen or
stored as sticky – was published, with the want it has, by the publisher it
names, or by foundation for it. What is noted of the publisher is so of its
uid and token; an event of the system has a publisher of the system; and
publish control lets the publisher publish it. -/
theorem events_authentic {ls : List FrontLabel} (hs : (frontMachine P S C).run ls = some s)
    {event : CommonEventRecord CellId CellId} (h : s.innerCommonEventManager.Holds event) :
    PublishedBy ls event.eventRecordInfo
        (s.innerCommonEventManager.control.cells event.commonEventData).want
      ∧ event.eventRecordInfo.bundleName
        = P.bundleNameOf event.eventRecordInfo.callerToken event.eventRecordInfo.uid
      ∧ event.eventRecordInfo.isSubsystem
        = P.verifyNativeToken event.eventRecordInfo.callerToken
      ∧ event.eventRecordInfo.isProxy = decide (event.eventRecordInfo.pid = UNDEFINED_PID)
      ∧ (P.isSystemEvent
            (s.innerCommonEventManager.control.cells event.commonEventData).want.action = true →
          P.verifyNativeToken event.eventRecordInfo.callerToken = true
            ∨ P.checkIsSystemAppByUid event.eventRecordInfo.uid = true)
      ∧ isPublishAllowed C
          (s.innerCommonEventManager.control.cells event.commonEventData).want.action
          event.eventRecordInfo.uid.toInt32 = true := by
  obtain ⟨args, env, hmem, hof⟩ := InnerCommonEventManager.published_of_holds (inner_run hs) h
  obtain ⟨comeFrom, hcheck, hinfo⟩ := hof.checked
  obtain ⟨hcomeFrom, hallowed, hsystem⟩ := InnerCommonEventManager.checkPublish_some hcheck
  rw [hof.want, hinfo]
  have hgranted := granted_of_outputs hs hmem
  have hpublished : PublishedBy ls (publisherInfo args comeFrom) args.data.want
      ∧ args.bundleName = P.bundleNameOf args.callerToken args.uid := by
    cases hgranted with
    | publishCommonEvent caller clock args env hcall hpid huid htoken hbundle hnamed hdlp huser =>
      exact ⟨.itself caller args.data args.publishInfo args.commonEventListener args.userId clock
        hcall rfl hpid huid htoken, by rw [htoken, huid, hbundle]⟩
    | publishCommonEventAsProxy caller clock args env hcall hfoundation hpid hbundle hdlp huser =>
      exact ⟨.proxy caller args.data args.publishInfo args.commonEventListener args.userId clock
        hcall hfoundation rfl hpid, hbundle⟩
    | internal label hlabel => cases hlabel
  refine ⟨hpublished.1, hpublished.2, ?_, ?_, fun hevent => ?_, hallowed⟩
  · rw [hcomeFrom]
    rfl
  · rw [hcomeFrom]
    rfl
  · rcases hsystem hevent with happ | hsubsystem
    · rw [hcomeFrom] at happ
      unfold eventComeFrom at happ
      simp only [Bool.and_eq_true] at happ
      exact Or.inr happ.2
    · rw [hcomeFrom] at hsubsystem
      exact Or.inl hsubsystem

/-- The event of the application is on its way, and is its own. -/
theorem events_authentic_untilPublished :
    ∃ s event, (frontMachine {} .insertion {}).run untilPublished = some s
      ∧ event ∈ s.innerCommonEventManager.delivery.events ∧ event.eventRecordInfo.uid = 20010001
      ∧ PublishedBy untilPublished event.eventRecordInfo
        (s.innerCommonEventManager.control.cells event.commonEventData).want := by
  obtain ⟨s, hs, huid⟩ := Option.map_eq_some_iff.mp
    (show ((frontMachine {} .insertion {}).run untilPublished).map
      (fun s => s.innerCommonEventManager.delivery.events.map
        (fun event => event.eventRecordInfo.uid)) = some [20010001] by decide +kernel)
  obtain ⟨event, hevent, huid⟩ := List.mem_map.mp (huid ▸ List.mem_singleton_self (20010001 : Uid))
  exact ⟨s, event, hs, hevent, huid, (events_authentic hs (Or.inr (Or.inl hevent))).1⟩

end ServiceFront

end CommonEventService

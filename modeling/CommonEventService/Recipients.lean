import CommonEventService.EventOrigins
import CommonEventService.StickyReplay
import CommonEventService.UserIsolation

/-!
# Who is notified

A publish chooses its receivers once, by the checks of
`GetSubscriberRecordsByWantLocked` on the records that are registered then; a
subscription is sent what is stored under its names; and an ordered publish
may ask for the result. From then on nothing is checked again: the receivers
wait in the tasks, in the records of ordered events and in the two buffers of
the frozen, for as long as it takes.

So what has to be shown is that on all these ways an event stays with whom it
was for. Records are shared and updated in place, and a buffer is filed by
the listener; but a record never changes its listener.

`Addressed W` says of a state that whatever is on its way in it is for whom
`W` allows. Every step keeps it, but for what it brings in.
-/

namespace CommonEventService

variable {δ π : Type} {W : Remote → CommonEventRecord δ π → Prop}

namespace FrozenBuffer

variable {κ : Type} [DecidableEq κ] {buffer : FrozenBuffer κ (Buffered δ) π}

/-- **What is kept is kept for whom it is for**: the subscriber that each
event is filed with is the one it is filed under. -/
def Addressed (W : Remote → CommonEventRecord δ π → Prop) (buffer : FrozenBuffer κ (Buffered δ) π) :
    Prop :=
  ∀ key l kept, buffer.entry key l = some kept →
    kept.1.commonEventListener = l ∧ ∀ record ∈ kept.2, W l record.unbuffered

theorem Addressed.insert (h : buffer.Addressed W) (key : κ) {subscriber : EventSubscriberRecord}
    {record : CommonEventRecord (Buffered δ) π}
    (hW : W subscriber.commonEventListener record.unbuffered) :
    (buffer.insert key subscriber record).Addressed W := by
  intro key' l kept hkept
  rw [entry_insert] at hkept
  split at hkept
  next hsame =>
    obtain ⟨rfl, rfl⟩ := hsame
    cases hkept
    have hentry := h key' subscriber.commonEventListener
    unfold keptFor
    cases hold : buffer.entry key' subscriber.commonEventListener with
    | none =>
      refine ⟨rfl, fun record' hrecord => ?_⟩
      have hmem := (emplaceBack_sublist _ _).subset hrecord
      rw [List.mem_singleton.mp hmem]
      exact hW
    | some kept =>
      obtain ⟨hlistener, hkept⟩ := hentry kept hold
      refine ⟨hlistener, fun record' hrecord => ?_⟩
      rcases List.mem_append.mp ((emplaceBack_sublist _ _).subset hrecord) with hmem | hmem
      · exact hkept record' hmem
      · rw [List.mem_singleton.mp hmem]
        exact hW
  next => exact h key' l kept hkept

theorem Addressed.remove (h : buffer.Addressed W) (key : κ) : (buffer.remove key).Addressed W := by
  intro key' l kept hkept
  rw [entry_remove] at hkept
  split at hkept
  · cases hkept
  · exact h key' l kept hkept

theorem Addressed.removeBySubscriber (h : buffer.Addressed W) (key : κ) (l : Remote) :
    (buffer.removeBySubscriber key l).Addressed W := by
  intro key' l' kept hkept
  rw [entry_removeBySubscriber] at hkept
  split at hkept
  · cases hkept
  · exact h key' l' kept hkept

/-- What is found under a key is for whom it was kept. -/
theorem Addressed.frozenTasks (h : buffer.Addressed W) {key : κ} {frozenRecords : FrozenRecords _ π}
    (hlookup : buffer.lookup key = some frozenRecords) :
    ∀ task ∈ frozenTasks frozenRecords, W task.1.commonEventListener task.2.unbuffered := by
  intro task htask
  obtain ⟨l, kept, hkept, htask⟩ := Dict.mem_flatMap.mp htask
  obtain ⟨record, hrecord, rfl⟩ := List.mem_map.mp htask
  have hentry : buffer.entry key l = some kept := by
    unfold entry
    rw [hlookup]
    exact hkept
  obtain ⟨hlistener, hW⟩ := h key l kept hentry
  rw [hlistener]
  exact hW record hrecord

theorem Addressed.get (h : buffer.Addressed W) (key : κ) :
    ∀ task ∈ CommonEventService.frozenTasks (buffer.get key),
      W task.1.commonEventListener task.2.unbuffered := by
  unfold FrozenBuffer.get
  cases hlookup : buffer.lookup key with
  | none => exact fun task htask => absurd htask (by simp [CommonEventService.frozenTasks,
      Dict.flatMap])
  | some frozenRecords => exact h.frozenTasks hlookup

end FrozenBuffer

/-! ## What is on its way in unordered delivery -/

namespace UnorderedTask

/-- Whether a task notifies those it may: the records it holds, or the one
whose copy it has. -/
structure Addressed (W : Remote → CommonEventRecord δ π → Prop)
    (listenerOf : SubscriberRecordPtr → Remote) (task : UnorderedTask δ π) : Prop where
  held : ∀ vec ∈ UnorderedDelivery.heldBy task, W (listenerOf vec) task.event
  freeze : ∀ subscriberRecord eventRecord,
    task = .notifyFreezeEvents subscriberRecord eventRecord →
      W subscriberRecord.commonEventListener eventRecord.unbuffered

/-- **Whom a task calls next**, and with what: `NotifyEvent` of a receiver that
is not frozen, or of one that was. -/
def notifies (m : SubscriberManager (Buffered δ) π) :
    UnorderedTask δ π → List (Remote × CommonEventRecord δ π)
  | .notifyUnorderedEvent _ eventRecord (vec :: _) =>
    if (m.heap vec).isFreeze then []
    else [(m.listenerOf vec, eventRecord.fillCommonEventRecord)]
  | .notifyFreezeEvents subscriberRecord eventRecord =>
    [(subscriberRecord.commonEventListener, eventRecord.unbuffered)]
  | _ => []

theorem Addressed.notifies {m : SubscriberManager (Buffered δ) π} {task : UnorderedTask δ π}
    (h : task.Addressed W m.listenerOf) : ∀ sent ∈ task.notifies m, W sent.1 sent.2 := by
  intro sent hsent
  cases task with
  | notifyUnorderedEvent record eventRecord receivers =>
    cases receivers with
    | nil => cases hsent
    | cons vec receivers =>
      rw [UnorderedTask.notifies] at hsent
      split at hsent
      · cases hsent
      · rw [List.mem_singleton.mp hsent]
        exact h.held vec List.mem_cons_self
  | handleFrozenUnorderedSubscriber record insertion receivers => cases hsent
  | notifyFreezeEvents subscriberRecord eventRecord =>
    rw [List.mem_singleton.mp hsent]
    exact h.freeze subscriberRecord eventRecord rfl

end UnorderedTask

namespace UnorderedDelivery

variable {P : Platform} {S : StdSort} {s t : UnorderedDelivery δ π}

/-- **Whatever is on its way is for whom it may be**: in the tasks, in the
hands of the ordered queue, and in the two buffers. The records it goes by
have been made. -/
structure Addressed (W : Remote → CommonEventRecord δ π → Prop) (s : UnorderedDelivery δ π) :
    Prop where
  tasks : ∀ task ∈ s.unorderedQueue ++ s.unorderedImmediateQueue,
    task.Addressed W s.manager.listenerOf
  ordered : ∀ insertion ∈ s.ordered, W (s.manager.listenerOf insertion.subscriber)
    insertion.eventRecord.fillCommonEventRecord
  byUid : s.manager.frozenEvents.Addressed W
  byPid : s.manager.frozenEventsMap.Addressed W
  made : ∀ r ∈ s.held, r < s.manager.nextAddr

/-- The rule for a step: records keep their listeners, and what is new in the
tasks, in the hands of the ordered queue and in the buffers is for whom it may
be. -/
theorem Addressed.frame (h : s.Addressed W)
    (hlistener : ∀ r ∈ s.held, t.manager.listenerOf r = s.manager.listenerOf r)
    (hmade : ∀ r ∈ t.held, r < t.manager.nextAddr)
    (htasks : ∀ task ∈ t.unorderedQueue ++ t.unorderedImmediateQueue,
      task ∈ s.unorderedQueue ++ s.unorderedImmediateQueue
        ∨ task.Addressed W t.manager.listenerOf)
    (hordered : ∀ insertion ∈ t.ordered, insertion ∈ s.ordered
      ∨ W (t.manager.listenerOf insertion.subscriber)
        insertion.eventRecord.fillCommonEventRecord)
    (huid : t.manager.frozenEvents.Addressed W) (hpid : t.manager.frozenEventsMap.Addressed W) :
    t.Addressed W := by
  refine ⟨fun task htask => ?_, fun insertion hinsertion => ?_, huid, hpid, hmade⟩
  · rcases htasks task htask with hold | hnew
    · obtain ⟨hheld, hfreeze⟩ := h.tasks task hold
      refine ⟨fun vec hvec => ?_, hfreeze⟩
      rw [hlistener vec (List.mem_append_right _ (List.mem_flatMap.mpr ⟨task, hold, hvec⟩))]
      exact hheld vec hvec
    · exact hnew
  · rcases hordered insertion hinsertion with hold | hnew
    · rw [hlistener insertion.subscriber (List.mem_append_left _
        (List.mem_map_of_mem (Option.mem_toList.mpr hold)))]
      exact h.ordered insertion hold
    · exact hnew

/-- An insertion keeps its event for the subscriber it is of. -/
theorem Addressed.stepInsertion (h : s.Addressed W) {insertion : FrozenInsertion δ π}
    (hW : W (s.manager.listenerOf insertion.subscriber)
      insertion.eventRecord.fillCommonEventRecord) :
    (s.stepInsertion insertion).1.manager.frozenEvents.Addressed W
      ∧ (s.stepInsertion insertion).1.manager.frozenEventsMap.Addressed W := by
  obtain ⟨eventRecord, vec, buffering⟩ := insertion
  cases buffering with
  | none => exact ⟨h.byUid.insert _ hW, h.byPid⟩
  | some buffering => exact ⟨h.byUid, h.byPid.insert _ hW⟩

/-- A task leaves of itself what is for its receivers still. -/
theorem Addressed.stepTask (h : s.Addressed W) {task : UnorderedTask δ π}
    (htask : task.Addressed W s.manager.listenerOf) :
    (∀ task' ∈ (s.stepTask task).2, task'.Addressed W s.manager.listenerOf)
      ∧ (s.stepTask task).1.manager.frozenEvents.Addressed W
      ∧ (s.stepTask task).1.manager.frozenEventsMap.Addressed W := by
  have hsub := heldBy_stepTask (s := s) task
  have hevent := (events_stepTask (s := s) task).2
  refine ⟨fun task' htask' => ⟨fun vec hvec => ?_, ?_⟩, ?_⟩
  · rw [hevent task' htask']
    refine htask.held vec (hsub ?_)
    exact List.mem_flatMap.mpr ⟨task', Option.mem_toList.mpr htask', hvec⟩
  · -- what is left of a task is never a redelivery
    rintro subscriberRecord eventRecord rfl
    cases task with
    | notifyUnorderedEvent record eventRecord' receivers =>
      cases receivers with
      | nil => cases htask'
      | cons vec receivers =>
        rw [UnorderedDelivery.stepTask] at htask'
        split at htask' <;> cases htask'
    | handleFrozenUnorderedSubscriber record insertion receivers =>
      rw [UnorderedDelivery.stepTask] at htask'
      dsimp only at htask'
      split at htask' <;> cases htask'
    | notifyFreezeEvents subscriberRecord' eventRecord' => cases htask'
  · cases task with
    | notifyUnorderedEvent record eventRecord receivers =>
      cases receivers with
      | nil => exact ⟨h.byUid, h.byPid⟩
      | cons vec receivers =>
        rw [UnorderedDelivery.stepTask]
        split <;> exact ⟨h.byUid, h.byPid⟩
    | handleFrozenUnorderedSubscriber record insertion receivers =>
      exact h.stepInsertion (htask.held _ List.mem_cons_self)
    | notifyFreezeEvents subscriberRecord eventRecord => exact ⟨h.byUid, h.byPid⟩

/-- What is found in a buffer is submitted for whom it was kept. -/
theorem Addressed.publishFrozenEventsInner (h : s.Addressed W) (kind : UnfreezeKind)
    {frozenRecords : FrozenRecords (Buffered δ) π}
    (hfound : ∀ task ∈ frozenTasks frozenRecords,
      W task.1.commonEventListener task.2.unbuffered) :
    (s.publishFrozenEventsInner kind frozenRecords).Addressed W := by
  refine h.frame (fun _ _ => rfl) ?_ ?_ (fun _ => Or.inl) h.byUid h.byPid
  · rw [held_publishFrozenEventsInner]
    exact h.made
  · intro task htask
    unfold UnorderedDelivery.publishFrozenEventsInner at htask
    simp only [List.mem_append] at htask ⊢
    rcases htask with htask | htask | htask
    · exact Or.inl (Or.inl htask)
    · exact Or.inl (Or.inr htask)
    · obtain ⟨found, hmem, rfl⟩ := List.mem_map.mp htask
      refine Or.inr ⟨fun vec hvec => absurd hvec List.not_mem_nil, ?_⟩
      rintro _ _ ⟨⟩
      exact hfound found hmem

theorem Addressed.publishAllFrozenEvents {κ : Type} [DecidableEq κ] (h : s.Addressed W)
    {buffer : FrozenBuffer κ (Buffered δ) π} (hbuffer : buffer.Addressed W) :
    (s.publishAllFrozenEvents buffer).Addressed W := by
  unfold UnorderedDelivery.publishAllFrozenEvents
  refine List.foldlRecOn buffer.entries _ h fun u hu entry hentry => ?_
  exact hu.publishFrozenEventsInner .all (hbuffer.frozenTasks (AList.mem_lookup_iff.mpr hentry))

/-- The rule for a change of the subscriber manager, of the calls or of the
log of what is kept. -/
theorem Addressed.manager {m : SubscriberManager (Buffered δ) π} (h : s.Addressed W)
    (hlistener : ∀ r ∈ s.held, m.listenerOf r = s.manager.listenerOf r)
    (hmade : ∀ r ∈ s.held, r < m.nextAddr) (huid : m.frozenEvents.Addressed W)
    (hpid : m.frozenEventsMap.Addressed W) (buffered : List (Remote × ℕ))
    (calls : List UnfreezeCall) :
    ({ s with
      manager := m
      buffered := buffered
      calls := calls } : UnorderedDelivery δ π).Addressed W :=
  h.frame hlistener hmade (fun _ => Or.inl) (fun _ => Or.inl) huid hpid

/-- An unfreezing call. -/
theorem Addressed.stepCall (h : s.Addressed W) (i : ℕ) (call : UnfreezeCall) :
    (s.stepCall i call).Addressed W := by
  have hcalls := fun calls => h.manager (m := s.manager) (fun _ _ => rfl) h.made h.byUid h.byPid
    s.buffered calls
  cases call with
  | getFrozenEvents uid =>
    exact (h.manager (m := (s.manager.getFrozenEvents uid).2) (fun _ _ => rfl) h.made
      (h.byUid.remove uid) h.byPid s.buffered (s.calls.eraseIdx i)).publishFrozenEventsInner .uid
        (h.byUid.get uid)
  | getFrozenEventsMapByPid pidList =>
    cases pidList with
    | nil => exact hcalls (s.calls.eraseIdx i)
    | cons pid pidList =>
      exact (h.manager (m := (s.manager.getFrozenEventsMapByPid pid).2) (fun _ _ => rfl) h.made
        h.byUid (h.byPid.remove pid) s.buffered
        (s.calls.set i (.getFrozenEventsMapByPid pidList))).publishFrozenEventsInner .pid
          (h.byPid.get pid)
  | getAllFrozenEvents =>
    exact (hcalls (s.calls.set i .getAllFrozenEventsMap)).publishAllFrozenEvents h.byUid
  | getAllFrozenEventsMap => exact (hcalls (s.calls.eraseIdx i)).publishAllFrozenEvents h.byPid

/-- A change of the freeze flags. -/
theorem Addressed.updateFreezeInfo (h : s.Addressed W) (chosen : EventSubscriberRecord → Bool)
    (freezeState : Bool) (freezeTime : Int) (calls : List UnfreezeCall) :
    ({ s with
      manager := s.manager.updateFreezeInfo chosen freezeState freezeTime
      calls := calls } : UnorderedDelivery δ π).Addressed W :=
  h.manager
    (fun r _ => (SubscriberManager.SameIndex.updateFreezeInfo s.manager chosen freezeState
      freezeTime).listenerOf r)
    h.made h.byUid h.byPid s.buffered calls

/-- **What a step brings in**: the receivers of a new task, and one that the
ordered queue comes to. -/
def BringsTo (W : Remote → CommonEventRecord δ π → Prop) (P : Platform)
    (s : UnorderedDelivery δ π) : DeliveryLabel δ π → Prop
  | .processUnorderedEvent eventRecord view subscriberRecord =>
    ∀ vec ∈ subscriberRecord.elim (s.manager.getSubscriberRecords P view).1 ([·]),
      W ((s.processUnorderedEvent P eventRecord view subscriberRecord).manager.listenerOf vec)
        eventRecord.fillCommonEventRecord
  | .notifyOrderedEvent eventRecord subscriber =>
    W (s.manager.listenerOf subscriber) eventRecord.fillCommonEventRecord
  | _ => True

/-- A task in front of a queue takes its step. -/
theorem Addressed.task (h : s.Addressed W) {task : UnorderedTask δ π}
    (queue rest : List (UnorderedTask δ π))
    (hqueue : s.unorderedQueue ++ s.unorderedImmediateQueue = queue ++ task :: rest)
    (htasks : ∀ task' ∈ t.unorderedQueue ++ t.unorderedImmediateQueue,
      task' ∈ queue ∨ task' ∈ (s.stepTask task).2 ∨ task' ∈ rest)
    (hmade : ∀ r ∈ t.held, r < t.manager.nextAddr)
    (hmanager : t.manager = (s.stepTask task).1.manager) (hordered : t.ordered = s.ordered) :
    t.Addressed W := by
  have hmem : ∀ {task'}, task' ∈ queue ++ task :: rest →
      task' ∈ s.unorderedQueue ++ s.unorderedImmediateQueue := fun h => hqueue ▸ h
  obtain ⟨hleft, huid, hpid⟩ := h.stepTask (h.tasks task (hmem (by simp)))
  have hlistener : ∀ r, t.manager.listenerOf r = s.manager.listenerOf r := fun r =>
    hmanager ▸ (manager_stepTask (s := s) task).listenerOf r
  refine h.frame (fun r _ => hlistener r) hmade (fun task' htask' => ?_)
    (fun insertion hinsertion => Or.inl (hordered ▸ hinsertion)) (hmanager ▸ huid)
    (hmanager ▸ hpid)
  rcases htasks task' htask' with hold | hnew | hold
  · exact Or.inl (hmem (List.mem_append_left _ hold))
  · exact Or.inr (funext hlistener ▸ hleft task' hnew)
  · exact Or.inl (hmem (List.mem_append_right _ (List.mem_cons_of_mem _ hold)))

/-- **A step sends nothing astray**, if what it brings in is for whom it may
be. -/
theorem addressed_step {l : DeliveryLabel δ π} (hsound : s.manager.IndexSound)
    (h : s.Addressed W) (hstep : s.step P S l = some t) (hnew : s.BringsTo W P l) :
    t.Addressed W := by
  have hmanager := manager_step hstep
  have hlistener : ∀ r ∈ s.held, t.manager.listenerOf r = s.manager.listenerOf r := fun r hr =>
    hmanager.listenerOf hsound.allocated (h.made r hr)
  have hmade := held_step hsound h.made hstep
  cases l with
  | insertSubscriber maxSubscriberNum info listener recordInfo =>
    cases hstep
    obtain ⟨huid, hpid⟩ :=
      s.manager.frozen_insertSubscriber S maxSubscriberNum info listener recordInfo
    exact h.manager hlistener hmade (huid ▸ h.byUid) (hpid ▸ h.byPid) s.buffered s.calls
  | removeSubscriber listener =>
    cases hstep
    obtain ⟨huid, hpid⟩ := SubscriberManager.frozen_removeSubscriber_eq (m := s.manager) listener
    have hkept : ∀ found : Option EventSubscriberRecord,
        (found.elim s.manager.frozenEvents (fun record => s.manager.frozenEvents.removeBySubscriber
            record.eventRecordInfo.uid record.commonEventListener)).Addressed W
          ∧ (found.elim s.manager.frozenEventsMap (fun record =>
            s.manager.frozenEventsMap.removeBySubscriber record.eventRecordInfo.pid
              record.commonEventListener)).Addressed W := by
      intro found
      cases found with
      | none => exact ⟨h.byUid, h.byPid⟩
      | some record => exact ⟨h.byUid.removeBySubscriber _ _, h.byPid.removeBySubscriber _ _⟩
    exact h.manager hlistener hmade (huid ▸ (hkept _).1) (hpid ▸ (hkept _).2) _ s.calls
  | getSubscriberRecords view =>
    cases hstep
    obtain ⟨huid, hpid⟩ := s.manager.frozen_getSubscriberRecords P view
    exact h.manager hlistener hmade (huid ▸ h.byUid) (hpid ▸ h.byPid) s.buffered s.calls
  | processUnorderedEvent eventRecord view subscriberRecord =>
    obtain ⟨-, rfl⟩ := processUnorderedEvent_cases hstep
    have hbuffers : (s.processUnorderedEvent P eventRecord view
          subscriberRecord).manager.frozenEvents = s.manager.frozenEvents
        ∧ (s.processUnorderedEvent P eventRecord view
          subscriberRecord).manager.frozenEventsMap = s.manager.frozenEventsMap := by
      unfold processUnorderedEvent
      cases subscriberRecord with
      | some r => exact ⟨rfl, rfl⟩
      | none => exact s.manager.frozen_getSubscriberRecords P view
    refine h.frame hlistener hmade ?_ (fun _ => Or.inl) (hbuffers.1 ▸ h.byUid)
      (hbuffers.2 ▸ h.byPid)
    intro task htask
    have hcases : task ∈ s.unorderedQueue ++ s.unorderedImmediateQueue
        ∨ task = .notifyUnorderedEvent s.nextRecord eventRecord.fillCommonEventRecord
          (subscriberRecord.elim (s.manager.getSubscriberRecords P view).1 ([·])) := by
      unfold processUnorderedEvent at htask
      cases subscriberRecord <;> cases hsystem : eventRecord.isSystemEvent
      all_goals
        simp only [hsystem, if_true, Bool.false_eq_true, if_false, List.mem_append,
          List.mem_singleton, Option.elim] at htask ⊢
        tauto
    rcases hcases with hold | rfl
    · exact Or.inl hold
    · exact Or.inr ⟨hnew, fun _ _ heq => by cases heq⟩
  | unordered =>
    obtain ⟨task, rest, hqueue, rfl⟩ := unordered_cases hstep
    obtain ⟨-, hiq, hord, -⟩ := stepTask_frame (s := s) task
    refine h.task [] (rest ++ s.unorderedImmediateQueue) ?_ ?_ hmade rfl hord
    · rw [hqueue]
      rfl
    · intro task' htask'
      simp only [hiq, List.mem_append, Option.mem_toList] at htask' ⊢
      tauto
  | unorderedImmediate =>
    obtain ⟨task, rest, hqueue, rfl⟩ := unorderedImmediate_cases hstep
    obtain ⟨huq, -, hord, -⟩ := stepTask_frame (s := s) task
    refine h.task s.unorderedQueue rest ?_ ?_ hmade rfl hord
    · rw [hqueue]
    · intro task' htask'
      simp only [huq, List.mem_append, Option.mem_toList] at htask' ⊢
      tauto
  | notifyOrderedEvent eventRecord subscriber =>
    obtain ⟨hordered, -, rfl⟩ := notifyOrderedEvent_cases hstep
    refine h.frame hlistener hmade (fun _ => Or.inl) (fun insertion hinsertion => Or.inr ?_)
      h.byUid h.byPid
    unfold notifyOrderedEvent at hinsertion
    dsimp only at hinsertion
    split at hinsertion
    · cases hinsertion
      exact hnew
    · cases hinsertion
  | notifyFrozenSubscriber =>
    obtain ⟨insertion, hordered, rfl⟩ := notifyFrozenSubscriber_cases hstep
    obtain ⟨huq, hiq, -, -⟩ := stepInsertion_frame (s := s) insertion
    have hW := h.ordered insertion hordered
    obtain ⟨huid, hpid⟩ := h.stepInsertion hW
    refine h.frame hlistener hmade (fun task htask => Or.inl ?_)
      (fun insertion' hnext => Or.inr ?_) huid hpid
    · dsimp only at htask
      rw [huq, hiq] at htask
      exact htask
    · have hlisteners := (manager_stepInsertion (s := s) insertion).listenerOf
        insertion.subscriber
      rw [eventRecord_stepInsertion hnext, subscriber_stepInsertion hnext]
      exact hlisteners.symm ▸ hW
  | freeze uid now =>
    cases hstep
    exact h.updateFreezeInfo _ true now s.calls
  | unfreeze uid =>
    cases hstep
    exact h.updateFreezeInfo _ false 0 _
  | setFreezeStatus pidList isFreeze now =>
    cases hstep
    exact h.updateFreezeInfo _ isFreeze now _
  | unfreezeAll =>
    cases hstep
    exact h.updateFreezeInfo _ false 0 _
  | call i =>
    obtain ⟨call, -, rfl⟩ := Option.map_eq_some_iff.mp hstep
    exact h.stepCall i call

end UnorderedDelivery

/-! ## The final receivers of ordered events -/

namespace ControlManager

variable {P : Platform} {S : StdSort} {s t : ControlManager}

/-- **Nobody is made a final receiver** of a record, though one may have been
called. -/
def NoNewResultTo (s t : ControlManager) : Prop :=
  ∀ r, ∀ l ∈ (t.records r).resultTo, l ∈ (s.records r).resultTo

theorem NoNewResultTo.of_records (h : ∀ r, t.records r = s.records r) : NoNewResultTo s t := by
  intro r l hl
  rw [h r] at hl
  exact hl

/-- A write to one record that leaves its final receiver, or takes it away. -/
theorem NoNewResultTo.update {r : ℕ} {record : OrderedEventRecord}
    (ht : t.records = Function.update s.records r record)
    (hrecord : ∀ l ∈ record.resultTo, l ∈ (s.records r).resultTo) : NoNewResultTo s t := by
  intro r' l hl
  rw [ht, Function.update_apply] at hl
  split at hl
  next h => exact h ▸ hrecord l hl
  next => exact hl

theorem NoNewResultTo.processOrderedEventQueueLocked {u : ControlManager} {removed : List ℕ}
    {sp : Option ℕ} (hrun : s.processOrderedEventQueueLocked = some (u, removed, sp)) :
    NoNewResultTo s u := by
  have hcheck : ∀ {s : ControlManager} {sp : ℕ} {u : ControlManager} {forced : Bool},
      s.checkTimeoutForceReceive sp = (u, forced) → NoNewResultTo s u := by
    intro s sp u forced h
    rcases s.checkTimeoutForceReceive_cases sp with ⟨-, heq⟩ | ⟨-, heq⟩
    all_goals
      rw [heq] at h
      cases h
    · exact .update (t := s.handleTimeoutReceiver sp s.now) rfl fun _ => id
    · exact .of_records fun _ => rfl
  refine DoWhile.doWhile_rule (f := processOrderedEventQueuePass) (s := (s, []))
    (fun loop => NoNewResultTo s loop.1) (fun result => NoNewResultTo s result.1) ?_ ?_
    (.of_records fun _ => rfl) hrun
  · rintro ⟨s', removed⟩ loop' h heq'
    rcases processOrderedEventQueuePass_cases (s := s') removed with ⟨-, heq⟩ |
      ⟨sp, rest, u, forced, -, hc, ⟨-, heq⟩ | ⟨-, -, heq⟩ | ⟨-, -, -, -, heq⟩⟩
    all_goals
      rw [heq] at heq'
      cases heq'
    obtain ⟨pending, timers, hcancel⟩ := u.cancelTimeout_eq
    rw [hcancel]
    exact fun r l hl => h r l (hcheck hc r l hl)
  · rintro ⟨s', removed⟩ result h heq'
    rcases processOrderedEventQueuePass_cases (s := s') removed with ⟨-, heq⟩ |
      ⟨sp, rest, u, forced, -, hc, ⟨-, heq⟩ | ⟨-, -, heq⟩ | ⟨-, -, -, -, heq⟩⟩
    all_goals
      rw [heq] at heq'
      cases heq'
    · exact h
    all_goals exact fun r l hl => h r l (hcheck hc r l hl)

theorem NoNewResultTo.stepThread {answer : Answer} (hstep : s.stepThread answer = some t) :
    NoNewResultTo s t := by
  have hcase := threadStep_of_stepThread hstep
  generalize s.thread = th at hcase
  cases hcase with
  | queueSection u removed sp hrun =>
    have h := NoNewResultTo.processOrderedEventQueueLocked hrun
    exact h
  | finalSubscriber removed rest sp =>
    unfold ControlManager.handleFinalSubscriber
    dsimp only
    split
    · exact .of_records fun _ => rfl
    · exact .update rfl fun _ hl => by cases hl
  | setTimeout sp i =>
    obtain ⟨pending, handler, next, timers, heq⟩ := s.setTimeout_eq
    rw [heq]
    exact .of_records fun _ => rfl
  | handleResult sp i isOk =>
    refine .update rfl fun l hl => ?_
    split at hl <;> exact hl
  | reschedule =>
    obtain ⟨scheduled, queue, heq⟩ := s.scheduleOrderedCommonEvent_eq
    rw [heq]
    exact .of_records fun _ => rfl
  | timeoutEarly sp hearly =>
    obtain ⟨pending, handler, next, timers, heq⟩ := s.setTimeout_eq
    rw [heq]
    exact .of_records fun _ => rfl
  | prepareNext sp | frozen sp i | prepareNotify sp i hproxy | invalidProxy sp i hproxy
  | storeIdle sp | timeoutHandle sp nowSysTime =>
    exact .update rfl fun _ => id
  | _ => exact .of_records fun _ => rfl

theorem NoNewResultTo.stepOp (i : ℕ) (op : ServiceOp) : NoNewResultTo s (s.stepOp i op) := by
  cases op with
  | schedule =>
    obtain ⟨scheduled, queue, heq⟩ :=
      { s with ops := s.ops.eraseIdx i }.scheduleOrderedCommonEvent_eq
    unfold ControlManager.stepOp
    rw [heq]
    exact .of_records fun _ => rfl
  | readResult sp receiver => exact .of_records fun _ => rfl
  | finishLoad call => exact .of_records fun _ => rfl
  | finishUpdate call state =>
    unfold ControlManager.stepOp
    dsimp only
    split
    · exact .update rfl fun _ => id
    · exact .update rfl fun _ => id

/-- **Only a publish makes a final receiver.** -/
theorem noNewResultTo_step {l : ControlLabel} (hl : ∀ request, l ≠ .publish request)
    (hstep : s.step P S l = some t) : NoNewResultTo s t := by
  cases l with
  | publish request => exact absurd rfl (hl request)
  | finishReceiver reply =>
    cases hstep
    unfold ControlManager.finishReceiver
    split <;> exact .of_records fun _ => rfl
  | unsubscribeCommonEvent listener =>
    cases hstep
    unfold ControlManager.unsubscribeCommonEvent
    split
    · exact .of_records fun _ => rfl
    · split <;> exact .of_records fun _ => rfl
  | op i =>
    obtain ⟨op, -, rfl⟩ := Option.map_eq_some_iff.mp hstep
    exact .stepOp i op
  | processNextOrderedEvent | timeout handler =>
    unfold ControlManager.step at hstep
    dsimp only at hstep
    split at hstep
    · cases hstep
      exact .of_records fun _ => rfl
    · cases hstep
  | thread answer => exact .stepThread hstep
  | _ =>
    cases hstep
    exact .of_records fun _ => rfl

/-- The record that a publish makes. -/
theorem records_processOrderedEvent_self (request : PublishRequest) :
    (s.processOrderedEvent P S request).records s.nextRecord
      = { commonEventData := s.nextCell
          publishInfo := s.nextCell
          recordTime := request.event.recordTime
          userId := request.event.userId
          eventRecordInfo := request.event.eventRecordInfo
          resultTo := request.resultTo
          receivers := sortedReceivers P S request
          deliveryState := (sortedReceivers P S request).map (fun _ => .PENDING) } :=
  Function.update_self _ _ _

theorem records_processOrderedEvent_of_ne (request : PublishRequest) {r : ℕ}
    (hr : r ≠ s.nextRecord) : (s.processOrderedEvent P S request).records r = s.records r :=
  Function.update_of_ne hr _ _

end ControlManager

/-! ## Whom a call chooses -/

namespace SubscriberManager

variable {P : Platform} {m : SubscriberManager δ π}

/-- **Who is looked up** is registered then, with a record that passes the
checks. -/
theorem matched_of_selected (hsound : m.IndexSound) {event : EventRecord} {r : SubscriberRecordPtr}
    (hr : r ∈ (m.getSubscriberRecords P event).1) :
    ∃ record, m.recordOf ((m.getSubscriberRecords P event).2.listenerOf r) = some record
      ∧ matchesLive P record event = true := by
  have hsound' := hsound.managerStep
    (UnorderedDelivery.manager_getSubscriberRecords (S := .insertion) (P := P) m event)
  have hselected :
      r ∈ (m.getSubscriberRecords P event).2.getSubscriberRecordsByWantLocked P event := hr
  obtain ⟨hlisted, hmatches⟩ := mem_getSubscriberRecordsByWantLocked.mp hselected
  refine ⟨_, ?_, hmatches⟩
  rw [← recordOf_getSubscriberRecords hsound.allocated P event]
  exact recordOf_of_mem hsound' (hsound'.mem_subscribersOf hlisted).1

/-- The record of a subscription that is not refused notes down who
subscribed. -/
theorem eventRecordInfo_insertSubscriber (S : StdSort) {maxSubscriberNum : ℕ}
    {info : CommonEventSubscribeInfo} {listener : Option Remote} {recordInfo : EventRecordInfo}
    {r : SubscriberRecordPtr} {m' : SubscriberManager δ π}
    (h : m.insertSubscriber S maxSubscriberNum (some info) listener recordInfo = (some r, m')) :
    (m'.heap r).eventRecordInfo = recordInfo := by
  cases listener with
  | none => cases h
  | some listener =>
    unfold insertSubscriber at h
    dsimp only at h
    split at h
    · cases h
    · cases hfind : m.getSubscriberRecord listener with
      | some record =>
        rw [hfind] at h
        cases h
        simp [updateSubscriberRecordLocked]
      | none =>
        rw [hfind] at h
        dsimp only at h
        rcases insertSubscriberRecordLocked_cases S
            (m := { m with
              nextAddr := m.nextAddr + 1
              heap := Function.update m.heap m.nextAddr
                { eventSubscribeInfo := info
                  commonEventListener := listener
                  eventRecordInfo := recordInfo } })
            maxSubscriberNum info.getEvents m.nextAddr with hins | ⟨killed, counts, hins⟩
        all_goals
          rw [hins] at h
          cases h
        simp

end SubscriberManager

namespace InnerCommonEventManager

variable {P : Platform} {S : StdSort} {C : Config} {s t : InnerCommonEventManager}
  {W : Remote → CommonEventRecord CellId CellId → Prop}

/-- **Whom a call chooses for an event**: a publish whoever is registered with
a record that passes all checks, and, if it is ordered, the listener that it
is to give the result to; a subscription its own listener, for what is stored
under the names it asks for and is meant for any bundle or for its own. -/
inductive Chooses (P : Platform) (C : Config) (s : InnerCommonEventManager) (l : Remote)
    (event : CommonEventRecord CellId CellId) : ServiceLabel → Prop
  | matched (args : PublishArgs) (env : StaticEnvironment) (comeFrom : EventComeFrom) (user : Int)
      (record : EventSubscriberRecord) (hcheck : checkPublish P C args = some (comeFrom, user))
      (hevent : event = (s.eventRecordOf P args comeFrom user).fillCommonEventRecord)
      (hrecord : s.delivery.manager.recordOf l = some record)
      (hmatches : matchesLive P record { s.eventRecordOf P args comeFrom user with
        commonEventData := args.data
        publishInfo := args.publishInfo } = true) :
      Chooses P C s l event (.publishCommonEvent args env)
  | resultTo (args : PublishArgs) (env : StaticEnvironment) (comeFrom : EventComeFrom)
      (user : Int) (hcheck : checkPublish P C args = some (comeFrom, user))
      (hevent : event = (s.eventRecordOf P args comeFrom user).fillCommonEventRecord)
      (hordered : args.publishInfo.ordered = true)
      (hlistener : args.commonEventListener = some l) :
      Chooses P C s l event (.publishCommonEvent args env)
  | replayed (args : SubscribeArgs) (info : CommonEventSubscribeInfo)
      (recordInfo : EventRecordInfo) (name : String) (record : CommonEventRecord CellId CellId)
      (hcheck : checkSubscribe P C args = some (info, recordInfo))
      (hlistener : args.commonEventListener = some l) (hname : name ∈ info.getEvents)
      (hstored : AList.lookup name s.sticky = some record)
      (hevent : event = record.fillCommonEventRecord)
      (hassigned : (s.control.infos record.publishInfo).bundleName = ""
        ∨ (s.control.infos record.publishInfo).bundleName = args.bundleName) :
      Chooses P C s l event (.subscribeCommonEvent args)

/-- **Whatever is on its way in the service is for whom it may be.** The
listener that an ordered record has beside each receiver is the receiver's
own. -/
structure Addressed (W : Remote → CommonEventRecord CellId CellId → Prop)
    (s : InnerCommonEventManager) : Prop where
  delivery : s.delivery.Addressed W
  receivers : ∀ r, ∀ receiver ∈ (s.control.records r).receivers,
    s.delivery.manager.listenerOf receiver.record = receiver.commonEventListener
      ∧ W receiver.commonEventListener
        (s.control.records r).toCommonEventRecord.fillCommonEventRecord
  resultTo : ∀ r, ∀ l ∈ (s.control.records r).resultTo,
    W l (s.control.records r).toCommonEventRecord.fillCommonEventRecord

/-- The rule for a step that makes no ordered record. -/
theorem Addressed.of_parts (hs : (serviceMachine P S C).Reachable s) (h : s.Addressed W)
    (hlistener : ∀ r < s.delivery.manager.nextAddr,
      t.delivery.manager.listenerOf r = s.delivery.manager.listenerOf r)
    (hid : ∀ r, t.control.identity r = s.control.identity r)
    (hresultTo : ControlManager.NoNewResultTo s.control t.control)
    (hdelivery : t.delivery.Addressed W) : t.Addressed W := by
  refine ⟨hdelivery, fun r receiver hreceiver => ?_, fun r l hl => ?_⟩
  · obtain ⟨hevent, hreceivers⟩ := Prod.mk.inj (hid r)
    rw [hreceivers] at hreceiver
    rw [hlistener _ (receivers_allocated hs r receiver hreceiver), hevent]
    exact h.receivers r receiver hreceiver
  · rw [(Prod.mk.inj (hid r)).1]
    exact h.resultTo r l (hresultTo r l hl)

/-- The rule for a step that makes an ordered record. -/
theorem Addressed.processOrderedEvent (hs : (serviceMachine P S C).Reachable s)
    (h : s.Addressed W) (request : PublishRequest)
    (hrequest : request.manager = s.delivery.manager)
    (hcontrol : t.control = s.control.processOrderedEvent P S request)
    (hdelivery : t.delivery = { s.delivery with
      manager := (s.delivery.manager.getSubscriberRecords P request.event).2 })
    (hmatched : ∀ r ∈ (s.delivery.manager.getSubscriberRecords P request.event).1,
      W ((s.delivery.manager.getSubscriberRecords P request.event).2.listenerOf r)
        { request.event with
          isSystemEvent := false
          commonEventData := s.control.nextCell
          publishInfo := s.control.nextCell })
    (hresultTo : ∀ l ∈ request.resultTo, W l { request.event with
      isSystemEvent := false
      commonEventData := s.control.nextCell
      publishInfo := s.control.nextCell }) : t.Addressed W := by
  have hsound := indexSound_reachable hs
  have hstep : s.delivery.step P S (.getSubscriberRecords request.event) = some t.delivery := by
    rw [hdelivery]
    rfl
  have hlistener : ∀ r < s.delivery.manager.nextAddr,
      t.delivery.manager.listenerOf r = s.delivery.manager.listenerOf r :=
    fun r hr => (UnorderedDelivery.manager_step hstep).listenerOf hsound.allocated hr
  refine ⟨UnorderedDelivery.addressed_step hsound h.delivery hstep trivial,
    fun r receiver hreceiver => ?_, fun r l hl => ?_⟩
  · rw [hcontrol] at hreceiver ⊢
    by_cases hr : r = s.control.nextRecord
    · subst hr
      rw [ControlManager.records_processOrderedEvent_self] at hreceiver ⊢
      obtain ⟨record, hrecord, rfl⟩ := List.mem_map.mp hreceiver
      have hlooked := (S.perm _ _).mem_iff.mp hrecord
      rw [hrequest] at hlooked ⊢
      rw [hdelivery]
      exact ⟨rfl, hmatched record hlooked⟩
    · rw [ControlManager.records_processOrderedEvent_of_ne _ hr] at hreceiver ⊢
      rw [hlistener _ (receivers_allocated hs r receiver hreceiver)]
      exact h.receivers r receiver hreceiver
  · rw [hcontrol] at hl ⊢
    by_cases hr : r = s.control.nextRecord
    · subst hr
      rw [ControlManager.records_processOrderedEvent_self] at hl ⊢
      exact hresultTo l hl
    · rw [ControlManager.records_processOrderedEvent_of_ne _ hr] at hl ⊢
      exact h.resultTo r l hl

/-- **A publish sends its event to those it chooses.** -/
theorem Addressed.publishCommonEvent (hs : (serviceMachine P S C).Reachable s)
    (h : s.Addressed W) (args : PublishArgs) (env : StaticEnvironment)
    (hnew : ∀ l event, s.Chooses P C l event (.publishCommonEvent args env) → W l event) :
    (s.publishCommonEvent P S C args env).2.Addressed W := by
  have hsound := indexSound_reachable hs
  rcases publishCommonEvent_cases (P := P) (S := S) (C := C) s args env with ⟨-, heq⟩ |
    ⟨comeFrom, user, hcheck, ⟨-, heq⟩ | ⟨-, u, rfl, ⟨-, heq⟩ | ⟨-, heq⟩⟩⟩
  all_goals rw [heq]
  · exact h
  · exact ⟨h.delivery, h.receivers, h.resultTo⟩
  · exact ⟨h.delivery, h.receivers, h.resultTo⟩
  -- the receivers are looked up, whether the event is ordered or not
  have hmatched : ∀ r ∈ (s.delivery.manager.getSubscriberRecords P
      { s.eventRecordOf P args comeFrom user with
        commonEventData := args.data
        publishInfo := args.publishInfo }).1,
      W ((s.delivery.manager.getSubscriberRecords P
        { s.eventRecordOf P args comeFrom user with
          commonEventData := args.data
          publishInfo := args.publishInfo }).2.listenerOf r)
        (s.eventRecordOf P args comeFrom user).fillCommonEventRecord := by
    intro r hr
    obtain ⟨record, hrecord, hmatches⟩ := SubscriberManager.matched_of_selected hsound hr
    exact hnew _ _ (.matched args env comeFrom user record hcheck rfl hrecord hmatches)
  unfold controlPublishCommonEvent
  split
  next hordered =>
    exact Addressed.processOrderedEvent hs h ⟨s.delivery.manager, _, args.commonEventListener⟩ rfl
      rfl rfl hmatched fun l hl =>
        hnew _ _ (.resultTo args env comeFrom user hcheck rfl hordered hl)
  next hordered =>
    have hstep := UnorderedDelivery.step_processUnorderedEvent (P := P) (S := S)
      (s := s.delivery) (s.eventRecordOf P args comeFrom user)
      { s.eventRecordOf P args comeFrom user with
        commonEventData := args.data
        publishInfo := args.publishInfo }
      (fun (r : SubscriberRecordPtr) (hr : r ∈ none) => Option.some_ne_none r hr.symm |>.elim)
    refine Addressed.of_parts hs h (fun r hr => ?_) (fun _ => rfl) (.of_records fun _ => rfl) ?_
    · exact (UnorderedDelivery.manager_step hstep).listenerOf hsound.allocated hr
    · exact UnorderedDelivery.addressed_step hsound h.delivery hstep hmatched

/-- What passes the checks of a subscription asks for what its caller asked
for, but for the user. -/
theorem info_of_checkSubscribe {args : SubscribeArgs} {info : CommonEventSubscribeInfo}
    {recordInfo : EventRecordInfo} (hcheck : checkSubscribe P C args = some (info, recordInfo)) :
    info = { args.subscribeInfo with userId := info.userId } := by
  unfold checkSubscribe at hcheck
  split at hcheck
  · cases hcheck
  split at hcheck
  · cases hcheck
  obtain ⟨⟨comeFrom, user⟩, -, heq⟩ := Option.map_eq_some_iff.mp hcheck
  cases heq
  rfl

/-- What is replayed to a subscriber just inserted, the subscription chooses. -/
theorem chooses_of_replayed {args : SubscribeArgs} {info : CommonEventSubscribeInfo}
    {recordInfo : EventRecordInfo} (hcheck : checkSubscribe P C args = some (info, recordInfo))
    {r : SubscriberRecordPtr} (hr : (s.insertSubscriber S args info recordInfo).1 = some r)
    {record : CommonEventRecord CellId CellId}
    (hrecord : record ∈ (s.insertSubscriber S args info recordInfo).2.replayed C info r) :
    s.Chooses P C ((s.insertSubscriber S args info recordInfo).2.delivery.manager.listenerOf r)
      record.fillCommonEventRecord (.subscribeCommonEvent args) := by
  have hinsert : s.delivery.manager.insertSubscriber S args.maxSubscriberNum (some info)
      args.commonEventListener recordInfo
      = (some r, (s.insertSubscriber S args info recordInfo).2.delivery.manager) :=
    Prod.ext hr rfl
  obtain ⟨-, -, hlistener⟩ := SubscriberManager.insertSubscriber_some S hinsert
  have hinfo := SubscriberManager.eventRecordInfo_insertSubscriber S hinsert
  obtain ⟨comeFrom, -, hrecordInfo⟩ := checkUserId_of_checkSubscribe hcheck
  unfold replayed at hrecord
  split at hrecord
  · obtain ⟨hfound, hassigned⟩ := List.mem_filter.mp hrecord
    obtain ⟨name, hname, hstored⟩ := StickyManager.mem_findStickyEvents _ |>.mp hfound
    refine .replayed args info recordInfo name record hcheck hlistener hname hstored rfl ?_
    -- the record inserted has the bundle of the caller
    unfold isAssignedTo at hassigned
    rw [hinfo, hrecordInfo] at hassigned
    exact ((Bool.or_eq_true _ _).mp hassigned).imp of_decide_eq_true of_decide_eq_true
  · cases hrecord

/-- **A subscription sends its listener what it chooses for it.** -/
theorem Addressed.subscribeCommonEvent (hs : (serviceMachine P S C).Reachable s)
    (h : s.Addressed W) (args : SubscribeArgs)
    (hnew : ∀ l event, s.Chooses P C l event (.subscribeCommonEvent args) → W l event) :
    (s.subscribeCommonEvent P S C args).Addressed W := by
  have hsound := indexSound_reachable hs
  have hrecords : (s.subscribeCommonEvent P S C args).control.records = s.control.records :=
    subscribeCommonEvent_induction (P := P) (S := S) (C := C) (s := s)
      (I := fun t => t.control.records = s.control.records) (fun _ _ => rfl) (fun _ _ ht => ht)
      (fun _ _ _ _ _ ht => ht) rfl
  refine Addressed.of_parts (t := s.subscribeCommonEvent P S C args) hs h (fun r hr => ?_)
    (fun r => ?_) (.of_records fun r => congrFun hrecords r) ?_
  · exact (manager_step (s := s) (l := .subscribeCommonEvent args) rfl).listenerOf
      hsound.allocated hr
  · unfold ControlManager.identity
    rw [hrecords]
  unfold InnerCommonEventManager.subscribeCommonEvent
  cases hcheck : checkSubscribe P C args with
  | none => exact h.delivery
  | some checked =>
    obtain ⟨info, recordInfo⟩ := checked
    dsimp only
    have hstep : s.delivery.step P S (.insertSubscriber args.maxSubscriberNum (some info)
        args.commonEventListener recordInfo) = some (s.insertSubscriber S args info
          recordInfo).2.delivery := rfl
    have hinserted := UnorderedDelivery.addressed_step hsound h.delivery hstep trivial
    have hsound' := hsound.managerStep (UnorderedDelivery.manager_step hstep)
    cases hr : (s.insertSubscriber S args info recordInfo).1 with
    | none => exact hinserted
    | some r =>
      rw [delivery_publishStickyEvent]
      have hinsert : s.delivery.manager.insertSubscriber S args.maxSubscriberNum (some info)
          args.commonEventListener recordInfo
          = (some r, (s.insertSubscriber S args info recordInfo).2.delivery.manager) :=
        Prod.ext hr rfl
      have hmem := (SubscriberManager.insertSubscriber_some S hinsert).1
      have hrounds : ∀ records ⊆ (s.insertSubscriber S args info recordInfo).2.replayed C info r,
          (records.foldl (fun delivery record => delivery.processUnorderedEvent P record
            ((s.insertSubscriber S args info recordInfo).2.view record) (some r))
            (s.insertSubscriber S args info recordInfo).2.delivery).Addressed W := by
        intro records hsub
        refine (List.foldlRecOn (motive := fun delivery : UnorderedDelivery CellId CellId =>
            delivery.Addressed W
              ∧ delivery.manager = (s.insertSubscriber S args info recordInfo).2.delivery.manager)
          records _ ⟨hinserted, rfl⟩ ?_).1
        rintro delivery ⟨haddressed, hmanager⟩ record hrecord
        have hsound'' : delivery.manager.IndexSound := hmanager ▸ hsound'
        have hallocated : ∀ r' ∈ some r, r' < delivery.manager.nextAddr := by
          rintro _ ⟨⟩
          exact hmanager ▸ hsound'.allocated r hmem
        refine ⟨UnorderedDelivery.addressed_step hsound'' haddressed
          (UnorderedDelivery.step_processUnorderedEvent (P := P) (S := S) record _ hallocated) ?_,
          hmanager⟩
        intro vec hvec
        obtain rfl := List.mem_singleton.mp hvec
        refine hnew _ _ ?_
        have hchooses := chooses_of_replayed hcheck hr (hsub hrecord)
        exact hmanager ▸ hchooses
      exact hrounds _ (List.Subset.refl _)

/-- **Every step keeps the events with those they are for**, and sends new ones
to those that its call chooses. -/
theorem addressed_step (hs : (serviceMachine P S C).Reachable s) (h : s.Addressed W)
    {l : ServiceLabel} (hstep : s.step P S C l = some t)
    (hnew : ∀ listener event, s.Chooses P C listener event l → W listener event) :
    t.Addressed W := by
  have hsound := indexSound_reachable hs
  have hparts : (t.control = s.control ∨ ∃ l', (∀ request, l' ≠ .publish request)
        ∧ s.control.step P S l' = some t.control) → t.delivery.Addressed W → t.Addressed W := by
    have hlistener : ∀ r < s.delivery.manager.nextAddr,
        t.delivery.manager.listenerOf r = s.delivery.manager.listenerOf r := fun r hr =>
      (manager_step hstep).listenerOf hsound.allocated hr
    rintro (hcontrol | ⟨l', hpublish, hcontrol⟩) hdelivery
    · exact h.of_parts hs hlistener (fun r => by rw [hcontrol])
        (.of_records fun r => by rw [hcontrol]) hdelivery
    · rcases ControlManager.identity_step hcontrol with ⟨request, rfl, -⟩ | ⟨-, hid, -, -⟩
      · exact absurd rfl (hpublish request)
      · exact h.of_parts hs hlistener hid (ControlManager.noNewResultTo_step hpublish hcontrol)
          hdelivery
  have hdelivery : ∀ (l' : DeliveryLabel CellId CellId) {delivery},
      s.delivery.step P S l' = some delivery → s.delivery.BringsTo W P l' →
      delivery.Addressed W := fun _ _ hstep' hbrings =>
    UnorderedDelivery.addressed_step hsound h.delivery hstep' hbrings
  cases l with
  | publishCommonEvent args env =>
    cases hstep
    exact h.publishCommonEvent hs args env hnew
  | subscribeCommonEvent args =>
    cases hstep
    exact h.subscribeCommonEvent hs args hnew
  | unsubscribeCommonEvent listener =>
    have ht : s.unsubscribeCommonEvent C listener = t := Option.some.inj hstep
    unfold unsubscribeCommonEvent at ht
    split at ht
    · subst ht
      exact h
    · subst ht
      exact hparts (Or.inr ⟨.unsubscribeCommonEvent listener, by simp, rfl⟩)
        (hdelivery (.removeSubscriber listener) rfl trivial)
  | finishReceiver reply =>
    have ht : s.finishReceiver C reply = t := Option.some.inj hstep
    unfold finishReceiver at ht
    split at ht
    · subst ht
      exact hparts (Or.inr ⟨.finishReceiver reply, by simp, rfl⟩) h.delivery
    · subst ht
      exact h
  | removeStickyCommonEvent event' callerUid =>
    cases hstep
    exact hparts (Or.inl rfl) h.delivery
  | setStaticSubscriberState callingUid bundleName events enable =>
    have ht : s.setStaticSubscriberState P C callingUid bundleName events enable = t :=
      Option.some.inj hstep
    unfold setStaticSubscriberState at ht
    split at ht
    · subst ht
      exact hparts (Or.inl rfl) h.delivery
    · subst ht
      exact h
  | freeze uid now =>
    cases hstep
    exact hparts (Or.inl rfl) (hdelivery (.freeze uid now) rfl trivial)
  | unfreeze uid =>
    have ht : s.unfreeze C uid = t := Option.some.inj hstep
    unfold unfreeze release at ht
    split at ht
    all_goals
      subst ht
      exact hparts (Or.inl rfl) (h.delivery.updateFreezeInfo _ false 0 _)
  | setFreezeStatus pidList isFreeze now =>
    have ht : s.setFreezeStatus C pidList isFreeze now = t := Option.some.inj hstep
    unfold setFreezeStatus release at ht
    split at ht
    all_goals
      subst ht
      exact hparts (Or.inl rfl) (h.delivery.updateFreezeInfo _ isFreeze now _)
  | unfreezeAll =>
    have ht : s.unfreezeAll C = t := Option.some.inj hstep
    unfold unfreezeAll release at ht
    split at ht
    all_goals
      subst ht
      exact hparts (Or.inl rfl) (h.delivery.updateFreezeInfo _ false 0 _)
  | onRemoteDied remote =>
    cases hstep
    exact hparts (Or.inl rfl) (hdelivery (.removeSubscriber (some remote)) rfl trivial)
  | control l =>
    have hpublish : ∀ l' : ControlLabel, l'.isInternal = true →
        ∀ request, l' ≠ .publish request := by
      rintro l' hinternal request rfl
      cases hinternal
    rcases controlStep_cases hstep with
      ⟨l', control, hinternal, -, hcontrol, rfl |
        ⟨sp, receiver, hreceiver, delivery, hnotify, rfl⟩⟩ |
      ⟨-, insertion, delivery, -, -, hnotify, rfl⟩
    · exact hparts (Or.inr ⟨l', hpublish l' hinternal, hcontrol⟩) h.delivery
    · obtain ⟨hlistener, hW⟩ := h.receivers sp receiver hreceiver
      refine hparts (Or.inr ⟨l', hpublish l' hinternal, hcontrol⟩) (hdelivery _ hnotify ?_)
      show W (s.delivery.manager.listenerOf receiver.record) _
      rw [hlistener]
      exact hW
    · exact hparts (Or.inl (s.noteInsertion_control insertion)) (hdelivery _ hnotify trivial)
  | unordered =>
    obtain ⟨delivery, hqueue, rfl⟩ := Option.map_eq_some_iff.mp hstep
    exact hparts (Or.inl (s.note_control _)) (hdelivery _ hqueue trivial)
  | unorderedImmediate =>
    obtain ⟨delivery, hqueue, rfl⟩ := Option.map_eq_some_iff.mp hstep
    exact hparts (Or.inl (s.note_control _)) (hdelivery _ hqueue trivial)
  | call i =>
    obtain ⟨delivery, hcall, rfl⟩ := Option.map_eq_some_iff.mp hstep
    exact hparts (Or.inl rfl) (hdelivery _ hcall trivial)

/-- **Whom the next step of the service notifies**, and of what: it may call
`NotifyEvent` of these listeners, and of no others. -/
def notifies (s : InnerCommonEventManager) :
    ServiceLabel → List (Remote × CommonEventRecord CellId CellId)
  | .unordered =>
    s.delivery.unorderedQueue.head?.elim [] (UnorderedTask.notifies s.delivery.manager)
  | .unorderedImmediate =>
    s.delivery.unorderedImmediateQueue.head?.elim [] (UnorderedTask.notifies s.delivery.manager)
  | .control (.thread _) =>
    match s.control.thread with
    | .call sp recIdx =>
      let record := s.control.records sp
      (record.receivers[recIdx]?.map (fun receiver =>
        (receiver.commonEventListener, record.toCommonEventRecord.fillCommonEventRecord))).toList
    | .finals (removed :: _) _ =>
      let record := s.control.records removed
      (record.resultTo.map (fun resultTo =>
        (resultTo, record.toCommonEventRecord.fillCommonEventRecord))).toList
    | _ => []
  | _ => []

/-- Nobody is notified of what is not for it. -/
theorem Addressed.notifies (h : s.Addressed W) (l : ServiceLabel) :
    ∀ sent ∈ s.notifies l, W sent.1 sent.2 := by
  have hqueue : ∀ queue, queue ⊆ s.delivery.unorderedQueue ++ s.delivery.unorderedImmediateQueue →
      ∀ sent ∈ queue.head?.elim [] (UnorderedTask.notifies s.delivery.manager),
        W sent.1 sent.2 := by
    intro queue hsub sent hsent
    cases queue with
    | nil => cases hsent
    | cons task rest =>
      exact (h.delivery.tasks task (hsub List.mem_cons_self)).notifies sent hsent
  intro sent hsent
  unfold InnerCommonEventManager.notifies at hsent
  split at hsent
  · exact hqueue _ (List.subset_append_left _ _) sent hsent
  · exact hqueue _ (List.subset_append_right _ _) sent hsent
  · split at hsent
    · obtain ⟨receiver, hreceiver, rfl⟩ := Option.map_eq_some_iff.mp (Option.mem_toList.mp hsent)
      exact (h.receivers _ receiver (List.mem_of_getElem? hreceiver)).2
    · obtain ⟨l, hl, rfl⟩ := Option.map_eq_some_iff.mp (Option.mem_toList.mp hsent)
      exact h.resultTo _ l hl
    · cases hsent
  · cases hsent

end InnerCommonEventManager

/-! ## Who is notified under the front -/

namespace ServiceFront

variable {P : FrontPlatform} {S : StdSort} {C : Config} {s : ServiceFront}

/-- **Whose record it is**: a call of the run subscribed the listener, with
what the record asks for but the user, and the record bears its caller's
identity. -/
def SubscribedByCall (P : FrontPlatform) (ls : List FrontLabel) (l : Remote)
    (record : EventSubscriberRecord) : Prop :=
  ∃ caller subscribeInfo recordTime user,
    .subscribeCommonEvent caller subscribeInfo (some l) recordTime ∈ ls
      ∧ record.eventSubscribeInfo = { subscribeInfo with userId := user }
      ∧ record.eventRecordInfo.pid = caller.pid ∧ record.eventRecordInfo.uid = caller.uid
      ∧ record.eventRecordInfo.callerToken = caller.tokenId
      ∧ record.eventRecordInfo.bundleName = P.bundleNameOf caller.tokenId caller.uid

/-- A call that is made on the service chooses a listener for an event. -/
def Chose (P : FrontPlatform) (C : Config) (l : Remote) (event : CommonEventRecord CellId CellId)
    (s : ServiceFront) (call : FrontLabel) : Prop :=
  ∃ label ∈ s.calls P C call, s.innerCommonEventManager.Chooses P.toPlatform C l event label

/-- Whatever is on its way, a call of the run chose for whom it is. -/
theorem addressed_of_run {ls : List FrontLabel} (hs : (frontMachine P S C).run ls = some s) :
    s.innerCommonEventManager.Addressed
      (fun l event => (frontMachine P S C).Did (Chose P C l event) ls) := by
  refine Machine.run_induction (M := frontMachine P S C)
    (R := fun ls s => ∀ W : Remote → CommonEventRecord CellId CellId → Prop,
      (∀ l event, (frontMachine P S C).Did (Chose P C l event) ls → W l event) →
      s.innerCommonEventManager.Addressed W) ?_ ?_ hs _ fun _ _ h => h
  · intro W hW
    exact
      { delivery :=
          { tasks := fun _ h => absurd h List.not_mem_nil
            ordered := fun _ h => by cases h
            byUid := fun _ _ _ h => by cases h
            byPid := fun _ _ _ h => by cases h
            made := fun _ h => absurd h List.not_mem_nil }
        receivers := fun _ _ h => absurd h List.not_mem_nil
        resultTo := fun _ _ h => by cases h }
  · intro ls call s t hs ih hstep W hW
    have hold := ih W fun l event h => hW l event h.append
    rcases calls_cases hstep with ⟨-, hinner⟩ | ⟨label, hcalls, hinner⟩
    · rw [hinner]
      exact hold
    · have hlabel : label ∈ s.calls P C call := by
        rw [hcalls]
        exact List.mem_singleton_self label
      refine InnerCommonEventManager.addressed_step (inner_reachable ⟨ls, hs⟩) hold hinner ?_
      exact fun l event hchooses => hW l event (.last hs ⟨label, hlabel, hchooses⟩)

/-- Whoever is registered, a call of the run subscribed. -/
theorem subscribedByCall_of_run {ls : List FrontLabel}
    (hs : (frontMachine P S C).run ls = some s) {l : Remote} {record : EventSubscriberRecord}
    (hrecord : s.innerCommonEventManager.delivery.manager.recordOf l = some record) :
    SubscribedByCall P ls l record := by
  obtain ⟨args, hargs, hlistener, hcheck⟩ :=
    InnerCommonEventManager.subscribedBy_of_run (inner_run hs) hrecord
  have hgranted := granted_of_outputs hs hargs
  cases hgranted with
  | subscribeCommonEvent caller recordTime args hcall hpid huid htoken hbundle huser =>
    rw [hlistener] at hcall
    obtain ⟨comeFrom, -, hinfo⟩ := InnerCommonEventManager.checkUserId_of_checkSubscribe hcheck
    refine ⟨caller, args.subscribeInfo, recordTime, record.eventSubscribeInfo.userId, hcall,
      InnerCommonEventManager.info_of_checkSubscribe hcheck, ?_⟩
    rw [hinfo]
    exact ⟨hpid, huid, htoken, hbundle⟩
  | internal label hlabel => cases hlabel

/-- **Whoever is notified was chosen.** In every run of the front, each
listener that the service notifies of an event, at any step of any of its
queues, was chosen for that event by a call of the run, which its caller could
make: registered then, by a call of its own that the record bears the identity
of, and matched by all checks on that record; or it was the listener that the
publish of an ordered event named for the result; or the sticky event was
stored under a name that it subscribed to. -/
theorem notified_were_chosen {ls : List FrontLabel} (hs : (frontMachine P S C).run ls = some s)
    {label : ServiceLabel} {l : Remote} {event : CommonEventRecord CellId CellId}
    (h : (l, event) ∈ s.innerCommonEventManager.notifies label) :
    ∃ pre call post u, ls = pre ++ call :: post ∧ (frontMachine P S C).run pre = some u
      ∧ ∃ label' ∈ u.calls P C call,
        u.innerCommonEventManager.Chooses P.toPlatform C l event label'
        ∧ Granted P C (pre ++ [call]) label'
        ∧ ∀ record, u.innerCommonEventManager.delivery.manager.recordOf l = some record →
          SubscribedByCall P pre l record := by
  obtain ⟨pre, call, post, u, rfl, hpre, label', hlabel', hchooses⟩ :=
    (addressed_of_run hs).notifies label _ h
  refine ⟨pre, call, post, u, rfl, hpre, label', hlabel', hchooses, ?_,
    fun record hrecord => subscribedByCall_of_run hpre hrecord⟩
  -- the call was made, so what it called was granted
  rw [List.append_cons, Machine.run_append] at hs
  obtain ⟨t, ht, -⟩ := Option.bind_eq_some_iff.mp hs
  refine granted_of_outputs ht ?_
  rw [Machine.outputs_concat _ _ hpre]
  exact List.mem_append_right _ hlabel'

/-- The application that has subscribed is about to be notified: its own
publish chose it. -/
theorem notified_were_chosen_untilPublished :
    ∃ s event, (frontMachine {} .insertion {}).run untilPublished = some s
      ∧ (⟨1⟩, event) ∈ s.innerCommonEventManager.notifies .unordered
      ∧ ∃ pre call post u, untilPublished = pre ++ call :: post
        ∧ (frontMachine {} .insertion {}).run pre = some u
        ∧ ∃ label' ∈ u.calls {} {} call,
          u.innerCommonEventManager.Chooses ({} : FrontPlatform).toPlatform {} ⟨1⟩ event
            label'
          ∧ Granted {} {} (pre ++ [call]) label'
          ∧ ∀ record, u.innerCommonEventManager.delivery.manager.recordOf ⟨1⟩ = some record →
            SubscribedByCall {} pre ⟨1⟩ record := by
  obtain ⟨s, hs, hsent⟩ := Option.map_eq_some_iff.mp
    (show ((frontMachine {} .insertion {}).run untilPublished).map
      (fun s => (s.innerCommonEventManager.notifies .unordered).map Prod.fst)
        = some [⟨1⟩] by decide +kernel)
  obtain ⟨⟨l, event⟩, hnotifies, rfl⟩ :=
    List.mem_map.mp (hsent ▸ List.mem_singleton_self (⟨1⟩ : Remote))
  exact ⟨s, event, hs, hnotifies, notified_were_chosen hs hnotifies⟩

end ServiceFront

end CommonEventService

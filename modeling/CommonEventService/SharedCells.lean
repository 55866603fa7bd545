import CommonEventService.FrozenRedelivery
import CommonEventService.ServiceInvariants

/-!
# Who shares the data of an event

The data of an event is written once, by the publish, into a cell that is
shared from then on: by the sticky store, by the records in flight, and by
whatever is kept for the frozen. The one thing that writes into a cell later
is the reply of a receiver of an ordered event, and it writes into the cell
of all of them.

So the sticky store returns what was published, and a frozen subscriber is
sent what was kept for it, only as long as no reply changes a cell that one
of these holds. `CellsOk` says so, and `Intact` – what the store and the
buffers should hold – is preserved by a step exactly under it.
-/

namespace CommonEventService

open FrozenBuffer

/-! ## What is kept, and what may come to be -/

/-- The keeping that an insertion has begun. -/
def FrozenInsertion.kept {δ π : Type} (insertion : FrozenInsertion δ π) : List (Buffered δ) :=
  insertion.buffering.toList.map
    (fun buffering => ⟨insertion.eventRecord.commonEventData, buffering⟩)

namespace UnorderedTask

variable {δ π : Type}

/-- The keepings a task holds. -/
def kept : UnorderedTask δ π → List (Buffered δ)
  | .notifyUnorderedEvent _ _ _ => []
  | .handleFrozenUnorderedSubscriber _ insertion _ => insertion.kept
  | .notifyFreezeEvents _ eventRecord => [eventRecord.commonEventData]

/-- The event a task notifies. -/
def inFlight : UnorderedTask δ π → List δ
  | .notifyUnorderedEvent _ eventRecord _ => [eventRecord.commonEventData]
  | .handleFrozenUnorderedSubscriber _ insertion _ => [insertion.eventRecord.commonEventData]
  | .notifyFreezeEvents _ _ => []

end UnorderedTask

namespace SubscriberManager

variable {δ π : Type}

/-- The keepings in the two buffers. -/
def kept (m : SubscriberManager (Buffered δ) π) : List (Buffered δ) :=
  (m.frozenEvents.events ++ m.frozenEventsMap.events).map (fun record => record.commonEventData)

theorem kept_subset {m m' : SubscriberManager (Buffered δ) π}
    (huid : m'.frozenEvents.events ⊆ m.frozenEvents.events)
    (hpid : m'.frozenEventsMap.events ⊆ m.frozenEventsMap.events) : m'.kept ⊆ m.kept :=
  List.map_subset _ (List.append_subset.mpr
    ⟨List.Subset.trans huid (List.subset_append_left _ _),
      List.Subset.trans hpid (List.subset_append_right _ _)⟩)

theorem kept_congr {m m' : SubscriberManager (Buffered δ) π}
    (huid : m'.frozenEvents = m.frozenEvents) (hpid : m'.frozenEventsMap = m.frozenEventsMap) :
    m'.kept = m.kept := by
  unfold kept
  rw [huid, hpid]

end SubscriberManager

namespace UnorderedDelivery

variable {δ π : Type} {P : Platform} {S : StdSort} {s t : UnorderedDelivery δ π}

/-- **All keepings**: in the buffers, and in the hands of a task or of the
ordered queue. -/
def keptEvents (s : UnorderedDelivery δ π) : List (Buffered δ) :=
  s.manager.kept ++ (s.unorderedQueue ++ s.unorderedImmediateQueue).flatMap UnorderedTask.kept
    ++ s.ordered.toList.flatMap FrozenInsertion.kept

/-- The events that may still be kept for somebody. -/
def inFlight (s : UnorderedDelivery δ π) : List δ :=
  (s.unorderedQueue ++ s.unorderedImmediateQueue).flatMap UnorderedTask.inFlight
    ++ s.ordered.toList.map (fun insertion => insertion.eventRecord.commonEventData)

/-- The keeping that an insertion makes, where it is the first of the two. -/
def newKept (s : UnorderedDelivery δ π) (insertion : Option (FrozenInsertion δ π)) :
    List (Buffered δ) :=
  match insertion with
  | some ⟨eventRecord, _, none⟩ => [⟨eventRecord.commonEventData, s.nextBuffering⟩]
  | _ => []

/-- The event that a step brings in. -/
def arriving : DeliveryLabel δ π → List δ
  | .processUnorderedEvent eventRecord _ _ => [eventRecord.commonEventData]
  | .notifyOrderedEvent eventRecord _ => [eventRecord.commonEventData]
  | _ => []

/-- **What a step may add** to the keepings and to the events in flight. -/
structure Adds (s t : UnorderedDelivery δ π) (new : List (Buffered δ)) (arrived : List δ) :
    Prop where
  kept : t.keptEvents ⊆ new ++ s.keptEvents
  inFlight : t.inFlight ⊆ arrived ++ s.inFlight
  next : t.nextBuffering = s.nextBuffering + new.length

theorem Adds.refl (s : UnorderedDelivery δ π) : Adds s s [] [] :=
  ⟨List.Subset.refl _, List.Subset.refl _, rfl⟩

/-- The subscriber manager may let go of keepings. -/
theorem Adds.manager {m : SubscriberManager (Buffered δ) π} (h : m.kept ⊆ s.manager.kept)
    (buffered : List (Remote × ℕ)) (calls : List UnfreezeCall) :
    Adds s { s with
      manager := m
      buffered := buffered
      calls := calls } [] [] := by
  refine ⟨?_, List.Subset.refl _, rfl⟩
  intro b hb
  simp only [keptEvents, List.nil_append, List.mem_append] at hb ⊢
  exact hb.imp_left (Or.imp_left fun hm => h hm)

/-- What `PublishFrozenEventsInner` submits was kept. -/
theorem Adds.publishFrozenEventsInner (h : Adds s t [] []) (kind : UnfreezeKind)
    {frozenRecords : FrozenRecords (Buffered δ) π}
    (hfound : ∀ record ∈ frozenRecordEvents frozenRecords,
      record.commonEventData ∈ s.keptEvents) :
    Adds s (t.publishFrozenEventsInner kind frozenRecords) [] [] := by
  have hkept : ∀ task ∈ frozenTasks frozenRecords, task.2.commonEventData ∈ s.keptEvents := by
    intro task htask
    refine hfound task.2 ?_
    rw [← frozenTasks_map_snd]
    exact List.mem_map_of_mem htask
  refine ⟨fun b hb => ?_, fun d hd => ?_, h.next⟩
  · have hold : b ∈ t.keptEvents ∨ b ∈ ((frozenTasks frozenRecords).map (fun task =>
        (UnorderedTask.notifyFreezeEvents task.1 task.2 : UnorderedTask δ π))).flatMap
          UnorderedTask.kept := by
      simp only [keptEvents, UnorderedDelivery.publishFrozenEventsInner, List.mem_append,
        List.flatMap_append] at hb ⊢
      tauto
    rcases hold with hold | hnew
    · exact h.kept hold
    · obtain ⟨_, hmem, hb⟩ := List.mem_flatMap.mp hnew
      obtain ⟨task, htask, rfl⟩ := List.mem_map.mp hmem
      obtain rfl := List.mem_singleton.mp hb
      exact hkept task htask
  · have hold : d ∈ t.inFlight ∨ d ∈ ((frozenTasks frozenRecords).map (fun task =>
        (UnorderedTask.notifyFreezeEvents task.1 task.2 : UnorderedTask δ π))).flatMap
          UnorderedTask.inFlight := by
      simp only [UnorderedDelivery.inFlight, UnorderedDelivery.publishFrozenEventsInner,
        List.mem_append, List.flatMap_append] at hd ⊢
      tauto
    rcases hold with hold | hnew
    · exact h.inFlight hold
    · obtain ⟨_, hmem, hd⟩ := List.mem_flatMap.mp hnew
      obtain ⟨task, htask, rfl⟩ := List.mem_map.mp hmem
      cases hd

theorem Adds.publishAllFrozenEvents {κ : Type} [DecidableEq κ] (h : Adds s t [] [])
    {buffer : FrozenBuffer κ (Buffered δ) π}
    (hfound : ∀ record ∈ buffer.events, record.commonEventData ∈ s.keptEvents) :
    Adds s (t.publishAllFrozenEvents buffer) [] [] := by
  unfold UnorderedDelivery.publishAllFrozenEvents
  unfold FrozenBuffer.events Dict.flatMap at hfound
  revert hfound
  generalize buffer.entries = entries
  intro hfound
  induction entries generalizing t with
  | nil => exact h
  | cons entry entries ih =>
    rw [List.foldl_cons]
    refine ih (h.publishFrozenEventsInner .all fun record hrecord => ?_) fun record hrecord => ?_
    · exact hfound record (List.mem_flatMap.mpr ⟨entry, List.mem_cons_self, hrecord⟩)
    · rw [List.flatMap_cons] at hfound
      exact hfound record (List.mem_append_right _ hrecord)

/-! ### The steps -/

theorem kept_manager {b : Buffered δ} (h : b ∈ s.manager.kept) : b ∈ s.keptEvents :=
  List.mem_append_left _ (List.mem_append_left _ h)

theorem mem_kept_uid {record : CommonEventRecord (Buffered δ) π}
    (h : record ∈ s.manager.frozenEvents.events) : record.commonEventData ∈ s.keptEvents :=
  kept_manager (List.mem_map_of_mem (List.mem_append_left _ h))

theorem mem_kept_pid {record : CommonEventRecord (Buffered δ) π}
    (h : record ∈ s.manager.frozenEventsMap.events) : record.commonEventData ∈ s.keptEvents :=
  kept_manager (List.mem_map_of_mem (List.mem_append_right _ h))

/-- What a buffer holds, the rest of it under another key holds at most. -/
theorem events_remove_subset {κ : Type} [DecidableEq κ] (buffer : FrozenBuffer κ (Buffered δ) π)
    (key : κ) : (buffer.remove key).events ⊆ buffer.events :=
  fun _ hrecord => (buffer.events_perm_remove key).symm.subset (List.mem_append_right _ hrecord)

theorem events_get_subset {κ : Type} [DecidableEq κ] (buffer : FrozenBuffer κ (Buffered δ) π)
    (key : κ) : frozenRecordEvents (buffer.get key) ⊆ buffer.events :=
  fun _ hrecord => (buffer.events_perm_remove key).symm.subset (List.mem_append_left _ hrecord)

theorem adds_stepCall (i : ℕ) (call : UnfreezeCall) : Adds s (s.stepCall i call) [] [] := by
  cases call with
  | getFrozenEvents uid =>
    refine (Adds.manager (s := s) (m := (s.manager.getFrozenEvents uid).2)
      (SubscriberManager.kept_subset (events_remove_subset _ uid) (List.Subset.refl _))
      s.buffered (s.calls.eraseIdx i)).publishFrozenEventsInner .uid ?_
    exact fun record hrecord => mem_kept_uid (events_get_subset _ uid hrecord)
  | getFrozenEventsMapByPid pidList =>
    cases pidList with
    | nil => exact Adds.manager (List.Subset.refl _) s.buffered _
    | cons pid pidList =>
      refine (Adds.manager (s := s) (m := (s.manager.getFrozenEventsMapByPid pid).2)
        (SubscriberManager.kept_subset (List.Subset.refl _) (events_remove_subset _ pid))
        s.buffered (s.calls.set i (.getFrozenEventsMapByPid pidList))).publishFrozenEventsInner
          .pid ?_
      exact fun record hrecord => mem_kept_pid (events_get_subset _ pid hrecord)
  | getAllFrozenEvents =>
    refine (Adds.manager (List.Subset.refl _) s.buffered _).publishAllFrozenEvents ?_
    exact fun record => mem_kept_uid
  | getAllFrozenEventsMap =>
    refine (Adds.manager (List.Subset.refl _) s.buffered _).publishAllFrozenEvents ?_
    exact fun record => mem_kept_pid

/-- **What an insertion does**: the first makes a keeping, the second puts it
in the second buffer. -/
theorem kept_stepInsertion (insertion : FrozenInsertion δ π) :
    (s.stepInsertion insertion).1.manager.kept
        ++ (s.stepInsertion insertion).2.toList.flatMap FrozenInsertion.kept
      ⊆ s.newKept (some insertion) ++ (insertion.kept ++ s.manager.kept) := by
  obtain ⟨eventRecord, vec, buffering⟩ := insertion
  intro b hb
  cases buffering with
  | none =>
    have hnew : b = ⟨eventRecord.commonEventData, s.nextBuffering⟩ ∨ b ∈ s.manager.kept := by
      rcases List.mem_append.mp hb with hb | hb
      · obtain ⟨record, hrecord, rfl⟩ := List.mem_map.mp hb
        rcases List.mem_append.mp hrecord with hrecord | hrecord
        · rcases List.mem_cons.mp ((FrozenBuffer.events_insert _ _ _ _).subset hrecord) with
            rfl | hrecord
          · exact Or.inl rfl
          · exact Or.inr (List.mem_map_of_mem (List.mem_append_left _ hrecord))
        · exact Or.inr (List.mem_map_of_mem (List.mem_append_right _ hrecord))
      · exact Or.inl (List.mem_singleton.mp hb)
    rcases hnew with rfl | hb
    · exact List.mem_cons_self
    · exact List.mem_append_right _ (List.mem_append_right _ hb)
  | some buffering =>
    have hb : b ∈ (s.stepInsertion ⟨eventRecord, vec, some buffering⟩).1.manager.kept :=
      (List.mem_append.mp hb).resolve_right List.not_mem_nil
    obtain ⟨record, hrecord, rfl⟩ := List.mem_map.mp hb
    rcases List.mem_append.mp hrecord with hrecord | hrecord
    · exact List.mem_append_right _ (List.mem_append_right _
        (List.mem_map_of_mem (List.mem_append_left _ hrecord)))
    · rcases List.mem_cons.mp ((FrozenBuffer.events_insert _ _ _ _).subset hrecord) with
        rfl | hrecord
      · exact List.mem_append_right _ (List.mem_append_left _ List.mem_cons_self)
      · exact List.mem_append_right _ (List.mem_append_right _
          (List.mem_map_of_mem (List.mem_append_right _ hrecord)))

/-- An insertion adds its keeping to the numbers, and leaves the tasks. -/
theorem next_stepInsertion (insertion : FrozenInsertion δ π) :
    (s.stepInsertion insertion).1.nextBuffering
      = s.nextBuffering + (s.newKept (some insertion)).length := by
  obtain ⟨eventRecord, vec, buffering⟩ := insertion
  cases buffering <;> rfl

/-- What is left of an insertion is about the same event. -/
theorem eventRecord_stepInsertion {insertion insertion' : FrozenInsertion δ π}
    (h : (s.stepInsertion insertion).2 = some insertion') :
    insertion'.eventRecord = insertion.eventRecord := by
  obtain ⟨eventRecord, vec, buffering⟩ := insertion
  cases buffering with
  | none =>
    cases h
    rfl
  | some buffering => cases h

/-- **What a step of a task does to the keepings.** -/
theorem kept_stepTask (task : UnorderedTask δ π) :
    (s.stepTask task).1.manager.kept ++ (s.stepTask task).2.toList.flatMap UnorderedTask.kept
        ⊆ s.newKept (taskInsertion task) ++ (task.kept ++ s.manager.kept)
      ∧ (s.stepTask task).2.toList.flatMap UnorderedTask.inFlight ⊆ task.inFlight
      ∧ (s.stepTask task).1.nextBuffering
        = s.nextBuffering + (s.newKept (taskInsertion task)).length := by
  cases task with
  | notifyUnorderedEvent record eventRecord receivers =>
    have hstay : ∀ {b}, b ∈ s.manager.kept → b ∈ s.newKept none ++ ([] ++ s.manager.kept) :=
      fun hb => hb
    cases receivers with
    | nil =>
      exact ⟨fun b hb => hstay ((List.mem_append.mp hb).resolve_right List.not_mem_nil),
        List.nil_subset _, rfl⟩
    | cons vec receivers =>
      rw [stepTask]
      split
      · exact ⟨fun b hb => hstay ((List.mem_append.mp hb).resolve_right List.not_mem_nil),
          List.Subset.refl _, rfl⟩
      · exact ⟨fun b hb => hstay ((List.mem_append.mp hb).resolve_right List.not_mem_nil),
          List.Subset.refl _, rfl⟩
  | handleFrozenUnorderedSubscriber record insertion receivers =>
    have hkept := kept_stepInsertion (s := s) insertion
    have hevent := fun insertion' (hnext : (s.stepInsertion insertion).2 = some insertion') =>
      eventRecord_stepInsertion hnext
    rw [stepTask]
    dsimp only
    cases hnext : (s.stepInsertion insertion).2 with
    | none =>
      rw [hnext] at hkept
      exact ⟨hkept, List.Subset.refl _, next_stepInsertion insertion⟩
    | some insertion' =>
      rw [hnext] at hkept
      refine ⟨hkept, ?_, next_stepInsertion insertion⟩
      show [insertion'.eventRecord.commonEventData] ⊆ [insertion.eventRecord.commonEventData]
      rw [hevent insertion' hnext]
      exact List.Subset.refl _
  | notifyFreezeEvents subscriberRecord eventRecord =>
    refine ⟨?_, List.nil_subset _, rfl⟩
    intro b hb
    exact List.mem_append_right _ (List.mem_append_right _
      ((List.mem_append.mp hb).resolve_right List.not_mem_nil))

/-- A look-up of the receivers keeps what is kept. -/
theorem kept_getSubscriberRecords (m : SubscriberManager (Buffered δ) π) (view : EventRecord) :
    (m.getSubscriberRecords P view).2.kept = m.kept :=
  SubscriberManager.kept_congr (m.frozen_getSubscriberRecords P view).1
    (m.frozen_getSubscriberRecords P view).2

/-- An event that is processed is one more in flight. -/
theorem adds_processUnorderedEvent (eventRecord : CommonEventRecord δ π) (view : EventRecord)
    (subscriberRecord : Option SubscriberRecordPtr) :
    Adds s (s.processUnorderedEvent P eventRecord view subscriberRecord) []
      [eventRecord.commonEventData] := by
  have hmanager : (s.processUnorderedEvent P eventRecord view subscriberRecord).manager.kept
      = s.manager.kept := by
    unfold processUnorderedEvent
    cases subscriberRecord with
    | some r => rfl
    | none => exact kept_getSubscriberRecords (P := P) s.manager view
  refine ⟨fun b hb => ?_, fun d hd => ?_, rfl⟩
  · refine List.mem_append_right _ ?_
    unfold keptEvents at hb ⊢
    rw [hmanager] at hb
    unfold processUnorderedEvent at hb
    dsimp only at hb
    cases hsystem : eventRecord.isSystemEvent with
    | true => simpa [hsystem, UnorderedTask.kept] using hb
    | false => simpa [hsystem, UnorderedTask.kept] using hb
  · unfold inFlight processUnorderedEvent at hd
    unfold inFlight
    dsimp only at hd ⊢
    have hdata : ∀ receivers, UnorderedTask.inFlight (.notifyUnorderedEvent s.nextRecord
        eventRecord.fillCommonEventRecord receivers) = [eventRecord.commonEventData] :=
      fun _ => rfl
    cases hsystem : eventRecord.isSystemEvent with
    | true =>
      simp only [hsystem, if_true, List.flatMap_append, List.flatMap_cons, List.flatMap_nil,
        hdata, List.mem_append, List.append_nil] at hd ⊢
      tauto
    | false =>
      simp only [hsystem, Bool.false_eq_true, if_false, List.flatMap_append, List.flatMap_cons,
        List.flatMap_nil, hdata, List.mem_append, List.append_nil] at hd ⊢
      tauto

/-- **What a step may add**: the keeping of a first insertion, and an event
that is to be notified. -/
theorem adds_step {l : DeliveryLabel δ π} (hstep : s.step P S l = some t) :
    Adds s t (s.newKept (s.insertionOf l)) (arriving l) := by
  cases l with
  | insertSubscriber maxSubscriberNum info listener recordInfo =>
    cases hstep
    obtain ⟨huid, hpid⟩ :=
      s.manager.frozen_insertSubscriber S maxSubscriberNum info listener recordInfo
    exact Adds.manager (fun _ hb => SubscriberManager.kept_congr huid hpid ▸ hb) _ _
  | removeSubscriber listener =>
    cases hstep
    obtain ⟨huid, hpid⟩ := s.manager.frozen_removeSubscriber listener
    exact Adds.manager (SubscriberManager.kept_subset huid.subset hpid.subset) _ _
  | getSubscriberRecords view =>
    cases hstep
    exact Adds.manager (fun _ hb => kept_getSubscriberRecords (P := P) s.manager view ▸ hb) _ _
  | processUnorderedEvent eventRecord view subscriberRecord =>
    obtain ⟨-, rfl⟩ := processUnorderedEvent_cases hstep
    exact adds_processUnorderedEvent eventRecord view subscriberRecord
  | unordered =>
    obtain ⟨task, rest, hqueue, rfl⟩ := unordered_cases hstep
    -- the task in front is split off both lists, and its step accounted for
    obtain ⟨hkept, hflight, hnext⟩ := kept_stepTask (s := s) task
    obtain ⟨-, hiq, hord, -⟩ := stepTask_frame (s := s) task
    rw [insertionOf_unordered hqueue]
    refine ⟨fun b hb => ?_, fun d hd => ?_, hnext⟩
    · have hb' := @hkept b
      simp only [keptEvents, hqueue, hiq, hord, List.cons_append, List.flatMap_cons,
        List.flatMap_append, List.mem_append] at hb hb' ⊢
      grind
    · have hd' := @hflight d
      simp only [inFlight, arriving, hqueue, hiq, hord, List.cons_append, List.flatMap_cons,
        List.flatMap_append, List.nil_append, List.mem_append] at hd hd' ⊢
      grind
  | unorderedImmediate =>
    obtain ⟨task, rest, hqueue, rfl⟩ := unorderedImmediate_cases hstep
    obtain ⟨hkept, hflight, hnext⟩ := kept_stepTask (s := s) task
    obtain ⟨huq, -, hord, -⟩ := stepTask_frame (s := s) task
    rw [insertionOf_unorderedImmediate hqueue]
    refine ⟨fun b hb => ?_, fun d hd => ?_, hnext⟩
    · have hb' := @hkept b
      simp only [keptEvents, hqueue, huq, hord, List.flatMap_cons, List.flatMap_append,
        List.mem_append] at hb hb' ⊢
      grind
    · have hd' := @hflight d
      simp only [inFlight, arriving, hqueue, huq, hord, List.flatMap_cons,
        List.flatMap_append, List.nil_append, List.mem_append] at hd hd' ⊢
      grind
  | notifyOrderedEvent eventRecord subscriber =>
    obtain ⟨hordered, -, rfl⟩ := notifyOrderedEvent_cases hstep
    refine ⟨fun b hb => ?_, fun d hd => ?_, rfl⟩
    · refine List.mem_append_right _ ?_
      unfold keptEvents at hb ⊢
      unfold notifyOrderedEvent at hb
      dsimp only at hb
      split at hb
      all_goals simpa [hordered, FrozenInsertion.kept] using hb
    · unfold inFlight notifyOrderedEvent at hd
      unfold inFlight arriving
      dsimp only at hd
      split at hd
      · simp only [Option.toList_some, List.map_cons, List.map_nil, List.mem_append] at hd ⊢
        grind
      · simp only [Option.toList_none, List.map_nil, List.append_nil, List.mem_append] at hd ⊢
        grind
  | notifyFrozenSubscriber =>
    obtain ⟨insertion, hordered, rfl⟩ := notifyFrozenSubscriber_cases hstep
    unfold insertionOf
    rw [hordered]
    have hkept := kept_stepInsertion (s := s) insertion
    obtain ⟨huq, hiq, -, -⟩ := stepInsertion_frame (s := s) insertion
    refine ⟨fun b hb => ?_, fun d hd => ?_, next_stepInsertion insertion⟩
    · have hb' := @hkept b
      simp only [keptEvents, hordered, huq, hiq, Option.toList_some, List.flatMap_cons,
        List.flatMap_nil, List.append_nil, List.mem_append] at hb hb' ⊢
      grind
    · simp only [inFlight, arriving, hordered, huq, hiq, Option.toList_some, List.map_cons,
        List.map_nil, List.nil_append, List.mem_append, List.mem_map, Option.mem_toList,
        List.mem_singleton] at hd ⊢
      rcases hd with hd | ⟨insertion', hnext, rfl⟩
      · exact Or.inl hd
      · exact Or.inr (by rw [eventRecord_stepInsertion hnext])
  | freeze uid now =>
    cases hstep
    exact Adds.manager (s := s) (m := s.manager.updateFreezeInfoByUid uid true now)
      (List.Subset.refl _) _ _
  | unfreeze uid =>
    cases hstep
    exact Adds.manager (s := s) (m := s.manager.updateFreezeInfoByUid uid false 0)
      (List.Subset.refl _) _ _
  | setFreezeStatus pidList isFreeze now =>
    cases hstep
    exact Adds.manager (s := s) (m := s.manager.updateFreezeInfoByPids pidList isFreeze now)
      (List.Subset.refl _) _ _
  | unfreezeAll =>
    cases hstep
    exact Adds.manager (s := s) (m := s.manager.updateAllFreezeInfos false 0)
      (List.Subset.refl _) _ _
  | call i =>
    obtain ⟨call, -, rfl⟩ := Option.map_eq_some_iff.mp hstep
    exact adds_stepCall i call

end UnorderedDelivery

/-! ## The cells of the ordered records -/

namespace ControlManager

variable {P : Platform} {S : StdSort} {s : ControlManager}

/-- A record that has receivers has its data in a cell that has been made. -/
theorem cell_lt_of_receivers (hs : (orderedMachine P S).Reachable s) :
    ∀ r, (s.records r).receivers ≠ [] → (s.records r).commonEventData < s.nextCell := by
  refine Machine.invariant (M := orderedMachine P S)
    (I := fun s => ∀ r, (s.records r).receivers ≠ []
      → (s.records r).commonEventData < s.nextCell) (fun r hr => absurd rfl hr) ?_ hs
  intro s l t h hstep r hr
  rcases identity_step hstep with ⟨request, -, rfl⟩ | ⟨-, hid, -, hcell⟩
  · show _ < s.nextCell + 1
    by_cases hnew : r = s.nextRecord
    · subst hnew
      rw [processOrderedEvent]
      simp [makeCells]
    · have hold : (s.processOrderedEvent P S request).records r = s.records r :=
        Function.update_of_ne hnew _ _
      rw [hold] at hr ⊢
      exact Nat.lt_succ_of_lt (h r hr)
  · have hid' := hid r
    unfold identity at hid'
    rw [(Prod.mk.inj hid').2] at hr
    rw [(Prod.mk.inj hid').1]
    exact Nat.lt_of_lt_of_le (h r hr) hcell

end ControlManager

/-! ## What a step of the service does to the keepings -/

namespace InnerCommonEventManager

open UnorderedDelivery

variable {P : Platform} {S : StdSort} {C : Config} {s t : InnerCommonEventManager}

/-- **What a step does to what is kept.** -/
structure Effect (s t : InnerCommonEventManager) (new : List (Buffered CellId)) : Prop where
  kept : t.delivery.keptEvents ⊆ new ++ s.delivery.keptEvents
  inFlight : ∀ cell ∈ t.delivery.inFlight,
    cell ∈ s.delivery.inFlight ∨ cell < t.control.nextCell
  next : t.delivery.nextBuffering = s.delivery.nextBuffering + new.length
  fresh : ∀ b ∈ new, b.commonEventData ∈ s.delivery.inFlight
    ∧ b.buffering = s.delivery.nextBuffering
  noted : ∀ b ∈ new, t.kept b.buffering = s.control.cells b.commonEventData
  stays : ∀ n < s.delivery.nextBuffering, t.kept n = s.kept n
  redelivered : ∀ n d, .redelivered n d ∈ t.trace → .redelivered n d ∈ s.trace
    ∨ ∃ b ∈ s.delivery.keptEvents, n = b.buffering ∧ d = s.control.cells b.commonEventData

/-- A step of unordered delivery that makes no keeping. -/
theorem Effect.of_adds {arrived : List CellId} (h : Adds s.delivery t.delivery [] arrived)
    (harrived : ∀ cell ∈ arrived, cell < t.control.nextCell) (hkept : t.kept = s.kept)
    (htrace : ∀ n d, .redelivered n d ∈ t.trace → .redelivered n d ∈ s.trace) :
    Effect s t [] where
  kept := h.kept
  inFlight cell hcell := (List.mem_append.mp (h.inFlight hcell)).symm.imp_right (harrived cell)
  next := h.next
  fresh := List.forall_mem_nil _
  noted := List.forall_mem_nil _
  stays n _ := congrFun hkept n
  redelivered n d hmem := Or.inl (htrace n d hmem)

/-- What is new was in flight, and has the next number. -/
theorem fresh_newKept {insertion : Option (FrozenInsertion CellId CellId)}
    (hflight : ∀ ins ∈ insertion, ins.eventRecord.commonEventData ∈ s.delivery.inFlight) :
    ∀ b ∈ s.delivery.newKept insertion, b.commonEventData ∈ s.delivery.inFlight
      ∧ b.buffering = s.delivery.nextBuffering := by
  intro b hb
  unfold newKept at hb
  split at hb
  next eventRecord vec =>
    obtain rfl := List.mem_singleton.mp hb
    exact ⟨hflight _ rfl, rfl⟩
  next => cases hb

/-- An insertion notes what it keeps, and nothing else. -/
theorem kept_noteInsertion (insertion : FrozenInsertion CellId CellId) :
    (∀ b ∈ s.delivery.newKept (some insertion),
        (s.noteInsertion insertion).kept b.buffering = s.control.cells b.commonEventData)
      ∧ ∀ n < s.delivery.nextBuffering, (s.noteInsertion insertion).kept n = s.kept n := by
  obtain ⟨eventRecord, vec, buffering⟩ := insertion
  cases buffering with
  | none =>
    refine ⟨fun b hb => ?_, fun n hn => Function.update_of_ne (Nat.ne_of_lt hn) _ _⟩
    obtain rfl := List.mem_singleton.mp hb
    exact Function.update_self _ _ _
  | some buffering => exact ⟨List.forall_mem_nil _, fun _ _ => rfl⟩

theorem kept_note (task : UnorderedTask CellId CellId) (rest : List (UnorderedTask CellId CellId)) :
    (∀ b ∈ s.delivery.newKept (taskInsertion task),
        (s.note (task :: rest)).kept b.buffering = s.control.cells b.commonEventData)
      ∧ ∀ n < s.delivery.nextBuffering, (s.note (task :: rest)).kept n = s.kept n := by
  cases task with
  | notifyUnorderedEvent record eventRecord receivers =>
    exact ⟨List.forall_mem_nil _, fun _ _ => rfl⟩
  | handleFrozenUnorderedSubscriber record insertion receivers => exact kept_noteInsertion insertion
  | notifyFreezeEvents subscriberRecord eventRecord =>
    exact ⟨List.forall_mem_nil _, fun _ _ => rfl⟩

/-- What a task redelivers it holds. -/
theorem redelivered_note (task : UnorderedTask CellId CellId)
    (rest : List (UnorderedTask CellId CellId)) {n : ℕ} {d : CommonEventData}
    (h : .redelivered n d ∈ (s.note (task :: rest)).trace) :
    .redelivered n d ∈ s.trace
      ∨ ∃ b ∈ task.kept, n = b.buffering ∧ d = s.control.cells b.commonEventData := by
  cases task with
  | notifyUnorderedEvent record eventRecord receivers => exact Or.inl h
  | handleFrozenUnorderedSubscriber record insertion receivers =>
    exact Or.inl (s.noteInsertion_trace insertion ▸ h)
  | notifyFreezeEvents subscriberRecord eventRecord =>
    refine (List.mem_append.mp h).imp_right fun hlast => ?_
    cases List.mem_singleton.mp hlast
    exact ⟨_, List.mem_singleton_self _, rfl, rfl⟩

/-- The step of a queue, whose first task is `task`. -/
theorem Effect.of_task {l : DeliveryLabel CellId CellId} {task : UnorderedTask CellId CellId}
    {rest : List (UnorderedTask CellId CellId)} {delivery : UnorderedDelivery CellId CellId}
    (hstep : s.delivery.step P S l = some delivery)
    (hinsertion : s.delivery.insertionOf l = taskInsertion task) (harriving : arriving l = [])
    (hmem : task ∈ s.delivery.unorderedQueue ++ s.delivery.unorderedImmediateQueue) :
    Effect s { s.note (task :: rest) with delivery := delivery }
      (s.delivery.newKept (taskInsertion task)) := by
  have hadds := adds_step hstep
  rw [hinsertion, harriving] at hadds
  obtain ⟨hnoted, hstays⟩ := kept_note (s := s) task rest
  refine ⟨hadds.kept, fun cell hcell => Or.inl (hadds.inFlight hcell), hadds.next,
    fresh_newKept fun insertion hins => ?_, hnoted, hstays, fun n d hd => ?_⟩
  · refine List.mem_append_left _ (List.mem_flatMap.mpr ⟨task, hmem, ?_⟩)
    cases task with
    | handleFrozenUnorderedSubscriber record insertion' receivers =>
      cases hins
      exact List.mem_singleton_self _
    | notifyUnorderedEvent record eventRecord receivers => cases hins
    | notifyFreezeEvents subscriberRecord eventRecord => cases hins
  · refine (redelivered_note task rest hd).imp_right ?_
    rintro ⟨b, hb, heq⟩
    refine ⟨b, List.mem_append_left _ (List.mem_append_right _ ?_), heq⟩
    exact List.mem_flatMap.mpr ⟨task, hmem, hb⟩

/-- A change of the subscriber manager that makes no keeping. -/
theorem Effect.of_manager {m : SubscriberManager (Buffered CellId) CellId}
    (h : m.kept ⊆ s.delivery.manager.kept) (buffered : List (Remote × ℕ))
    (calls : List UnfreezeCall) (control : ControlManager) :
    Effect s { s with
      control := control
      delivery := { s.delivery with
        manager := m
        buffered := buffered
        calls := calls } } [] :=
  Effect.of_adds (Adds.manager h buffered calls) (List.forall_mem_nil _) rfl
    fun _ _ h => h

/-- Nothing in unordered delivery. -/
theorem Effect.of_delivery (hdelivery : t.delivery = s.delivery) (hkept : t.kept = s.kept)
    (htrace : ∀ n d, .redelivered n d ∈ t.trace → .redelivered n d ∈ s.trace) :
    Effect s t [] :=
  Effect.of_adds (hdelivery ▸ Adds.refl _) (List.forall_mem_nil _) hkept htrace

/-- A subscription makes no keeping: the sticky events that are replayed are
in cells that have been made. -/
theorem effect_subscribeCommonEvent (hfiled : s.StickyFiled) (args : SubscribeArgs) :
    Effect s (s.subscribeCommonEvent P S C args) [] := by
  obtain ⟨harrived, hkept, htrace, arrived, hadds⟩ := subscribeCommonEvent_induction (P := P)
    (S := S) (C := C) (s := s)
    (I := fun t => t.control.nextCell = s.control.nextCell ∧ t.kept = s.kept
      ∧ t.trace = s.trace ∧ ∃ arrived, Adds s.delivery t.delivery [] arrived
        ∧ ∀ cell ∈ arrived, cell < s.control.nextCell)
    (fun info recordInfo => ⟨rfl, rfl, rfl, [], adds_step (P := P) (S := S)
      (l := .insertSubscriber args.maxSubscriberNum (some info) args.commonEventListener
        recordInfo) rfl, List.forall_mem_nil _⟩)
    (fun _ _ hs => hs)
    (fun u r info event hevent => by
      rintro ⟨hnext, hkept, htrace, arrived, hadds, harrived⟩
      refine ⟨hnext, hkept, htrace, event.commonEventData :: arrived, ?_, ?_⟩
      · have hone := UnorderedDelivery.adds_processUnorderedEvent (P := P) (s := u.delivery)
          event (u.view event) (some r)
        refine ⟨List.Subset.trans hone.kept hadds.kept, fun cell hcell => ?_,
          hone.next.trans hadds.next⟩
        rcases List.mem_cons.mp (hone.inFlight hcell) with rfl | hcell
        · exact List.mem_append_left _ List.mem_cons_self
        · exact List.mem_cons_of_mem _ (hadds.inFlight hcell)
      · obtain ⟨name, -, hlookup⟩ := StickyManager.mem_findStickyEvents _ |>.mp hevent
        exact List.forall_mem_cons.mpr ⟨(hfiled name event hlookup).2.1, harrived⟩)
    ⟨rfl, rfl, rfl, [], Adds.refl _, List.forall_mem_nil _⟩
  exact Effect.of_adds hadds.1 (fun cell hcell => harrived.symm ▸ hadds.2 cell hcell) hkept
    fun n d h => htrace ▸ h

/-- A publish: what it delivers is in the cell it makes. -/
theorem effect_publishCommonEvent (args : PublishArgs) (env : StaticEnvironment) :
    Effect s (s.publishCommonEvent P S C args env).2 [] := by
  rcases publishCommonEvent_cases (P := P) (S := S) (C := C) s args env with ⟨-, heq⟩ |
    ⟨comeFrom, user, -, ⟨-, heq⟩ | ⟨-, u, rfl, ⟨-, heq⟩ | ⟨-, heq⟩⟩⟩
  all_goals rw [heq]
  · exact Effect.of_delivery rfl rfl fun _ _ h => h
  · exact Effect.of_delivery rfl rfl fun _ _ h => h
  · exact Effect.of_delivery rfl rfl fun _ _ h => h
  · have htrace : ∀ n d, .redelivered n d ∈ (if args.publishInfo.sticky
        then s.trace ++ [.published args.data.want.action args.data args.uid] else s.trace)
        → .redelivered n d ∈ s.trace := by
      intro n d h
      split at h
      · exact (List.mem_append.mp h).resolve_right fun hlast =>
          nomatch List.mem_singleton.mp hlast
      · exact h
    unfold controlPublishCommonEvent
    split
    · refine Effect.of_adds ?_ (List.forall_mem_nil _) rfl htrace
      exact adds_step (P := P) (S := S) (s := s.delivery) (l := .getSubscriberRecords _) rfl
    · -- what is delivered is in the cell just made
      have harrived : ∀ c ∈ [s.control.nextCell], c < s.control.nextCell + 1 :=
        List.forall_mem_singleton.mpr (Nat.lt_succ_self _)
      refine Effect.of_adds ?_ harrived rfl htrace
      exact UnorderedDelivery.adds_processUnorderedEvent (P := P) (s := s.delivery) _ _ none

/-- **What a step of the ordered pipeline does to what is kept.** -/
theorem effect_controlStep (hcells : ∀ r, (s.control.records r).receivers ≠ [] →
      (s.control.records r).commonEventData < s.control.nextCell)
    {l : ControlLabel} (hstep : s.step P S C (.control l) = some t) : ∃ new, Effect s t new := by
  rcases controlStep_cases hstep with
    ⟨l', control, hinternal, -, hcontrol, rfl | ⟨sp, receiver, hmem, delivery, hdelivery, rfl⟩⟩ |
    ⟨-, insertion, delivery, -, hordered, hdelivery, rfl⟩
  · exact ⟨[], Effect.of_delivery rfl rfl fun _ _ h => h⟩
  · refine ⟨[], Effect.of_adds (adds_step hdelivery) ?_ rfl fun _ _ h => h⟩
    refine List.forall_mem_singleton.mpr ?_
    show _ < control.nextCell
    rw [(ControlManager.cells_step hinternal hcontrol).1]
    exact hcells sp (List.ne_nil_of_mem hmem)
  · have hadds := adds_step hdelivery
    obtain ⟨hnoted, hstays⟩ := kept_noteInsertion (s := s) insertion
    -- a frozen receiver of an ordered event: its data is kept, not copied
    have hnew : s.delivery.insertionOf .notifyFrozenSubscriber = some insertion := hordered
    rw [hnew] at hadds
    refine ⟨_, hadds.kept, fun cell hcell => Or.inl (hadds.inFlight hcell), hadds.next,
      fresh_newKept fun ins hins => ?_, hnoted, hstays, fun n d hd => ?_⟩
    · cases hins
      refine List.mem_append_right _ ?_
      rw [hordered]
      exact List.mem_singleton_self _
    · exact Or.inl (s.noteInsertion_trace insertion ▸ hd)

/-- **What a step of the service does to what is kept.** -/
theorem effect_step (hcells : ∀ r, (s.control.records r).receivers ≠ [] →
      (s.control.records r).commonEventData < s.control.nextCell)
    (hfiled : s.StickyFiled) {l : ServiceLabel} (hstep : s.step P S C l = some t) :
    ∃ new, Effect s t new := by
  cases l with
  | publishCommonEvent args env =>
    cases hstep
    exact ⟨[], effect_publishCommonEvent args env⟩
  | subscribeCommonEvent args =>
    cases hstep
    exact ⟨[], effect_subscribeCommonEvent hfiled args⟩
  | unsubscribeCommonEvent listener =>
    cases hstep
    unfold unsubscribeCommonEvent
    split
    · exact ⟨[], Effect.of_delivery rfl rfl fun _ _ h => h⟩
    · refine ⟨[], Effect.of_adds ?_ (List.forall_mem_nil _) rfl fun _ _ h => h⟩
      exact adds_step (P := P) (S := S) (s := s.delivery) (l := .removeSubscriber listener) rfl
  | finishReceiver reply =>
    cases hstep
    refine ⟨[], Effect.of_delivery ?_ ?_ ?_⟩
    all_goals
      unfold finishReceiver
      split
    all_goals first | rfl | exact fun _ _ h => h
  | removeStickyCommonEvent event callerUid =>
    cases hstep
    refine ⟨[], Effect.of_delivery rfl rfl fun n d h => ?_⟩
    exact (List.mem_append.mp h).resolve_right fun hlast => nomatch List.mem_singleton.mp hlast
  | setStaticSubscriberState callingUid bundleName events enable =>
    cases hstep
    unfold setStaticSubscriberState
    split
    · exact ⟨[], Effect.of_delivery rfl rfl fun _ _ h => h⟩
    · exact ⟨[], Effect.of_delivery rfl rfl fun _ _ h => h⟩
  | freeze uid now =>
    cases hstep
    exact ⟨[], Effect.of_manager (m := s.delivery.manager.updateFreezeInfoByUid uid true now)
      (List.Subset.refl _) _ _ _⟩
  | unfreeze uid =>
    cases hstep
    have hsame := List.Subset.refl (s.delivery.manager.updateFreezeInfoByUid uid false 0).kept
    unfold unfreeze release
    split
    · exact ⟨[], Effect.of_manager (s := s) hsame _ _ _⟩
    · exact ⟨[], Effect.of_manager (s := s) hsame _ _ _⟩
  | setFreezeStatus pidList isFreeze now =>
    cases hstep
    have hsame := List.Subset.refl
      (s.delivery.manager.updateFreezeInfoByPids pidList isFreeze now).kept
    unfold setFreezeStatus release
    split
    · exact ⟨[], Effect.of_manager (s := s) hsame _ _ _⟩
    · exact ⟨[], Effect.of_manager (s := s) hsame _ _ _⟩
  | unfreezeAll =>
    cases hstep
    have hsame := List.Subset.refl (s.delivery.manager.updateAllFreezeInfos false 0).kept
    unfold unfreezeAll release
    split
    · exact ⟨[], Effect.of_manager (s := s) hsame _ _ _⟩
    · exact ⟨[], Effect.of_manager (s := s) hsame _ _ _⟩
  | onRemoteDied remote =>
    cases hstep
    refine ⟨[], Effect.of_adds ?_ (List.forall_mem_nil _) rfl fun _ _ h => h⟩
    exact adds_step (P := P) (S := S) (s := s.delivery) (l := .removeSubscriber (some remote)) rfl
  | control l =>
    exact effect_controlStep hcells hstep
  | unordered =>
    obtain ⟨delivery, hdelivery, rfl⟩ := Option.map_eq_some_iff.mp hstep
    obtain ⟨task, rest, hqueue, -⟩ := unordered_cases hdelivery
    rw [hqueue]
    refine ⟨_, Effect.of_task hdelivery (insertionOf_unordered hqueue) rfl ?_⟩
    exact List.mem_append_left _ (hqueue ▸ List.mem_cons_self)
  | unorderedImmediate =>
    obtain ⟨delivery, hdelivery, rfl⟩ := Option.map_eq_some_iff.mp hstep
    obtain ⟨task, rest, hqueue, -⟩ := unorderedImmediate_cases hdelivery
    rw [hqueue]
    refine ⟨_, Effect.of_task hdelivery (insertionOf_unorderedImmediate hqueue) rfl ?_⟩
    exact List.mem_append_right _ (hqueue ▸ List.mem_cons_self)
  | call i =>
    obtain ⟨delivery, hdelivery, rfl⟩ := Option.map_eq_some_iff.mp hstep
    exact ⟨[], Effect.of_adds (adds_step hdelivery) (List.forall_mem_nil _) rfl
      fun _ _ h => h⟩

/-! ## The invariant of the cells -/

/-- **Cells and numbers that are spoken of have been made.** -/
structure CellsMade (s : InnerCommonEventManager) : Prop where
  kept : ∀ b ∈ s.delivery.keptEvents,
    b.commonEventData < s.control.nextCell ∧ b.buffering < s.delivery.nextBuffering
  inFlight : ∀ cell ∈ s.delivery.inFlight, cell < s.control.nextCell
  traced : ∀ n d, .redelivered n d ∈ s.trace → n < s.delivery.nextBuffering

theorem CellsMade.effect (h : s.CellsMade) {new : List (Buffered CellId)} (heffect : Effect s t new)
    (hnext : s.control.nextCell ≤ t.control.nextCell) : t.CellsMade := by
  have hbuffering : s.delivery.nextBuffering ≤ t.delivery.nextBuffering := by
    rw [heffect.next]
    exact Nat.le_add_right _ _
  refine ⟨fun b hb => ?_, fun cell hcell => ?_, fun n d hd => ?_⟩
  · rcases List.mem_append.mp (heffect.kept hb) with hb | hb
    · obtain ⟨hflight, hn⟩ := heffect.fresh b hb
      refine ⟨Nat.lt_of_lt_of_le (h.inFlight _ hflight) hnext, ?_⟩
      rw [hn, heffect.next]
      exact Nat.lt_add_of_pos_right (List.length_pos_of_mem hb)
    · obtain ⟨hcell, hn⟩ := h.kept b hb
      exact ⟨Nat.lt_of_lt_of_le hcell hnext, Nat.lt_of_lt_of_le hn hbuffering⟩
  · rcases heffect.inFlight cell hcell with hcell | hcell
    · exact Nat.lt_of_lt_of_le (h.inFlight cell hcell) hnext
    · exact hcell
  · rcases heffect.redelivered n d hd with hd | ⟨b, hb, rfl, -⟩
    · exact Nat.lt_of_lt_of_le (h.traced n d hd) hbuffering
    · exact Nat.lt_of_lt_of_le (h.kept b hb).2 hbuffering

theorem effect_reachable (hs : (serviceMachine P S C).Reachable s) {l : ServiceLabel}
    (hstep : s.step P S C l = some t) : ∃ new, Effect s t new :=
  effect_step (ControlManager.cell_lt_of_receivers (control_reachable hs))
    (stickyFiled_reachable hs) hstep

theorem cellsMade_reachable (hs : (serviceMachine P S C).Reachable s) : s.CellsMade := by
  have hinv := Machine.invariant (M := serviceMachine P S C)
    (I := fun s => (serviceMachine P S C).Reachable s ∧ s.CellsMade)
    ⟨Machine.Reachable.init, List.forall_mem_nil _, List.forall_mem_nil _, nofun⟩
    (fun s l t h hstep => ?_) hs
  · exact hinv.2
  · obtain ⟨new, heffect⟩ := effect_reachable h.1 hstep
    exact ⟨h.1.step hstep, h.2.effect heffect (cells_step hstep).1⟩

/-! ## What the store and the buffers should hold -/

/-- What one event of the trace does to the latest sticky publish of an
event. -/
def stickyStep (event : String) (latest : Option (CommonEventData × Uid)) :
    ServiceEvent → Option (CommonEventData × Uid)
  | .published event' data uid => if event' = event then some (data, uid) else latest
  | .removed event' callerUid =>
    if event' = event ∧ latest.map Prod.snd = some callerUid then none else latest
  | .redelivered _ _ => latest

/-- **The latest sticky publish of an event** that was accepted and not removed
since by its publisher: what was passed, and by whom. -/
def latestSticky (trace : List ServiceEvent) (event : String) : Option (CommonEventData × Uid) :=
  trace.foldl (stickyStep event) none

theorem latestSticky_concat (trace : List ServiceEvent) (e : ServiceEvent) (event : String) :
    latestSticky (trace ++ [e]) event = stickyStep event (latestSticky trace event) e := by
  unfold latestSticky
  rw [List.foldl_append]
  rfl

/-- **The store and the buffers hold what they were given.** -/
structure Intact (s : InnerCommonEventManager) : Prop where
  /-- `GetStickyCommonEvent` yields what the latest sticky publish passed. -/
  sticky : ∀ event, s.getStickyCommonEvent event = (latestSticky s.trace event).map Prod.fst
  /-- And only its publisher can remove it. -/
  publisher : ∀ event, (AList.lookup event s.sticky).map (fun record => record.eventRecordInfo.uid)
    = (latestSticky s.trace event).map Prod.snd
  /-- A kept event is as it was when it was buffered. -/
  kept : ∀ b ∈ s.delivery.keptEvents, s.control.cells b.commonEventData = s.kept b.buffering
  /-- And so it was redelivered. -/
  redelivered : ∀ n d, .redelivered n d ∈ s.trace → d = s.kept n

/-- What is stored under a name: the data, and who published it. -/
def stored (s : InnerCommonEventManager) (event : String) : Option (CommonEventData × Uid) :=
  (AList.lookup event s.sticky).map
    (fun record => (s.control.cells record.commonEventData, record.eventRecordInfo.uid))

theorem stored_eq_iff (hfiled : s.StickyFiled) (event : String)
    (latest : Option (CommonEventData × Uid)) :
    s.stored event = latest ↔ s.getStickyCommonEvent event = latest.map Prod.fst
      ∧ (AList.lookup event s.sticky).map (fun record => record.eventRecordInfo.uid)
        = latest.map Prod.snd := by
  unfold stored getStickyCommonEvent StickyManager.getStickyCommonEvent
  cases hlookup : AList.lookup event s.sticky with
  | none => cases latest <;> simp
  | some record =>
    rw [if_neg (hfiled event record hlookup).1]
    cases latest with
    | none => simp
    | some latest => simp [Prod.ext_iff]

/-- The cells that the sticky store holds, or something kept. -/
def heldCells (s : InnerCommonEventManager) : List CellId :=
  s.sticky.entries.map (fun entry => entry.2.commonEventData)
    ++ s.delivery.keptEvents.map (fun b => b.commonEventData)

theorem mem_heldCells {cell : CellId} : cell ∈ s.heldCells
    ↔ (∃ event record, AList.lookup event s.sticky = some record
        ∧ record.commonEventData = cell)
      ∨ ∃ b ∈ s.delivery.keptEvents, b.commonEventData = cell := by
  unfold heldCells
  rw [List.mem_append, List.mem_map, List.mem_map]
  refine or_congr ⟨?_, ?_⟩ Iff.rfl
  · rintro ⟨entry, hmem, rfl⟩
    exact ⟨entry.1, entry.2, AList.mem_lookup_iff.mpr hmem, rfl⟩
  · rintro ⟨event, record, hlookup, rfl⟩
    exact ⟨⟨event, record⟩, AList.mem_lookup_iff.mp hlookup, rfl⟩

/-- A reply that writes into a cell that the store or a buffer holds writes
what is there already. -/
def ReplyOk (s : InnerCommonEventManager) : Option ServiceOp → Prop
  | some (.finishUpdate call _) =>
    let cell := (s.control.records call.record).commonEventData
    cell ∈ s.heldCells → (s.control.cells cell).code = call.code
      ∧ (s.control.cells cell).data = call.receiverData
  | _ => True

/-- A sticky publish that passes its checks finds a control manager, or stores
what is stored already. -/
def StickyOk (P : Platform) (C : Config) (s : InnerCommonEventManager) (args : PublishArgs) :
    Option (EventComeFrom × Int) → Prop
  | some (comeFrom, _) =>
    args.publishInfo.sticky = true → isStickyAllowed P (publisherInfo args comeFrom) = true →
      C.hasControl = true ∨ s.stored args.data.want.action = some (args.data, args.uid)
  | none => True

/-- **The condition on a step.** -/
def CellsOk (P : Platform) (C : Config) (s : InnerCommonEventManager) : ServiceLabel → Prop
  | .control (.op i) => s.ReplyOk s.control.ops[i]?
  | .publishCommonEvent args _ => s.StickyOk P C args (checkPublish P C args)
  | _ => True

/-! ## What a step preserves -/

/-- The locked update of `FinishReceiver` changes one cell. -/
theorem cells_finishUpdate_eq_iff (s : ControlManager) (call : FinishCall) (cell : CellId) :
    (s.finishUpdate call).cells cell = s.cells cell
      ↔ (cell = (s.records call.record).commonEventData →
        (s.cells cell).code = call.code ∧ (s.cells cell).data = call.receiverData) := by
  unfold ControlManager.finishUpdate
  dsimp only
  by_cases hcell : cell = (s.records call.record).commonEventData
  · rw [hcell, Function.update_self]
    constructor
    · intro heq _
      rw [← heq]
      exact ⟨rfl, rfl⟩
    · intro h
      obtain ⟨hcode, hdata⟩ := h rfl
      rw [← hcode, ← hdata]
  · rw [Function.update_of_ne hcell]
    exact ⟨fun _ h => absurd h hcell, fun _ => rfl⟩

/-- A change of cells alone leaves all intact exactly where it changes none
that is held. -/
theorem intact_cells_iff (hfiled : s.StickyFiled) (h : s.Intact) (control : ControlManager) :
    Intact { s with control := control }
      ↔ ∀ cell ∈ s.heldCells, control.cells cell = s.control.cells cell := by
  constructor
  · intro h' cell hcell
    rcases mem_heldCells.mp hcell with ⟨event, record, hlookup, rfl⟩ | ⟨b, hb, rfl⟩
    · have hget := (h'.sticky event).trans (h.sticky event).symm
      unfold getStickyCommonEvent StickyManager.getStickyCommonEvent at hget
      rw [if_neg (hfiled event record hlookup).1, hlookup] at hget
      exact Option.some.inj hget
    · exact (h'.kept b hb).trans (h.kept b hb).symm
  · intro hcells
    refine ⟨fun event => ?_, h.publisher, fun b hb => ?_, h.redelivered⟩
    · refine Eq.trans ?_ (h.sticky event)
      unfold getStickyCommonEvent StickyManager.getStickyCommonEvent
      split
      · rfl
      · cases hlookup : AList.lookup event s.sticky with
        | none => rfl
        | some record =>
          exact congrArg some (hcells _ (mem_heldCells.mpr (Or.inl ⟨event, record, hlookup, rfl⟩)))
    · exact (hcells _ (mem_heldCells.mpr (Or.inr ⟨b, hb, rfl⟩))).trans (h.kept b hb)

/-- What is kept stays intact where no cell changes. -/
theorem Intact.effect (h : s.Intact) (hmade : s.CellsMade) {new : List (Buffered CellId)}
    (heffect : Effect s t new)
    (hcells : ∀ cell < s.control.nextCell, t.control.cells cell = s.control.cells cell) :
    (∀ b ∈ t.delivery.keptEvents, t.control.cells b.commonEventData = t.kept b.buffering)
      ∧ ∀ n d, .redelivered n d ∈ t.trace → d = t.kept n := by
  refine ⟨fun b hb => ?_, fun n d hd => ?_⟩
  · rcases List.mem_append.mp (heffect.kept hb) with hb | hb
    · rw [heffect.noted b hb, hcells _ (hmade.inFlight _ (heffect.fresh b hb).1)]
    · rw [heffect.stays _ (hmade.kept b hb).2, hcells _ (hmade.kept b hb).1]
      exact h.kept b hb
  · rcases heffect.redelivered n d hd with hd | ⟨b, hb, rfl, rfl⟩
    · rw [heffect.stays n (hmade.traced n d hd)]
      exact h.redelivered n d hd
    · rw [heffect.stays _ (hmade.kept b hb).2]
      exact h.kept b hb

/-- A record that was stored before reads as before where no cell changes. -/
theorem lookup_stored_eq (hfiled : s.StickyFiled)
    (hcells : ∀ cell < s.control.nextCell, t.control.cells cell = s.control.cells cell)
    (event : String) :
    (AList.lookup event s.sticky).map (fun record =>
        (t.control.cells record.commonEventData, record.eventRecordInfo.uid))
      = s.stored event := by
  unfold stored
  cases hlookup : AList.lookup event s.sticky with
  | none => rfl
  | some record =>
    rw [Option.map_some, Option.map_some, hcells _ (hfiled event record hlookup).2.1]

/-- **A step leaves all intact exactly when it meets its condition.** -/
theorem intact_step_iff (hs : (serviceMachine P S C).Reachable s) (h : s.Intact) {l : ServiceLabel}
    (hstep : s.step P S C l = some t) : t.Intact ↔ s.CellsOk P C l := by
  have hfiled := stickyFiled_reachable hs
  have hfiled' := stickyFiled_step hfiled hstep
  have hmade := cellsMade_reachable hs
  rcases (cells_step hstep).2 with ⟨i, call, state, rfl, hop, -⟩ | ⟨hnot, hcells⟩
  · -- the locked update of a reply
    obtain ⟨control, hcontrol, rfl⟩ := Option.map_eq_some_iff.mp
      (show (s.control.step P S (.op i)).map (fun control => { s with control := control }) = some t
        from hstep)
    have hwrite : control.cells = (s.control.finishUpdate call).cells := by
      rcases (ControlManager.cells_step (l := .op i) rfl hcontrol).2 with
        ⟨i', call', state', hi, hop', hcells⟩ | ⟨hnot, -⟩
      · cases hi
        obtain ⟨rfl, -⟩ : call' = call ∧ state' = state := by
          simpa using hop'.symm.trans hop
        exact hcells
      · exact absurd hop (hnot i call state rfl)
    rw [intact_cells_iff hfiled h control, hwrite]
    rw [CellsOk, hop, ReplyOk]
    constructor
    · intro hsame hheld
      exact (cells_finishUpdate_eq_iff s.control call _).mp (hsame _ hheld) rfl
    · intro hok cell hheld
      refine (cells_finishUpdate_eq_iff s.control call cell).mpr ?_
      rintro rfl
      exact hok hheld
  · -- no cell that has been made changes, so only the store is in question
    obtain ⟨new, heffect⟩ := effect_reachable hs hstep
    obtain ⟨hkept, hredelivered⟩ := h.effect hmade heffect hcells
    have hstored : ∀ event, s.stored event = latestSticky s.trace event := fun event =>
      (stored_eq_iff hfiled event _).mpr ⟨h.sticky event, h.publisher event⟩
    have hintact : t.Intact ↔ ∀ event, t.stored event = latestSticky t.trace event := by
      constructor
      · exact fun h' event =>
          (stored_eq_iff hfiled' event _).mpr ⟨h'.sticky event, h'.publisher event⟩
      · intro hall
        exact ⟨fun event => ((stored_eq_iff hfiled' event _).mp (hall event)).1,
          fun event => ((stored_eq_iff hfiled' event _).mp (hall event)).2, hkept, hredelivered⟩
    rw [hintact]
    have hold := lookup_stored_eq hfiled hcells
    rcases sticky_step hstep with
      ⟨args, env, comeFrom, user, rfl, hcheck, hsticky, hallowed, hstore, -, hdata, htrace⟩ |
      ⟨event', callerUid, rfl, hstore, htrace⟩ | ⟨hstore, htrace, hnone⟩
    · -- what is published is stored under its name
      have hnew : ∀ event, t.stored event = if event = args.data.want.action
          then some (args.data, args.uid) else s.stored event := by
        intro event
        rw [← hold event]
        unfold stored
        rw [hstore, StickyManager.lookup_updateStickyEvent _ (action_of_checkPublish hcheck)]
        split
        · show some (t.control.cells s.control.nextCell, args.uid) = _
          rw [hdata]
        · rfl
      rw [CellsOk, hcheck, StickyOk]
      cases hC : C.hasControl with
      | true =>
        rw [hC] at htrace
        refine iff_of_true (fun event => ?_) fun _ _ => Or.inl rfl
        rw [hnew, show t.trace = s.trace ++ [.published args.data.want.action args.data args.uid]
          from htrace, latestSticky_concat, stickyStep, hstored]
        exact if_congr eq_comm rfl rfl
      | false =>
        rw [hC] at htrace
        have htrace' : t.trace = s.trace := htrace
        rw [htrace']
        constructor
        · intro hall _ _
          refine Or.inr ((hstored _).trans ((hall _).symm.trans ?_))
          rw [hnew, if_pos rfl]
        · intro hok event
          have hsame := (hok hsticky hallowed).resolve_left (by decide)
          rw [hnew, ← hstored event]
          split
          next hevent => rw [hevent, hsame]
          next => rfl
    · -- a removal takes out what its caller published
      refine iff_of_true (fun event => ?_) trivial
      rw [htrace, latestSticky_concat, stickyStep, ← hstored, ← hold event]
      unfold stored
      rw [hstore, StickyManager.lookup_removeStickyCommonEvent]
      by_cases hevent : event = event'
      · subst hevent
        cases hlookup : AList.lookup event s.sticky with
        | none => simp
        | some record => by_cases huid : record.eventRecordInfo.uid = callerUid <;> simp [huid]
      · rw [if_neg fun hc => hevent hc.1, if_neg fun hc => hevent hc.1.symm]
    · refine iff_of_true (fun event => ?_) ?_
      · have hlatest : latestSticky t.trace event = latestSticky s.trace event := by
          rcases htrace with htrace | ⟨buffering, data, htrace⟩
          · rw [htrace]
          · rw [htrace, latestSticky_concat]
            rfl
        rw [hlatest, ← hstored event, ← hold event]
        unfold stored
        rw [hstore]
      · cases l with
        | control l =>
          cases l with
          | op i =>
            rw [CellsOk]
            unfold ReplyOk
            split
            next call state hop => exact absurd hop (hnot i call state rfl)
            next => trivial
          | _ => trivial
        | publishCommonEvent args env =>
          rw [CellsOk]
          unfold StickyOk
          split
          next comeFrom user hcheck =>
            intro hsticky hallowed
            exact absurd ⟨comeFrom, user, hcheck, hsticky, hallowed⟩ hnone
          next => trivial
        | _ => trivial

theorem intact_init : Intact ({} : InnerCommonEventManager) where
  sticky event := by
    unfold getStickyCommonEvent StickyManager.getStickyCommonEvent
    split <;> rfl
  publisher _ := rfl
  kept := List.forall_mem_nil _
  redelivered := nofun

/-- **The sticky store returns what was published, and the frozen are sent what
was kept for them, in the runs whose every step meets its condition**, and in
no others. -/
theorem intact_iff_cellsOk {ls : List ServiceLabel}
    (hs : (serviceMachine P S C).run ls = some s) :
    (∀ pre post t, ls = pre ++ post → (serviceMachine P S C).run pre = some t → t.Intact)
      ↔ (serviceMachine P S C).Guarded (CellsOk P C) ls :=
  Machine.forall_prefix_iff_guarded (M := serviceMachine P S C) intact_init
    (fun _ _ _ hreach h hstep => intact_step_iff hreach h hstep) hs

/-! ## A reply to an ordered event that is sticky -/

instance : ∀ op, Decidable (s.ReplyOk op)
  | some (.finishUpdate _ _) => inferInstanceAs (Decidable (_ → _ ∧ _))
  | some .schedule => .isTrue trivial
  | some (.readResult _ _) => .isTrue trivial
  | some (.finishLoad _) => .isTrue trivial
  | none => .isTrue trivial

instance (args : PublishArgs) : ∀ checked, Decidable (s.StickyOk P C args checked)
  | some _ => inferInstanceAs (Decidable (_ → _ → _ ∨ _))
  | none => .isTrue trivial

instance : ∀ l, Decidable (s.CellsOk P C l)
  | .control (.op i) => inferInstanceAs (Decidable (s.ReplyOk s.control.ops[i]?))
  | .publishCommonEvent args _ =>
    inferInstanceAs (Decidable (s.StickyOk P C args (checkPublish P C args)))
  | .control (.tick _) => .isTrue trivial
  | .control (.makeCells _ _) => .isTrue trivial
  | .control (.setUnordered _) => .isTrue trivial
  | .control (.publish _) => .isTrue trivial
  | .control (.finishReceiver _) => .isTrue trivial
  | .control (.unsubscribeCommonEvent _) => .isTrue trivial
  | .control .processNextOrderedEvent => .isTrue trivial
  | .control (.timeout _) => .isTrue trivial
  | .control (.thread _) => .isTrue trivial
  | .subscribeCommonEvent _ => .isTrue trivial
  | .unsubscribeCommonEvent _ => .isTrue trivial
  | .finishReceiver _ => .isTrue trivial
  | .removeStickyCommonEvent _ _ => .isTrue trivial
  | .setStaticSubscriberState _ _ _ _ => .isTrue trivial
  | .freeze _ _ => .isTrue trivial
  | .unfreeze _ => .isTrue trivial
  | .setFreezeStatus _ _ _ => .isTrue trivial
  | .unfreezeAll => .isTrue trivial
  | .onRemoteDied _ => .isTrue trivial
  | .unordered => .isTrue trivial
  | .unorderedImmediate => .isTrue trivial
  | .call _ => .isTrue trivial

/-- Token 1 is that of a system service. -/
def serviceToken : Platform where
  getTokenTypeFlag token := if token = 1 then .native else .hap

/-- An application subscribes to the event. -/
def subscriberOfE : SubscribeArgs where
  subscribeInfo := { matchingSkills := { events := ["e"] } }
  commonEventListener := some ⟨1⟩
  pid := 5
  uid := 100
  maxSubscriberNum := 5000

/-- A system service publishes the event, sticky and ordered. -/
def stickyAndOrdered : PublishArgs where
  data := { want := { action := "e" } }
  publishInfo := { sticky := true, ordered := true }
  callerToken := 1

/-- The application is notified, and answers with a code. -/
def answered (code : Int) : List ServiceLabel :=
  [.subscribeCommonEvent subscriberOfE, .publishCommonEvent stickyAndOrdered {},
    .control (.op 0), .control .processNextOrderedEvent, .control (.thread {}),
    .control (.thread {}), .control (.thread {}), .control (.thread {}), .control (.thread {}),
    .control (.thread {}), .finishReceiver ⟨some ⟨1⟩, code, "", false, (0, 0)⟩,
    .control (.op 0), .control (.op 0)]

/-- A reply that changes nothing leaves all intact. -/
theorem intact_iff_cellsOk_answered :
    ∃ s, (serviceMachine serviceToken .insertion {}).run (answered 0) = some s
      ∧ s.control.ops = []
      ∧ ∀ pre post t, answered 0 = pre ++ post →
        (serviceMachine serviceToken .insertion {}).run pre = some t → t.Intact := by
  obtain ⟨s, hs, hops⟩ := Option.map_eq_some_iff.mp
    (show ((serviceMachine serviceToken .insertion {}).run (answered 0)).map
      (fun s => s.control.ops) = some [] by decide +kernel)
  exact ⟨s, hs, hops,
    (intact_iff_cellsOk hs).mpr (Machine.guarded_of_guardedFrom (by decide +kernel))⟩

/-- **A reply can change what the sticky store returns**: the event was
published with the code 0, and is read with the code 5. -/
theorem reply_changes_sticky :
    ¬ ∀ (P : Platform) (S : StdSort) (C : Config) (s : InnerCommonEventManager)
      (event : String), (serviceMachine P S C).Reachable s →
        s.getStickyCommonEvent event = (latestSticky s.trace event).map Prod.fst := by
  intro hall
  obtain ⟨s, hs, hread⟩ := Option.map_eq_some_iff.mp
    (show ((serviceMachine serviceToken .insertion {}).run (answered 5)).map
      (fun s => ((s.getStickyCommonEvent "e").map (·.code),
        ((latestSticky s.trace "e").map Prod.fst).map (·.code))) = some (some 5, some 0)
      by decide +kernel)
  obtain ⟨hget, hlatest⟩ := Prod.mk.inj hread
  rw [← hall serviceToken .insertion {} s "e" ⟨_, hs⟩, hget] at hlatest
  cases hlatest

end InnerCommonEventManager

end CommonEventService

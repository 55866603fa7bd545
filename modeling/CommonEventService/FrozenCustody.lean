import CommonEventService.FrozenRedelivery
import CommonEventService.SubscriberRegistry

/-!
# Nothing kept is stranded

An event that is kept for a frozen subscriber comes out again when the
subscriber is released: an unfreeze by uid finds it in the one buffer, an
unfreeze by pid in the other, an unfreeze of all in either. That takes that
the event lies where the unfreeze will look. While the subscriber is frozen it
has to lie in both buffers under what the subscriber is registered with; and
once it is released, an unfreezing call in progress has to be still on its way
to the event.

That is the invariant, `Custody`. The look at the freeze flag and the two
insertions are steps apart, so it is not kept by all of them: an insertion may
come when its subscriber has been released and the call has gone by, and it
may go by a record that is no longer the registered one. It may also come when
its subscriber has unsubscribed; then the event lies in the buffers until the
subscriber comes back, and nothing will look for it. The guard `CustodyOk` says
which insertions and which subscriptions are safe.
-/

namespace CommonEventService

open FrozenBuffer (bufferings)

namespace FrozenBuffer

variable {δ π κ : Type} [DecidableEq κ] (buffer : FrozenBuffer κ (Buffered δ) π) (key : κ)
  (subscriber : EventSubscriberRecord) (record : CommonEventRecord (Buffered δ) π)

/-- What an event lets go of and what it leaves are what was there, and
itself. -/
theorem mem_bufferings_emplaceBack {events : List (CommonEventRecord (Buffered δ) π)} {k : ℕ} :
    k ∈ bufferings (expired events record) ∨ k ∈ bufferings (emplaceBack events record)
      ↔ k ∈ bufferings events ∨ k = record.commonEventData.buffering := by
  have happend := congrArg bufferings (expired_append_emplaceBack events record)
  unfold bufferings at happend ⊢
  rw [List.map_append, List.map_append] at happend
  rw [← List.mem_append, happend, List.mem_append]
  exact or_congr_right List.mem_singleton

/-- **The event is kept**, if it does not go at once. -/
theorem mem_insert_self :
    record.commonEventData.buffering ∈ bufferings
        (expired (buffer.keptFor key subscriber.commonEventListener) record)
      ∨ record.commonEventData.buffering ∈ bufferings
        ((buffer.insert key subscriber record).keptFor key subscriber.commonEventListener) := by
  rw [keptFor_insert]
  exact mem_bufferings_emplaceBack record |>.mpr (Or.inr rfl)

/-- **What was kept is kept**, but for what goes. -/
theorem mem_insert_of_mem {key' : κ} {l : Remote} {k : ℕ}
    (hk : k ∈ bufferings (buffer.keptFor key' l)) :
    k ∈ bufferings (expired (buffer.keptFor key subscriber.commonEventListener) record)
      ∨ k ∈ bufferings ((buffer.insert key subscriber record).keptFor key' l) := by
  by_cases hsame : key' = key ∧ l = subscriber.commonEventListener
  · obtain ⟨rfl, rfl⟩ := hsame
    rw [keptFor_insert]
    exact mem_bufferings_emplaceBack record |>.mpr (Or.inl hk)
  · right
    rw [keptFor_insert_ite, if_neg hsame]
    exact hk

end FrozenBuffer

namespace UnfreezeCall

/-- Whether a call is yet to read what is kept under a uid. -/
def readsUid (uid : Uid) : UnfreezeCall → Bool
  | .getFrozenEvents uid' => uid' = uid
  | .getFrozenEventsMapByPid _ => false
  | .getAllFrozenEvents => true
  | .getAllFrozenEventsMap => false

/-- Whether a call is yet to read what is kept under a pid. -/
def readsPid (pid : Pid) : UnfreezeCall → Bool
  | .getFrozenEvents _ => false
  | .getFrozenEventsMapByPid pidList => pidList.contains pid
  | .getAllFrozenEvents => true
  | .getAllFrozenEventsMap => true

end UnfreezeCall

namespace UnorderedDelivery

open SubscriberManager

variable {δ π : Type} {P : Platform} {S : StdSort} {s t : UnorderedDelivery δ π}

/-! ## Where an event may be -/

/-- What is kept for a listener under a uid, by the numbers of the keepings. -/
def keptByUid (s : UnorderedDelivery δ π) (l : Remote) (uid : Uid) : List ℕ :=
  bufferings (s.manager.frozenEvents.keptFor uid l)

/-- What is kept for a listener under a pid. -/
def keptByPid (s : UnorderedDelivery δ π) (l : Remote) (pid : Pid) : List ℕ :=
  bufferings (s.manager.frozenEventsMap.keptFor pid l)

/-- **A keeping is settled**: its event has been submitted by an unfreeze, or
has gone by the rule of `FREEZE_EVENT_TIMEOUT`. -/
def Settled (s : UnorderedDelivery δ π) (k : ℕ) : Prop :=
  k ∈ s.submitted.map Prod.snd ∨ k ∈ s.dropped

/-- A call is yet to find an event kept for a listener. -/
def Finds (s : UnorderedDelivery δ π) (l : Remote) (k : ℕ) (call : UnfreezeCall) : Prop :=
  (∃ uid, call.readsUid uid ∧ k ∈ s.keptByUid l uid)
    ∨ ∃ pid, call.readsPid pid ∧ k ∈ s.keptByPid l pid

/-- **A keeping is due**: an unfreezing call in progress is yet to find it. -/
def Due (s : UnorderedDelivery δ π) (l : Remote) (k : ℕ) : Prop :=
  ∃ call ∈ s.calls, s.Finds l k call

/-- The insertions in progress. -/
def insertions (s : UnorderedDelivery δ π) : List (FrozenInsertion δ π) :=
  s.ordered.toList ++ (s.unorderedQueue ++ s.unorderedImmediateQueue).filterMap taskInsertion

/-- **A keeping is underway**: its second insertion is still to come. -/
def Underway (s : UnorderedDelivery δ π) (l : Remote) (k : ℕ) : Prop :=
  ∃ insertion ∈ s.insertions, insertion.buffering = some k
    ∧ s.manager.listenerOf insertion.subscriber = l

/-- **A keeping is in place** for a registered record: where its unfreeze will
look. -/
structure InPlace (s : UnorderedDelivery δ π) (l : Remote) (k : ℕ)
    (record : EventSubscriberRecord) : Prop where
  uid : k ∈ s.keptByUid l record.eventRecordInfo.uid
  pid : s.Underway l k ∨ k ∈ s.keptByPid l record.eventRecordInfo.pid ∧ record.isFreeze = true

/-- **A keeping is secure**: nothing is asked where nobody is registered. -/
def Secure (s : UnorderedDelivery δ π) (l : Remote) (k : ℕ) : Prop :=
  s.Settled k ∨ s.Due l k ∨ ∀ record ∈ s.manager.recordOf l, s.InPlace l k record

/-- **All that was kept is secure.** -/
def Custody (s : UnorderedDelivery δ π) : Prop :=
  ∀ kept ∈ s.buffered, s.Secure kept.1 kept.2

/-- **Nothing is stranded**: for a registered subscriber that is not frozen,
with no notification in between and no unfreeze on its way to anything kept
for it, all that was ever kept is settled. -/
def NotStranded (s : UnorderedDelivery δ π) : Prop :=
  ∀ l record, s.manager.recordOf l = some record → record.isFreeze = false →
    (∀ insertion ∈ s.insertions, s.manager.listenerOf insertion.subscriber ≠ l) →
    (∀ call ∈ s.calls, ∀ k, ¬ s.Finds l k call) → ∀ k, (l, k) ∈ s.buffered → s.Settled k

theorem Custody.notStranded (h : s.Custody) : s.NotStranded := by
  intro l record hrecord hfreeze hinsertions hcalls k hk
  rcases h (l, k) hk with hsettled | ⟨call, hcall, hfinds⟩ | hplace
  · exact hsettled
  · exact absurd hfinds (hcalls call hcall k)
  · rcases (hplace record hrecord).pid with ⟨insertion, hinsertion, -, hlistener⟩ | ⟨-, hfrozen⟩
    · exact absurd hlistener (hinsertions insertion hinsertion)
    · rw [hfreeze] at hfrozen
      cases hfrozen

/-! ## The condition on a step -/

/-- Where a call that is still to read a uid, or a pid, is in progress. -/
def ReadsUid (s : UnorderedDelivery δ π) (uid : Uid) : Prop :=
  ∃ call ∈ s.calls, call.readsUid uid

def ReadsPid (s : UnorderedDelivery δ π) (pid : Pid) : Prop :=
  ∃ call ∈ s.calls, call.readsPid pid

/-- **A safe insertion.** The first goes by the registered uid, or an
unfreezing call is yet to read the one it goes by. The second goes by the
registered pid while the subscriber is frozen and the first is still there, or
such a call is in progress – unless the keeping needs it no more. -/
def InsertionSafe (s : UnorderedDelivery δ π) (insertion : FrozenInsertion δ π) : Prop :=
  let vec := s.manager.heap insertion.subscriber
  let l := vec.commonEventListener
  match insertion.buffering with
  | none =>
    s.ReadsUid vec.eventRecordInfo.uid ∨
      ∀ record ∈ s.manager.recordOf l, vec.eventRecordInfo.uid = record.eventRecordInfo.uid
  | some k =>
    s.ReadsPid vec.eventRecordInfo.pid ∨ s.Settled k ∨ s.Due l k ∨
      ∀ record ∈ s.manager.recordOf l, (l, k) ∈ s.buffered
        ∧ vec.eventRecordInfo.pid = record.eventRecordInfo.pid ∧ record.isFreeze = true

/-- What a subscription asks for, where the manager does not refuse it. -/
def subscriptionOf : DeliveryLabel δ π → Option (Remote × EventRecordInfo)
  | .insertSubscriber _ (some info) (some listener) recordInfo =>
    if info.getEvents.length ≠ 0 ∧ info.getEvents.length ≤ SUBSCRIBE_EVENT_MAX_NUM
    then some (listener, recordInfo) else none
  | _ => none

/-- **A safe subscription.** An update keeps the uid, and the pid, that
something is kept under. A new subscription finds nothing kept, but what a
second insertion is still to come for, under its uid. -/
def SubscriptionSafe (s : UnorderedDelivery δ π) (l : Remote) (recordInfo : EventRecordInfo) :
    Prop :=
  ∀ kept ∈ s.buffered, kept.1 = l → s.Settled kept.2 ∨ s.Due l kept.2 ∨
    (∀ record ∈ s.manager.recordOf l, recordInfo.uid = record.eventRecordInfo.uid
      ∧ (kept.2 ∈ s.keptByPid l record.eventRecordInfo.pid →
        recordInfo.pid = record.eventRecordInfo.pid))
      ∧ (s.manager.recordOf l = none →
        kept.2 ∈ s.keptByUid l recordInfo.uid ∧ s.Underway l kept.2)

/-- **The condition on a step**: its insertion is safe, and its
subscription. -/
def CustodyOk (s : UnorderedDelivery δ π) (l : DeliveryLabel δ π) : Prop :=
  (∀ insertion ∈ s.insertionOf l, s.InsertionSafe insertion)
    ∧ ∀ subscription ∈ subscriptionOf l, s.SubscriptionSafe subscription.1 subscription.2

/-! ## What a step keeps secure -/

variable {l : Remote} {k : ℕ} {record record' : EventSubscriberRecord}

/-- What is kept for a listener is its entry. -/
theorem keptByUid_congr {uid : Uid} (h : t.manager.frozenEvents.entry uid l
    = s.manager.frozenEvents.entry uid l) : t.keptByUid l uid = s.keptByUid l uid := by
  unfold keptByUid FrozenBuffer.keptFor
  rw [h]

theorem keptByPid_congr {pid : Pid} (h : t.manager.frozenEventsMap.entry pid l
    = s.manager.frozenEventsMap.entry pid l) : t.keptByPid l pid = s.keptByPid l pid := by
  unfold keptByPid FrozenBuffer.keptFor
  rw [h]

theorem Settled.mono (h : s.Settled k) (hsubmitted : s.submitted ⊆ t.submitted)
    (hdropped : s.dropped ⊆ t.dropped) : t.Settled k :=
  h.imp (fun hk => List.map_subset _ hsubmitted hk) (fun hk => hdropped hk)

/-- What is kept stays where it is, or is settled. -/
structure Stays (s t : UnorderedDelivery δ π) (l : Remote) (k : ℕ) : Prop where
  settled : s.Settled k → t.Settled k
  uid : ∀ uid, k ∈ s.keptByUid l uid → t.Settled k ∨ k ∈ t.keptByUid l uid
  pid : ∀ pid, k ∈ s.keptByPid l pid → t.Settled k ∨ k ∈ t.keptByPid l pid

theorem Stays.of_entries (hsubmitted : s.submitted ⊆ t.submitted) (hdropped : s.dropped ⊆ t.dropped)
    (huid : ∀ uid, t.manager.frozenEvents.entry uid l = s.manager.frozenEvents.entry uid l)
    (hpid : ∀ pid, t.manager.frozenEventsMap.entry pid l = s.manager.frozenEventsMap.entry pid l) :
    Stays s t l k where
  settled h := h.mono hsubmitted hdropped
  uid uid hk := Or.inr ((keptByUid_congr (huid uid)).symm ▸ hk)
  pid pid hk := Or.inr ((keptByPid_congr (hpid pid)).symm ▸ hk)

/-- A call that finds a keeping finds it still, where it is still to read. -/
theorem Stays.finds (h : Stays s t l k) {call call' : UnfreezeCall} (hcall : call' ∈ t.calls)
    (huid : ∀ uid, call.readsUid uid → call'.readsUid uid)
    (hpid : ∀ pid, call.readsPid pid → call'.readsPid pid) (hfinds : s.Finds l k call) :
    t.Settled k ∨ t.Due l k := by
  rcases hfinds with ⟨uid, hreads, hk⟩ | ⟨pid, hreads, hk⟩
  · exact (h.uid uid hk).imp_right fun hk => ⟨call', hcall, Or.inl ⟨uid, huid uid hreads, hk⟩⟩
  · exact (h.pid pid hk).imp_right fun hk => ⟨call', hcall, Or.inr ⟨pid, hpid pid hreads, hk⟩⟩

theorem Stays.due (h : Stays s t l k) (hcalls : s.calls ⊆ t.calls) (hdue : s.Due l k) :
    t.Settled k ∨ t.Due l k := by
  obtain ⟨call, hcall, hfinds⟩ := hdue
  exact h.finds (hcalls hcall) (fun _ => id) (fun _ => id) hfinds

/-- A keeping is secure, if it is so where somebody is registered. -/
theorem Secure.of_record (h : ∀ record ∈ s.manager.recordOf l,
    s.Settled k ∨ s.Due l k ∨ s.InPlace l k record) : s.Secure l k := by
  cases hrecord : s.manager.recordOf l with
  | none =>
    refine Or.inr (Or.inr fun record hmem => ?_)
    rw [hrecord] at hmem
    cases hmem
  | some record =>
    rcases h record hrecord with hsettled | hdue | hin
    · exact Or.inl hsettled
    · exact Or.inr (Or.inl hdue)
    · refine Or.inr (Or.inr fun record' hrecord' => ?_)
      obtain rfl := Option.some.inj (hrecord.symm.trans hrecord')
      exact hin

/-- **What stays is secure**, if it is so where its record says. -/
theorem Stays.secure (h : Stays s t l k) (hcalls : s.calls ⊆ t.calls)
    (hplace : (∀ record ∈ s.manager.recordOf l, s.InPlace l k record) →
      ∀ record ∈ t.manager.recordOf l, t.Settled k ∨ t.Due l k ∨ t.InPlace l k record)
    (hsecure : s.Secure l k) : t.Secure l k := by
  rcases hsecure with hsettled | hdue | hin
  · exact Or.inl (h.settled hsettled)
  · exact (h.due hcalls hdue).imp_right Or.inl
  · exact Secure.of_record (hplace hin)

/-- A keeping stays in place while its record keeps the keys and the freeze
flag. -/
theorem Stays.inPlace (h : Stays s t l k) (hunderway : s.Underway l k → t.Underway l k)
    (huid : record'.eventRecordInfo.uid = record.eventRecordInfo.uid)
    (hpid : k ∈ s.keptByPid l record.eventRecordInfo.pid →
      record'.eventRecordInfo.pid = record.eventRecordInfo.pid)
    (hfreeze : record.isFreeze = true → record'.isFreeze = true) (hin : s.InPlace l k record) :
    t.Settled k ∨ t.Due l k ∨ t.InPlace l k record' := by
  rcases h.uid _ hin.uid with hsettled | hkept
  · exact Or.inl hsettled
  · rcases hin.pid with hin | ⟨hk, hfrozen⟩
    · exact Or.inr (Or.inr ⟨huid ▸ hkept, Or.inl (hunderway hin)⟩)
    · rcases h.pid _ hk with hsettled | hkept'
      · exact Or.inl hsettled
      · exact Or.inr (Or.inr ⟨huid ▸ hkept, Or.inr ⟨hpid hk ▸ hkept', hfreeze hfrozen⟩⟩)

/-! ### The insertions in progress -/

theorem subscriber_mem_held {insertion : FrozenInsertion δ π} (h : insertion ∈ s.insertions) :
    insertion.subscriber ∈ s.held := by
  rcases List.mem_append.mp h with h | h
  · exact List.mem_append_left _ (List.mem_map_of_mem h)
  · obtain ⟨task, htask, hinsertion⟩ := List.mem_filterMap.mp h
    refine List.mem_append_right _ (List.mem_flatMap.mpr ⟨task, htask, ?_⟩)
    cases task with
    | handleFrozenUnorderedSubscriber record insertion' receivers =>
      cases hinsertion
      exact List.mem_cons_self
    | _ => cases hinsertion

/-- The record of an insertion in progress keeps its listener. -/
theorem listenerOf_insertion (hs : (deliveryMachine P S δ π).Reachable s)
    {label : DeliveryLabel δ π} (hstep : s.step P S label = some t)
    {insertion : FrozenInsertion δ π} (h : insertion ∈ s.insertions) :
    t.manager.listenerOf insertion.subscriber = s.manager.listenerOf insertion.subscriber :=
  (manager_step hstep).listenerOf (indexSound_reachable hs).allocated
    (held_reachable hs _ (subscriber_mem_held h))

theorem filterMap_taskInsertion_cons (task : UnorderedTask δ π) (rest : List (UnorderedTask δ π)) :
    (task :: rest).filterMap taskInsertion
      = (taskInsertion task).toList ++ rest.filterMap taskInsertion := by
  rw [List.filterMap_cons]
  cases taskInsertion task <;> rfl

/-- What an insertion leaves of itself. -/
theorem taskInsertion_stepTask {task : UnorderedTask δ π} {insertion : FrozenInsertion δ π}
    (h : taskInsertion task = some insertion) :
    (s.stepTask task).2.toList.filterMap taskInsertion = (s.stepInsertion insertion).2.toList := by
  cases task with
  | handleFrozenUnorderedSubscriber record insertion' receivers =>
    cases h
    rw [stepTask]
    dsimp only
    cases (s.stepInsertion insertion).2 <;> rfl
  | _ => cases h

/-- **The insertions after the step of one of them**: what is left of it, and
the others. -/
theorem insertions_insertion {label : DeliveryLabel δ π} {insertion : FrozenInsertion δ π}
    (hstep : s.step P S label = some t) (hinsertion : s.insertionOf label = some insertion) :
    ∃ others : List (FrozenInsertion δ π), (∀ x, x ∈ s.insertions ↔ x = insertion ∨ x ∈ others)
      ∧ ∀ x, x ∈ t.insertions ↔ x ∈ (s.stepInsertion insertion).2 ∨ x ∈ others := by
  cases label with
  | unordered =>
    obtain ⟨task, rest, hqueue, rfl⟩ := unordered_cases hstep
    rw [insertionOf_unordered hqueue] at hinsertion
    obtain ⟨-, hiq, hord, -⟩ := stepTask_frame (s := s) task
    -- the task in front holds the insertion, all other tasks stay
    refine ⟨s.ordered.toList ++ (rest ++ s.unorderedImmediateQueue).filterMap taskInsertion,
      fun x => ?_, fun x => ?_⟩
    · unfold insertions
      rw [hqueue, List.cons_append, filterMap_taskInsertion_cons, hinsertion]
      simp only [List.mem_append, Option.toList_some, List.mem_singleton]
      tauto
    · unfold insertions
      dsimp only
      rw [hiq, hord, List.append_assoc, List.filterMap_append, taskInsertion_stepTask hinsertion]
      simp only [List.mem_append, Option.mem_toList]
      tauto
  | unorderedImmediate =>
    obtain ⟨task, rest, hqueue, rfl⟩ := unorderedImmediate_cases hstep
    rw [insertionOf_unorderedImmediate hqueue] at hinsertion
    obtain ⟨huq, -, hord, -⟩ := stepTask_frame (s := s) task
    refine ⟨s.ordered.toList ++ (s.unorderedQueue ++ rest).filterMap taskInsertion,
      fun x => ?_, fun x => ?_⟩
    · unfold insertions
      rw [hqueue, List.filterMap_append, filterMap_taskInsertion_cons, hinsertion,
        List.filterMap_append]
      simp only [List.mem_append, Option.toList_some, List.mem_singleton]
      tauto
    · unfold insertions
      dsimp only
      rw [huq, hord, List.filterMap_append, List.filterMap_append,
        taskInsertion_stepTask hinsertion, List.filterMap_append]
      simp only [List.mem_append, Option.mem_toList]
      tauto
  | notifyFrozenSubscriber =>
    obtain ⟨insertion', hordered, rfl⟩ := notifyFrozenSubscriber_cases hstep
    obtain rfl := Option.some.inj (hordered.symm.trans hinsertion)
    obtain ⟨huq, hiq, -, -⟩ := stepInsertion_frame (s := s) insertion'
    refine ⟨(s.unorderedQueue ++ s.unorderedImmediateQueue).filterMap taskInsertion,
      fun x => ?_, fun x => ?_⟩
    · unfold insertions
      rw [hordered]
      simp only [List.mem_append, Option.toList_some, List.mem_singleton]
    · unfold insertions
      dsimp only
      rw [huq, hiq]
      simp only [List.mem_append, Option.mem_toList, Option.mem_def]
  | _ => cases hinsertion

/-- What an unfreezing call submits touches neither the calls nor the logs of
what is kept, and is no insertion. -/
theorem publishFrozenEventsInner_frame (kind : UnfreezeKind)
    (frozenRecords : FrozenRecords (Buffered δ) π) :
    (s.publishFrozenEventsInner kind frozenRecords).calls = s.calls
      ∧ (s.publishFrozenEventsInner kind frozenRecords).buffered = s.buffered
      ∧ (s.publishFrozenEventsInner kind frozenRecords).dropped = s.dropped
      ∧ (s.publishFrozenEventsInner kind frozenRecords).insertions = s.insertions := by
  refine ⟨rfl, rfl, rfl, ?_⟩
  unfold publishFrozenEventsInner insertions
  dsimp only
  have hnone : ((frozenTasks frozenRecords).map fun task =>
      (UnorderedTask.notifyFreezeEvents task.1 task.2 : UnorderedTask δ π)).filterMap
        taskInsertion = [] := by
    rw [List.filterMap_map]
    exact List.filterMap_eq_nil_iff.mpr fun _ _ => rfl
  rw [← List.append_assoc, List.filterMap_append, hnone, List.append_nil]

theorem publishAllFrozenEvents_frame {κ : Type} (buffer : FrozenBuffer κ (Buffered δ) π) :
    (s.publishAllFrozenEvents buffer).calls = s.calls
      ∧ (s.publishAllFrozenEvents buffer).buffered = s.buffered
      ∧ (s.publishAllFrozenEvents buffer).dropped = s.dropped
      ∧ (s.publishAllFrozenEvents buffer).insertions = s.insertions := by
  unfold publishAllFrozenEvents
  generalize buffer.entries = entries
  induction entries generalizing s with
  | nil => exact ⟨rfl, rfl, rfl, rfl⟩
  | cons entry entries ih =>
    obtain ⟨-, -, -, hinsertions⟩ := s.publishFrozenEventsInner_frame .all entry.2
    obtain ⟨hcalls', hbuffered', hdropped', hinsertions'⟩ :=
      ih (s := s.publishFrozenEventsInner .all entry.2)
    exact ⟨hcalls', hbuffered', hdropped', hinsertions'.trans hinsertions⟩

/-- What a step of a call leaves of the call. -/
def restOfCall (i : ℕ) (calls : List UnfreezeCall) : UnfreezeCall → List UnfreezeCall
  | .getFrozenEvents _ => calls.eraseIdx i
  | .getFrozenEventsMapByPid [] => calls.eraseIdx i
  | .getFrozenEventsMapByPid (_ :: pidList) => calls.set i (.getFrozenEventsMapByPid pidList)
  | .getAllFrozenEvents => calls.set i .getAllFrozenEventsMap
  | .getAllFrozenEventsMap => calls.eraseIdx i

theorem stepCall_frame (i : ℕ) (call : UnfreezeCall) :
    (s.stepCall i call).calls = restOfCall i s.calls call
      ∧ (s.stepCall i call).buffered = s.buffered
      ∧ (s.stepCall i call).dropped = s.dropped
      ∧ (s.stepCall i call).insertions = s.insertions := by
  unfold stepCall
  split
  · exact publishFrozenEventsInner_frame _ _
  · exact ⟨rfl, rfl, rfl, rfl⟩
  · exact publishFrozenEventsInner_frame _ _
  · exact publishAllFrozenEvents_frame _
  · exact publishAllFrozenEvents_frame _

/-- A step without an insertion leaves all of them in progress. -/
theorem insertions_quiet {label : DeliveryLabel δ π} (hstep : s.step P S label = some t)
    (hinsertion : s.insertionOf label = none) : s.insertions ⊆ t.insertions := by
  cases label with
  | processUnorderedEvent eventRecord view subscriberRecord =>
    obtain ⟨-, rfl⟩ := processUnorderedEvent_cases hstep
    intro x hx
    unfold insertions processUnorderedEvent
    unfold insertions at hx
    dsimp only
    cases eventRecord.isSystemEvent
    all_goals
      simp only [if_true, Bool.false_eq_true, if_false, List.filterMap_append,
        List.mem_append] at hx ⊢
      tauto
  | unordered =>
    obtain ⟨task, rest, hqueue, rfl⟩ := unordered_cases hstep
    rw [insertionOf_unordered hqueue] at hinsertion
    obtain ⟨-, hiq, hord, -⟩ := stepTask_frame (s := s) task
    intro x hx
    unfold insertions at hx ⊢
    dsimp only
    rw [hqueue, List.cons_append, filterMap_taskInsertion_cons, hinsertion] at hx
    rw [hiq, hord, List.append_assoc, List.filterMap_append]
    simp only [List.mem_append, Option.toList_none, List.not_mem_nil, false_or] at hx ⊢
    tauto
  | unorderedImmediate =>
    obtain ⟨task, rest, hqueue, rfl⟩ := unorderedImmediate_cases hstep
    rw [insertionOf_unorderedImmediate hqueue] at hinsertion
    obtain ⟨huq, -, hord, -⟩ := stepTask_frame (s := s) task
    intro x hx
    unfold insertions at hx ⊢
    dsimp only
    rw [hqueue, List.filterMap_append, filterMap_taskInsertion_cons, hinsertion] at hx
    rw [huq, hord, List.filterMap_append, List.filterMap_append]
    simp only [List.mem_append, Option.toList_none, List.not_mem_nil, false_or] at hx ⊢
    tauto
  | notifyOrderedEvent eventRecord subscriber =>
    obtain ⟨hordered, -, rfl⟩ := notifyOrderedEvent_cases hstep
    unfold insertions notifyOrderedEvent
    rw [hordered]
    exact List.subset_append_right _ _
  | notifyFrozenSubscriber =>
    obtain ⟨insertion, hordered, -⟩ := notifyFrozenSubscriber_cases hstep
    exact absurd (hordered.symm.trans hinsertion) nofun
  | call i =>
    obtain ⟨call, -, rfl⟩ := Option.map_eq_some_iff.mp hstep
    rw [(stepCall_frame i call).2.2.2]
    exact List.Subset.refl _
  | _ =>
    cases hstep
    exact List.Subset.refl _

/-- A keeping that is underway stays so, where no insertion is made. -/
theorem Underway.quiet (hs : (deliveryMachine P S δ π).Reachable s) {label : DeliveryLabel δ π}
    (hstep : s.step P S label = some t) (hinsertion : s.insertionOf label = none)
    (h : s.Underway l k) : t.Underway l k := by
  obtain ⟨insertion, hmem, hbuffering, hlistener⟩ := h
  exact ⟨insertion, insertions_quiet hstep hinsertion hmem, hbuffering,
    (listenerOf_insertion hs hstep hmem).trans hlistener⟩

/-! ### The insertions -/

/-- An insertion lets go of what is then dropped, and of nothing else. -/
theorem stays_insertion {insertion : FrozenInsertion δ π}
    (hmanager : t.manager = (s.stepInsertion insertion).1.manager)
    (hsubmitted : t.submitted = (s.stepInsertion insertion).1.submitted)
    (hdropped : t.dropped = (s.stepInsertion insertion).1.dropped) : Stays s t l k := by
  obtain ⟨eventRecord, r, buffering⟩ := insertion
  have hsame : t.submitted = s.submitted := hsubmitted.trans (stepInsertion_frame _).2.2.2
  cases buffering with
  | none =>
    have hdropped' : t.dropped = s.dropped ++ _ := hdropped
    have hmono : s.dropped ⊆ t.dropped := hdropped' ▸ List.subset_append_left _ _
    refine ⟨fun h => h.mono (hsame ▸ List.Subset.refl _) hmono, fun uid hk => ?_,
      fun pid hk => Or.inr ?_⟩
    · rcases s.manager.frozenEvents.mem_insert_of_mem (s.manager.heap r).eventRecordInfo.uid
        (s.manager.heap r) (eventRecord.buffered s.nextBuffering) hk with hgone | hkept
      · exact Or.inl (Or.inr (hdropped' ▸ List.mem_append_right _ hgone))
      · right
        unfold keptByUid
        rw [hmanager]
        exact hkept
    · unfold keptByPid
      rw [hmanager]
      exact hk
  | some number =>
    have hdropped' : t.dropped = s.dropped ++ _ := hdropped
    have hmono : s.dropped ⊆ t.dropped := hdropped' ▸ List.subset_append_left _ _
    refine ⟨fun h => h.mono (hsame ▸ List.Subset.refl _) hmono, fun uid hk => Or.inr ?_,
      fun pid hk => ?_⟩
    · unfold keptByUid
      rw [hmanager]
      exact hk
    · rcases s.manager.frozenEventsMap.mem_insert_of_mem (s.manager.heap r).eventRecordInfo.pid
        (s.manager.heap r) (eventRecord.buffered number) hk with hgone | hkept
      · exact Or.inl (Or.inr (hdropped' ▸ List.mem_append_right _ hgone))
      · right
        unfold keptByPid
        rw [hmanager]
        exact hkept

theorem calls_stepInsertion (insertion : FrozenInsertion δ π) :
    (s.stepInsertion insertion).1.calls = s.calls := by
  unfold stepInsertion
  dsimp only
  split <;> rfl

/-- **What the step of an insertion does.** -/
structure Inserts (s t : UnorderedDelivery δ π) (insertion : FrozenInsertion δ π) : Prop where
  manager : t.manager = (s.stepInsertion insertion).1.manager
  buffered : t.buffered = (s.stepInsertion insertion).1.buffered
  dropped : t.dropped = (s.stepInsertion insertion).1.dropped
  stays : ∀ l k, Stays s t l k
  recordOf : ∀ l, t.manager.recordOf l = s.manager.recordOf l
  calls : s.calls ⊆ t.calls
  waiting : insertion ∈ s.insertions
  next : ∀ x ∈ (s.stepInsertion insertion).2, x ∈ t.insertions
  others : ∀ x ∈ s.insertions, x = insertion ∨ x ∈ t.insertions
  listenerOf : ∀ x ∈ s.insertions,
    t.manager.listenerOf x.subscriber = s.manager.listenerOf x.subscriber

theorem inserts_of_step (hs : (deliveryMachine P S δ π).Reachable s)
    {label : DeliveryLabel δ π} {insertion : FrozenInsertion δ π}
    (hinsertion : s.insertionOf label = some insertion) (hstep : s.step P S label = some t) :
    Inserts s t insertion := by
  obtain ⟨others, hmem, hmem'⟩ := insertions_insertion hstep hinsertion
  have hlistener : ∀ x ∈ s.insertions,
      t.manager.listenerOf x.subscriber = s.manager.listenerOf x.subscriber :=
    fun x hx => listenerOf_insertion hs hstep hx
  obtain ⟨q₁, q₂, ordered, ht⟩ := insertion_cases hstep hinsertion
  have hmanager : t.manager = (s.stepInsertion insertion).1.manager := by rw [ht]
  have hdropped : t.dropped = (s.stepInsertion insertion).1.dropped := by rw [ht]
  refine ⟨hmanager, by rw [ht], hdropped, fun l k => ?_, fun l => ?_, ?_,
    (hmem insertion).mpr (Or.inl rfl), fun x hx => (hmem' x).mpr (Or.inl hx), fun x hx => ?_,
    hlistener⟩
  · exact stays_insertion hmanager (by rw [ht]) hdropped
  · rw [hmanager, recordOf_stepInsertion]
  · have hcalls : t.calls = s.calls := by
      rw [ht]
      exact calls_stepInsertion insertion
    exact hcalls ▸ List.Subset.refl _
  · exact ((hmem x).mp hx).imp_right fun hother => (hmem' x).mpr (Or.inr hother)

section Insertion

variable {eventRecord : CommonEventRecord δ π} {r : SubscriberRecordPtr}

/-- What was secure before stays so, but for what this is the second insertion
of. -/
theorem Inserts.older {insertion : FrozenInsertion δ π} (h : Inserts s t insertion)
    (hother : insertion.buffering = some k → s.manager.listenerOf insertion.subscriber ≠ l)
    (hsecure : s.Secure l k) : t.Secure l k := by
  refine (h.stays l k).secure h.calls (fun hin record hrecord => ?_) hsecure
  rw [h.recordOf] at hrecord
  refine (h.stays l k).inPlace ?_ rfl (fun _ => rfl) id (hin record hrecord)
  rintro ⟨x, hx, hbuffering, hl⟩
  rcases h.others x hx with rfl | hx'
  · exact absurd hl (hother hbuffering)
  · exact ⟨x, hx', hbuffering, (h.listenerOf x hx).trans hl⟩

/-- **A safe first insertion keeps its event secure.** -/
theorem Inserts.first (h : Inserts s t ⟨eventRecord, r, none⟩)
    (hok : s.InsertionSafe ⟨eventRecord, r, none⟩) :
    t.Secure (s.manager.heap r).commonEventListener s.nextBuffering := by
  have hdropped : t.dropped = s.dropped ++ bufferings (FrozenBuffer.expired
      (s.manager.frozenEvents.keptFor (s.manager.heap r).eventRecordInfo.uid
        (s.manager.heap r).commonEventListener) (eventRecord.buffered s.nextBuffering)) :=
    h.dropped
  rcases s.manager.frozenEvents.mem_insert_self (s.manager.heap r).eventRecordInfo.uid
    (s.manager.heap r) (eventRecord.buffered s.nextBuffering) with hgone | hin
  · exact Or.inl (Or.inr (hdropped ▸ List.mem_append_right _ hgone))
  · have huid : s.nextBuffering ∈ t.keptByUid (s.manager.heap r).commonEventListener
        (s.manager.heap r).eventRecordInfo.uid := by
      unfold keptByUid
      rw [h.manager]
      exact hin
    rcases hok with ⟨call, hcall, hreads⟩ | hsame
    · exact Or.inr (Or.inl ⟨call, h.calls hcall, Or.inl ⟨_, hreads, huid⟩⟩)
    · -- the second insertion is still to come
      have hself : t.manager.listenerOf r = s.manager.listenerOf r := h.listenerOf _ h.waiting
      refine Or.inr (Or.inr fun record hrecord => ?_)
      rw [h.recordOf] at hrecord
      exact ⟨hsame record hrecord ▸ huid, Or.inl ⟨⟨eventRecord, r, some s.nextBuffering⟩,
        h.next _ rfl, rfl, hself⟩⟩

/-- **A safe second insertion keeps its event secure.** -/
theorem Inserts.second (h : Inserts s t ⟨eventRecord, r, some k⟩) (hcustody : s.Custody)
    (hok : s.InsertionSafe ⟨eventRecord, r, some k⟩) :
    t.Secure (s.manager.heap r).commonEventListener k := by
  have hdropped : t.dropped = s.dropped ++ bufferings (FrozenBuffer.expired
      (s.manager.frozenEventsMap.keptFor (s.manager.heap r).eventRecordInfo.pid
        (s.manager.heap r).commonEventListener) (eventRecord.buffered k)) :=
    h.dropped
  have hstays := h.stays (s.manager.heap r).commonEventListener k
  rcases s.manager.frozenEventsMap.mem_insert_self (s.manager.heap r).eventRecordInfo.pid
    (s.manager.heap r) (eventRecord.buffered k) with hgone | hinserted
  · exact Or.inl (Or.inr (hdropped ▸ List.mem_append_right _ hgone))
  · have hpid : k ∈ t.keptByPid (s.manager.heap r).commonEventListener
        (s.manager.heap r).eventRecordInfo.pid := by
      unfold keptByPid
      rw [h.manager]
      exact hinserted
    rcases hok with ⟨call, hcall, hreads⟩ | hsettled | hdue | hsame
    · exact Or.inr (Or.inl ⟨call, h.calls hcall, Or.inr ⟨_, hreads, hpid⟩⟩)
    · exact Or.inl (hstays.settled hsettled)
    · exact (hstays.due h.calls hdue).imp_right Or.inl
    · refine Secure.of_record fun record hrecord => ?_
      rw [h.recordOf] at hrecord
      obtain ⟨hold, hsamePid, hfrozen⟩ := hsame record hrecord
      -- the first insertion left it where the second is to find it
      rcases hcustody _ hold with hsettled | hdue | hin
      · exact Or.inl (hstays.settled hsettled)
      · exact (hstays.due h.calls hdue).imp_right Or.inl
      · rcases hstays.uid _ (hin record hrecord).uid with hsettled | huid
        · exact Or.inl hsettled
        · exact Or.inr (Or.inr ⟨huid, Or.inr ⟨hsamePid ▸ hpid, hfrozen⟩⟩)

end Insertion

/-- **A safe insertion keeps everything secure.** -/
theorem Custody.insertion (hs : (deliveryMachine P S δ π).Reachable s) (h : s.Custody)
    {label : DeliveryLabel δ π} {insertion : FrozenInsertion δ π}
    (hinsertion : s.insertionOf label = some insertion) (hok : s.InsertionSafe insertion)
    (hstep : s.step P S label = some t) : t.Custody := by
  have hinserts := inserts_of_step hs hinsertion hstep
  have hbuffered := hinserts.buffered
  obtain ⟨eventRecord, r, buffering⟩ := insertion
  rintro ⟨l, k⟩ hkept
  rw [hbuffered] at hkept
  cases buffering with
  | none =>
    rcases List.mem_insert_iff.mp hkept with hnew | hold
    · obtain ⟨rfl, rfl⟩ := Prod.mk.inj hnew
      exact hinserts.first hok
    · exact hinserts.older (by simp) (h _ hold)
  | some number =>
    by_cases hthis : (l, k) = ((s.manager.heap r).commonEventListener, number)
    · obtain ⟨rfl, rfl⟩ := Prod.mk.inj hthis
      exact hinserts.second h hok
    · have hold := (List.mem_insert_iff.mp hkept).resolve_left hthis
      refine hinserts.older (fun hbuffering hl => hthis ?_) (h _ hold)
      exact Prod.ext hl.symm (Option.some.inj hbuffering).symm

/-! ### The unfreezing calls -/

/-- What is kept for a listener is among all that is kept. -/
theorem keptFor_subset_events {κ : Type} [DecidableEq κ] {buffer : FrozenBuffer κ (Buffered δ) π}
    {key : κ} (hk : k ∈ bufferings (buffer.keptFor key l)) :
    k ∈ bufferings (frozenRecordEvents (buffer.get key)) ∧ k ∈ bufferings buffer.events := by
  have hget : k ∈ bufferings (frozenRecordEvents (buffer.get key)) := by
    obtain ⟨record, hrecord, rfl⟩ := List.mem_map.mp hk
    exact List.mem_map_of_mem (buffer.keptFor_subset key hrecord)
  refine ⟨hget, List.map_subset _ ?_ hget⟩
  intro record hrecord
  exact (buffer.events_perm_remove key).mem_iff.mpr (List.mem_append_left _ hrecord)

theorem keptFor_remove {κ : Type} [DecidableEq κ] {buffer : FrozenBuffer κ (Buffered δ) π}
    {key key' : κ} (hkey : key' ≠ key) :
    (buffer.remove key).keptFor key' l = buffer.keptFor key' l := by
  rw [FrozenBuffer.keptFor, FrozenBuffer.entry_remove, if_neg hkey]
  rfl

/-- **What a call reads it submits.** -/
theorem settled_of_found (hs : (deliveryMachine P S δ π).Reachable s) (i : ℕ)
    {call : UnfreezeCall} (hk : k ∈ s.found call) : (s.stepCall i call).Settled k := by
  refine Or.inl ?_
  rw [((kept_reachable hs).stepCall i call).2, List.map_append, List.map_map]
  exact List.mem_append_right _ (List.mem_map.mpr ⟨k, hk, rfl⟩)

theorem stays_stepCall (hs : (deliveryMachine P S δ π).Reachable s) (i : ℕ)
    (call : UnfreezeCall) : Stays s (s.stepCall i call) l k := by
  refine ⟨fun h => h.mono ?_ ?_, fun uid hk => ?_, fun pid hk => ?_⟩
  · rw [((kept_reachable hs).stepCall i call).2]
    exact List.subset_append_left _ _
  · rw [(stepCall_frame i call).2.2.1]
    exact List.Subset.refl _
  · -- by uid: what a call takes out of the first buffer it submits
    cases call with
    | getFrozenEvents uid' =>
      by_cases huid : uid = uid'
      · subst huid
        exact Or.inl (settled_of_found hs i (keptFor_subset_events hk).1)
      · right
        show k ∈ bufferings ((s.manager.frozenEvents.remove uid').keptFor uid l)
        rw [keptFor_remove huid]
        exact hk
    | getFrozenEventsMapByPid pidList =>
      cases pidList with
      | nil => exact Or.inr hk
      | cons pid pidList => exact Or.inr hk
    | getAllFrozenEvents => exact Or.inl (settled_of_found hs i (keptFor_subset_events hk).2)
    | getAllFrozenEventsMap =>
      right
      unfold keptByUid stepCall
      dsimp only
      rw [manager_publishAllFrozenEvents]
      exact hk
  · cases call with
    | getFrozenEvents uid' => exact Or.inr hk
    | getFrozenEventsMapByPid pidList =>
      cases pidList with
      | nil => exact Or.inr hk
      | cons pid' pidList =>
        by_cases hpid : pid = pid'
        · subst hpid
          exact Or.inl (settled_of_found hs i (keptFor_subset_events hk).1)
        · right
          show k ∈ bufferings ((s.manager.frozenEventsMap.remove pid').keptFor pid l)
          rw [keptFor_remove hpid]
          exact hk
    | getAllFrozenEvents =>
      right
      unfold keptByPid stepCall
      dsimp only
      rw [manager_publishAllFrozenEvents]
      exact hk
    | getAllFrozenEventsMap => exact Or.inl (settled_of_found hs i (keptFor_subset_events hk).2)

/-- **What a call finds** is submitted now, or is still to be read. -/
theorem due_stepCall (hs : (deliveryMachine P S δ π).Reachable s) {i : ℕ} {call : UnfreezeCall}
    (hcall : s.calls[i]? = some call) (hdue : s.Due l k) :
    (s.stepCall i call).Settled k ∨ (s.stepCall i call).Due l k := by
  have hstays : Stays s (s.stepCall i call) l k := stays_stepCall hs i call
  obtain ⟨hcalls, -⟩ := stepCall_frame (s := s) i call
  obtain ⟨hlt, -⟩ := List.getElem?_eq_some_iff.mp hcall
  obtain ⟨call', hmem, hfinds⟩ := hdue
  obtain ⟨j, hj⟩ := List.getElem?_of_mem hmem
  by_cases hji : j = i
  · -- the call itself
    subst hji
    obtain rfl := Option.some.inj (hj.symm.trans hcall)
    cases call' with
    | getFrozenEvents uid =>
      rcases hfinds with ⟨uid', hreads, hk⟩ | ⟨pid, hreads, -⟩
      · obtain rfl : uid = uid' := of_decide_eq_true hreads
        exact Or.inl (settled_of_found hs j (keptFor_subset_events hk).1)
      · cases hreads
    | getFrozenEventsMapByPid pidList =>
      rcases hfinds with ⟨uid, hreads, -⟩ | ⟨pid, hreads, hk⟩
      · cases hreads
      · cases pidList with
        | nil => cases hreads
        | cons pid' pidList =>
          rcases hstays.pid pid hk with hsettled | hk'
          · exact Or.inl hsettled
          · by_cases hpid : pid = pid'
            · subst hpid
              exact Or.inl (settled_of_found hs j (keptFor_subset_events hk).1)
            · refine Or.inr ⟨.getFrozenEventsMapByPid pidList, hcalls ▸ List.mem_set hlt _,
                Or.inr ⟨pid, ?_, hk'⟩⟩
              have hin : pid ∈ pid' :: pidList := List.contains_iff_mem.mp hreads
              exact List.contains_iff_mem.mpr ((List.mem_cons.mp hin).resolve_left hpid)
    | getAllFrozenEvents =>
      rcases hfinds with ⟨uid, -, hk⟩ | ⟨pid, -, hk⟩
      · exact Or.inl (settled_of_found hs j (keptFor_subset_events hk).2)
      · exact (hstays.pid pid hk).imp_right fun hk' =>
          ⟨.getAllFrozenEventsMap, hcalls ▸ List.mem_set hlt _, Or.inr ⟨pid, rfl, hk'⟩⟩
    | getAllFrozenEventsMap =>
      rcases hfinds with ⟨uid, hreads, -⟩ | ⟨pid, -, hk⟩
      · cases hreads
      · exact Or.inl (settled_of_found hs j (keptFor_subset_events hk).2)
  · -- another call
    refine hstays.finds ?_ (fun _ => id) (fun _ => id) hfinds
    rw [hcalls]
    have herase : call' ∈ s.calls.eraseIdx i := List.mem_eraseIdx_iff_getElem?.mpr ⟨j, hji, hj⟩
    have hset : ∀ c, call' ∈ s.calls.set i c := fun c =>
      List.mem_of_getElem? ((List.getElem?_set_ne (Ne.symm hji)).trans hj)
    cases call with
    | getFrozenEventsMapByPid pidList =>
      cases pidList with
      | nil => exact herase
      | cons pid pidList => exact hset _
    | getFrozenEvents uid => exact herase
    | getAllFrozenEvents => exact hset _
    | getAllFrozenEventsMap => exact herase

/-- **A step of an unfreezing call keeps everything secure.** -/
theorem Custody.call (hs : (deliveryMachine P S δ π).Reachable s) (h : s.Custody) {i : ℕ}
    {call : UnfreezeCall} (hcall : s.calls[i]? = some call)
    (hstep : s.step P S (.call i) = some (s.stepCall i call)) : (s.stepCall i call).Custody := by
  rintro ⟨l, k⟩ hkept
  rw [(stepCall_frame i call).2.1] at hkept
  have hstays : Stays s (s.stepCall i call) l k := stays_stepCall hs i call
  rcases h _ hkept with hsettled | hdue | hin
  · exact Or.inl (hstays.settled hsettled)
  · exact (due_stepCall hs hcall hdue).imp_right Or.inl
  · refine Secure.of_record fun record hrecord => ?_
    rw [recordOf_stepCall] at hrecord
    exact hstays.inPlace (Underway.quiet hs hstep rfl) rfl (fun _ => rfl) id (hin record hrecord)

/-- **A freeze, or an unfreeze with its call**, keeps everything secure: what
is released is read by the call. -/
theorem Custody.updateFreezeInfo (hs : (deliveryMachine P S δ π).Reachable s) (h : s.Custody)
    {label : DeliveryLabel δ π} (hinsertion : s.insertionOf label = none)
    (chosen : EventSubscriberRecord → Bool) (freezeState : Bool) (freezeTime : Int)
    (calls : List UnfreezeCall)
    (hcalls : freezeState = false → ∀ record, chosen record = true → ∃ call ∈ calls,
      call.readsUid record.eventRecordInfo.uid = true
        ∨ call.readsPid record.eventRecordInfo.pid = true)
    (ht : t = { s with
      manager := s.manager.updateFreezeInfo chosen freezeState freezeTime
      calls := s.calls ++ calls })
    (hstep : s.step P S label = some t) : t.Custody := by
  rintro ⟨l, k⟩ hkept
  have hunderway := Underway.quiet (l := l) (k := k) hs hstep hinsertion
  subst ht
  have hstays : Stays s { s with
      manager := s.manager.updateFreezeInfo chosen freezeState freezeTime
      calls := s.calls ++ calls } l k :=
    Stays.of_entries (List.Subset.refl _) (List.Subset.refl _) (fun _ => rfl) (fun _ => rfl)
  refine hstays.secure (List.subset_append_left _ _) (fun hplace record' hrecord' => ?_) (h _ hkept)
  obtain ⟨record, hrecord, rfl⟩ := Option.map_eq_some_iff.mp
    ((recordOf_updateFreezeInfo (m := s.manager) chosen freezeState freezeTime l).symm.trans
      hrecord')
  have hin := hplace record hrecord
  have hsame : (frozenAs chosen freezeState freezeTime record).eventRecordInfo
      = record.eventRecordInfo := by
    unfold frozenAs
    split <;> rfl
  by_cases hreleased : freezeState = false ∧ chosen record = true
  · -- the subscriber is released, and the call is on its way
    obtain ⟨call, hcall, hreads⟩ := hcalls hreleased.1 record hreleased.2
    rcases hreads with hreads | hreads
    · exact Or.inr (Or.inl ⟨call, List.mem_append_right _ hcall, Or.inl ⟨_, hreads, hin.uid⟩⟩)
    · rcases hin.pid with hin' | ⟨hk, -⟩
      · exact Or.inr (Or.inr ⟨hsame ▸ hin.uid, Or.inl (hunderway hin')⟩)
      · exact Or.inr (Or.inl ⟨call, List.mem_append_right _ hcall, Or.inr ⟨_, hreads, hk⟩⟩)
  · refine Or.inr (Or.inr ⟨hsame ▸ hin.uid, hin.pid.imp hunderway ?_⟩)
    rintro ⟨hk, hfrozen⟩
    refine ⟨hsame ▸ hk, ?_⟩
    unfold frozenAs
    split
    next hchosen =>
      cases freezeState with
      | true => rfl
      | false => exact absurd ⟨rfl, hchosen⟩ hreleased
    next => exact hfrozen

/-- **A safe subscription keeps everything secure.** -/
theorem Custody.insertSubscriber (hs : (deliveryMachine P S δ π).Reachable s) (h : s.Custody)
    {maxSubscriberNum : ℕ} {info : Option CommonEventSubscribeInfo} {listener : Option Remote}
    {recordInfo : EventRecordInfo}
    (hok : ∀ update ∈ subscriptionOf (.insertSubscriber maxSubscriberNum info listener recordInfo :
      DeliveryLabel δ π), s.SubscriptionSafe update.1 update.2)
    (hstep : s.step P S (.insertSubscriber maxSubscriberNum info listener recordInfo) = some t) :
    t.Custody := by
  rintro ⟨l, k⟩ hkept
  have hunderway := Underway.quiet (l := l) (k := k) hs hstep rfl
  cases hstep
  obtain ⟨huid, hpid⟩ :=
    s.manager.frozen_insertSubscriber S maxSubscriberNum info listener recordInfo
  have hstays : Stays s { s with
      manager := (s.manager.insertSubscriber S maxSubscriberNum info listener recordInfo).2 } l k :=
    Stays.of_entries (List.Subset.refl _) (List.Subset.refl _) (fun _ => by rw [huid])
      (fun _ => by rw [hpid])
  have hcalls : s.calls ⊆ s.calls := List.Subset.refl _
  refine hstays.secure hcalls (fun hin record' hrecord' => ?_) (h _ hkept)
  rcases recordOf_insertSubscriber (indexSound_reachable hs).allocated S maxSubscriberNum info
    listener recordInfo l with hsame | ⟨info', rfl, rfl, hne, hle, hnew⟩
  · exact hstays.inPlace hunderway rfl (fun _ => rfl) id (hin record' (hsame.symm.trans hrecord'))
  · have hsubscription : (l, recordInfo) ∈ subscriptionOf (.insertSubscriber maxSubscriberNum
        (some info') (some l) recordInfo : DeliveryLabel δ π) := if_pos ⟨hne, hle⟩
    obtain rfl := Option.some.inj (hnew.symm.trans hrecord')
    rcases hok _ hsubscription _ hkept rfl with hsettled | hdue | ⟨hupdate, hfirst⟩
    · exact Or.inl (hstays.settled hsettled)
    · exact (hstays.due hcalls hdue).imp_right Or.inl
    · cases hrecord : s.manager.recordOf l with
      | some record =>
        obtain ⟨hsameUid, hsamePid⟩ := hupdate record hrecord
        exact hstays.inPlace hunderway hsameUid hsamePid id (hin record hrecord)
      | none =>
        obtain ⟨hk, hcoming⟩ := hfirst hrecord
        exact (hstays.uid _ hk).imp_right fun hk' => Or.inr ⟨hk', Or.inl (hunderway hcoming)⟩

/-- **A removal keeps everything secure.** -/
theorem Custody.removeSubscriber (hs : (deliveryMachine P S δ π).Reachable s) (h : s.Custody)
    {listener : Option Remote} (hstep : s.step P S (.removeSubscriber listener) = some t) :
    t.Custody := by
  rintro ⟨l, k⟩ hkept
  have hunderway := Underway.quiet (l := l) (k := k) hs hstep rfl
  cases hstep
  have hold := List.mem_of_mem_filter hkept
  have hrecordOf := recordOf_removeSubscriber (indexSound_reachable hs) listener l
  by_cases hself : listener = some l
  · -- nobody is registered any more
    refine Secure.of_record fun record hrecord => ?_
    rw [if_pos hself] at hrecordOf
    cases hrecordOf.symm.trans hrecord
  · obtain ⟨huid, hpid⟩ := s.manager.frozen_removeSubscriber_eq listener
    have hstays : Stays s (s.removeSubscriber listener) l k := by
      refine Stays.of_entries (List.Subset.refl _) (List.Subset.refl _) (fun uid => ?_)
        fun pid => ?_
      · show (s.manager.removeSubscriber listener).frozenEvents.entry uid l = _
        rw [huid, entry_elim_removeBySubscriber, if_neg fun hc => hself hc.1]
      · show (s.manager.removeSubscriber listener).frozenEventsMap.entry pid l = _
        rw [hpid, entry_elim_removeBySubscriber, if_neg fun hc => hself hc.1]
    rw [if_neg hself] at hrecordOf
    refine hstays.secure (List.Subset.refl _) (fun hin record hrecord => ?_) (h _ hold)
    exact hstays.inPlace hunderway rfl (fun _ => rfl) id
      (hin record (hrecordOf.symm.trans hrecord))

/-- **A step that the registry and the buffers do not see** keeps everything
secure. -/
theorem Custody.quiet (hs : (deliveryMachine P S δ π).Reachable s) (h : s.Custody)
    {label : DeliveryLabel δ π} (hinsertion : s.insertionOf label = none)
    (hstep : s.step P S label = some t)
    (hrecordOf : ∀ l, t.manager.recordOf l = s.manager.recordOf l)
    (huid : t.manager.frozenEvents = s.manager.frozenEvents)
    (hpid : t.manager.frozenEventsMap = s.manager.frozenEventsMap) (hcalls : t.calls = s.calls)
    (hbuffered : t.buffered = s.buffered) (hsubmitted : t.submitted = s.submitted)
    (hdropped : t.dropped = s.dropped) : t.Custody := by
  rintro ⟨l, k⟩ hkept
  rw [hbuffered] at hkept
  have hstays : Stays s t l k := Stays.of_entries (hsubmitted ▸ List.Subset.refl _)
    (hdropped ▸ List.Subset.refl _) (fun _ => by rw [huid]) (fun _ => by rw [hpid])
  refine hstays.secure (hcalls ▸ List.Subset.refl _) (fun hin record hrecord => ?_) (h _ hkept)
  exact hstays.inPlace (Underway.quiet hs hstep hinsertion) rfl (fun _ => rfl) id
    (hin record ((hrecordOf l).symm.trans hrecord))

/-- **A step that meets its condition keeps everything secure.** -/
theorem custody_step (hs : (deliveryMachine P S δ π).Reachable s) (h : s.Custody)
    {label : DeliveryLabel δ π} (hok : s.CustodyOk label) (hstep : s.step P S label = some t) :
    t.Custody := by
  -- the insertions are alike on all three queues; the other steps insert nothing
  cases hinsertion : s.insertionOf label with
  | some insertion => exact h.insertion hs hinsertion (hok.1 insertion hinsertion) hstep
  | none =>
    have halloc := (indexSound_reachable hs).allocated
    cases label with
    | insertSubscriber maxSubscriberNum info listener recordInfo =>
      exact h.insertSubscriber hs hok.2 hstep
    | removeSubscriber listener => exact h.removeSubscriber hs hstep
    | getSubscriberRecords view =>
      have hstep' := hstep
      cases hstep
      obtain ⟨huid, hpid⟩ := s.manager.frozen_getSubscriberRecords P view
      exact h.quiet hs hinsertion hstep' (recordOf_getSubscriberRecords halloc P view) huid hpid
        rfl rfl rfl rfl
    | processUnorderedEvent eventRecord view subscriberRecord =>
      obtain ⟨-, heq⟩ := processUnorderedEvent_cases hstep
      have hmanager : t.manager = s.manager
          ∨ t.manager = (s.manager.getSubscriberRecords P view).2 := by
        rw [heq]
        unfold processUnorderedEvent
        cases subscriberRecord with
        | some r => exact Or.inl rfl
        | none => exact Or.inr rfl
      obtain ⟨huid, hpid⟩ := s.manager.frozen_getSubscriberRecords P view
      rcases hmanager with hmanager | hmanager
      · exact h.quiet hs hinsertion hstep (fun _ => by rw [hmanager]) (by rw [hmanager])
          (by rw [hmanager]) (by rw [heq]; rfl) (by rw [heq]; rfl) (by rw [heq]; rfl)
          (by rw [heq]; rfl)
      · exact h.quiet hs hinsertion hstep
          (fun l => by rw [hmanager, recordOf_getSubscriberRecords halloc])
          (by rw [hmanager, huid]) (by rw [hmanager, hpid]) (by rw [heq]; rfl) (by rw [heq]; rfl)
          (by rw [heq]; rfl) (by rw [heq]; rfl)
    | unordered =>
      obtain ⟨task, rest, hqueue, heq⟩ := unordered_cases hstep
      rw [insertionOf_unordered hqueue] at hinsertion
      obtain ⟨queue, hquiet⟩ := stepTask_quiet (s := s) hinsertion
      rw [hquiet] at heq
      exact h.quiet hs ((insertionOf_unordered hqueue).trans hinsertion) hstep
        (fun _ => by rw [heq]) (by rw [heq]) (by rw [heq]) (by rw [heq]) (by rw [heq])
        (by rw [heq]) (by rw [heq])
    | unorderedImmediate =>
      obtain ⟨task, rest, hqueue, heq⟩ := unorderedImmediate_cases hstep
      rw [insertionOf_unorderedImmediate hqueue] at hinsertion
      obtain ⟨queue, hquiet⟩ := stepTask_quiet (s := s) hinsertion
      rw [hquiet] at heq
      exact h.quiet hs ((insertionOf_unorderedImmediate hqueue).trans hinsertion) hstep
        (fun _ => by rw [heq]) (by rw [heq]) (by rw [heq]) (by rw [heq]) (by rw [heq])
        (by rw [heq]) (by rw [heq])
    | notifyOrderedEvent eventRecord subscriber =>
      obtain ⟨-, -, heq⟩ := notifyOrderedEvent_cases hstep
      exact h.quiet hs hinsertion hstep (fun _ => by rw [heq]; rfl) (by rw [heq]; rfl)
        (by rw [heq]; rfl) (by rw [heq]; rfl) (by rw [heq]; rfl) (by rw [heq]; rfl)
        (by rw [heq]; rfl)
    | notifyFrozenSubscriber =>
      obtain ⟨insertion, hordered, -⟩ := notifyFrozenSubscriber_cases hstep
      exact absurd (hordered.symm.trans hinsertion) nofun
    | freeze uid now =>
      -- freezing releases nobody, so no call is due
      refine h.updateFreezeInfo hs hinsertion (fun record => record.eventRecordInfo.uid = uid)
        true now [] nofun ?_ hstep
      cases hstep
      rw [List.append_nil]
      rfl
    | unfreeze uid =>
      refine h.updateFreezeInfo hs hinsertion _ false 0 [.getFrozenEvents uid]
        (fun _ record hchosen => ⟨_, List.mem_singleton_self _, Or.inl ?_⟩)
        (Option.some.inj hstep).symm hstep
      exact decide_eq_true (of_decide_eq_true hchosen).symm
    | setFreezeStatus pidList isFreeze now =>
      cases isFreeze with
      | true =>
        refine h.updateFreezeInfo hs hinsertion
          (fun record => pidList.contains record.eventRecordInfo.pid) true now [] nofun ?_ hstep
        cases hstep
        rw [List.append_nil]
        rfl
      | false =>
        exact h.updateFreezeInfo hs hinsertion _ false now [.getFrozenEventsMapByPid pidList]
          (fun _ record hchosen => ⟨_, List.mem_singleton_self _, Or.inr hchosen⟩)
          (Option.some.inj hstep).symm hstep
    | unfreezeAll =>
      exact h.updateFreezeInfo hs hinsertion _ false 0 [.getAllFrozenEvents]
        (fun _ record _ => ⟨_, List.mem_singleton_self _, Or.inl rfl⟩)
        (Option.some.inj hstep).symm hstep
    | call i =>
      obtain ⟨call, hcall, rfl⟩ := Option.map_eq_some_iff.mp hstep
      exact h.call hs hcall hstep

instance (k : ℕ) : Decidable (s.Settled k) := inferInstanceAs (Decidable (_ ∨ _))

instance (l : Remote) (k : ℕ) (call : UnfreezeCall) : Decidable (s.Finds l k call) :=
  decidable_of_iff
    ((∃ uid ∈ s.manager.frozenEvents.keysOf l, call.readsUid uid ∧ k ∈ s.keptByUid l uid)
      ∨ ∃ pid ∈ s.manager.frozenEventsMap.keysOf l, call.readsPid pid ∧ k ∈ s.keptByPid l pid) <| by
  have hkey : ∀ {κ : Type} [DecidableEq κ] {buffer : FrozenBuffer κ (Buffered δ) π} {key : κ},
      k ∈ bufferings (buffer.keptFor key l) → key ∈ buffer.keysOf l := by
    intro κ _ buffer key hk
    refine (buffer.mem_keysOf key).mpr fun hnone => ?_
    rw [FrozenBuffer.keptFor, hnone] at hk
    cases hk
  refine or_congr (exists_congr fun uid => ?_) (exists_congr fun pid => ?_)
  · exact ⟨fun h => h.2, fun h => ⟨hkey h.2, h⟩⟩
  · exact ⟨fun h => h.2, fun h => ⟨hkey h.2, h⟩⟩

instance (l : Remote) (k : ℕ) : Decidable (s.Due l k) :=
  inferInstanceAs (Decidable (∃ call ∈ s.calls, _))

instance (uid : Uid) : Decidable (s.ReadsUid uid) :=
  inferInstanceAs (Decidable (∃ call ∈ s.calls, _))

instance (pid : Pid) : Decidable (s.ReadsPid pid) :=
  inferInstanceAs (Decidable (∃ call ∈ s.calls, _))

instance (l : Remote) (k : ℕ) : Decidable (s.Underway l k) :=
  inferInstanceAs (Decidable (∃ insertion ∈ s.insertions, _))

instance : ∀ insertion, Decidable (s.InsertionSafe insertion)
  | ⟨_, _, none⟩ => inferInstanceAs (Decidable (_ ∨ _))
  | ⟨_, _, some _⟩ => inferInstanceAs (Decidable (_ ∨ _ ∨ _ ∨ _))

instance (l : Remote) (recordInfo : EventRecordInfo) :
    Decidable (s.SubscriptionSafe l recordInfo) :=
  inferInstanceAs (Decidable (∀ kept ∈ s.buffered, _ → _))

instance (label : DeliveryLabel δ π) : Decidable (s.CustodyOk label) :=
  inferInstanceAs (Decidable (_ ∧ _))

/-- A subscriber is frozen, and an event has come to it. -/
def untilFound : List (DeliveryLabel CommonEventData CommonEventPublishInfo) :=
  [.insertSubscriber 5000 (some { matchingSkills := { events := ["e"] }, userId := ALL_USER })
      (some ⟨1⟩) { pid := 7, uid := 100 },
    .freeze 100 0,
    .processUnorderedEvent
      { commonEventData := { want := { action := "e" } }, publishInfo := {} }
      { commonEventData := { want := { action := "e" } }, publishInfo := {} } none,
    .unordered]

end UnorderedDelivery

end CommonEventService

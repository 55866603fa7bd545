import CommonEventService.SubscriberRegistry

/-!
# For whom events are kept

What is kept in the two buffers is meant for a registered subscriber: who goes
is taken out of both. The code takes out what lies under the uid and the pid
of the record that goes, and two things escape it. A subscription that is made
anew may have changed either since the keeping; and an event in flight holds
the record of its receiver, so that it is kept for the receiver also after
that has gone.

The guard `RegistrationOk` is these two conditions, and it is exact: a run
keeps events for registered subscribers alone as long as its steps meet it,
and no longer.
-/

namespace CommonEventService

variable {δ π : Type}

namespace SubscriberManager

variable {m m' : SubscriberManager δ π}

/-- **Nothing is kept for a listener**, in either buffer. -/
structure NothingKept (m : SubscriberManager δ π) (l : Remote) : Prop where
  uid : ∀ uid, m.frozenEvents.entry uid l = none
  pid : ∀ pid, m.frozenEventsMap.entry pid l = none

/-- **Events are kept for registered listeners alone.** -/
def KeptRegistered (m : SubscriberManager δ π) : Prop :=
  ∀ l, m.recordOf l = none → m.NothingKept l

/-- Subscribers may come, and events may go. -/
theorem KeptRegistered.mono (h : m.KeptRegistered)
    (hregistered : ∀ l, m'.recordOf l = none → m.recordOf l = none)
    (huid : ∀ uid l, m.frozenEvents.entry uid l = none → m'.frozenEvents.entry uid l = none)
    (hpid : ∀ pid l, m.frozenEventsMap.entry pid l = none →
      m'.frozenEventsMap.entry pid l = none) : m'.KeptRegistered := fun l hl =>
  ⟨fun uid => huid uid l ((h l (hregistered l hl)).uid uid),
    fun pid => hpid pid l ((h l (hregistered l hl)).pid pid)⟩

theorem keptRegistered_getSubscriberRecords {P : Platform} (hsound : m.IndexSound)
    (h : m.KeptRegistered) (view : EventRecord) :
    (m.getSubscriberRecords P view).2.KeptRegistered := by
  obtain ⟨huid, hpid⟩ := m.frozen_getSubscriberRecords P view
  refine h.mono (fun l hl => ?_) (fun _ _ => huid ▸ id) (fun _ _ => hpid ▸ id)
  rw [← recordOf_getSubscriberRecords hsound.allocated P view]
  exact hl

theorem KeptRegistered.updateFreezeInfo (h : m.KeptRegistered)
    (chosen : EventSubscriberRecord → Bool) (freezeState : Bool) (freezeTime : Int) :
    (m.updateFreezeInfo chosen freezeState freezeTime).KeptRegistered := by
  refine h.mono (fun l hl => ?_) (fun _ _ hnone => hnone) (fun _ _ hnone => hnone)
  rw [recordOf_updateFreezeInfo] at hl
  exact Option.map_eq_none_iff.mp hl

/-- **Keeping an event** is right for a registered listener alone. -/
theorem forall_entry_insert_iff {κ : Type} [DecidableEq κ] {buffer : FrozenBuffer κ δ π}
    (h : ∀ l, m.recordOf l = none → ∀ key, buffer.entry key l = none) (key : κ)
    (subscriber : EventSubscriberRecord) (record : CommonEventRecord δ π) :
    (∀ l, m.recordOf l = none → ∀ key', (buffer.insert key subscriber record).entry key' l = none)
      ↔ (m.recordOf subscriber.commonEventListener).isSome := by
  constructor
  · intro hkept
    rw [Option.isSome_iff_ne_none]
    intro hnone
    have hentry := hkept _ hnone key
    rw [FrozenBuffer.entry_insert, if_pos ⟨rfl, rfl⟩] at hentry
    cases hentry
  · intro hsome l hl key'
    rw [FrozenBuffer.entry_insert, if_neg]
    · exact h l hl key'
    · rintro ⟨-, rfl⟩
      rw [hl] at hsome
      cases hsome

theorem keptRegistered_insertFrozenEvents (h : m.KeptRegistered) (r : SubscriberRecordPtr)
    (record : CommonEventRecord δ π) :
    (m.insertFrozenEvents r record).KeptRegistered ↔ (m.recordOf (m.listenerOf r)).isSome := by
  rw [listenerOf, ← forall_entry_insert_iff (fun l hl => (h l hl).uid)
    (m.heap r).eventRecordInfo.uid (m.heap r) record]
  exact ⟨fun hkept l hl => (hkept l hl).uid, fun hkept l hl => ⟨hkept l hl, (h l hl).pid⟩⟩

theorem keptRegistered_insertFrozenEventsMap (h : m.KeptRegistered) (r : SubscriberRecordPtr)
    (record : CommonEventRecord δ π) :
    (m.insertFrozenEventsMap r record).KeptRegistered
      ↔ (m.recordOf (m.listenerOf r)).isSome := by
  rw [listenerOf, ← forall_entry_insert_iff (fun l hl => (h l hl).pid)
    (m.heap r).eventRecordInfo.pid (m.heap r) record]
  exact ⟨fun hkept l hl => (hkept l hl).pid, fun hkept l hl => ⟨(h l hl).uid, hkept l hl⟩⟩

/-- **What is kept for a subscriber lies where its removal looks**: under the
uid and the pid of its record. -/
def KeptInPlace (m : SubscriberManager δ π) (l : Remote) : Prop :=
  ∀ record ∈ m.recordOf l,
    (∀ uid ∈ m.frozenEvents.keysOf l, uid = record.eventRecordInfo.uid)
      ∧ ∀ pid ∈ m.frozenEventsMap.keysOf l, pid = record.eventRecordInfo.pid

/- The keys are looked through, and not the uids that there are. -/
instance (m : SubscriberManager δ π) (l : Remote) : Decidable (m.KeptInPlace l) :=
  have (record : EventSubscriberRecord) :
      Decidable (∀ uid ∈ m.frozenEvents.keysOf l, uid = record.eventRecordInfo.uid) :=
    List.decidableBAll _ _
  inferInstanceAs (Decidable (∀ record ∈ m.recordOf l, _ ∧ _))

/-- A removal takes all that is kept for its listener out of a buffer, where
that lies under the key of its record. -/
theorem forall_entry_removed_iff {κ : Type} [DecidableEq κ] (buffer : FrozenBuffer κ δ π)
    (keyOf : EventSubscriberRecord → κ) {listener : Remote} {record : EventSubscriberRecord}
    (hrecord : m.recordOf listener = some record) :
    (∀ key, (((some listener).bind m.recordOf).elim buffer (fun record =>
        buffer.removeBySubscriber (keyOf record) record.commonEventListener)).entry key listener
          = none)
      ↔ ∀ key ∈ buffer.keysOf listener, key = keyOf record := by
  refine forall_congr' fun key => ?_
  rw [entry_elim_removeBySubscriber, hrecord, FrozenBuffer.mem_keysOf]
  by_cases hkey : key = keyOf record
  · rw [if_pos ⟨rfl, congrArg some hkey.symm⟩]
    exact ⟨fun _ _ => hkey, fun _ => rfl⟩
  · rw [if_neg fun hc => hkey (Option.some.inj hc.2).symm]
    exact ⟨fun hnone hne => absurd hnone hne, fun himp => by_contra fun hne => hkey (himp hne)⟩

/-- **A removal** is right where all that is kept for its listener lies where
it looks. -/
theorem keptRegistered_removeSubscriber (hsound : m.IndexSound) (h : m.KeptRegistered)
    (listener : Remote) :
    (m.removeSubscriber (some listener)).KeptRegistered ↔ m.KeptInPlace listener := by
  obtain ⟨huid, hpid⟩ := m.frozen_removeSubscriber_eq (some listener)
  have hgone : (m.removeSubscriber (some listener)).recordOf listener = none := by
    rw [recordOf_removeSubscriber hsound, if_pos rfl]
  constructor
  · intro hkept record hrecord
    have hnothing := hkept listener hgone
    refine ⟨(forall_entry_removed_iff m.frozenEvents (fun record => record.eventRecordInfo.uid)
        hrecord).mp fun uid => ?_,
      (forall_entry_removed_iff m.frozenEventsMap (fun record => record.eventRecordInfo.pid)
        hrecord).mp fun pid => ?_⟩
    · exact huid ▸ hnothing.uid uid
    · exact hpid ▸ hnothing.pid pid
  · intro hplace l hl
    by_cases heq : l = listener
    · subst heq
      cases hrecord : m.recordOf l with
      | none =>
        -- nobody has gone
        refine ⟨fun uid => ?_, fun pid => ?_⟩
        · rw [huid, entry_elim_removeBySubscriber, (h l hrecord).uid uid, ite_self]
        · rw [hpid, entry_elim_removeBySubscriber, (h l hrecord).pid pid, ite_self]
      | some record =>
        obtain ⟨huids, hpids⟩ := hplace record hrecord
        refine ⟨fun uid => ?_, fun pid => ?_⟩
        · exact huid ▸ (forall_entry_removed_iff _ _ hrecord).mpr huids uid
        · exact hpid ▸ (forall_entry_removed_iff _ _ hrecord).mpr hpids pid
    · rw [recordOf_removeSubscriber hsound, if_neg fun hc => heq (Option.some.inj hc).symm] at hl
      refine ⟨fun uid => ?_, fun pid => ?_⟩
      · rw [huid, entry_elim_removeBySubscriber, (h l hl).uid uid, ite_self]
      · rw [hpid, entry_elim_removeBySubscriber, (h l hl).pid pid, ite_self]

end SubscriberManager

/-! ## The steps -/

namespace UnorderedDelivery

open SubscriberManager

variable {P : Platform} {S : StdSort} {s t : UnorderedDelivery δ π}

/-- Who goes in a step. -/
def leaving : DeliveryLabel δ π → Option Remote
  | .removeSubscriber listener => listener
  | _ => none

theorem leaving_of_insertion {l : DeliveryLabel δ π} {insertion : FrozenInsertion δ π}
    (h : s.insertionOf l = some insertion) : leaving l = none := by
  cases l with
  | removeSubscriber listener => cases h
  | _ => rfl

/-- **The condition on a step**: an event is kept for a listener that is
registered, and a subscriber that goes has all that is kept for it under the
uid and the pid it is registered with. -/
def RegistrationOk (s : UnorderedDelivery δ π) (l : DeliveryLabel δ π) : Prop :=
  (∀ insertion ∈ s.insertionOf l,
    (s.manager.recordOf (s.manager.listenerOf insertion.subscriber)).isSome)
    ∧ ∀ listener ∈ leaving l, s.manager.KeptInPlace listener

instance (l : DeliveryLabel δ π) : Decidable (s.RegistrationOk l) :=
  inferInstanceAs (Decidable (_ ∧ _))

/-- An insertion is right for a registered listener alone. -/
theorem keptRegistered_stepInsertion (h : s.manager.KeptRegistered)
    (insertion : FrozenInsertion δ π) :
    (s.stepInsertion insertion).1.manager.KeptRegistered
      ↔ (s.manager.recordOf (s.manager.listenerOf insertion.subscriber)).isSome := by
  unfold stepInsertion
  dsimp only
  split
  · exact keptRegistered_insertFrozenEvents h _ _
  · exact keptRegistered_insertFrozenEventsMap h _ _

/-- Reading a buffer keeps nothing. -/
theorem keptRegistered_stepCall (h : s.manager.KeptRegistered) (i : ℕ) (call : UnfreezeCall) :
    (s.stepCall i call).manager.KeptRegistered := by
  unfold UnorderedDelivery.stepCall
  split
  next uid =>
    refine h.mono (fun l hl => hl) (fun uid' l hnone => ?_) (fun _ _ hnone => hnone)
    show (s.manager.frozenEvents.remove uid).entry uid' l = none
    rw [FrozenBuffer.entry_remove, hnone, ite_self]
  next => exact h
  next pid pidList =>
    refine h.mono (fun l hl => hl) (fun _ _ hnone => hnone) (fun pid' l hnone => ?_)
    show (s.manager.frozenEventsMap.remove pid).entry pid' l = none
    rw [FrozenBuffer.entry_remove, hnone, ite_self]
  next =>
    rw [manager_publishAllFrozenEvents]
    exact h
  next =>
    rw [manager_publishAllFrozenEvents]
    exact h

/-- **A step keeps events for registered listeners alone exactly when it meets
its condition.** -/
theorem keptRegistered_step_iff (hsound : s.manager.IndexSound) (h : s.manager.KeptRegistered)
    {l : DeliveryLabel δ π} (hstep : s.step P S l = some t) :
    t.manager.KeptRegistered ↔ s.RegistrationOk l := by
  -- a step that neither keeps an event nor takes a subscriber out
  have hquiet : s.insertionOf l = none → leaving l = none → t.manager.KeptRegistered →
      (t.manager.KeptRegistered ↔ s.RegistrationOk l) := by
    intro hinsertion hleaving hkept
    refine iff_of_true hkept ⟨?_, ?_⟩
    · rw [hinsertion]
      exact fun _ h => by cases h
    · rw [hleaving]
      exact fun _ h => by cases h
  cases hinsertion : s.insertionOf l with
  | some insertion =>
    obtain ⟨_, _, _, rfl⟩ := insertion_cases hstep hinsertion
    refine (keptRegistered_stepInsertion h insertion).trans ⟨fun hsome => ⟨?_, ?_⟩, fun hok => ?_⟩
    · rw [hinsertion]
      exact fun insertion' heq => Option.some.inj heq ▸ hsome
    · rw [leaving_of_insertion hinsertion]
      exact fun _ h => by cases h
    · exact hok.1 insertion hinsertion
  | none =>
    cases l with
    | insertSubscriber maxSubscriberNum info listener recordInfo =>
      cases hstep
      obtain ⟨huid, hpid⟩ :=
        s.manager.frozen_insertSubscriber S maxSubscriberNum info listener recordInfo
      refine hquiet hinsertion rfl (h.mono (fun l hl => ?_) (fun _ _ => huid ▸ id)
        (fun _ _ => hpid ▸ id))
      rcases recordOf_insertSubscriber hsound.allocated S maxSubscriberNum info listener
        recordInfo l with hsame | ⟨info', -, -, -, -, hnew⟩
      · rw [← hsame]
        exact hl
      · rw [hnew] at hl
        cases hl
    | removeSubscriber listener =>
      cases hstep
      cases listener with
      | none => exact hquiet hinsertion rfl h
      | some listener =>
        refine (keptRegistered_removeSubscriber hsound h listener).trans
          ⟨fun hplace => ⟨(fun _ h => by cases h), ?_⟩, fun hok => hok.2 listener rfl⟩
        exact fun listener' heq => Option.some.inj heq ▸ hplace
    | getSubscriberRecords view =>
      cases hstep
      exact hquiet hinsertion rfl (keptRegistered_getSubscriberRecords (P := P) hsound h view)
    | processUnorderedEvent eventRecord view subscriberRecord =>
      obtain ⟨-, rfl⟩ := processUnorderedEvent_cases hstep
      refine hquiet hinsertion rfl ?_
      cases subscriberRecord with
      | some r => exact h
      | none => exact keptRegistered_getSubscriberRecords (P := P) hsound h view
    | unordered =>
      obtain ⟨task, rest, hqueue, rfl⟩ := unordered_cases hstep
      rw [insertionOf_unordered hqueue] at hinsertion
      obtain ⟨queue, heq⟩ := stepTask_quiet (s := s) hinsertion
      refine hquiet ((insertionOf_unordered hqueue).trans hinsertion) rfl ?_
      rw [heq]
      exact h
    | unorderedImmediate =>
      obtain ⟨task, rest, hqueue, rfl⟩ := unorderedImmediate_cases hstep
      rw [insertionOf_unorderedImmediate hqueue] at hinsertion
      obtain ⟨queue, heq⟩ := stepTask_quiet (s := s) hinsertion
      refine hquiet ((insertionOf_unorderedImmediate hqueue).trans hinsertion) rfl ?_
      rw [heq]
      exact h
    | notifyOrderedEvent eventRecord subscriber =>
      obtain ⟨-, -, rfl⟩ := notifyOrderedEvent_cases hstep
      exact hquiet hinsertion rfl h
    | notifyFrozenSubscriber =>
      obtain ⟨insertion, hordered, -⟩ := notifyFrozenSubscriber_cases hstep
      exact absurd (hordered.symm.trans hinsertion) nofun
    | freeze uid now =>
      cases hstep
      exact hquiet hinsertion rfl (h.updateFreezeInfo _ true now)
    | unfreeze uid =>
      cases hstep
      exact hquiet hinsertion rfl (h.updateFreezeInfo _ false 0)
    | setFreezeStatus pidList isFreeze now =>
      cases hstep
      exact hquiet hinsertion rfl (h.updateFreezeInfo _ isFreeze now)
    | unfreezeAll =>
      cases hstep
      exact hquiet hinsertion rfl (h.updateFreezeInfo _ false 0)
    | call i =>
      obtain ⟨call, -, rfl⟩ := Option.map_eq_some_iff.mp hstep
      exact hquiet hinsertion rfl (keptRegistered_stepCall h i call)

/-- **Events are kept for registered listeners alone in the runs whose steps
meet the condition**, and in no others. -/
theorem keptRegistered_iff_registrationOk {ls : List (DeliveryLabel δ π)}
    (hs : (deliveryMachine P S δ π).run ls = some s) :
    (∀ pre post t, ls = pre ++ post → (deliveryMachine P S δ π).run pre = some t →
        t.manager.KeptRegistered)
      ↔ (deliveryMachine P S δ π).Guarded RegistrationOk ls :=
  Machine.forall_prefix_iff_guarded (M := deliveryMachine P S δ π) (fun _ _ => ⟨fun _ => rfl,
      fun _ => rfl⟩)
    (fun _ _ _ hreach h hstep => keptRegistered_step_iff (indexSound_reachable hreach) h hstep) hs

/-- A subscriber is frozen, and an event has come to it. -/
def untilTested : List (DeliveryLabel CommonEventData CommonEventPublishInfo) :=
  [.insertSubscriber 5000 (some { matchingSkills := { events := ["e"] }, userId := ALL_USER })
      (some ⟨1⟩) { pid := 7, uid := 100 },
    .freeze 100 0,
    .processUnorderedEvent
      { commonEventData := { want := { action := "e" } }, publishInfo := {} }
      { commonEventData := { want := { action := "e" } }, publishInfo := {} } none,
    .unordered]

/-- The subscriber goes when the event has been kept for it. -/
theorem keptRegistered_iff_registrationOk_after :
    ∃ s, (deliveryMachine {} .insertion _ _).run (untilTested ++
        [DeliveryLabel.unordered, .unordered, .unordered, .removeSubscriber (some ⟨1⟩)]) = some s
      ∧ s.nextBuffering = 1
      ∧ ∀ pre post t, untilTested ++
          [DeliveryLabel.unordered, .unordered, .unordered, .removeSubscriber (some ⟨1⟩)]
            = pre ++ post →
        (deliveryMachine {} .insertion _ _).run pre = some t → t.manager.KeptRegistered := by
  obtain ⟨s, hs, hbuffering⟩ := Option.map_eq_some_iff.mp
    (show ((deliveryMachine {} .insertion _ _).run (untilTested ++
        [DeliveryLabel.unordered, .unordered, .unordered, .removeSubscriber (some ⟨1⟩)])).map
      UnorderedDelivery.nextBuffering = some 1 by decide +kernel)
  exact ⟨s, hs, hbuffering, (keptRegistered_iff_registrationOk hs).mpr
    (Machine.guarded_of_guardedFrom (by decide +kernel))⟩

/-- No operation is in progress. -/
structure Idle (s : UnorderedDelivery δ π) : Prop where
  unorderedQueue : s.unorderedQueue = []
  unorderedImmediateQueue : s.unorderedImmediateQueue = []
  ordered : s.ordered = none
  calls : s.calls = []

/-- **An event can be kept for a subscriber that has gone**: the subscriber goes
between the look at its freeze flag and the two insertions. -/
theorem kept_for_removed :
    ¬ ∀ ls s, (deliveryMachine {} .insertion CommonEventData CommonEventPublishInfo).run ls
      = some s → s.Idle → s.manager.KeptRegistered := by
  intro h
  obtain ⟨s, hs, hview⟩ := Option.map_eq_some_iff.mp
    (show ((deliveryMachine {} .insertion CommonEventData CommonEventPublishInfo).run
      (untilTested ++
        [DeliveryLabel.removeSubscriber (some ⟨1⟩), .unordered, .unordered, .unordered])).map
        (fun s => (s.unorderedQueue.length, s.unorderedImmediateQueue.length, s.ordered.isNone,
          s.calls.length, (s.manager.recordOf ⟨1⟩).isNone,
          decide ((100 : Uid) ∈ s.manager.frozenEvents.keysOf ⟨1⟩)))
        = some (0, 0, true, 0, true, true) by decide +kernel)
  simp only [Prod.mk.injEq] at hview
  obtain ⟨hunordered, himmediate, hordered, hcalls, hgone, hkept⟩ := hview
  have hidle : s.Idle := ⟨List.eq_nil_of_length_eq_zero hunordered,
    List.eq_nil_of_length_eq_zero himmediate, Option.isNone_iff_eq_none.mp hordered,
    List.eq_nil_of_length_eq_zero hcalls⟩
  have hnothing := (h _ s hs hidle ⟨1⟩ (Option.isNone_iff_eq_none.mp hgone)).uid 100
  exact (FrozenBuffer.mem_keysOf _ _).mp (of_decide_eq_true hkept) hnothing

end UnorderedDelivery

end CommonEventService

import CommonEventService.SubscriberIndex
import CommonEventService.UnorderedDelivery

/-!
# The registry of subscribers

What the rest of the service knows of a subscriber is its record, found by
its listener. This view of the manager forgets the addresses: the compaction,
which replaces every record by a copy, is not seen in it, and each of the
other operations changes what is registered under one listener – or, in the
case of a freeze, two fields of every record it chooses.
-/

namespace CommonEventService

namespace SubscriberManager

variable {δ π : Type} (m : SubscriberManager δ π)

/-- **What is registered under a listener.** -/
def recordOf (l : Remote) : Option EventSubscriberRecord :=
  (m.getSubscriberRecord l).map m.heap

/-- What a freeze or an unfreeze makes of a record. -/
def frozenAs (chosen : EventSubscriberRecord → Bool) (freezeState : Bool) (freezeTime : Int)
    (record : EventSubscriberRecord) : EventSubscriberRecord :=
  if chosen record then
    { record with
      freezeTime := if freezeState then freezeTime else 0
      isFreeze := freezeState }
  else record

variable {m}

theorem recordOf_eq_find (l : Remote) :
    m.recordOf l
      = (m.subscribers.map m.heap).find? (fun record => record.commonEventListener = l) := by
  rw [List.find?_map]
  rfl

/-- The registry is what the registered addresses hold. -/
theorem recordOf_congr {m' : SubscriberManager δ π}
    (h : m'.subscribers.map m'.heap = m.subscribers.map m.heap) (l : Remote) :
    m'.recordOf l = m.recordOf l := by
  rw [recordOf_eq_find, recordOf_eq_find, h]

theorem listener_recordOf {l : Remote} {record : EventSubscriberRecord}
    (h : m.recordOf l = some record) : record.commonEventListener = l := by
  rw [recordOf_eq_find] at h
  have hl := List.find?_some h
  exact of_decide_eq_true hl

theorem recordOf_eq_none {l : Remote} :
    m.recordOf l = none ↔ ∀ r ∈ m.subscribers, m.listenerOf r ≠ l := by
  rw [recordOf_eq_find, List.find?_eq_none, List.forall_mem_map]
  refine forall₂_congr fun r _ => ?_
  rw [decide_eq_true_iff]
  rfl

/-! ### What the operations do to it -/

/-- **The compaction is not seen.** -/
theorem recordOf_compact (halloc : m.Allocated) (l : Remote) :
    m.compactSubscriberDataStructures.recordOf l = m.recordOf l :=
  recordOf_congr (map_heap_compact halloc) l

theorem recordOf_getSubscriberRecords (halloc : m.Allocated) (P : Platform)
    (view : EventRecord) (l : Remote) :
    (m.getSubscriberRecords P view).2.recordOf l = m.recordOf l := by
  unfold getSubscriberRecords
  dsimp only
  split
  · exact recordOf_compact halloc l
  · rfl

/-- What a freeze makes of the registered records. -/
theorem map_heap_updateFreezeInfo (chosen : EventSubscriberRecord → Bool) (freezeState : Bool)
    (freezeTime : Int) :
    m.subscribers.map (m.updateFreezeInfo chosen freezeState freezeTime).heap
      = (m.subscribers.map m.heap).map (frozenAs chosen freezeState freezeTime) := by
  rw [List.map_map]
  refine List.map_congr_left fun r hr => ?_
  show (if r ∈ m.subscribers ∧ chosen (m.heap r) then _ else _) = frozenAs _ _ _ (m.heap r)
  unfold frozenAs
  by_cases hchosen : chosen (m.heap r) = true
  · rw [if_pos ⟨hr, hchosen⟩, if_pos hchosen]
  · rw [if_neg fun h => hchosen h.2, if_neg hchosen]

/-- **A freeze changes two fields of the records it chooses.** -/
theorem recordOf_updateFreezeInfo (chosen : EventSubscriberRecord → Bool) (freezeState : Bool)
    (freezeTime : Int) (l : Remote) :
    (m.updateFreezeInfo chosen freezeState freezeTime).recordOf l
      = (m.recordOf l).map (frozenAs chosen freezeState freezeTime) := by
  rw [recordOf_eq_find, recordOf_eq_find]
  show (m.subscribers.map (m.updateFreezeInfo chosen freezeState freezeTime).heap).find? _ = _
  rw [map_heap_updateFreezeInfo, List.find?_map]
  congr 2
  funext record
  show decide ((frozenAs chosen freezeState freezeTime record).commonEventListener = l) = _
  unfold frozenAs
  split <;> rfl

/-- **A removal takes its listener out**, and no other. -/
theorem recordOf_removeSubscriber (h : m.IndexSound) (listener : Option Remote) (l : Remote) :
    (m.removeSubscriber listener).recordOf l
      = if listener = some l then none else m.recordOf l := by
  cases listener with
  | none => rfl
  | some listener =>
    show (m.removeSubscriberRecordLocked listener).recordOf l = _
    unfold removeSubscriberRecordLocked
    by_cases heq : some listener = some l
    · rw [if_pos heq]
      obtain rfl := Option.some.inj heq
      cases hfind : m.getSubscriberRecord listener with
      | none => exact congrArg (Option.map m.heap) hfind
      | some record =>
        obtain ⟨hrecord, hlistener⟩ := getSubscriberRecord_some hfind
        refine recordOf_eq_none.mpr fun r hr hl => ?_
        dsimp only at hr
        have hnodup : m.subscribers.Nodup := h.listeners.of_map
        obtain ⟨hne, hmem⟩ := (List.Nodup.mem_erase_iff hnodup).mp hr
        exact hne (h.listener_inj hmem hrecord (hl.trans hlistener.symm))
    · rw [if_neg heq]
      cases hfind : m.getSubscriberRecord listener with
      | none => rfl
      | some record =>
        obtain ⟨-, hlistener⟩ := getSubscriberRecord_some hfind
        -- the record that goes is not the one looked for
        have herase : ∀ rs : List SubscriberRecordPtr,
            (rs.erase record).find? (fun r => m.listenerOf r = l)
              = rs.find? (fun r => m.listenerOf r = l) := by
          intro rs
          induction rs with
          | nil => rfl
          | cons first rest ih =>
            by_cases hfirst : first = record
            · subst hfirst
              rw [List.erase_cons_head, List.find?_cons_of_neg]
              rw [decide_eq_true_iff, hlistener]
              exact fun hl => heq (congrArg some hl)
            · rw [List.erase_cons_tail (by simpa using hfirst), List.find?_cons,
                List.find?_cons, ih]
        exact congrArg (Option.map m.heap) (herase m.subscribers)

/-- An update is seen under its listener alone. -/
theorem recordOf_updateSubscriberRecordLocked (S : StdSort) {listener : Remote}
    {record : SubscriberRecordPtr} (hfind : m.getSubscriberRecord listener = some record)
    (info : CommonEventSubscribeInfo) (recordInfo : EventRecordInfo) (l : Remote) :
    (m.updateSubscriberRecordLocked S info recordInfo record).recordOf l
      = if l = listener then some { m.heap record with
          eventSubscribeInfo := info
          eventRecordInfo := recordInfo }
        else m.recordOf l := by
  obtain ⟨-, hlistener⟩ := getSubscriberRecord_some hfind
  have hfind' : (m.updateSubscriberRecordLocked S info recordInfo record).getSubscriberRecord l
      = m.getSubscriberRecord l := by
    refine congrArg (fun p => m.subscribers.find? p) (funext fun r => ?_)
    refine decide_eq_decide.mpr (Eq.congr_left ?_)
    unfold updateSubscriberRecordLocked
    dsimp only
    by_cases hr : r = record
    · rw [hr, Function.update_self]
    · rw [Function.update_of_ne hr]
  unfold recordOf
  rw [hfind']
  split
  next heq =>
    rw [heq, hfind]
    exact congrArg some (Function.update_self _ _ _)
  next hne =>
    cases hl : m.getSubscriberRecord l with
    | none => rfl
    | some r =>
      have hr : r ≠ record := by
        rintro rfl
        exact hne ((getSubscriberRecord_some hl).2.symm.trans hlistener)
      exact congrArg some (Function.update_of_ne hr _ _)

/-- **A subscription changes what is registered under its listener**, if
anything: the record takes over what is subscribed, and its freeze flag is
what it was. -/
theorem recordOf_insertSubscriber (halloc : m.Allocated) (S : StdSort) (maxSubscriberNum : ℕ)
    (info : Option CommonEventSubscribeInfo) (listener : Option Remote)
    (recordInfo : EventRecordInfo) (l : Remote) :
    (m.insertSubscriber S maxSubscriberNum info listener recordInfo).2.recordOf l = m.recordOf l ∨
    ∃ info', info = some info' ∧ listener = some l
      ∧ info'.getEvents.length ≠ 0 ∧ info'.getEvents.length ≤ SUBSCRIBE_EVENT_MAX_NUM
      ∧ (m.insertSubscriber S maxSubscriberNum info listener recordInfo).2.recordOf l
        = some { (m.recordOf l).getD
            { eventSubscribeInfo := info', commonEventListener := l
              eventRecordInfo := recordInfo } with
          eventSubscribeInfo := info'
          eventRecordInfo := recordInfo } := by
  cases info with
  | none => exact Or.inl rfl
  | some info =>
    cases listener with
    | none => exact Or.inl rfl
    | some listener =>
      by_cases hlen : info.getEvents.length = 0
          ∨ info.getEvents.length > SUBSCRIBE_EVENT_MAX_NUM
      · -- a refusal
        refine Or.inl ?_
        unfold insertSubscriber
        dsimp only
        rw [if_pos hlen]
      obtain ⟨hne, hle⟩ := not_or.mp hlen
      have hle' := Nat.le_of_not_gt hle
      rcases SubscriberIndex.insertSubscriber_cases S m maxSubscriberNum info listener recordInfo
        with ⟨hrefused, -⟩ | ⟨-, record, hfind, heq⟩ | ⟨hfind, made, hmade, heq⟩
      · exact absurd hrefused hlen
      · -- an update
        rw [heq, recordOf_updateSubscriberRecordLocked S hfind]
        split
        next hl =>
          refine Or.inr ⟨info, rfl, congrArg some hl.symm, hne, hle', ?_⟩
          unfold recordOf
          rw [hl, hfind]
          rfl
        next => exact Or.inl rfl
      · -- a record is made, and registered or not
        have hsame : m.subscribers.map made.heap = m.subscribers.map m.heap := by
          refine List.map_congr_left fun r hr => ?_
          rw [hmade]
          exact Function.update_of_ne (Nat.ne_of_lt (halloc r hr)) _ _
        have hsub : made.subscribers = m.subscribers := by rw [hmade]
        rcases heq with heq | ⟨counts, heq⟩
        · rw [heq]
          exact Or.inl (recordOf_congr (hsub.symm ▸ hsame) l)
        · have hnew : made.heap m.nextAddr
              = { eventSubscribeInfo := info, commonEventListener := listener
                  eventRecordInfo := recordInfo } := by
            rw [hmade]
            exact Function.update_self _ _ _
          have hrecordOf : (m.insertSubscriber S maxSubscriberNum (some info) (some listener)
              recordInfo).2.recordOf l
              = (m.recordOf l).or ([made.heap m.nextAddr].find?
                fun record => record.commonEventListener = l) := by
            rw [heq, recordOf_eq_find, recordOf_eq_find, ← hsame, ← List.find?_append]
            dsimp only
            rw [List.map_append, hsub]
            rfl
          rw [hnew] at hrecordOf
          by_cases hl : listener = l
          · subst hl
            have hnone : m.recordOf listener = none := congrArg (Option.map m.heap) hfind
            refine Or.inr ⟨info, rfl, rfl, hne, hle', ?_⟩
            rw [hrecordOf, hnone]
            simp
          · refine Or.inl ?_
            rw [hrecordOf, List.find?_cons_of_neg (by simpa using hl)]
            exact Option.or_none

/-! ### What is subscribed -/

/-- What is registered in the end was subscribed in the beginning. -/
def KeepsSubscriptions (m m' : SubscriberManager δ π) : Prop :=
  ∀ l record', m'.recordOf l = some record' → ∃ record, m.recordOf l = some record
    ∧ record'.eventSubscribeInfo = record.eventSubscribeInfo
    ∧ record'.eventRecordInfo = record.eventRecordInfo

theorem KeepsSubscriptions.of_recordOf {m m' : SubscriberManager δ π}
    (h : ∀ l, m'.recordOf l = m.recordOf l) : KeepsSubscriptions m m' :=
  fun l record hrecord => ⟨record, (h l).symm.trans hrecord, rfl, rfl⟩

theorem KeepsSubscriptions.refl (m : SubscriberManager δ π) : KeepsSubscriptions m m :=
  .of_recordOf fun _ => rfl

theorem KeepsSubscriptions.updateFreezeInfo (chosen : EventSubscriberRecord → Bool)
    (freezeState : Bool) (freezeTime : Int) :
    KeepsSubscriptions m (m.updateFreezeInfo chosen freezeState freezeTime) := by
  intro l record' hrecord'
  rw [recordOf_updateFreezeInfo] at hrecord'
  obtain ⟨record, hrecord, rfl⟩ := Option.map_eq_some_iff.mp hrecord'
  refine ⟨record, hrecord, ?_⟩
  unfold frozenAs
  split <;> exact ⟨rfl, rfl⟩

/-- A registered record is what is registered under its listener. -/
theorem recordOf_of_mem (h : m.IndexSound) {r : SubscriberRecordPtr} (hr : r ∈ m.subscribers) :
    m.recordOf (m.listenerOf r) = some (m.heap r) := by
  cases hfind : m.getSubscriberRecord (m.listenerOf r) with
  | none => exact absurd rfl (getSubscriberRecord_none hfind r hr)
  | some r' =>
    obtain ⟨hr', hl⟩ := getSubscriberRecord_some hfind
    rw [recordOf, hfind, h.listener_inj hr' hr hl]
    rfl

/-! ### What a removal does to the buffers -/

theorem frozen_removeSubscriber_eq (listener : Option Remote) :
    (m.removeSubscriber listener).frozenEvents
        = (listener.bind m.recordOf).elim m.frozenEvents (fun record =>
          m.frozenEvents.removeBySubscriber record.eventRecordInfo.uid record.commonEventListener)
      ∧ (m.removeSubscriber listener).frozenEventsMap
        = (listener.bind m.recordOf).elim m.frozenEventsMap (fun record =>
          m.frozenEventsMap.removeBySubscriber record.eventRecordInfo.pid
            record.commonEventListener) := by
  cases listener with
  | none => exact ⟨rfl, rfl⟩
  | some listener =>
    show (m.removeSubscriberRecordLocked listener).frozenEvents = _
      ∧ (m.removeSubscriberRecordLocked listener).frozenEventsMap = _
    unfold removeSubscriberRecordLocked recordOf
    rw [Option.bind_some]
    cases hfind : m.getSubscriberRecord listener with
    | none => exact ⟨rfl, rfl⟩
    | some record =>
      have hlistener : (m.heap record).commonEventListener = listener :=
        (getSubscriberRecord_some hfind).2
      rw [Option.map_some, Option.elim_some, Option.elim_some, hlistener]
      exact ⟨rfl, rfl⟩

/-- What a removal leaves in a buffer: all but what is kept for its listener,
under the key of the record that is registered. -/
theorem entry_elim_removeBySubscriber {κ : Type} [DecidableEq κ] (buffer : FrozenBuffer κ δ π)
    (keyOf : EventSubscriberRecord → κ) (listener : Option Remote) (key : κ) (l : Remote) :
    ((listener.bind m.recordOf).elim buffer (fun record =>
      buffer.removeBySubscriber (keyOf record) record.commonEventListener)).entry key l
      = if listener = some l ∧ (m.recordOf l).map keyOf = some key then none
        else buffer.entry key l := by
  cases listener with
  | none => rfl
  | some listener =>
    rw [Option.bind_some]
    cases hrecord : m.recordOf listener with
    | none =>
      rw [if_neg]
      · rfl
      · rintro ⟨hl, hkey⟩
        rw [← Option.some.inj hl, hrecord] at hkey
        cases hkey
    | some record =>
      rw [Option.elim_some, FrozenBuffer.entry_removeBySubscriber, listener_recordOf hrecord]
      refine if_congr ⟨?_, ?_⟩ rfl rfl
      · rintro ⟨rfl, rfl⟩
        exact ⟨rfl, congrArg (Option.map keyOf) hrecord⟩
      · rintro ⟨hl, hkey⟩
        rw [← Option.some.inj hl, hrecord] at hkey
        exact ⟨(Option.some.inj hkey).symm, (Option.some.inj hl).symm⟩

end SubscriberManager

/-! ## The subscriber manager under unordered delivery -/

namespace SubscriberManager

variable {δ π : Type} {m m' : SubscriberManager δ π}

/-- **Two managers with one index**: what the index is about is the same. -/
structure SameIndex (m m' : SubscriberManager δ π) : Prop where
  eventSubscribers : m'.eventSubscribers = m.eventSubscribers
  subscribers : m'.subscribers = m.subscribers
  nextAddr : m'.nextAddr = m.nextAddr
  eventsOf : ∀ r, m'.eventsOf r = m.eventsOf r
  listenerOf : ∀ r, m'.listenerOf r = m.listenerOf r

theorem SameIndex.refl (m : SubscriberManager δ π) : SameIndex m m :=
  ⟨rfl, rfl, rfl, fun _ => rfl, fun _ => rfl⟩

/-- The buffers are no part of the index. -/
theorem SameIndex.buffers (m : SubscriberManager δ π) (frozenEvents : FrozenBuffer Uid δ π)
    (frozenEventsMap : FrozenBuffer Pid δ π) :
    SameIndex m { m with
      frozenEvents := frozenEvents
      frozenEventsMap := frozenEventsMap } :=
  ⟨rfl, rfl, rfl, fun _ => rfl, fun _ => rfl⟩

/-- A freeze changes neither the names nor the listener of a record. -/
theorem SameIndex.updateFreezeInfo (m : SubscriberManager δ π)
    (chosen : EventSubscriberRecord → Bool) (freezeState : Bool) (freezeTime : Int) :
    SameIndex m (m.updateFreezeInfo chosen freezeState freezeTime) := by
  refine ⟨rfl, rfl, rfl, fun r => ?_, fun r => ?_⟩
  · show ((m.updateFreezeInfo chosen freezeState freezeTime).heap r).eventSubscribeInfo.getEvents
      = _
    unfold SubscriberManager.updateFreezeInfo
    dsimp only
    split <;> rfl
  · show ((m.updateFreezeInfo chosen freezeState freezeTime).heap r).commonEventListener = _
    unfold SubscriberManager.updateFreezeInfo
    dsimp only
    split <;> rfl

/-- **What may happen to the manager in one step**: one of the calls that
maintain the index, or nothing the index is about. -/
def ManagerStep (S : StdSort) (m m' : SubscriberManager δ π) : Prop :=
  (∃ op, m' = SubscriberIndex.apply S m op) ∨ SameIndex m m'

theorem ManagerStep.refl (S : StdSort) (m : SubscriberManager δ π) : ManagerStep S m m :=
  Or.inr (SameIndex.refl m)

theorem IndexSound.sameIndex (h : m.IndexSound) (hsame : SameIndex m m') : m'.IndexSound :=
  h.congr hsame.eventSubscribers hsame.subscribers hsame.nextAddr.ge
    (fun r _ => hsame.eventsOf r) (fun r _ => hsame.listenerOf r)

theorem IndexSound.managerStep {S : StdSort} (h : m.IndexSound) (hstep : ManagerStep S m m') :
    m'.IndexSound := by
  rcases hstep with ⟨op, rfl⟩ | hsame
  · exact SubscriberIndex.indexSound_apply S h op
  · exact h.sameIndex hsame

/-- Addresses are given out in order. -/
theorem nextAddr_apply (S : StdSort) (halloc : m.Allocated) (op : SubscriberIndex.Op) :
    m.nextAddr ≤ (SubscriberIndex.apply S m op).nextAddr := by
  cases op with
  | insertSubscriber maxSubscriberNum info listener recordInfo =>
    cases info with
    | none => exact Nat.le_refl _
    | some info =>
      cases listener with
      | none => exact Nat.le_refl _
      | some listener =>
        rw [SubscriberIndex.apply]
        rcases SubscriberIndex.insertSubscriber_cases S m maxSubscriberNum info listener
          recordInfo with ⟨-, heq⟩ | ⟨-, record, -, heq⟩ | ⟨-, made, rfl, heq | ⟨counts, heq⟩⟩
        · rw [heq]
        · rw [heq]
          exact Nat.le_refl _
        · rw [heq]
          exact Nat.le_succ _
        · rw [heq]
          exact Nat.le_succ _
  | removeSubscriber listener =>
    cases listener with
    | none => exact Nat.le_refl _
    | some listener =>
      rw [SubscriberIndex.apply, removeSubscriber, removeSubscriberRecordLocked]
      split <;> exact Nat.le_refl _
  | compactSubscriberDataStructures =>
    rw [SubscriberIndex.apply, (compacted_compact halloc).nextAddr]
    exact Nat.le_add_right _ _

theorem ManagerStep.nextAddr_le {S : StdSort} (halloc : m.Allocated)
    (hstep : ManagerStep S m m') : m.nextAddr ≤ m'.nextAddr := by
  rcases hstep with ⟨op, rfl⟩ | hsame
  · exact nextAddr_apply S halloc op
  · exact hsame.nextAddr.ge

/-- A record keeps its listener. -/
theorem listenerOf_apply (S : StdSort) (halloc : m.Allocated) (op : SubscriberIndex.Op)
    {r : SubscriberRecordPtr} (hr : r < m.nextAddr) :
    (SubscriberIndex.apply S m op).listenerOf r = m.listenerOf r := by
  have hne : r ≠ m.nextAddr := Nat.ne_of_lt hr
  cases op with
  | insertSubscriber maxSubscriberNum info listener recordInfo =>
    cases info with
    | none => rfl
    | some info =>
      cases listener with
      | none => rfl
      | some listener =>
        rw [SubscriberIndex.apply]
        unfold listenerOf
        rcases SubscriberIndex.insertSubscriber_cases S m maxSubscriberNum info listener
          recordInfo with ⟨-, heq⟩ | ⟨-, record, -, heq⟩ | ⟨-, made, rfl, heq | ⟨counts, heq⟩⟩
        · rw [heq]
        · rw [heq]
          unfold updateSubscriberRecordLocked
          dsimp only
          by_cases hrecord : r = record
          · rw [hrecord, Function.update_self]
          · rw [Function.update_of_ne hrecord]
        · rw [heq]
          exact congrArg _ (Function.update_of_ne hne _ _)
        · rw [heq]
          exact congrArg _ (Function.update_of_ne hne _ _)
  | removeSubscriber listener =>
    cases listener with
    | none => rfl
    | some listener =>
      rw [SubscriberIndex.apply, removeSubscriber, removeSubscriberRecordLocked]
      split <;> rfl
  | compactSubscriberDataStructures =>
    exact congrArg EventSubscriberRecord.commonEventListener
      ((compacted_compact halloc).heap_old r hr)

theorem ManagerStep.listenerOf {S : StdSort} (halloc : m.Allocated) (hstep : ManagerStep S m m')
    {r : SubscriberRecordPtr} (hr : r < m.nextAddr) : m'.listenerOf r = m.listenerOf r := by
  rcases hstep with ⟨op, rfl⟩ | hsame
  · exact listenerOf_apply S halloc op hr
  · exact hsame.listenerOf r

end SubscriberManager

namespace UnorderedDelivery

open SubscriberManager

variable {δ π : Type} {P : Platform} {S : StdSort} {s t : UnorderedDelivery δ π}

/-- A publish looks the receivers up, and may compact the manager for it. -/
theorem manager_getSubscriberRecords (m : SubscriberManager δ π) (view : EventRecord) :
    ManagerStep S m (m.getSubscriberRecords P view).2 := by
  unfold SubscriberManager.getSubscriberRecords
  dsimp only
  split
  · exact Or.inl ⟨.compactSubscriberDataStructures, rfl⟩
  · exact ManagerStep.refl S m

theorem manager_stepInsertion (insertion : FrozenInsertion δ π) :
    SameIndex s.manager (s.stepInsertion insertion).1.manager := by
  unfold stepInsertion
  dsimp only
  split <;> exact SameIndex.buffers _ _ _

theorem manager_stepTask (task : UnorderedTask δ π) :
    SameIndex s.manager (s.stepTask task).1.manager := by
  unfold stepTask
  split
  · exact SameIndex.refl _
  · split <;> exact SameIndex.refl _
  · exact manager_stepInsertion _
  · exact SameIndex.refl _

theorem manager_publishAllFrozenEvents {κ : Type}
    (buffer : FrozenBuffer κ (Buffered δ) π) :
    (s.publishAllFrozenEvents buffer).manager = s.manager := by
  unfold publishAllFrozenEvents
  have hfold : ∀ (entries : List ((_ : κ) × FrozenRecords (Buffered δ) π))
      (acc : UnorderedDelivery δ π),
      (entries.foldl (fun s entry => s.publishFrozenEventsInner .all entry.2) acc).manager
        = acc.manager := by
    intro entries
    induction entries with
    | nil => exact fun _ => rfl
    | cons first rest ih => exact fun acc => ih _
  exact hfold buffer.entries s

theorem manager_stepCall (i : ℕ) (call : UnfreezeCall) :
    SameIndex s.manager (s.stepCall i call).manager := by
  unfold stepCall
  split
  · exact SameIndex.buffers _ _ _
  · exact SameIndex.refl _
  · exact SameIndex.buffers _ _ _
  · rw [manager_publishAllFrozenEvents]
    exact SameIndex.refl _
  · rw [manager_publishAllFrozenEvents]
    exact SameIndex.refl _

/-- **What a step of unordered delivery does to the subscriber manager.** -/
theorem manager_step {l : DeliveryLabel δ π} (hstep : s.step P S l = some t) :
    ManagerStep S s.manager t.manager := by
  cases l with
  | insertSubscriber maxSubscriberNum info listener recordInfo =>
    cases hstep
    exact Or.inl ⟨.insertSubscriber maxSubscriberNum info listener recordInfo, rfl⟩
  | removeSubscriber listener =>
    cases hstep
    exact Or.inl ⟨.removeSubscriber listener, rfl⟩
  | getSubscriberRecords view =>
    cases hstep
    exact manager_getSubscriberRecords (P := P) s.manager view
  | processUnorderedEvent eventRecord view subscriberRecord =>
    obtain ⟨-, rfl⟩ := processUnorderedEvent_cases hstep
    cases subscriberRecord with
    | some r => exact ManagerStep.refl S _
    | none => exact manager_getSubscriberRecords (P := P) s.manager view
  | unordered =>
    obtain ⟨task, rest, -, rfl⟩ := unordered_cases hstep
    exact Or.inr (manager_stepTask task)
  | unorderedImmediate =>
    obtain ⟨task, rest, -, rfl⟩ := unorderedImmediate_cases hstep
    exact Or.inr (manager_stepTask task)
  | notifyOrderedEvent eventRecord subscriber =>
    obtain ⟨-, -, rfl⟩ := notifyOrderedEvent_cases hstep
    exact ManagerStep.refl S _
  | notifyFrozenSubscriber =>
    obtain ⟨insertion, -, rfl⟩ := notifyFrozenSubscriber_cases hstep
    exact Or.inr (manager_stepInsertion insertion)
  | freeze uid now =>
    cases hstep
    exact Or.inr (SameIndex.updateFreezeInfo s.manager
      (fun record => record.eventRecordInfo.uid = uid) true now)
  | unfreeze uid =>
    cases hstep
    exact Or.inr (SameIndex.updateFreezeInfo s.manager
      (fun record => record.eventRecordInfo.uid = uid) false 0)
  | setFreezeStatus pidList isFreeze now =>
    cases hstep
    exact Or.inr (SameIndex.updateFreezeInfo s.manager
      (fun record => pidList.contains record.eventRecordInfo.pid) isFreeze now)
  | unfreezeAll =>
    cases hstep
    exact Or.inr (SameIndex.updateFreezeInfo s.manager (fun _ => true) false 0)
  | call i =>
    obtain ⟨call, -, rfl⟩ := Option.map_eq_some_iff.mp hstep
    exact Or.inr (manager_stepCall i call)

/-- **The index lists nothing stale**, whatever has been delivered. -/
theorem indexSound_reachable (hs : (deliveryMachine P S δ π).Reachable s) :
    s.manager.IndexSound :=
  Machine.invariant (M := deliveryMachine P S δ π) (I := fun s => s.manager.IndexSound)
    ⟨by simp [deliveryMachine, subscribersOf], by simp [deliveryMachine],
      fun r hr => absurd hr (List.not_mem_nil)⟩
    (fun _ _ _ h hstep => h.managerStep (manager_step hstep)) hs

/-! ### What is subscribed -/

theorem recordOf_stepInsertion (insertion : FrozenInsertion δ π) (l : Remote) :
    (s.stepInsertion insertion).1.manager.recordOf l = s.manager.recordOf l := by
  unfold stepInsertion
  dsimp only
  split <;> rfl

theorem recordOf_stepCall (i : ℕ) (call : UnfreezeCall) (l : Remote) :
    (s.stepCall i call).manager.recordOf l = s.manager.recordOf l := by
  unfold stepCall
  split
  · rfl
  · rfl
  · rfl
  · rw [manager_publishAllFrozenEvents]
  · rw [manager_publishAllFrozenEvents]

theorem recordOf_stepTask (task : UnorderedTask δ π) (l : Remote) :
    (s.stepTask task).1.manager.recordOf l = s.manager.recordOf l := by
  unfold stepTask
  split
  · rfl
  · split <;> rfl
  · exact recordOf_stepInsertion _ l
  · rfl

/-- **Unordered delivery subscribes nobody**: its own steps, the removals and
the freezes leave what is registered as it was subscribed, or take it out. -/
theorem keepsSubscriptions_step (hsound : s.manager.IndexSound) {l : DeliveryLabel δ π}
    (hl : ∀ maxSubscriberNum info listener recordInfo,
      l ≠ .insertSubscriber maxSubscriberNum info listener recordInfo)
    (hstep : s.step P S l = some t) : KeepsSubscriptions s.manager t.manager := by
  -- only a removal takes a record out; everything else rewrites flags, if anything
  cases l with
  | insertSubscriber maxSubscriberNum info listener recordInfo => exact absurd rfl (hl _ _ _ _)
  | removeSubscriber listener =>
    cases hstep
    intro l record hrecord
    rw [show (s.removeSubscriber listener).manager = s.manager.removeSubscriber listener from rfl,
      recordOf_removeSubscriber hsound] at hrecord
    split at hrecord
    · cases hrecord
    · exact ⟨record, hrecord, rfl, rfl⟩
  | getSubscriberRecords view =>
    cases hstep
    exact .of_recordOf (recordOf_getSubscriberRecords hsound.allocated P view)
  | processUnorderedEvent eventRecord view subscriberRecord =>
    obtain ⟨-, rfl⟩ := processUnorderedEvent_cases hstep
    cases subscriberRecord with
    | some r => exact .refl _
    | none => exact .of_recordOf (recordOf_getSubscriberRecords hsound.allocated P view)
  | unordered =>
    obtain ⟨task, rest, -, rfl⟩ := unordered_cases hstep
    exact .of_recordOf (recordOf_stepTask task)
  | unorderedImmediate =>
    obtain ⟨task, rest, -, rfl⟩ := unorderedImmediate_cases hstep
    exact .of_recordOf (recordOf_stepTask task)
  | notifyOrderedEvent eventRecord subscriber =>
    obtain ⟨-, -, rfl⟩ := notifyOrderedEvent_cases hstep
    exact .refl _
  | notifyFrozenSubscriber =>
    obtain ⟨insertion, -, rfl⟩ := notifyFrozenSubscriber_cases hstep
    exact .of_recordOf (recordOf_stepInsertion insertion)
  | freeze uid now =>
    cases hstep
    exact .updateFreezeInfo _ _ _
  | unfreeze uid =>
    cases hstep
    exact .updateFreezeInfo _ _ _
  | setFreezeStatus pidList isFreeze now =>
    cases hstep
    exact .updateFreezeInfo _ _ _
  | unfreezeAll =>
    cases hstep
    exact .updateFreezeInfo _ _ _
  | call i =>
    obtain ⟨call, -, rfl⟩ := Option.map_eq_some_iff.mp hstep
    exact .of_recordOf (recordOf_stepCall i call)

/-! ### The records that are held -/

/-- The records a task holds. -/
def heldBy : UnorderedTask δ π → List SubscriberRecordPtr
  | .notifyUnorderedEvent _ _ receivers => receivers
  | .handleFrozenUnorderedSubscriber _ insertion receivers => insertion.subscriber :: receivers
  | .notifyFreezeEvents _ _ => []

/-- The records held by what is in progress. -/
def held (s : UnorderedDelivery δ π) : List SubscriberRecordPtr :=
  s.ordered.toList.map FrozenInsertion.subscriber
    ++ (s.unorderedQueue ++ s.unorderedImmediateQueue).flatMap heldBy

theorem subscriber_stepInsertion {insertion next : FrozenInsertion δ π}
    (h : (s.stepInsertion insertion).2 = some next) : next.subscriber = insertion.subscriber := by
  unfold stepInsertion at h
  dsimp only at h
  split at h
  · cases h
    rfl
  · cases h

theorem heldBy_stepTask (task : UnorderedTask δ π) :
    (s.stepTask task).2.toList.flatMap heldBy ⊆ heldBy task := by
  cases task with
  | notifyUnorderedEvent record eventRecord receivers =>
    cases receivers with
    | nil => exact List.nil_subset _
    | cons vec receivers =>
      rw [stepTask]
      split
      · show [vec] ++ receivers ++ [] ⊆ vec :: receivers
        rw [List.append_nil]
        exact List.Subset.refl _
      · show receivers ++ [] ⊆ vec :: receivers
        rw [List.append_nil]
        exact List.subset_cons_self _ _
  | handleFrozenUnorderedSubscriber record insertion receivers =>
    rw [stepTask]
    dsimp only
    rw [Option.toList_some, List.flatMap_singleton]
    split
    next next hnext =>
      show next.subscriber :: receivers ⊆ insertion.subscriber :: receivers
      rw [subscriber_stepInsertion hnext]
      exact List.Subset.refl _
    next => exact List.subset_cons_self _ _
  | notifyFreezeEvents subscriberRecord eventRecord => exact List.nil_subset _

theorem held_processUnorderedEvent {eventRecord : CommonEventRecord δ π} {view : EventRecord}
    {subscriberRecord : Option SubscriberRecordPtr} {r : SubscriberRecordPtr}
    (hr : r ∈ (s.processUnorderedEvent P eventRecord view subscriberRecord).held) :
    r ∈ s.held ∨ r ∈ subscriberRecord.elim (s.manager.getSubscriberRecords P view).1 ([·]) := by
  have htask : ∀ receivers, heldBy (.notifyUnorderedEvent s.nextRecord
      eventRecord.fillCommonEventRecord receivers) = receivers := fun _ => rfl
  unfold held processUnorderedEvent at hr
  unfold held
  cases subscriberRecord <;> cases hsystem : eventRecord.isSystemEvent
  all_goals
    simp only [hsystem, if_true, Bool.false_eq_true, if_false, List.flatMap_append,
      List.flatMap_cons, List.flatMap_nil, htask, List.mem_append, List.append_nil] at hr ⊢
    tauto

/-- What an unfreezing call submits holds no record. -/
theorem held_publishFrozenEventsInner (kind : UnfreezeKind)
    (frozenRecords : FrozenRecords (Buffered δ) π) :
    (s.publishFrozenEventsInner kind frozenRecords).held = s.held := by
  unfold publishFrozenEventsInner held
  dsimp only
  rw [← List.append_assoc, List.flatMap_append]
  have hnone : ((frozenTasks frozenRecords).map fun task =>
      UnorderedTask.notifyFreezeEvents task.1 task.2).flatMap heldBy = [] := by
    rw [List.flatMap_map]
    exact List.flatMap_eq_nil_iff.mpr fun _ _ => rfl
  rw [hnone, List.append_nil]

theorem held_publishAllFrozenEvents {κ : Type} (buffer : FrozenBuffer κ (Buffered δ) π) :
    (s.publishAllFrozenEvents buffer).held = s.held := by
  unfold publishAllFrozenEvents
  have hfold : ∀ (entries : List ((_ : κ) × FrozenRecords (Buffered δ) π))
      (acc : UnorderedDelivery δ π),
      (entries.foldl (fun s entry => s.publishFrozenEventsInner .all entry.2) acc).held
        = acc.held := by
    intro entries
    induction entries with
    | nil => exact fun _ => rfl
    | cons first rest ih => exact fun acc => (ih _).trans (held_publishFrozenEventsInner _ _)
  exact hfold buffer.entries s

theorem held_stepCall (i : ℕ) (call : UnfreezeCall) : (s.stepCall i call).held = s.held := by
  unfold stepCall
  split
  · exact held_publishFrozenEventsInner _ _
  · rfl
  · exact held_publishFrozenEventsInner _ _
  · exact held_publishAllFrozenEvents _
  · exact held_publishAllFrozenEvents _

/-- **What is held has been made**, after every step. -/
theorem held_step {l : DeliveryLabel δ π} (hsound : s.manager.IndexSound)
    (h : ∀ r ∈ s.held, r < s.manager.nextAddr) (hstep : s.step P S l = some t) :
    ∀ r ∈ t.held, r < t.manager.nextAddr := by
  have hmanager := manager_step hstep
  have hle := hmanager.nextAddr_le hsound.allocated
  have hsame : t.held ⊆ s.held → ∀ r ∈ t.held, r < t.manager.nextAddr :=
    fun hsub r hr => Nat.lt_of_lt_of_le (h r (hsub hr)) hle
  cases l with
  | processUnorderedEvent eventRecord view subscriberRecord =>
    obtain ⟨halloc, rfl⟩ := processUnorderedEvent_cases hstep
    have hsound' := hsound.managerStep hmanager
    intro r hr
    have hcases : r ∈ s.held ∨ subscriberRecord = some r
        ∨ subscriberRecord = none ∧ r ∈ (s.manager.getSubscriberRecords P view).1 := by
      refine (held_processUnorderedEvent hr).imp_right fun hnew => ?_
      cases subscriberRecord with
      | some r' => exact Or.inl (congrArg some (List.mem_singleton.mp hnew).symm)
      | none => exact Or.inr ⟨rfl, hnew⟩
    rcases hcases with hold | hgiven | ⟨hnone, hselected⟩
    · exact Nat.lt_of_lt_of_le (h r hold) hle
    · exact Nat.lt_of_lt_of_le (halloc r hgiven) hle
    · -- what is selected is registered
      subst hnone
      have hin := hsound'.mem_subscribersOf
        (List.mem_of_mem_filter hselected)
      exact hsound'.allocated r hin.1
  | notifyOrderedEvent eventRecord subscriber =>
    obtain ⟨hordered, halloc, rfl⟩ := notifyOrderedEvent_cases hstep
    intro r hr
    unfold held notifyOrderedEvent at hr
    dsimp only at hr
    rcases List.mem_append.mp hr with hr | hr
    · split at hr
      · obtain rfl := List.mem_singleton.mp hr
        exact halloc
      · cases hr
    · exact h r (List.mem_append_right _ hr)
  | unordered =>
    obtain ⟨task, rest, hqueue, rfl⟩ := unordered_cases hstep
    obtain ⟨-, hiq, hord, -⟩ := stepTask_frame (s := s) task
    refine hsame ?_
    unfold held
    dsimp only
    rw [hiq, hord, hqueue, List.append_assoc, List.flatMap_append, List.cons_append,
      List.flatMap_cons]
    exact List.append_subset.mpr ⟨List.subset_append_left _ _, List.append_subset.mpr
      ⟨List.Subset.trans (heldBy_stepTask task) (List.Subset.trans (List.subset_append_left _ _)
        (List.subset_append_right _ _)), List.Subset.trans (List.subset_append_right _ _)
          (List.subset_append_right _ _)⟩⟩
  | unorderedImmediate =>
    obtain ⟨task, rest, hqueue, rfl⟩ := unorderedImmediate_cases hstep
    obtain ⟨huq, -, hord, -⟩ := stepTask_frame (s := s) task
    refine hsame fun r hr => ?_
    unfold held at hr ⊢
    dsimp only at hr
    rw [huq, hord] at hr
    rw [hqueue]
    simp only [List.mem_append, List.flatMap_append, List.flatMap_cons] at hr ⊢
    have htask := heldBy_stepTask (s := s) task (a := r)
    tauto
  | notifyFrozenSubscriber =>
    obtain ⟨insertion, hordered, rfl⟩ := notifyFrozenSubscriber_cases hstep
    obtain ⟨huq, hiq, -, -⟩ := stepInsertion_frame (s := s) insertion
    refine hsame ?_
    unfold held
    dsimp only
    rw [huq, hiq, hordered]
    refine List.append_subset.mpr ⟨?_, List.subset_append_right _ _⟩
    refine List.Subset.trans ?_ (List.subset_append_left _ _)
    cases hnext : (s.stepInsertion insertion).2 with
    | none => exact List.nil_subset _
    | some next =>
      show [next.subscriber] ⊆ [insertion.subscriber]
      rw [subscriber_stepInsertion hnext]
      exact List.Subset.refl _
  | call i =>
    obtain ⟨call, -, rfl⟩ := Option.map_eq_some_iff.mp hstep
    refine hsame ?_
    rw [held_stepCall]
    exact List.Subset.refl _
  | _ =>
    cases hstep
    exact hsame (List.Subset.refl _)

theorem held_reachable (hs : (deliveryMachine P S δ π).Reachable s) :
    ∀ r ∈ s.held, r < s.manager.nextAddr :=
  (Machine.invariant (M := deliveryMachine P S δ π)
    (I := fun s => s.manager.IndexSound ∧ ∀ r ∈ s.held, r < s.manager.nextAddr)
    ⟨indexSound_reachable Machine.Reachable.init, nofun⟩
    (fun _ _ _ h hstep => ⟨h.1.managerStep (manager_step hstep), held_step h.1 h.2 hstep⟩) hs).2

end UnorderedDelivery

end CommonEventService

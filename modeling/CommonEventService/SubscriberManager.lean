import CommonEventService.FrozenEvents
import CommonEventService.Lib.StdAlgorithm
import Mathlib.Data.String.Basic
import Mathlib.Logic.Function.Basic

/-!
# The subscriber manager

`CommonEventSubscriberManager` keeps every subscription twice: in
`subscribers_`, one record per listener, and in `eventSubscribers_`, for each
event name the records subscribed to it. Records are shared: an event in
flight holds the records it is to be delivered to, and sees what the manager
writes into them. A record is therefore an address here, and the manager
carries the heap that says what is stored at it.

This module has the operations that change the index – a first subscription,
an update, a removal, the compaction – as the code computes them. What they
do to a lookup is stated beside each of the two that maintain the index.
-/

namespace CommonEventService

/-- `std::shared_ptr<EventSubscriberRecord>`: the address of a record. -/
abbrev SubscriberRecordPtr := ℕ

/-- How many events one subscription may name. -/
def SUBSCRIBE_EVENT_MAX_NUM : ℕ := 512

instance : Inhabited EventSubscriberRecord :=
  ⟨{ eventSubscribeInfo := { matchingSkills := {} }
     commonEventListener := ⟨0⟩
     eventRecordInfo := {} }⟩

/-- **`CommonEventSubscriberManager`.** Addresses are given out in order;
`nextAddr` is the first one not in use. -/
structure SubscriberManager (δ π : Type) where
  heap : SubscriberRecordPtr → EventSubscriberRecord := fun _ => default
  nextAddr : SubscriberRecordPtr := 0
  subscribers : List SubscriberRecordPtr := []
  eventSubscribers : Dict String (List SubscriberRecordPtr) := ∅
  subscriberCounts : Dict Pid ℕ := ∅
  frozenEvents : FrozenBuffer Uid δ π := ∅
  frozenEventsMap : FrozenBuffer Pid δ π := ∅
  hasCompacted : Bool := false

/-- What the index lists under an event name. -/
def subscribersOf (index : Dict String (List SubscriberRecordPtr)) (event : String) :
    List SubscriberRecordPtr :=
  (index.lookup event).getD []

/-! ## The index of one event list -/

section Index

variable (index : Dict String (List SubscriberRecordPtr)) (record : SubscriberRecordPtr)

/-- One round of `InsertEventSubscribers`. -/
def insertEventSubscriber (index : Dict String (List SubscriberRecordPtr))
    (event : String) : Dict String (List SubscriberRecordPtr) :=
  match index.lookup event with
  | some vec => index.insert event (if record ∈ vec then vec else vec ++ [record])
  | none => index.insert event [record]

/-- `InsertEventSubscribers`. -/
def insertEventSubscribers (events : List String) :
    Dict String (List SubscriberRecordPtr) :=
  events.foldl (insertEventSubscriber record) index

/-- One round of `RemoveEventSubscribers`. -/
def removeEventSubscriber (index : Dict String (List SubscriberRecordPtr))
    (event : String) : Dict String (List SubscriberRecordPtr) :=
  match index.lookup event with
  | some vec =>
    let vec := vec.erase record
    if vec = [] then index.erase event else index.insert event vec
  | none => index

/-- `RemoveEventSubscribers`. -/
def removeEventSubscribers (events : List String) :
    Dict String (List SubscriberRecordPtr) :=
  events.foldl (removeEventSubscriber record) index

/-- One round of the loop of `RemoveSubscriberRecordLocked` over the events
of the listener that goes: `isListener` says whose records are taken out. -/
def eraseListener (isListener : SubscriberRecordPtr → Bool)
    (index : Dict String (List SubscriberRecordPtr)) (event : String) :
    Dict String (List SubscriberRecordPtr) :=
  let vec := (subscribersOf index event).filter (fun rec => !isListener rec)
  if vec = [] then index.erase event else index.insert event vec

/-- One round of the inner loop of the compaction: no look before the
push. -/
def pushEventSubscriber (index : Dict String (List SubscriberRecordPtr))
    (event : String) : Dict String (List SubscriberRecordPtr) :=
  index.insert event (subscribersOf index event ++ [record])

/-- **No event is mapped to an empty list.** -/
def NoEmptyList (index : Dict String (List SubscriberRecordPtr)) : Prop :=
  ∀ event vec, index.lookup event = some vec → vec ≠ []

variable {index record}

theorem subscribersOf_insert (event event' : String) (vec : List SubscriberRecordPtr) :
    subscribersOf (index.insert event vec) event'
      = if event' = event then vec else subscribersOf index event' := by
  unfold subscribersOf
  rw [Dict.lookup_insert_ite]
  split <;> rfl

theorem subscribersOf_erase (event event' : String) :
    subscribersOf (index.erase event) event'
      = if event' = event then [] else subscribersOf index event' := by
  unfold subscribersOf
  rw [Dict.lookup_erase_ite]
  split <;> rfl

theorem noEmptyList_empty : NoEmptyList ∅ := by
  intro event vec h
  exact absurd h (by simp)

theorem NoEmptyList.insert (h : NoEmptyList index) (event : String)
    {vec : List SubscriberRecordPtr} (hvec : vec ≠ []) :
    NoEmptyList (index.insert event vec) := by
  intro event' vec' hl
  rw [Dict.lookup_insert_ite] at hl
  split at hl
  · cases hl
    exact hvec
  · exact h event' vec' hl

theorem NoEmptyList.erase (h : NoEmptyList index) (event : String) :
    NoEmptyList (index.erase event) := by
  intro event' vec' hl
  rw [Dict.lookup_erase_ite] at hl
  split at hl
  · exact absurd hl (by simp)
  · exact h event' vec' hl

/-- Storing a list, or dropping the key where the list is empty, leaves the
same to be looked up. -/
theorem subscribersOf_store (event event' : String) (vec : List SubscriberRecordPtr) :
    subscribersOf (if vec = [] then index.erase event else index.insert event vec) event'
      = if event' = event then vec else subscribersOf index event' := by
  split
  next h => rw [subscribersOf_erase, h]
  next h => rw [subscribersOf_insert]

theorem NoEmptyList.store (h : NoEmptyList index) (event : String)
    (vec : List SubscriberRecordPtr) :
    NoEmptyList (if vec = [] then index.erase event else index.insert event vec) := by
  split
  next hvec => exact h.erase event
  next hvec => exact h.insert event hvec

/-! ### What the rounds do to a lookup -/

theorem subscribersOf_insertEventSubscriber (event event' : String) :
    subscribersOf (insertEventSubscriber record index event) event'
      = if event' = event ∧ record ∉ subscribersOf index event'
        then subscribersOf index event' ++ [record] else subscribersOf index event' := by
  unfold insertEventSubscriber
  cases hl : index.lookup event with
  | none =>
    simp only [subscribersOf_insert]
    by_cases he : event' = event
    · subst he
      have : subscribersOf index event' = [] := by unfold subscribersOf; rw [hl]; rfl
      simp [this]
    · simp [he]
  | some vec =>
    simp only [subscribersOf_insert]
    by_cases he : event' = event
    · subst he
      have : subscribersOf index event' = vec := by unfold subscribersOf; rw [hl]; rfl
      by_cases hr : record ∈ vec <;> simp [this, hr]
    · simp [he]

theorem noEmptyList_insertEventSubscriber (h : NoEmptyList index) (event : String) :
    NoEmptyList (insertEventSubscriber record index event) := by
  unfold insertEventSubscriber
  cases hl : index.lookup event with
  | none => exact h.insert event (by simp)
  | some vec =>
    refine h.insert event ?_
    split
    · exact h event vec hl
    · simp

theorem subscribersOf_removeEventSubscriber (event event' : String) :
    subscribersOf (removeEventSubscriber record index event) event'
      = if event' = event then (subscribersOf index event').erase record
        else subscribersOf index event' := by
  unfold removeEventSubscriber
  cases hl : index.lookup event with
  | none =>
    by_cases he : event' = event
    · subst he
      have : subscribersOf index event' = [] := by unfold subscribersOf; rw [hl]; rfl
      simp [this]
    · simp [he]
  | some vec =>
    simp only [subscribersOf_store]
    by_cases he : event' = event
    · subst he
      have : subscribersOf index event' = vec := by unfold subscribersOf; rw [hl]; rfl
      simp [this]
    · simp [he]

theorem noEmptyList_removeEventSubscriber (h : NoEmptyList index) (event : String) :
    NoEmptyList (removeEventSubscriber record index event) := by
  unfold removeEventSubscriber
  cases hl : index.lookup event with
  | none => exact h
  | some vec => exact h.store event _

theorem subscribersOf_eraseListener (isListener : SubscriberRecordPtr → Bool)
    (event event' : String) :
    subscribersOf (eraseListener isListener index event) event'
      = if event' = event
        then (subscribersOf index event').filter (fun rec => !isListener rec)
        else subscribersOf index event' := by
  unfold eraseListener
  simp only [subscribersOf_store]
  split
  next he => rw [he]
  next he => rfl

/-! ### What the loops do to the number of entries -/

/-- **After `InsertEventSubscribers`** the record is in every named list –
once, if it was in none – and no other record moves. -/
theorem count_insertEventSubscribers (events : List String) (event : String)
    (record' : SubscriberRecordPtr) :
    (subscribersOf (insertEventSubscribers index record events) event).count record'
      = if record' = record ∧ event ∈ events ∧ record ∉ subscribersOf index event
        then 1 else (subscribersOf index event).count record' := by
  unfold insertEventSubscribers
  induction events generalizing index with
  | nil => simp
  | cons first events ih =>
    rw [List.foldl_cons, ih, subscribersOf_insertEventSubscriber]
    by_cases he : event = first
    · subst he
      by_cases hr : record ∈ subscribersOf index event
      · simp [hr]
      · by_cases hr' : record' = record
        · subst hr'
          simp [hr, List.count_eq_zero.mpr hr]
        · have hne : [record].count record' = 0 := List.count_eq_zero.mpr (by simpa using hr')
          simp [hr, hr', hne]
    · simp [he]

theorem noEmptyList_insertEventSubscribers (h : NoEmptyList index)
    (events : List String) :
    NoEmptyList (insertEventSubscribers index record events) := by
  unfold insertEventSubscribers
  induction events generalizing index with
  | nil => exact h
  | cons first events ih => exact ih (noEmptyList_insertEventSubscriber h first)

/-- **After `RemoveEventSubscribers`** the record is taken out of each list
as often as the list is named, and no other record moves. -/
theorem count_removeEventSubscribers (events : List String) (event : String)
    (record' : SubscriberRecordPtr) :
    (subscribersOf (removeEventSubscribers index record events) event).count record'
      = if record' = record
        then (subscribersOf index event).count record - events.count event
        else (subscribersOf index event).count record' := by
  unfold removeEventSubscribers
  induction events generalizing index with
  | nil => split <;> simp_all
  | cons first events ih =>
    rw [List.foldl_cons, ih, subscribersOf_removeEventSubscriber, List.count_cons]
    by_cases he : event = first
    · subst he
      by_cases hr : record' = record
      · subst hr
        simp only [if_true, List.count_erase_self, beq_self_eq_true]
        omega
      · simp [hr, List.count_erase_of_ne hr]
    · have hne : (first == event) = false := by simpa using fun h => he h.symm
      simp [he, hne]

theorem noEmptyList_removeEventSubscribers (h : NoEmptyList index)
    (events : List String) :
    NoEmptyList (removeEventSubscribers index record events) := by
  unfold removeEventSubscribers
  induction events generalizing index with
  | nil => exact h
  | cons first events ih => exact ih (noEmptyList_removeEventSubscriber h first)

/-- After the loop over the events of a listener, its records are in none of
their lists. -/
theorem subscribersOf_foldl_eraseListener (isListener : SubscriberRecordPtr → Bool)
    (events : List String) (event : String) :
    subscribersOf (events.foldl (eraseListener isListener) index) event
      = if event ∈ events
        then (subscribersOf index event).filter (fun rec => !isListener rec)
        else subscribersOf index event := by
  induction events generalizing index with
  | nil => simp
  | cons first events ih =>
    rw [List.foldl_cons, ih, subscribersOf_eraseListener]
    by_cases he : event = first
    · subst he
      simp
    · simp [he]

theorem noEmptyList_foldl_eraseListener (h : NoEmptyList index)
    (isListener : SubscriberRecordPtr → Bool) (events : List String) :
    NoEmptyList (events.foldl (eraseListener isListener) index) := by
  induction events generalizing index with
  | nil => exact h
  | cons first events ih => exact ih (h.store first _)

/-- After the pushes of the compaction the record is in each list once more
for every time the list is named. -/
theorem count_foldl_pushEventSubscriber (events : List String) (event : String)
    (record' : SubscriberRecordPtr) :
    (subscribersOf (events.foldl (pushEventSubscriber record) index) event).count record'
      = (subscribersOf index event).count record'
        + if record' = record then events.count event else 0 := by
  induction events generalizing index with
  | nil => simp
  | cons first events ih =>
    rw [List.foldl_cons, ih, pushEventSubscriber, subscribersOf_insert, List.count_cons]
    by_cases he : event = first
    · subst he
      by_cases hr : record' = record
      · subst hr
        simp
        omega
      · have hne : [record].count record' = 0 := List.count_eq_zero.mpr (by simpa using hr)
        simp [hr, hne]
    · have hne : (first == event) = false := by simpa using fun h => he h.symm
      simp [he, hne]

theorem noEmptyList_foldl_pushEventSubscriber (h : NoEmptyList index)
    (events : List String) :
    NoEmptyList (events.foldl (pushEventSubscriber record) index) := by
  induction events generalizing index with
  | nil => exact h
  | cons first events ih => exact ih (h.insert first (by simp))

end Index

namespace SubscriberManager

variable {δ π : Type} (S : StdSort) (m : SubscriberManager δ π)

/-- The event names a record asks for. -/
def eventsOf (r : SubscriberRecordPtr) : List String :=
  (m.heap r).eventSubscribeInfo.getEvents

/-- The listener of a record. -/
def listenerOf (r : SubscriberRecordPtr) : Remote := (m.heap r).commonEventListener

/-! ## The limit on subscriptions -/

/-- `GetTopSubscriberCounts`: the processes with the most subscriptions. -/
def getTopSubscriberCounts (topNum : ℕ) : List (Pid × ℕ) :=
  (S.sort (fun a b => decide (a.2 > b.2))
    (m.subscriberCounts.entries.map (fun entry => (entry.1, entry.2)))).take topNum

/-- `CheckSubscriberCountReachedMaxinum`. At four fifths of the limit the
code only warns, and answers `false` before it looks at the limit itself. -/
def checkSubscriberCountReachedMaxinum (maxSubscriberNum : ℕ) : Bool :=
  if m.subscribers.length = maxSubscriberNum * 4 / 5 then false
  else m.subscribers.length = maxSubscriberNum

/-! ## The operations -/

/-- `GetSubscriberRecord`: the record of a listener. -/
def getSubscriberRecord (commonEventListener : Remote) : Option SubscriberRecordPtr :=
  m.subscribers.find? (fun rec => (m.heap rec).commonEventListener = commonEventListener)

/-- What came of a first subscription: refused, or made – after the process
with the most subscriptions was killed, where the limit was reached. -/
inductive Insertion where
  | refused
  | inserted (killedPid : Option Pid)
  deriving DecidableEq, Repr

/-- `InsertSubscriberRecordLocked`: the record of a new listener. -/
def insertSubscriberRecordLocked (maxSubscriberNum : ℕ) (events : List String)
    (record : SubscriberRecordPtr) : Insertion × SubscriberManager δ π :=
  if events.length = 0 then (.refused, m)
  else
    let pid := (m.heap record).eventRecordInfo.pid
    let inserted : SubscriberManager δ π :=
      { m with
        eventSubscribers := insertEventSubscribers m.eventSubscribers record events
        subscribers := m.subscribers ++ [record]
        subscriberCounts :=
          m.subscriberCounts.insert pid (Dict.getD m.subscriberCounts pid 0 + 1) }
    if m.checkSubscriberCountReachedMaxinum maxSubscriberNum then
      let killedPid := (m.getTopSubscriberCounts S 1).head?.map (·.1)
      if killedPid = some pid then (.refused, m)
      else (.inserted killedPid, inserted)
    else (.inserted none, inserted)

/-- `UpdateSubscriberRecordLocked`: a known listener subscribes anew. The
two lists of names are compared as sorted ranges, repeated names and all. -/
def updateSubscriberRecordLocked (eventSubscribeInfo : CommonEventSubscribeInfo)
    (eventRecordInfo : EventRecordInfo) (record : SubscriberRecordPtr) :
    SubscriberManager δ π :=
  let oldEvents := S.sort (fun a b => decide (a < b))
    (m.heap record).eventSubscribeInfo.getEvents
  let newEvents := S.sort (fun a b => decide (a < b)) eventSubscribeInfo.getEvents
  let removeEvents := setDifference oldEvents newEvents
  let addEvents := setDifference newEvents oldEvents
  { m with
    eventSubscribers := insertEventSubscribers
      (removeEventSubscribers m.eventSubscribers record removeEvents) record addEvents
    heap := Function.update m.heap record
      { m.heap record with
        eventSubscribeInfo := eventSubscribeInfo
        eventRecordInfo := eventRecordInfo } }

/-- `InsertSubscriber`: a first subscription, or the update of one. -/
def insertSubscriber (maxSubscriberNum : ℕ)
    (eventSubscribeInfo : Option CommonEventSubscribeInfo)
    (commonEventListener : Option Remote) (eventRecordInfo : EventRecordInfo) :
    Option SubscriberRecordPtr × SubscriberManager δ π :=
  match eventSubscribeInfo, commonEventListener with
  | some eventSubscribeInfo, some commonEventListener =>
    let events := eventSubscribeInfo.getEvents
    if events.length = 0 ∨ events.length > SUBSCRIBE_EVENT_MAX_NUM then (none, m)
    else
      match m.getSubscriberRecord commonEventListener with
      | some record =>
        (some record,
          m.updateSubscriberRecordLocked S eventSubscribeInfo eventRecordInfo record)
      | none =>
        -- `make_shared`: the record exists whether or not it is then inserted
        let record := m.nextAddr
        let made : SubscriberManager δ π :=
          { m with
            nextAddr := m.nextAddr + 1
            heap := Function.update m.heap record
              { eventSubscribeInfo := eventSubscribeInfo
                commonEventListener := commonEventListener
                eventRecordInfo := eventRecordInfo } }
        match made.insertSubscriberRecordLocked S maxSubscriberNum events record with
        | (.refused, m') => (none, m')
        | (.inserted _, m') => (some record, m')
  | _, _ => (none, m)

/-- `RemoveSubscriberRecordLocked`: a listener goes, with all that is kept
for it. -/
def removeSubscriberRecordLocked (commonEventListener : Remote) :
    SubscriberManager δ π :=
  match m.getSubscriberRecord commonEventListener with
  | some record =>
    let info := (m.heap record).eventRecordInfo
    let events := (m.heap record).eventSubscribeInfo.getEvents
    let count := Dict.getD m.subscriberCounts info.pid 0
    { m with
      frozenEvents := m.frozenEvents.removeBySubscriber info.uid commonEventListener
      frozenEventsMap := m.frozenEventsMap.removeBySubscriber info.pid commonEventListener
      subscriberCounts :=
        if count > 1 then m.subscriberCounts.insert info.pid (count - 1)
        else m.subscriberCounts.erase info.pid
      subscribers := m.subscribers.erase record
      eventSubscribers := events.foldl
        (eraseListener fun rec => (m.heap rec).commonEventListener = commonEventListener)
        m.eventSubscribers }
  | none => m

/-- `RemoveSubscriber`. -/
def removeSubscriber (commonEventListener : Option Remote) : SubscriberManager δ π :=
  match commonEventListener with
  | none => m
  | some commonEventListener => m.removeSubscriberRecordLocked commonEventListener

/-- One round of the compaction: a copy of the record, pushed wherever its
event list names it. -/
def compactSubscriber (acc : SubscriberManager δ π) (subscriber : SubscriberRecordPtr) :
    SubscriberManager δ π :=
  let newRecord := acc.nextAddr
  let pid := (acc.heap subscriber).eventRecordInfo.pid
  let events := (acc.heap subscriber).eventSubscribeInfo.getEvents
  { acc with
    nextAddr := acc.nextAddr + 1
    heap := Function.update acc.heap newRecord (acc.heap subscriber)
    subscribers := acc.subscribers ++ [newRecord]
    subscriberCounts :=
      acc.subscriberCounts.insert pid (Dict.getD acc.subscriberCounts pid 0 + 1)
    eventSubscribers := events.foldl (pushEventSubscriber newRecord) acc.eventSubscribers }

/-- `CompactSubscriberDataStructures`: the index is built again, from
copies. -/
def compactSubscriberDataStructures : SubscriberManager δ π :=
  m.subscribers.foldl compactSubscriber
    { m with
      subscribers := []
      eventSubscribers := ∅
      subscriberCounts := ∅
      hasCompacted := true }

end SubscriberManager

end CommonEventService

import CommonEventService.SubscriberManager
import CommonEventService.Lib.Machine

/-!
# Consistency of the subscriber index

The manager keeps each subscription in two places, and five operations write
both. This module says when the two agree – every record listed once under
each name it asks for, and nowhere else – and which runs of the manager stay
in agreement.

They do not all stay there, and the reason is always a name that a
subscription gives more than once. An update compares the old and the new
names as sorted ranges *with* repetitions, so a name given twice before and
once now is counted among the removed ones, although it is still asked for;
and the compaction pushes a record once per occurrence of a name, where every
other insertion looks first. The guard `indexOk` is these two conditions, and
it is exact.
-/

namespace CommonEventService

namespace SubscriberManager

variable {δ π : Type}

/-- **The index is consistent.** -/
structure IndexConsistent (m : SubscriberManager δ π) : Prop where
  /-- A record is listed under a name exactly once if it is registered and
  asks for the name, and not at all otherwise. -/
  index : ∀ event r, (subscribersOf m.eventSubscribers event).count r
    = if r ∈ m.subscribers ∧ event ∈ m.eventsOf r then 1 else 0
  /-- No two registered records share a listener. -/
  listeners : (m.subscribers.map m.listenerOf).Nodup
  /-- No name is mapped to an empty list. -/
  noEmpty : NoEmptyList m.eventSubscribers

namespace IndexConsistent

variable {m : SubscriberManager δ π} (h : m.IndexConsistent)

include h

theorem nodup : m.subscribers.Nodup := h.listeners.of_map

theorem listener_inj {r r' : SubscriberRecordPtr} (hr : r ∈ m.subscribers)
    (hr' : r' ∈ m.subscribers) (hl : m.listenerOf r = m.listenerOf r') : r = r' :=
  List.inj_on_of_nodup_map h.listeners hr hr' hl

theorem mem_subscribersOf {event : String} {r : SubscriberRecordPtr} :
    r ∈ subscribersOf m.eventSubscribers event
      ↔ r ∈ m.subscribers ∧ event ∈ m.eventsOf r := by
  rw [← List.count_pos_iff, h.index]
  split
  next hr => exact ⟨fun _ => hr, fun _ => Nat.one_pos⟩
  next hr => exact ⟨fun hlt => absurd hlt (Nat.lt_irrefl 0), fun hr' => absurd hr' hr⟩

/-- What is stored where no registered record lies does not matter. -/
theorem congr_heap {m' : SubscriberManager δ π}
    (hidx : m'.eventSubscribers = m.eventSubscribers)
    (hsub : m'.subscribers = m.subscribers)
    (hheap : ∀ r ∈ m.subscribers, m'.heap r = m.heap r) : m'.IndexConsistent := by
  have hev : ∀ r ∈ m.subscribers, m'.eventsOf r = m.eventsOf r := by
    intro r hr
    unfold eventsOf
    rw [hheap r hr]
  refine ⟨fun event r => ?_, ?_, ?_⟩
  · rw [hidx, hsub, h.index]
    by_cases hr : r ∈ m.subscribers
    · rw [hev r hr]
    · simp [hr]
  · rw [hsub]
    have : m.subscribers.map m'.listenerOf = m.subscribers.map m.listenerOf := by
      refine List.map_congr_left fun r hr => ?_
      unfold listenerOf
      rw [hheap r hr]
    rw [this]
    exact h.listeners
  · rw [hidx]
    exact h.noEmpty

end IndexConsistent

/-- Every registered record has been allocated. -/
def Allocated (m : SubscriberManager δ π) : Prop := ∀ r ∈ m.subscribers, r < m.nextAddr

theorem getSubscriberRecord_some {m : SubscriberManager δ π} {l : Remote}
    {r : SubscriberRecordPtr} (h : m.getSubscriberRecord l = some r) :
    r ∈ m.subscribers ∧ m.listenerOf r = l :=
  by
  unfold getSubscriberRecord at h
  have hl := List.find?_some h
  exact ⟨List.mem_of_find?_eq_some h, of_decide_eq_true hl⟩

theorem getSubscriberRecord_none {m : SubscriberManager δ π} {l : Remote}
    (h : m.getSubscriberRecord l = none) : ∀ r ∈ m.subscribers, m.listenerOf r ≠ l := by
  intro r hr hl
  exact List.find?_eq_none.mp h r hr (decide_eq_true hl)

/-! ## A first subscription -/

section FirstSubscription

variable (S : StdSort) {m : SubscriberManager δ π}

/-- **The insertion of a new record**: refused, or at the end of the list of
records and of the list of each name. -/
theorem insertSubscriberRecordLocked_cases (maxSubscriberNum : ℕ) (events : List String)
    (record : SubscriberRecordPtr) :
    m.insertSubscriberRecordLocked S maxSubscriberNum events record = (.refused, m) ∨
    ∃ killed counts,
      m.insertSubscriberRecordLocked S maxSubscriberNum events record
        = (.inserted killed,
          { m with
            eventSubscribers := insertEventSubscribers m.eventSubscribers record events
            subscribers := m.subscribers ++ [record]
            subscriberCounts := counts }) := by
  unfold insertSubscriberRecordLocked
  by_cases hev : events.length = 0
  · exact Or.inl (by rw [if_pos hev])
  · rw [if_neg hev]
    dsimp only
    split
    · split
      · exact Or.inl rfl
      · exact Or.inr ⟨_, _, rfl⟩
    · exact Or.inr ⟨_, _, rfl⟩

/-- A new listener at the end. -/
theorem nodup_listeners_concat (h : (m.subscribers.map m.listenerOf).Nodup)
    {record : SubscriberRecordPtr}
    (hlistener : ∀ r ∈ m.subscribers, m.listenerOf r ≠ m.listenerOf record) :
    ((m.subscribers ++ [record]).map m.listenerOf).Nodup := by
  rw [List.map_append, List.nodup_append]
  refine ⟨h, by simp, ?_⟩
  intro l hl l' hl'
  obtain ⟨r, hr, rfl⟩ := List.mem_map.mp hl
  obtain rfl : l' = m.listenerOf record := by simpa using hl'
  exact hlistener r hr

/-- Registering a record that is not registered keeps the index
consistent. -/
theorem IndexConsistent.insert (h : m.IndexConsistent) {record : SubscriberRecordPtr}
    (hrecord : record ∉ m.subscribers)
    (hlistener : ∀ r ∈ m.subscribers, m.listenerOf r ≠ m.listenerOf record)
    (counts : Dict Pid ℕ) :
    IndexConsistent
      { m with
        eventSubscribers :=
          insertEventSubscribers m.eventSubscribers record (m.eventsOf record)
        subscribers := m.subscribers ++ [record]
        subscriberCounts := counts } := by
  have hnot : ∀ event, record ∉ subscribersOf m.eventSubscribers event := by
    intro event hmem
    exact hrecord (h.mem_subscribersOf.mp hmem).1
  refine ⟨fun event r => ?_, ?_, ?_⟩
  · show (subscribersOf (insertEventSubscribers m.eventSubscribers record _) event).count r
      = if r ∈ m.subscribers ++ [record] ∧ event ∈ m.eventsOf r then 1 else 0
    rw [count_insertEventSubscribers, h.index]
    by_cases hr : r = record
    · subst hr
      simp [hnot, hrecord]
    · simp [hr]
  · exact nodup_listeners_concat h.listeners hlistener
  · exact noEmptyList_insertEventSubscribers h.noEmpty _

end FirstSubscription

/-! ## An update -/

section Update

variable (S : StdSort) {m : SubscriberManager δ π}

/-- An update replaces the names of its record. -/
theorem eventsOf_update (info : CommonEventSubscribeInfo) (eventRecordInfo : EventRecordInfo)
    (record r : SubscriberRecordPtr) :
    (m.updateSubscriberRecordLocked S info eventRecordInfo record).eventsOf r
      = if r = record then info.getEvents else m.eventsOf r := by
  by_cases hr : r = record
  · subst hr
    simp [eventsOf, updateSubscriberRecordLocked]
  · simp [eventsOf, updateSubscriberRecordLocked, hr]

/-- An update leaves the listener of its record. -/
theorem listenerOf_update (info : CommonEventSubscribeInfo) (eventRecordInfo : EventRecordInfo)
    (record r : SubscriberRecordPtr) :
    (m.updateSubscriberRecordLocked S info eventRecordInfo record).listenerOf r
      = m.listenerOf r := by
  by_cases hr : r = record
  · subst hr
    simp [listenerOf, updateSubscriberRecordLocked]
  · simp [listenerOf, updateSubscriberRecordLocked, Function.update_of_ne hr]

/-- The comparison of two lists of names, as sorted ranges, is the
difference of their counts. -/
theorem count_sorted_setDifference (as bs : List String) (event : String) :
    (setDifference (S.sort (fun a b => decide (a < b)) as)
        (S.sort (fun a b => decide (a < b)) bs)).count event
      = as.count event - bs.count event := by
  rw [count_setDifference (S.sort_pairwise_le as) (S.sort_pairwise_le bs)]
  simp

/-- How often a record is listed after an update: `count` is how often it was,
and `old` and `new` say how often the name was given and is. -/
def updatedCount (count old new : ℕ) : ℕ :=
  if old < new ∧ count = 0 then 1 else count - (old - new)

theorem updatedCount_le {count old new : ℕ} (h : count ≤ old) :
    updatedCount count old new ≤ new := by
  unfold updatedCount
  split <;> omega

/-- **What an update does to the number of entries.** -/
theorem count_update (info : CommonEventSubscribeInfo)
    (recordInfo : EventRecordInfo) (record : SubscriberRecordPtr) (event : String)
    (r : SubscriberRecordPtr) :
    (subscribersOf (m.updateSubscriberRecordLocked S info recordInfo record).eventSubscribers
        event).count r
      = if r = record then
          updatedCount ((subscribersOf m.eventSubscribers event).count record)
            ((m.eventsOf record).count event) (info.getEvents.count event)
        else (subscribersOf m.eventSubscribers event).count r := by
  show (subscribersOf (insertEventSubscribers (removeEventSubscribers m.eventSubscribers
      record (setDifference (S.sort (fun a b => decide (a < b)) (m.eventsOf record))
        (S.sort (fun a b => decide (a < b)) info.getEvents))) record
      (setDifference (S.sort (fun a b => decide (a < b)) info.getEvents)
        (S.sort (fun a b => decide (a < b)) (m.eventsOf record)))) event).count r = _
  rw [count_insertEventSubscribers]
  by_cases hr : r = record
  · subst hr
    have hadd : event ∈ setDifference (S.sort (fun a b => decide (a < b)) info.getEvents)
          (S.sort (fun a b => decide (a < b)) (m.eventsOf r))
        ↔ (m.eventsOf r).count event < info.getEvents.count event := by
      rw [← List.count_pos_iff, count_sorted_setDifference]
      exact Nat.sub_pos_iff_lt
    unfold updatedCount
    simp only [true_and, if_true, hadd, ← List.count_eq_zero, count_removeEventSubscribers,
      count_sorted_setDifference]
    split_ifs <;> omega
  · rw [if_neg (fun hc => hr hc.1), if_neg hr, count_removeEventSubscribers, if_neg hr]

/-- **What an update leaves listed.** A name of the new list ends up listed
only if it is not given fewer times than in the old one. -/
theorem count_updateSubscriberRecordLocked (h : m.IndexConsistent)
    {record : SubscriberRecordPtr} (hrecord : record ∈ m.subscribers)
    (info : CommonEventSubscribeInfo) (eventRecordInfo : EventRecordInfo)
    (event : String) (r : SubscriberRecordPtr) :
    (subscribersOf (m.updateSubscriberRecordLocked S info eventRecordInfo
        record).eventSubscribers event).count r
      = if r = record then
          if event ∈ info.getEvents
              ∧ (m.eventsOf record).count event ≤ info.getEvents.count event then 1 else 0
        else (subscribersOf m.eventSubscribers event).count r := by
  rw [count_update]
  by_cases hr : r = record
  · have hlisted : (subscribersOf m.eventSubscribers event).count record
        = if event ∈ m.eventsOf record then 1 else 0 := by
      rw [h.index]
      simp [hrecord]
    rw [if_pos hr, if_pos hr, hlisted]
    have hold : event ∈ m.eventsOf record ↔ 0 < (m.eventsOf record).count event :=
      List.count_pos_iff.symm
    have hnew : event ∈ info.getEvents ↔ 0 < info.getEvents.count event :=
      List.count_pos_iff.symm
    unfold updatedCount
    simp only [hold, hnew]
    split_ifs <;> omega
  · rw [if_neg hr, if_neg hr]

/-- **An update keeps the index consistent exactly when** no name of the new
list is given fewer times than before. -/
theorem indexConsistent_update_iff (h : m.IndexConsistent)
    {record : SubscriberRecordPtr} (hrecord : record ∈ m.subscribers)
    (info : CommonEventSubscribeInfo) (eventRecordInfo : EventRecordInfo) :
    (m.updateSubscriberRecordLocked S info eventRecordInfo record).IndexConsistent
      ↔ ∀ event ∈ info.getEvents,
          (m.eventsOf record).count event ≤ info.getEvents.count event := by
  have hrec : (m.updateSubscriberRecordLocked S info eventRecordInfo record).eventsOf record
      = info.getEvents := by
    rw [eventsOf_update, if_pos rfl]
  have hev : ∀ r, r ≠ record →
      (m.updateSubscriberRecordLocked S info eventRecordInfo record).eventsOf r
        = m.eventsOf r := by
    intro r hr
    rw [eventsOf_update, if_neg hr]
  have hsub : (m.updateSubscriberRecordLocked S info eventRecordInfo record).subscribers
      = m.subscribers := rfl
  constructor
  · intro h' event hevent
    have hone := h'.index event record
    rw [count_updateSubscriberRecordLocked S h hrecord, if_pos rfl, hrec, hsub,
      if_pos (c := record ∈ m.subscribers ∧ event ∈ info.getEvents)
        ⟨hrecord, hevent⟩] at hone
    by_contra hlt
    rw [if_neg (fun hc => hlt hc.2)] at hone
    exact absurd hone (by decide)
  · intro hle
    refine ⟨fun event r => ?_, ?_, ?_⟩
    · rw [count_updateSubscriberRecordLocked S h hrecord, hsub]
      by_cases hr : r = record
      · subst hr
        rw [if_pos rfl, hrec]
        by_cases hevent : event ∈ info.getEvents
        · simp [hevent, hle event hevent, hrecord]
        · simp [hevent]
      · rw [if_neg hr, hev r hr]
        exact h.index event r
    · rw [hsub]
      rw [List.map_congr_left fun r _ => listenerOf_update S info eventRecordInfo record r]
      exact h.listeners
    · exact noEmptyList_insertEventSubscribers
        (noEmptyList_removeEventSubscribers h.noEmpty _) _

end Update

/-! ## A removal -/

theorem IndexConsistent.remove {m : SubscriberManager δ π} (h : m.IndexConsistent)
    (listener : Remote) : (m.removeSubscriberRecordLocked listener).IndexConsistent := by
  unfold removeSubscriberRecordLocked
  cases hfind : m.getSubscriberRecord listener with
  | none => exact h
  | some record =>
    obtain ⟨hrecord, hlistener⟩ := getSubscriberRecord_some hfind
    refine ⟨fun event r => ?_, ?_, ?_⟩
    · show (subscribersOf (List.foldl (eraseListener fun rec =>
          decide ((m.heap rec).commonEventListener = listener)) m.eventSubscribers
          (m.eventsOf record)) event).count r
        = if r ∈ m.subscribers.erase record ∧ event ∈ m.eventsOf r then 1 else 0
      rw [subscribersOf_foldl_eraseListener]
      have herase : r ∈ m.subscribers.erase record ↔ r ≠ record ∧ r ∈ m.subscribers :=
        h.nodup.mem_erase_iff
      by_cases hr : r = record
      · -- the record that goes is taken out where it was listed
        subst hr
        rw [if_neg (c := r ∈ m.subscribers.erase r ∧ event ∈ m.eventsOf r)
          (fun hc => (herase.mp hc.1).1 rfl)]
        by_cases hevent : event ∈ m.eventsOf r
        · rw [if_pos hevent]
          refine List.count_eq_zero.mpr fun hmem => ?_
          have hne := (List.mem_filter.mp hmem).2
          rw [show (m.heap r).commonEventListener = listener from hlistener] at hne
          exact absurd hne (by simp)
        · rw [if_neg hevent]
          exact List.count_eq_zero.mpr fun hmem => hevent (h.mem_subscribersOf.mp hmem).2
      · -- any other record has another listener
        have hmem : r ∈ m.subscribers.erase record ∧ event ∈ m.eventsOf r
            ↔ r ∈ m.subscribers ∧ event ∈ m.eventsOf r := by
          rw [herase]
          simp [hr]
        rw [if_congr hmem rfl rfl, ← h.index]
        split
        · by_cases hin : r ∈ m.subscribers
          · rw [List.count_filter]
            have hne : m.listenerOf r ≠ listener := by
              intro hl
              exact hr (h.listener_inj hin hrecord (hl.trans hlistener.symm))
            simpa [listenerOf] using hne
          · have hout : r ∉ subscribersOf m.eventSubscribers event :=
              fun hmem => hin (h.mem_subscribersOf.mp hmem).1
            rw [List.count_eq_zero.mpr hout]
            exact List.count_eq_zero.mpr fun hmem => hout (List.mem_filter.mp hmem).1
        · rfl
    · exact h.listeners.sublist (List.erase_sublist.map _)
    · exact noEmptyList_foldl_eraseListener h.noEmpty _ _

/-! ## The compaction -/

section Compaction

/-- **What the rounds of the compaction do**: new addresses in order, a copy
behind each, and one push per occurrence of a name. -/
structure Compacted (acc : SubscriberManager δ π) (rs : List SubscriberRecordPtr)
    (acc' : SubscriberManager δ π) : Prop where
  nextAddr : acc'.nextAddr = acc.nextAddr + rs.length
  subscribers : acc'.subscribers = acc.subscribers ++ List.range' acc.nextAddr rs.length
  heap_old : ∀ r < acc.nextAddr, acc'.heap r = acc.heap r
  heap_new : (List.range' acc.nextAddr rs.length).map acc'.heap = rs.map acc.heap
  index : ∀ event r, (subscribersOf acc'.eventSubscribers event).count r
    = (subscribersOf acc.eventSubscribers event).count r
      + if r ∈ List.range' acc.nextAddr rs.length then (acc'.eventsOf r).count event else 0
  noEmpty : NoEmptyList acc.eventSubscribers → NoEmptyList acc'.eventSubscribers

theorem compacted_foldl (acc : SubscriberManager δ π) (rs : List SubscriberRecordPtr)
    (hrs : ∀ r ∈ rs, r < acc.nextAddr) :
    Compacted acc rs (rs.foldl compactSubscriber acc) := by
  induction rs generalizing acc with
  | nil => exact ⟨rfl, by simp, fun _ _ => rfl, by simp, by simp, id⟩
  | cons first rs ih =>
    rw [List.foldl_cons]
    have hnext : (compactSubscriber acc first).nextAddr = acc.nextAddr + 1 := rfl
    have hne : ∀ r < acc.nextAddr, r ≠ acc.nextAddr := fun r hr => Nat.ne_of_lt hr
    have hheap : ∀ r < acc.nextAddr, (compactSubscriber acc first).heap r = acc.heap r := by
      intro r hr
      exact Function.update_of_ne (hne r hr) _ _
    have hhead : (compactSubscriber acc first).heap acc.nextAddr = acc.heap first :=
      Function.update_self _ _ _
    have hrest := ih (compactSubscriber acc first) fun r hr => by
      rw [hnext]
      exact Nat.lt_succ_of_lt (hrs r (List.mem_cons_of_mem _ hr))
    have hself := hrest.heap_old acc.nextAddr (by rw [hnext]; exact Nat.lt_succ_self _)
    refine ⟨?_, ?_, ?_, ?_, ?_, ?_⟩
    · rw [hrest.nextAddr, hnext, List.length_cons]
      exact Nat.succ_add_eq_add_succ _ _
    · rw [hrest.subscribers, hnext, List.length_cons, List.range'_succ]
      simp [compactSubscriber]
    · intro r hr
      rw [hrest.heap_old r (by rw [hnext]; exact Nat.lt_succ_of_lt hr), hheap r hr]
    · rw [List.length_cons, List.range'_succ, List.map_cons, List.map_cons, hself, hhead]
      have := hrest.heap_new
      rw [hnext] at this
      rw [this]
      refine congrArg _ (List.map_congr_left fun r hr => ?_)
      exact hheap r (hrs r (List.mem_cons_of_mem _ hr))
    · intro event r
      rw [hrest.index, hnext, List.length_cons, List.range'_succ]
      -- each copy is pushed to the lists of its names, once for each time it names them
      have hone : (subscribersOf (compactSubscriber acc first).eventSubscribers
            event).count r
          = (subscribersOf acc.eventSubscribers event).count r
            + if r = acc.nextAddr then (acc.eventsOf first).count event else 0 := by
        show (subscribersOf (List.foldl (pushEventSubscriber acc.nextAddr)
          acc.eventSubscribers (acc.eventsOf first)) event).count r = _
        rw [count_foldl_pushEventSubscriber]
      rw [hone]
      by_cases hr : r = acc.nextAddr
      · subst hr
        have hout : acc.nextAddr ∉ List.range' (acc.nextAddr + 1) rs.length := by
          simp [List.mem_range'_1]
        have hev : (List.foldl compactSubscriber (compactSubscriber acc first) rs).eventsOf
            acc.nextAddr = acc.eventsOf first := by
          unfold eventsOf
          rw [hself, hhead]
        simp [hout, hev]
      · simp [hr]
    · intro hno
      exact hrest.noEmpty (noEmptyList_foldl_pushEventSubscriber hno _)

variable {m : SubscriberManager δ π}

theorem compacted_compact (halloc : m.Allocated) :
    Compacted
      { m with
        subscribers := []
        eventSubscribers := ∅
        subscriberCounts := ∅
        hasCompacted := true } m.subscribers m.compactSubscriberDataStructures :=
  compacted_foldl _ m.subscribers halloc

/-- After the compaction the registered records are the copies. -/
theorem subscribers_compact (halloc : m.Allocated) :
    m.compactSubscriberDataStructures.subscribers
      = List.range' m.nextAddr m.subscribers.length := by
  simpa using (compacted_compact halloc).subscribers

/-- The copies hold what the records held, in their order. -/
theorem map_heap_compact (halloc : m.Allocated) :
    m.compactSubscriberDataStructures.subscribers.map m.compactSubscriberDataStructures.heap
      = m.subscribers.map m.heap := by
  rw [subscribers_compact halloc]
  exact (compacted_compact halloc).heap_new

/-- Each copy is listed under a name as often as it gives it. -/
theorem count_compact (halloc : m.Allocated) (event : String) (r : SubscriberRecordPtr) :
    (subscribersOf m.compactSubscriberDataStructures.eventSubscribers event).count r
      = if r ∈ m.compactSubscriberDataStructures.subscribers
        then (m.compactSubscriberDataStructures.eventsOf r).count event else 0 := by
  rw [(compacted_compact halloc).index, subscribers_compact halloc]
  show (subscribersOf ∅ event).count r + _ = _
  simp [subscribersOf]

/-- **The compaction leaves a consistent index exactly when** no registered
record gives a name twice. -/
theorem indexConsistent_compact_iff (h : m.IndexConsistent) (halloc : m.Allocated) :
    m.compactSubscriberDataStructures.IndexConsistent
      ↔ ∀ r ∈ m.subscribers, (m.eventsOf r).Nodup := by
  have hheap := map_heap_compact halloc
  have hindex := count_compact halloc
  have hnoEmpty := (compacted_compact halloc).noEmpty noEmptyList_empty
  generalize m.compactSubscriberDataStructures = m' at hheap hindex hnoEmpty ⊢
  have hlisteners : m'.subscribers.map m'.listenerOf = m.subscribers.map m.listenerOf := by
    have hmap := congrArg (List.map (fun record : EventSubscriberRecord =>
      record.commonEventListener)) hheap
    rw [List.map_map, List.map_map] at hmap
    exact hmap
  have hnodup : (∀ r ∈ m.subscribers, (m.eventsOf r).Nodup)
      ↔ ∀ r ∈ m'.subscribers, (m'.eventsOf r).Nodup := by
    have hall : ∀ (m'' : SubscriberManager δ π),
        (∀ r ∈ m''.subscribers, (m''.eventsOf r).Nodup)
          ↔ ∀ record ∈ m''.subscribers.map m''.heap,
              record.eventSubscribeInfo.getEvents.Nodup := by
      intro m''
      rw [List.forall_mem_map]
      exact Iff.rfl
    rw [hall, hall, hheap]
  rw [hnodup]
  constructor
  · intro h' r hr
    refine List.nodup_iff_count_le_one.mpr fun event => ?_
    have hone := h'.index event r
    rw [hindex, if_pos hr] at hone
    rw [hone]
    split
    · exact Nat.le_refl 1
    · exact Nat.zero_le 1
  · intro hall
    refine ⟨fun event r => ?_, ?_, ?_⟩
    · rw [hindex]
      by_cases hr : r ∈ m'.subscribers
      · rw [if_pos hr]
        by_cases hevent : event ∈ m'.eventsOf r
        · rw [List.count_eq_one_of_mem (hall r hr) hevent, if_pos ⟨hr, hevent⟩]
        · rw [List.count_eq_zero.mpr hevent, if_neg fun hc => hevent hc.2]
      · rw [if_neg hr, if_neg fun hc => hr hc.1]
    · rw [hlisteners]
      exact h.listeners
    · exact hnoEmpty

end Compaction

/-! ## What no call breaks

Whatever names are repeated, the index never lists a record that is not
registered, or under a name it does not ask for. An entry of the index is
counted against the names of its record, so that an update may take out less
than an entry has, but never leaves more than the new names account for. -/

section Sound

variable {m : SubscriberManager δ π}

/-- **The bound on the index**: a registered record is listed under a name at
most as often as it gives the name, and any other record not at all. -/
def IndexBound (m : SubscriberManager δ π) : Prop :=
  ∀ event r, (subscribersOf m.eventSubscribers event).count r
    ≤ if r ∈ m.subscribers then (m.eventsOf r).count event else 0

namespace IndexBound

/-- What is listed is registered, under a name it asks for. -/
theorem mem_subscribersOf (h : m.IndexBound) {event : String} {r : SubscriberRecordPtr}
    (hr : r ∈ subscribersOf m.eventSubscribers event) :
    r ∈ m.subscribers ∧ event ∈ m.eventsOf r := by
  have hpos := List.count_pos_iff.mpr hr
  have hle := h event r
  by_cases hin : r ∈ m.subscribers
  · rw [if_pos hin] at hle
    exact ⟨hin, List.count_pos_iff.mp (Nat.lt_of_lt_of_le hpos hle)⟩
  · rw [if_neg hin] at hle
    exact absurd hpos (Nat.not_lt.mpr hle)

/-- Only the names of registered records matter. -/
theorem congr (h : m.IndexBound) {m' : SubscriberManager δ π}
    (hidx : m'.eventSubscribers = m.eventSubscribers) (hsub : m'.subscribers = m.subscribers)
    (hev : ∀ r ∈ m.subscribers, m'.eventsOf r = m.eventsOf r) : m'.IndexBound := by
  intro event r
  rw [hidx, hsub]
  refine (h event r).trans (Nat.le_of_eq ?_)
  by_cases hr : r ∈ m.subscribers
  · rw [if_pos hr, if_pos hr, hev r hr]
  · rw [if_neg hr, if_neg hr]

/-- A first subscription. -/
theorem insert (h : m.IndexBound) {record : SubscriberRecordPtr}
    (hrecord : record ∉ m.subscribers) (counts : Dict Pid ℕ) :
    IndexBound
      { m with
        eventSubscribers :=
          insertEventSubscribers m.eventSubscribers record (m.eventsOf record)
        subscribers := m.subscribers ++ [record]
        subscriberCounts := counts } := by
  intro event r
  show (subscribersOf (insertEventSubscribers m.eventSubscribers record _) event).count r
    ≤ if r ∈ m.subscribers ++ [record] then (m.eventsOf r).count event else 0
  rw [count_insertEventSubscribers]
  have hle := h event r
  by_cases hr : r = record
  · subst hr
    rw [if_neg hrecord] at hle
    have hmem : r ∈ m.subscribers ++ [r] := by simp
    rw [if_pos hmem]
    split
    next hcond => exact List.count_pos_iff.mpr hcond.2.1
    next => exact hle.trans (Nat.zero_le _)
  · rw [if_neg fun hcond => hr hcond.1]
    refine hle.trans (Nat.le_of_eq ?_)
    have hmem : r ∈ m.subscribers ++ [record] ↔ r ∈ m.subscribers := by simp [hr]
    rw [if_congr hmem rfl rfl]

/-- An update. -/
theorem update (h : m.IndexBound) (S : StdSort) {record : SubscriberRecordPtr}
    (hrecord : record ∈ m.subscribers) (info : CommonEventSubscribeInfo)
    (eventRecordInfo : EventRecordInfo) :
    IndexBound (m.updateSubscriberRecordLocked S info eventRecordInfo record) := by
  intro event r
  show _ ≤ if r ∈ m.subscribers then _ else 0
  rw [count_update, eventsOf_update]
  have hle := h event r
  by_cases hr : r = record
  · subst hr
    rw [if_pos hrecord] at hle ⊢
    rw [if_pos rfl, if_pos rfl]
    exact updatedCount_le hle
  · rw [if_neg hr, if_neg hr]
    exact hle

/-- A removal. -/
theorem remove (h : m.IndexBound) (listener : Remote) :
    IndexBound (m.removeSubscriberRecordLocked listener) := by
  unfold removeSubscriberRecordLocked
  cases hfind : m.getSubscriberRecord listener with
  | none => exact h
  | some record =>
    obtain ⟨hrecord, hlistener⟩ := getSubscriberRecord_some hfind
    intro event r
    show (subscribersOf (List.foldl (eraseListener fun rec =>
        decide ((m.heap rec).commonEventListener = listener)) m.eventSubscribers
        (m.eventsOf record)) event).count r
      ≤ if r ∈ m.subscribers.erase record then (m.eventsOf r).count event else 0
    rw [subscribersOf_foldl_eraseListener]
    have hle := h event r
    by_cases hr : r = record
    · -- the record that goes was listed under its own names alone
      subst hr
      refine (Nat.le_of_eq ?_).trans (Nat.zero_le _)
      refine List.count_eq_zero.mpr fun hmem => ?_
      split at hmem
      next =>
        have hne := (List.mem_filter.mp hmem).2
        rw [show (m.heap r).commonEventListener = listener from hlistener] at hne
        exact absurd hne (by simp)
      next hevent => exact hevent (h.mem_subscribersOf hmem).2
    · have hmem : r ∈ m.subscribers.erase record ↔ r ∈ m.subscribers :=
        List.mem_erase_of_ne hr
      rw [if_congr hmem rfl rfl]
      refine le_trans ?_ hle
      split
      next => exact List.Sublist.count_le _ List.filter_sublist
      next => exact Nat.le_refl _

end IndexBound

/-- **The index lists nothing stale.** -/
structure IndexSound (m : SubscriberManager δ π) : Prop where
  /-- A registered record is listed under a name at most as often as it gives
  the name, and any other record not at all. -/
  index : ∀ event r, (subscribersOf m.eventSubscribers event).count r
    ≤ if r ∈ m.subscribers then (m.eventsOf r).count event else 0
  /-- No two registered records share a listener. -/
  listeners : (m.subscribers.map m.listenerOf).Nodup
  allocated : m.Allocated

namespace IndexSound

theorem bound (h : IndexSound m) : m.IndexBound := h.index

/-- What is listed is registered, under a name it asks for. -/
theorem mem_subscribersOf (h : IndexSound m) {event : String} {r : SubscriberRecordPtr}
    (hr : r ∈ subscribersOf m.eventSubscribers event) :
    r ∈ m.subscribers ∧ event ∈ m.eventsOf r :=
  h.bound.mem_subscribersOf hr

theorem listener_inj (h : IndexSound m) {r r' : SubscriberRecordPtr}
    (hr : r ∈ m.subscribers) (hr' : r' ∈ m.subscribers)
    (hl : m.listenerOf r = m.listenerOf r') : r = r' :=
  List.inj_on_of_nodup_map h.listeners hr hr' hl

/-- Only the names and the listeners of registered records matter. -/
theorem congr (h : IndexSound m) {m' : SubscriberManager δ π}
    (hidx : m'.eventSubscribers = m.eventSubscribers)
    (hsub : m'.subscribers = m.subscribers) (hnext : m.nextAddr ≤ m'.nextAddr)
    (hev : ∀ r ∈ m.subscribers, m'.eventsOf r = m.eventsOf r)
    (hl : ∀ r ∈ m.subscribers, m'.listenerOf r = m.listenerOf r) : IndexSound m' := by
  refine ⟨h.bound.congr hidx hsub hev, ?_, fun r hr => ?_⟩
  · rw [hsub, List.map_congr_left hl]
    exact h.listeners
  · rw [hsub] at hr
    exact Nat.lt_of_lt_of_le (h.allocated r hr) hnext

/-- A first subscription. -/
theorem insert (h : IndexSound m) {record : SubscriberRecordPtr}
    (hrecord : record ∉ m.subscribers) (halloc : record < m.nextAddr)
    (hlistener : ∀ r ∈ m.subscribers, m.listenerOf r ≠ m.listenerOf record)
    (counts : Dict Pid ℕ) :
    IndexSound
      { m with
        eventSubscribers :=
          insertEventSubscribers m.eventSubscribers record (m.eventsOf record)
        subscribers := m.subscribers ++ [record]
        subscriberCounts := counts } := by
  refine ⟨h.bound.insert hrecord counts, ?_, ?_⟩
  · exact nodup_listeners_concat h.listeners hlistener
  · intro r hr
    rcases List.mem_append.mp hr with hr | hr
    · exact h.allocated r hr
    · obtain rfl : r = record := by simpa using hr
      exact halloc

/-- An update. -/
theorem update (h : IndexSound m) (S : StdSort) {record : SubscriberRecordPtr}
    (hrecord : record ∈ m.subscribers) (info : CommonEventSubscribeInfo)
    (eventRecordInfo : EventRecordInfo) :
    IndexSound (m.updateSubscriberRecordLocked S info eventRecordInfo record) := by
  refine ⟨h.bound.update S hrecord info eventRecordInfo, ?_, h.allocated⟩
  show (m.subscribers.map _).Nodup
  rw [List.map_congr_left fun r _ => listenerOf_update S info eventRecordInfo record r]
  exact h.listeners

/-- A removal. -/
theorem remove (h : IndexSound m) (listener : Remote) :
    IndexSound (m.removeSubscriberRecordLocked listener) := by
  refine ⟨h.bound.remove listener, ?_, ?_⟩
  · unfold removeSubscriberRecordLocked
    cases m.getSubscriberRecord listener with
    | none => exact h.listeners
    | some record => exact h.listeners.sublist (List.erase_sublist.map _)
  · unfold removeSubscriberRecordLocked
    cases m.getSubscriberRecord listener with
    | none => exact h.allocated
    | some record => exact fun r hr => h.allocated r (List.mem_of_mem_erase hr)

/-- The compaction. -/
theorem compact (h : IndexSound m) : IndexSound m.compactSubscriberDataStructures := by
  refine ⟨fun event r => (count_compact h.allocated event r).le, ?_, fun r hr => ?_⟩
  · have hmap := congrArg (List.map (fun record : EventSubscriberRecord =>
      record.commonEventListener)) (map_heap_compact h.allocated)
    rw [List.map_map, List.map_map] at hmap
    exact hmap ▸ h.listeners
  · rw [subscribers_compact h.allocated] at hr
    rw [(compacted_compact h.allocated).nextAddr]
    exact (List.mem_range'_1.mp hr).2

end IndexSound

/-- **The record of a subscription that is not refused** is registered, for
the listener and with what was subscribed. -/
theorem insertSubscriber_some (S : StdSort) {maxSubscriberNum : ℕ} {info : CommonEventSubscribeInfo}
    {listener : Option Remote} {eventRecordInfo : EventRecordInfo} {r : SubscriberRecordPtr}
    {m' : SubscriberManager δ π}
    (h : m.insertSubscriber S maxSubscriberNum (some info) listener eventRecordInfo
      = (some r, m')) :
    r ∈ m'.subscribers ∧ (m'.heap r).eventSubscribeInfo = info
      ∧ listener = some (m'.listenerOf r) := by
  cases listener with
  | none => cases h
  | some listener =>
    unfold insertSubscriber at h
    dsimp only at h
    split at h
    · cases h
    · cases hfind : m.getSubscriberRecord listener with
      | some record =>
        rw [hfind] at h
        cases h
        obtain ⟨hrecord, hlistener⟩ := getSubscriberRecord_some hfind
        refine ⟨hrecord, ?_, ?_⟩
        · simp [updateSubscriberRecordLocked]
        · simpa [listenerOf, updateSubscriberRecordLocked] using hlistener.symm
      | none =>
        rw [hfind] at h
        dsimp only at h
        rcases insertSubscriberRecordLocked_cases S
            (m := { m with
              nextAddr := m.nextAddr + 1
              heap := Function.update m.heap m.nextAddr
                { eventSubscribeInfo := info
                  commonEventListener := listener
                  eventRecordInfo := eventRecordInfo } })
            maxSubscriberNum info.getEvents m.nextAddr with hins | ⟨killed, counts, hins⟩
        · rw [hins] at h
          cases h
        · rw [hins] at h
          cases h
          exact ⟨by simp, by simp, by simp [listenerOf]⟩
end Sound

end SubscriberManager

/-! ## The manager as a machine -/

namespace SubscriberIndex

variable {δ π : Type} (S : StdSort)

/-- One call on the manager. The limit is a system parameter, read anew by
each call. -/
inductive Op where
  | insertSubscriber (maxSubscriberNum : ℕ)
      (eventSubscribeInfo : Option CommonEventSubscribeInfo)
      (commonEventListener : Option Remote) (eventRecordInfo : EventRecordInfo)
  | removeSubscriber (commonEventListener : Option Remote)
  | compactSubscriberDataStructures

/-- The manager after a call. -/
def apply (m : SubscriberManager δ π) : Op → SubscriberManager δ π
  | .insertSubscriber maxSubscriberNum info listener eventRecordInfo =>
    (m.insertSubscriber S maxSubscriberNum info listener eventRecordInfo).2
  | .removeSubscriber listener => m.removeSubscriber listener
  | .compactSubscriberDataStructures => m.compactSubscriberDataStructures

/-- **The manager, one call after another.** -/
def machine : Machine (SubscriberManager δ π) Op where
  init := {}
  step m op := some (apply S m op)

/-- **Where a call keeps the index consistent**: an update names nothing
fewer times than the subscription it replaces, and the compaction meets no
subscription that names something twice. -/
def indexOk (m : SubscriberManager δ π) : Op → Prop
  | .insertSubscriber _ (some info) (some listener) _ =>
    info.getEvents.length ≤ SUBSCRIBE_EVENT_MAX_NUM →
      ∀ record, m.getSubscriberRecord listener = some record →
        ∀ event ∈ info.getEvents,
          (m.eventsOf record).count event ≤ info.getEvents.count event
  | .insertSubscriber _ _ _ _ => True
  | .removeSubscriber _ => True
  | .compactSubscriberDataStructures => ∀ r ∈ m.subscribers, (m.eventsOf r).Nodup

/-- The four things a call of `InsertSubscriber` can come to. -/
theorem insertSubscriber_cases (m : SubscriberManager δ π) (maxSubscriberNum : ℕ)
    (info : CommonEventSubscribeInfo) (listener : Remote)
    (eventRecordInfo : EventRecordInfo) :
    ((info.getEvents.length = 0 ∨ info.getEvents.length > SUBSCRIBE_EVENT_MAX_NUM) ∧
      (m.insertSubscriber S maxSubscriberNum (some info) (some listener)
        eventRecordInfo).2 = m) ∨
    (info.getEvents.length ≤ SUBSCRIBE_EVENT_MAX_NUM ∧
      ∃ record, m.getSubscriberRecord listener = some record ∧
        (m.insertSubscriber S maxSubscriberNum (some info) (some listener)
          eventRecordInfo).2
          = m.updateSubscriberRecordLocked S info eventRecordInfo record) ∨
    (m.getSubscriberRecord listener = none ∧
      ∃ made : SubscriberManager δ π,
        made = { m with
          nextAddr := m.nextAddr + 1
          heap := Function.update m.heap m.nextAddr
            { eventSubscribeInfo := info
              commonEventListener := listener
              eventRecordInfo := eventRecordInfo } } ∧
        ((m.insertSubscriber S maxSubscriberNum (some info) (some listener)
            eventRecordInfo).2 = made ∨
          ∃ counts,
            (m.insertSubscriber S maxSubscriberNum (some info) (some listener)
              eventRecordInfo).2
              = { made with
                  eventSubscribers := insertEventSubscribers made.eventSubscribers
                    m.nextAddr info.getEvents
                  subscribers := made.subscribers ++ [m.nextAddr]
                  subscriberCounts := counts })) := by
  unfold SubscriberManager.insertSubscriber
  dsimp only
  by_cases hlen : info.getEvents.length = 0 ∨
      info.getEvents.length > SUBSCRIBE_EVENT_MAX_NUM
  · exact Or.inl ⟨hlen, by rw [if_pos hlen]⟩
  · rw [if_neg hlen]
    obtain ⟨-, hle⟩ := not_or.mp hlen
    cases hfind : m.getSubscriberRecord listener with
    | some record => exact Or.inr (Or.inl ⟨Nat.le_of_not_gt hle, record, rfl, rfl⟩)
    | none =>
      refine Or.inr (Or.inr ⟨rfl, _, rfl, ?_⟩)
      rcases SubscriberManager.insertSubscriberRecordLocked_cases S
          (m := { m with
            nextAddr := m.nextAddr + 1
            heap := Function.update m.heap m.nextAddr
              { eventSubscribeInfo := info
                commonEventListener := listener
                eventRecordInfo := eventRecordInfo } })
          maxSubscriberNum info.getEvents m.nextAddr with hins | ⟨killed, counts, hins⟩
      · rw [hins]
        exact Or.inl rfl
      · rw [hins]
        exact Or.inr ⟨counts, rfl⟩

/-- Every call keeps the registered records allocated. -/
theorem allocated_apply {m : SubscriberManager δ π} (h : m.Allocated) (op : Op) :
    (apply S m op).Allocated := by
  cases op with
  | insertSubscriber maxSubscriberNum info listener eventRecordInfo =>
    cases info with
    | none => exact h
    | some info =>
      cases listener with
      | none => exact h
      | some listener =>
        rw [apply]
        rcases insertSubscriber_cases S m maxSubscriberNum info listener eventRecordInfo
          with ⟨-, heq⟩ | ⟨-, record, -, heq⟩ | ⟨-, made, hmade, heq | ⟨counts, heq⟩⟩
        · rw [heq]
          exact h
        · rw [heq]
          exact h
        · rw [heq, hmade]
          exact fun r hr => Nat.lt_succ_of_lt (h r hr)
        · rw [heq, hmade]
          intro r hr
          rcases List.mem_append.mp hr with hr | hr
          · exact Nat.lt_succ_of_lt (h r hr)
          · obtain rfl : r = m.nextAddr := by simpa using hr
            exact Nat.lt_succ_self _
  | removeSubscriber listener =>
    cases listener with
    | none => exact h
    | some listener =>
      rw [apply, SubscriberManager.removeSubscriber,
        SubscriberManager.removeSubscriberRecordLocked]
      cases m.getSubscriberRecord listener with
      | none => exact h
      | some record => exact fun r hr => h r (List.mem_of_mem_erase hr)
  | compactSubscriberDataStructures =>
    have hc := SubscriberManager.compacted_compact h
    intro r hr
    have hsub : r ∈ List.range' m.nextAddr m.subscribers.length := by
      have := hc.subscribers ▸ hr
      simpa using this
    have hnext : (apply S m .compactSubscriberDataStructures).nextAddr
        = m.nextAddr + m.subscribers.length := hc.nextAddr
    rw [hnext]
    exact (List.mem_range'_1.mp hsub).2

/-- **No call makes the index list anything stale.** -/
theorem indexSound_apply {m : SubscriberManager δ π} (h : m.IndexSound) (op : Op) :
    (apply S m op).IndexSound := by
  cases op with
  | insertSubscriber maxSubscriberNum info listener eventRecordInfo =>
    cases info with
    | none => exact h
    | some info =>
      cases listener with
      | none => exact h
      | some listener =>
        have hfresh : ∀ r ∈ m.subscribers, r ≠ m.nextAddr :=
          fun r hr => Nat.ne_of_lt (h.allocated r hr)
        rw [apply]
        rcases insertSubscriber_cases S m maxSubscriberNum info listener eventRecordInfo
          with ⟨-, heq⟩ | ⟨-, record, hfind, heq⟩ | ⟨hfind, made, hmade, heq⟩
        · rw [heq]
          exact h
        · rw [heq]
          exact h.update S (SubscriberManager.getSubscriberRecord_some hfind).1 info
            eventRecordInfo
        · have hmade' : made.IndexSound := by
            rw [hmade]
            refine h.congr rfl rfl (Nat.le_succ _) (fun r hr => ?_) (fun r hr => ?_)
            · simp [SubscriberManager.eventsOf, Function.update_of_ne (hfresh r hr)]
            · simp [SubscriberManager.listenerOf, Function.update_of_ne (hfresh r hr)]
          rcases heq with heq | ⟨counts, heq⟩
          · rw [heq]
            exact hmade'
          · have hev : made.eventsOf m.nextAddr = info.getEvents := by
              rw [hmade]
              simp [SubscriberManager.eventsOf]
            rw [heq, ← hev]
            refine hmade'.insert ?_ ?_ ?_ counts
            · rw [hmade]
              exact fun hmem => hfresh _ hmem rfl
            · rw [hmade]
              exact Nat.lt_succ_self _
            · intro r hr
              rw [hmade] at hr ⊢
              have hne := SubscriberManager.getSubscriberRecord_none hfind r hr
              simpa [SubscriberManager.listenerOf, Function.update_of_ne (hfresh r hr)] using hne
  | removeSubscriber listener =>
    cases listener with
    | none => exact h
    | some listener => exact h.remove listener
  | compactSubscriberDataStructures => exact h.compact

/-- **A call from a consistent index leads to a consistent index exactly
when it is `indexOk`.** -/
theorem indexConsistent_apply_iff {m : SubscriberManager δ π} (halloc : m.Allocated)
    (h : m.IndexConsistent) (op : Op) :
    (apply S m op).IndexConsistent ↔ indexOk m op := by
  cases op with
  | insertSubscriber maxSubscriberNum info listener eventRecordInfo =>
    cases info with
    | none => exact ⟨fun _ => trivial, fun _ => h⟩
    | some info =>
      cases listener with
      | none => exact ⟨fun _ => trivial, fun _ => h⟩
      | some listener =>
        have hfresh : ∀ r ∈ m.subscribers, r ≠ m.nextAddr :=
          fun r hr => Nat.ne_of_lt (halloc r hr)
        rw [apply]
        rcases insertSubscriber_cases S m maxSubscriberNum info listener eventRecordInfo
          with ⟨hlen, heq⟩ | ⟨hlen, record, hfind, heq⟩ | ⟨hfind, made, hmade, heq⟩
        · -- the list of names is refused
          rw [heq]
          refine ⟨fun _ hle record _ event hevent => ?_, fun _ => h⟩
          rcases hlen with hlen | hlen
          · rw [List.length_eq_zero_iff.mp hlen] at hevent
            exact absurd hevent (List.not_mem_nil)
          · exact absurd hlen (Nat.not_lt.mpr hle)
        · rw [heq, SubscriberManager.indexConsistent_update_iff S h
            (SubscriberManager.getSubscriberRecord_some hfind).1]
          constructor
          · intro hle _ record' hfind'
            obtain rfl : record = record' := Option.some.inj (hfind.symm.trans hfind')
            exact hle
          · intro hok
            exact hok hlen record hfind
        · have hok : indexOk m (.insertSubscriber maxSubscriberNum (some info)
              (some listener) eventRecordInfo) := by
            intro _ record hfind'
            exact absurd (hfind.symm.trans hfind') (by simp)
          have hmade' : made.IndexConsistent := by
            refine h.congr_heap (by rw [hmade]) (by rw [hmade]) fun r hr => ?_
            rw [hmade]
            exact Function.update_of_ne (hfresh r hr) _ _
          refine ⟨fun _ => hok, fun _ => ?_⟩
          rcases heq with heq | ⟨counts, heq⟩
          · rw [heq]
            exact hmade'
          · have hev : made.eventsOf m.nextAddr = info.getEvents := by
              rw [hmade]
              simp [SubscriberManager.eventsOf]
            have hl : made.listenerOf m.nextAddr = listener := by
              rw [hmade]
              simp [SubscriberManager.listenerOf]
            have hsub : made.subscribers = m.subscribers := by rw [hmade]
            rw [heq, ← hev]
            refine hmade'.insert ?_ ?_ counts
            · rw [hsub]
              exact fun hmem => hfresh _ hmem rfl
            · intro r hr
              rw [hsub] at hr
              rw [hl, hmade]
              have := SubscriberManager.getSubscriberRecord_none hfind r hr
              simpa [SubscriberManager.listenerOf,
                Function.update_of_ne (hfresh r hr)] using this
  | removeSubscriber listener =>
    cases listener with
    | none => exact ⟨fun _ => trivial, fun _ => h⟩
    | some listener => exact ⟨fun _ => trivial, fun _ => h.remove listener⟩
  | compactSubscriberDataStructures =>
    exact SubscriberManager.indexConsistent_compact_iff h halloc

theorem indexConsistent_init :
    ((machine S).init : SubscriberManager δ π).IndexConsistent :=
  ⟨by simp [machine, subscribersOf], by simp [machine], noEmptyList_empty⟩

/-- **The index is consistent throughout a run exactly when** every call of
the run is `indexOk` in the state it meets. -/
theorem index_consistent_iff_indexOk (ops : List Op) :
    (∀ pre post (m : SubscriberManager δ π), ops = pre ++ post →
        (machine S).run pre = some m → m.IndexConsistent)
      ↔ (machine (δ := δ) (π := π) S).Guarded indexOk ops := by
  obtain ⟨m, hm⟩ := (machine (δ := δ) (π := π) S).run_total
    (fun m op => ⟨apply S m op, rfl⟩) ops
  refine Machine.forall_prefix_iff_guarded (indexConsistent_init S) ?_ hm
  intro m op m' hreach h hstep
  have halloc : m.Allocated := by
    refine Machine.invariant (I := SubscriberManager.Allocated) ?_ ?_ hreach
    · exact fun r hr => absurd hr (List.not_mem_nil)
    · intro m op m' h hstep
      cases hstep
      exact allocated_apply S h op
  cases hstep
  exact indexConsistent_apply_iff S halloc h op

/-- A listener that subscribes to one name twice, and then to it once. -/
def repeatedThenOnce : List Op :=
  [.insertSubscriber 5000 (some { matchingSkills := { events := ["e", "e"] } })
      (some ⟨1⟩) {},
    .insertSubscriber 5000 (some { matchingSkills := { events := ["e"] } })
      (some ⟨1⟩) {}]

/-- **The index is not consistent in every reachable state**: after
`repeatedThenOnce` the listener is registered for the name and is not listed
under it. -/
theorem index_inconsistent :
    ¬ ∀ (ops : List Op) (m : SubscriberManager Unit Unit),
      (machine .insertion).run ops = some m → m.IndexConsistent := by
  intro hall
  have h := (hall repeatedThenOnce _ rfl).index "e" 0
  revert h
  decide

end SubscriberIndex

end CommonEventService

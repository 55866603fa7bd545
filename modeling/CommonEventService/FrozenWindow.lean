import CommonEventService.Lib.RetentionWindow
import CommonEventService.UnorderedDelivery

/-!
# What the buffers keep of a frozen subscriber's events

`InsertFrozenEvents` and `InsertFrozenEventsMap` keep the events of the last
`FREEZE_EVENT_TIMEOUT` seconds: when the oldest event of a subscriber has
become too old, it goes. One event goes at an insertion, and not every event
that is too old, so an event can stay that has left the window. What is kept
is the window for as long as no event finds two of the window before it too
old.
-/

namespace CommonEventService

open RetentionWindow

variable {δ π : Type}

namespace FrozenBuffer

/-- Behind the events kept, one more is kept as in a window that lets go of
one event at a time. -/
theorem emplaceBack_eq_pushTrimmingOne (events : List (CommonEventRecord δ π))
    (record : CommonEventRecord δ π) :
    emplaceBack events record
      = pushTrimmingOne (·.recordTime) FREEZE_EVENT_TIMEOUT events record := by
  unfold emplaceBack pushTrimmingOne RetentionWindow.expired
  cases events with
  | nil => simp
  | cons first rest => simp

end FrozenBuffer

/-! ## A sequence of insertions -/

/-- One insertion into a buffer. -/
inductive FrozenCall (δ π : Type) where
  | insertFrozenEvents (subscriberRecord : SubscriberRecordPtr)
      (eventRecord : CommonEventRecord δ π)
  | insertFrozenEventsMap (subscriberRecord : SubscriberRecordPtr)
      (eventRecord : CommonEventRecord δ π)

namespace SubscriberManager

variable (m : SubscriberManager δ π)

/-- The manager after an insertion. -/
def frozenCall : FrozenCall δ π → SubscriberManager δ π
  | .insertFrozenEvents subscriberRecord eventRecord =>
    m.insertFrozenEvents subscriberRecord eventRecord
  | .insertFrozenEventsMap subscriberRecord eventRecord =>
    m.insertFrozenEventsMap subscriberRecord eventRecord

/-- The manager after a sequence of insertions. -/
def frozenCalls (calls : List (FrozenCall δ π)) : SubscriberManager δ π :=
  calls.foldl frozenCall m

/-- The event that an insertion keeps under a uid for a subscriber. -/
def insertedOfUid (uid : Uid) (l : Remote) : FrozenCall δ π → Option (CommonEventRecord δ π)
  | .insertFrozenEvents subscriberRecord eventRecord =>
    if uid = (m.heap subscriberRecord).eventRecordInfo.uid
        ∧ l = (m.heap subscriberRecord).commonEventListener
    then some eventRecord else none
  | .insertFrozenEventsMap _ _ => none

/-- The event that an insertion keeps under a pid for a subscriber. -/
def insertedOfPid (pid : Pid) (l : Remote) : FrozenCall δ π → Option (CommonEventRecord δ π)
  | .insertFrozenEvents _ _ => none
  | .insertFrozenEventsMap subscriberRecord eventRecord =>
    if pid = (m.heap subscriberRecord).eventRecordInfo.pid
        ∧ l = (m.heap subscriberRecord).commonEventListener
    then some eventRecord else none

/-- The insertions leave the records of the subscribers. -/
theorem frozenCalls_heap (calls : List (FrozenCall δ π)) :
    (m.frozenCalls calls).heap = m.heap := by
  unfold frozenCalls
  refine List.foldlRecOn (motive := fun m' => m'.heap = m.heap) calls frozenCall rfl ?_
  intro m' hm' call _
  rw [← hm']
  cases call <;> rfl

theorem frozenCalls_concat (calls : List (FrozenCall δ π)) (call : FrozenCall δ π) :
    m.frozenCalls (calls ++ [call]) = (m.frozenCalls calls).frozenCall call := by
  unfold frozenCalls
  rw [List.foldl_append]
  rfl

/-- **An insertion** keeps its event in the one buffer, for its subscriber. -/
theorem keptFor_frozenCall (call : FrozenCall δ π) (uid : Uid) (pid : Pid) (l : Remote) :
    (m.frozenCall call).frozenEvents.keptFor uid l
        = (m.insertedOfUid uid l call).elim (m.frozenEvents.keptFor uid l)
          (pushTrimmingOne (·.recordTime) FREEZE_EVENT_TIMEOUT (m.frozenEvents.keptFor uid l))
      ∧ (m.frozenCall call).frozenEventsMap.keptFor pid l
        = (m.insertedOfPid pid l call).elim (m.frozenEventsMap.keptFor pid l)
          (pushTrimmingOne (·.recordTime) FREEZE_EVENT_TIMEOUT
            (m.frozenEventsMap.keptFor pid l)) := by
  cases call with
  | insertFrozenEvents subscriberRecord eventRecord =>
    refine ⟨?_, rfl⟩
    unfold frozenCall SubscriberManager.insertFrozenEvents insertedOfUid
    dsimp only
    rw [FrozenBuffer.keptFor_insert_ite]
    split
    next hsame =>
      rw [← hsame.1]
      exact FrozenBuffer.emplaceBack_eq_pushTrimmingOne _ _
    next => rfl
  | insertFrozenEventsMap subscriberRecord eventRecord =>
    refine ⟨rfl, ?_⟩
    unfold frozenCall SubscriberManager.insertFrozenEventsMap insertedOfPid
    dsimp only
    rw [FrozenBuffer.keptFor_insert_ite]
    split
    next hsame =>
      rw [← hsame.1]
      exact FrozenBuffer.emplaceBack_eq_pushTrimmingOne _ _
    next => rfl

/-- A sequence of insertions and one more. -/
theorem keptFor_frozenCalls_concat (calls : List (FrozenCall δ π)) (call : FrozenCall δ π)
    (uid : Uid) (pid : Pid) (l : Remote) :
    (m.frozenCalls (calls ++ [call])).frozenEvents.keptFor uid l
        = (m.insertedOfUid uid l call).elim ((m.frozenCalls calls).frozenEvents.keptFor uid l)
          (pushTrimmingOne (·.recordTime) FREEZE_EVENT_TIMEOUT
            ((m.frozenCalls calls).frozenEvents.keptFor uid l))
      ∧ (m.frozenCalls (calls ++ [call])).frozenEventsMap.keptFor pid l
        = (m.insertedOfPid pid l call).elim ((m.frozenCalls calls).frozenEventsMap.keptFor pid l)
          (pushTrimmingOne (·.recordTime) FREEZE_EVENT_TIMEOUT
            ((m.frozenCalls calls).frozenEventsMap.keptFor pid l)) := by
  have huid : (m.frozenCalls calls).insertedOfUid uid l = m.insertedOfUid uid l := by
    funext call
    unfold insertedOfUid
    rw [frozenCalls_heap]
  have hpid : (m.frozenCalls calls).insertedOfPid pid l = m.insertedOfPid pid l := by
    funext call
    unfold insertedOfPid
    rw [frozenCalls_heap]
  rw [frozenCalls_concat, ← huid, ← hpid]
  exact (m.frozenCalls calls).keptFor_frozenCall call uid pid l

theorem zero_le_FREEZE_EVENT_TIMEOUT : 0 ≤ FREEZE_EVENT_TIMEOUT := by decide

/-- **The buffers keep the window** of a subscriber's events: after each
insertion of a sequence they hold, in the order of the insertions, the events of
the last `FREEZE_EVENT_TIMEOUT` seconds. -/
def KeepsWindow (calls : List (FrozenCall δ π)) (uid : Uid) (pid : Pid) (l : Remote) : Prop :=
  ∀ pre, pre <+: calls →
    (m.frozenCalls pre).frozenEvents.keptFor uid l
        = window (·.recordTime) FREEZE_EVENT_TIMEOUT (pre.filterMap (m.insertedOfUid uid l))
      ∧ (m.frozenCalls pre).frozenEventsMap.keptFor pid l
        = window (·.recordTime) FREEZE_EVENT_TIMEOUT (pre.filterMap (m.insertedOfPid pid l))

/-- No event of a sequence finds two events of the window before it too old. -/
def OneExpires (events : List (CommonEventRecord δ π)) : Prop :=
  ∀ pre newest, pre ++ [newest] <+: events →
    ((window (·.recordTime) FREEZE_EVENT_TIMEOUT pre).filter
      (expired (·.recordTime) FREEZE_EVENT_TIMEOUT newest)).length ≤ 1

/-- **The buffers keep the window exactly where** no event that is inserted
finds two events of the window before it too old. -/
theorem keepsWindow_iff (calls : List (FrozenCall δ π)) (uid : Uid) (pid : Pid) (l : Remote)
    (hnothing : m.frozenEvents.keptFor uid l = [])
    (hnothing' : m.frozenEventsMap.keptFor pid l = [])
    (horder : Chronological (·.recordTime) (calls.filterMap (m.insertedOfUid uid l)))
    (horder' : Chronological (·.recordTime) (calls.filterMap (m.insertedOfPid pid l))) :
    m.KeepsWindow calls uid pid l
      ↔ OneExpires (calls.filterMap (m.insertedOfUid uid l))
        ∧ OneExpires (calls.filterMap (m.insertedOfPid pid l)) := by
  have huid := kept_eq_window_iff
    (fun calls => (m.frozenCalls calls).frozenEvents.keptFor uid l)
    zero_le_FREEZE_EVENT_TIMEOUT hnothing
    (fun calls call => (m.keptFor_frozenCalls_concat calls call uid pid l).1) horder
  have hpid := kept_eq_window_iff
    (fun calls => (m.frozenCalls calls).frozenEventsMap.keptFor pid l)
    zero_le_FREEZE_EVENT_TIMEOUT hnothing'
    (fun calls call => (m.keptFor_frozenCalls_concat calls call uid pid l).2) horder'
  unfold KeepsWindow OneExpires
  rw [← huid, ← hpid]
  exact ⟨fun h => ⟨fun pre hpre => (h pre hpre).1, fun pre hpre => (h pre hpre).2⟩,
    fun h pre hpre => ⟨h.1 pre hpre, h.2 pre hpre⟩⟩

/-- An event that is too old for the one behind it goes. -/
theorem keepsWindow_pair :
    ({} : SubscriberManager Unit Unit).KeepsWindow
      [.insertFrozenEvents 0 ⟨false, 0, (), (), 0, {}⟩,
        .insertFrozenEvents 0 ⟨false, 0, (), (), 31, {}⟩] 0 0 ⟨0⟩ := by
  refine (keepsWindow_iff {} _ 0 0 ⟨0⟩ rfl rfl (by unfold Chronological; decide)
    (by unfold Chronological; decide)).mpr ⟨?_, ?_⟩
  all_goals
    intro pre newest hpre
    have hlength := hpre.length_le.trans (List.length_filterMap_le _ _)
    rw [List.length_append] at hlength
    exact (List.filter_sublist.trans (window_sublist pre)).length_le.trans
      (Nat.succ_le_succ_iff.mp hlength)

/-- **Of two events that are too old one stays**: the third event finds both
out of its window, and lets go of the first. -/
theorem keepsWindow_fails :
    ¬ ∀ (m : SubscriberManager Unit Unit) (calls : List (FrozenCall Unit Unit)) (uid : Uid)
        (pid : Pid) (l : Remote),
      m.frozenEvents.keptFor uid l = [] → m.frozenEventsMap.keptFor pid l = [] →
      Chronological (·.recordTime) (calls.filterMap (m.insertedOfUid uid l)) →
      Chronological (·.recordTime) (calls.filterMap (m.insertedOfPid pid l)) →
      m.KeepsWindow calls uid pid l := by
  intro h
  have hkept := (h {} [.insertFrozenEvents 0 ⟨false, 0, (), (), 0, {}⟩,
      .insertFrozenEvents 0 ⟨false, 0, (), (), 1, {}⟩,
      .insertFrozenEvents 0 ⟨false, 0, (), (), 40, {}⟩] 0 0 ⟨0⟩ rfl rfl
    (by unfold Chronological; decide) (by unfold Chronological; decide) _
    (List.prefix_refl _)).1
  exact absurd (congrArg List.length hkept) (by decide)

end SubscriberManager

end CommonEventService

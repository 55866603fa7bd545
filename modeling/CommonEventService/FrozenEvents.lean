import CommonEventService.Basic
import CommonEventService.Lib.Dict

/-!
# The buffers of frozen subscribers

While a subscriber is frozen its events are kept, twice over: once in
`frozenEvents_`, under the subscriber's uid, and once in `frozenEventsMap_`,
under its pid. The two members have the same shape and the same operations,
so both are a `FrozenBuffer` here, and the manager's methods are the
operations of this module at the one key or the other.

Inside a buffer the map from subscribers is ordered by the listener and by
nothing else – that is what `EventSubscriberRecord::operator<` compares – so
the key is the listener, and the subscriber record the map was first filled
with is kept beside the events.
-/

namespace CommonEventService

/-- What a kept event holds its data by, and the number of the keeping, which
both buffers share and no step reads. -/
structure Buffered (δ : Type) where
  commonEventData : δ
  buffering : ℕ
  deriving DecidableEq, Repr

variable {δ π : Type} {κ : Type} [DecidableEq κ]

/-- How long a buffered event stays behind a newer one, in seconds. -/
def FREEZE_EVENT_TIMEOUT : Int := 30

/-- `FrozenRecords`: for each subscriber its record, as it was when the
first event was kept, and the events kept since. -/
abbrev FrozenRecords (δ π : Type) :=
  Dict Remote (EventSubscriberRecord × List (CommonEventRecord δ π))

/-- The buffer under one kind of key. -/
abbrev FrozenBuffer (κ δ π : Type) := Dict κ (FrozenRecords δ π)

namespace FrozenBuffer

/-- One more event behind those kept; the oldest goes if it is out of the
window – one event at most. -/
def emplaceBack (events : List (CommonEventRecord δ π))
    (record : CommonEventRecord δ π) : List (CommonEventRecord δ π) :=
  let events := events ++ [record]
  let frontRecordTime := (events.head?.map (·.recordTime)).getD record.recordTime
  if record.recordTime - frontRecordTime > FREEZE_EVENT_TIMEOUT then events.tail
  else events

/-- What `emplaceBack` lets go. -/
def expired (events : List (CommonEventRecord δ π)) (record : CommonEventRecord δ π) :
    List (CommonEventRecord δ π) :=
  let events := events ++ [record]
  let frontRecordTime := (events.head?.map (·.recordTime)).getD record.recordTime
  if record.recordTime - frontRecordTime > FREEZE_EVENT_TIMEOUT then events.head?.toList
  else []

/-- `InsertFrozenEvents`, and `InsertFrozenEventsMap`: keep an event for a
subscriber. -/
def insert (buffer : FrozenBuffer κ δ π) (key : κ) (subscriber : EventSubscriberRecord)
    (record : CommonEventRecord δ π) : FrozenBuffer κ δ π :=
  match buffer.lookup key with
  | some frozenRecords =>
    match frozenRecords.lookup subscriber.commonEventListener with
    | some (first, events) =>
      AList.insert key (frozenRecords.insert subscriber.commonEventListener
        (first, emplaceBack events record)) buffer
    | none =>
      AList.insert key (frozenRecords.insert subscriber.commonEventListener
        (subscriber, [record])) buffer
  | none =>
    AList.insert key ((∅ : FrozenRecords δ π).insert subscriber.commonEventListener
      (subscriber, [record])) buffer

/-- `GetFrozenEvents`, and `GetFrozenEventsMapByPid`: what is kept under a
key. The caller erases the key in the same critical section. -/
def get (buffer : FrozenBuffer κ δ π) (key : κ) : FrozenRecords δ π :=
  (buffer.lookup key).getD ∅

/-- `RemoveFrozenEvents`, and `RemoveFrozenEventsMapByPid`. -/
def remove (buffer : FrozenBuffer κ δ π) (key : κ) : FrozenBuffer κ δ π :=
  if (buffer.lookup key).isSome then AList.erase key buffer else buffer

/-- `RemoveFrozenEventsBySubscriber`, and its counterpart for the map by
pid. -/
def removeBySubscriber (buffer : FrozenBuffer κ δ π) (key : κ)
    (commonEventListener : Remote) : FrozenBuffer κ δ π :=
  match buffer.lookup key with
  | some frozenRecords =>
    match frozenRecords.lookup commonEventListener with
    | some _ => AList.insert key (frozenRecords.erase commonEventListener) buffer
    | none => buffer
  | none => buffer

end FrozenBuffer

/-! ## What is kept -/

/-- What `PublishFrozenEventsInner` runs over: each event kept, with the
subscriber it is kept for. -/
def frozenTasks (frozenRecords : FrozenRecords δ π) :
    List (EventSubscriberRecord × CommonEventRecord δ π) :=
  Dict.flatMap frozenRecords (fun _ kept => kept.2.map (fun record => (kept.1, record)))

/-- The events kept for the subscribers under one key. -/
def frozenRecordEvents (frozenRecords : FrozenRecords δ π) :
    List (CommonEventRecord δ π) :=
  Dict.flatMap frozenRecords (fun _ kept => kept.2)

theorem frozenTasks_map_snd (frozenRecords : FrozenRecords δ π) :
    (frozenTasks frozenRecords).map Prod.snd = frozenRecordEvents frozenRecords := by
  unfold frozenTasks frozenRecordEvents Dict.flatMap
  rw [List.map_flatMap]
  refine List.flatMap_congr fun entry _ => ?_
  rw [List.map_map]
  exact List.map_id _

namespace FrozenBuffer

variable (buffer : FrozenBuffer κ δ π) (key : κ)

/-! ### What is kept for one subscriber under one key -/

/-- The entry of a subscriber. -/
def entry (commonEventListener : Remote) :
    Option (EventSubscriberRecord × List (CommonEventRecord δ π)) :=
  (buffer.lookup key).bind (fun frozenRecords => frozenRecords.lookup commonEventListener)

/-- The events kept for a subscriber. -/
def keptFor (commonEventListener : Remote) : List (CommonEventRecord δ π) :=
  ((buffer.entry key commonEventListener).map Prod.snd).getD []

/-- The keys under which something is kept for a subscriber. -/
def keysOf (commonEventListener : Remote) : List κ :=
  buffer.entries.keys.filter (fun key => (buffer.entry key commonEventListener).isSome)

theorem mem_keysOf {commonEventListener : Remote} :
    key ∈ buffer.keysOf commonEventListener ↔ buffer.entry key commonEventListener ≠ none := by
  unfold keysOf
  rw [List.mem_filter, Option.isSome_iff_ne_none]
  refine and_iff_right_of_imp fun hentry => ?_
  refine AList.lookup_isSome.mp ?_
  rw [Option.isSome_iff_ne_none]
  intro hnone
  refine hentry ?_
  unfold entry
  rw [hnone]
  rfl

/-- The numbers of the keepings in a list of events. -/
def bufferings (events : List (CommonEventRecord (Buffered δ) π)) : List ℕ :=
  events.map (fun record => record.commonEventData.buffering)

/-- An event lets go of what is before it, and is kept behind the rest. -/
theorem expired_append_emplaceBack (events : List (CommonEventRecord δ π))
    (record : CommonEventRecord δ π) :
    expired events record ++ emplaceBack events record = events ++ [record] := by
  unfold expired emplaceBack
  dsimp only
  split
  · cases events <;> rfl
  · rfl

/-- **Keeping an event** changes the entry of its subscriber, under the key. -/
theorem entry_insert (subscriber : EventSubscriberRecord) (record : CommonEventRecord δ π)
    (key' : κ) (l : Remote) :
    (buffer.insert key subscriber record).entry key' l
      = if key' = key ∧ l = subscriber.commonEventListener
        then some (((buffer.entry key l).map Prod.fst).getD subscriber,
          emplaceBack (buffer.keptFor key l) record)
        else buffer.entry key' l := by
  -- the first event kept is never late
  have hnew : emplaceBack [] record = [record] := by
    unfold emplaceBack
    simp [FREEZE_EVENT_TIMEOUT]
  have hother : ∀ frozenRecords : FrozenRecords δ π, key' ≠ key →
      entry (AList.insert key frozenRecords buffer) key' l = buffer.entry key' l := by
    intro frozenRecords hkey
    unfold entry
    rw [AList.lookup_insert_ne hkey]
  by_cases hkey : key' = key
  · subst hkey
    unfold FrozenBuffer.insert
    cases hlookup : buffer.lookup key' with
    | none =>
      have hentry : buffer.entry key' l = none := by
        unfold entry
        rw [hlookup]
        rfl
      unfold keptFor
      rw [hentry]
      dsimp only
      unfold entry
      rw [AList.lookup_insert, Option.bind_some, Dict.lookup_insert_ite]
      by_cases hl : l = subscriber.commonEventListener
      · rw [if_pos hl, if_pos ⟨rfl, hl⟩, Option.map_none, Option.map_none, Option.getD_none,
          Option.getD_none, hnew]
      · rw [if_neg hl, if_neg fun hc => hl hc.2]
        rfl
    | some frozenRecords =>
      have hentry : buffer.entry key' l = frozenRecords.lookup l := by
        unfold entry
        rw [hlookup]
        rfl
      unfold keptFor
      rw [hentry]
      dsimp only
      cases hlistener : frozenRecords.lookup subscriber.commonEventListener with
      | none =>
        dsimp only
        unfold entry
        rw [AList.lookup_insert, Option.bind_some, Dict.lookup_insert_ite]
        by_cases hl : l = subscriber.commonEventListener
        · subst hl
          rw [if_pos rfl, if_pos ⟨rfl, rfl⟩, hlistener, Option.map_none, Option.map_none,
            Option.getD_none, Option.getD_none, hnew]
        · rw [if_neg hl, if_neg fun hc => hl hc.2]
      | some kept =>
        obtain ⟨first, events⟩ := kept
        dsimp only
        unfold entry
        rw [AList.lookup_insert, Option.bind_some, Dict.lookup_insert_ite]
        by_cases hl : l = subscriber.commonEventListener
        · subst hl
          rw [if_pos rfl, if_pos ⟨rfl, rfl⟩, hlistener]
          rfl
        · rw [if_neg hl, if_neg fun hc => hl hc.2]
  · rw [if_neg fun hc => hkey hc.1]
    unfold FrozenBuffer.insert
    split
    · split
      · exact hother _ hkey
      · exact hother _ hkey
    · exact hother _ hkey

/-- Keeping an event changes what is kept for its subscriber, under the key. -/
theorem keptFor_insert_ite (subscriber : EventSubscriberRecord) (record : CommonEventRecord δ π)
    (key' : κ) (l : Remote) :
    (buffer.insert key subscriber record).keptFor key' l
      = if key' = key ∧ l = subscriber.commonEventListener
        then emplaceBack (buffer.keptFor key l) record
        else buffer.keptFor key' l := by
  unfold keptFor
  rw [entry_insert]
  split <;> rfl

theorem keptFor_insert (subscriber : EventSubscriberRecord) (record : CommonEventRecord δ π) :
    (buffer.insert key subscriber record).keptFor key subscriber.commonEventListener
      = emplaceBack (buffer.keptFor key subscriber.commonEventListener) record := by
  rw [keptFor_insert_ite, if_pos ⟨rfl, rfl⟩]

/-- **The event itself is kept**: it is never out of its own window. -/
theorem mem_keptFor_insert (subscriber : EventSubscriberRecord)
    (record : CommonEventRecord δ π) :
    record ∈ (buffer.insert key subscriber record).keptFor key
      subscriber.commonEventListener := by
  rw [keptFor_insert]
  cases buffer.keptFor key subscriber.commonEventListener with
  | nil =>
    unfold emplaceBack
    simp [FREEZE_EVENT_TIMEOUT]
  | cons first events =>
    have hlast : record ∈ events ++ [record] :=
      List.mem_append_right _ (List.mem_singleton_self record)
    unfold emplaceBack
    dsimp only
    split
    · exact hlast
    · exact List.mem_cons_of_mem _ hlast

theorem entry_remove (key' : κ) (l : Remote) :
    (buffer.remove key).entry key' l = if key' = key then none else buffer.entry key' l := by
  unfold FrozenBuffer.remove entry
  split
  · rw [Dict.lookup_erase_ite]
    split <;> rfl
  next hnone =>
    split
    next hkey =>
      rw [hkey, Option.not_isSome_iff_eq_none.mp hnone]
      rfl
    next => rfl

theorem entry_removeBySubscriber (commonEventListener : Remote) (key' : κ) (l : Remote) :
    (buffer.removeBySubscriber key commonEventListener).entry key' l
      = if key' = key ∧ l = commonEventListener then none else buffer.entry key' l := by
  unfold FrozenBuffer.removeBySubscriber
  cases hlookup : buffer.lookup key with
  | none =>
    dsimp only
    split
    next h =>
      unfold entry
      rw [h.1, hlookup]
      rfl
    next => rfl
  | some frozenRecords =>
    dsimp only
    cases hlistener : frozenRecords.lookup commonEventListener with
    | none =>
      dsimp only
      split
      next h =>
        unfold entry
        rw [h.1, hlookup, h.2]
        exact hlistener
      next => rfl
    | some kept =>
      dsimp only
      unfold entry
      rw [Dict.lookup_insert_ite]
      by_cases hkey : key' = key
      · rw [if_pos hkey, Option.bind_some, Dict.lookup_erase_ite, hkey, hlookup, Option.bind_some]
        by_cases hl : l = commonEventListener
        · rw [if_pos hl, if_pos ⟨rfl, hl⟩]
        · rw [if_neg hl, if_neg fun hc => hl hc.2]
      · rw [if_neg hkey, if_neg fun hc => hkey hc.1]

/-- What is kept for a subscriber is among what is kept under the key. -/
theorem keptFor_subset {l : Remote} {record : CommonEventRecord δ π}
    (h : record ∈ buffer.keptFor key l) : record ∈ frozenRecordEvents (buffer.get key) := by
  unfold keptFor entry at h
  cases hlookup : buffer.lookup key with
  | none =>
    rw [hlookup] at h
    cases h
  | some frozenRecords =>
    rw [hlookup, Option.bind_some] at h
    cases hlistener : frozenRecords.lookup l with
    | none =>
      rw [hlistener] at h
      cases h
    | some kept =>
      rw [hlistener] at h
      unfold FrozenBuffer.get
      rw [hlookup]
      exact Dict.mem_flatMap.mpr ⟨l, kept, hlistener, h⟩

/-- All events kept. -/
def events (buffer : FrozenBuffer κ δ π) : List (CommonEventRecord δ π) :=
  Dict.flatMap buffer (fun _ frozenRecords => frozenRecordEvents frozenRecords)

/-- Behind the events kept stands at most one more. -/
theorem emplaceBack_sublist (events : List (CommonEventRecord δ π))
    (record : CommonEventRecord δ π) :
    (emplaceBack events record).Sublist (events ++ [record]) := by
  rw [← expired_append_emplaceBack]
  exact List.sublist_append_right _ _

/-- **Keeping an event** adds it to what is kept, and nothing else. -/
theorem events_insert (subscriber : EventSubscriberRecord) (record : CommonEventRecord δ π) :
    (buffer.insert key subscriber record).events.Subperm (record :: buffer.events) := by
  unfold FrozenBuffer.insert events
  cases hkey : buffer.lookup key with
  | none =>
    dsimp only
    rw [Dict.flatMap_insert, Dict.erase_of_lookup_none hkey]
    exact List.Subperm.refl _
  | some frozenRecords =>
    dsimp only
    have hbuffer := Dict.flatMap_perm (f := fun _ frozenRecords =>
      frozenRecordEvents frozenRecords) hkey
    refine List.Subperm.trans ?_ (hbuffer.symm.cons record).subperm
    cases hlistener : frozenRecords.lookup subscriber.commonEventListener with
    | none =>
      dsimp only
      rw [Dict.flatMap_insert]
      unfold frozenRecordEvents
      rw [Dict.flatMap_insert, Dict.erase_of_lookup_none hlistener]
      exact List.Subperm.refl _
    | some kept =>
      obtain ⟨first, events⟩ := kept
      dsimp only
      rw [Dict.flatMap_insert]
      unfold frozenRecordEvents
      rw [Dict.flatMap_insert]
      have hlist := Dict.flatMap_perm (f := fun (_ : Remote) (kept : EventSubscriberRecord ×
        List (CommonEventRecord δ π)) => kept.2) hlistener
      -- one event is added, and at most the first of the list is let go
      have hsub := ((emplaceBack_sublist events record).append_right (Dict.flatMap
        (frozenRecords.erase subscriber.commonEventListener) fun _ kept => kept.2)).append_right
        (Dict.flatMap (buffer.erase key) fun _ frozenRecords =>
          Dict.flatMap frozenRecords fun _ kept => kept.2)
      refine hsub.subperm.trans (List.Perm.subperm ?_)
      refine List.Perm.trans ?_ ((hlist.symm.append_right _).cons record)
      rw [List.append_assoc, List.append_assoc, List.append_assoc]
      exact List.perm_middle

/-- What is kept is what is kept under one key, and the rest. -/
theorem events_perm_remove :
    buffer.events.Perm (frozenRecordEvents (buffer.get key) ++ (buffer.remove key).events) := by
  unfold FrozenBuffer.get FrozenBuffer.remove events
  cases hkey : buffer.lookup key with
  | none => exact List.Perm.refl _
  | some frozenRecords => exact Dict.flatMap_perm hkey

/-- A subscriber that goes takes its events along. -/
theorem events_removeBySubscriber (commonEventListener : Remote) :
    (buffer.removeBySubscriber key commonEventListener).events.Subperm buffer.events := by
  unfold FrozenBuffer.removeBySubscriber events
  cases hkey : buffer.lookup key with
  | none => exact List.Subperm.refl _
  | some frozenRecords =>
    dsimp only
    cases hlistener : frozenRecords.lookup commonEventListener with
    | none => exact List.Subperm.refl _
    | some kept =>
      dsimp only
      rw [Dict.flatMap_insert]
      have hbuffer := Dict.flatMap_perm (f := fun _ frozenRecords =>
        frozenRecordEvents frozenRecords) hkey
      refine List.Subperm.trans ?_ hbuffer.symm.subperm
      have hlist := Dict.flatMap_perm (f := fun (_ : Remote) (kept : EventSubscriberRecord ×
        List (CommonEventRecord δ π)) => kept.2) hlistener
      refine List.Subperm.trans ?_ (hlist.symm.append_right _).subperm
      rw [List.append_assoc]
      exact (List.sublist_append_right _ _).subperm

end FrozenBuffer

end CommonEventService

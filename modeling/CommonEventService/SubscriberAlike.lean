import CommonEventService.SubscriberCounts
import CommonEventService.SubscriberRegistry

/-!
# Managers up to addresses

Two managers are alike if nothing but the addresses of the records, and the
order in which the index lists them, tells one from the other: the registered
records hold the same, in the same order, and under each event name each
listener is listed as often in the one as in the other.

What a manager does next then comes to the same: a publication selects the
same listeners, and a call leads from managers that are alike to managers that
are. The exception is a first subscription at the limit, which goes by the
counts of `subscriberCounts` and by the order in which a sort leaves equal
ones; `LimitClear` is where they cannot make a difference.
-/

namespace CommonEventService

namespace SubscriberManager

variable {δ π : Type} {m m' : SubscriberManager δ π}

/-- How often a listener is listed under an event name. -/
def listedFor (m : SubscriberManager δ π) (event : String) (l : Remote) : ℕ :=
  ((subscribersOf m.eventSubscribers event).map m.listenerOf).count l

/-- **Two managers that are alike.** -/
structure Alike (m m' : SubscriberManager δ π) : Prop where
  records : m'.subscribers.map m'.heap = m.subscribers.map m.heap
  listed : ∀ event l, m'.listedFor event l = m.listedFor event l

/-- **What a call may not do to the records it is not about**: to register one
or take one out, to change a listener, or to write to a record that is not
registered. -/
structure KeepsRegistered (m m' : SubscriberManager δ π) : Prop where
  nextAddr : m.nextAddr ≤ m'.nextAddr
  registered : ∀ r < m.nextAddr, r ∈ m'.subscribers ↔ r ∈ m.subscribers
  listenerOf : ∀ r < m.nextAddr, m'.listenerOf r = m.listenerOf r
  heap : ∀ r < m.nextAddr, r ∉ m.subscribers → m'.heap r = m.heap r

namespace Alike

theorem refl (m : SubscriberManager δ π) : Alike m m := ⟨rfl, fun _ _ => rfl⟩

theorem symm (h : Alike m m') : Alike m' m :=
  ⟨h.records.symm, fun event l => (h.listed event l).symm⟩

theorem trans {m'' : SubscriberManager δ π} (h : Alike m m') (h' : Alike m' m'') :
    Alike m m'' :=
  ⟨h'.records.trans h.records, fun event l => (h'.listed event l).trans (h.listed event l)⟩

theorem recordOf (h : Alike m m') (l : Remote) : m'.recordOf l = m.recordOf l :=
  recordOf_congr h.records l

theorem length (h : Alike m m') : m'.subscribers.length = m.subscribers.length := by
  simpa using congrArg List.length h.records

/-- A listener is registered with both or with neither. -/
theorem getSubscriberRecord_none (h : Alike m m') {l : Remote}
    (hfind : m.getSubscriberRecord l = none) : m'.getSubscriberRecord l = none := by
  have hrecord : m'.recordOf l = none := by
    rw [h.recordOf, SubscriberManager.recordOf, hfind]
    rfl
  exact Option.map_eq_none_iff.mp hrecord

/-- The records of a listener hold the same in both. -/
theorem getSubscriberRecord_some (h : Alike m m') {l : Remote} {r : SubscriberRecordPtr}
    (hfind : m.getSubscriberRecord l = some r) :
    ∃ r', m'.getSubscriberRecord l = some r' ∧ m'.heap r' = m.heap r := by
  have hrecord : m'.recordOf l = some (m.heap r) := by
    rw [h.recordOf, SubscriberManager.recordOf, hfind]
    rfl
  exact Option.map_eq_some_iff.mp hrecord

/-- Counting the registered records by what they hold. -/
theorem countP_subscribers (h : Alike m m') (p : EventSubscriberRecord → Bool) :
    m'.subscribers.countP (fun r => p (m'.heap r))
      = m.subscribers.countP (fun r => p (m.heap r)) := by
  have hcount := congrArg (List.countP p) h.records
  rw [List.countP_map, List.countP_map] at hcount
  exact hcount

end Alike

/-! ## How often a listener is listed -/

/-- A registered listener is listed as often as its record. -/
theorem listedFor_of_mem (h : m.IndexSound) {r : SubscriberRecordPtr} (hr : r ∈ m.subscribers)
    (event : String) :
    m.listedFor event (m.listenerOf r) = (subscribersOf m.eventSubscribers event).count r := by
  unfold listedFor
  rw [List.count_eq_countP, List.countP_map, List.count_eq_countP]
  refine List.countP_congr fun r' hr' => ?_
  have hinj : m.listenerOf r' = m.listenerOf r ↔ r' = r :=
    ⟨h.listener_inj (h.mem_subscribersOf hr').1 hr, congrArg m.listenerOf⟩
  simpa using hinj

/-- A listener that is not registered is not listed. -/
theorem listedFor_of_not_registered (h : m.IndexSound) {l : Remote}
    (hl : ∀ r ∈ m.subscribers, m.listenerOf r ≠ l) (event : String) :
    m.listedFor event l = 0 := by
  refine List.count_eq_zero.mpr fun hmem => ?_
  obtain ⟨r, hr, heq⟩ := List.mem_map.mp hmem
  exact hl r (h.mem_subscribersOf hr).1 heq

/-- What is listed under an event name, by what the records hold. -/
theorem Alike.map_heap_subscribersOf (h : Alike m m') (hm : m.IndexSound) (hm' : m'.IndexSound)
    (event : String) :
    ((subscribersOf m'.eventSubscribers event).map m'.heap).Perm
      ((subscribersOf m.eventSubscribers event).map m.heap) := by
  -- a listed record holds what is registered for its listener
  have hheap : ∀ {n : SubscriberManager δ π}, n.IndexSound →
      (subscribersOf n.eventSubscribers event).map n.heap
        = ((subscribersOf n.eventSubscribers event).map n.listenerOf).map
          (fun l => (n.recordOf l).getD default) := by
    intro n hn
    rw [List.map_map]
    refine List.map_congr_left fun r hr => ?_
    show n.heap r = (n.recordOf (n.listenerOf r)).getD default
    rw [recordOf_of_mem hn (hn.mem_subscribersOf hr).1]
    rfl
  have hlisteners : ((subscribersOf m'.eventSubscribers event).map m'.listenerOf).Perm
      ((subscribersOf m.eventSubscribers event).map m.listenerOf) :=
    List.perm_iff_count.mpr (h.listed event)
  rw [hheap hm, hheap hm', funext h.recordOf]
  exact hlisteners.map _

/-! ## Freezing -/

/-- A freeze makes the same of managers that are alike. -/
theorem Alike.updateFreezeInfo (h : Alike m m') (chosen : EventSubscriberRecord → Bool)
    (freezeState : Bool) (freezeTime : Int) :
    Alike (m.updateFreezeInfo chosen freezeState freezeTime)
      (m'.updateFreezeInfo chosen freezeState freezeTime) := by
  refine ⟨?_, ?_⟩
  · show m'.subscribers.map _ = m.subscribers.map _
    rw [map_heap_updateFreezeInfo, map_heap_updateFreezeInfo, h.records]
  · have hlisted : ∀ (n : SubscriberManager δ π) event l,
        (n.updateFreezeInfo chosen freezeState freezeTime).listedFor event l
          = n.listedFor event l := by
      intro n event l
      unfold listedFor
      rw [funext (SameIndex.updateFreezeInfo n chosen freezeState freezeTime).listenerOf]
      rfl
    intro event l
    rw [hlisted, hlisted, h.listed]

theorem KeepsRegistered.updateFreezeInfo (m : SubscriberManager δ π)
    (chosen : EventSubscriberRecord → Bool) (freezeState : Bool) (freezeTime : Int) :
    KeepsRegistered m (m.updateFreezeInfo chosen freezeState freezeTime) := by
  refine ⟨le_refl _, fun _ _ => Iff.rfl, ?_, ?_⟩
  · exact fun r _ => (SameIndex.updateFreezeInfo m chosen freezeState freezeTime).listenerOf r
  · intro r _ hr
    exact if_neg (fun hchosen => hr hchosen.1)

/-! ## Removals -/

/-- What a removal leaves registered. -/
theorem records_remove (h : m.IndexSound) (listener : Remote) :
    (m.removeSubscriberRecordLocked listener).subscribers.map
        (m.removeSubscriberRecordLocked listener).heap
      = (m.subscribers.map m.heap).filter
        (fun record => record.commonEventListener ≠ listener) := by
  rw [List.filter_map]
  unfold removeSubscriberRecordLocked
  cases hfind : m.getSubscriberRecord listener with
  | none =>
    refine congrArg (List.map m.heap) (List.filter_eq_self.mpr fun r hr => ?_).symm
    exact decide_eq_true (getSubscriberRecord_none hfind r hr)
  | some record =>
    obtain ⟨hrecord, hlistener⟩ := getSubscriberRecord_some hfind
    have hnodup : m.subscribers.Nodup := h.listeners.of_map
    show (m.subscribers.erase record).map m.heap = _
    rw [hnodup.erase_eq_filter]
    refine congrArg (List.map m.heap) (List.filter_congr fun r hr => ?_)
    have hiff : m.listenerOf r = listener ↔ r = record :=
      ⟨fun hl => h.listener_inj hr hrecord (hl.trans hlistener.symm),
        fun heq => heq ▸ hlistener⟩
    show (!(r == record)) = decide (m.listenerOf r ≠ listener)
    rw [beq_eq_decide, ← decide_not]
    exact decide_eq_decide.mpr (not_congr hiff.symm)

/-- What a removal leaves listed. -/
theorem listedFor_remove (h : m.IndexSound) (listener : Remote) (event : String) (l : Remote) :
    (m.removeSubscriberRecordLocked listener).listedFor event l
      = if l = listener then 0 else m.listedFor event l := by
  split
  next hl =>
    refine listedFor_of_not_registered (h.remove listener) (fun r hr => ?_) event
    have hmem := List.mem_map_of_mem
      (f := (m.removeSubscriberRecordLocked listener).heap) hr
    rw [records_remove h, List.mem_filter] at hmem
    rw [hl]
    exact of_decide_eq_true hmem.2
  next hl =>
    unfold removeSubscriberRecordLocked
    cases hfind : m.getSubscriberRecord listener with
    | none => rfl
    | some record =>
      show ((subscribersOf (List.foldl (eraseListener fun rec =>
          decide ((m.heap rec).commonEventListener = listener)) m.eventSubscribers
          (m.eventsOf record)) event).map m.listenerOf).count l = m.listedFor event l
      unfold listedFor
      rw [subscribersOf_foldl_eraseListener]
      split
      · -- no record of another listener is taken out
        rw [List.count_eq_countP, List.countP_map, List.countP_filter, List.count_eq_countP,
          List.countP_map]
        refine List.countP_congr fun r _ => ?_
        have hne : m.listenerOf r = l → ¬ (m.heap r).commonEventListener = listener :=
          fun heq hlistener => hl (heq.symm.trans hlistener)
        simpa using hne
      · rfl

/-- A removal makes managers that are alike of managers that are alike. -/
theorem Alike.removeSubscriber (h : Alike m m') (hm : m.IndexSound) (hm' : m'.IndexSound)
    (listener : Option Remote) :
    Alike (m.removeSubscriber listener) (m'.removeSubscriber listener) := by
  cases listener with
  | none => exact h
  | some listener =>
    refine ⟨?_, fun event l => ?_⟩
    · refine (records_remove hm' listener).trans ?_
      rw [h.records]
      exact (records_remove hm listener).symm
    · show (m'.removeSubscriberRecordLocked listener).listedFor event l
        = (m.removeSubscriberRecordLocked listener).listedFor event l
      rw [listedFor_remove hm, listedFor_remove hm', h.listed]

/-! ## Updates -/

/-- What an update makes of the registered records. -/
theorem records_update (h : m.IndexSound) (S : StdSort) {listener : Remote}
    {record : SubscriberRecordPtr} (hfind : m.getSubscriberRecord listener = some record)
    (info : CommonEventSubscribeInfo) (recordInfo : EventRecordInfo) :
    (m.updateSubscriberRecordLocked S info recordInfo record).subscribers.map
        (m.updateSubscriberRecordLocked S info recordInfo record).heap
      = (m.subscribers.map m.heap).map (fun held =>
        if held.commonEventListener = listener then
          { held with
            eventSubscribeInfo := info
            eventRecordInfo := recordInfo }
        else held) := by
  obtain ⟨hrecord, hlistener⟩ := getSubscriberRecord_some hfind
  rw [List.map_map]
  refine List.map_congr_left fun r hr => ?_
  show Function.update m.heap record _ r
    = if m.listenerOf r = listener then _ else m.heap r
  by_cases hr' : r = record
  · subst hr'
    rw [if_pos hlistener]
    exact Function.update_self _ _ _
  · rw [if_neg fun hl => hr' (h.listener_inj hr hrecord (hl.trans hlistener.symm))]
    exact Function.update_of_ne hr' _ _

/-- **What an update leaves listed.** -/
theorem listedFor_update (h : m.IndexSound) (S : StdSort) {listener : Remote}
    {record : SubscriberRecordPtr} (hfind : m.getSubscriberRecord listener = some record)
    (info : CommonEventSubscribeInfo) (recordInfo : EventRecordInfo) (event : String)
    (l : Remote) :
    (m.updateSubscriberRecordLocked S info recordInfo record).listedFor event l
      = if l = listener then
          updatedCount (m.listedFor event l) ((m.eventsOf record).count event)
            (info.getEvents.count event)
        else m.listedFor event l := by
  obtain ⟨hrecord, hlistener⟩ := getSubscriberRecord_some hfind
  have hsound := h.update S hrecord info recordInfo
  by_cases hl : ∃ r ∈ m.subscribers, m.listenerOf r = l
  · obtain ⟨r, hr, rfl⟩ := hl
    have hlisted := listedFor_of_mem hsound (r := r) hr event
    rw [listenerOf_update] at hlisted
    rw [hlisted, count_update, listedFor_of_mem h hr]
    by_cases hr' : r = record
    · rw [if_pos hr', if_pos (hr' ▸ hlistener), hr']
    · rw [if_neg hr', if_neg]
      exact fun hl => hr' (h.listener_inj hr hrecord (hl.trans hlistener.symm))
  · have hnot : ∀ r ∈ m.subscribers, m.listenerOf r ≠ l := fun r hr heq => hl ⟨r, hr, heq⟩
    have hne : ¬ l = listener := fun heq => hnot record hrecord (hlistener.trans heq.symm)
    rw [if_neg hne, listedFor_of_not_registered h hnot]
    refine listedFor_of_not_registered hsound (fun r hr => ?_) event
    rw [listenerOf_update]
    exact hnot r hr

/-- An update makes managers that are alike of managers that are alike. -/
theorem Alike.update (h : Alike m m') (hm : m.IndexSound) (hm' : m'.IndexSound) (S : StdSort)
    {listener : Remote} {record record' : SubscriberRecordPtr}
    (hfind : m.getSubscriberRecord listener = some record)
    (hfind' : m'.getSubscriberRecord listener = some record')
    (info : CommonEventSubscribeInfo) (recordInfo : EventRecordInfo) :
    Alike (m.updateSubscriberRecordLocked S info recordInfo record)
      (m'.updateSubscriberRecordLocked S info recordInfo record') := by
  obtain ⟨r', hr', hheap⟩ := h.getSubscriberRecord_some hfind
  obtain rfl : record' = r' := Option.some.inj (hfind'.symm.trans hr')
  refine ⟨?_, fun event l => ?_⟩
  · rw [records_update hm S hfind, records_update hm' S hfind', h.records]
  · rw [listedFor_update hm S hfind, listedFor_update hm' S hfind', h.listed]
    unfold eventsOf
    rw [hheap]

theorem KeepsRegistered.update (S : StdSort) {record : SubscriberRecordPtr}
    (hrecord : record ∈ m.subscribers) (info : CommonEventSubscribeInfo)
    (recordInfo : EventRecordInfo) :
    KeepsRegistered m (m.updateSubscriberRecordLocked S info recordInfo record) := by
  refine ⟨le_refl _, fun _ _ => Iff.rfl, ?_, ?_⟩
  · exact fun r _ => listenerOf_update S info recordInfo record r
  · intro r _ hr
    refine Function.update_of_ne ?_ _ _
    rintro rfl
    exact hr hrecord

/-! ## First subscriptions -/

section FirstSubscription

variable (info : CommonEventSubscribeInfo) {listener : Remote} (recordInfo : EventRecordInfo)

theorem listenerOf_withRecord_of_ne {r : SubscriberRecordPtr} (hr : r ≠ m.nextAddr) :
    (m.withRecord info listener recordInfo).listenerOf r = m.listenerOf r :=
  congrArg EventSubscriberRecord.commonEventListener (Function.update_of_ne hr _ _)

variable (m listener) in
theorem heap_withRecord_self :
    (m.withRecord info listener recordInfo).heap m.nextAddr
      = { eventSubscribeInfo := info
          commonEventListener := listener
          eventRecordInfo := recordInfo } := Function.update_self _ _ _

variable (listener) in
theorem IndexSound.withRecord (h : m.IndexSound) :
    (m.withRecord info listener recordInfo).IndexSound := by
  have hheap := heap_withRecord h.allocated info listener recordInfo
  refine h.congr rfl rfl (Nat.le_succ _) (fun r hr => ?_) (fun r hr => ?_)
  · unfold eventsOf
    rw [hheap r hr]
  · unfold listenerOf
    rw [hheap r hr]

theorem IndexSound.withSubscriber (h : m.IndexSound)
    (hfind : m.getSubscriberRecord listener = none) :
    (m.withSubscriber info listener recordInfo).IndexSound := by
  have hfresh : m.nextAddr ∉ m.subscribers := fun hmem => Nat.lt_irrefl _ (h.allocated _ hmem)
  have hself := m.heap_withRecord_self info listener recordInfo
  have hevents : (m.withRecord info listener recordInfo).eventsOf m.nextAddr = info.getEvents := by
    unfold eventsOf
    rw [hself]
  have hinsert := (h.withRecord info listener recordInfo).insert hfresh (Nat.lt_succ_self _) ?_
    (countMore m.subscriberCounts recordInfo.pid)
  · rw [hevents] at hinsert
    exact hinsert
  · intro r hr
    have hne : r ≠ m.nextAddr := Nat.ne_of_lt (h.allocated r hr)
    rw [listenerOf_withRecord_of_ne info recordInfo hne]
    unfold listenerOf
    rw [hself]
    exact getSubscriberRecord_none hfind r hr

/-- How often a listener is listed once it is registered. -/
theorem listedFor_withSubscriber (h : m.IndexSound)
    (hfind : m.getSubscriberRecord listener = none) (event : String) (l : Remote) :
    (m.withSubscriber info listener recordInfo).listedFor event l
      = if l = listener then if event ∈ info.getEvents then 1 else 0
        else m.listedFor event l := by
  have hsound := h.withSubscriber info recordInfo hfind
  -- the address is new, and listed nowhere
  have hnotin : m.nextAddr ∉ subscribersOf m.eventSubscribers event :=
    fun hmem => Nat.lt_irrefl _ (h.allocated _ (h.mem_subscribersOf hmem).1)
  have hnew : (m.withSubscriber info listener recordInfo).listenerOf m.nextAddr = listener :=
    congrArg EventSubscriberRecord.commonEventListener
      (m.heap_withRecord_self info listener recordInfo)
  have hold : ∀ r ∈ m.subscribers,
      (m.withSubscriber info listener recordInfo).listenerOf r = m.listenerOf r :=
    fun r hr => listenerOf_withRecord_of_ne info recordInfo (Nat.ne_of_lt (h.allocated r hr))
  have hcount : ∀ r, (subscribersOf (m.withSubscriber info listener recordInfo).eventSubscribers
        event).count r
      = if r = m.nextAddr ∧ event ∈ info.getEvents then 1
        else (subscribersOf m.eventSubscribers event).count r := by
    intro r
    show (subscribersOf (insertEventSubscribers _ _ _) event).count r = _
    rw [count_insertEventSubscribers]
    simp [hnotin]
  split
  next hl =>
    subst hl
    have hlisted := listedFor_of_mem hsound (r := m.nextAddr)
      (List.mem_append_right _ List.mem_cons_self) event
    rw [hnew] at hlisted
    rw [hlisted, hcount]
    simp [List.count_eq_zero.mpr hnotin]
  next hl =>
    by_cases hregistered : ∃ r ∈ m.subscribers, m.listenerOf r = l
    · obtain ⟨r, hr, rfl⟩ := hregistered
      have hlisted := listedFor_of_mem hsound (r := r) (List.mem_append_left _ hr) event
      rw [hold r hr] at hlisted
      rw [hlisted, listedFor_of_mem h hr, hcount,
        if_neg fun hc => Nat.ne_of_lt (h.allocated r hr) hc.1]
    · have hnot : ∀ r ∈ m.subscribers, m.listenerOf r ≠ l :=
        fun r hr heq => hregistered ⟨r, hr, heq⟩
      rw [listedFor_of_not_registered h hnot]
      refine listedFor_of_not_registered hsound (fun r hr => ?_) event
      obtain hr | hr := List.mem_append.mp hr
      · rw [hold r hr]
        exact hnot r hr
      · obtain rfl : r = m.nextAddr := List.mem_singleton.mp hr
        rw [hnew]
        exact fun heq => hl heq.symm

theorem records_withRecord (h : m.IndexSound) :
    m.subscribers.map (m.withRecord info listener recordInfo).heap = m.subscribers.map m.heap :=
  List.map_congr_left (heap_withRecord h.allocated info listener recordInfo)

theorem records_withSubscriber (h : m.IndexSound) :
    (m.withSubscriber info listener recordInfo).subscribers.map
        (m.withSubscriber info listener recordInfo).heap
      = m.subscribers.map m.heap
        ++ [{ eventSubscribeInfo := info
              commonEventListener := listener
              eventRecordInfo := recordInfo }] := by
  show (m.subscribers ++ [m.nextAddr]).map (m.withRecord info listener recordInfo).heap = _
  rw [List.map_append, records_withRecord info recordInfo h, List.map_singleton,
    heap_withRecord_self]

/-- A record that is made and not registered tells no managers apart. -/
theorem alike_withRecord (h : m.IndexSound) :
    Alike m (m.withRecord info listener recordInfo) := by
  refine ⟨records_withRecord info recordInfo h, fun event l => ?_⟩
  show ((subscribersOf m.eventSubscribers event).map _).count l = m.listedFor event l
  unfold listedFor
  refine congrArg (List.count l) (List.map_congr_left fun r hr => ?_)
  exact listenerOf_withRecord_of_ne info recordInfo
    (Nat.ne_of_lt (h.allocated r (h.mem_subscribersOf hr).1))

theorem Alike.withSubscriber (h : Alike m m') (hm : m.IndexSound) (hm' : m'.IndexSound)
    (hfind : m.getSubscriberRecord listener = none) :
    Alike (m.withSubscriber info listener recordInfo)
      (m'.withSubscriber info listener recordInfo) := by
  refine ⟨?_, fun event l => ?_⟩
  · rw [records_withSubscriber info recordInfo hm, records_withSubscriber info recordInfo hm',
      h.records]
  · rw [listedFor_withSubscriber info recordInfo hm hfind,
      listedFor_withSubscriber info recordInfo hm' (h.getSubscriberRecord_none hfind), h.listed]

end FirstSubscription

/-! ## The limit -/

/-- **Where the limit is clear**: if it is reached, the counts are those of the
registered records, and the process has more subscriptions than any other, or
fewer than some. -/
def LimitClear (m : SubscriberManager δ π) (maxSubscriberNum : ℕ) (pid : Pid) : Prop :=
  m.checkSubscriberCountReachedMaxinum maxSubscriberNum = true →
    (∀ pid', m.recordedCount pid' = m.registeredCount pid')
      ∧ ((∀ pid', pid' ≠ pid → m.registeredCount pid' < m.registeredCount pid)
        ∨ ∃ pid', m.registeredCount pid < m.registeredCount pid')

/-- Where the limit is clear, a process is refused if it has more subscriptions
than any other. -/
theorem refusedAtLimit_iff {S : StdSort} {maxSubscriberNum : ℕ} {pid : Pid}
    (h : m.LimitClear maxSubscriberNum pid) :
    m.RefusedAtLimit S maxSubscriberNum pid
      ↔ m.checkSubscriberCountReachedMaxinum maxSubscriberNum = true
        ∧ ∀ pid', pid' ≠ pid → m.registeredCount pid' < m.registeredCount pid := by
  unfold RefusedAtLimit
  refine and_congr_right fun hreached => ?_
  obtain ⟨hcounts, hclear⟩ := h hreached
  constructor
  · intro htop
    obtain ⟨⟨first, count⟩, hhead, rfl⟩ := Option.map_eq_some_iff.mp htop
    obtain ⟨hcount, hgreatest⟩ := head_getTopSubscriberCounts S hhead
    obtain hmost | ⟨pid', hless⟩ := hclear
    · exact hmost
    · refine absurd (hgreatest pid') (Nat.not_le.mpr ?_)
      rw [← hcount, hcounts, hcounts]
      exact hless
  · intro hmost
    cases hhead : (m.getTopSubscriberCounts S 1).head? with
    | none =>
      have hzero : m.recordedCount pid = 0 := by
        unfold recordedCount
        rw [subscriberCounts_of_head_none hhead]
        rfl
      have hne : pid + 1 ≠ pid := (Int.lt_succ pid).ne'
      have hpos := hmost (pid + 1) hne
      rw [← hcounts pid, hzero] at hpos
      exact absurd hpos (Nat.not_lt_zero _)
    | some first =>
      obtain ⟨hcount, hgreatest⟩ := head_getTopSubscriberCounts S hhead
      by_contra hne
      have hless := hmost first.1 (fun heq => hne (congrArg some heq))
      refine absurd (hgreatest pid) (Nat.not_le.mpr ?_)
      rw [← hcount, hcounts, hcounts]
      exact hless

/-- **A subscription makes managers that are alike of managers that are
alike**, where the limit is clear to both. -/
theorem Alike.insertSubscriber (h : Alike m m') (hm : m.IndexSound) (hm' : m'.IndexSound)
    (S : StdSort) {maxSubscriberNum : ℕ} {info : Option CommonEventSubscribeInfo}
    {listener : Option Remote} {recordInfo : EventRecordInfo}
    (hlimit : ∀ l, listener = some l → m.getSubscriberRecord l = none →
      m.LimitClear maxSubscriberNum recordInfo.pid
        ∧ m'.LimitClear maxSubscriberNum recordInfo.pid) :
    Alike (m.insertSubscriber S maxSubscriberNum info listener recordInfo).2
      (m'.insertSubscriber S maxSubscriberNum info listener recordInfo).2 := by
  cases info with
  | none => exact h
  | some info =>
    cases listener with
    | none => exact h
    | some listener =>
      by_cases hwell : WellFormed info
      · cases hfind : m.getSubscriberRecord listener with
        | some record =>
          obtain ⟨record', hfind', -⟩ := h.getSubscriberRecord_some hfind
          rw [insertSubscriber_of_known S _ hwell hfind, insertSubscriber_of_known S _ hwell hfind']
          exact h.update hm hm' S hfind hfind' info recordInfo
        | none =>
          obtain ⟨hclear, hclear'⟩ := hlimit listener rfl hfind
          have hcount : ∀ pid, m'.registeredCount pid = m.registeredCount pid :=
            fun pid => h.countP_subscribers
              (fun record => decide (record.eventRecordInfo.pid = pid))
          have hsame : m.RefusedAtLimit S maxSubscriberNum recordInfo.pid
              ↔ m'.RefusedAtLimit S maxSubscriberNum recordInfo.pid := by
            rw [refusedAtLimit_iff hclear, refusedAtLimit_iff hclear']
            unfold checkSubscriberCountReachedMaxinum
            rw [h.length]
            simp only [hcount]
          -- clear of a tie, both are refused or neither is
          obtain ⟨hrefused, heq⟩ | ⟨hrefused, heq⟩ :=
            insertSubscriber_of_new (m := m) S maxSubscriberNum hwell hfind recordInfo
          all_goals
            obtain ⟨hrefused', heq'⟩ | ⟨hrefused', heq'⟩ := insertSubscriber_of_new
              (m := m') S maxSubscriberNum hwell (h.getSubscriberRecord_none hfind) recordInfo
          · rw [heq, heq']
            exact ((alike_withRecord info recordInfo hm).symm.trans h).trans
              (alike_withRecord info recordInfo hm')
          · exact absurd (hsame.mp hrefused) hrefused'
          · exact absurd (hsame.mpr hrefused') hrefused
          · rw [heq, heq']
            exact h.withSubscriber info recordInfo hm hm' hfind
      · rw [insertSubscriber_of_not_wellFormed S _ hwell,
          insertSubscriber_of_not_wellFormed S _ hwell]
        exact h

/-- A subscription leaves the records it is not about. -/
theorem KeepsRegistered.insertSubscriber (S : StdSort) (maxSubscriberNum : ℕ)
    (info : Option CommonEventSubscribeInfo) (listener : Option Remote)
    (recordInfo : EventRecordInfo) :
    KeepsRegistered m (m.insertSubscriber S maxSubscriberNum info listener recordInfo).2 := by
  have hrefl : KeepsRegistered m m :=
    ⟨le_refl _, fun _ _ => Iff.rfl, fun _ _ => rfl, fun _ _ _ => rfl⟩
  cases info with
  | none => exact hrefl
  | some info =>
    cases listener with
    | none => exact hrefl
    | some listener =>
      by_cases hwell : WellFormed info
      · cases hfind : m.getSubscriberRecord listener with
        | some record =>
          rw [insertSubscriber_of_known S _ hwell hfind]
          exact .update S (SubscriberManager.getSubscriberRecord_some hfind).1 info recordInfo
        | none =>
          have hheap : ∀ r < m.nextAddr,
              (m.withRecord info listener recordInfo).heap r = m.heap r :=
            fun r hr => Function.update_of_ne (Nat.ne_of_lt hr) _ _
          obtain ⟨-, heq⟩ | ⟨-, heq⟩ :=
            insertSubscriber_of_new (m := m) S maxSubscriberNum hwell hfind recordInfo
          · rw [heq]
            exact ⟨Nat.le_succ _, fun _ _ => Iff.rfl,
              fun r hr => congrArg EventSubscriberRecord.commonEventListener (hheap r hr),
              fun r hr _ => hheap r hr⟩
          · rw [heq]
            refine ⟨Nat.le_succ _, fun r hr => ?_,
              fun r hr => congrArg EventSubscriberRecord.commonEventListener (hheap r hr),
              fun r hr _ => hheap r hr⟩
            show r ∈ m.subscribers ++ [m.nextAddr] ↔ _
            rw [List.mem_append, List.mem_singleton, or_iff_left (Nat.ne_of_lt hr)]
      · rw [insertSubscriber_of_not_wellFormed S _ hwell]
        exact hrefl

/-! ## The compaction -/

/-- **The index lists every record as often as it gives the name.** -/
def ListsAsNamed (m : SubscriberManager δ π) : Prop :=
  ∀ r ∈ m.subscribers, ∀ event,
    (subscribersOf m.eventSubscribers event).count r = (m.eventsOf r).count event

/-- **The compaction changes nothing but addresses**, where the index lists
every record as often as it gives the name. -/
theorem alike_compact (h : m.IndexSound) (hlists : m.ListsAsNamed) :
    Alike m m.compactSubscriberDataStructures := by
  have hrecords := map_heap_compact h.allocated
  refine ⟨hrecords, fun event l => ?_⟩
  cases hfind : m.getSubscriberRecord l with
  | none =>
    have hnone : m.compactSubscriberDataStructures.recordOf l = none := by
      rw [recordOf_compact h.allocated, recordOf, hfind]
      rfl
    rw [listedFor_of_not_registered h (SubscriberManager.getSubscriberRecord_none hfind),
      listedFor_of_not_registered h.compact (recordOf_eq_none.mp hnone)]
  | some r =>
    obtain ⟨hr, hlistener⟩ := getSubscriberRecord_some hfind
    have hsome : m.compactSubscriberDataStructures.recordOf l = some (m.heap r) := by
      rw [recordOf_compact h.allocated, recordOf, hfind]
      rfl
    obtain ⟨r', hfind', hheap⟩ := Option.map_eq_some_iff.mp hsome
    obtain ⟨hr', hlistener'⟩ := getSubscriberRecord_some hfind'
    have hlisted := listedFor_of_mem h hr event
    have hlisted' := listedFor_of_mem h.compact hr' event
    rw [hlistener] at hlisted
    rw [hlistener'] at hlisted'
    rw [hlisted, hlisted', count_compact h.allocated, if_pos hr', hlists r hr event]
    unfold eventsOf
    rw [hheap]

/-! ### Which record is copied to which -/

/-- The copy the compaction makes of a record, where it makes one. -/
def copyOf (m : SubscriberManager δ π) (r : SubscriberRecordPtr) : SubscriberRecordPtr :=
  if r ∈ m.subscribers then m.nextAddr + m.subscribers.idxOf r else r

/-- **A registered record is copied** to a registered one that holds the
same. -/
theorem copyOf_of_mem (h : m.Allocated) {r : SubscriberRecordPtr} (hr : r ∈ m.subscribers) :
    m.copyOf r ∈ m.compactSubscriberDataStructures.subscribers
      ∧ m.compactSubscriberDataStructures.heap (m.copyOf r) = m.heap r := by
  have hlt : m.subscribers.idxOf r < m.subscribers.length := List.idxOf_lt_length_iff.mpr hr
  have hcopy : m.copyOf r = m.nextAddr + m.subscribers.idxOf r := if_pos hr
  have hsubscribers := subscribers_compact h
  have hget : m.compactSubscriberDataStructures.subscribers[m.subscribers.idxOf r]?
      = some (m.copyOf r) := by
    rw [hsubscribers, hcopy, List.getElem?_range' (by simpa using hlt)]
    simp
  refine ⟨List.mem_of_getElem? hget, ?_⟩
  have hrecords := congrArg (fun records => records[m.subscribers.idxOf r]?) (map_heap_compact h)
  rw [List.getElem?_map, List.getElem?_map, hget, List.getElem?_eq_getElem hlt,
    List.getElem_idxOf] at hrecords
  exact Option.some.inj hrecords

/-- A record that is not registered is not copied, and is left as it is. -/
theorem copyOf_of_not_mem (h : m.Allocated) {r : SubscriberRecordPtr} (hr : r ∉ m.subscribers)
    (hlt : r < m.nextAddr) :
    m.copyOf r = r ∧ r ∉ m.compactSubscriberDataStructures.subscribers
      ∧ m.compactSubscriberDataStructures.heap r = m.heap r := by
  refine ⟨if_neg hr, ?_, (compacted_compact h).heap_old r hlt⟩
  rw [subscribers_compact h, List.mem_range'_1]
  exact fun hmem => absurd hlt (Nat.not_lt.mpr hmem.1)

end SubscriberManager

end CommonEventService

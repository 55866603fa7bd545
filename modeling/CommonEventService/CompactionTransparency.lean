import CommonEventService.SubscriberAlike

/-!
# Is the compaction seen?

The compaction replaces every registered record by a copy. A publication in
flight holds the records it selected, and whether a receiver is notified or
the event kept for it is decided by the flag of the record held, at the time
its turn comes. After a compaction a freeze writes to the copy; so what
becomes of a receiver may depend on whether there was a compaction in between.

The machine here is the subscriber manager under publications, freezes and
subscriptions, with the publications in flight. A notification names its
publication and its listener, so that two runs can be compared whose receivers
come in another order. `latest` says which record stands for a record that was
copied; no step reads it, and `Untouched` is by it the condition on a step:
no record is tested whose copy has another flag, no subscription is decided by
the counts where they are not clear, and nothing is compacted that the index
does not list as it is named. Under it the two runs, with a compaction first
and without, come to the same.
-/

namespace CommonEventService

/-- What becomes of a receiver whose turn it is. -/
inductive Outcome where
  | notified
  | buffered
  deriving DecidableEq, Repr

/-- **The publications in flight**, and the subscriber manager under them. -/
structure Deliveries (δ π : Type) where
  manager : SubscriberManager δ π := {}
  publications : List (CommonEventRecord δ π) := []
  /-- The receivers whose turn is still to come, each with its publication. -/
  inFlight : List (ℕ × SubscriberRecordPtr) := []
  outcomes : List (ℕ × Remote × Outcome) := []
  /-- For each ordered publication the priorities of its receivers, in the
  order in which they are to be notified. -/
  priorities : List (List Int) := []
  /-- The record that stands for a record by now. -/
  latest : SubscriberRecordPtr → SubscriberRecordPtr := id

/-- **The labels of the machine.** -/
inductive DeliveriesLabel (δ π : Type) where
  | insertSubscriber (maxSubscriberNum : ℕ)
      (eventSubscribeInfo : Option CommonEventSubscribeInfo)
      (commonEventListener : Option Remote) (eventRecordInfo : EventRecordInfo)
  | removeSubscriber (commonEventListener : Option Remote)
  /-- A publication, ordered or not; `view` is what its pointers point to. -/
  | publish (ordered : Bool) (eventRecord : CommonEventRecord δ π) (view : EventRecord)
  /-- A sticky event is published to a new subscriber. -/
  | publishTo (eventRecord : CommonEventRecord δ π) (commonEventListener : Remote)
  /-- A receiver's turn has come. -/
  | notify (publication : ℕ) (commonEventListener : Remote)
  | freeze (uid : Uid) (now : Int)
  | unfreeze (uid : Uid)
  | setFreezeStatus (pidList : List Pid) (isFreeze : Bool) (now : Int)
  | unfreezeAll

namespace Deliveries

variable {δ π : Type} (P : Platform) (S : StdSort) (s : Deliveries δ π)

/-- The state after `CompactSubscriberDataStructures`. -/
def compact : Deliveries δ π :=
  { s with
    manager := s.manager.compactSubscriberDataStructures
    latest := fun r => s.manager.copyOf (s.latest r) }

/-- `GetSubscriberRecords` compacts, for this event. -/
def Compacts (view : EventRecord) : Prop :=
  (!s.manager.hasCompacted) = true ∧ view.commonEventData.want.action = COMMON_EVENT_SCREEN_OFF

instance (view : EventRecord) : Decidable (s.Compacts view) :=
  inferInstanceAs (Decidable (_ ∧ _))

/-- The receivers `GetSubscriberRecords` selects, and the state after it. -/
def getSubscriberRecords (view : EventRecord) : List SubscriberRecordPtr × Deliveries δ π :=
  let (receivers, manager) := s.manager.getSubscriberRecords P view
  (receivers,
    { s with
      manager := manager
      latest := if s.Compacts view then fun r => s.manager.copyOf (s.latest r) else s.latest })

/-- A publication and its receivers are put on the way. -/
def enqueue (eventRecord : CommonEventRecord δ π) (receivers : List SubscriberRecordPtr) :
    Deliveries δ π :=
  { s with
    publications := s.publications ++ [eventRecord]
    inFlight := s.inFlight ++ receivers.map (fun r => (s.publications.length, r)) }

/-- The priority a record has. -/
def priorityOf (r : SubscriberRecordPtr) : Int := (s.manager.heap r).eventSubscribeInfo.priority

/-- `ProcessOrderedEvent`, or `ProcessUnorderedEvent`: the receivers of an
ordered event are sorted, greatest priority first. -/
def publish (ordered : Bool) (eventRecord : CommonEventRecord δ π) (view : EventRecord) :
    Deliveries δ π :=
  let (receivers, s) := s.getSubscriberRecords P view
  if ordered then
    let receivers :=
      S.sort (fun first second => decide (s.priorityOf first > s.priorityOf second)) receivers
    { s.enqueue eventRecord receivers with
      priorities := s.priorities ++ [receivers.map s.priorityOf] }
  else s.enqueue eventRecord receivers

/-- The event is kept for a receiver, in both buffers. -/
def buffer (delivery : ℕ × SubscriberRecordPtr) : SubscriberManager δ π :=
  match s.publications[delivery.1]? with
  | none => s.manager
  | some eventRecord =>
    (s.manager.insertFrozenEvents delivery.2 eventRecord).insertFrozenEventsMap delivery.2
      eventRecord

/-- What becomes of a receiver: `NotifySingleUnorderedSubscriber`, or the test
of `NotifyOrderedEvent`. -/
def notifySubscriber (delivery : ℕ × SubscriberRecordPtr) : Deliveries δ π :=
  let l := s.manager.listenerOf delivery.2
  if (s.manager.heap delivery.2).isFreeze then
    { s with
      manager := s.buffer delivery
      inFlight := s.inFlight.erase delivery
      outcomes := s.outcomes ++ [(delivery.1, l, .buffered)] }
  else
    { s with
      inFlight := s.inFlight.erase delivery
      outcomes := s.outcomes ++ [(delivery.1, l, .notified)] }

/-- The receiver of a publication that has a listener. -/
def receiver (publication : ℕ) (commonEventListener : Remote) :
    Option (ℕ × SubscriberRecordPtr) :=
  s.inFlight.find? (fun delivery =>
    decide (delivery.1 = publication ∧ s.manager.listenerOf delivery.2 = commonEventListener))

/-- **One step.** -/
def step : DeliveriesLabel δ π → Option (Deliveries δ π)
  | .insertSubscriber maxSubscriberNum info listener recordInfo =>
    some { s with
      manager := (s.manager.insertSubscriber S maxSubscriberNum info listener recordInfo).2 }
  | .removeSubscriber listener => some { s with manager := s.manager.removeSubscriber listener }
  | .publish ordered eventRecord view => some (s.publish P S ordered eventRecord view)
  | .publishTo eventRecord listener =>
    (s.manager.getSubscriberRecord listener).map (fun r => s.enqueue eventRecord [r])
  | .notify publication listener => (s.receiver publication listener).map s.notifySubscriber
  | .freeze uid now => some { s with manager := s.manager.updateFreezeInfoByUid uid true now }
  | .unfreeze uid => some { s with manager := s.manager.updateFreezeInfoByUid uid false 0 }
  | .setFreezeStatus pidList isFreeze now =>
    some { s with manager := s.manager.updateFreezeInfoByPids pidList isFreeze now }
  | .unfreezeAll => some { s with manager := s.manager.updateAllFreezeInfos false 0 }

end Deliveries

/-- **The publications in flight as a machine.** -/
def deliveriesMachine (P : Platform) (S : StdSort) (δ π : Type) :
    Machine (Deliveries δ π) (DeliveriesLabel δ π) where
  init := {}
  step := Deliveries.step P S

namespace Deliveries

variable {δ π : Type} {P : Platform} {S : StdSort} {s t : Deliveries δ π}

/-- **The condition on a step.** -/
def Untouched (s : Deliveries δ π) : DeliveriesLabel δ π → Prop
  | .insertSubscriber maxSubscriberNum _ listener recordInfo =>
    ∀ l, listener = some l → s.manager.getSubscriberRecord l = none →
      s.manager.LimitClear maxSubscriberNum recordInfo.pid
  | .publish _ _ view => s.Compacts view → s.manager.ListsAsNamed
  | .notify publication listener =>
    ∀ delivery, s.receiver publication listener = some delivery →
      (s.manager.heap delivery.2).isFreeze = (s.manager.heap (s.latest delivery.2)).isFreeze
  | _ => True

/-- The receivers of a publication that are still to come, by listener. -/
def waiting (s : Deliveries δ π) (publication : ℕ) (listener : Remote) : ℕ :=
  s.inFlight.countP (fun delivery =>
    decide (delivery.1 = publication ∧ s.manager.listenerOf delivery.2 = listener))

/-- **The same has become of the receivers**, and the same are still to come. -/
structure SameOutcomes (s t : Deliveries δ π) : Prop where
  outcomes : t.outcomes = s.outcomes
  waiting : ∀ publication listener, t.waiting publication listener = s.waiting publication listener
  priorities : t.priorities = s.priorities

/-! ## What holds in every state -/

/-- **What is in flight, and what stands for it.** -/
structure Sound (s : Deliveries δ π) : Prop where
  index : s.manager.IndexSound
  allocated : ∀ delivery ∈ s.inFlight, delivery.2 < s.manager.nextAddr
  published : ∀ delivery ∈ s.inFlight, delivery.1 < s.publications.length
  /-- A publication has one record for a listener. -/
  one : ∀ publication r r', (publication, r) ∈ s.inFlight → (publication, r') ∈ s.inFlight →
    s.manager.listenerOf r = s.manager.listenerOf r' → r = r'
  latest_registered : ∀ r ∈ s.manager.subscribers, s.latest r = r
  latest_fresh : ∀ r, s.manager.nextAddr ≤ r → s.latest r = r
  latest_lt : ∀ r < s.manager.nextAddr, s.latest r < s.manager.nextAddr
  latest_listener : ∀ r < s.manager.nextAddr,
    s.manager.listenerOf (s.latest r) = s.manager.listenerOf r

namespace Sound

theorem init : ({} : Deliveries δ π).Sound := by
  refine ⟨⟨by simp [subscribersOf], by simp, fun r hr => absurd hr List.not_mem_nil⟩, nofun, nofun,
    nofun, fun _ _ => rfl, fun _ _ => rfl, fun _ h => h, fun _ _ => rfl⟩

/-- A call that registers new records alone, and leaves the listeners. -/
theorem manager (h : s.Sound) {m : SubscriberManager δ π} (hindex : m.IndexSound)
    (hnext : s.manager.nextAddr ≤ m.nextAddr)
    (hregistered : ∀ r < s.manager.nextAddr, r ∈ m.subscribers → r ∈ s.manager.subscribers)
    (hlistener : ∀ r < s.manager.nextAddr, m.listenerOf r = s.manager.listenerOf r) :
    ({ s with manager := m } : Deliveries δ π).Sound := by
  refine ⟨hindex, fun d hd => Nat.lt_of_lt_of_le (h.allocated d hd) hnext, h.published, ?_, ?_,
    fun r hr => h.latest_fresh r (hnext.trans hr), ?_, ?_⟩
  · intro publication r r' hr hr' heq
    refine h.one publication r r' hr hr' ?_
    rw [← hlistener r (h.allocated _ hr), ← hlistener r' (h.allocated _ hr')]
    exact heq
  · intro r hr
    obtain hlt | hge := Nat.lt_or_ge r s.manager.nextAddr
    · exact h.latest_registered r (hregistered r hlt hr)
    · exact h.latest_fresh r hge
  · intro r hr
    obtain hlt | hge := Nat.lt_or_ge r s.manager.nextAddr
    · exact Nat.lt_of_lt_of_le (h.latest_lt r hlt) hnext
    · show s.latest r < m.nextAddr
      rw [h.latest_fresh r hge]
      exact hr
  · intro r hr
    show m.listenerOf (s.latest r) = m.listenerOf r
    obtain hlt | hge := Nat.lt_or_ge r s.manager.nextAddr
    · rw [hlistener _ (h.latest_lt r hlt), hlistener r hlt, h.latest_listener r hlt]
    · rw [h.latest_fresh r hge]

theorem keepsRegistered (h : s.Sound) {m : SubscriberManager δ π} (hindex : m.IndexSound)
    (hkeeps : s.manager.KeepsRegistered m) : ({ s with manager := m } : Deliveries δ π).Sound :=
  h.manager hindex hkeeps.nextAddr (fun r hlt => (hkeeps.registered r hlt).mp) hkeeps.listenerOf

/-- What `copyOf` does to the listener of a record. -/
theorem listenerOf_copyOf (h : s.Sound) {r : SubscriberRecordPtr} (hr : r < s.manager.nextAddr) :
    s.manager.compactSubscriberDataStructures.listenerOf (s.manager.copyOf r)
      = s.manager.listenerOf r := by
  unfold SubscriberManager.listenerOf
  by_cases hmem : r ∈ s.manager.subscribers
  · rw [(SubscriberManager.copyOf_of_mem h.index.allocated hmem).2]
  · obtain ⟨hcopy, -, hheap⟩ := SubscriberManager.copyOf_of_not_mem h.index.allocated hmem hr
    rw [hcopy, hheap]

theorem compact (h : s.Sound) : s.compact.Sound := by
  have hc := SubscriberManager.compacted_compact h.index.allocated
  have hsubscribers := SubscriberManager.subscribers_compact h.index.allocated
  have hnext : s.manager.compactSubscriberDataStructures.nextAddr
      = s.manager.nextAddr + s.manager.subscribers.length := hc.nextAddr
  have hlistener : ∀ r < s.manager.nextAddr,
      s.manager.compactSubscriberDataStructures.listenerOf r = s.manager.listenerOf r :=
    fun r hr => congrArg EventSubscriberRecord.commonEventListener (hc.heap_old r hr)
  -- an address not given out before the compaction is not copied
  have hfresh : ∀ r, s.manager.nextAddr ≤ r → s.compact.latest r = r := by
    intro r hr
    show s.manager.copyOf (s.latest r) = r
    rw [h.latest_fresh r hr, SubscriberManager.copyOf, if_neg]
    exact fun hmem => absurd (h.index.allocated r hmem) (Nat.not_lt.mpr hr)
  refine ⟨h.index.compact, ?_, h.published, ?_, ?_, ?_, ?_, ?_⟩
  · intro d hd
    show d.2 < s.manager.compactSubscriberDataStructures.nextAddr
    rw [hnext]
    exact Nat.lt_add_right _ (h.allocated d hd)
  · intro publication r r' hr hr' heq
    refine h.one publication r r' hr hr' ?_
    rw [← hlistener r (h.allocated _ hr), ← hlistener r' (h.allocated _ hr')]
    exact heq
  · intro r hr
    change r ∈ s.manager.compactSubscriberDataStructures.subscribers at hr
    rw [hsubscribers, List.mem_range'_1] at hr
    exact hfresh r hr.1
  · intro r hr
    change s.manager.compactSubscriberDataStructures.nextAddr ≤ r at hr
    rw [hnext] at hr
    exact hfresh r ((Nat.le_add_right _ _).trans hr)
  · intro r hr
    obtain hlt | hge := Nat.lt_or_ge r s.manager.nextAddr
    · show s.manager.copyOf (s.latest r) < s.manager.compactSubscriberDataStructures.nextAddr
      by_cases hmem : s.latest r ∈ s.manager.subscribers
      · exact h.index.compact.allocated _
          (SubscriberManager.copyOf_of_mem h.index.allocated hmem).1
      · rw [(SubscriberManager.copyOf_of_not_mem h.index.allocated hmem (h.latest_lt r hlt)).1,
          hnext]
        exact Nat.lt_add_right _ (h.latest_lt r hlt)
    · rw [hfresh r hge]
      exact hr
  · intro r hr
    obtain hlt | hge := Nat.lt_or_ge r s.manager.nextAddr
    · show s.manager.compactSubscriberDataStructures.listenerOf (s.manager.copyOf (s.latest r)) = _
      rw [h.listenerOf_copyOf (h.latest_lt r hlt), h.latest_listener r hlt]
      exact (hlistener r hlt).symm
    · rw [hfresh r hge]

/-- New receivers are put on the way. -/
theorem enqueue (h : s.Sound) (eventRecord : CommonEventRecord δ π)
    {receivers : List SubscriberRecordPtr}
    (hreceivers : ∀ r ∈ receivers, r ∈ s.manager.subscribers) :
    (s.enqueue eventRecord receivers).Sound := by
  have hcases : ∀ d, d ∈ (s.enqueue eventRecord receivers).inFlight →
      d ∈ s.inFlight ∨ d.1 = s.publications.length ∧ d.2 ∈ s.manager.subscribers := by
    intro d hd
    obtain hd | hd := List.mem_append.mp hd
    · exact .inl hd
    · obtain ⟨r, hr, rfl⟩ := List.mem_map.mp hd
      exact .inr ⟨rfl, hreceivers r hr⟩
  refine ⟨h.index, ?_, ?_, ?_, h.latest_registered, h.latest_fresh, h.latest_lt,
    h.latest_listener⟩
  · intro d hd
    obtain hd | ⟨-, hd⟩ := hcases d hd
    · exact h.allocated d hd
    · exact h.index.allocated _ hd
  · intro d hd
    show d.1 < (s.publications ++ [eventRecord]).length
    rw [List.length_append]
    obtain hd | ⟨hd, -⟩ := hcases d hd
    · exact Nat.lt_add_right _ (h.published d hd)
    · rw [hd]
      exact Nat.lt_succ_self _
  · intro publication r r' hr hr' heq
    obtain hr | ⟨hp, hr⟩ := hcases _ hr
    · obtain hr' | ⟨hp', -⟩ := hcases _ hr'
      · exact h.one publication r r' hr hr' heq
      · exact absurd (h.published _ hr) (Nat.not_lt.mpr (Nat.le_of_eq hp'.symm))
    · obtain hr' | ⟨-, hr'⟩ := hcases _ hr'
      · exact absurd (h.published _ hr') (Nat.not_lt.mpr (Nat.le_of_eq hp.symm))
      · exact h.index.listener_inj hr hr' heq

end Sound

/-! ## What a step does -/

/-- Looking up the receivers compacts, or leaves everything. -/
theorem getSubscriberRecords_cases (s : Deliveries δ π) (view : EventRecord) :
    ∃ next, (s.Compacts view ∧ next = s.compact ∨ ¬ s.Compacts view ∧ next = s)
      ∧ s.getSubscriberRecords P view
        = (next.manager.getSubscriberRecordsByWantLocked P view, next) := by
  unfold getSubscriberRecords SubscriberManager.getSubscriberRecords
  by_cases h : s.Compacts view
  · refine ⟨s.compact, .inl ⟨h, rfl⟩, ?_⟩
    dsimp only
    rw [if_pos h, if_pos (show _ ∧ _ from h)]
    rfl
  · refine ⟨s, .inr ⟨h, rfl⟩, ?_⟩
    dsimp only
    rw [if_neg h, if_neg (show ¬ (_ ∧ _) from h)]

/-- What is selected is registered. -/
theorem registered_of_selected (h : s.Sound) {view : EventRecord} {r : SubscriberRecordPtr}
    (hr : r ∈ s.manager.getSubscriberRecordsByWantLocked P view) : r ∈ s.manager.subscribers :=
  (h.index.mem_subscribersOf (List.mem_filter.mp hr).1).1

/-- The receivers of an ordered event, sorted. -/
def sorted (S : StdSort) (s : Deliveries δ π) (receivers : List SubscriberRecordPtr) :
    List SubscriberRecordPtr :=
  S.sort (fun first second => decide (s.priorityOf first > s.priorityOf second)) receivers

/-- **What a publication does**: a compaction or none, and then the receivers
are put on the way, sorted if it is ordered. -/
theorem publish_cases (s : Deliveries δ π) (ordered : Bool)
    (eventRecord : CommonEventRecord δ π) (view : EventRecord) :
    ∃ next, (s.Compacts view ∧ next = s.compact ∨ ¬ s.Compacts view ∧ next = s)
      ∧ s.publish P S ordered eventRecord view
        = if ordered then
            { next.enqueue eventRecord
                (next.sorted S (next.manager.getSubscriberRecordsByWantLocked P view)) with
              priorities := next.priorities
                ++ [(next.sorted S (next.manager.getSubscriberRecordsByWantLocked P
                  view)).map next.priorityOf] }
          else next.enqueue eventRecord (next.manager.getSubscriberRecordsByWantLocked P view) := by
  obtain ⟨next, hnext, heq⟩ := s.getSubscriberRecords_cases (P := P) view
  refine ⟨next, hnext, ?_⟩
  unfold publish
  rw [heq]
  rfl

theorem receiver_some {publication : ℕ} {listener : Remote} {delivery : ℕ × SubscriberRecordPtr}
    (h : s.receiver publication listener = some delivery) :
    delivery ∈ s.inFlight ∧ delivery.1 = publication
      ∧ s.manager.listenerOf delivery.2 = listener := by
  have hfound := List.find?_some h
  exact ⟨List.mem_of_find?_eq_some h, of_decide_eq_true hfound⟩

/-- What `buffer` does to the manager is no matter of its records. -/
theorem buffer_frame (s : Deliveries δ π) (delivery : ℕ × SubscriberRecordPtr) :
    ∃ frozenEvents frozenEventsMap, s.buffer delivery
      = { s.manager with
          frozenEvents := frozenEvents
          frozenEventsMap := frozenEventsMap } := by
  unfold buffer
  split
  · exact ⟨s.manager.frozenEvents, s.manager.frozenEventsMap, rfl⟩
  · exact ⟨_, _, rfl⟩

/-- **What becomes of a receiver**, by its flag. -/
theorem notifySubscriber_eq (s : Deliveries δ π) (delivery : ℕ × SubscriberRecordPtr) :
    ∃ frozenEvents frozenEventsMap, s.notifySubscriber delivery
      = { s with
          manager := { s.manager with
            frozenEvents := frozenEvents
            frozenEventsMap := frozenEventsMap }
          inFlight := s.inFlight.erase delivery
          outcomes := s.outcomes ++ [(delivery.1, s.manager.listenerOf delivery.2,
            if (s.manager.heap delivery.2).isFreeze then .buffered else .notified)] } := by
  obtain ⟨frozenEvents, frozenEventsMap, hbuffer⟩ := s.buffer_frame delivery
  unfold notifySubscriber
  dsimp only
  rw [hbuffer]
  split
  · exact ⟨frozenEvents, frozenEventsMap, rfl⟩
  · exact ⟨s.manager.frozenEvents, s.manager.frozenEventsMap, rfl⟩

theorem Sound.notifySubscriber (h : s.Sound) (delivery : ℕ × SubscriberRecordPtr) :
    (s.notifySubscriber delivery).Sound := by
  obtain ⟨frozenEvents, frozenEventsMap, heq⟩ := s.notifySubscriber_eq delivery
  have hsound := h.manager (m := { s.manager with
      frozenEvents := frozenEvents
      frozenEventsMap := frozenEventsMap }) (h.index.sameIndex (.buffers _ _ _)) (le_refl _)
    (fun _ _ hr => hr) (fun _ _ => rfl)
  rw [heq]
  have hsub : ∀ d, d ∈ s.inFlight.erase delivery → d ∈ s.inFlight :=
    fun d hd => List.mem_of_mem_erase hd
  exact ⟨hsound.index, fun d hd => h.allocated d (hsub d hd), fun d hd => h.published d (hsub d hd),
    fun p r r' hr hr' => h.one p r r' (hsub _ hr) (hsub _ hr'), h.latest_registered, h.latest_fresh,
    h.latest_lt, h.latest_listener⟩

theorem Sound.removeSubscriber (h : s.Sound) (listener : Option Remote) :
    ({ s with manager := s.manager.removeSubscriber listener } : Deliveries δ π).Sound := by
  cases listener with
  | none => exact h
  | some listener =>
    have hsame : ∀ r, (s.manager.removeSubscriberRecordLocked listener).listenerOf r
        = s.manager.listenerOf r := by
      intro r
      unfold SubscriberManager.removeSubscriberRecordLocked
      split <;> rfl
    refine h.manager (h.index.remove listener) ?_ (fun r _ hr => ?_) (fun r _ => hsame r)
    · unfold SubscriberManager.removeSubscriber SubscriberManager.removeSubscriberRecordLocked
      dsimp only
      split <;> exact le_refl _
    · change r ∈ (s.manager.removeSubscriberRecordLocked listener).subscribers at hr
      unfold SubscriberManager.removeSubscriberRecordLocked at hr
      split at hr
      · exact List.mem_of_mem_erase hr
      · exact hr

theorem Sound.updateFreezeInfo (h : s.Sound) (chosen : EventSubscriberRecord → Bool)
    (freezeState : Bool) (freezeTime : Int) :
    ({ s with manager := s.manager.updateFreezeInfo chosen freezeState freezeTime }
      : Deliveries δ π).Sound :=
  h.keepsRegistered (h.index.sameIndex (.updateFreezeInfo _ _ _ _)) (.updateFreezeInfo _ _ _ _)

theorem Sound.publish (h : s.Sound) (ordered : Bool) (eventRecord : CommonEventRecord δ π)
    (view : EventRecord) : (s.publish P S ordered eventRecord view).Sound := by
  obtain ⟨next, hnext, heq⟩ := s.publish_cases (P := P) (S := S) ordered eventRecord view
  have hsound : next.Sound := by
    obtain ⟨-, rfl⟩ | ⟨-, rfl⟩ := hnext
    · exact h.compact
    · exact h
  have hselected : ∀ r ∈ next.manager.getSubscriberRecordsByWantLocked P view,
      r ∈ next.manager.subscribers := fun r hr => registered_of_selected hsound hr
  rw [heq]
  split
  · have hsorted : ∀ r ∈ next.sorted S (next.manager.getSubscriberRecordsByWantLocked P view),
        r ∈ next.manager.subscribers := fun r hr => hselected r (S.mem_sort.mp hr)
    have henqueue := hsound.enqueue eventRecord hsorted
    exact ⟨henqueue.index, henqueue.allocated, henqueue.published, henqueue.one,
      henqueue.latest_registered, henqueue.latest_fresh, henqueue.latest_lt,
      henqueue.latest_listener⟩
  · exact hsound.enqueue eventRecord hselected

/-- **Every step keeps the state sound.** -/
theorem Sound.step (h : s.Sound) {l : DeliveriesLabel δ π} (hstep : s.step P S l = some t) :
    t.Sound := by
  cases l with
  | insertSubscriber maxSubscriberNum info listener recordInfo =>
    cases hstep
    exact h.keepsRegistered
      (SubscriberIndex.indexSound_apply S h.index
        (.insertSubscriber maxSubscriberNum info listener recordInfo))
      (.insertSubscriber S maxSubscriberNum info listener recordInfo)
  | removeSubscriber listener =>
    cases hstep
    exact h.removeSubscriber listener
  | publish ordered eventRecord view =>
    cases hstep
    exact h.publish ordered eventRecord view
  | publishTo eventRecord listener =>
    obtain ⟨r, hr, rfl⟩ := Option.map_eq_some_iff.mp hstep
    refine h.enqueue eventRecord fun r' hr' => ?_
    obtain rfl : r' = r := List.mem_singleton.mp hr'
    exact (SubscriberManager.getSubscriberRecord_some hr).1
  | notify publication listener =>
    obtain ⟨delivery, -, rfl⟩ := Option.map_eq_some_iff.mp hstep
    exact h.notifySubscriber delivery
  | freeze uid now =>
    cases hstep
    exact h.updateFreezeInfo _ _ _
  | unfreeze uid =>
    cases hstep
    exact h.updateFreezeInfo _ _ _
  | setFreezeStatus pidList isFreeze now =>
    cases hstep
    exact h.updateFreezeInfo _ _ _
  | unfreezeAll =>
    cases hstep
    exact h.updateFreezeInfo _ _ _

/-! ## What two runs have in common -/

/-- What decides over a receiver: nothing of its own while it is registered,
and its flag once it is not. -/
def standing (s : Deliveries δ π) (r : SubscriberRecordPtr) : Option Bool :=
  if s.latest r ∈ s.manager.subscribers then none
  else some (s.manager.heap (s.latest r)).isFreeze

/-- A receiver, without its address. -/
def view (s : Deliveries δ π) (delivery : ℕ × SubscriberRecordPtr) :
    ℕ × Remote × Option Bool :=
  (delivery.1, s.manager.listenerOf delivery.2, s.standing delivery.2)

/-- **Two states that are alike**: nothing but the addresses, and the order of
the receivers, tells one from the other. -/
structure Alike (s t : Deliveries δ π) : Prop where
  manager : s.manager.Alike t.manager
  publications : t.publications = s.publications
  inFlight : (t.inFlight.map t.view).Perm (s.inFlight.map s.view)
  outcomes : t.outcomes = s.outcomes
  priorities : t.priorities = s.priorities

theorem Alike.symm (h : Alike s t) : Alike t s :=
  ⟨h.manager.symm, h.publications.symm, h.inFlight.symm, h.outcomes.symm, h.priorities.symm⟩

theorem Alike.trans {u : Deliveries δ π} (h : Alike s t) (h' : Alike t u) : Alike s u :=
  ⟨h.manager.trans h'.manager, h'.publications.trans h.publications, h'.inFlight.trans h.inFlight,
    h'.outcomes.trans h.outcomes, h'.priorities.trans h.priorities⟩

theorem Alike.refl (s : Deliveries δ π) : Alike s s :=
  ⟨.refl _, rfl, .refl _, rfl, rfl⟩

/-- States that are alike have had the same outcomes. -/
theorem Alike.sameOutcomes (h : Alike s t) : SameOutcomes s t := by
  refine ⟨h.outcomes, fun publication listener => ?_, h.priorities⟩
  have hcount := h.inFlight.countP_eq (fun entry : ℕ × Remote × Option Bool =>
    decide (entry.1 = publication ∧ entry.2.1 = listener))
  rw [List.countP_map, List.countP_map] at hcount
  exact hcount

/-- A call that leaves the records it is not about leaves the receivers in
flight as they are. -/
theorem map_view_keepsRegistered (h : s.Sound) {m : SubscriberManager δ π}
    (hkeeps : s.manager.KeepsRegistered m) :
    s.inFlight.map ({ s with manager := m } : Deliveries δ π).view = s.inFlight.map s.view := by
  refine List.map_congr_left fun d hd => ?_
  have hlt := h.allocated d hd
  have hlatest := h.latest_lt d.2 hlt
  have hstanding : ({ s with manager := m } : Deliveries δ π).standing d.2 = s.standing d.2 := by
    show (if s.latest d.2 ∈ m.subscribers then none else some (m.heap (s.latest d.2)).isFreeze) = _
    unfold standing
    rw [if_congr (hkeeps.registered _ hlatest) rfl rfl]
    split
    · rfl
    next hnot => rw [hkeeps.heap _ hlatest hnot]
  show (d.1, m.listenerOf d.2, _) = (d.1, s.manager.listenerOf d.2, _)
  rw [hkeeps.listenerOf _ hlt, hstanding]

/-- **The compaction leaves the receivers in flight as they are.** -/
theorem map_view_compact (h : s.Sound) :
    s.inFlight.map s.compact.view = s.inFlight.map s.view := by
  refine List.map_congr_left fun d hd => ?_
  have hlt := h.allocated d hd
  have hlatest := h.latest_lt d.2 hlt
  have hlistener : s.compact.manager.listenerOf d.2 = s.manager.listenerOf d.2 :=
    congrArg EventSubscriberRecord.commonEventListener
      ((SubscriberManager.compacted_compact h.index.allocated).heap_old d.2 hlt)
  have hstanding : s.compact.standing d.2 = s.standing d.2 := by
    show (if s.manager.copyOf (s.latest d.2) ∈ s.manager.compactSubscriberDataStructures.subscribers
      then none
      else some (s.manager.compactSubscriberDataStructures.heap
        (s.manager.copyOf (s.latest d.2))).isFreeze) = _
    unfold standing
    by_cases hmem : s.latest d.2 ∈ s.manager.subscribers
    · rw [if_pos (SubscriberManager.copyOf_of_mem h.index.allocated hmem).1, if_pos hmem]
    · obtain ⟨hcopy, hnot, hheap⟩ :=
        SubscriberManager.copyOf_of_not_mem h.index.allocated hmem hlatest
      rw [hcopy, if_neg hnot, if_neg hmem, hheap]
  unfold view
  rw [hlistener, hstanding]

/-- What a removal makes of a receiver in flight. -/
def removedView (flag : Option Bool) (listener : Remote) (entry : ℕ × Remote × Option Bool) :
    ℕ × Remote × Option Bool :=
  (entry.1, entry.2.1, if entry.2.1 = listener ∧ entry.2.2 = none then flag else entry.2.2)

/-- **A removal fixes the flag of the receivers that have the listener.** -/
theorem map_view_remove (h : s.Sound) (listener : Remote) :
    s.inFlight.map ({ s with
        manager := s.manager.removeSubscriberRecordLocked listener } : Deliveries δ π).view
      = (s.inFlight.map s.view).map (removedView
          ((s.manager.recordOf listener).map EventSubscriberRecord.isFreeze) listener) := by
  rw [List.map_map]
  refine List.map_congr_left fun d hd => ?_
  have hlatest := h.latest_listener d.2 (h.allocated d hd)
  cases hfind : s.manager.getSubscriberRecord listener with
  | none =>
    have hsame : s.manager.removeSubscriberRecordLocked listener = s.manager := by
      unfold SubscriberManager.removeSubscriberRecordLocked
      rw [hfind]
    have hnone : s.manager.recordOf listener = none := congrArg (Option.map s.manager.heap) hfind
    rw [hsame, hnone]
    show s.view d = removedView none listener (s.view d)
    unfold removedView
    split
    next hc => rw [← hc.2]
    next => rfl
  | some record =>
    obtain ⟨hrecord, hlistener⟩ := SubscriberManager.getSubscriberRecord_some hfind
    have hregistry : s.manager.recordOf listener = some (s.manager.heap record) :=
      congrArg (Option.map s.manager.heap) hfind
    have hgone : s.manager.removeSubscriberRecordLocked listener
        = { s.manager.removeSubscriberRecordLocked listener with
            heap := s.manager.heap
            subscribers := s.manager.subscribers.erase record } := by
      unfold SubscriberManager.removeSubscriberRecordLocked
      rw [hfind]
    have hnodup : s.manager.subscribers.Nodup := h.index.listeners.of_map
    rw [hgone, hregistry]
    show (d.1, s.manager.listenerOf d.2,
        if s.latest d.2 ∈ s.manager.subscribers.erase record then none
        else some (s.manager.heap (s.latest d.2)).isFreeze)
      = removedView (some (s.manager.heap record).isFreeze) listener
        (d.1, s.manager.listenerOf d.2, s.standing d.2)
    unfold removedView standing
    by_cases hmem : s.latest d.2 ∈ s.manager.subscribers
    · by_cases hl : s.manager.listenerOf d.2 = listener
      · -- the receiver's subscription is the one that goes
        have heq : s.latest d.2 = record :=
          h.index.listener_inj hmem hrecord (hlatest.trans (hl.trans hlistener.symm))
        have hnot : record ∉ s.manager.subscribers.erase record :=
          fun hin => (hnodup.mem_erase_iff.mp hin).1 rfl
        simp [heq, hnot, hrecord, hl]
      · have hne : s.latest d.2 ≠ record :=
          fun heq => hl (hlatest.symm.trans ((congrArg _ heq).trans hlistener))
        have hin : s.latest d.2 ∈ s.manager.subscribers.erase record :=
          hnodup.mem_erase_iff.mpr ⟨hne, hmem⟩
        simp [hin, hmem, hl]
    · have hnot : s.latest d.2 ∉ s.manager.subscribers.erase record :=
        fun hin => hmem (List.mem_of_mem_erase hin)
      simp [hnot, hmem]

/-- States that are alike stay alike through a compaction of one. -/
theorem alike_compact (h : s.Sound) (hlists : s.manager.ListsAsNamed) : Alike s s.compact := by
  refine ⟨SubscriberManager.alike_compact h.index hlists, rfl, ?_, rfl, rfl⟩
  show (s.inFlight.map s.compact.view).Perm _
  rw [map_view_compact h]

/-! ## One step of two runs -/

theorem Alike.keepsRegistered (h : Alike s t) (hs : s.Sound) (ht : t.Sound)
    {m n : SubscriberManager δ π} (hmanager : m.Alike n) (hm : s.manager.KeepsRegistered m)
    (hn : t.manager.KeepsRegistered n) :
    Alike ({ s with manager := m } : Deliveries δ π) { t with manager := n } := by
  refine ⟨hmanager, h.publications, ?_, h.outcomes, h.priorities⟩
  show (t.inFlight.map _).Perm (s.inFlight.map _)
  rw [map_view_keepsRegistered hs hm, map_view_keepsRegistered ht hn]
  exact h.inFlight

theorem Alike.removeSubscriber (h : Alike s t) (hs : s.Sound) (ht : t.Sound)
    (listener : Option Remote) :
    Alike ({ s with manager := s.manager.removeSubscriber listener } : Deliveries δ π)
      { t with manager := t.manager.removeSubscriber listener } := by
  refine ⟨h.manager.removeSubscriber hs.index ht.index listener, h.publications, ?_, h.outcomes,
    h.priorities⟩
  cases listener with
  | none => exact h.inFlight
  | some listener =>
    show (t.inFlight.map ({ t with
        manager := t.manager.removeSubscriberRecordLocked listener } : Deliveries δ π).view).Perm
      (s.inFlight.map ({ s with
        manager := s.manager.removeSubscriberRecordLocked listener } : Deliveries δ π).view)
    rw [map_view_remove hs, map_view_remove ht, h.manager.recordOf]
    exact h.inFlight.map _

theorem Alike.updateFreezeInfo (h : Alike s t) (hs : s.Sound) (ht : t.Sound)
    (chosen : EventSubscriberRecord → Bool) (freezeState : Bool) (freezeTime : Int) :
    Alike ({ s with
        manager := s.manager.updateFreezeInfo chosen freezeState freezeTime } : Deliveries δ π)
      { t with manager := t.manager.updateFreezeInfo chosen freezeState freezeTime } :=
  h.keepsRegistered hs ht (h.manager.updateFreezeInfo chosen freezeState freezeTime)
    (.updateFreezeInfo _ _ _ _) (.updateFreezeInfo _ _ _ _)

/-- A receiver that is put on the way is registered, and goes by what is
registered. -/
theorem map_view_enqueue (h : s.Sound) {receivers : List SubscriberRecordPtr}
    (hreceivers : ∀ r ∈ receivers, r ∈ s.manager.subscribers) (publication : ℕ) :
    (receivers.map (fun r => (publication, r))).map s.view
      = (receivers.map s.manager.listenerOf).map (fun l => (publication, l, none)) := by
  rw [List.map_map, List.map_map]
  refine List.map_congr_left fun r hr => ?_
  show (publication, s.manager.listenerOf r, s.standing r) = _
  unfold standing
  rw [h.latest_registered r (hreceivers r hr), if_pos (hreceivers r hr)]
  rfl

theorem Alike.enqueue (h : Alike s t) (hs : s.Sound) (ht : t.Sound)
    (eventRecord : CommonEventRecord δ π) {receivers receivers' : List SubscriberRecordPtr}
    (hreceivers : ∀ r ∈ receivers, r ∈ s.manager.subscribers)
    (hreceivers' : ∀ r ∈ receivers', r ∈ t.manager.subscribers)
    (hperm : (receivers'.map t.manager.listenerOf).Perm (receivers.map s.manager.listenerOf)) :
    Alike (s.enqueue eventRecord receivers) (t.enqueue eventRecord receivers') := by
  refine ⟨h.manager, congrArg (· ++ [eventRecord]) h.publications, ?_, h.outcomes, h.priorities⟩
  show ((t.inFlight ++ receivers'.map (fun r => (t.publications.length, r))).map t.view).Perm
    ((s.inFlight ++ receivers.map (fun r => (s.publications.length, r))).map s.view)
  rw [List.map_append, List.map_append, map_view_enqueue hs hreceivers,
    map_view_enqueue ht hreceivers', h.publications]
  exact h.inFlight.append (hperm.map _)

/-- **What two states that are alike select** holds the same. -/
theorem Alike.map_heap_selected (h : Alike s t) (hs : s.Sound) (ht : t.Sound)
    (view : EventRecord) :
    ((t.manager.getSubscriberRecordsByWantLocked P view).map t.manager.heap).Perm
      ((s.manager.getSubscriberRecordsByWantLocked P view).map s.manager.heap) := by
  have hselected : ∀ m : SubscriberManager δ π,
      (m.getSubscriberRecordsByWantLocked P view).map m.heap
        = ((subscribersOf m.eventSubscribers view.commonEventData.want.action).map m.heap).filter
          (fun record => matchesLive P record view) := by
    intro m
    rw [List.filter_map]
    rfl
  rw [hselected, hselected]
  exact (h.manager.map_heap_subscribersOf hs.index ht.index _).filter _

/-- Records that hold the same have the same listeners. -/
theorem map_listenerOf_perm {receivers receivers' : List SubscriberRecordPtr}
    (hperm : (receivers'.map t.manager.heap).Perm (receivers.map s.manager.heap)) :
    (receivers'.map t.manager.listenerOf).Perm (receivers.map s.manager.listenerOf) := by
  have hmap := hperm.map EventSubscriberRecord.commonEventListener
  rw [List.map_map, List.map_map] at hmap
  exact hmap

/-- **The order of an ordered event is the same up to receivers of equal
priority.** -/
theorem map_priorityOf_sorted (S : StdSort) {receivers receivers' : List SubscriberRecordPtr}
    (hperm : (receivers'.map t.manager.heap).Perm (receivers.map s.manager.heap)) :
    (t.sorted S receivers').map t.priorityOf = (s.sorted S receivers).map s.priorityOf := by
  have hdescending : ∀ (u : Deliveries δ π) (rs : List SubscriberRecordPtr),
      ((u.sorted S rs).map u.priorityOf).Pairwise (fun a b => b ≤ a) := by
    intro u rs
    exact List.pairwise_map.mpr (S.sort_pairwise_key u.priorityOf rs)
  have hsame : ((t.sorted S receivers').map t.priorityOf).Perm
      ((s.sorted S receivers).map s.priorityOf) := by
    have hmap := hperm.map (fun record => record.eventSubscribeInfo.priority)
    rw [List.map_map, List.map_map] at hmap
    exact (((S.perm _ receivers').map _).trans hmap).trans ((S.perm _ receivers).map _).symm
  exact hsame.eq_of_pairwise (fun a b _ _ hab hba => le_antisymm hba hab)
    (hdescending t receivers') (hdescending s receivers)

/-- **A publication** selects the same in states that are alike. -/
theorem Alike.publish (h : Alike s t) (hs : s.Sound) (ht : t.Sound) (ordered : Bool)
    (eventRecord : CommonEventRecord δ π) (view : EventRecord)
    (hlists : s.Compacts view → s.manager.ListsAsNamed)
    (hlists' : t.Compacts view → t.manager.ListsAsNamed) :
    Alike (s.publish P S ordered eventRecord view) (t.publish P S ordered eventRecord view) := by
  obtain ⟨next, hnext, heq⟩ := s.publish_cases (P := P) (S := S) ordered eventRecord view
  obtain ⟨next', hnext', heq'⟩ := t.publish_cases (P := P) (S := S) ordered eventRecord view
  -- whichever of the two compacts, they are alike before the lookup
  have hcompact : next.Sound ∧ Alike s next := by
    obtain ⟨hc, hcompacted⟩ | ⟨-, hsame⟩ := hnext
    · rw [hcompacted]
      exact ⟨hs.compact, alike_compact hs (hlists hc)⟩
    · rw [hsame]
      exact ⟨hs, .refl s⟩
  have hcompact' : next'.Sound ∧ Alike t next' := by
    obtain ⟨hc, hcompacted⟩ | ⟨-, hsame⟩ := hnext'
    · rw [hcompacted]
      exact ⟨ht.compact, alike_compact ht (hlists' hc)⟩
    · rw [hsame]
      exact ⟨ht, .refl t⟩
  obtain ⟨hsound, halike⟩ := hcompact
  obtain ⟨hsound', halike'⟩ := hcompact'
  have hboth : Alike next next' := (halike.symm.trans h).trans halike'
  have hselected := hboth.map_heap_selected (P := P) hsound hsound' view
  rw [heq, heq']
  split
  · have hsorted : ∀ r ∈ next.sorted S (next.manager.getSubscriberRecordsByWantLocked P view),
        r ∈ next.manager.subscribers :=
      fun r hr => registered_of_selected hsound (S.mem_sort.mp hr)
    have hsorted' : ∀ r ∈ next'.sorted S (next'.manager.getSubscriberRecordsByWantLocked P view),
        r ∈ next'.manager.subscribers :=
      fun r hr => registered_of_selected hsound' (S.mem_sort.mp hr)
    have henqueue := hboth.enqueue hsound hsound' eventRecord hsorted hsorted'
      (((S.perm _ _).map _).trans
        ((map_listenerOf_perm hselected).trans ((S.perm _ _).map _).symm))
    refine ⟨henqueue.manager, henqueue.publications, henqueue.inFlight, henqueue.outcomes, ?_⟩
    show next'.priorities ++ [_] = next.priorities ++ [_]
    rw [hboth.priorities, map_priorityOf_sorted S hselected]
  · exact hboth.enqueue hsound hsound' eventRecord
      (fun r hr => registered_of_selected hsound hr)
      (fun r hr => registered_of_selected hsound' hr) (map_listenerOf_perm hselected)

/-- **The receiver whose turn it is** is the same in states that are alike. -/
theorem Alike.receiver_some (h : Alike s t) (ht : t.Sound) {publication : ℕ} {listener : Remote}
    {delivery : ℕ × SubscriberRecordPtr}
    (hfind : s.receiver publication listener = some delivery) :
    ∃ delivery', t.receiver publication listener = some delivery'
      ∧ t.view delivery' = s.view delivery := by
  obtain ⟨hmem, hpublication, hlistener⟩ := Deliveries.receiver_some hfind
  obtain ⟨d, hd, hview⟩ := List.mem_map.mp
    (h.inFlight.mem_iff.mpr (List.mem_map_of_mem (f := s.view) hmem))
  have hd₁ : d.1 = publication := (congrArg Prod.fst hview).trans hpublication
  have hd₂ : t.manager.listenerOf d.2 = listener :=
    (congrArg (fun entry => entry.2.1) hview).trans hlistener
  cases hfind' : t.receiver publication listener with
  | none => exact absurd (decide_eq_true ⟨hd₁, hd₂⟩) (List.find?_eq_none.mp hfind' d hd)
  | some delivery' =>
    obtain ⟨hmem', hpublication', hlistener'⟩ := Deliveries.receiver_some hfind'
    -- the publication has one record for the listener
    have hsame : delivery'.2 = d.2 :=
      ht.one publication _ _ (hpublication' ▸ hmem') (hd₁ ▸ hd) (hlistener'.trans hd₂.symm)
    have heq : delivery' = d := Prod.ext (hpublication'.trans hd₁.symm) hsame
    exact ⟨delivery', rfl, heq ▸ hview⟩

theorem Alike.receiver_none (h : Alike s t) (hs : s.Sound) {publication : ℕ} {listener : Remote}
    (hfind : s.receiver publication listener = none) : t.receiver publication listener = none := by
  cases hfind' : t.receiver publication listener with
  | none => rfl
  | some delivery' =>
    obtain ⟨delivery, hfind'', -⟩ := h.symm.receiver_some hs hfind'
    rw [hfind] at hfind''
    cases hfind''

/-- **The record that stands for a receiver has the same flag** in states that
are alike. -/
theorem Alike.isFreeze_latest (h : Alike s t) (hs : s.Sound) (ht : t.Sound)
    {delivery delivery' : ℕ × SubscriberRecordPtr} (hmem : delivery ∈ s.inFlight)
    (hmem' : delivery' ∈ t.inFlight) (hview : t.view delivery' = s.view delivery) :
    (t.manager.heap (t.latest delivery'.2)).isFreeze
      = (s.manager.heap (s.latest delivery.2)).isFreeze := by
  have hlistener : t.manager.listenerOf delivery'.2 = s.manager.listenerOf delivery.2 :=
    congrArg (fun entry => entry.2.1) hview
  have hstanding : t.standing delivery'.2 = s.standing delivery.2 :=
    congrArg (fun entry => entry.2.2) hview
  have hlatest := hs.latest_listener delivery.2 (hs.allocated delivery hmem)
  have hlatest' := ht.latest_listener delivery'.2 (ht.allocated delivery' hmem')
  unfold standing at hstanding
  by_cases hr : s.latest delivery.2 ∈ s.manager.subscribers
  · by_cases hr' : t.latest delivery'.2 ∈ t.manager.subscribers
    · -- both are registered, for the same listener
      have hrecord := SubscriberManager.recordOf_of_mem hs.index hr
      have hrecord' := SubscriberManager.recordOf_of_mem ht.index hr'
      rw [hlatest] at hrecord
      rw [hlatest', hlistener, h.manager.recordOf, hrecord] at hrecord'
      exact congrArg EventSubscriberRecord.isFreeze (Option.some.inj hrecord').symm
    · rw [if_pos hr, if_neg hr'] at hstanding
      cases hstanding
  · by_cases hr' : t.latest delivery'.2 ∈ t.manager.subscribers
    · rw [if_neg hr, if_pos hr'] at hstanding
      cases hstanding
    · rw [if_neg hr, if_neg hr'] at hstanding
      exact Option.some.inj hstanding

/-- **A receiver's turn**: the same becomes of it, where its flag is that of
the record that stands for it. -/
theorem Alike.notifySubscriber (h : Alike s t) (hs : s.Sound) (ht : t.Sound)
    {delivery delivery' : ℕ × SubscriberRecordPtr} (hmem : delivery ∈ s.inFlight)
    (hmem' : delivery' ∈ t.inFlight) (hview : t.view delivery' = s.view delivery)
    (hflag : (s.manager.heap delivery.2).isFreeze
      = (s.manager.heap (s.latest delivery.2)).isFreeze)
    (hflag' : (t.manager.heap delivery'.2).isFreeze
      = (t.manager.heap (t.latest delivery'.2)).isFreeze) :
    Alike (s.notifySubscriber delivery) (t.notifySubscriber delivery') := by
  obtain ⟨frozenEvents, frozenEventsMap, heq⟩ := s.notifySubscriber_eq delivery
  obtain ⟨frozenEvents', frozenEventsMap', heq'⟩ := t.notifySubscriber_eq delivery'
  have hpublication : delivery'.1 = delivery.1 :=
    congrArg (fun entry : ℕ × Remote × Option Bool => entry.1) hview
  have hlistener : t.manager.listenerOf delivery'.2 = s.manager.listenerOf delivery.2 :=
    congrArg (fun entry => entry.2.1) hview
  have hsame : (t.manager.heap delivery'.2).isFreeze = (s.manager.heap delivery.2).isFreeze := by
    rw [hflag, hflag', h.isFreeze_latest hs ht hmem hmem' hview]
  rw [heq, heq']
  refine ⟨⟨h.manager.records, h.manager.listed⟩, h.publications, ?_, ?_, h.priorities⟩
  · show ((t.inFlight.erase delivery').map t.view).Perm ((s.inFlight.erase delivery).map s.view)
    have hperm := ((List.perm_cons_erase hmem').map t.view).symm.trans
      (h.inFlight.trans ((List.perm_cons_erase hmem).map s.view))
    rw [List.map_cons, List.map_cons, hview] at hperm
    exact hperm.cons_inv
  · show t.outcomes ++ [_] = s.outcomes ++ [_]
    rw [h.outcomes, hpublication, hlistener, hsame]

/-- **A step of two states that are alike**, where it meets the condition in
both: it is made in both or in neither, and leads to states that are alike. -/
theorem Alike.step (h : Alike s t) (hs : s.Sound) (ht : t.Sound) {l : DeliveriesLabel δ π}
    (hok : s.Untouched l) (hok' : t.Untouched l) :
    Option.Rel Alike (s.step P S l) (t.step P S l) := by
  cases l with
  | insertSubscriber maxSubscriberNum info listener recordInfo =>
    refine .some (h.keepsRegistered hs ht (h.manager.insertSubscriber hs.index ht.index S ?_)
      (.insertSubscriber S maxSubscriberNum info listener recordInfo)
      (.insertSubscriber S maxSubscriberNum info listener recordInfo))
    intro l hl hfind
    exact ⟨hok l hl hfind, hok' l hl (h.manager.getSubscriberRecord_none hfind)⟩
  | removeSubscriber listener => exact .some (h.removeSubscriber hs ht listener)
  | publish ordered eventRecord view =>
    exact .some (h.publish hs ht ordered eventRecord view hok hok')
  | publishTo eventRecord listener =>
    show Option.Rel Alike ((s.manager.getSubscriberRecord listener).map _)
      ((t.manager.getSubscriberRecord listener).map _)
    cases hfind : s.manager.getSubscriberRecord listener with
    | none =>
      rw [h.manager.getSubscriberRecord_none hfind]
      exact .none
    | some r =>
      obtain ⟨r', hfind', hheap⟩ := h.manager.getSubscriberRecord_some hfind
      rw [hfind']
      refine .some (h.enqueue hs ht eventRecord ?_ ?_ ?_)
      · intro r₁ hr₁
        obtain rfl : r₁ = r := List.mem_singleton.mp hr₁
        exact (SubscriberManager.getSubscriberRecord_some hfind).1
      · intro r₁ hr₁
        obtain rfl : r₁ = r' := List.mem_singleton.mp hr₁
        exact (SubscriberManager.getSubscriberRecord_some hfind').1
      · show ([(t.manager.heap r').commonEventListener]).Perm
          [(s.manager.heap r).commonEventListener]
        rw [hheap]
  | notify publication listener =>
    show Option.Rel Alike ((s.receiver publication listener).map _)
      ((t.receiver publication listener).map _)
    cases hfind : s.receiver publication listener with
    | none =>
      rw [h.receiver_none hs hfind]
      exact .none
    | some delivery =>
      obtain ⟨delivery', hfind', hview⟩ := h.receiver_some ht hfind
      rw [hfind']
      -- both receivers are waited for, and read alike
      exact .some (h.notifySubscriber hs ht (Deliveries.receiver_some hfind).1
        (Deliveries.receiver_some hfind').1 hview (hok delivery hfind) (hok' delivery' hfind'))
  | freeze uid now => exact .some (h.updateFreezeInfo hs ht _ _ _)
  | unfreeze uid => exact .some (h.updateFreezeInfo hs ht _ _ _)
  | setFreezeStatus pidList isFreeze now => exact .some (h.updateFreezeInfo hs ht _ _ _)
  | unfreezeAll => exact .some (h.updateFreezeInfo hs ht _ _ _)

/-- A step of two states that are alike, with what holds in every state. -/
theorem Alike.lockstep (h : Alike s t) (hs : s.Sound) (ht : t.Sound) {l : DeliveriesLabel δ π}
    (hok : s.Untouched l) (hok' : t.Untouched l) :
    Option.Rel (fun s t => s.Sound ∧ t.Sound ∧ Alike s t) (s.step P S l) (t.step P S l) := by
  obtain ⟨hnone, hnone'⟩ | ⟨u, v, hsome, hsome', halike⟩ :=
    Machine.rel_iff.mp (h.step (P := P) (S := S) hs ht hok hok')
  · exact Machine.rel_iff.mpr (.inl ⟨hnone, hnone'⟩)
  · exact Machine.rel_iff.mpr (.inr ⟨u, v, hsome, hsome', hs.step hsome, ht.step hsome', halike⟩)

/-! ## The two runs -/

theorem sound_of_reachable (hs : (deliveriesMachine P S δ π).Reachable s) : s.Sound :=
  Machine.invariant (M := deliveriesMachine P S δ π) (I := Sound) .init
    (fun _ _ _ h hstep => h.step hstep) hs

/-- The state from which the runs are compared: no record has been copied. -/
def uncompacted (s : Deliveries δ π) : Deliveries δ π := { s with latest := id }

theorem Sound.uncompacted (h : s.Sound) : s.uncompacted.Sound :=
  ⟨h.index, h.allocated, h.published, h.one, fun _ _ => rfl, fun _ _ => rfl, fun _ hr => hr,
    fun _ _ => rfl⟩

/-- That state after `CompactSubscriberDataStructures`. -/
def compacted (s : Deliveries δ π) : Deliveries δ π := s.uncompacted.compact

/-- **The two runs**, from a state and from the state after its compaction:
where their steps meet the condition, the same becomes of every receiver. -/
theorem sameOutcomes_of_untouched (hs : (deliveriesMachine P S δ π).Reachable s)
    (hlists : s.manager.ListsAsNamed) {ls : List (DeliveriesLabel δ π)}
    (huncompacted : (deliveriesMachine P S δ π).GuardedFrom Untouched s.uncompacted ls)
    (hcompacted : (deliveriesMachine P S δ π).GuardedFrom Untouched s.compacted ls) :
    Option.Rel SameOutcomes ((deliveriesMachine P S δ π).runFrom s.uncompacted ls)
      ((deliveriesMachine P S δ π).runFrom s.compacted ls) := by
  have hsound := (sound_of_reachable hs).uncompacted
  have hruns := Machine.runFrom_lockstep (M := deliveriesMachine P S δ π)
    (R := fun s t => s.Sound ∧ t.Sound ∧ Alike s t)
    (fun s t l h hok hok' => h.2.2.lockstep h.1 h.2.1 hok hok')
    ⟨hsound, hsound.compact, alike_compact hsound hlists⟩ huncompacted hcompacted
  obtain ⟨hnone, hnone'⟩ | ⟨u, v, hsome, hsome', -, -, halike⟩ := Machine.rel_iff.mp hruns
  · exact Machine.rel_iff.mpr (.inl ⟨hnone, hnone'⟩)
  · exact Machine.rel_iff.mpr (.inr ⟨u, v, hsome, hsome', halike.sameOutcomes⟩)

/-! ## Two runs that differ -/

/-- The event of the runs below. -/
def event : EventRecord where
  commonEventData := { want := { action := "e" } }
  publishInfo := {}

/-- A listener subscribes to the event. -/
def subscription : DeliveriesLabel Unit Unit :=
  .insertSubscriber 1 (some { matchingSkills := { events := ["e"] } }) (some ⟨1⟩) { uid := 1 }

/-- The event is published, unordered. -/
def publication : DeliveriesLabel Unit Unit :=
  .publish false { commonEventData := (), publishInfo := () } event

/-- The runs below, on a platform that asks for nothing. -/
def eventMachine : Machine (Deliveries Unit Unit) (DeliveriesLabel Unit Unit) :=
  deliveriesMachine {} .insertion Unit Unit

/-- With a receiver in flight: its turn comes before the freeze, and the next
publication is kept for it, after a compaction and without. -/
theorem sameOutcomes_notifiedFirst :
    ∃ s t u, eventMachine.run [subscription, publication] = some s
      ∧ eventMachine.runFrom s.uncompacted
          [.notify 0 ⟨1⟩, .freeze 1 5, publication, .notify 1 ⟨1⟩] = some t
      ∧ eventMachine.runFrom s.compacted
          [.notify 0 ⟨1⟩, .freeze 1 5, publication, .notify 1 ⟨1⟩] = some u
      ∧ t.outcomes = [(0, ⟨1⟩, .notified), (1, ⟨1⟩, .buffered)] ∧ SameOutcomes t u := by
  refine ⟨_, _, _, rfl, rfl, rfl, rfl, ?_⟩
  have hrel : Option.Rel SameOutcomes
      (eventMachine.runFrom _ [.notify 0 ⟨1⟩, .freeze 1 5, publication, .notify 1 ⟨1⟩])
      (eventMachine.runFrom _ [.notify 0 ⟨1⟩, .freeze 1 5, publication, .notify 1 ⟨1⟩]) :=
    sameOutcomes_of_untouched (P := {}) (S := .insertion)
      ⟨[subscription, publication], rfl⟩ ?_ ?_ ?_
  · cases hrel with
    | some h => exact h
  · intro r hr name
    obtain rfl := List.mem_singleton.mp hr
    show (subscribersOf (insertEventSubscribers ∅ 0 ["e"]) name).count 0 = ["e"].count name
    rw [count_insertEventSubscribers]
    by_cases hname : name = "e"
    · subst hname
      rfl
    · have hnot : name ∉ ["e"] := fun h => hname (List.mem_singleton.mp h)
      rw [if_neg fun h => hnot h.2.1, List.count_eq_zero.mpr hnot]
      rfl
  all_goals
    refine ⟨fun d hd => ?_, trivial, fun h => absurd h (by decide +kernel), fun d hd => ?_, trivial⟩
    · obtain rfl := Option.some.inj hd
      rfl
    · obtain rfl := Option.some.inj hd
      rfl

/-- **A freeze shows the compaction**: the receiver in flight has the record
that was copied, and the flag is written to the copy. The event is kept for it
without the compaction, and sent to it after. -/
theorem compaction_seen :
    ¬ ∀ s, eventMachine.Reachable s → ∀ ls,
      Option.Rel SameOutcomes (eventMachine.runFrom s.uncompacted ls)
        (eventMachine.runFrom s.compacted ls) := by
  intro hall
  have hrel := hall _ ⟨[subscription, publication], rfl⟩ [.freeze 1 5, .notify 0 ⟨1⟩]
  obtain ⟨hnone, -⟩ | ⟨t, u, ht, hu, hsame⟩ := Machine.rel_iff.mp hrel
  · cases hnone
  · have hbuffered : t.outcomes = [(0, ⟨1⟩, .buffered)] := by
      rw [← Option.some.inj ht]
      rfl
    have hnotified : u.outcomes = [(0, ⟨1⟩, .notified)] := by
      rw [← Option.some.inj hu]
      rfl
    have houtcomes := hsame.outcomes
    rw [hbuffered, hnotified] at houtcomes
    cases houtcomes

end Deliveries

end CommonEventService

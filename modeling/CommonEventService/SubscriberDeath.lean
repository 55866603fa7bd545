import Mathlib.Data.List.Count
import CommonEventService.SubscriberIndex

/-!
# Subscribers that die while they subscribe

`InsertSubscriber` takes the lock of the manager twice: once to look the
listener up, and once to write – an update of the record it found, or, after
`AddDeathRecipient`, a new record. `RemoveSubscriber` may come in between, as
it does where the death of a listener is reported on another thread. The
machine of this module runs any number of such calls section by section.

Two things are asked of it: what the index lists is registered, and a
listener whose death was reported is gone for good unless it subscribes
again. Both hold as long as what a call has looked up still stands when it
writes – the record it updates is registered, the listener of a new record
has not died since – and a death finds one record of its listener at most
(`lookupStands`).
-/

namespace CommonEventService

/-- What a call of `InsertSubscriber` does next. -/
inductive InsertSection where
  | updateSubscriberRecordLocked (record : SubscriberRecordPtr)
  | addDeathRecipient
  | insertSubscriberRecordLocked
  deriving DecidableEq

/-- A call of `InsertSubscriber` that has looked its listener up. -/
structure InsertCall where
  eventSubscribeInfo : CommonEventSubscribeInfo
  commonEventListener : Remote
  eventRecordInfo : EventRecordInfo
  next : InsertSection

/-- **The manager, and the calls under way.** -/
structure SubscriberDeath (δ π : Type) where
  manager : SubscriberManager δ π := {}
  calls : List InsertCall := []
  /-- The listeners `death_` was added to. It may report a death also while
  or after it is taken off again. -/
  deathRecipients : List Remote := []
  /-- The listeners whose death was reported after their last subscription
  began, which no step reads. -/
  died : List Remote := []

/-- What moves. The limit on subscriptions is read when a record is
inserted. -/
inductive DeathLabel where
  | insertSubscriber (eventSubscribeInfo : Option CommonEventSubscribeInfo)
      (commonEventListener : Option Remote) (eventRecordInfo : EventRecordInfo)
  | call (i : ℕ) (maxSubscriberNum : ℕ)
  | removeSubscriber (commonEventListener : Option Remote)
  | onRemoteDied (remote : Remote)

namespace SubscriberManager

variable {δ π : Type} (S : StdSort) (m : SubscriberManager δ π)

/-- The last section of `InsertSubscriber` for a new listener, with the
record it has made. -/
def insertNewRecord (maxSubscriberNum : ℕ) (info : CommonEventSubscribeInfo) (listener : Remote)
    (recordInfo : EventRecordInfo) : SubscriberManager δ π :=
  let made : SubscriberManager δ π :=
    { m with
      nextAddr := m.nextAddr + 1
      heap := Function.update m.heap m.nextAddr
        { eventSubscribeInfo := info
          commonEventListener := listener
          eventRecordInfo := recordInfo } }
  (made.insertSubscriberRecordLocked S maxSubscriberNum info.getEvents m.nextAddr).2

end SubscriberManager

namespace SubscriberDeath

variable {δ π : Type} (S : StdSort) (s : SubscriberDeath δ π)

/-- `InsertSubscriber`, up to and with `GetSubscriberRecord`. -/
def startInsert (info : CommonEventSubscribeInfo) (listener : Remote)
    (recordInfo : EventRecordInfo) : SubscriberDeath δ π :=
  let events := info.getEvents
  let s := { s with died := s.died.filter (fun l => l ≠ listener) }
  if events.length = 0 ∨ events.length > SUBSCRIBE_EVENT_MAX_NUM then s
  else
    { s with
      calls := s.calls ++ [{
        eventSubscribeInfo := info
        commonEventListener := listener
        eventRecordInfo := recordInfo
        next :=
          match s.manager.getSubscriberRecord listener with
          | some record => .updateSubscriberRecordLocked record
          | none => .addDeathRecipient }] }

/-- The next section of a call. -/
def stepCall (maxSubscriberNum i : ℕ) (call : InsertCall) : SubscriberDeath δ π :=
  match call.next with
  | .updateSubscriberRecordLocked record =>
    { s with
      manager := s.manager.updateSubscriberRecordLocked S call.eventSubscribeInfo
        call.eventRecordInfo record
      calls := s.calls.eraseIdx i }
  | .addDeathRecipient =>
    { s with
      deathRecipients := call.commonEventListener :: s.deathRecipients
      calls := s.calls.set i { call with next := .insertSubscriberRecordLocked } }
  | .insertSubscriberRecordLocked =>
    { s with
      manager := s.manager.insertNewRecord S maxSubscriberNum call.eventSubscribeInfo
        call.commonEventListener call.eventRecordInfo
      calls := s.calls.eraseIdx i }

/-- **A section of a call.** -/
def step : DeathLabel → Option (SubscriberDeath δ π)
  | .insertSubscriber (some info) (some listener) recordInfo =>
    some (s.startInsert info listener recordInfo)
  | .insertSubscriber _ _ _ => some s
  | .call i maxSubscriberNum => s.calls[i]?.map (s.stepCall S maxSubscriberNum i)
  | .removeSubscriber listener =>
    some { s with manager := s.manager.removeSubscriber listener }
  | .onRemoteDied remote =>
    if remote ∈ s.deathRecipients then
      some { s with
        manager := s.manager.removeSubscriber (some remote)
        died := remote :: s.died }
    else none

end SubscriberDeath

/-- **Calls on the manager, section by section.** -/
def deathMachine (S : StdSort) (δ π : Type) : Machine (SubscriberDeath δ π) DeathLabel where
  init := {}
  step := SubscriberDeath.step S

/-! ## What the sections do to the manager -/

namespace SubscriberManager

variable {δ π : Type} {S : StdSort} {m : SubscriberManager δ π}

/-- **An update of a record that is not registered** lists it under the names
it did not have before. Where there are none, the index stays sound. -/
theorem IndexBound.update_unregistered (h : m.IndexBound) {record : SubscriberRecordPtr}
    (hrecord : record ∉ m.subscribers) {info : CommonEventSubscribeInfo}
    (hnames : ∀ event ∈ info.getEvents,
      info.getEvents.count event ≤ (m.eventsOf record).count event)
    (recordInfo : EventRecordInfo) :
    (m.updateSubscriberRecordLocked S info recordInfo record).IndexBound := by
  intro event r
  show _ ≤ if r ∈ m.subscribers then _ else 0
  rw [count_update]
  have hle := h event r
  by_cases hr : r = record
  · -- it was not listed, and gains no entry
    have hnames' : info.getEvents.count event ≤ (m.eventsOf record).count event := by
      by_cases hevent : event ∈ info.getEvents
      · exact hnames event hevent
      · rw [List.count_eq_zero.mpr hevent]
        exact Nat.zero_le _
    rw [hr] at hle ⊢
    rw [if_neg hrecord] at hle ⊢
    rw [if_pos rfl, Nat.le_zero.mp hle]
    unfold updatedCount
    rw [if_neg fun hcond => Nat.not_lt.mpr hnames' hcond.1, Nat.zero_sub]
  · rw [if_neg hr, eventsOf_update, if_neg hr]
    exact hle

/-- **A new record** is made, and registered unless it is refused. -/
theorem insertNewRecord_cases (maxSubscriberNum : ℕ) (info : CommonEventSubscribeInfo)
    (listener : Remote) (recordInfo : EventRecordInfo) :
    ∃ made : SubscriberManager δ π,
      made = { m with
        nextAddr := m.nextAddr + 1
        heap := Function.update m.heap m.nextAddr
          { eventSubscribeInfo := info
            commonEventListener := listener
            eventRecordInfo := recordInfo } } ∧
      (m.insertNewRecord S maxSubscriberNum info listener recordInfo = made ∨
        ∃ counts, m.insertNewRecord S maxSubscriberNum info listener recordInfo
          = { made with
              eventSubscribers := insertEventSubscribers made.eventSubscribers m.nextAddr
                (made.eventsOf m.nextAddr)
              subscribers := made.subscribers ++ [m.nextAddr]
              subscriberCounts := counts }) := by
  obtain ⟨made, hmade⟩ : ∃ made : SubscriberManager δ π, made = { m with
      nextAddr := m.nextAddr + 1
      heap := Function.update m.heap m.nextAddr
        { eventSubscribeInfo := info
          commonEventListener := listener
          eventRecordInfo := recordInfo } } := ⟨_, rfl⟩
  have hevents : made.eventsOf m.nextAddr = info.getEvents := by
    rw [hmade]
    simp [eventsOf]
  refine ⟨made, hmade, ?_⟩
  unfold insertNewRecord
  dsimp only
  rw [← hmade, hevents]
  rcases insertSubscriberRecordLocked_cases S (m := made) maxSubscriberNum info.getEvents
    m.nextAddr with hins | ⟨killed, counts, hins⟩
  · rw [hins]
    exact Or.inl rfl
  · rw [hins]
    exact Or.inr ⟨counts, rfl⟩

/-- A removal takes out one record of the listener. -/
theorem countP_removeSubscriberRecordLocked (l : Remote) :
    (m.removeSubscriberRecordLocked l).subscribers.countP (fun r => m.listenerOf r = l)
      = m.subscribers.countP (fun r => m.listenerOf r = l) - 1 := by
  unfold removeSubscriberRecordLocked
  cases hfind : m.getSubscriberRecord l with
  | none =>
    have hzero : m.subscribers.countP (fun r => m.listenerOf r = l) = 0 :=
      List.countP_eq_zero.mpr fun r hr => by simpa using getSubscriberRecord_none hfind r hr
    dsimp only
    rw [hzero]
  | some record =>
    obtain ⟨hrecord, hlistener⟩ := getSubscriberRecord_some hfind
    dsimp only
    rw [List.countP_erase, if_pos ⟨hrecord, decide_eq_true hlistener⟩]

theorem removeSubscriberRecordLocked_frame (l : Remote) :
    (m.removeSubscriberRecordLocked l).heap = m.heap
      ∧ (m.removeSubscriberRecordLocked l).nextAddr = m.nextAddr
      ∧ (m.removeSubscriberRecordLocked l).subscribers.Sublist m.subscribers := by
  unfold removeSubscriberRecordLocked
  cases m.getSubscriberRecord l with
  | none => exact ⟨rfl, rfl, .refl _⟩
  | some record => exact ⟨rfl, rfl, List.erase_sublist⟩

end SubscriberManager

namespace SubscriberDeath

variable {δ π : Type} {S : StdSort} {s t : SubscriberDeath δ π}

/-- What a call has looked up still stands, so far as its next section uses
it: an update finds its record registered, or has no name to list it under,
and a new record is not for a listener that died since. -/
def sectionStands (s : SubscriberDeath δ π) (call : InsertCall) : Prop :=
  match call.next with
  | .updateSubscriberRecordLocked record =>
    record ∈ s.manager.subscribers ∨ ∀ event ∈ call.eventSubscribeInfo.getEvents,
      call.eventSubscribeInfo.getEvents.count event ≤ (s.manager.eventsOf record).count event
  | .addDeathRecipient => True
  | .insertSubscriberRecordLocked => call.commonEventListener ∉ s.died

instance (s : SubscriberDeath δ π) (call : InsertCall) : Decidable (s.sectionStands call) :=
  match h : call.next with
  | .updateSubscriberRecordLocked record =>
    decidable_of_iff (record ∈ s.manager.subscribers ∨ ∀ event ∈ call.eventSubscribeInfo.getEvents,
      call.eventSubscribeInfo.getEvents.count event ≤ (s.manager.eventsOf record).count event)
      (by rw [sectionStands, h])
  | .addDeathRecipient => .isTrue (by rw [sectionStands, h]; trivial)
  | .insertSubscriberRecordLocked =>
    decidable_of_iff (call.commonEventListener ∉ s.died) (by rw [sectionStands, h])

/-- **The condition on a step**: what was looked up still stands, and a death
finds one record of its listener at most. -/
def lookupStands (s : SubscriberDeath δ π) : DeathLabel → Prop
  | .insertSubscriber _ _ _ => True
  | .call i _ => ∀ call ∈ s.calls[i]?, s.sectionStands call
  | .removeSubscriber _ => True
  | .onRemoteDied remote =>
    s.manager.subscribers.countP (fun r => s.manager.listenerOf r = remote) ≤ 1

instance (s : SubscriberDeath δ π) : ∀ l, Decidable (s.lookupStands l)
  | .insertSubscriber _ _ _ => .isTrue trivial
  | .call _ _ => inferInstanceAs (Decidable (∀ _ ∈ _, _))
  | .removeSubscriber _ => .isTrue trivial
  | .onRemoteDied _ => inferInstanceAs (Decidable (_ ≤ _))

/-- **The index lists what is registered, and no listener that has died is.** -/
structure Consistent (s : SubscriberDeath δ π) : Prop where
  bound : s.manager.IndexBound
  allocated : s.manager.Allocated
  died : ∀ l ∈ s.died, ∀ r ∈ s.manager.subscribers, s.manager.listenerOf r ≠ l

theorem Consistent.init : (deathMachine S δ π).init.Consistent :=
  ⟨fun event r => by simp [deathMachine, subscribersOf], nofun, nofun⟩

/-- A removal keeps consistent. -/
theorem Consistent.remove (h : s.Consistent) (l : Remote) :
    Consistent { s with manager := s.manager.removeSubscriberRecordLocked l } := by
  obtain ⟨hheap, hnext, hsub⟩ := s.manager.removeSubscriberRecordLocked_frame l
  refine ⟨h.bound.remove l, ?_, ?_⟩
  · intro r hr
    dsimp only at hr ⊢
    rw [hnext]
    exact h.allocated r (hsub.subset hr)
  · intro l' hl' r hr
    dsimp only at hr ⊢
    unfold SubscriberManager.listenerOf
    rw [hheap]
    exact h.died l' hl' r (hsub.subset hr)

/-- A record that is made and not registered keeps consistent. -/
theorem Consistent.made (h : s.Consistent) (record : EventSubscriberRecord) :
    Consistent { s with
      manager := { s.manager with
        nextAddr := s.manager.nextAddr + 1
        heap := Function.update s.manager.heap s.manager.nextAddr record } } := by
  have hheap : ∀ r ∈ s.manager.subscribers,
      Function.update s.manager.heap s.manager.nextAddr record r = s.manager.heap r :=
    fun r hr => Function.update_of_ne (Nat.ne_of_lt (h.allocated r hr)) _ _
  refine ⟨?_, fun r hr => Nat.lt_succ_of_lt (h.allocated r hr), fun l hl r hr => ?_⟩
  · exact h.bound.congr rfl rfl fun r hr =>
      congrArg (fun record => record.eventSubscribeInfo.getEvents) (hheap r hr)
  · show (Function.update s.manager.heap s.manager.nextAddr record r).commonEventListener ≠ l
    rw [hheap r hr]
    exact h.died l hl r hr

/-- The registration of a record whose listener is alive keeps consistent. -/
theorem Consistent.register (h : s.Consistent) {record : SubscriberRecordPtr}
    (hrecord : record ∉ s.manager.subscribers) (halloc : record < s.manager.nextAddr)
    (halive : s.manager.listenerOf record ∉ s.died) (counts : Dict Pid ℕ) :
    Consistent { s with
      manager := { s.manager with
        eventSubscribers := insertEventSubscribers s.manager.eventSubscribers record
          (s.manager.eventsOf record)
        subscribers := s.manager.subscribers ++ [record]
        subscriberCounts := counts } } := by
  refine ⟨h.bound.insert hrecord counts, fun r hr => ?_, fun l hl r hr => ?_⟩
  · rcases List.mem_append.mp hr with hr | hr
    · exact h.allocated r hr
    · rw [List.mem_singleton.mp hr]
      exact halloc
  · rcases List.mem_append.mp hr with hr | hr
    · exact h.died l hl r hr
    · rw [List.mem_singleton.mp hr]
      rintro rfl
      exact halive hl

/-- **A section whose lookup stands keeps consistent.** -/
theorem Consistent.stepCall (h : s.Consistent) {maxSubscriberNum i : ℕ} {call : InsertCall}
    (hok : s.sectionStands call) : (s.stepCall S maxSubscriberNum i call).Consistent := by
  unfold sectionStands at hok
  unfold SubscriberDeath.stepCall
  cases hnext : call.next with
  | updateSubscriberRecordLocked record =>
    rw [hnext] at hok
    dsimp only at hok ⊢
    refine ⟨?_, h.allocated, ?_⟩
    · by_cases hrecord : record ∈ s.manager.subscribers
      · exact h.bound.update S hrecord _ _
      · exact h.bound.update_unregistered hrecord (hok.resolve_left hrecord) _
    · intro l hl r hr
      dsimp only
      rw [SubscriberManager.listenerOf_update]
      exact h.died l hl r hr
  | addDeathRecipient => exact ⟨h.bound, h.allocated, h.died⟩
  | insertSubscriberRecordLocked =>
    rw [hnext] at hok
    dsimp only at hok ⊢
    have hmade := h.made
      { eventSubscribeInfo := call.eventSubscribeInfo
        commonEventListener := call.commonEventListener
        eventRecordInfo := call.eventRecordInfo }
    obtain ⟨made, rfl, heq | ⟨counts, heq⟩⟩ := SubscriberManager.insertNewRecord_cases (S := S)
      (m := s.manager) maxSubscriberNum call.eventSubscribeInfo call.commonEventListener
      call.eventRecordInfo
    · rw [heq]
      exact ⟨hmade.bound, hmade.allocated, hmade.died⟩
    · -- the new record is not registered yet, and its listener has not died since
      have hfresh : s.manager.nextAddr ∉ s.manager.subscribers :=
        fun hmem => Nat.lt_irrefl _ (h.allocated _ hmem)
      have hregister := hmade.register hfresh (Nat.lt_succ_self _)
        (by simpa [SubscriberManager.listenerOf] using hok) counts
      rw [heq]
      exact ⟨hregister.bound, hregister.allocated, hregister.died⟩

/-- **A step whose lookup stands keeps consistent.** -/
theorem Consistent.step (h : s.Consistent) {l : DeathLabel} (hok : s.lookupStands l)
    (hstep : s.step S l = some t) : t.Consistent := by
  cases l with
  | insertSubscriber info listener recordInfo =>
    cases info with
    | none =>
      cases hstep
      exact h
    | some info =>
      cases listener with
      | none =>
        cases hstep
        exact h
      | some listener =>
        cases hstep
        have hdied : ∀ l ∈ s.died.filter (fun l => l ≠ listener),
            ∀ r ∈ s.manager.subscribers, s.manager.listenerOf r ≠ l :=
          fun l hl => h.died l (List.mem_of_mem_filter hl)
        unfold startInsert
        dsimp only
        split
        · exact ⟨h.bound, h.allocated, hdied⟩
        · exact ⟨h.bound, h.allocated, hdied⟩
  | call i maxSubscriberNum =>
    obtain ⟨call, hcall, rfl⟩ := Option.map_eq_some_iff.mp hstep
    exact h.stepCall (hok call hcall)
  | removeSubscriber listener =>
    cases hstep
    cases listener with
    | none => exact h
    | some listener => exact h.remove listener
  | onRemoteDied remote =>
    rw [SubscriberDeath.step] at hstep
    split at hstep
    next =>
      cases hstep
      have hremove := h.remove remote
      refine ⟨hremove.bound, hremove.allocated, ?_⟩
      intro l hl r hr
      rcases List.mem_cons.mp hl with rfl | hl
      · -- the one record of the listener is taken out
        have hcount := s.manager.countP_removeSubscriberRecordLocked l
        have hle : s.manager.subscribers.countP (fun r => s.manager.listenerOf r = l) ≤ 1 := hok
        have hzero : (s.manager.removeSubscriberRecordLocked l).subscribers.countP
            (fun r => s.manager.listenerOf r = l) = 0 := by omega
        have hne := List.countP_eq_zero.mp hzero r hr
        obtain ⟨hheap, -, -⟩ := s.manager.removeSubscriberRecordLocked_frame l
        show ((s.manager.removeSubscriberRecordLocked l).heap r).commonEventListener ≠ l
        rw [hheap]
        exact fun heq => hne (decide_eq_true heq)
      · exact hremove.died l hl r hr
    next => cases hstep

/-- A listener that has died stays so until it subscribes again. -/
theorem mem_died_step {remote : Remote} (h : remote ∈ s.died) {l : DeathLabel}
    (hl : ∀ info recordInfo, l ≠ .insertSubscriber info (some remote) recordInfo)
    (hstep : s.step S l = some t) : remote ∈ t.died := by
  cases l with
  | insertSubscriber info listener recordInfo =>
    cases info with
    | none =>
      cases hstep
      exact h
    | some info =>
      cases listener with
      | none =>
        cases hstep
        exact h
      | some listener =>
        cases hstep
        have hne : remote ≠ listener := by
          rintro rfl
          exact hl _ _ rfl
        have hmem : remote ∈ s.died.filter (fun l => l ≠ listener) :=
          List.mem_filter.mpr ⟨h, decide_eq_true hne⟩
        unfold startInsert
        dsimp only
        split <;> exact hmem
  | call i maxSubscriberNum =>
    obtain ⟨call, -, rfl⟩ := Option.map_eq_some_iff.mp hstep
    unfold SubscriberDeath.stepCall
    split <;> exact h
  | removeSubscriber listener =>
    cases hstep
    exact h
  | onRemoteDied remote' =>
    rw [SubscriberDeath.step] at hstep
    split at hstep
    next =>
      cases hstep
      exact List.mem_cons_of_mem _ h
    next => cases hstep

/-- **What is asked of a run**: what the index lists is registered; and once
no call is under way, a listener whose death was reported, and which has not
begun to subscribe since, is neither registered nor listed. -/
structure RunSound (ls : List DeathLabel) (s : SubscriberDeath δ π) : Prop where
  listed : ∀ event, ∀ r ∈ subscribersOf s.manager.eventSubscribers event,
    r ∈ s.manager.subscribers
  gone : ∀ pre post l, ls = pre ++ .onRemoteDied l :: post →
    (∀ info recordInfo, .insertSubscriber info (some l) recordInfo ∉ post) → s.calls = [] →
    (∀ r ∈ s.manager.subscribers, s.manager.listenerOf r ≠ l)
      ∧ ∀ event, ∀ r ∈ subscribersOf s.manager.eventSubscribers event, s.manager.listenerOf r ≠ l

/-- **Where every lookup still stands when it is used, no subscriber is left
behind by its death.** -/
theorem run_sound {ls : List DeathLabel}
    (hok : (deathMachine S δ π).Guarded lookupStands ls)
    (hs : (deathMachine S δ π).run ls = some s) : s.RunSound ls := by
  have h : s.Consistent := Machine.guarded_invariant (M := deathMachine S δ π) Consistent.init
    (fun _ _ _ h hok hstep => h.step hok hstep) hok hs
  have hlisted : ∀ event, ∀ r ∈ subscribersOf s.manager.eventSubscribers event,
      r ∈ s.manager.subscribers := fun _ _ hr => (h.bound.mem_subscribersOf hr).1
  refine ⟨hlisted, ?_⟩
  intro pre post l hls hpost _
  have hdied : l ∈ s.died := by
    rw [hls, Machine.run_append] at hs
    obtain ⟨u, -, hs⟩ := Option.bind_eq_some_iff.mp hs
    rw [Machine.runFrom_cons] at hs
    obtain ⟨v, hv, hs⟩ := Option.bind_eq_some_iff.mp hs
    refine Machine.runFrom_invariant (M := deathMachine S δ π) (I := fun s => l ∈ s.died)
      (fun _ _ _ h hl hstep => mem_died_step h hl hstep) ?_ ?_ hs
    · rw [show (deathMachine S δ π).step u (.onRemoteDied l) = u.step S (.onRemoteDied l) from rfl,
        SubscriberDeath.step] at hv
      split at hv
      next =>
        cases hv
        exact List.mem_cons_self
      next => cases hv
    · rintro label hlabel info recordInfo rfl
      exact hpost info recordInfo hlabel
  exact ⟨h.died l hdied, fun event r hr => h.died l hdied r (hlisted event r hr)⟩

/-- A listener that subscribes, up to the end of the call. -/
def subscribed : List DeathLabel :=
  [.insertSubscriber (some { matchingSkills := { events := ["e"] } }) (some ⟨1⟩) {},
    .call 0 5000, .call 0 5000]

/-- A subscriber that dies is gone. -/
theorem run_sound_died :
    ∃ s : SubscriberDeath Unit Unit,
      (deathMachine .insertion Unit Unit).run (subscribed ++ [.onRemoteDied ⟨1⟩]) = some s
      ∧ s.RunSound (subscribed ++ [.onRemoteDied ⟨1⟩]) := by
  obtain ⟨s, hs, -⟩ := Option.map_eq_some_iff.mp
    (show ((deathMachine .insertion Unit Unit).run (subscribed ++ [.onRemoteDied ⟨1⟩])).map
      (fun s => s.manager.subscribers) = some [] by decide +kernel)
  exact ⟨s, hs, run_sound (Machine.guarded_of_guardedFrom (by decide +kernel)) hs⟩

/-- The listener subscribes anew, and dies between the lookup and the
update. -/
def diedBeforeUpdate : List DeathLabel :=
  subscribed ++ [.insertSubscriber (some { matchingSkills := { events := ["f"] } }) (some ⟨1⟩) {},
    .onRemoteDied ⟨1⟩, .call 0 5000]

/-- **A record that was removed between the lookup and the update comes back
as a ghost**: it is listed, and not registered. -/
theorem ghost_record :
    ¬ ∀ (ls : List DeathLabel) (s : SubscriberDeath Unit Unit),
      (deathMachine .insertion Unit Unit).run ls = some s → s.RunSound ls := by
  intro hsound
  obtain ⟨s, hs, hstate⟩ := Option.map_eq_some_iff.mp
    (show ((deathMachine .insertion Unit Unit).run diedBeforeUpdate).map
      (fun s => (s.manager.subscribers, subscribersOf s.manager.eventSubscribers "f"))
        = some ([], [0]) by decide +kernel)
  obtain ⟨hsubscribers, hindex⟩ := Prod.mk.inj hstate
  have hlisted := (hsound diedBeforeUpdate s hs).listed "f" 0
  rw [hsubscribers, hindex] at hlisted
  cases hlisted List.mem_cons_self

/-! ## The sections together -/

/-- **The sections of a call, one after the other, are `InsertSubscriber`.** -/
theorem insertSubscriber_sections (hcalls : s.calls = []) (maxSubscriberNum : ℕ)
    (info : Option CommonEventSubscribeInfo) (listener : Option Remote)
    (recordInfo : EventRecordInfo) :
    ∃ n, ((deathMachine S δ π).runFrom s (.insertSubscriber info listener recordInfo ::
        List.replicate n (.call 0 maxSubscriberNum))).map (fun t => (t.calls, t.manager))
      = some ([], (s.manager.insertSubscriber S maxSubscriberNum info listener recordInfo).2) := by
  cases info with
  | none => exact ⟨0, by rw [← hcalls]; rfl⟩
  | some info =>
    cases listener with
    | none => exact ⟨0, by rw [← hcalls]; rfl⟩
    | some listener =>
      have hstart : (deathMachine S δ π).step s (.insertSubscriber (some info) (some listener)
          recordInfo) = some (s.startInsert info listener recordInfo) := rfl
      unfold startInsert at hstart
      unfold SubscriberManager.insertSubscriber
      dsimp only at hstart ⊢
      by_cases hlen : info.getEvents.length = 0
          ∨ info.getEvents.length > SUBSCRIBE_EVENT_MAX_NUM
      · rw [if_pos hlen] at hstart ⊢
        refine ⟨0, ?_⟩
        rw [Machine.runFrom_cons, hstart, ← hcalls]
        rfl
      rw [if_neg hlen, hcalls, List.nil_append] at hstart
      rw [if_neg hlen]
      cases hfind : s.manager.getSubscriberRecord listener with
      | some record =>
        rw [hfind] at hstart
        refine ⟨1, ?_⟩
        rw [Machine.runFrom_cons, hstart]
        rfl
      | none =>
        rw [hfind] at hstart
        refine ⟨2, ?_⟩
        rw [Machine.runFrom_cons, hstart]
        show some (([] : List InsertCall), s.manager.insertNewRecord S maxSubscriberNum info
          listener recordInfo) = _
        unfold SubscriberManager.insertNewRecord
        dsimp only
        split
        next hins => rw [hins]
        next hins => rw [hins]

end SubscriberDeath

end CommonEventService

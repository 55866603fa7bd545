import CommonEventService.ServiceInvariants

/-!
# The replay of sticky events

A subscriber that arrives after a sticky event was published is sent it all
the same: `PublishStickyEvent` looks up what is stored under the names
subscribed to. A live publish of the event decides by
`GetSubscriberRecordsByWantLocked` who may see it, and goes through six
checks on the way; the replay has one check of its own, on the bundle the
publisher named.

What the replay leaves out is stated here as one predicate, `omittedChecks`,
and the replay sends nothing that a live publish would not have sent exactly
where that predicate holds – and the subscriber is listed under the name at
all, which after a repeated name is dropped it need not be.
-/

namespace CommonEventService

variable {P : Platform} {S : StdSort} {C : Config}

/-- **The checks of the live path that the replay does not make**: all but
the one on the name of the event. -/
def omittedChecks (P : Platform) (subscriber : EventSubscriberRecord) (event : EventRecord) :
    Bool :=
  subscriber.eventSubscribeInfo.matchingSkills.matchEntity event.commonEventData.want.entities
    && subscriber.eventSubscribeInfo.matchingSkills.matchScheme
      event.commonEventData.want.scheme
    && checkSubscriberByUserId subscriber.eventSubscribeInfo.userId
      (isSystemAppPublisher event) event.userId
    && checkSubscriberPermission P subscriber event
    && checkWhetherIsAppIndexSubscribed subscriber event
    && checkPublisherWhetherMatched P subscriber event
    && checkSubscriberWhetherMatched P subscriber event

theorem matchesLive_eq (subscriber : EventSubscriberRecord) (event : EventRecord) :
    matchesLive P subscriber event
      = (subscriber.eventSubscribeInfo.matchingSkills.matchEvent
            event.commonEventData.want.action
          && omittedChecks P subscriber event) := by
  unfold matchesLive omittedChecks MatchingSkills.match
  simp only [Bool.and_assoc]

/-! ## Who is selected -/

namespace SubscriberManager

variable {δ π : Type} {m : SubscriberManager δ π}

/-- Whether a publish of the event compacts the manager first. -/
def isCompactionDue (m : SubscriberManager δ π) (action : String) : Prop :=
  m.hasCompacted = false ∧ action = COMMON_EVENT_SCREEN_OFF

/-- The listeners that a publish of the event selects. A compaction copies the
records, so a subscriber is known by its listener. -/
def selectedListeners (m : SubscriberManager δ π) (P : Platform) (event : EventRecord) :
    List Remote :=
  (m.getSubscriberRecords P event).1.map (m.getSubscriberRecords P event).2.listenerOf

theorem getSubscriberRecords_of_due {event : EventRecord}
    (h : m.isCompactionDue event.commonEventData.want.action) :
    m.getSubscriberRecords P event
      = (m.compactSubscriberDataStructures.getSubscriberRecordsByWantLocked P event,
        m.compactSubscriberDataStructures) := by
  unfold getSubscriberRecords
  rw [if_pos ⟨by simp [h.1], h.2⟩]

theorem getSubscriberRecords_of_not_due {event : EventRecord}
    (h : ¬ m.isCompactionDue event.commonEventData.want.action) :
    m.getSubscriberRecords P event = (m.getSubscriberRecordsByWantLocked P event, m) := by
  unfold getSubscriberRecords
  rw [if_neg fun hc => h ⟨by simpa using hc.1, hc.2⟩]

theorem mem_getSubscriberRecordsByWantLocked {event : EventRecord}
    {r : SubscriberRecordPtr} :
    r ∈ m.getSubscriberRecordsByWantLocked P event
      ↔ r ∈ subscribersOf m.eventSubscribers event.commonEventData.want.action
        ∧ matchesLive P (m.heap r) event = true :=
  List.mem_filter

/-- What holds a copy holds a record, and the other way round. -/
theorem exists_heap_compact (halloc : m.Allocated) (record : EventSubscriberRecord) :
    (∃ r' ∈ m.compactSubscriberDataStructures.subscribers,
        m.compactSubscriberDataStructures.heap r' = record)
      ↔ ∃ r ∈ m.subscribers, m.heap r = record := by
  rw [← List.mem_map, map_heap_compact halloc, List.mem_map]

/-- **Who a live publish selects.** A registered subscriber that asks for the
event is selected exactly when it passes the other checks, and is listed – a
compaction lists everyone anew. -/
theorem mem_selectedListeners_iff (h : m.IndexSound) {r : SubscriberRecordPtr}
    (hr : r ∈ m.subscribers) {event : EventRecord}
    (haction : event.commonEventData.want.action ≠ "")
    (hevent : event.commonEventData.want.action ∈ m.eventsOf r) :
    m.listenerOf r ∈ m.selectedListeners P event
      ↔ (m.isCompactionDue event.commonEventData.want.action
          ∨ r ∈ subscribersOf m.eventSubscribers event.commonEventData.want.action)
        ∧ omittedChecks P (m.heap r) event = true := by
  have hmatch : (m.heap r).eventSubscribeInfo.matchingSkills.matchEvent
      event.commonEventData.want.action = true := by
    unfold MatchingSkills.matchEvent
    rw [if_neg haction]
    exact List.contains_iff_mem.mpr hevent
  have hlive : matchesLive P (m.heap r) event = omittedChecks P (m.heap r) event := by
    rw [matchesLive_eq, hmatch, Bool.true_and]
  unfold selectedListeners
  rw [List.mem_map]
  by_cases hdue : m.isCompactionDue event.commonEventData.want.action
  · rw [getSubscriberRecords_of_due hdue, ← hlive]
    have hsound := h.compact
    constructor
    · -- a copy with this listener is a copy of this record
      rintro ⟨r', hr', hl⟩
      obtain ⟨hlisted, hlive'⟩ := mem_getSubscriberRecordsByWantLocked.mp hr'
      obtain ⟨r₀, hr₀, hheap⟩ := (exists_heap_compact h.allocated _).mp
        ⟨r', (hsound.mem_subscribersOf hlisted).1, rfl⟩
      obtain rfl : r₀ = r := by
        refine h.listener_inj hr₀ hr ?_
        show (m.heap r₀).commonEventListener = _
        rw [hheap]
        exact hl
      exact ⟨Or.inl hdue, by rw [hheap]; exact hlive'⟩
    · rintro ⟨-, hlive'⟩
      obtain ⟨r', hr', hheap⟩ := (exists_heap_compact h.allocated _).mpr ⟨r, hr, rfl⟩
      refine ⟨r', mem_getSubscriberRecordsByWantLocked.mpr ⟨?_, by rw [hheap]; exact hlive'⟩, ?_⟩
      · refine List.count_pos_iff.mp ?_
        rw [count_compact h.allocated, if_pos hr', List.count_pos_iff]
        show _ ∈ (m.compactSubscriberDataStructures.heap r').eventSubscribeInfo.getEvents
        rw [hheap]
        exact hevent
      · show (m.compactSubscriberDataStructures.heap r').commonEventListener = _
        rw [hheap]
        rfl
  · rw [getSubscriberRecords_of_not_due hdue, ← hlive]
    constructor
    · rintro ⟨r', hr', hl⟩
      obtain ⟨hlisted, hlive'⟩ := mem_getSubscriberRecordsByWantLocked.mp hr'
      obtain rfl := h.listener_inj (h.mem_subscribersOf hlisted).1 hr hl
      exact ⟨Or.inr hlisted, hlive'⟩
    · rintro ⟨hlisted, hlive'⟩
      refine ⟨r, mem_getSubscriberRecordsByWantLocked.mpr ⟨?_, hlive'⟩, rfl⟩
      exact hlisted.resolve_left hdue

end SubscriberManager

/-! ## What the replay sends -/

namespace InnerCommonEventManager

variable {s t : InnerCommonEventManager}

/-- The records that `PublishStickyEvent` submits to a subscriber. -/
def replayed (C : Config) (s : InnerCommonEventManager)
    (subscribeInfo : CommonEventSubscribeInfo) (r : SubscriberRecordPtr) :
    List (CommonEventRecord CellId CellId) :=
  if C.hasControl then
    (s.sticky.findStickyEvents subscribeInfo).filter (fun record =>
      isAssignedTo (s.delivery.manager.heap r) (s.control.infos record.publishInfo))
  else []

/-- Clearing the flag for ordered events leaves the bundle a publisher
named. -/
theorem isAssignedTo_setUnordered (subscriber : EventSubscriberRecord)
    (control : ControlManager) (cell cell' : CellId) :
    isAssignedTo subscriber ((control.setUnordered cell).infos cell')
      = isAssignedTo subscriber (control.infos cell') := by
  have hbundle : ((control.setUnordered cell).infos cell').bundleName
      = (control.infos cell').bundleName := by
    unfold ControlManager.setUnordered
    dsimp only
    by_cases hcell : cell' = cell
    · rw [hcell, Function.update_self]
    · rw [Function.update_of_ne hcell]
  unfold isAssignedTo
  simp only [hbundle]

/-- **The replay submits these records, in order, each to the one
subscriber**, and does nothing else to unordered delivery. -/
theorem delivery_publishStickyEvent (subscribeInfo : CommonEventSubscribeInfo)
    (r : SubscriberRecordPtr) :
    (s.publishStickyEvent P C subscribeInfo (some r)).delivery
      = (s.replayed C subscribeInfo r).foldl
        (fun delivery record => delivery.processUnorderedEvent P record (s.view record) (some r))
        s.delivery := by
  unfold publishStickyEvent replayed
  dsimp only
  generalize s.sticky.findStickyEvents subscribeInfo = records
  -- the records that are left, in a state with the same subscriber and the
  -- same bundles
  have hrounds : ∀ (records : List (CommonEventRecord CellId CellId))
      (u : InnerCommonEventManager), u.delivery.manager = s.delivery.manager →
      (∀ cell, isAssignedTo (s.delivery.manager.heap r) (u.control.infos cell)
        = isAssignedTo (s.delivery.manager.heap r) (s.control.infos cell)) →
      (publishStickyEvents P C r u records).delivery
        = (if C.hasControl then records.filter (fun record =>
              isAssignedTo (s.delivery.manager.heap r) (s.control.infos record.publishInfo))
            else []).foldl (fun delivery record =>
              delivery.processUnorderedEvent P record (s.view record) (some r)) u.delivery := by
    intro records
    induction records with
    | nil =>
      intro u _ _
      split <;> rfl
    | cons record records ih =>
      intro u hmanager hassigned
      unfold publishStickyEvents
      rw [hmanager, hassigned]
      by_cases ha : isAssignedTo (s.delivery.manager.heap r) (s.control.infos record.publishInfo)
          = true
      · rw [ha, List.filter_cons_of_pos (by simpa using ha)]
        dsimp only [Bool.not_true]
        rw [if_neg (by decide)]
        split
        next hcontrol =>
          refine (ih (publishStickyCommonEvent P
            { u with control := u.control.setUnordered record.publishInfo } record r)
            hmanager fun cell => ?_).trans ?_
          · exact (isAssignedTo_setUnordered _ _ _ _).trans (hassigned cell)
          · rw [if_pos hcontrol, List.foldl_cons]
            rfl
        next => rfl
      · rw [List.filter_cons_of_neg (by simpa using ha)]
        have hfalse : isAssignedTo (s.delivery.manager.heap r)
            (s.control.infos record.publishInfo) = false := by simpa using ha
        rw [hfalse]
        exact ih u hmanager hassigned
  exact hrounds records s rfl fun _ => rfl

/-- **Where a replay is no wider than a live publish**: the publisher named
another bundle, or the subscriber is listed under the name and passes what
the replay does not check. -/
def replayOk (P : Platform) (C : Config) (s : InnerCommonEventManager)
    (subscribeInfo : CommonEventSubscribeInfo) (r : SubscriberRecordPtr) (event : String)
    (record : CommonEventRecord CellId CellId) : Prop :=
  C.hasControl = true → event ∈ subscribeInfo.getEvents →
    isAssignedTo (s.delivery.manager.heap r) (s.control.infos record.publishInfo) = true →
    (s.delivery.manager.isCompactionDue event
        ∨ r ∈ subscribersOf s.delivery.manager.eventSubscribers event)
      ∧ omittedChecks P (s.delivery.manager.heap r) (s.view record) = true

/-- **A replay is no wider than a live publish exactly where it is
`replayOk`**: a subscription, in any reachable state, submits the records
`replayed` to the subscriber just inserted, and a stored record is among them
only if the subscriber is selected live exactly where it is `replayOk`. -/
theorem replay_selected_iff_replayOk (hs : (serviceMachine P S C).Reachable s)
    {args : SubscribeArgs} {info : CommonEventSubscribeInfo} {recordInfo : EventRecordInfo}
    {r : SubscriberRecordPtr} (hcheck : checkSubscribe P C args = some (info, recordInfo))
    (hinsert : s.insertSubscriber S args info recordInfo = (some r, t)) :
    (s.subscribeCommonEvent P S C args).delivery
        = (t.replayed C info r).foldl (fun delivery record =>
          delivery.processUnorderedEvent P record (t.view record) (some r)) t.delivery
      ∧ ∀ event record, AList.lookup event t.sticky = some record →
        ((record ∈ t.replayed C info r → t.delivery.manager.listenerOf r
            ∈ t.delivery.manager.selectedListeners P (t.view record))
          ↔ t.replayOk P C info r event record) := by
  refine ⟨?_, fun event record hstored => ?_⟩
  · unfold subscribeCommonEvent
    rw [hcheck]
    dsimp only
    rw [hinsert]
    exact delivery_publishStickyEvent info r
  -- the insertion changes the subscriber manager alone
  obtain ⟨m, hm, rfl⟩ : ∃ m, s.delivery.manager.insertSubscriber S args.maxSubscriberNum
      (some info) args.commonEventListener recordInfo = (some r, m)
      ∧ t = { s with delivery := { s.delivery with manager := m } } := by
    unfold insertSubscriber at hinsert
    cases hm : s.delivery.manager.insertSubscriber S args.maxSubscriberNum (some info)
      args.commonEventListener recordInfo with
    | mk record m =>
      rw [hm] at hinsert
      cases hinsert
      exact ⟨m, rfl, rfl⟩
  have hsound : m.IndexSound := by
    have hop := SubscriberIndex.indexSound_apply S (indexSound_reachable hs)
      (.insertSubscriber args.maxSubscriberNum (some info) args.commonEventListener recordInfo)
    rw [SubscriberIndex.apply, hm] at hop
    exact hop
  obtain ⟨hr, hinfo, -⟩ := SubscriberManager.insertSubscriber_some S hm
  have hevents : m.eventsOf r = info.getEvents := by
    unfold SubscriberManager.eventsOf
    rw [hinfo]
  obtain ⟨hevent, -, hfiled⟩ := stickyFiled_reachable hs event record hstored
  have hmem : record ∈ replayed C { s with delivery := { s.delivery with manager := m } } info r
      ↔ C.hasControl = true ∧ event ∈ info.getEvents
        ∧ isAssignedTo (m.heap r) (s.control.infos record.publishInfo) = true := by
    unfold replayed
    dsimp only
    split
    next hcontrol =>
      rw [List.mem_filter, StickyManager.mem_findStickyEvents]
      constructor
      · rintro ⟨⟨event', hevent', hlookup⟩, hassigned⟩
        -- a record lies under the name of its event alone
        obtain rfl : event' = event :=
          (stickyFiled_reachable hs event' record hlookup).2.2.symm.trans hfiled
        exact ⟨hcontrol, hevent', hassigned⟩
      · rintro ⟨-, hevent', hassigned⟩
        exact ⟨⟨event, hevent', hstored⟩, hassigned⟩
    next hcontrol => simp [hcontrol]
  rw [hmem]
  unfold replayOk
  constructor
  · intro h hcontrol hevent' hassigned
    have hview : (view { s with delivery := { s.delivery with manager := m } }
        record).commonEventData.want.action = event := hfiled
    have hselected := (SubscriberManager.mem_selectedListeners_iff hsound hr
      (by rw [hview]; exact hevent) (by rw [hview, hevents]; exact hevent')).mp
      (h ⟨hcontrol, hevent', hassigned⟩)
    rw [hview] at hselected
    exact hselected
  · rintro h ⟨hcontrol, hevent', hassigned⟩
    have hview : (view { s with delivery := { s.delivery with manager := m } }
        record).commonEventData.want.action = event := hfiled
    refine (SubscriberManager.mem_selectedListeners_iff hsound hr
      (by rw [hview]; exact hevent) (by rw [hview, hevents]; exact hevent')).mpr ?_
    rw [hview]
    exact h hcontrol hevent' hassigned

/-! ## A replay across users -/

/-- Token 1 is that of a system service; accounts are as the code computes
them where there is no account service. -/
def replayPlatform : Platform where
  getTokenTypeFlag token := if token = 1 then .native else .hap
  getOsAccountLocalIdFromUid uid := some (uid.toNat / 200000)

/-- A system service publishes a sticky event to user 100. -/
def stickyForOneUser : PublishArgs where
  data := { want := { action := "e" } }
  publishInfo := { sticky := true }
  callerToken := 1
  userId := 100

/-- An application of user 101 subscribes to the event. -/
def subscriberOfAnother : SubscribeArgs where
  subscribeInfo := { matchingSkills := { events := ["e"] } }
  commonEventListener := some ⟨7⟩
  pid := 5
  uid := 20200000
  maxSubscriberNum := 5000

/-- The service after the publish. -/
def afterSticky : InnerCommonEventManager :=
  (publishCommonEvent replayPlatform .insertion {} {} stickyForOneUser {}).2

theorem afterSticky_reachable :
    (serviceMachine replayPlatform .insertion {}).Reachable afterSticky :=
  ⟨[.publishCommonEvent stickyForOneUser {}], rfl⟩

/-- What the application is entered with: its user is 101. -/
def otherInfo : CommonEventSubscribeInfo :=
  { subscriberOfAnother.subscribeInfo with userId := 101 }

def otherRecordInfo : EventRecordInfo := { pid := 5, uid := 20200000 }

/-- The service once the application is entered. -/
def afterInsert : InnerCommonEventManager :=
  (afterSticky.insertSubscriber .insertion subscriberOfAnother otherInfo otherRecordInfo).2

theorem checkSubscribe_subscriberOfAnother :
    checkSubscribe replayPlatform {} subscriberOfAnother
      = some (otherInfo, otherRecordInfo) := by
  decide

theorem insertSubscriber_subscriberOfAnother :
    afterSticky.insertSubscriber .insertion subscriberOfAnother otherInfo otherRecordInfo
      = (some 0, afterInsert) :=
  Prod.ext (by decide) rfl

/-- The stored record. -/
def stickyRecord : CommonEventRecord CellId CellId :=
  ({} : InnerCommonEventManager).eventRecordOf replayPlatform stickyForOneUser
    { isSubsystem := true } 100

/-- **A replay may be wider than a live publish**: the application of user 101
is sent the event published to user 100, which a live publish would not have
let it see. -/
theorem replay_across_users :
    ¬ ∀ (P : Platform) (S : StdSort) (C : Config) (s t : InnerCommonEventManager)
        (args : SubscribeArgs) (info : CommonEventSubscribeInfo)
        (recordInfo : EventRecordInfo) (r : SubscriberRecordPtr),
      (serviceMachine P S C).Reachable s →
      checkSubscribe P C args = some (info, recordInfo) →
      s.insertSubscriber S args info recordInfo = (some r, t) →
      ∀ event record, AList.lookup event t.sticky = some record →
        record ∈ t.replayed C info r →
        t.delivery.manager.listenerOf r
          ∈ t.delivery.manager.selectedListeners P (t.view record) := by
  intro hall
  have hselected := hall replayPlatform .insertion {} afterSticky afterInsert
    subscriberOfAnother otherInfo otherRecordInfo 0 afterSticky_reachable
    checkSubscribe_subscriberOfAnother insertSubscriber_subscriberOfAnother "e" stickyRecord
    (by decide) (by decide)
  revert hselected
  decide

/-- The exact condition at the same subscription: the replay is not
`replayOk`. -/
theorem replay_selected_iff_replayOk_subscriberOfAnother :
    ¬ afterInsert.replayOk replayPlatform {} otherInfo 0 "e" stickyRecord := by
  have hexact := (replay_selected_iff_replayOk afterSticky_reachable
    checkSubscribe_subscriberOfAnother insertSubscriber_subscriberOfAnother).2 "e" stickyRecord
    (by decide)
  rw [← hexact]
  decide

end InnerCommonEventManager

end CommonEventService

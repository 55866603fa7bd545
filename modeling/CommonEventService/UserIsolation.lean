import CommonEventService.ServiceInvariants

/-!
# Isolation between users

A caller that is neither a system application nor a part of the system, or
that publishes on behalf of another, has no say in the user its events are
for: `CheckUserId` takes its second branch. What such a publish can reach is
decided in two places, by `CheckSubscriberByUserId` for the subscribers that
are running, and by `PublishCommonEventInner` for the static ones; and
`ALL_USER`, which passes the first of them, is a user that only the first
branch of `CheckUserId` gives to a subscriber.

The account service is taken to answer with identifiers that are not
negative, so that none of them is one of the marks `ALL_USER`, `CURRENT_USER`
and `UNDEFINED_USER`.
-/

namespace CommonEventService

/-- Whether `CheckUserId` takes its first branch. -/
def EventComeFrom.isPrivileged (comeFrom : EventComeFrom) : Bool :=
  (comeFrom.isSystemApp || comeFrom.isSubsystem || comeFrom.isCemShell) && !comeFrom.isProxy

section Checks

variable {P : Platform} {C : Config} {pid : Pid} {uid : Uid} {callerToken : AccessTokenID}
  {userId user : Int} {comeFrom : EventComeFrom}

/-- **The second branch of `CheckUserId`** gives the user of the caller, or
leaves it open. -/
theorem user_of_unprivileged
    (hcheck : checkUserId P C pid uid callerToken userId = some (comeFrom, user))
    (hcomeFrom : comeFrom.isPrivileged = false) :
    user = UNDEFINED_USER ∨ P.getOsAccountLocalIdFromUid uid = some user := by
  unfold checkUserId at hcheck
  split at hcheck
  · cases hcheck
  dsimp only at hcheck
  split at hcheck
  next hprivileged =>
    cases hcheck
    rw [EventComeFrom.isPrivileged, hprivileged] at hcomeFrom
    cases hcomeFrom
  next =>
    split at hcheck
    next hundefined =>
      cases hcheck
      cases haccount : P.getOsAccountLocalIdFromUid uid with
      | none => exact Or.inl hundefined
      | some localId => exact Or.inr rfl
    next => cases hcheck

/-- The second branch of `CheckUserId` gives nobody all users. -/
theorem user_ne_allUser
    (hids : ∀ uid localId, P.getOsAccountLocalIdFromUid uid = some localId → 0 ≤ localId)
    (hcheck : checkUserId P C pid uid callerToken userId = some (comeFrom, user))
    (hcomeFrom : comeFrom.isPrivileged = false) : user ≠ ALL_USER := by
  rintro rfl
  rcases user_of_unprivileged hcheck hcomeFrom with hundefined | haccount
  · revert hundefined
    decide
  · exact absurd (hids uid _ haccount) (by decide)

/-- `CheckSubscriberByUserId` takes for events of the system just those of the
first branch. -/
theorem isSystemAppPublisher_eq {args : PublishArgs} {event : EventRecord}
    (hevent : event.eventRecordInfo = publisherInfo args comeFrom) :
    isSystemAppPublisher event = comeFrom.isPrivileged := by
  unfold isSystemAppPublisher EventComeFrom.isPrivileged
  rw [hevent]
  show (((comeFrom.isSystemApp || comeFrom.isCemShell) || comeFrom.isSubsystem)
    && !comeFrom.isProxy) = _
  rw [Bool.or_right_comm]

end Checks

namespace SubscriberManager

variable {P : Platform} {m : SubscriberManager (Buffered CellId) CellId}

/-- **A receiver of an event that is not of the system** is of the user of
the event, or of all users. -/
theorem userId_of_receiver {event : EventRecord} (hevent : isSystemAppPublisher event = false)
    {r : SubscriberRecordPtr} (hr : r ∈ (m.getSubscriberRecords P event).1) :
    ((m.getSubscriberRecords P event).2.heap r).eventSubscribeInfo.userId = event.userId
      ∨ ((m.getSubscriberRecords P event).2.heap r).eventSubscribeInfo.userId = ALL_USER := by
  have hselected :
      r ∈ (m.getSubscriberRecords P event).2.getSubscriberRecordsByWantLocked P event :=
    hr
  have hmatches := (List.mem_filter.mp hselected).2
  unfold matchesLive at hmatches
  simp only [Bool.and_eq_true] at hmatches
  have huser := hmatches.1.1.1.1.2
  unfold checkSubscriberByUserId at huser
  rw [hevent, Bool.false_and] at huser
  by_cases h : ((m.getSubscriberRecords P event).2.heap r).eventSubscribeInfo.userId = ALL_USER
      ∨ ((m.getSubscriberRecords P event).2.heap r).eventSubscribeInfo.userId = event.userId
  · exact h.symm
  · rw [if_neg h] at huser
    cases huser

end SubscriberManager

namespace StaticSubscriberManager

variable {P : Platform} {env : StaticEnvironment} {m : StaticSubscriberManager}

/-- **The static subscribers an event for one user connects** are of that
user, or of a user of the system. -/
theorem userId_of_connected {data : CommonEventData} {publishInfo : CommonEventPublishInfo}
    {callerToken : AccessTokenID} {userId : Int} (huser : userId ≠ ALL_USER) :
    ∃ connections, (m.publishCommonEvent P env data publishInfo callerToken userId).connected
        = m.connected ++ connections
      ∧ ∀ connection ∈ connections, connection.userId = userId
        ∨ SUBSCRIBE_USER_SYSTEM_BEGIN ≤ connection.userId
          ∧ connection.userId ≤ SUBSCRIBE_USER_SYSTEM_END := by
  have hrefresh := m.connected_refresh P env data
  unfold publishCommonEvent
  split
  next u heq =>
    rw [heq] at hrefresh
    exact ⟨[], by rw [List.append_nil]; exact hrefresh, nofun⟩
  next u heq =>
    rw [heq] at hrefresh
    refine ⟨_, congrArg (· ++ _) hrefresh, ?_⟩
    intro connection hconnection
    obtain ⟨subscriber, hsubscriber, rfl⟩ := List.mem_map.mp hconnection
    have hconnected := (List.mem_filter.mp hsubscriber).2
    unfold isConnected at hconnected
    simp only [Bool.and_eq_true, Bool.not_eq_true', Bool.and_eq_false_iff,
      decide_eq_false_iff_not, not_lt, ne_eq, not_not] at hconnected
    obtain ⟨⟨⟨⟨⟨-, hbegin⟩, hend⟩, -⟩, -⟩, -⟩ := hconnected
    rcases hend with (hend | hall) | hsame
    · exact Or.inr ⟨hbegin, hend⟩
    · exact absurd hall huser
    · exact Or.inl hsame

end StaticSubscriberManager

namespace InnerCommonEventManager

variable {P : Platform} {S : StdSort} {C : Config} {s t : InnerCommonEventManager}

/-- **Where a record comes from**: a subscription of the run, that passed its
checks, put it there as it is. -/
def SubscribedBy (P : Platform) (C : Config) (ls : List ServiceLabel) (l : Remote)
    (record : EventSubscriberRecord) : Prop :=
  ∃ args, .subscribeCommonEvent args ∈ ls ∧ args.commonEventListener = some l
    ∧ checkSubscribe P C args = some (record.eventSubscribeInfo, record.eventRecordInfo)

/-- **Whatever is registered was subscribed in the run.** -/
theorem subscribedBy_of_run {ls : List ServiceLabel}
    (hs : (serviceMachine P S C).run ls = some s) {l : Remote} {record : EventSubscriberRecord}
    (hrecord : s.delivery.manager.recordOf l = some record) : SubscribedBy P C ls l record := by
  refine Machine.run_induction (M := serviceMachine P S C)
    (R := fun ls s => ∀ l record, s.delivery.manager.recordOf l = some record →
      SubscribedBy P C ls l record) (fun _ _ h => by cases h) ?_ hs l record hrecord
  intro ls label s t hs ih hstep l record hrecord
  have hsound := indexSound_reachable ⟨ls, hs⟩
  have hold : ∀ record', s.delivery.manager.recordOf l = some record' →
      record.eventSubscribeInfo = record'.eventSubscribeInfo →
      record.eventRecordInfo = record'.eventRecordInfo →
      SubscribedBy P C (ls ++ [label]) l record := by
    intro record' hrecord' hinfo hrecordInfo
    obtain ⟨args, hargs, hlistener, hcheck⟩ := ih l record' hrecord'
    exact ⟨args, List.mem_append_left _ hargs, hlistener, by rw [hinfo, hrecordInfo, hcheck]⟩
  rcases manager_step_cases hstep with heq | ⟨l', u, hl', hu, heq⟩ |
    ⟨args, info, recordInfo, rfl, hcheck, heq⟩
  · rw [heq] at hrecord
    exact hold record hrecord rfl rfl
  · rw [heq] at hrecord
    have hne : ∀ maxSubscriberNum info listener recordInfo,
        l' ≠ .insertSubscriber maxSubscriberNum info listener recordInfo := by
      rintro _ _ _ _ rfl
      cases hl'
    obtain ⟨record', hrecord', hinfo, hrecordInfo⟩ :=
      UnorderedDelivery.keepsSubscriptions_step hsound hne hu l record hrecord
    exact hold record' hrecord' hinfo hrecordInfo
  · rw [heq] at hrecord
    rcases SubscriberManager.recordOf_insertSubscriber hsound.allocated S args.maxSubscriberNum
      (some info) args.commonEventListener recordInfo l with hsame |
      ⟨info', hinfo', hlistener, -, -, hnew⟩
    · rw [hsame] at hrecord
      exact hold record hrecord rfl rfl
    · cases hinfo'
      rw [hnew] at hrecord
      cases hrecord
      exact ⟨args, List.mem_append_right _ (List.mem_singleton.mpr rfl), hlistener, hcheck⟩

/-- What passes the checks of a subscription has the user that `CheckUserId`
gave it. -/
theorem checkUserId_of_checkSubscribe {args : SubscribeArgs} {info : CommonEventSubscribeInfo}
    {recordInfo : EventRecordInfo} (hcheck : checkSubscribe P C args = some (info, recordInfo)) :
    ∃ comeFrom, checkUserId P C args.pid args.uid args.callerToken args.subscribeInfo.userId
        = some (comeFrom, info.userId)
      ∧ recordInfo = subscriberInfo args comeFrom := by
  unfold checkSubscribe at hcheck
  split at hcheck
  · cases hcheck
  split at hcheck
  · cases hcheck
  obtain ⟨⟨comeFrom, user⟩, hchecked, heq⟩ := Option.map_eq_some_iff.mp hcheck
  cases heq
  exact ⟨comeFrom, hchecked, rfl⟩

/-- What passes the checks of a publish has the user that `CheckUserId` gave
it. -/
theorem checkUserId_of_checkPublish {args : PublishArgs} {checked : EventComeFrom × Int}
    (hcheck : checkPublish P C args = some checked) :
    checkUserId P C args.pid args.uid args.callerToken args.userId = some checked := by
  unfold checkPublish at hcheck
  dsimp only at hcheck
  split at hcheck
  · cases hcheck
  split at hcheck
  · cases hcheck
  split at hcheck
  · cases hcheck
  split at hcheck
  · cases hcheck
  next hchecked =>
    split at hcheck
    · cases hcheck
    · rw [hchecked, ← hcheck]

/-- **An event published without privilege stays with its user.** In every
run and for every publish that `CheckUserId` lets through by its second
branch: the event is for the user of the caller, or for no user; a dynamic
receiver is of the user of the event, or of all users; a subscriber of all
users was subscribed through the first branch; and a static subscriber that
is connected is of the user of the event, or of a user of the system. -/
theorem unprivileged_publish_isolated
    (hids : ∀ uid localId, P.getOsAccountLocalIdFromUid uid = some localId → 0 ≤ localId)
    {ls : List ServiceLabel} (hs : (serviceMachine P S C).run ls = some s) {args : PublishArgs}
    {comeFrom : EventComeFrom} {user : Int}
    (hcheck : checkUserId P C args.pid args.uid args.callerToken args.userId
      = some (comeFrom, user))
    (hcomeFrom : comeFrom.isPrivileged = false) (env : StaticEnvironment) :
    (user = UNDEFINED_USER ∨ P.getOsAccountLocalIdFromUid args.uid = some user)
    ∧ (∀ event : EventRecord, event = { s.eventRecordOf P args comeFrom user with
          commonEventData := args.data
          publishInfo := args.publishInfo } →
        ∀ r ∈ (s.delivery.manager.getSubscriberRecords P event).1,
          ((s.delivery.manager.getSubscriberRecords P event).2.heap r).eventSubscribeInfo.userId
              = user
            ∨ ((s.delivery.manager.getSubscriberRecords P event).2.heap
              r).eventSubscribeInfo.userId = ALL_USER)
    ∧ (∀ r ∈ s.delivery.manager.subscribers,
        (s.delivery.manager.heap r).eventSubscribeInfo.userId = ALL_USER →
          ∃ args' comeFrom', .subscribeCommonEvent args' ∈ ls
            ∧ args'.commonEventListener = some (s.delivery.manager.listenerOf r)
            ∧ checkUserId P C args'.pid args'.uid args'.callerToken args'.subscribeInfo.userId
              = some (comeFrom', ALL_USER)
            ∧ comeFrom'.isPrivileged = true)
    ∧ ∃ connections, (s.publishCommonEvent P S C args env).2.staticSubscriberManager.connected
          = s.staticSubscriberManager.connected ++ connections
        ∧ ∀ connection ∈ connections, connection.userId = user
          ∨ SUBSCRIBE_USER_SYSTEM_BEGIN ≤ connection.userId
            ∧ connection.userId ≤ SUBSCRIBE_USER_SYSTEM_END := by
  refine ⟨user_of_unprivileged hcheck hcomeFrom, ?_, ?_, ?_⟩
  · -- an event that is not of a system app is matched by user
    rintro event rfl r hr
    refine SubscriberManager.userId_of_receiver ?_ hr
    rw [isSystemAppPublisher_eq rfl, hcomeFrom]
  · intro r hr hall
    obtain ⟨args', hargs', hlistener, hcheck'⟩ := subscribedBy_of_run hs
      (SubscriberManager.recordOf_of_mem (indexSound_reachable ⟨ls, hs⟩) hr)
    obtain ⟨comeFrom', huser', -⟩ := checkUserId_of_checkSubscribe hcheck'
    rw [hall] at huser'
    refine ⟨args', comeFrom', hargs', hlistener, huser', ?_⟩
    by_contra hnot
    exact user_ne_allUser hids huser' (Bool.eq_false_of_not_eq_true hnot) rfl
  · have hne := user_ne_allUser hids hcheck hcomeFrom
    have hstatic : ∃ connections,
        (s.publishStatic P C args user env).staticSubscriberManager.connected
          = s.staticSubscriberManager.connected ++ connections
        ∧ ∀ connection ∈ connections, connection.userId = user
          ∨ SUBSCRIBE_USER_SYSTEM_BEGIN ≤ connection.userId
            ∧ connection.userId ≤ SUBSCRIBE_USER_SYSTEM_END := by
      unfold publishStatic
      dsimp only
      split
      · exact StaticSubscriberManager.userId_of_connected hne
      · exact ⟨[], (List.append_nil _).symm, nofun⟩
    rcases publishCommonEvent_cases (P := P) (S := S) (C := C) s args env with ⟨-, heq⟩ |
      ⟨comeFrom', user', hcheck', hcases⟩
    · rw [heq]
      exact ⟨[], (List.append_nil _).symm, nofun⟩
    · have hsame := (checkUserId_of_checkPublish hcheck').symm.trans hcheck
      cases hsame
      rcases hcases with ⟨-, heq⟩ | ⟨-, u, rfl, ⟨-, heq⟩ | ⟨-, heq⟩⟩
      all_goals rw [heq]
      · exact hstatic
      · exact hstatic
      · unfold controlPublishCommonEvent
        split <;> exact hstatic

/-- Token 1 is that of a system service, and accounts are as the code computes
them where there is no account service. -/
def accountPlatform : Platform where
  getTokenTypeFlag token := if token = 1 then .native else .hap
  getOsAccountLocalIdFromUid uid := some (uid.toNat / 200000)

/-- A subscription to `e`. -/
def subscriberOf (listener : ℕ) (uid : Uid) (callerToken : AccessTokenID) : SubscribeArgs where
  subscribeInfo := { matchingSkills := { events := ["e"] } }
  commonEventListener := some ⟨listener⟩
  pid := 5
  uid := uid
  callerToken := callerToken
  maxSubscriberNum := 5000

/-- A system service, and an application each of users 100 and 101. -/
def threeSubscribers : List ServiceLabel :=
  [.subscribeCommonEvent (subscriberOf 1 1000 1), .subscribeCommonEvent (subscriberOf 2 20000001 0),
    .subscribeCommonEvent (subscriberOf 3 20200001 0)]

/-- An application of user 100 publishes `e`. -/
def publishOfOneUser : PublishArgs where
  data := { want := { action := "e" } }
  pid := 6
  uid := 20000002

/-- The event of the application of user 100 is for the system service and
the subscriber of user 100. -/
theorem unprivileged_publish_isolated_two :
    ∃ s, (serviceMachine accountPlatform .insertion {}).run threeSubscribers = some s
      ∧ ∃ event : EventRecord,
        (s.delivery.manager.getSubscriberRecords accountPlatform event).1 = [0, 1]
        ∧ ∀ r ∈ (s.delivery.manager.getSubscriberRecords accountPlatform event).1,
          ((s.delivery.manager.getSubscriberRecords accountPlatform event).2.heap
              r).eventSubscribeInfo.userId = 100
            ∨ ((s.delivery.manager.getSubscriberRecords accountPlatform event).2.heap
              r).eventSubscribeInfo.userId = ALL_USER := by
  obtain ⟨s, hs, hreceivers⟩ := Option.map_eq_some_iff.mp
    (show ((serviceMachine accountPlatform .insertion {}).run threeSubscribers).map
      (fun s => (s.delivery.manager.getSubscriberRecords accountPlatform
        { s.eventRecordOf accountPlatform publishOfOneUser {} 100 with
          commonEventData := publishOfOneUser.data
          publishInfo := publishOfOneUser.publishInfo }).1) = some [0, 1] by decide +kernel)
  have hcheck : checkUserId accountPlatform {} publishOfOneUser.pid publishOfOneUser.uid
      publishOfOneUser.callerToken publishOfOneUser.userId = some ({}, 100) := by decide
  obtain ⟨-, hisolated, -, -⟩ := unprivileged_publish_isolated (P := accountPlatform)
    (fun uid localId h => by
      rw [← Option.some.inj h]
      exact Int.natCast_nonneg _)
    hs hcheck rfl {}
  exact ⟨s, hs, _, hreceivers, hisolated _ rfl⟩

end InnerCommonEventManager

end CommonEventService

import CommonEventService.ServiceInvariants

/-!
# What a refused publish leaves behind

`PublishCommonEvent` may refuse at seven points. Five of them stand before
anything is done; the check on sticky events comes after the static
subscribers have been published to, and the look at the control manager after
the sticky store has been written as well. So a publish that is refused late
leaves no trace only where those two stages found nothing to do, and that is
the condition `publishOk`.

Maps are compared key by key: that is all a map of the code is.
-/

namespace CommonEventService

variable {P : Platform} {S : StdSort} {C : Config}

/-! ## The static stage -/

namespace StaticSubscriberManager

variable {m m' : StaticSubscriberManager} {env : StaticEnvironment}

/-- The same subscribers, and the same of them disabled. -/
structure SameTables (m m' : StaticSubscriberManager) : Prop where
  validSubscribers : ∀ event, m'.validSubscribers.lookup event = m.validSubscribers.lookup event
  disableEvents : ∀ key, m'.disableEvents.lookup key = m.disableEvents.lookup key

/-- **Where a publish does nothing to the static subscribers**: what it reads
in, and the package it follows, leave the subscribers and the disabled events
as they are – and unless they could not be read, no subscriber of the event
passes the checks. -/
def IsIdle (P : Platform) (env : StaticEnvironment) (m : StaticSubscriberManager)
    (data : CommonEventData) (publishInfo : CommonEventPublishInfo)
    (callerToken : AccessTokenID) (userId : Int) : Prop :=
  SameTables m (m.refresh P env data).2 ∧
    ((m.refresh P env data).1 = true → ∀ subscriber ∈ m.subscribersOf data.want.action,
      m.isConnected P env data publishInfo callerToken userId subscriber = false)

/-- What decides on a connection is in the two tables. -/
theorem SameTables.isConnected (h : SameTables m m') (data : CommonEventData)
    (publishInfo : CommonEventPublishInfo) (callerToken : AccessTokenID) (userId : Int)
    (subscriber : StaticSubscriberInfo) :
    m'.isConnected P env data publishInfo callerToken userId subscriber
      = m.isConnected P env data publishInfo callerToken userId subscriber := by
  unfold StaticSubscriberManager.isConnected isDisableEvent
  rw [h.disableEvents]

theorem SameTables.subscribersOf (h : SameTables m m') (event : String) :
    m'.subscribersOf event = m.subscribersOf event := by
  unfold StaticSubscriberManager.subscribersOf
  rw [h.validSubscribers]

/-- **A publish leaves no trace with the static subscribers exactly where
these are idle.** -/
theorem publishCommonEvent_idle_iff (data : CommonEventData)
    (publishInfo : CommonEventPublishInfo) (callerToken : AccessTokenID) (userId : Int) :
    (m.publishCommonEvent P env data publishInfo callerToken userId).connected = m.connected
        ∧ SameTables m (m.publishCommonEvent P env data publishInfo callerToken userId)
      ↔ m.IsIdle P env data publishInfo callerToken userId := by
  have hconnected := m.connected_refresh P env data
  unfold publishCommonEvent IsIdle
  cases hrefresh : m.refresh P env data with
  | mk ok m' =>
    rw [hrefresh] at hconnected
    cases ok with
    | false =>
      -- the subscribers could not be read
      exact ⟨fun h => ⟨h.2, nofun⟩, fun h => ⟨hconnected, h.1⟩⟩
    | true =>
      have hnone : (m'.publishCommonEventInner P env data publishInfo callerToken
          userId).connected = m.connected
          ↔ ∀ subscriber ∈ m'.subscribersOf data.want.action,
            m'.isConnected P env data publishInfo callerToken userId subscriber = false := by
        show m'.connected ++ _ = _ ↔ _
        rw [show m'.connected = m.connected from hconnected, List.append_right_eq_self,
          List.map_eq_nil_iff, List.filter_eq_nil_iff]
        simp
      constructor
      · rintro ⟨hconn, hsame⟩
        have hsame' : SameTables m m' := ⟨hsame.validSubscribers, hsame.disableEvents⟩
        refine ⟨hsame', fun _ subscriber hmem => ?_⟩
        rw [← hsame'.isConnected]
        exact hnone.mp hconn subscriber (by rw [hsame'.subscribersOf]; exact hmem)
      · rintro ⟨hsame, hidle⟩
        refine ⟨hnone.mpr fun subscriber hmem => ?_,
          ⟨hsame.validSubscribers, hsame.disableEvents⟩⟩
        rw [hsame.isConnected]
        exact hidle rfl subscriber (by rw [← hsame.subscribersOf]; exact hmem)

end StaticSubscriberManager

/-! ## The publish -/

namespace InnerCommonEventManager

variable {s t : InnerCommonEventManager}

/-- **No trace of a publish**: no static subscriber was connected or notified,
no dynamic one queued for, and the tables of the static subscribers, the
sticky store and the two queues of events are as they were. -/
structure NoTrace (s t : InnerCommonEventManager) : Prop where
  connected : t.staticSubscriberManager.connected = s.staticSubscriberManager.connected
  tables : StaticSubscriberManager.SameTables s.staticSubscriberManager
    t.staticSubscriberManager
  sticky : ∀ event, AList.lookup event t.sticky = AList.lookup event s.sticky
  orderedEventQueue : t.control.orderedEventQueue = s.control.orderedEventQueue
  orderedQueue : t.control.orderedQueue = s.control.orderedQueue ∧ t.control.ops = s.control.ops
  unorderedEventQueue : t.delivery.unorderedEventQueue = s.delivery.unorderedEventQueue
  unorderedQueue : t.delivery.unorderedQueue = s.delivery.unorderedQueue
    ∧ t.delivery.unorderedImmediateQueue = s.delivery.unorderedImmediateQueue

/-- **Where a publish that is refused leaves no trace**: it is refused before
anything is done, or – where the sticky check or the missing control manager
refuses it – the static subscribers are idle, and the event is not stored. -/
def publishOk (P : Platform) (C : Config) (s : InnerCommonEventManager) (args : PublishArgs)
    (env : StaticEnvironment) : Prop :=
  ∀ comeFrom user, checkPublish P C args = some (comeFrom, user) →
    (args.publishInfo.sticky && !isStickyAllowed P (publisherInfo args comeFrom)) = true
        ∨ C.hasControl = false →
    (C.hasStaticSubscriberManager = true → s.staticSubscriberManager.IsIdle P env args.data
        args.publishInfo args.callerToken user)
      ∧ (args.publishInfo.sticky && isStickyAllowed P (publisherInfo args comeFrom)) = false

/-- What a publish leaves with the static subscribers. -/
theorem publishStatic_idle_iff (args : PublishArgs) (user : Int) (env : StaticEnvironment) :
    (s.publishStatic P C args user env).staticSubscriberManager.connected
          = s.staticSubscriberManager.connected
        ∧ StaticSubscriberManager.SameTables s.staticSubscriberManager
          (s.publishStatic P C args user env).staticSubscriberManager
      ↔ (C.hasStaticSubscriberManager = true → s.staticSubscriberManager.IsIdle P env args.data
        args.publishInfo args.callerToken user) := by
  unfold publishStatic
  dsimp only
  split
  next hstatic =>
    rw [StaticSubscriberManager.publishCommonEvent_idle_iff]
    exact ⟨fun h _ => h, fun h => h hstatic⟩
  next hstatic =>
    exact ⟨fun _ h => absurd h hstatic, fun _ => ⟨rfl, fun _ => rfl, fun _ => rfl⟩⟩

/-- **A refused publish leaves no trace exactly where it is `publishOk`**, in
every reachable state. -/
theorem noTrace_iff_publishOk (hs : (serviceMachine P S C).Reachable s) (args : PublishArgs)
    (env : StaticEnvironment) :
    ((s.publishCommonEvent P S C args env).1 = false →
        NoTrace s (s.publishCommonEvent P S C args env).2)
      ↔ s.publishOk P C args env := by
  rcases publishCommonEvent_cases (P := P) (S := S) (C := C) s args env with ⟨hcheck, heq⟩ |
    ⟨comeFrom, user, hcheck, ⟨hrefused, heq⟩ | ⟨hpassed, u, rfl, ⟨hcontrol, heq⟩ |
      ⟨hcontrol, heq⟩⟩⟩
  · -- refused before anything is done
    rw [heq]
    refine ⟨fun _ comeFrom user h => absurd (hcheck.symm.trans h) (by simp), fun _ _ => ?_⟩
    exact ⟨rfl, ⟨fun _ => rfl, fun _ => rfl⟩, fun _ => rfl, rfl, ⟨rfl, rfl⟩, rfl, ⟨rfl, rfl⟩⟩
  · -- refused by the check on sticky events: only the static stage is done
    rw [heq]
    have hsticky : args.publishInfo.sticky = true
        ∧ isStickyAllowed P (publisherInfo args comeFrom) = false := by
      simpa using hrefused
    constructor
    · intro h comeFrom' user' hcheck' _
      obtain ⟨rfl, rfl⟩ : comeFrom = comeFrom' ∧ user = user' := by
        rw [hcheck] at hcheck'
        simpa using hcheck'
      have htrace := h rfl
      exact ⟨(publishStatic_idle_iff args user env).mp ⟨htrace.connected, htrace.tables⟩,
        by rw [hsticky.2, Bool.and_false]⟩
    · intro hok _
      obtain ⟨hconnected, htables⟩ := (publishStatic_idle_iff args user env).mpr
        (hok comeFrom user hcheck (Or.inl hrefused)).1
      exact ⟨hconnected, htables, fun _ => rfl, rfl, ⟨rfl, rfl⟩, rfl, ⟨rfl, rfl⟩⟩
  · -- there is no control manager: the static stage and the store are done
    rw [heq]
    constructor
    · intro h comeFrom' user' hcheck' _
      obtain ⟨rfl, rfl⟩ : comeFrom = comeFrom' ∧ user = user' := by
        rw [hcheck] at hcheck'
        simpa using hcheck'
      have htrace := h rfl
      refine ⟨(publishStatic_idle_iff args user env).mp ⟨htrace.connected, htrace.tables⟩, ?_⟩
      cases hsticky : args.publishInfo.sticky with
      | false => rfl
      | true =>
        -- what is stored is the record of a new cell
        refine absurd (htrace.sticky args.data.want.action) ?_
        simp only [hsticky, if_true]
        rw [StickyManager.lookup_updateStickyEvent _ (action_of_checkPublish hcheck), if_pos rfl]
        intro hstored
        have hlt := (stickyFiled_reachable hs _ _ hstored.symm).2.1
        exact absurd hlt (Nat.lt_irrefl _)
    · intro hok _
      obtain ⟨hidle, hnot⟩ := hok comeFrom user hcheck (Or.inr hcontrol)
      obtain ⟨hconnected, htables⟩ := (publishStatic_idle_iff args user env).mpr hidle
      have hsticky : args.publishInfo.sticky = false := by
        cases hsticky : args.publishInfo.sticky with
        | false => rfl
        | true =>
          rw [hsticky, Bool.true_and] at hnot
          rw [hsticky, hnot] at hpassed
          cases hpassed
      refine ⟨hconnected, htables, fun event => ?_, rfl, ⟨rfl, rfl⟩, rfl, ⟨rfl, rfl⟩⟩
      simp only [hsticky, Bool.false_eq_true, if_false]
  · -- accepted
    rw [heq]
    refine ⟨fun _ comeFrom' user' hcheck' hrefused => ?_, fun _ h => absurd h (by simp)⟩
    obtain ⟨rfl, rfl⟩ : comeFrom = comeFrom' ∧ user = user' := by
      rw [hcheck] at hcheck'
      simpa using hcheck'
    rcases hrefused with hrefused | hnone
    · rw [hpassed] at hrefused
      cases hrefused
    · rw [hcontrol] at hnone
      cases hnone

/-! ## A refused publish that connects -/

/-- A bundle with one static subscriber to one event. -/
def oneStaticSubscriber : StaticEnvironment where
  getApplicationInfos := some [{ bundleName := "b", uid := 1, allowCommonEvent := ["e"] }]
  queryExtensionInfos := some [{ name := "x", bundleName := "b", uid := 1 }]
  getResConfigFile _ := some ["p"]
  parse _ := some (.object [("commonEvents", .array [.object [("name", .string "x"),
    ("permission", .string ""), ("events", .array [.string "e"])]])])

/-- A sticky publish by an application that may not publish sticky events. -/
def stickyWithoutPermission : PublishArgs where
  data := { want := { action := "e" } }
  publishInfo := { sticky := true }

theorem publishCommonEvent_stickyWithoutPermission :
    (publishCommonEvent {} .insertion {} {} stickyWithoutPermission oneStaticSubscriber).1
        = false
      ∧ (publishCommonEvent {} .insertion {} {} stickyWithoutPermission
          oneStaticSubscriber).2.staticSubscriberManager.connected
        = [⟨{ want := { action := "e" } }, 0, "b", "x"⟩] := by
  decide +kernel

/-- **A refused publish may leave a trace**: the sticky event is turned down
after the static subscriber has been connected. -/
theorem refused_publish_connects :
    ¬ ∀ (P : Platform) (S : StdSort) (C : Config) (s : InnerCommonEventManager)
        (args : PublishArgs) (env : StaticEnvironment),
      (serviceMachine P S C).Reachable s →
      (s.publishCommonEvent P S C args env).1 = false →
      NoTrace s (s.publishCommonEvent P S C args env).2 := by
  intro hall
  obtain ⟨hfalse, hconnected⟩ := publishCommonEvent_stickyWithoutPermission
  have htrace := hall {} .insertion {} {} stickyWithoutPermission oneStaticSubscriber
    Machine.Reachable.init hfalse
  have hsame := htrace.connected
  rw [hconnected] at hsame
  cases hsame

/-- The exact condition at the first publish of all: it is not `publishOk`. -/
theorem noTrace_iff_publishOk_stickyWithoutPermission :
    ¬ publishOk {} {} {} stickyWithoutPermission oneStaticSubscriber := by
  intro hok
  have htrace := (noTrace_iff_publishOk (s := {}) (P := {}) (S := .insertion) (C := {})
    Machine.Reachable.init stickyWithoutPermission oneStaticSubscriber).mpr hok
  obtain ⟨hfalse, hconnected⟩ := publishCommonEvent_stickyWithoutPermission
  have hsame := (htrace hfalse).connected
  rw [hconnected] at hsame
  cases hsame

end InnerCommonEventManager

end CommonEventService

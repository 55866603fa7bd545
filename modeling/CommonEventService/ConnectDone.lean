import CommonEventService.AbilityManagerHelper
import CommonEventService.Lib.RangeFor

/-!
# The end of a connection

`OnAbilityConnectDone` is called with the remote object of the ability, which
may be null or of another interface, and sends what has waited for it: it runs
`NotifyEvent` for each event of `events_`, and empties the list. With a proxy
that puts the events on the notify queue. Without one `NotifyEvent` puts an
event back, behind the others of the list that the loop is in the middle of, and
what the loop leaves is emptied all the same.
-/

namespace CommonEventService

/-- The remote object of a connection. -/
inductive RemoteObject where
  | null
  /-- One that is not castable to `IStaticSubscriber`. -/
  | other
  | staticSubscriber
  deriving DecidableEq, Repr

namespace StaticSubscriberConnection

variable (conn : StaticSubscriberConnection)

/-- `InitProxy`: the proxy stays as it was where there is no remote object, and
is null where the cast fails. -/
def initProxy : RemoteObject → StaticSubscriberConnection
  | .null => conn
  | .other => { conn with proxy := false }
  | .staticSubscriber => { conn with proxy := true }

/-- **`OnAbilityConnectDone`**, with any remote object. -/
def onAbilityConnectDoneWith (remoteObject : RemoteObject) :
    Option (RangeForRun StaticSubscriberConnection CommonEventData) :=
  (rangeFor (·.events) notifyEvent (conn.initProxy remoteObject)).map
    (fun run => { run with state := { run.state with events := [] } })

/-- **What `OnAbilityConnectDone` is to do**: the loop comes to its end, with
one pass for each event that was cached, and the events are on the notify queue,
or still cached where there is no proxy. -/
def IsHandedOver (outcome : Option (RangeForRun StaticSubscriberConnection CommonEventData)) :
    Prop :=
  ∃ run, outcome = some run ∧ run.passes = conn.events
    ∧ ((run.state.proxy = true
          ∧ run.state.staticNotifyQueue = conn.staticNotifyQueue ++ conn.events
          ∧ run.state.events = [])
      ∨ (run.state.proxy = false
          ∧ run.state.staticNotifyQueue = conn.staticNotifyQueue
          ∧ run.state.events = conn.events))

@[simp] theorem initProxy_events (remoteObject : RemoteObject) :
    (conn.initProxy remoteObject).events = conn.events := by
  cases remoteObject <;> rfl

@[simp] theorem initProxy_staticNotifyQueue (remoteObject : RemoteObject) :
    (conn.initProxy remoteObject).staticNotifyQueue = conn.staticNotifyQueue := by
  cases remoteObject <;> rfl

theorem initProxy_proxy (remoteObject : RemoteObject) :
    (conn.initProxy remoteObject).proxy = true
      ↔ remoteObject = .staticSubscriber ∨ (remoteObject = .null ∧ conn.proxy = true) := by
  cases remoteObject <;> simp [initProxy]

variable {conn}

/-- Over a connection that is made the loop leaves the list it runs over. -/
theorem rangeFor_notifyEvent (hproxy : conn.proxy = true) :
    rangeFor (·.events) notifyEvent conn
      = some ⟨conn.events.foldl notifyEvent conn, conn.events⟩ := by
  refine RangeFor.rangeFor_of_invariant (fun conn => conn.proxy = true) hproxy ?_
  intro conn event hproxy
  rw [notifyEvent, if_pos hproxy]
  exact ⟨hproxy, rfl⟩

/-- Without a proxy the first pass modifies the list it runs over. -/
theorem rangeFor_notifyEvent_eq_none (hproxy : conn.proxy = false) (hevents : conn.events ≠ []) :
    rangeFor (·.events) notifyEvent conn = none := by
  obtain ⟨event, events, hcons⟩ := List.exists_cons_of_ne_nil hevents
  refine RangeFor.rangeFor_eq_none hcons ?_
  rw [notifyEvent, if_neg (by rw [hproxy]; exact Bool.false_ne_true)]
  show conn.events ++ [event] ≠ conn.events
  simp

variable (conn) in
/-- **`OnAbilityConnectDone` hands over what was cached exactly where** there is
a proxy behind `InitProxy`, or nothing was cached. -/
theorem isHandedOver_onAbilityConnectDoneWith_iff (remoteObject : RemoteObject) :
    conn.IsHandedOver (conn.onAbilityConnectDoneWith remoteObject)
      ↔ remoteObject = .staticSubscriber ∨ (remoteObject = .null ∧ conn.proxy = true)
        ∨ conn.events = [] := by
  rw [← or_assoc, ← initProxy_proxy]
  unfold IsHandedOver onAbilityConnectDoneWith
  cases hproxy : (conn.initProxy remoteObject).proxy with
  | true =>
    refine iff_of_true ?_ (.inl rfl)
    rw [rangeFor_notifyEvent hproxy, foldl_notifyEvent _ hproxy]
    exact ⟨_, rfl, by simp, .inl ⟨hproxy, by simp, rfl⟩⟩
  | false =>
    rw [or_iff_right Bool.false_ne_true]
    constructor
    · rintro ⟨run, hrun, -⟩
      by_contra hevents
      rw [rangeFor_notifyEvent_eq_none hproxy (by rw [initProxy_events]; exact hevents)] at hrun
      cases hrun
    · intro hevents
      have hempty : (conn.initProxy remoteObject).events = [] := by
        rw [initProxy_events, hevents]
      rw [RangeFor.rangeFor_of_empty hempty]
      exact ⟨_, rfl, hevents.symm,
        .inr ⟨hproxy, conn.initProxy_staticNotifyQueue remoteObject, hevents.symm⟩⟩

/-- The ability manager reports a connection that has failed, without a remote
object, to a connection that was just made: its event is lost. -/
theorem not_isHandedOver_null :
    ¬ ∀ (conn : StaticSubscriberConnection) (remoteObject : RemoteObject),
      conn.IsHandedOver (conn.onAbilityConnectDoneWith remoteObject) := by
  intro h
  obtain ⟨run, hrun, -⟩ :=
    h (ofEvent { want := { action := "usual.event.BOOT_COMPLETED" } } "bundle_ability_100") .null
  unfold onAbilityConnectDoneWith at hrun
  rw [rangeFor_notifyEvent_eq_none rfl (List.cons_ne_nil _ _)] at hrun
  cases hrun

end StaticSubscriberConnection

end CommonEventService

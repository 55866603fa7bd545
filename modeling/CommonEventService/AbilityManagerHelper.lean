import CommonEventService.Lib.Machine
import CommonEventService.StaticSubscriberManager

/-!
# The connections to static subscribers

`AbilityManagerHelper` connects to the ability of a static subscriber at its
first event, keeps the connection in `subscriberConnection_`, and takes it
down again once nothing has been sent over it for a while. What it knows of a
connection being in use is `action_`, a list of the actions sent over it: a
delayed task removes one action, and disconnects where none is left.

An event waits in two more places, neither of which the list speaks of: in
`events_` until the ability is connected, and in the notify queue of the
connection. The first delayed task is armed at the connection, with the empty
action, and tests the list of a connection that may not have sent anything
yet. `Accounted` is what holds where every connection is made before that
test: an action is in the list for each event that waits to be sent or to be
forgotten, and the connections with a proxy are those of the map.

`abilityMachine` runs the helper's serial queue against the callbacks of the
ability manager and the notify queues, which take the lock of one connection
only and so may come between any two statements of `DisconnectAbility`.
-/

namespace CommonEventService

/-! ## One connection -/

/-- **`StaticSubscriberConnection`**, with its notify queue, and the events
it was asked to send and those it has sent, which no step reads. -/
structure StaticSubscriberConnection where
  connectionKey : String
  /-- Whether `proxy_` is set. -/
  proxy : Bool := false
  events : List CommonEventData := []
  action : List String := []
  staticNotifyQueue : List CommonEventData := []
  accepted : List CommonEventData := []
  delivered : List CommonEventData := []

namespace StaticSubscriberConnection

/-- The constructor: the event waits for the connection to be made. -/
def ofEvent (event : CommonEventData) (connectionKey : String) : StaticSubscriberConnection :=
  { connectionKey, events := [event], accepted := [event] }

/-- `NotifyEvent`. -/
def notifyEvent (conn : StaticSubscriberConnection) (event : CommonEventData) :
    StaticSubscriberConnection :=
  if conn.proxy then
    { conn with
      action := conn.action ++ [event.want.action]
      staticNotifyQueue := conn.staticNotifyQueue ++ [event] }
  else { conn with events := conn.events ++ [event] }

/-- `OnAbilityConnectDone`, with a remote object that is usable. -/
def onAbilityConnectDone (conn : StaticSubscriberConnection) : StaticSubscriberConnection :=
  { conn.events.foldl notifyEvent { conn with proxy := true } with events := [] }

/-- The task on the notify queue, which is dropped without a proxy. -/
def onReceiveEvent (conn : StaticSubscriberConnection) (event : CommonEventData)
    (queue : List CommonEventData) : StaticSubscriberConnection :=
  { conn with
    staticNotifyQueue := queue
    delivered := if conn.proxy then conn.delivered ++ [event] else conn.delivered }

/-- `RemoveEvent`. -/
def removeEvent (conn : StaticSubscriberConnection) (action : String) :
    StaticSubscriberConnection :=
  { conn with action := conn.action.erase action }

/-- `IsEmptyAction`. -/
def isEmptyAction (conn : StaticSubscriberConnection) : Bool := conn.action.isEmpty

/-- `Clear`. -/
def clear (conn : StaticSubscriberConnection) : StaticSubscriberConnection :=
  { conn with proxy := false }

/-- **What every connection keeps to itself**: each event it was asked to
send has been sent, is on the notify queue or waits for the connection, and
at most one of the last two places is in use. -/
structure WellFormed (conn : StaticSubscriberConnection) : Prop where
  accepted : conn.accepted = conn.delivered ++ conn.staticNotifyQueue ++ conn.events
  connected : conn.proxy = true → conn.events = []
  waiting : conn.proxy = false → conn.staticNotifyQueue = []
  /-- Events have an action. -/
  nonempty : ∀ event ∈ conn.accepted, event.want.action ≠ ""

variable {conn : StaticSubscriberConnection}

/-- Over a connection that is made, several events are sent as one is. -/
theorem foldl_notifyEvent (events : List CommonEventData) (hproxy : conn.proxy = true) :
    events.foldl notifyEvent conn
      = { conn with
          action := conn.action ++ events.map (fun event => event.want.action)
          staticNotifyQueue := conn.staticNotifyQueue ++ events } := by
  induction events generalizing conn with
  | nil => simp
  | cons event events ih =>
    have hnotify : (conn.notifyEvent event).proxy = true := by
      rw [notifyEvent, if_pos hproxy]
      exact hproxy
    rw [List.foldl_cons, ih hnotify, notifyEvent, if_pos hproxy]
    simp

theorem onAbilityConnectDone_eq (conn : StaticSubscriberConnection) :
    conn.onAbilityConnectDone
      = { conn with
          proxy := true
          action := conn.action ++ conn.events.map (fun event => event.want.action)
          staticNotifyQueue := conn.staticNotifyQueue ++ conn.events
          events := [] } := by
  unfold onAbilityConnectDone
  rw [foldl_notifyEvent _ rfl]

namespace WellFormed

theorem ofEvent {event : CommonEventData} {key : String} (hevent : event.want.action ≠ "") :
    (ofEvent event key).WellFormed :=
  ⟨rfl, nofun, fun _ => rfl, by simpa [StaticSubscriberConnection.ofEvent] using hevent⟩

theorem notifyEvent (h : conn.WellFormed) {event : CommonEventData}
    (hevent : event.want.action ≠ "") :
    WellFormed { conn.notifyEvent event with accepted := conn.accepted ++ [event] } := by
  have hnonempty : ∀ e ∈ conn.accepted ++ [event], e.want.action ≠ "" := by
    intro e he
    rcases List.mem_append.mp he with he | he
    · exact h.nonempty e he
    · rw [List.mem_singleton.mp he]
      exact hevent
  unfold StaticSubscriberConnection.notifyEvent
  by_cases hproxy : conn.proxy = true
  · rw [if_pos hproxy]
    refine ⟨?_, fun _ => h.connected hproxy, fun hfalse => ?_, hnonempty⟩
    · show conn.accepted ++ [event]
        = conn.delivered ++ (conn.staticNotifyQueue ++ [event]) ++ conn.events
      rw [h.accepted, h.connected hproxy]
      simp
    · rw [show conn.proxy = false from hfalse] at hproxy
      cases hproxy
  · rw [if_neg hproxy]
    refine ⟨?_, fun htrue => absurd htrue hproxy, h.waiting, hnonempty⟩
    show conn.accepted ++ [event]
      = conn.delivered ++ conn.staticNotifyQueue ++ (conn.events ++ [event])
    rw [h.accepted, List.append_assoc]

theorem onAbilityConnectDone (h : conn.WellFormed) : conn.onAbilityConnectDone.WellFormed := by
  rw [onAbilityConnectDone_eq]
  refine ⟨?_, fun _ => rfl, nofun, h.nonempty⟩
  show conn.accepted = conn.delivered ++ (conn.staticNotifyQueue ++ conn.events) ++ []
  rw [List.append_nil, ← List.append_assoc]
  exact h.accepted

/-- The task on the notify queue runs on connections that are made only. -/
theorem onReceiveEvent (h : conn.WellFormed) {event : CommonEventData}
    {queue : List CommonEventData} (hqueue : conn.staticNotifyQueue = event :: queue) :
    conn.proxy = true ∧ (conn.onReceiveEvent event queue).WellFormed := by
  have hproxy : conn.proxy = true := by
    cases hproxy : conn.proxy with
    | true => rfl
    | false =>
      rw [h.waiting hproxy] at hqueue
      cases hqueue
  refine ⟨hproxy, ?_, h.connected, fun hfalse => ?_, h.nonempty⟩
  · show conn.accepted
      = (if conn.proxy then conn.delivered ++ [event] else conn.delivered) ++ queue ++ conn.events
    rw [if_pos hproxy, h.accepted, hqueue]
    simp
  · rw [show conn.proxy = false from hfalse] at hproxy
    cases hproxy

theorem removeEvent (h : conn.WellFormed) (action : String) :
    (conn.removeEvent action).WellFormed :=
  ⟨h.accepted, h.connected, h.waiting, h.nonempty⟩

theorem clear (h : conn.WellFormed) (hqueue : conn.staticNotifyQueue = []) :
    conn.clear.WellFormed :=
  ⟨h.accepted, nofun, fun _ => hqueue, h.nonempty⟩

end WellFormed

end StaticSubscriberConnection

/-! ## The helper -/

/-- A delayed call of `DisconnectAbility`, armed for an event that was sent,
or at the connection. -/
structure DisconnectTask where
  connection : ℕ
  event : Option CommonEventData

/-- The action the task is given. -/
def DisconnectTask.action (task : DisconnectTask) : String :=
  match task.event with
  | none => ""
  | some event => event.want.action

/-- Where the serial queue of the helper is: between two tasks, or in a
`DisconnectAbility` that has found its connection under a key. -/
inductive HelperThread where
  | idle
  /-- Before `IsEmptyAction`. -/
  | isEmptyAction (connection : ℕ) (key : String)
  /-- Before `Clear` and the removal. -/
  | clear (connection : ℕ) (key : String)
  deriving DecidableEq

/-- **`AbilityManagerHelper`**, with the connections it has made. -/
structure AbilityManagerHelper where
  connections : ℕ → StaticSubscriberConnection := fun _ => ⟨"", false, [], [], [], [], []⟩
  nextConnection : ℕ := 0
  subscriberConnection : Dict String ℕ := ∅
  delayed : List DisconnectTask := []
  thread : HelperThread := .idle

/-- `connectionKey`. -/
def StaticConnection.connectionKey (call : StaticConnection) : String :=
  call.bundleName ++ "_" ++ call.abilityName ++ "_" ++ toString call.userId

namespace AbilityManagerHelper

variable (s : AbilityManagerHelper)

/-- `DisconnectServiceAbilityDelay`. -/
def disconnectServiceAbilityDelay (connection : ℕ) (event : Option CommonEventData) :
    AbilityManagerHelper :=
  { s with delayed := s.delayed ++ [⟨connection, event⟩] }

/-- **`ConnectAbility`**, where `hasAbilityMgr` says whether the ability
manager is there, and `connected` what it answers. -/
def connectAbility (call : StaticConnection) (hasAbilityMgr connected : Bool) :
    AbilityManagerHelper :=
  if !hasAbilityMgr then s
  else
    match s.subscriberConnection.lookup call.connectionKey with
    | some connection =>
      let conn := s.connections connection
      { s with
        connections := Function.update s.connections connection
          { conn.notifyEvent call.data with accepted := conn.accepted ++ [call.data] } }
    | none =>
      if !connected then s
      else
        { s with
          connections := Function.update s.connections s.nextConnection
            (.ofEvent call.data call.connectionKey)
          nextConnection := s.nextConnection + 1
          subscriberConnection := s.subscriberConnection.insert call.connectionKey
            s.nextConnection }.disconnectServiceAbilityDelay s.nextConnection none

/-- The key `std::find_if` finds a connection under. -/
def findConnection (connection : ℕ) : Option String :=
  ((Dict.toList s.subscriberConnection).find? (fun pair => pair.2 = connection)).map Prod.fst

/-- `DisconnectAbility`, up to `RemoveEvent`. -/
def disconnectAbility (task : DisconnectTask) : AbilityManagerHelper :=
  match s.findConnection task.connection with
  | none => s
  | some key =>
    { s with
      connections := Function.update s.connections task.connection
        ((s.connections task.connection).removeEvent task.action)
      thread := .isEmptyAction task.connection key }

/-- `DisconnectAbility`, from `RemoveEvent` on. -/
def stepThread : Option AbilityManagerHelper :=
  match s.thread with
  | .idle => none
  | .isEmptyAction connection key =>
    some { s with
      thread := if (s.connections connection).isEmptyAction then .clear connection key else .idle }
  | .clear connection key =>
    some { s with
      connections := Function.update s.connections connection (s.connections connection).clear
      subscriberConnection := s.subscriberConnection.erase key
      thread := .idle }

end AbilityManagerHelper

/-! ## The machine -/

/-- What moves. -/
inductive HelperLabel where
  | connectAbility (call : StaticConnection) (hasAbilityMgr connected : Bool)
  | connectDone (connection : ℕ)
  /-- The first task on the notify queue of a connection. -/
  | notify (connection : ℕ)
  /-- The start of a delayed task. -/
  | disconnectAbility (i : ℕ)
  /-- The next statement of the serial queue. -/
  | thread

/-- **A step around the helper.** Its serial queue runs one task at a time. -/
def AbilityManagerHelper.step (s : AbilityManagerHelper) :
    HelperLabel → Option AbilityManagerHelper
  | .connectAbility call hasAbilityMgr connected =>
    if s.thread = .idle then some (s.connectAbility call hasAbilityMgr connected) else none
  | .connectDone connection =>
    if connection < s.nextConnection then
      some { s with
        connections := Function.update s.connections connection
          (s.connections connection).onAbilityConnectDone }
    else none
  | .notify connection =>
    let conn := s.connections connection
    match conn.staticNotifyQueue with
    | [] => none
    | event :: queue =>
      let s' := { s with
        connections := Function.update s.connections connection
          (conn.onReceiveEvent event queue) }
      some (if conn.proxy then s'.disconnectServiceAbilityDelay connection (some event) else s')
  | .disconnectAbility i =>
    match s.delayed[i]? with
    | none => none
    | some task =>
      if s.thread = .idle then
        some ({ s with delayed := s.delayed.eraseIdx i }.disconnectAbility task)
      else none
  | .thread => s.stepThread

/-- **The helper at work.** -/
def abilityMachine : Machine AbilityManagerHelper HelperLabel where
  init := {}
  step := AbilityManagerHelper.step

end CommonEventService

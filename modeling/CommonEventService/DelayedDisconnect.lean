import Mathlib.Data.List.Perm.Basic
import CommonEventService.AbilityManagerHelper

/-!
# The delayed disconnect

When does `DisconnectAbility` take down no connection that has something left
to send? `Ledger` balances what a connection in the map has in `action_`
against the events it has on its notify queue and the tasks delayed for
events it has sent. The balance says nothing about the events that wait for
the connection to be made, so it decides for `DisconnectAbility` only where
the test of `action_` comes after `OnAbilityConnectDone`: `ConnectedInTime`.
-/

namespace CommonEventService

namespace AbilityManagerHelper

variable {s t : AbilityManagerHelper}

/-! ## Which connections are in the map -/

/-- A connection is in the map. -/
def Held (s : AbilityManagerHelper) (c : ℕ) : Prop := s.findConnection c ≠ none

instance (s : AbilityManagerHelper) (c : ℕ) : Decidable (s.Held c) :=
  inferInstanceAs (Decidable (_ ≠ _))

/-- A connection events can be sent over, or will be. -/
def Live (s : AbilityManagerHelper) (c : ℕ) : Prop :=
  s.Held c ∨ (s.connections c).proxy = true

theorem lookup_of_findConnection {c : ℕ} {key : String} (h : s.findConnection c = some key) :
    s.subscriberConnection.lookup key = some c := by
  obtain ⟨⟨key', c'⟩, hfind, rfl⟩ := Option.map_eq_some_iff.mp h
  have hfound := List.find?_some hfind
  have hc : c' = c := of_decide_eq_true hfound
  rw [← hc]
  exact ((Dict.isListing_toList s.subscriberConnection).mem key' c').mp
    (List.mem_of_find?_eq_some hfind)

theorem held_iff (c : ℕ) :
    s.Held c ↔ ∃ key, s.subscriberConnection.lookup key = some c := by
  constructor
  · intro h
    obtain ⟨key, hkey⟩ := Option.ne_none_iff_exists'.mp h
    exact ⟨key, lookup_of_findConnection hkey⟩
  · rintro ⟨key, hkey⟩ hnone
    have hmem := ((Dict.isListing_toList s.subscriberConnection).mem key c).mpr hkey
    exact List.find?_eq_none.mp (Option.map_eq_none_iff.mp hnone) _ hmem (decide_eq_true rfl)

theorem held_congr (h : t.subscriberConnection = s.subscriberConnection) (c : ℕ) :
    t.Held c ↔ s.Held c := by
  rw [held_iff, held_iff, h]

/-- Under a key that was not there, the map gains one connection. -/
theorem held_insert {key : String} {c₀ : ℕ}
    (hmap : t.subscriberConnection = s.subscriberConnection.insert key c₀)
    (hnone : s.subscriberConnection.lookup key = none) (c : ℕ) :
    t.Held c ↔ c = c₀ ∨ s.Held c := by
  rw [held_iff, held_iff]
  constructor
  · rintro ⟨key', hkey'⟩
    rw [hmap, Dict.lookup_insert_ite] at hkey'
    split at hkey'
    · exact Or.inl (Option.some.inj hkey').symm
    · exact Or.inr ⟨key', hkey'⟩
  · rintro (rfl | ⟨key', hkey'⟩)
    · exact ⟨key, by rw [hmap, AList.lookup_insert]⟩
    · refine ⟨key', ?_⟩
      rw [hmap, Dict.lookup_insert_ite, if_neg, hkey']
      rintro rfl
      rw [hnone] at hkey'
      cases hkey'

/-- Without a key the map loses its connection, and no other. -/
theorem held_erase {key : String} {c : ℕ}
    (hmap : t.subscriberConnection = s.subscriberConnection.erase key)
    (hlookup : s.subscriberConnection.lookup key = some c) {c' : ℕ} (hc' : c' ≠ c) :
    t.Held c' ↔ s.Held c' := by
  rw [held_iff, held_iff]
  constructor
  · rintro ⟨key', hkey'⟩
    rw [hmap, Dict.lookup_erase_ite] at hkey'
    split at hkey'
    · cases hkey'
    · exact ⟨key', hkey'⟩
  · rintro ⟨key', hkey'⟩
    refine ⟨key', ?_⟩
    rw [hmap, Dict.lookup_erase_ite, if_neg, hkey']
    rintro rfl
    rw [hlookup] at hkey'
    exact hc' (Option.some.inj hkey').symm

/-! ## The ledger -/

/-- The actions of the events of a connection for which a task is delayed. -/
def pending (s : AbilityManagerHelper) (c : ℕ) : List String :=
  s.delayed.filterMap (fun task =>
    if task.connection = c then task.event.map (fun event => event.want.action) else none)

theorem mem_pending {task : DisconnectTask} {event : CommonEventData} (htask : task ∈ s.delayed)
    (hevent : task.event = some event) : event.want.action ∈ s.pending task.connection :=
  List.mem_filterMap.mpr ⟨task, htask, by rw [if_pos rfl, hevent]; rfl⟩

theorem pending_disconnectServiceAbilityDelay (c : ℕ) (event : Option CommonEventData) (c' : ℕ) :
    (s.disconnectServiceAbilityDelay c event).pending c'
      = s.pending c'
        ++ if c = c' then (event.map (fun event => event.want.action)).toList else [] := by
  unfold pending disconnectServiceAbilityDelay
  rw [List.filterMap_append]
  congr 1
  by_cases hc : c = c'
  · cases event <;> simp [hc]
  · simp [hc]

/-- What is pending is what is pending for a task, and the rest. -/
theorem pending_eraseIdx {i : ℕ} {task : DisconnectTask} (htask : s.delayed[i]? = some task)
    (c : ℕ) :
    (s.pending c).Perm
      ((if task.connection = c then (task.event.map (fun event => event.want.action)).toList
          else [])
        ++ pending { s with delayed := s.delayed.eraseIdx i } c) := by
  obtain ⟨hi, rfl⟩ := List.getElem?_eq_some_iff.mp htask
  have hperm := (List.getElem_cons_eraseIdx_perm hi).symm.filterMap (fun task =>
    if task.connection = c then task.event.map (fun event => event.want.action) else none)
  unfold pending
  refine hperm.trans (List.Perm.of_eq ?_)
  by_cases hc : s.delayed[i].connection = c
  · cases hevent : s.delayed[i].event <;> simp [hc, hevent]
  · simp [hc]

/-- **The ledger.** For a connection in the map an action is in `action_` for
each event that is on the notify queue or that a delayed task will remove. -/
structure Ledger (s : AbilityManagerHelper) : Prop where
  wellFormed : ∀ c, (s.connections c).WellFormed
  mapped : ∀ key c, s.subscriberConnection.lookup key = some c →
    c < s.nextConnection ∧ (s.connections c).connectionKey = key
  held : ∀ c, (s.connections c).proxy = true → s.Held c
  action : ∀ c, s.Held c → (s.connections c).action.Perm
    ((s.connections c).staticNotifyQueue.map (fun event => event.want.action) ++ s.pending c)
  gone : ∀ c, ¬ s.Held c → s.pending c = []
  nonempty : ∀ task ∈ s.delayed, ∀ event, task.event = some event → event.want.action ≠ ""

/-- What `DisconnectAbility` has found out. -/
def Found (s : AbilityManagerHelper) : Prop :=
  match s.thread with
  | .idle => True
  | .isEmptyAction c key => s.subscriberConnection.lookup key = some c
  | .clear c key =>
    s.subscriberConnection.lookup key = some c
      ∧ (s.connections c).action = [] ∧ (s.connections c).proxy = true

namespace Ledger

theorem init : abilityMachine.init.Ledger where
  wellFormed _ := ⟨rfl, nofun, fun _ => rfl, nofun⟩
  mapped _ _ h := nomatch h
  held _ h := nomatch h
  action c h := by
    obtain ⟨key, hkey⟩ := (held_iff c).mp h
    cases hkey
  gone _ _ := rfl
  nonempty _ h := nomatch h

/-- Of the connections that are alive, one has a given key. -/
theorem live_unique (h : s.Ledger) {c c' : ℕ} (hc : s.Live c) (hc' : s.Live c')
    (hkey : (s.connections c).connectionKey = (s.connections c').connectionKey) : c = c' := by
  have hlookup : ∀ {c : ℕ}, s.Live c →
      s.subscriberConnection.lookup (s.connections c).connectionKey = some c := by
    intro c hc
    obtain ⟨key, hmapped⟩ := (held_iff c).mp (hc.elim id (h.held c))
    rw [(h.mapped key c hmapped).2]
    exact hmapped
  have heq := hlookup hc
  rw [hkey, hlookup hc'] at heq
  exact (Option.some.inj heq).symm

/-- The task delayed for an event finds the connection in the map. -/
theorem held_of_mem (h : s.Ledger) {task : DisconnectTask} {event : CommonEventData}
    (htask : task ∈ s.delayed) (hevent : task.event = some event) : s.Held task.connection := by
  by_contra hnot
  have hmem := mem_pending htask hevent
  rw [h.gone _ hnot] at hmem
  cases hmem

/-- **A connection that is made and has no action left has sent
everything.** -/
theorem delivered (h : s.Ledger) {c : ℕ} (hproxy : (s.connections c).proxy = true)
    (haction : (s.connections c).action = []) :
    (s.connections c).events = [] ∧ (s.connections c).staticNotifyQueue = []
      ∧ (s.connections c).delivered = (s.connections c).accepted ∧ s.pending c = [] := by
  have hperm := h.action c (h.held c hproxy)
  rw [haction] at hperm
  obtain ⟨hqueue, hpending⟩ := List.append_eq_nil_iff.mp hperm.nil_eq.symm
  have hevents := (h.wellFormed c).connected hproxy
  have hqueue := List.map_eq_nil_iff.mp hqueue
  refine ⟨hevents, hqueue, ?_, hpending⟩
  have haccepted := (h.wellFormed c).accepted
  rw [hqueue, hevents, List.append_nil, List.append_nil] at haccepted
  exact haccepted.symm

/-- **The frame rule**: one connection of the map changes, and its tasks. -/
theorem modify (h : s.Ledger) {c : ℕ} {conn : StaticSubscriberConnection}
    (hmap : t.subscriberConnection = s.subscriberConnection)
    (hnext : t.nextConnection = s.nextConnection)
    (hconn : t.connections = Function.update s.connections c conn)
    (hkey : conn.connectionKey = (s.connections c).connectionKey) (hwf : conn.WellFormed)
    (hheld : s.Held c)
    (haction : conn.action.Perm
      (conn.staticNotifyQueue.map (fun event => event.want.action) ++ t.pending c))
    (hpending : ∀ c', c' ≠ c → (s.pending c').Perm (t.pending c'))
    (hnonempty : ∀ task ∈ t.delayed, ∀ event, task.event = some event →
      event.want.action ≠ "") : t.Ledger := by
  have hother : ∀ {c'}, c' ≠ c → t.connections c' = s.connections c' := by
    intro c' hc'
    rw [hconn, Function.update_of_ne hc']
  have hself : t.connections c = conn := by rw [hconn, Function.update_self]
  refine ⟨?_, ?_, ?_, ?_, ?_, hnonempty⟩
  · intro c'
    by_cases hc' : c' = c
    · rw [hc', hself]
      exact hwf
    · rw [hother hc']
      exact h.wellFormed c'
  · intro key c' hlookup
    rw [hmap] at hlookup
    rw [hnext]
    refine ⟨(h.mapped key c' hlookup).1, ?_⟩
    by_cases hc' : c' = c
    · rw [hc', hself, hkey, ← hc']
      exact (h.mapped key c' hlookup).2
    · rw [hother hc']
      exact (h.mapped key c' hlookup).2
  · intro c' hproxy
    rw [held_congr hmap]
    by_cases hc' : c' = c
    · rw [hc']
      exact hheld
    · rw [hother hc'] at hproxy
      exact h.held c' hproxy
  · intro c' hheld'
    by_cases hc' : c' = c
    · rw [hc', hself]
      exact haction
    · rw [hother hc']
      exact (h.action c' ((held_congr hmap c').mp hheld')).trans
        ((hpending c' hc').append_left _)
  · -- a connection outside the map is another one
    intro c' hnot
    rw [held_congr hmap] at hnot
    have hgone := hpending c' (fun hc' => hnot (by rw [hc']; exact hheld))
    rw [h.gone c' hnot] at hgone
    exact hgone.nil_eq.symm

/-! ## What each operation does to the ledger -/

/-- **A new connection**, over which nothing has been sent. -/
theorem newConnection (h : s.Ledger) {key : String} {conn : StaticSubscriberConnection}
    (hnone : s.subscriberConnection.lookup key = none)
    (hmap : t.subscriberConnection = s.subscriberConnection.insert key s.nextConnection)
    (hnext : t.nextConnection = s.nextConnection + 1)
    (hconn : t.connections = Function.update s.connections s.nextConnection conn)
    (hkey : conn.connectionKey = key) (hwf : conn.WellFormed) (hproxy : conn.proxy = false)
    (haction : conn.action = []) (hpending : ∀ c, t.pending c = s.pending c)
    (hnonempty : ∀ task ∈ t.delayed, ∀ event, task.event = some event →
      event.want.action ≠ "") : t.Ledger := by
  -- the connections of the map were made before
  have hfresh : ¬ s.Held s.nextConnection := by
    rw [held_iff]
    rintro ⟨key, hkey⟩
    exact absurd (h.mapped key _ hkey).1 (lt_irrefl _)
  have hheld := held_insert hmap hnone
  have hother : ∀ {c}, c ≠ s.nextConnection → t.connections c = s.connections c := by
    intro c hc
    rw [hconn, Function.update_of_ne hc]
  have hself : t.connections s.nextConnection = conn := by rw [hconn, Function.update_self]
  refine ⟨?_, ?_, ?_, ?_, ?_, hnonempty⟩
  · intro c
    by_cases hc : c = s.nextConnection
    · rw [hc, hself]
      exact hwf
    · rw [hother hc]
      exact h.wellFormed c
  · intro key' c hkey'
    rw [hnext]
    rw [hmap, Dict.lookup_insert_ite] at hkey'
    split at hkey'
    next heq =>
      cases hkey'
      rw [hself, hkey, heq]
      exact ⟨Nat.lt_succ_self _, rfl⟩
    next =>
      have hold := h.mapped key' c hkey'
      rw [hother hold.1.ne]
      exact ⟨Nat.lt_succ_of_lt hold.1, hold.2⟩
  · intro c hlive
    rw [hheld]
    by_cases hc : c = s.nextConnection
    · exact Or.inl hc
    · rw [hother hc] at hlive
      exact Or.inr (h.held c hlive)
  · intro c hc
    rw [hpending]
    rcases (hheld c).mp hc with rfl | hc
    · have hqueue := hwf.waiting hproxy
      rw [hself, haction, hqueue, h.gone _ hfresh]
      exact .nil
    · rw [hother (fun heq => hfresh (heq ▸ hc))]
      exact h.action c hc
  · intro c hc
    rw [hpending]
    exact h.gone c (fun hold => hc ((hheld c).mpr (Or.inr hold)))

/-- A connection leaves the map once it has sent everything. -/
theorem erase (h : s.Ledger) {c : ℕ} {key : String}
    (hlookup : s.subscriberConnection.lookup key = some c)
    (haction : (s.connections c).action = []) (hproxy : (s.connections c).proxy = true)
    (hmap : t.subscriberConnection = s.subscriberConnection.erase key)
    (hnext : t.nextConnection = s.nextConnection)
    (hconn : t.connections = Function.update s.connections c (s.connections c).clear)
    (hdelayed : t.delayed = s.delayed) : t.Ledger := by
  -- nothing is queued for it, nothing is delayed for it
  obtain ⟨-, hqueue, -, hnone⟩ := h.delivered hproxy haction
  have hpending : ∀ c, t.pending c = s.pending c := by
    intro c
    unfold pending
    rw [hdelayed]
  have hheld : ∀ c', c' ≠ c → (t.Held c' ↔ s.Held c') := fun c' hc' =>
    held_erase hmap hlookup hc'
  have hother : ∀ {c'}, c' ≠ c → t.connections c' = s.connections c' := by
    intro c' hc'
    rw [hconn, Function.update_of_ne hc']
  have hself : t.connections c = (s.connections c).clear := by
    rw [hconn, Function.update_self]
  refine ⟨?_, ?_, ?_, ?_, ?_, ?_⟩
  · intro c'
    by_cases hc' : c' = c
    · rw [hc', hself]
      exact (h.wellFormed c).clear hqueue
    · rw [hother hc']
      exact h.wellFormed c'
  · intro key' c' hkey'
    rw [hmap, Dict.lookup_erase_ite] at hkey'
    split at hkey'
    · cases hkey'
    next hne =>
      have hold := h.mapped key' c' hkey'
      refine ⟨hnext ▸ hold.1, ?_⟩
      rw [hother, hold.2]
      rintro rfl
      exact hne (hold.2.symm.trans (h.mapped key c' hlookup).2)
  · intro c' hlive
    by_cases hc' : c' = c
    · rw [hc', hself] at hlive
      cases hlive
    · rw [hother hc'] at hlive
      exact (hheld c' hc').mpr (h.held c' hlive)
  · intro c' hc
    rw [hpending]
    by_cases hc' : c' = c
    · rw [hc', hself, hnone]
      show (s.connections c).action.Perm
        ((s.connections c).staticNotifyQueue.map (fun event => event.want.action) ++ [])
      rw [haction, hqueue]
      exact .nil
    · rw [hother hc']
      exact h.action c' ((hheld c' hc').mp hc)
  · intro c' hc
    rw [hpending]
    by_cases hc' : c' = c
    · rw [hc']
      exact hnone
    · exact h.gone c' (fun hold => hc ((hheld c' hc').mpr hold))
  · rw [hdelayed]
    exact h.nonempty

/-- **`ConnectAbility` keeps the ledger.** -/
theorem connectAbility (h : s.Ledger) {call : StaticConnection} (hasAbilityMgr connected : Bool)
    (haction : call.data.want.action ≠ "") :
    (s.connectAbility call hasAbilityMgr connected).Ledger := by
  unfold AbilityManagerHelper.connectAbility
  split
  · exact h
  split
  next c hlookup =>
    have hheld : s.Held c := (held_iff c).mpr ⟨_, hlookup⟩
    have hnotify : ((s.connections c).notifyEvent call.data).connectionKey
          = (s.connections c).connectionKey
        ∧ ((s.connections c).notifyEvent call.data).action.Perm
          (((s.connections c).notifyEvent call.data).staticNotifyQueue.map
            (fun event => event.want.action) ++ s.pending c) := by
      unfold StaticSubscriberConnection.notifyEvent
      split
      · refine ⟨rfl, ?_⟩
        dsimp only
        rw [List.map_append, List.append_assoc]
        refine ((h.action c hheld).append_right _).trans ?_
        rw [List.append_assoc]
        exact List.perm_append_comm.append_left _
      · exact ⟨rfl, h.action c hheld⟩
    exact h.modify rfl rfl rfl hnotify.1 ((h.wellFormed c).notifyEvent haction) hheld
      hnotify.2 (fun _ _ => .refl _) h.nonempty
  next hnone =>
    split
    · exact h
    refine h.newConnection hnone rfl rfl rfl rfl (.ofEvent haction) rfl rfl ?_ ?_
    · intro c
      rw [pending_disconnectServiceAbilityDelay]
      split <;> exact List.append_nil _
    · intro task htask event hevent
      rcases List.mem_append.mp htask with htask | htask
      · exact h.nonempty task htask event hevent
      · rw [List.mem_singleton.mp htask] at hevent
        cases hevent

/-- **`OnAbilityConnectDone` keeps the ledger** of a connection in the map:
what it sends and what it enters in `action_` is the same. -/
theorem connectDone (h : s.Ledger) {c : ℕ} (hheld : s.Held c) :
    Ledger { s with
      connections := Function.update s.connections c
        (s.connections c).onAbilityConnectDone } := by
  refine h.modify rfl rfl rfl ?_ (h.wellFormed c).onAbilityConnectDone hheld ?_
    (fun _ _ => .refl _) h.nonempty
  · rw [StaticSubscriberConnection.onAbilityConnectDone_eq]
  · rw [StaticSubscriberConnection.onAbilityConnectDone_eq]
    dsimp only
    rw [List.map_append, List.append_assoc]
    refine ((h.action c hheld).append_right _).trans ?_
    rw [List.append_assoc]
    exact List.perm_append_comm.append_left _

/-- **`OnReceiveEvent` keeps the ledger**: the event leaves the notify queue
as its task is delayed. -/
theorem notify (h : s.Ledger) {c : ℕ} {event : CommonEventData} {queue : List CommonEventData}
    (hqueue : (s.connections c).staticNotifyQueue = event :: queue) :
    (s.connections c).proxy = true ∧
      (disconnectServiceAbilityDelay { s with
        connections := Function.update s.connections c
          ((s.connections c).onReceiveEvent event queue) } c (some event)).Ledger := by
  obtain ⟨hproxy, hwf⟩ := (h.wellFormed c).onReceiveEvent hqueue
  have hheld := h.held c hproxy
  have hpending := pending_disconnectServiceAbilityDelay
    (s := { s with
      connections := Function.update s.connections c
        ((s.connections c).onReceiveEvent event queue) }) c (some event)
  have hevent : event.want.action ≠ "" := by
    refine (h.wellFormed c).nonempty event ?_
    rw [(h.wellFormed c).accepted, hqueue]
    simp
  refine ⟨hproxy, h.modify rfl rfl rfl rfl hwf hheld ?_ ?_ ?_⟩
  · rw [hpending, if_pos rfl]
    refine (h.action c hheld).trans ?_
    rw [hqueue, List.map_cons, ← List.append_assoc]
    exact (List.perm_append_singleton _ _).symm
  · intro c' hc'
    rw [hpending, if_neg (Ne.symm hc')]
    exact .of_eq (List.append_nil _).symm
  · intro task htask event' hevent'
    rcases List.mem_append.mp htask with htask | htask
    · exact h.nonempty task htask event' hevent'
    · rw [List.mem_singleton.mp htask] at hevent'
      cases hevent'
      exact hevent

/-- The start of a delayed task removes from `action_` what was pending for
it. -/
theorem disconnectAbility (h : s.Ledger) (hidle : s.thread = .idle) {i : ℕ}
    {task : DisconnectTask} (htask : s.delayed[i]? = some task) :
    ({ s with delayed := s.delayed.eraseIdx i }.disconnectAbility task).Ledger
      ∧ ({ s with delayed := s.delayed.eraseIdx i }.disconnectAbility task).Found := by
  have hmem : task ∈ s.delayed := List.mem_of_getElem? htask
  have hnonempty : ∀ task ∈ s.delayed.eraseIdx i, ∀ event, task.event = some event →
      event.want.action ≠ "" :=
    fun task htask => h.nonempty task (List.mem_of_mem_eraseIdx htask)
  have hpending := pending_eraseIdx htask
  unfold AbilityManagerHelper.disconnectAbility
  cases hfind : findConnection { s with delayed := s.delayed.eraseIdx i } task.connection with
  | none =>
    -- the connection is gone, and so the task was armed for no event
    have hnone : task.event = none := by
      cases hevent : task.event with
      | none => rfl
      | some event => exact absurd hfind (h.held_of_mem hmem hevent)
    have hsame : ∀ c, (s.pending c).Perm
        (AbilityManagerHelper.pending { s with delayed := s.delayed.eraseIdx i } c) := by
      intro c
      have hc := hpending c
      rw [hnone] at hc
      simpa using hc
    refine ⟨⟨h.wellFormed, h.mapped, h.held, ?_, ?_, hnonempty⟩, ?_⟩
    · exact fun c hc => (h.action c hc).trans ((hsame c).append_left _)
    · intro c hc
      have hgone := hsame c
      rw [h.gone c hc] at hgone
      exact hgone.nil_eq.symm
    · unfold Found
      dsimp only
      rw [hidle]
      trivial
  | some key =>
    have hlookup := lookup_of_findConnection hfind
    have hheld : s.Held task.connection := (held_iff _).mpr ⟨key, hlookup⟩
    refine ⟨h.modify rfl rfl rfl rfl ((h.wellFormed _).removeEvent _) hheld ?_ ?_ hnonempty,
      hlookup⟩
    · show ((s.connections task.connection).action.erase task.action).Perm
        ((s.connections task.connection).staticNotifyQueue.map (fun event => event.want.action)
          ++ AbilityManagerHelper.pending { s with delayed := s.delayed.eraseIdx i }
            task.connection)
      have haction := h.action _ hheld
      have hc := hpending task.connection
      rw [if_pos rfl] at hc
      unfold DisconnectTask.action
      cases hevent : task.event with
      | none =>
        -- armed at the connection: the empty action is the action of no event
        rw [hevent] at hc
        have hnot : "" ∉ (s.connections task.connection).action := by
          intro hin
          rcases List.mem_append.mp (haction.mem_iff.mp hin) with hin | hin
          · obtain ⟨event, hqueue, hempty⟩ := List.mem_map.mp hin
            refine (h.wellFormed task.connection).nonempty event ?_ hempty
            rw [(h.wellFormed task.connection).accepted]
            exact List.mem_append_left _ (List.mem_append_right _ hqueue)
          · obtain ⟨task', htask', hempty⟩ := List.mem_filterMap.mp hin
            split at hempty
            · obtain ⟨event, hevent', hempty⟩ := Option.map_eq_some_iff.mp hempty
              exact h.nonempty task' htask' event hevent' hempty
            · cases hempty
        rw [List.erase_of_not_mem hnot]
        exact haction.trans (hc.append_left _)
      | some event =>
        rw [hevent] at hc
        dsimp only
        have hall := haction.trans ((hc.append_left _).trans List.perm_middle)
        refine (hall.erase event.want.action).trans (List.Perm.of_eq ?_)
        exact List.erase_cons_head _ _
    · intro c hc
      have hperm := hpending c
      rw [if_neg (Ne.symm hc), List.nil_append] at hperm
      exact hperm

end Ledger

/-! ## The steps -/

/-- **The condition on a step**: events have an action, and a connection is
made before `DisconnectAbility` finds that it has none left, and not after
it was taken down. -/
def ConnectedInTime (s : AbilityManagerHelper) : HelperLabel → Prop
  | .connectAbility call _ _ => call.data.want.action ≠ ""
  | .connectDone c => s.Held c
  | .notify _ => True
  | .disconnectAbility _ => True
  | .thread =>
    match s.thread with
    | .isEmptyAction c _ => (s.connections c).action = [] → (s.connections c).proxy = true
    | _ => True

instance (s : AbilityManagerHelper) : ∀ l, Decidable (s.ConnectedInTime l)
  | .connectAbility _ _ _ => inferInstanceAs (Decidable (_ ≠ _))
  | .connectDone c => inferInstanceAs (Decidable (s.Held c))
  | .notify _ => .isTrue trivial
  | .disconnectAbility _ => .isTrue trivial
  | .thread =>
    match h : s.thread with
    | .isEmptyAction c _ =>
      decidable_of_iff ((s.connections c).action = [] → (s.connections c).proxy = true)
        (by simp [ConnectedInTime, h])
    | .idle => .isTrue (by simp [ConnectedInTime, h])
    | .clear _ _ => .isTrue (by simp [ConnectedInTime, h])

/-- **What a step of the helper owes its connections.** -/
structure StepSound (s : AbilityManagerHelper) (l : HelperLabel) (t : AbilityManagerHelper) :
    Prop where
  /-- A connection that leaves the map has nothing left to send, and has sent
  whatever it was asked to. -/
  erased : ∀ c, s.Held c → ¬ t.Held c →
    (s.connections c).events = [] ∧ (s.connections c).delivered = (s.connections c).accepted
  /-- The task delayed for an event that was sent finds the connection. -/
  kept : ∀ i task event, l = .disconnectAbility i → s.delayed[i]? = some task →
    task.event = some event → s.Held task.connection
  unique : ∀ c c', t.Live c → t.Live c' →
    (t.connections c).connectionKey = (t.connections c').connectionKey → c = c'

/-- What `DisconnectAbility` has found out stays true of a connection that is
told of its own events only. -/
theorem Found.update (h : s.Found) {c : ℕ} {conn : StaticSubscriberConnection}
    (hmap : t.subscriberConnection = s.subscriberConnection) (hthread : t.thread = s.thread)
    (hconn : t.connections = Function.update s.connections c conn)
    (hkeep : (s.connections c).action = [] → (s.connections c).proxy = true →
      conn.action = [] ∧ conn.proxy = true) : t.Found := by
  unfold Found at h ⊢
  rw [hthread, hmap]
  cases hth : s.thread with
  | idle => trivial
  | isEmptyAction c' key =>
    rw [hth] at h
    exact h
  | clear c' key =>
    rw [hth] at h
    refine ⟨h.1, ?_⟩
    rw [hconn]
    by_cases hc : c' = c
    · rw [hc, Function.update_self]
      rw [hc] at h
      exact hkeep h.2.1 h.2.2
    · rw [Function.update_of_ne hc]
      exact h.2

/-- `ConnectAbility` leaves the connections in the map there. -/
theorem held_connectAbility {call : StaticConnection} {hasAbilityMgr connected : Bool} {c : ℕ}
    (hheld : s.Held c) : (s.connectAbility call hasAbilityMgr connected).Held c := by
  unfold connectAbility
  split
  · exact hheld
  split
  · exact (held_congr rfl c).mpr hheld
  next hnone =>
    split
    · exact hheld
    obtain ⟨key, hkey⟩ := (held_iff c).mp hheld
    refine (held_iff c).mpr ⟨key, ?_⟩
    show (s.subscriberConnection.insert call.connectionKey s.nextConnection).lookup key = some c
    rw [Dict.lookup_insert_ite, if_neg, hkey]
    rintro rfl
    rw [hnone] at hkey
    cases hkey

theorem connectAbility_thread (call : StaticConnection) (hasAbilityMgr connected : Bool) :
    (s.connectAbility call hasAbilityMgr connected).thread = s.thread := by
  unfold connectAbility
  split
  · rfl
  split
  · rfl
  split <;> rfl

/-- **A statement of `DisconnectAbility` keeps the ledger**, and takes down a
connection that has sent everything. -/
theorem stepThread_sound (h : s.Ledger) (hfound : s.Found) (hok : s.ConnectedInTime .thread)
    (hstep : s.stepThread = some t) :
    (t.Ledger ∧ t.Found) ∧ ∀ c, s.Held c → ¬ t.Held c →
      (s.connections c).events = []
        ∧ (s.connections c).delivered = (s.connections c).accepted := by
  unfold Found at hfound
  unfold ConnectedInTime at hok
  unfold stepThread at hstep
  cases hth : s.thread with
  | idle =>
    rw [hth] at hstep
    cases hstep
  | isEmptyAction c key =>
    rw [hth] at hstep hfound hok
    cases hstep
    refine ⟨⟨⟨h.wellFormed, h.mapped, h.held, h.action, h.gone, h.nonempty⟩, ?_⟩,
      fun c hheld hnot => absurd hheld hnot⟩
    unfold Found
    by_cases hempty : (s.connections c).isEmptyAction = true
    · rw [if_pos hempty]
      have hnil := List.isEmpty_iff.mp hempty
      exact ⟨hfound, hnil, hok hnil⟩
    · rw [if_neg hempty]
      trivial
  | clear c key =>
    rw [hth] at hstep hfound
    cases hstep
    obtain ⟨hlookup, haction, hproxy⟩ := hfound
    refine ⟨⟨h.erase hlookup haction hproxy rfl rfl rfl rfl, trivial⟩, ?_⟩
    intro c' hheld hnot
    -- the one connection that leaves the map is the one cleared
    have hc : c' = c := by
      by_contra hc
      obtain ⟨key', hkey'⟩ := (held_iff c').mp hheld
      refine hnot ((held_iff c').mpr ⟨key', ?_⟩)
      show (s.subscriberConnection.erase key).lookup key' = some c'
      rw [Dict.lookup_erase_ite, if_neg, hkey']
      rintro rfl
      rw [hlookup] at hkey'
      exact hc (Option.some.inj hkey').symm
    rw [hc]
    have hdelivered := h.delivered hproxy haction
    exact ⟨hdelivered.1, hdelivered.2.2.1⟩

/-- **A step that meets the condition keeps the ledger**, and takes down
connections that have sent everything only. -/
theorem step_sound (h : s.Ledger) (hfound : s.Found) {l : HelperLabel}
    (hok : s.ConnectedInTime l) (hstep : s.step l = some t) :
    (t.Ledger ∧ t.Found) ∧ ∀ c, s.Held c → ¬ t.Held c →
      (s.connections c).events = []
        ∧ (s.connections c).delivered = (s.connections c).accepted := by
  -- only the last statement of `DisconnectAbility` takes a connection down
  have hsame : t.subscriberConnection = s.subscriberConnection → ∀ c, s.Held c → ¬ t.Held c →
      (s.connections c).events = []
        ∧ (s.connections c).delivered = (s.connections c).accepted :=
    fun hmap c hheld hnot => absurd ((held_congr hmap c).mpr hheld) hnot
  cases l with
  | connectAbility call hasAbilityMgr connected =>
    rw [AbilityManagerHelper.step] at hstep
    split at hstep
    next hidle =>
      cases hstep
      refine ⟨⟨h.connectAbility hasAbilityMgr connected hok, ?_⟩,
        fun c hheld hnot => absurd (held_connectAbility hheld) hnot⟩
      unfold Found
      rw [connectAbility_thread, hidle]
      trivial
    next => cases hstep
  | connectDone c =>
    rw [AbilityManagerHelper.step] at hstep
    split at hstep
    next =>
      cases hstep
      refine ⟨⟨h.connectDone hok, hfound.update rfl rfl rfl ?_⟩, hsame rfl⟩
      intro haction hproxy
      rw [StaticSubscriberConnection.onAbilityConnectDone_eq,
        (h.wellFormed c).connected hproxy]
      exact ⟨by rw [haction]; rfl, rfl⟩
    next => cases hstep
  | notify c =>
    rw [AbilityManagerHelper.step] at hstep
    dsimp only at hstep
    split at hstep
    next => cases hstep
    next event queue hqueue =>
      obtain ⟨hproxy, hledger⟩ := h.notify hqueue
      rw [if_pos hproxy] at hstep
      cases hstep
      refine ⟨⟨hledger, hfound.update rfl rfl rfl ?_⟩, hsame rfl⟩
      exact fun haction hproxy => ⟨haction, hproxy⟩
  | disconnectAbility i =>
    rw [AbilityManagerHelper.step] at hstep
    split at hstep
    next => cases hstep
    next task htask =>
      split at hstep
      next hidle =>
        cases hstep
        refine ⟨h.disconnectAbility hidle htask, hsame ?_⟩
        unfold AbilityManagerHelper.disconnectAbility
        split <;> rfl
      next => cases hstep
  | thread => exact stepThread_sound h hfound hok hstep

/-- **Where every connection is made in time, no event is lost by a
disconnect**: a step of such a run takes down connections that have sent
everything only, the task delayed for an event finds its connection, and no
two connections of one key are alive. -/
theorem disconnect_sound {ls : List HelperLabel} {l : HelperLabel}
    (hok : abilityMachine.Guarded ConnectedInTime (ls ++ [l]))
    (hs : abilityMachine.run ls = some s) (hstep : abilityMachine.step s l = some t) :
    s.StepSound l t := by
  obtain ⟨hbefore, hlast⟩ := (Machine.guarded_concat hs).mp hok
  obtain ⟨hledger, hfound⟩ := Machine.guarded_invariant (M := abilityMachine)
    (I := fun s => s.Ledger ∧ s.Found) ⟨Ledger.init, trivial⟩
    (fun s l t h hok hstep => (step_sound h.1 h.2 hok hstep).1) hbefore hs
  obtain ⟨hnext, herased⟩ := step_sound hledger hfound hlast hstep
  refine ⟨herased, ?_, fun c c' => hnext.1.live_unique⟩
  intro i task event _ htask hevent
  exact hledger.held_of_mem (List.mem_of_getElem? htask) hevent

/-- An event for the one static subscriber of an application. -/
def firstEvent : StaticConnection where
  data := { want := { action := "usual.event.BOOT_COMPLETED" } }
  userId := 100
  bundleName := "com.example.app"
  abilityName := "StaticAbility"

/-- A run in which the event is sent and forgotten, up to the disconnect. -/
def untilForgotten : List HelperLabel :=
  [.connectAbility firstEvent true true, .connectDone 0, .disconnectAbility 0, .thread,
    .notify 0, .disconnectAbility 0, .thread]

/-- A connection whose event was sent and forgotten is taken down. -/
theorem disconnect_sound_delivered :
    ∃ s t, abilityMachine.step s .thread = some t
      ∧ (s.connections 0).delivered = [firstEvent.data] ∧ s.StepSound .thread t := by
  obtain ⟨s, hs, hdelivered⟩ := Option.map_eq_some_iff.mp
    (show (abilityMachine.run untilForgotten).map (fun s => (s.connections 0).delivered)
      = some [firstEvent.data] by decide +kernel)
  obtain ⟨t, ht, -⟩ := Option.map_eq_some_iff.mp
    (show (abilityMachine.run (untilForgotten ++ [.thread])).map (fun _ => ())
      = some () by decide +kernel)
  obtain ⟨s', hs', hstep⟩ := (Machine.run_concat _).mp ht
  obtain rfl : s = s' := Option.some.inj (hs.symm.trans hs')
  exact ⟨s, t, hstep, hdelivered,
    disconnect_sound (Machine.guarded_of_guardedFrom (by decide +kernel)) hs hstep⟩

/-- A run in which the connection is not made before its first test. -/
def untilGivenUp : List HelperLabel :=
  [.connectAbility firstEvent true true, .disconnectAbility 0, .thread]

/-- **A connection that is not made in time is taken down with its first
event**: the task armed at the connection finds `action_` empty. -/
theorem disconnect_unconnected :
    ¬ ∀ ls l s t, abilityMachine.run ls = some s → abilityMachine.step s l = some t →
      s.StepSound l t := by
  intro hsound
  obtain ⟨s, hs, hbefore⟩ := Option.map_eq_some_iff.mp
    (show (abilityMachine.run untilGivenUp).map
      (fun s => (decide (s.Held 0), (s.connections 0).events.length))
        = some (true, 1) by decide +kernel)
  obtain ⟨t, ht, hafter⟩ := Option.map_eq_some_iff.mp
    (show (abilityMachine.run (untilGivenUp ++ [.thread])).map (fun t => decide (t.Held 0))
      = some false by decide +kernel)
  obtain ⟨s', hs', hstep⟩ := (Machine.run_concat _).mp ht
  obtain rfl : s = s' := Option.some.inj (hs.symm.trans hs')
  obtain ⟨hheld, hevents⟩ := Prod.mk.inj hbefore
  have herased := (hsound untilGivenUp .thread s t hs hstep).erased 0 (of_decide_eq_true hheld)
    (of_decide_eq_false hafter)
  rw [herased.1] at hevents
  cases hevents

end AbilityManagerHelper

end CommonEventService

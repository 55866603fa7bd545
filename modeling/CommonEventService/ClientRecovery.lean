import CommonEventService.Lib.EndlessRun
import CommonEventService.ListenerCache

/-!
# The client after a restart of the service

A service that is started anew knows of no subscription. The client is told
of its death and of its start by the system ability manager, to which the
first call that subscribes has subscribed a listener; once the service is
back, the listener submits a `Resubscribe`, which goes through the cache and
subscribes every listener in it, one after the other. The service may die at
any time, in the middle of that too.

What the manager tells comes late but in order. `Recovers` says how what is
not known to the service that is up is always under way to it: a death that
has not been told, a start that is waited for, or a `Resubscribe` that is to
run or has not come to it.
-/

namespace CommonEventService

/-- What the system ability manager tells of a system ability. -/
inductive SystemAbilityNotice where
  | added
  | removed
  deriving DecidableEq, Repr

/-- How often `Reconnect` asks for the proxy. -/
def MAX_RETRY_TIME : ℕ := 30

/-- `Reconnect`: whether one of its tries finds the service. -/
def reconnect (tries : ℕ → Bool) : Bool := (List.range MAX_RETRY_TIME).any tries

/-- `SystemAbilityStatusChangeListener`. The tasks of its queue are all
`Resubscribe`. -/
structure SystemAbilityStatusChangeListener where
  isSAOffline : Bool := false
  queue : ℕ := 0

namespace SystemAbilityStatusChangeListener

variable (l : SystemAbilityStatusChangeListener)

/-- `OnAddSystemAbility`. -/
def onAddSystemAbility (tries : ℕ → Bool) : SystemAbilityStatusChangeListener :=
  if !l.isSAOffline then l
  else if reconnect tries then { isSAOffline := false, queue := l.queue + 1 }
  else l

/-- A start takes no task out of the queue. -/
theorem queue_onAddSystemAbility (h : l.queue ≠ 0) (tries : ℕ → Bool) :
    (l.onAddSystemAbility tries).queue ≠ 0 := by
  unfold onAddSystemAbility
  split
  · exact h
  · split
    · exact Nat.succ_ne_zero _
    · exact h

/-- `OnRemoveSystemAbility`. -/
def onRemoveSystemAbility : SystemAbilityStatusChangeListener := { l with isSAOffline := true }

end SystemAbilityStatusChangeListener

namespace CommonEvent

/-- A turn of the loop of `Resubscribe`. -/
def resubscribeNext (s : CommonEvent) (subscriber listener : ℕ) (info : CommonEventSubscribeInfo)
    (answer : ServiceAnswer) : CommonEvent :=
  let s := s.proxySubscribe listener info answer
  if answer.result ≠ ERR_OK then { s with eventListeners := s.eventListeners.erase subscriber }
  else s

/-- The loop is its turns. -/
theorem resubscribeEntries_eq_foldl (infos : ℕ → CommonEventSubscribeInfo)
    (answers : ℕ → ServiceAnswer) (s : CommonEvent) (entries : List (ℕ × ℕ)) :
    resubscribeEntries infos answers s entries
      = entries.foldl (fun s entry =>
        s.resubscribeNext entry.1 entry.2 (infos entry.1) (answers entry.1)) s := by
  induction entries generalizing s with
  | nil => rfl
  | cons entry entries ih =>
    rw [resubscribeEntries, List.foldl_cons, resubscribeNext]
    split
    · exact ih _
    · exact ih _

end CommonEvent

/-- **The process of a client, and the service it is a client of.** -/
structure ClientProcess where
  commonEvent : CommonEvent := {}
  /-- `statusChangeListener_`. -/
  statusChangeListener : Option SystemAbilityStatusChangeListener := none
  /-- The `Resubscribe` in progress: the listeners it has not come to. -/
  resubscribing : Option (List (ℕ × ℕ)) := none
  isServiceUp : Bool := true
  /-- What the system ability manager has still to tell the listener. -/
  notices : List SystemAbilityNotice := []

/-- Whether an application makes the call. -/
def ClientLabel.isCall : ClientLabel → Bool
  | .resubscribe _ _ _ | .serviceRestarted => false
  | _ => true

/-- What a call meets. -/
def ClientLabel.env : ClientLabel → ClientEnv
  | .publishCommonEvent _ _ _ env | .publishCommonEventAsUser _ _ _ env
  | .subscribeCommonEvent _ _ env | .subscribe _ _ env | .unSubscribeCommonEvent _ env
  | .unSubscribeCommonEventSync _ env => env
  | .resubscribe _ _ _ | .serviceRestarted => {}

/-- Whether a call comes to `SubscribeSAManager`. -/
def ClientLabel.subscribesSAManager : ClientLabel → Bool
  | .subscribeCommonEvent subscriber info env | .subscribe subscriber info env =>
    subscriber.isSome && info.getEvents.length ≠ 0 && env.hasProxy
  | _ => false

/-- The service takes the subscriber's unsubscription. -/
def ClientLabel.Unsubscribes (subscriber : ℕ) : ClientLabel → Prop
  | .unSubscribeCommonEvent who env | .unSubscribeCommonEventSync who env =>
    who = some subscriber ∧ env.answer.result = ERR_OK
  | _ => False

/-- **The labels of a client process**: a call of the application, with whether
the system ability manager takes a subscription; the death and the start of
the service; the next notice, with what the tries of a `Reconnect` find; the
next task of the listener's queue, with whether there is a proxy; a turn of
its loop, or its end. -/
inductive ClientProcessLabel where
  | call (l : ClientLabel) (hasSAManager : Bool)
  | serviceDied
  | serviceStarted
  | notified (tries : ℕ → Bool)
  | resubscribe (hasProxy : Bool)
  | resubscribeNext (info : CommonEventSubscribeInfo) (answer : ServiceAnswer)

namespace ClientProcessLabel

def isNotified : ClientProcessLabel → Bool
  | .notified _ => true
  | _ => false

def isResubscribe : ClientProcessLabel → Bool
  | .resubscribe _ => true
  | _ => false

def isResubscribeNext : ClientProcessLabel → Bool
  | .resubscribeNext _ _ => true
  | _ => false

end ClientProcessLabel

namespace ClientProcess

variable (s : ClientProcess)

/-- `SubscribeSAManager`. A listener is told at once of a service that is
there. -/
def subscribeSAManager (hasSAManager : Bool) : ClientProcess :=
  if s.statusChangeListener.isNone && hasSAManager then
    { s with
      statusChangeListener := some {}
      notices := if s.isServiceUp then [.added] else [] }
  else s

/-- The manager has something to tell, if there is a listener. -/
def tell (notice : SystemAbilityNotice) : ClientProcess :=
  if s.statusChangeListener.isSome then { s with notices := s.notices ++ [notice] } else s

/-- **One step of a client process.** A call is one step, as for
`clientMachine`, and waits while the loop of `Resubscribe` holds the lock. A
service that is not up acknowledges nothing. -/
def step : ClientProcessLabel → Option ClientProcess
  | .call l hasSAManager =>
    if l.isCall ∧ s.resubscribing = none
        ∧ (l.env.answer.isAcknowledged = true → s.isServiceUp = true) then
      let s := if l.subscribesSAManager then s.subscribeSAManager hasSAManager else s
      some { s with commonEvent := s.commonEvent.apply l }
    else none
  | .serviceDied =>
    if s.isServiceUp then
      some { s.tell .removed with
        isServiceUp := false
        commonEvent := s.commonEvent.serviceRestarted }
    else none
  | .serviceStarted =>
    if s.isServiceUp then none else some { s.tell .added with isServiceUp := true }
  | .notified tries =>
    match s.statusChangeListener, s.notices with
    | some l, .added :: notices =>
      some { s with
        statusChangeListener := some (l.onAddSystemAbility tries)
        notices := notices }
    | some l, .removed :: notices =>
      some { s with
        statusChangeListener := some l.onRemoveSystemAbility
        notices := notices }
    | _, _ => none
  | .resubscribe hasProxy =>
    match s.statusChangeListener, s.resubscribing with
    | some l, none =>
      if l.queue = 0 then none
      else
        some { s with
          statusChangeListener := some { l with queue := l.queue - 1 }
          resubscribing :=
            if hasProxy then some (Dict.toList s.commonEvent.eventListeners) else none }
    | _, _ => none
  | .resubscribeNext info answer =>
    match s.resubscribing with
    | none => none
    | some [] => some { s with resubscribing := none }
    | some ((subscriber, listener) :: entries) =>
      if answer.isAcknowledged = true → s.isServiceUp = true then
        some { s with
          commonEvent := s.commonEvent.resubscribeNext subscriber listener info answer
          resubscribing := some entries }
      else none

end ClientProcess

/-- **The client process as a machine.** -/
def clientProcessMachine : Machine ClientProcess ClientProcessLabel where
  init := {}
  step := ClientProcess.step

/-! ## What a step can do -/

namespace ClientProcess

variable {s t : ClientProcess}

@[simp] theorem commonEvent_subscribeSAManager (hasSAManager : Bool) :
    (s.subscribeSAManager hasSAManager).commonEvent = s.commonEvent := by
  unfold subscribeSAManager
  split <;> rfl

@[simp] theorem resubscribing_subscribeSAManager (hasSAManager : Bool) :
    (s.subscribeSAManager hasSAManager).resubscribing = s.resubscribing := by
  unfold subscribeSAManager
  split <;> rfl

theorem subscribeSAManager_of_some {l : SystemAbilityStatusChangeListener}
    (h : s.statusChangeListener = some l) (hasSAManager : Bool) :
    s.subscribeSAManager hasSAManager = s := by
  rw [subscribeSAManager, h]
  rfl

theorem tell_of_none (h : s.statusChangeListener = none) (notice : SystemAbilityNotice) :
    s.tell notice = s := by
  rw [tell, h]
  rfl

theorem tell_of_some {l : SystemAbilityStatusChangeListener} (h : s.statusChangeListener = some l)
    (notice : SystemAbilityNotice) :
    s.tell notice = { s with notices := s.notices ++ [notice] } := by
  rw [tell, h]
  rfl

@[simp] theorem commonEvent_tell (notice : SystemAbilityNotice) :
    (s.tell notice).commonEvent = s.commonEvent := by
  unfold tell
  split <;> rfl

@[simp] theorem resubscribing_tell (notice : SystemAbilityNotice) :
    (s.tell notice).resubscribing = s.resubscribing := by
  unfold tell
  split <;> rfl

theorem notices_tell_ne_nil (h : s.notices ≠ []) (notice : SystemAbilityNotice) :
    (s.tell notice).notices ≠ [] := by
  unfold tell
  split
  · exact List.append_ne_nil_of_left_ne_nil h _
  · exact h

/-- **What a step can do.** -/
inductive Does (s : ClientProcess) : ClientProcessLabel → ClientProcess → Prop
  | call (l : ClientLabel) (hasSAManager : Bool) (hl : l.isCall = true)
      (hidle : s.resubscribing = none) (u : ClientProcess)
      (hu : u = if l.subscribesSAManager then s.subscribeSAManager hasSAManager else s)
      (hclient : u.commonEvent = s.commonEvent) :
      Does s (.call l hasSAManager) { u with commonEvent := s.commonEvent.apply l }
  | serviceDied (hup : s.isServiceUp = true) :
      Does s .serviceDied { s.tell .removed with
        isServiceUp := false
        commonEvent := s.commonEvent.serviceRestarted }
  | serviceStarted (hdown : s.isServiceUp = false) :
      Does s .serviceStarted { s.tell .added with isServiceUp := true }
  | added (l : SystemAbilityStatusChangeListener) (notices : List SystemAbilityNotice)
      (tries : ℕ → Bool) (hlistener : s.statusChangeListener = some l)
      (hnotices : s.notices = .added :: notices) :
      Does s (.notified tries) { s with
        statusChangeListener := some (l.onAddSystemAbility tries)
        notices := notices }
  | removed (l : SystemAbilityStatusChangeListener) (notices : List SystemAbilityNotice)
      (tries : ℕ → Bool) (hlistener : s.statusChangeListener = some l)
      (hnotices : s.notices = .removed :: notices) :
      Does s (.notified tries) { s with
        statusChangeListener := some l.onRemoveSystemAbility
        notices := notices }
  | begins (l : SystemAbilityStatusChangeListener) (hasProxy : Bool)
      (hlistener : s.statusChangeListener = some l) (hidle : s.resubscribing = none)
      (hqueue : l.queue ≠ 0) :
      Does s (.resubscribe hasProxy) { s with
        statusChangeListener := some { l with queue := l.queue - 1 }
        resubscribing :=
          if hasProxy then some (Dict.toList s.commonEvent.eventListeners) else none }
  | turns (subscriber listener : ℕ) (entries : List (ℕ × ℕ)) (info : CommonEventSubscribeInfo)
      (answer : ServiceAnswer)
      (hentries : s.resubscribing = some ((subscriber, listener) :: entries)) :
      Does s (.resubscribeNext info answer) { s with
        commonEvent := s.commonEvent.resubscribeNext subscriber listener info answer
        resubscribing := some entries }
  | ends (info : CommonEventSubscribeInfo) (answer : ServiceAnswer)
      (hentries : s.resubscribing = some []) :
      Does s (.resubscribeNext info answer) { s with resubscribing := none }

/-- **Every step does one of these.** -/
theorem does_of_step {l : ClientProcessLabel} (hstep : s.step l = some t) : s.Does l t := by
  cases l with
  | call l hasSAManager =>
    unfold step at hstep
    dsimp only at hstep
    split at hstep
    next hcall =>
      have hclient : (if l.subscribesSAManager then s.subscribeSAManager hasSAManager
          else s).commonEvent = s.commonEvent := by
        split
        · exact commonEvent_subscribeSAManager hasSAManager
        · rfl
      rw [hclient] at hstep
      cases hstep
      exact .call l hasSAManager hcall.1 hcall.2.1 _ rfl hclient
    next => cases hstep
  | serviceDied =>
    unfold step at hstep
    dsimp only at hstep
    split at hstep
    next hup =>
      cases hstep
      exact .serviceDied hup
    next => cases hstep
  | serviceStarted =>
    unfold step at hstep
    dsimp only at hstep
    split at hstep
    next => cases hstep
    next hdown =>
      cases hstep
      exact .serviceStarted (Bool.eq_false_iff.mpr hdown)
  | notified tries =>
    unfold step at hstep
    dsimp only at hstep
    split at hstep
    next l notices hlistener hnotices =>
      cases hstep
      exact .added l notices tries hlistener hnotices
    next l notices hlistener hnotices =>
      cases hstep
      exact .removed l notices tries hlistener hnotices
    next => cases hstep
  | resubscribe hasProxy =>
    unfold step at hstep
    dsimp only at hstep
    split at hstep
    next l hlistener hidle =>
      split at hstep
      next => cases hstep
      next hqueue =>
        cases hstep
        exact .begins l hasProxy hlistener hidle hqueue
    next => cases hstep
  | resubscribeNext info answer =>
    unfold step at hstep
    dsimp only at hstep
    split at hstep
    next => cases hstep
    next hentries =>
      cases hstep
      exact .ends info answer hentries
    next subscriber listener entries hentries =>
      split at hstep
      · cases hstep
        exact .turns subscriber listener entries info answer hentries
      · cases hstep

end ClientProcess

/-! ## What a call does to the cache -/

namespace CommonEvent

variable {s : CommonEvent} {l : ClientLabel}

/-- A publication finds a listener for its result subscriber, or needs none. -/
def PublishFinds (s : CommonEvent) : ClientLabel → Prop
  | .publishCommonEvent data publishInfo subscriber env
  | .publishCommonEventAsUser data publishInfo subscriber env =>
    ¬ s.PublishCreates data publishInfo subscriber env
  | _ => True

/-- A subscriber whose listener the service that is up does not know of. -/
def Unacknowledged (s : CommonEvent) (subscriber listener : ℕ) : Prop :=
  s.eventListeners.lookup subscriber = some listener ∧ s.acknowledged.lookup listener = none

/-- Nothing comes into the cache, and what stays in it stays acknowledged. -/
def Keeps (s t : CommonEvent) : Prop :=
  ∀ subscriber listener, t.eventListeners.lookup subscriber = some listener →
    s.eventListeners.lookup subscriber = some listener
      ∧ ((s.acknowledged.lookup listener).isSome → (t.acknowledged.lookup listener).isSome)

theorem Keeps.refl (s : CommonEvent) : s.Keeps s := fun _ _ h => ⟨h, id⟩

/-- A publication that finds its listener keeps the cache. -/
theorem keeps_publishParameterCheck {data : CommonEventData}
    {publishInfo : CommonEventPublishInfo} {subscriber : Option ℕ} {env : ClientEnv}
    (h : ¬ s.PublishCreates data publishInfo subscriber env) :
    s.Keeps (s.publishParameterCheck data publishInfo subscriber env.hasMemory).2 := by
  rcases s.publishParameterCheck_cases data publishInfo subscriber env with
    ⟨new, -, hcreates, -⟩ | ⟨-, heq⟩
  · exact absurd hcreates h
  · rw [heq]
    exact .refl s

/-- So does an unsubscription: its listener is no other subscriber's. -/
theorem keeps_checkAndUnsubscribe (halloc : s.Allocated) (subscriber : Option ℕ)
    (env : ClientEnv) : s.Keeps (s.checkAndUnsubscribe subscriber env).2 := by
  obtain heq | ⟨known, listener, hlookup, heq⟩ := s.checkAndUnsubscribe_cases subscriber env
  · rw [heq]
    exact .refl s
  · rw [heq]
    intro other listener' hother
    rw [lookup_forget, eventListeners_proxyUnsubscribe] at hother
    split at hother
    · cases hother
    next hne =>
      refine ⟨hother, fun hack => ?_⟩
      have hlistener : listener' ≠ listener := by
        rintro rfl
        exact hne (halloc.injective other known listener' hother hlookup)
      show ((s.proxyUnsubscribe listener env.answer).acknowledged.lookup listener').isSome
      unfold proxyUnsubscribe
      split
      · show ((s.acknowledged.erase listener).lookup listener').isSome
        rw [Dict.lookup_erase_ite, if_neg hlistener]
        exact hack
      · exact hack

/-- A subscribing call that does not come to `SubscribeSAManager` changes
nothing. -/
theorem checkAndSubscribe_of_refused {subscriber : Option ℕ} {info : CommonEventSubscribeInfo}
    {isUpdate : Bool} {env : ClientEnv}
    (h : (subscriber.isSome && info.getEvents.length ≠ 0 && env.hasProxy) = false) :
    (s.checkAndSubscribe subscriber info isUpdate env).2 = s := by
  unfold checkAndSubscribe
  cases subscriber with
  | none => rfl
  | some subscriber =>
    dsimp only
    split
    · rfl
    next hevents =>
      split
      · rfl
      next hproxy => simp_all

/-- A subscribing call keeps the cache, but for the subscriber that it
subscribes. -/
theorem lookup_checkAndSubscribe {subscriber : Option ℕ} {info : CommonEventSubscribeInfo}
    {isUpdate : Bool} {env : ClientEnv} {subscriber' listener : ℕ}
    (h : (s.checkAndSubscribe subscriber info isUpdate env).2.eventListeners.lookup subscriber'
      = some listener) :
    (s.eventListeners.lookup subscriber' = some listener
        ∧ ((s.acknowledged.lookup listener).isSome →
          ((s.checkAndSubscribe subscriber info isUpdate env).2.acknowledged.lookup
            listener).isSome))
      ∨ ((s.checkAndSubscribe subscriber info isUpdate env).2.acknowledged.lookup
          listener).isSome := by
  rcases s.checkAndSubscribe_cases subscriber info isUpdate env with
    ⟨-, nextListener, -, heq⟩ | ⟨new, -, hnone, hack, heq⟩ | ⟨known, listener', -, -, -, -, heq⟩
  · rw [heq] at h ⊢
    exact Or.inl ⟨h, id⟩
  · rw [heq] at h ⊢
    rw [eventListeners_proxySubscribe, lookup_created] at h
    split at h
    next =>
      cases h
      refine Or.inr ?_
      rw [proxySubscribe, if_pos hack, AList.lookup_insert]
      rfl
    next =>
      exact Or.inl ⟨h, isSome_acknowledged_proxySubscribe (s := s.created new) _ _ _⟩
  · rw [heq] at h ⊢
    cases isUpdate with
    | false => exact Or.inl ⟨h, id⟩
    | true =>
      have hcached : s.eventListeners.lookup subscriber' = some listener := by
        rw [← eventListeners_proxySubscribe listener' info env.answer]
        exact h
      exact Or.inl ⟨hcached, isSome_acknowledged_proxySubscribe _ _ _⟩

/-- **What is in the cache after a call** was there before, and is still
acknowledged if it was; or the call has subscribed it. -/
theorem lookup_apply (halloc : s.Allocated) (hl : l.isCall = true) (hfinds : s.PublishFinds l)
    {subscriber listener : ℕ}
    (h : (s.apply l).eventListeners.lookup subscriber = some listener) :
    (s.eventListeners.lookup subscriber = some listener
        ∧ ((s.acknowledged.lookup listener).isSome →
          ((s.apply l).acknowledged.lookup listener).isSome))
      ∨ l.subscribesSAManager = true ∧ ((s.apply l).acknowledged.lookup listener).isSome := by
  have hsubscribes : ∀ (who : Option ℕ) (info : CommonEventSubscribeInfo) (isUpdate : Bool)
      (env : ClientEnv),
      (s.checkAndSubscribe who info isUpdate env).2.eventListeners.lookup subscriber
        = some listener →
      (s.eventListeners.lookup subscriber = some listener
          ∧ ((s.acknowledged.lookup listener).isSome →
            ((s.checkAndSubscribe who info isUpdate env).2.acknowledged.lookup listener).isSome))
        ∨ (who.isSome && info.getEvents.length ≠ 0 && env.hasProxy) = true
          ∧ ((s.checkAndSubscribe who info isUpdate env).2.acknowledged.lookup
            listener).isSome := by
    intro who info isUpdate env hlookup
    cases hcomes : (who.isSome && info.getEvents.length ≠ 0 && env.hasProxy) with
    | false =>
      rw [checkAndSubscribe_of_refused hcomes] at hlookup ⊢
      exact Or.inl ⟨hlookup, id⟩
    | true => exact (lookup_checkAndSubscribe hlookup).imp_right fun hack => ⟨rfl, hack⟩
  cases l with
  | publishCommonEvent data publishInfo who env =>
    have hkeeps := keeps_publishParameterCheck hfinds
    rw [← publishCommonEvent_snd] at hkeeps
    exact Or.inl (hkeeps subscriber listener h)
  | publishCommonEventAsUser data publishInfo who env =>
    have hkeeps := keeps_publishParameterCheck hfinds
    rw [← publishCommonEventAsUser_snd] at hkeeps
    exact Or.inl (hkeeps subscriber listener h)
  | subscribeCommonEvent who info env => exact hsubscribes who info false env h
  | subscribe who info env => exact hsubscribes who info true env h
  | unSubscribeCommonEvent who env =>
    exact Or.inl (keeps_checkAndUnsubscribe halloc who env subscriber listener h)
  | unSubscribeCommonEventSync who env =>
    exact Or.inl (keeps_checkAndUnsubscribe halloc who env subscriber listener h)
  | resubscribe hasProxy infos answers => cases hl
  | serviceRestarted => cases hl

/-- **What a turn of the loop does**: its listener is acknowledged, or it is no
longer in the cache; the others are as they were. -/
theorem resubscribeNext_spec (halloc : s.Allocated) {subscriber listener : ℕ}
    (hcached : s.eventListeners.lookup subscriber = some listener)
    {info : CommonEventSubscribeInfo} {answer : ServiceAnswer} {t : CommonEvent}
    (ht : t = s.resubscribeNext subscriber listener info answer) :
    t.Allocated ∧ s.Keeps t
      ∧ (∀ listener', t.eventListeners.lookup subscriber = some listener' →
        (t.acknowledged.lookup listener').isSome)
      ∧ ∀ other, other ≠ subscriber →
        t.eventListeners.lookup other = s.eventListeners.lookup other := by
  by_cases hresult : answer.result = ERR_OK
  · have heq : t = s.proxySubscribe listener info answer := by
      rw [ht, resubscribeNext]
      exact if_neg (not_not.mpr hresult)
    have hlisteners : t.eventListeners = s.eventListeners := by
      rw [heq, eventListeners_proxySubscribe]
    refine ⟨?_, fun _ _ h => ⟨hlisteners ▸ h, fun hack => ?_⟩, fun listener' h => ?_,
      fun _ _ => by rw [hlisteners]⟩
    · rw [heq]
      exact halloc.proxySubscribe (halloc.cached subscriber listener hcached)
    · rw [heq]
      exact isSome_acknowledged_proxySubscribe _ _ _ hack
    · rw [hlisteners] at h
      obtain rfl := Option.some.inj (hcached.symm.trans h)
      rw [heq, proxySubscribe, if_pos (answer.result_eq_iff.mp hresult), AList.lookup_insert]
      rfl
  · have heq : t = s.forget subscriber := by
      rw [ht, resubscribeNext, proxySubscribe_of_not hresult]
      exact if_pos hresult
    rw [heq]
    refine ⟨halloc.forget, fun other listener' h => ?_, fun listener' h => ?_, fun other hne => ?_⟩
    · rw [lookup_forget] at h
      split at h
      · cases h
      · exact ⟨h, id⟩
    · rw [lookup_forget, if_pos rfl] at h
      cases h
    · rw [lookup_forget, if_neg hne]

/-- A call leaves nothing unknown that was not. -/
theorem Unacknowledged.of_apply {subscriber listener : ℕ}
    (h : (s.apply l).Unacknowledged subscriber listener) (halloc : s.Allocated)
    (hl : l.isCall = true) (hfinds : s.PublishFinds l) :
    s.Unacknowledged subscriber listener := by
  obtain ⟨hcached, hnone⟩ := h
  rcases lookup_apply halloc hl hfinds hcached with ⟨hbefore, hkeeps⟩ | ⟨-, hack⟩
  · refine ⟨hbefore, Option.not_isSome_iff_eq_none.mp fun hack => ?_⟩
    exact absurd (hkeeps hack) (by simp [hnone])
  · exact absurd hack (by simp [hnone])

/-- Nor does a turn of the loop, after which its listener is known. -/
theorem Unacknowledged.of_resubscribeNext {subscriber listener subscriber' listener' : ℕ}
    {info : CommonEventSubscribeInfo} {answer : ServiceAnswer}
    (h : (s.resubscribeNext subscriber listener info answer).Unacknowledged subscriber' listener')
    (halloc : s.Allocated) (hcached : s.eventListeners.lookup subscriber = some listener) :
    subscriber' ≠ subscriber ∧ s.Unacknowledged subscriber' listener' := by
  obtain ⟨-, hkeeps, hturn, -⟩ := resubscribeNext_spec halloc hcached
    (show s.resubscribeNext subscriber listener info answer = _ from rfl)
  obtain ⟨hcached', hnone⟩ := h
  obtain ⟨hbefore, hack⟩ := hkeeps subscriber' listener' hcached'
  refine ⟨?_, hbefore, Option.not_isSome_iff_eq_none.mp fun hsome => ?_⟩
  · rintro rfl
    exact absurd (hturn listener' hcached') (by simp [hnone])
  · exact absurd (hack hsome) (by simp [hnone])

/-- A subscribing call drops nothing. -/
theorem kept_checkAndSubscribe (subscriber : Option ℕ) (info : CommonEventSubscribeInfo)
    (isUpdate : Bool) (env : ClientEnv) {subscriber' listener : ℕ}
    (h : s.eventListeners.lookup subscriber' = some listener) :
    (s.checkAndSubscribe subscriber info isUpdate env).2.eventListeners.lookup subscriber'
      = some listener := by
  rcases s.checkAndSubscribe_cases subscriber info isUpdate env with
    ⟨-, nextListener, -, heq⟩ | ⟨new, -, hnone, -, heq⟩ | ⟨known, listener', -, -, -, -, heq⟩
  · rw [heq]
    exact h
  · rw [heq, eventListeners_proxySubscribe, lookup_created, if_neg]
    · exact h
    · rintro rfl
      rw [hnone] at h
      cases h
  · rw [heq]
    cases isUpdate with
    | false => exact h
    | true =>
      rw [if_pos rfl, eventListeners_proxySubscribe]
      exact h

/-- Nor does a publication. -/
theorem kept_publishParameterCheck (data : CommonEventData)
    (publishInfo : CommonEventPublishInfo) (subscriber : Option ℕ) (env : ClientEnv)
    {subscriber' listener : ℕ} (h : s.eventListeners.lookup subscriber' = some listener) :
    (s.publishParameterCheck data publishInfo subscriber env.hasMemory).2.eventListeners.lookup
      subscriber' = some listener := by
  rcases s.publishParameterCheck_cases data publishInfo subscriber env with
    ⟨new, hnew, ⟨-, -, new', hnew', hnone, -⟩, heq⟩ | ⟨-, heq⟩
  · obtain rfl := Option.some.inj (hnew.symm.trans hnew')
    rw [heq, lookup_created, if_neg]
    · exact h
    · rintro rfl
      rw [hnone] at h
      cases h
  · rw [heq]
    exact h

/-- An unsubscribing call drops the listener of its subscriber, once that is
acknowledged. -/
theorem kept_checkAndUnsubscribe {subscriber : Option ℕ} {env : ClientEnv}
    {subscriber' listener : ℕ} (h : s.eventListeners.lookup subscriber' = some listener)
    (hother : ¬ (subscriber = some subscriber' ∧ env.answer.result = ERR_OK)) :
    (s.checkAndUnsubscribe subscriber env).2.eventListeners.lookup subscriber'
      = some listener := by
  unfold checkAndUnsubscribe
  cases subscriber with
  | none => exact h
  | some subscriber =>
    dsimp only
    split
    · exact h
    · split
      · exact h
      next known hknown =>
        split
        next hresult =>
          have hne : subscriber' ≠ subscriber := by
            rintro rfl
            exact hother ⟨rfl, hresult⟩
          show ((s.proxyUnsubscribe known env.answer).forget subscriber).eventListeners.lookup _ = _
          rw [lookup_forget, if_neg hne, eventListeners_proxyUnsubscribe]
          exact h
        next =>
          rw [eventListeners_proxyUnsubscribe]
          exact h

/-- **What a call leaves in the cache**: all but what it unsubscribes. -/
theorem kept_apply {subscriber listener : ℕ} (hl : l.isCall = true)
    (h : s.eventListeners.lookup subscriber = some listener)
    (hother : ¬ l.Unsubscribes subscriber) :
    (s.apply l).eventListeners.lookup subscriber = some listener := by
  cases l with
  | publishCommonEvent data publishInfo who env =>
    have hkept := kept_publishParameterCheck data publishInfo who env h
    rw [← publishCommonEvent_snd] at hkept
    exact hkept
  | publishCommonEventAsUser data publishInfo who env =>
    have hkept := kept_publishParameterCheck data publishInfo who env h
    rw [← publishCommonEventAsUser_snd] at hkept
    exact hkept
  | subscribeCommonEvent who info env => exact kept_checkAndSubscribe who info false env h
  | subscribe who info env => exact kept_checkAndSubscribe who info true env h
  | unSubscribeCommonEvent who env => exact kept_checkAndUnsubscribe h hother
  | unSubscribeCommonEventSync who env => exact kept_checkAndUnsubscribe h hother
  | resubscribe hasProxy infos answers => cases hl
  | serviceRestarted => cases hl

end CommonEvent

/-! ## What is under way -/

namespace ClientProcess

variable {s t : ClientProcess}

/-- **What a step may rely on**: a publication makes no listener; the system
ability manager takes the subscription; and it finds the service where that is
up. -/
def Reliable (s : ClientProcess) : ClientProcessLabel → Prop
  | .call l hasSAManager =>
    s.commonEvent.PublishFinds l ∧ (l.subscribesSAManager = true → hasSAManager = true)
  | .notified tries => s.isServiceUp = true → reconnect tries = true
  | .resubscribe hasProxy => s.isServiceUp = true → hasProxy = true
  | _ => True

/-- A death has not been told, or a start is waited for. -/
def Missing (s : ClientProcess) : Prop :=
  .removed ∈ s.notices ∨ ∃ l ∈ s.statusChangeListener, l.isSAOffline = true

/-- A `Resubscribe` is to run. -/
def Queued (s : ClientProcess) : Prop := ∃ l ∈ s.statusChangeListener, l.queue ≠ 0

/-- The `Resubscribe` in progress has not come to a listener. -/
def Remains (s : ClientProcess) (subscriber listener : ℕ) : Prop :=
  ∃ entries ∈ s.resubscribing, (subscriber, listener) ∈ entries

/-- **What every step keeps.** A listener that the service does not know of is
under way to it. -/
structure Recovers (s : ClientProcess) : Prop where
  allocated : s.commonEvent.Allocated
  /-- Before anyone has subscribed there is nothing to recover. -/
  unwatched : s.statusChangeListener = none → s.notices = [] ∧ s.resubscribing = none
    ∧ ∀ subscriber, s.commonEvent.eventListeners.lookup subscriber = none
  /-- What has been told last is how it is. -/
  told : ∀ notice ∈ s.notices.getLast?, (notice = .added ↔ s.isServiceUp = true)
  online : s.isServiceUp = true → s.notices = [] →
    ∀ l ∈ s.statusChangeListener, l.isSAOffline = false
  remaining : ∀ subscriber listener, s.Remains subscriber listener →
    s.commonEvent.eventListeners.lookup subscriber = some listener
  nodup : ∀ entries ∈ s.resubscribing, (entries.map Prod.fst).Nodup
  down : s.isServiceUp = false →
    ∀ subscriber listener, s.commonEvent.Unacknowledged subscriber listener → s.Missing
  due : ∀ subscriber listener, s.commonEvent.Unacknowledged subscriber listener →
    s.Remains subscriber listener ∨ s.Missing ∨ s.Queued

theorem Recovers.init : ({} : ClientProcess).Recovers where
  allocated := .init
  unwatched _ := ⟨rfl, rfl, fun _ => rfl⟩
  told _ h := by cases h
  online _ _ _ h := by cases h
  remaining _ _ h := by
    obtain ⟨entries, hentries, -⟩ := h
    cases hentries
  nodup _ h := by cases h
  down h := by cases h
  due _ _ h := by cases h.1

/-- A listener that is told of what is to come. -/
theorem Recovers.subscribeSAManager (h : s.Recovers) :
    (s.subscribeSAManager true).Recovers
      ∧ (s.subscribeSAManager true).statusChangeListener.isSome = true := by
  unfold ClientProcess.subscribeSAManager
  cases hlistener : s.statusChangeListener with
  | some l => exact ⟨h, by rw [if_neg (by simp), hlistener]; rfl⟩
  | none =>
    obtain ⟨hnotices, hidle, hempty⟩ := h.unwatched hlistener
    have hnone : ∀ subscriber listener,
        ¬ s.commonEvent.Unacknowledged subscriber listener := by
      rintro subscriber listener ⟨hcached, -⟩
      rw [hempty] at hcached
      cases hcached
    rw [if_pos (by simp)]
    refine ⟨?_, rfl⟩
    exact
      { allocated := h.allocated
        unwatched := fun hnone => by cases hnone
        told := by
          cases hup : s.isServiceUp with
          | true =>
            intro notice hnotice
            cases hnotice
            exact iff_of_true rfl rfl
          | false =>
            intro notice hnotice
            cases hnotice
        online := fun _ _ l hl => by
          cases hl
          rfl
        remaining := h.remaining
        nodup := h.nodup
        down := fun _ _ _ hun => absurd hun (hnone _ _)
        due := fun _ _ hun => absurd hun (hnone _ _) }

/-- **A call** leaves nothing unknown to the service that was not. -/
theorem Recovers.call {l : ClientLabel} {hasSAManager : Bool} (h : s.Recovers)
    (hl : l.isCall = true) (hidle : s.resubscribing = none)
    (hreliable : s.Reliable (.call l hasSAManager)) {u : ClientProcess}
    (hu : u = if l.subscribesSAManager then s.subscribeSAManager hasSAManager else s) :
    ({ u with commonEvent := s.commonEvent.apply l } : ClientProcess).Recovers := by
  obtain ⟨hfinds, hmanager⟩ := hreliable
  have hwatched : u.Recovers ∧ u.commonEvent = s.commonEvent ∧ u.resubscribing = none
      ∧ (l.subscribesSAManager = true → u.statusChangeListener.isSome = true) := by
    cases hsubscribes : l.subscribesSAManager with
    | false =>
      rw [hsubscribes] at hu
      subst hu
      exact ⟨h, rfl, hidle, fun hfalse => absurd hfalse Bool.false_ne_true⟩
    | true =>
      rw [hsubscribes, if_pos rfl, hmanager hsubscribes] at hu
      subst hu
      exact ⟨h.subscribeSAManager.1, by simp, by simpa using hidle,
        fun _ => h.subscribeSAManager.2⟩
  obtain ⟨hu, hclient, hidle', hsome⟩ := hwatched
  exact
    { allocated := h.allocated.apply l
      unwatched := fun hlistener => by
        obtain ⟨hnotices, hresubscribing, hempty⟩ := hu.unwatched hlistener
        refine ⟨hnotices, hresubscribing, fun subscriber => ?_⟩
        refine Option.eq_none_iff_forall_ne_some.mpr fun listener hcached => ?_
        rcases CommonEvent.lookup_apply h.allocated hl hfinds hcached with ⟨hbefore, -⟩ |
          ⟨hsubscribes, -⟩
        · rw [← hclient, hempty] at hbefore
          cases hbefore
        · have hlistener' := hsome hsubscribes
          rw [hlistener] at hlistener'
          cases hlistener'
      told := hu.told
      online := hu.online
      remaining := fun _ _ ⟨_, hentries, _⟩ => by
        rw [hidle'] at hentries
        cases hentries
      nodup := hu.nodup
      down := fun hdown _ _ hun =>
        hu.down hdown _ _ (hclient ▸ hun.of_apply h.allocated hl hfinds)
      due := fun _ _ hun => hu.due _ _ (hclient ▸ hun.of_apply h.allocated hl hfinds) }

/-- **The service dies**: what it knew is unknown, and its death is told. -/
theorem Recovers.serviceDied (h : s.Recovers) :
    ({ s.tell .removed with
      isServiceUp := false
      commonEvent := s.commonEvent.serviceRestarted } : ClientProcess).Recovers := by
  cases hlistener : s.statusChangeListener with
  | none =>
    rw [tell_of_none hlistener]
    obtain ⟨hnotices, hidle, hempty⟩ := h.unwatched hlistener
    have hnone : ∀ subscriber listener,
        s.commonEvent.eventListeners.lookup subscriber ≠ some listener := by
      intro subscriber listener hcached
      rw [hempty] at hcached
      cases hcached
    exact
      { allocated := h.allocated.serviceRestarted
        unwatched := fun _ => ⟨hnotices, hidle, hempty⟩
        told := fun notice hnotice => by
          have hnotice' : notice ∈ s.notices.getLast? := hnotice
          rw [hnotices] at hnotice'
          cases hnotice'
        online := fun hup => by cases hup
        remaining := h.remaining
        nodup := h.nodup
        down := fun _ _ _ hun => absurd hun.1 (hnone _ _)
        due := fun _ _ hun => absurd hun.1 (hnone _ _) }
  | some l =>
    rw [tell_of_some hlistener]
    have htold : SystemAbilityNotice.removed ∈ s.notices ++ [.removed] :=
      List.mem_append_right _ (List.mem_singleton_self _)
    exact
      { allocated := h.allocated.serviceRestarted
        unwatched := fun hnone => by cases hlistener.symm.trans hnone
        told := fun notice hnotice => by
          have hlast : notice ∈ (s.notices ++ [SystemAbilityNotice.removed]).getLast? := hnotice
          rw [List.getLast?_concat] at hlast
          cases hlast
          exact iff_of_false (by decide) Bool.false_ne_true
        online := fun hup => by cases hup
        remaining := h.remaining
        nodup := h.nodup
        down := fun _ _ _ _ => Or.inl htold
        due := fun _ _ _ => Or.inr (Or.inl (Or.inl htold)) }

/-- **The service is started**, and that is told. -/
theorem Recovers.serviceStarted (h : s.Recovers) :
    ({ s.tell .added with isServiceUp := true } : ClientProcess).Recovers := by
  cases hlistener : s.statusChangeListener with
  | none =>
    rw [tell_of_none hlistener]
    obtain ⟨hnotices, hidle, hempty⟩ := h.unwatched hlistener
    exact
      { allocated := h.allocated
        unwatched := fun _ => ⟨hnotices, hidle, hempty⟩
        told := fun notice hnotice => by
          have hnotice' : notice ∈ s.notices.getLast? := hnotice
          rw [hnotices] at hnotice'
          cases hnotice'
        online := fun _ _ l hl => by
          have hl' : l ∈ s.statusChangeListener := hl
          rw [hlistener] at hl'
          cases hl'
        remaining := h.remaining
        nodup := h.nodup
        down := fun hdown => by cases hdown
        due := h.due }
  | some l =>
    rw [tell_of_some hlistener]
    have hmissing : s.Missing → ({ s with
        notices := s.notices ++ [.added]
        isServiceUp := true } : ClientProcess).Missing :=
      fun hmissing => hmissing.imp_left (List.mem_append_left _)
    exact
      { allocated := h.allocated
        unwatched := fun hnone => by cases hlistener.symm.trans hnone
        told := fun notice hnotice => by
          have hlast : notice ∈ (s.notices ++ [SystemAbilityNotice.added]).getLast? := hnotice
          rw [List.getLast?_concat] at hlast
          cases hlast
          exact iff_of_true rfl rfl
        online := fun _ hempty => absurd hempty (List.append_ne_nil_of_right_ne_nil _ (by simp))
        remaining := h.remaining
        nodup := h.nodup
        down := fun hdown => by cases hdown
        due := fun _ _ hun => (h.due _ _ hun).imp_right (Or.imp_left hmissing) }

/-- What is told last is also the last of what is told after the first. -/
theorem Recovers.told_tail (h : s.Recovers) {first : SystemAbilityNotice}
    {notices : List SystemAbilityNotice} (hnotices : s.notices = first :: notices) :
    ∀ notice ∈ notices.getLast?, (notice = .added ↔ s.isServiceUp = true) := by
  intro notice hnotice
  refine h.told notice ?_
  rw [hnotices, List.getLast?_cons, Option.mem_def.mp hnotice]
  rfl

/-- While the service is down its death is told after all that was told
before. -/
theorem Recovers.removed_mem (h : s.Recovers) (hdown : s.isServiceUp = false)
    (hnotices : s.notices ≠ []) : SystemAbilityNotice.removed ∈ s.notices := by
  have hlast := List.getLast?_eq_some_getLast hnotices
  have htold := h.told _ hlast
  cases hnotice : s.notices.getLast hnotices with
  | added =>
    rw [hnotice, hdown] at htold
    exact absurd (htold.mp rfl) Bool.false_ne_true
  | removed => exact hnotice ▸ List.getLast_mem hnotices

/-- **The listener is told of a start**: it submits a `Resubscribe` if it was
waiting for that. -/
theorem Recovers.onAddSystemAbility (h : s.Recovers) {l : SystemAbilityStatusChangeListener}
    {notices : List SystemAbilityNotice} {tries : ℕ → Bool}
    (hlistener : s.statusChangeListener = some l) (hnotices : s.notices = .added :: notices)
    (hreliable : s.isServiceUp = true → reconnect tries = true) :
    ({ s with
      statusChangeListener := some (l.onAddSystemAbility tries)
      notices := notices } : ClientProcess).Recovers := by
  -- a death that is told later is still to be told
  have hlater : SystemAbilityNotice.removed ∈ s.notices → .removed ∈ notices := by
    rw [hnotices]
    intro hmem
    exact (List.mem_cons.mp hmem).resolve_left (by decide)
  refine
    { allocated := h.allocated
      unwatched := fun hnone => by cases hnone
      told := h.told_tail hnotices
      online := fun hup _ => ?_
      remaining := h.remaining
      nodup := h.nodup
      down := fun hdown _ _ _ => Or.inl (hlater (h.removed_mem hdown (by simp [hnotices])))
      due := fun subscriber listener hun => ?_ }
  · rintro _ ⟨⟩
    unfold SystemAbilityStatusChangeListener.onAddSystemAbility
    split
    next honline => simpa using honline
    next => rw [if_pos (hreliable hup)]
  · rcases h.due subscriber listener hun with hremains | (hremoved | ⟨l', hl', hoffline⟩) |
      ⟨l', hl', hqueue⟩
    · exact Or.inl hremains
    · exact Or.inr (Or.inl (Or.inl (hlater hremoved)))
    · obtain rfl := Option.some.inj (hlistener.symm.trans hl')
      -- the start that was waited for
      unfold SystemAbilityStatusChangeListener.onAddSystemAbility
      cases hconnects : reconnect tries with
      | true => exact Or.inr (Or.inr ⟨_, rfl, by simp [hoffline]⟩)
      | false => exact Or.inr (Or.inl (Or.inr ⟨_, rfl, by simp [hoffline]⟩))
    · obtain rfl := Option.some.inj (hlistener.symm.trans hl')
      exact Or.inr (Or.inr ⟨_, rfl, l.queue_onAddSystemAbility hqueue tries⟩)

/-- **The listener is told of a death**, and waits for the start. -/
theorem Recovers.onRemoveSystemAbility (h : s.Recovers) (l : SystemAbilityStatusChangeListener)
    {notices : List SystemAbilityNotice} (hnotices : s.notices = .removed :: notices) :
    ({ s with
      statusChangeListener := some l.onRemoveSystemAbility
      notices := notices } : ClientProcess).Recovers := by
  have hoffline : ∃ l' ∈ some l.onRemoveSystemAbility, l'.isSAOffline = true := ⟨_, rfl, rfl⟩
  have hlast := h.told_tail hnotices
  exact
    { allocated := h.allocated
      unwatched := fun hnone => by cases hnone
      told := hlast
      online := fun hup hempty => by
        have htold := h.told
        rw [hnotices, show notices = [] from hempty] at htold
        exact absurd ((htold .removed rfl).mpr hup) (by decide)
      remaining := h.remaining
      nodup := h.nodup
      down := fun _ _ _ _ => Or.inr hoffline
      due := fun _ _ hun => Or.inr (Or.inl (Or.inr hoffline)) }

/-- **A `Resubscribe` begins**: every listener in the cache is to come. -/
theorem Recovers.resubscribe (h : s.Recovers) {l : SystemAbilityStatusChangeListener}
    {hasProxy : Bool} (hlistener : s.statusChangeListener = some l)
    (hreliable : s.isServiceUp = true → hasProxy = true) :
    ({ s with
      statusChangeListener := some { l with queue := l.queue - 1 }
      resubscribing :=
        if hasProxy then some (Dict.toList s.commonEvent.eventListeners) else none } :
      ClientProcess).Recovers := by
  have hlisting := Dict.isListing_toList s.commonEvent.eventListeners
  have hmissing : s.Missing → ({ s with
      statusChangeListener := some { l with queue := l.queue - 1 }
      resubscribing :=
        if hasProxy then some (Dict.toList s.commonEvent.eventListeners) else none } :
      ClientProcess).Missing := by
    refine Or.imp_right ?_
    rintro ⟨l', hl', hoffline⟩
    obtain rfl := Option.some.inj (hlistener.symm.trans hl')
    exact ⟨_, rfl, hoffline⟩
  refine
    { allocated := h.allocated
      unwatched := fun hnone => by cases hnone
      told := h.told
      online := fun hup hempty => ?_
      remaining := fun subscriber listener hremains => ?_
      nodup := fun entries hentries => ?_
      down := fun hdown _ _ hun => hmissing (h.down hdown _ _ hun)
      due := fun subscriber listener hun => ?_ }
  · rintro _ ⟨⟩
    exact h.online hup hempty l hlistener
  · obtain ⟨entries, hentries, hmem⟩ := hremains
    cases hasProxy with
    | false => cases hentries
    | true =>
      cases hentries
      exact (hlisting.mem subscriber listener).mp hmem
  · cases hasProxy with
    | false => cases hentries
    | true =>
      cases hentries
      exact hlisting.nodup
  · cases hasProxy with
    | false =>
      -- without a proxy the service is not up, so its start is still to come
      have hdown : s.isServiceUp = false :=
        Bool.eq_false_iff.mpr fun hup => Bool.false_ne_true (hreliable hup)
      exact Or.inr (Or.inl (hmissing (h.down hdown subscriber listener hun)))
    | true =>
      exact Or.inl ⟨_, rfl, (hlisting.mem subscriber listener).mpr hun.1⟩

/-- **A turn of the loop**: the listener it has come to is acknowledged, or is
no longer in the cache. -/
theorem Recovers.resubscribeNext (h : s.Recovers) {subscriber listener : ℕ}
    {entries : List (ℕ × ℕ)} {info : CommonEventSubscribeInfo} {answer : ServiceAnswer}
    (hentries : s.resubscribing = some ((subscriber, listener) :: entries)) :
    ({ s with
      commonEvent := s.commonEvent.resubscribeNext subscriber listener info answer
      resubscribing := some entries } : ClientProcess).Recovers := by
  have hnodup := h.nodup _ hentries
  rw [List.map_cons, List.nodup_cons] at hnodup
  have hcached := h.remaining subscriber listener ⟨_, hentries, List.mem_cons_self⟩
  obtain ⟨halloc, -, -, hothers⟩ := CommonEvent.resubscribeNext_spec h.allocated hcached
    (show s.commonEvent.resubscribeNext subscriber listener info answer = _ from rfl)
  refine
    { allocated := halloc
      unwatched := fun hlistener => ?_
      told := h.told
      online := h.online
      remaining := fun subscriber' listener' hremains => ?_
      nodup := fun _ hrest => ?_
      down := fun hdown _ _ hun =>
        h.down hdown _ _ (hun.of_resubscribeNext h.allocated hcached).2
      due := fun subscriber' listener' hun => ?_ }
  · have hidle := (h.unwatched hlistener).2.1
    rw [hentries] at hidle
    cases hidle
  · obtain ⟨_, hrest, hmem⟩ := hremains
    cases hrest
    have hne : subscriber' ≠ subscriber := by
      rintro rfl
      exact hnodup.1 (List.mem_map.mpr ⟨_, hmem, rfl⟩)
    rw [hothers subscriber' hne]
    exact h.remaining _ _ ⟨_, hentries, List.mem_cons_of_mem _ hmem⟩
  · cases hrest
    exact hnodup.2
  · obtain ⟨hne, hbefore⟩ := hun.of_resubscribeNext h.allocated hcached
    rcases h.due subscriber' listener' hbefore with ⟨_, hbegun, hmem⟩ | hdue
    · rw [hentries] at hbegun
      cases hbegun
      rcases List.mem_cons.mp hmem with heq | hmem
      · exact absurd (Prod.mk.inj heq).1 hne
      · exact Or.inl ⟨_, rfl, hmem⟩
    · exact Or.inr hdue

/-- **The loop is at its end.** -/
theorem Recovers.resubscribed (h : s.Recovers) (hentries : s.resubscribing = some []) :
    ({ s with resubscribing := none } : ClientProcess).Recovers where
  allocated := h.allocated
  unwatched hlistener := ⟨(h.unwatched hlistener).1, rfl, (h.unwatched hlistener).2.2⟩
  told := h.told
  online := h.online
  remaining _ _ hremains := by
    obtain ⟨_, hnone, -⟩ := hremains
    cases hnone
  nodup _ hnone := by cases hnone
  down := h.down
  due subscriber listener hun := by
    rcases h.due subscriber listener hun with ⟨_, hbegun, hmem⟩ | hdue
    · rw [hentries] at hbegun
      cases hbegun
      cases hmem
    · exact Or.inr hdue

/-- **Every step keeps what is under way.** -/
theorem recovers_step {l : ClientProcessLabel} (h : s.Recovers) (hreliable : s.Reliable l)
    (hstep : s.step l = some t) : t.Recovers := by
  cases does_of_step hstep with
  | call l hasSAManager hl hidle u hu hclient => exact h.call hl hidle hreliable hu
  | serviceDied hup => exact h.serviceDied
  | serviceStarted hdown => exact h.serviceStarted
  | added l notices tries hlistener hnotices =>
    exact h.onAddSystemAbility hlistener hnotices hreliable
  | removed l notices tries hlistener hnotices => exact h.onRemoveSystemAbility l hnotices
  | begins l hasProxy hlistener hidle hqueue => exact h.resubscribe hlistener hreliable
  | turns subscriber listener entries info answer hentries => exact h.resubscribeNext hentries
  | ends info answer hentries => exact h.resubscribed hentries

/-- **A listener is dropped**: its subscriber is unsubscribed, or the service
does not take it anew. -/
def Drops (s : ClientProcess) (subscriber : ℕ) : ClientProcessLabel → Prop
  | .call l _ => l.Unsubscribes subscriber
  | .resubscribeNext _ answer =>
    answer.result ≠ ERR_OK
      ∧ ∃ listener entries, s.resubscribing = some ((subscriber, listener) :: entries)
  | _ => False

/-- **Nothing else takes a listener out of the cache**, a restart included. -/
theorem kept_step {l : ClientProcessLabel} {subscriber listener : ℕ} (hstep : s.step l = some t)
    (hcached : s.commonEvent.eventListeners.lookup subscriber = some listener)
    (hkept : ¬ s.Drops subscriber l) :
    t.commonEvent.eventListeners.lookup subscriber = some listener := by
  cases does_of_step hstep with
  | call l hasSAManager hl hidle u hu hclient => exact CommonEvent.kept_apply hl hcached hkept
  | serviceDied hup => exact hcached
  | serviceStarted hdown =>
    show (s.tell .added).commonEvent.eventListeners.lookup subscriber = some listener
    rw [commonEvent_tell]
    exact hcached
  | added l notices tries hlistener hnotices => exact hcached
  | removed l notices tries hlistener hnotices => exact hcached
  | begins l hasProxy hlistener hidle hqueue => exact hcached
  | turns subscriber' listener' entries info answer hentries =>
    have hdropped : answer.result ≠ ERR_OK → subscriber' ≠ subscriber := by
      rintro hresult rfl
      exact hkept ⟨hresult, listener', entries, hentries⟩
    show (s.commonEvent.resubscribeNext subscriber' listener' info answer).eventListeners.lookup
      subscriber = some listener
    unfold CommonEvent.resubscribeNext
    dsimp only
    split
    next hresult =>
      show ((s.commonEvent.proxySubscribe listener' info answer).forget
        subscriber').eventListeners.lookup subscriber = some listener
      rw [CommonEvent.lookup_forget, if_neg (hdropped hresult).symm,
        CommonEvent.eventListeners_proxySubscribe]
      exact hcached
    next =>
      rw [CommonEvent.eventListeners_proxySubscribe]
      exact hcached
  | ends info answer hentries => exact hcached

/-! ## Sooner or later -/

/-- **All that is under way has come.** -/
structure AtRest (s : ClientProcess) : Prop where
  up : s.isServiceUp = true
  notices : s.notices = []
  queue : ∀ l ∈ s.statusChangeListener, l.queue = 0
  resubscribing : s.resubscribing = none

/-- Every listener in the cache is known to the service that is up. -/
def Acknowledged (s : ClientProcess) : Prop :=
  ∀ subscriber listener, s.commonEvent.eventListeners.lookup subscriber = some listener →
    (s.commonEvent.acknowledged.lookup listener).isSome = true

/-- At rest nothing is unknown to the service. -/
theorem Recovers.acknowledged (h : s.Recovers) (hrest : s.AtRest) : s.Acknowledged := by
  intro subscriber listener hcached
  rw [Option.isSome_iff_ne_none]
  intro hnone
  rcases h.due subscriber listener ⟨hcached, hnone⟩ with ⟨entries, hentries, -⟩ |
    (hremoved | ⟨l, hl, hoffline⟩) | ⟨l, hl, hqueue⟩
  · rw [hrest.resubscribing] at hentries
    cases hentries
  · rw [hrest.notices] at hremoved
    cases hremoved
  · rw [h.online hrest.up hrest.notices l hl] at hoffline
    cases hoffline
  · exact hqueue (hrest.queue l hl)

/-- What is known stays known while the service stays up. -/
theorem Recovers.acknowledged_step (h : s.Recovers) {l : ClientProcessLabel}
    (hreliable : s.Reliable l) (hstep : s.step l = some t) (hup : t.isServiceUp = true)
    (hacked : s.Acknowledged) : t.Acknowledged := by
  have hclient : ∀ u : CommonEvent, t.commonEvent = u →
      (∀ subscriber listener, u.Unacknowledged subscriber listener →
        s.commonEvent.Unacknowledged subscriber listener) → t.Acknowledged := by
    rintro u hu hmono subscriber listener hcached
    rw [Option.isSome_iff_ne_none]
    intro hnone
    rw [hu] at hcached hnone
    obtain ⟨hbefore, hnone'⟩ := hmono subscriber listener ⟨hcached, hnone⟩
    have hack := hacked subscriber listener hbefore
    rw [hnone'] at hack
    cases hack
  cases does_of_step hstep with
  | call l hasSAManager hl hidle u hu =>
    exact hclient _ rfl fun _ _ hun => hun.of_apply h.allocated hl hreliable.1
  | serviceDied => cases hup
  | serviceStarted =>
    exact hclient s.commonEvent (commonEvent_tell .added) fun _ _ hun => hun
  | added l notices tries hlistener hnotices => exact hacked
  | removed l notices tries hlistener hnotices => exact hacked
  | begins l hasProxy hlistener hidle hqueue => exact hacked
  | turns subscriber listener entries info answer hentries =>
    have hcached := h.remaining subscriber listener ⟨_, hentries, List.mem_cons_self⟩
    exact hclient _ rfl fun _ _ hun => (hun.of_resubscribeNext h.allocated hcached).2
  | ends info answer hentries => exact hacked

/-- The tasks that the listener's queue holds. -/
def queued (s : ClientProcess) : ℕ := s.statusChangeListener.elim 0 fun l => l.queue

/-- The turns that the loop has still to take, its end among them. -/
def turnsLeft (s : ClientProcess) : ℕ :=
  s.resubscribing.elim 0 fun entries => entries.length + 1

/-- **While the service stays up** nothing new is told; with nothing to tell
nothing is submitted; and with nothing submitted no loop begins. -/
theorem step_while_up {l : ClientProcessLabel} (hstep : s.step l = some t)
    (hs : s.isServiceUp = true) (ht : t.isServiceUp = true)
    (hwatched : s.statusChangeListener.isSome = true) :
    t.statusChangeListener.isSome = true
      ∧ t.notices.length + l.isNotified.toNat = s.notices.length
      ∧ (s.notices = [] → t.queued + l.isResubscribe.toNat = s.queued)
      ∧ (s.notices = [] → s.queued = 0 →
        t.turnsLeft + l.isResubscribeNext.toNat = s.turnsLeft) := by
  cases does_of_step hstep with
  | call l hasSAManager hl hidle u hu hclient =>
    have heq : u = s := by
      obtain ⟨listener, hlistener⟩ := Option.isSome_iff_exists.mp hwatched
      rw [hu, subscribeSAManager_of_some hlistener, ite_self]
    subst heq
    exact ⟨hwatched, rfl, fun _ => rfl, fun _ _ => rfl⟩
  | serviceDied hup => cases ht
  | serviceStarted hdown =>
    rw [hs] at hdown
    cases hdown
  | added l notices tries hlistener hnotices =>
    have hsome : s.notices ≠ [] := by simp [hnotices]
    refine ⟨rfl, ?_, fun hempty => absurd hempty hsome, fun hempty => absurd hempty hsome⟩
    rw [hnotices]
    rfl
  | removed l notices tries hlistener hnotices =>
    have hsome : s.notices ≠ [] := by simp [hnotices]
    refine ⟨rfl, ?_, fun hempty => absurd hempty hsome, fun hempty => absurd hempty hsome⟩
    rw [hnotices]
    rfl
  | begins l hasProxy hlistener hidle hqueue =>
    have hqueued : s.queued = l.queue := by
      rw [queued, hlistener]
      rfl
    refine ⟨rfl, rfl, fun _ => ?_, fun _ hnone => absurd (hqueued ▸ hnone) hqueue⟩
    rw [hqueued]
    exact Nat.sub_add_cancel (Nat.pos_of_ne_zero hqueue)
  | turns subscriber listener entries info answer hentries =>
    refine ⟨hwatched, rfl, fun _ => rfl, fun _ _ => ?_⟩
    rw [turnsLeft, turnsLeft, hentries]
    rfl
  | ends info answer hentries =>
    refine ⟨hwatched, rfl, fun _ => rfl, fun _ _ => ?_⟩
    rw [turnsLeft, turnsLeft, hentries]
    rfl

/-- What is to be told stays to be told until it is. -/
theorem notices_step {l : ClientProcessLabel} (h : s.Recovers) (hstep : s.step l = some t)
    (hnot : ¬ l.isNotified = true) (hnotices : s.notices ≠ []) : t.notices ≠ [] := by
  cases does_of_step hstep with
  | call l hasSAManager hl hidle u hu hclient =>
    have heq : u = s := by
      cases hlistener : s.statusChangeListener with
      | none => exact absurd (h.unwatched hlistener).1 hnotices
      | some listener => rw [hu, subscribeSAManager_of_some hlistener, ite_self]
    exact heq ▸ hnotices
  | serviceDied hup => exact notices_tell_ne_nil hnotices .removed
  | serviceStarted hdown => exact notices_tell_ne_nil hnotices .added
  | added l notices tries hlistener hnotices => exact absurd rfl hnot
  | removed l notices tries hlistener hnotices => exact absurd rfl hnot
  | begins l hasProxy hlistener hidle hqueue => exact hnotices
  | turns subscriber listener entries info answer hentries => exact hnotices
  | ends info answer hentries => exact hnotices

/-- What is submitted stays submitted until it is run. -/
theorem queued_step {l : ClientProcessLabel} (hstep : s.step l = some t)
    (hnot : ¬ l.isResubscribe = true) (hqueued : s.queued ≠ 0) : t.queued ≠ 0 := by
  obtain ⟨listener, hlistener, hqueue⟩ :
      ∃ listener, s.statusChangeListener = some listener ∧ listener.queue ≠ 0 := by
    unfold queued at hqueued
    cases hlistener : s.statusChangeListener with
    | none => exact absurd (by rw [hlistener]; rfl) hqueued
    | some listener => exact ⟨listener, rfl, by rwa [hlistener] at hqueued⟩
  cases does_of_step hstep with
  | call l hasSAManager hl hidle u hu hclient =>
    have heq : u = s := by rw [hu, subscribeSAManager_of_some hlistener, ite_self]
    exact heq ▸ hqueued
  | serviceDied hup =>
    rw [tell_of_some hlistener]
    exact hqueued
  | serviceStarted hdown =>
    rw [tell_of_some hlistener]
    exact hqueued
  | added l notices tries hl hnotices =>
    obtain rfl := Option.some.inj (hlistener.symm.trans hl)
    exact listener.queue_onAddSystemAbility hqueue tries
  | removed l notices tries hl hnotices =>
    obtain rfl := Option.some.inj (hlistener.symm.trans hl)
    exact hqueue
  | begins l hasProxy hlistener hidle hqueue => exact absurd rfl hnot
  | turns subscriber listener entries info answer hentries => exact hqueued
  | ends info answer hentries => exact hqueued

/-- A loop goes on until it takes a turn. -/
theorem resubscribing_step {l : ClientProcessLabel} (hstep : s.step l = some t)
    (hnot : ¬ l.isResubscribeNext = true) (hloop : s.resubscribing ≠ none) :
    t.resubscribing ≠ none := by
  cases does_of_step hstep with
  | call l hasSAManager hl hidle u hu hclient => exact absurd hidle hloop
  | serviceDied hup =>
    show (s.tell .removed).resubscribing ≠ none
    rw [resubscribing_tell]
    exact hloop
  | serviceStarted hdown =>
    show (s.tell .added).resubscribing ≠ none
    rw [resubscribing_tell]
    exact hloop
  | added l notices tries hlistener hnotices => exact hloop
  | removed l notices tries hlistener hnotices => exact hloop
  | begins l hasProxy hlistener hidle hqueue => exact absurd hidle hloop
  | turns subscriber listener entries info answer hentries => exact absurd rfl hnot
  | ends info answer hentries => exact absurd rfl hnot

/-- **What a client process is owed**: what the manager has to tell is told,
and what the queue holds is run to its end. -/
structure Fair (ρ : clientProcessMachine.EndlessRun) : Prop where
  notified : ∀ n, (ρ.state n).notices ≠ [] → Machine.Later (fun m => (ρ.label m).isNotified) n
  resubscribe : ∀ n, (ρ.state n).queued ≠ 0 →
    Machine.Later (fun m => (ρ.label m).isResubscribe) n
  resubscribeNext : ∀ n, (ρ.state n).resubscribing ≠ none →
    Machine.Later (fun m => (ρ.label m).isResubscribeNext) n

section Runs

variable {ρ : clientProcessMachine.EndlessRun}

theorem recovers_run (hreliable : ∀ n, (ρ.state n).Reliable (ρ.label n)) (n : ℕ) :
    (ρ.state n).Recovers := by
  induction n with
  | zero =>
    rw [ρ.init]
    exact .init
  | succ n ih => exact recovers_step ih (hreliable n) (ρ.step n)

/-- **A run that is at rest again and again owes nothing.** -/
theorem fair_of_atRest (hreliable : ∀ n, (ρ.state n).Reliable (ρ.label n))
    (hrest : ∀ n, Machine.Later (fun m => (ρ.state m).AtRest) n) : Fair ρ := by
  refine ⟨fun n hnotices => ?_, fun n hqueued => ?_, fun n hloop => ?_⟩
  · refine ρ.later_of_leaves (I := fun s => s.notices ≠ []) (fun m _ hne hnot => ?_) hnotices ?_
    · exact notices_step (recovers_run hreliable m) (ρ.step m) hnot hne
    · exact (hrest n).trans fun m _ hrest => .now (not_not.mpr hrest.notices)
  · refine ρ.later_of_leaves (I := fun s => s.queued ≠ 0) (fun m _ hne hnot => ?_) hqueued ?_
    · exact queued_step (ρ.step m) hnot hne
    · refine (hrest n).trans fun m _ hrest => .now (not_not.mpr ?_)
      unfold queued
      cases hlistener : (ρ.state m).statusChangeListener with
      | none => rfl
      | some l => exact hrest.queue l hlistener
  · refine ρ.later_of_leaves (I := fun s => s.resubscribing ≠ none) (fun m _ hne hnot => ?_)
      hloop ?_
    · exact resubscribing_step (ρ.step m) hnot hne
    · exact (hrest n).trans fun m _ hrest => .now (not_not.mpr hrest.resubscribing)

/-- What is in the cache stays in it until it is dropped. -/
theorem cached_run {i k subscriber listener : ℕ} (hik : i ≤ k)
    (hcached : (ρ.state i).commonEvent.eventListeners.lookup subscriber = some listener)
    (hkept : ∀ j, i ≤ j → j < k → ¬ (ρ.state j).Drops subscriber (ρ.label j)) :
    (ρ.state k).commonEvent.eventListeners.lookup subscriber = some listener := by
  induction k, hik using Nat.le_induction with
  | base => exact hcached
  | succ k hik ih =>
    exact kept_step (ρ.step k) (ih fun j hj hlt => hkept j hj (Nat.lt_succ_of_lt hlt))
      (hkept k hik (Nat.lt_succ_self k))

/-- **Where the service stays up, all that is under way comes.** -/
theorem atRest_later (hfair : Fair ρ) {n : ℕ} (hup : ∀ m, n ≤ m → (ρ.state m).isServiceUp = true)
    (hwatched : (ρ.state n).statusChangeListener.isSome = true) :
    Machine.Later (fun m => (ρ.state m).AtRest) n := by
  have hwatched' : ∀ m, n ≤ m → (ρ.state m).statusChangeListener.isSome = true :=
    ρ.stays (I := fun s => s.statusChangeListener.isSome = true)
      (fun m hm hsome => (step_while_up (ρ.step m) (hup m hm) (hup _ (Nat.le_succ_of_le hm))
        hsome).1) hwatched
  have hstep := fun m hm => step_while_up (ρ.step m) (hup m hm) (hup _ (Nat.le_succ_of_le hm))
    (hwatched' m hm)
  -- first all that is to be told
  have hnotices := ρ.later_spent (fun s => s.notices.length) ClientProcessLabel.isNotified
    (fun m hm => (hstep m hm).2.1)
    fun m _ hleft => hfair.notified m fun hnil => hleft (by rw [hnil]; rfl)
  refine hnotices.trans fun i hi hnil => ?_
  have hquiet : ∀ m, i ≤ m → (ρ.state m).notices = [] :=
    fun m hm => List.eq_nil_of_length_eq_zero (hnil m hm)
  -- then all that is submitted
  have hqueue : Machine.Later (fun m => ∀ k, m ≤ k → (ρ.state k).queued = 0) i :=
    ρ.later_spent queued ClientProcessLabel.isResubscribe
      (fun m hm => (hstep m (Nat.le_trans hi hm)).2.2.1 (hquiet m hm))
      fun m _ hleft => hfair.resubscribe m hleft
  refine hqueue.trans fun j hj hidle => ?_
  -- and then the turns of the loop
  have hturns : Machine.Later (fun m => ∀ k, m ≤ k → (ρ.state k).turnsLeft = 0) j :=
    ρ.later_spent turnsLeft ClientProcessLabel.isResubscribeNext
      (fun m hm => (hstep m (Nat.le_trans hi (Nat.le_trans hj hm))).2.2.2
        (hquiet m (Nat.le_trans hj hm)) (hidle m hm))
      fun m _ hleft => hfair.resubscribeNext m fun hnone => hleft (by rw [turnsLeft, hnone]; rfl)
  refine hturns.trans fun k hk hdone => .now ?_
  refine ⟨hup k ?_, hquiet k (Nat.le_trans hj hk), fun l hl => ?_, ?_⟩
  · exact Nat.le_trans hi (Nat.le_trans hj hk)
  · have hzero := hidle k hk
    rw [queued, Option.mem_def.mp hl] at hzero
    exact hzero
  · have hnone := hdone k (Nat.le_refl k)
    cases hloop : (ρ.state k).resubscribing with
    | none => rfl
    | some entries =>
      rw [turnsLeft, hloop] at hnone
      cases hnone

/-- Once the service stays up, sooner or later it knows of every listener in
the cache, and does so from then on. -/
theorem acknowledged_later (hfair : Fair ρ)
    (hreliable : ∀ n, (ρ.state n).Reliable (ρ.label n)) {n : ℕ}
    (hup : ∀ m, n ≤ m → (ρ.state m).isServiceUp = true) :
    Machine.Later (fun m => ∀ k, m ≤ k → (ρ.state k).Acknowledged) n := by
  have hstays : ∀ m, n ≤ m → (ρ.state m).Acknowledged →
      ∀ k, m ≤ k → (ρ.state k).Acknowledged := fun m hm hacked =>
    ρ.stays (fun k hk h => (recovers_run hreliable k).acknowledged_step (hreliable k) (ρ.step k)
      (hup _ (Nat.le_succ_of_le (Nat.le_trans hm hk))) h) hacked
  have hrecovers := recovers_run hreliable n
  cases hlistener : (ρ.state n).statusChangeListener with
  | none =>
    -- nobody has subscribed
    refine .now (hstays n (Nat.le_refl n) fun subscriber listener hcached => ?_)
    rw [(hrecovers.unwatched hlistener).2.2 subscriber] at hcached
    cases hcached
  | some l =>
    refine (atRest_later hfair hup (by rw [hlistener]; rfl)).trans fun m hm hrest => .now ?_
    exact hstays m hm ((recovers_run hreliable m).acknowledged hrest)

/-- **A subscription survives the restarts of the service.** However often the
service dies, once it stays up the client has it know, sooner or later and from
then on, every subscription that is not taken back and not refused. -/
theorem subscriptions_survive (hfair : Fair ρ)
    (hreliable : ∀ n, (ρ.state n).Reliable (ρ.label n)) {n : ℕ}
    (hup : ∀ m, n ≤ m → (ρ.state m).isServiceUp = true) :
    Machine.Later (fun m => ∀ k, m ≤ k → (ρ.state k).Acknowledged
      ∧ ∀ i subscriber listener, i ≤ k →
        (ρ.state i).commonEvent.eventListeners.lookup subscriber = some listener →
        (∀ j, i ≤ j → j < k → ¬ (ρ.state j).Drops subscriber (ρ.label j)) →
        (ρ.state k).commonEvent.eventListeners.lookup subscriber = some listener
          ∧ ((ρ.state k).commonEvent.acknowledged.lookup listener).isSome = true) n := by
  refine (acknowledged_later hfair hreliable hup).trans fun m hm hacked => .now fun k hk => ?_
  refine ⟨hacked k hk, fun i subscriber listener hik hcached hkept => ?_⟩
  have hcached' := cached_run hik hcached hkept
  exact ⟨hcached', hacked k hk subscriber listener hcached'⟩

end Runs

/-- The service dies and is started again after an application has subscribed,
and the client subscribes it anew. -/
def untilResubscribed : List ClientProcessLabel :=
  [.call (.subscribeCommonEvent (some 0) CommonEvent.screenOn {}) true, .notified fun _ => true,
    .serviceDied, .serviceStarted, .notified fun _ => true, .notified fun _ => true,
    .resubscribe true, .resubscribeNext CommonEvent.screenOn {},
    .resubscribeNext CommonEvent.screenOn {}, .call (.unSubscribeCommonEvent none {}) true]

/-- An unsubscription of no subscriber. -/
def unSubscribeNone : ClientProcessLabel := .call (.unSubscribeCommonEvent none {}) true

/-- It changes nothing. -/
theorem step_unSubscribeNone {s : ClientProcess} (hrest : s.AtRest)
    (hreturned : s.commonEvent.returned = none) : s.step unSubscribeNone = some s := by
  obtain ⟨commonEvent, listener, resubscribing, isServiceUp, notices⟩ := s
  obtain ⟨listeners, nextListener, acknowledged, stale, returned⟩ := commonEvent
  obtain rfl : resubscribing = none := hrest.resubscribing
  obtain rfl : isServiceUp = true := hrest.up
  obtain rfl : returned = none := hreturned
  rfl

/-- The subscription is known to the service again, and stays so. -/
theorem subscriptions_survive_untilResubscribed :
    ∃ ρ : clientProcessMachine.EndlessRun, Fair ρ ∧ ρ.label 2 = .serviceDied
      ∧ Machine.Later (fun m => ∀ k, m ≤ k →
        (ρ.state k).commonEvent.eventListeners.lookup 0 = some 0
          ∧ ((ρ.state k).commonEvent.acknowledged.lookup 0).isSome = true) 3 := by
  obtain ⟨s, hs, hstate⟩ := Option.map_eq_some_iff.mp
    (show (clientProcessMachine.run untilResubscribed).map
      (fun s => (s.isServiceUp, s.notices, s.statusChangeListener.map (fun l => l.queue),
        s.resubscribing.isNone, s.commonEvent.returned.isNone))
        = some (true, [], some 0, true, true) by decide +kernel)
  simp only [Prod.mk.injEq] at hstate
  obtain ⟨hup, hnotices, hqueue, hidle, hreturned⟩ := hstate
  have hrest : s.AtRest := by
    refine ⟨hup, hnotices, fun l hl => ?_, Option.isNone_iff_eq_none.mp hidle⟩
    rw [Option.mem_def.mp hl] at hqueue
    exact Option.some.inj hqueue
  have hstep : clientProcessMachine.step s unSubscribeNone = some s :=
    step_unSubscribeNone hrest (Option.isNone_iff_eq_none.mp hreturned)
  let ρ := Machine.EndlessRun.ofRest clientProcessMachine untilResubscribed unSubscribeNone hs hstep
  have hend : ∀ m, untilResubscribed.length ≤ m → ρ.state m = s := fun m hm =>
    Machine.EndlessRun.state_ofRest hs hstep hm
  -- no label of the run relies on anything that it does not find, or drops a listener
  have hlabels : ∀ n (u : ClientProcess), u.Reliable (ρ.label n) ∧ ¬ u.Drops 0 (ρ.label n) := by
    intro n u
    show u.Reliable (untilResubscribed.getD n unSubscribeNone)
      ∧ ¬ u.Drops 0 (untilResubscribed.getD n unSubscribeNone)
    rcases n with _ | _ | _ | _ | _ | _ | _ | _ | _ | _ | n <;>
      simp [untilResubscribed, unSubscribeNone, Reliable, CommonEvent.PublishFinds, reconnect,
        MAX_RETRY_TIME, ClientLabel.subscribesSAManager, Drops, ClientLabel.Unsubscribes,
        ServiceAnswer.result]
    all_goals exact fun _ => ⟨0, by decide⟩
  have hreliable : ∀ n, (ρ.state n).Reliable (ρ.label n) := fun n => (hlabels n _).1
  have hfair : Fair ρ := by
    refine fair_of_atRest hreliable fun n =>
      ⟨n + untilResubscribed.length, Nat.le_add_right _ _, ?_⟩
    show (ρ.state (n + untilResubscribed.length)).AtRest
    rw [hend _ (Nat.le_add_left _ _)]
    exact hrest
  obtain ⟨u, hu, hcached⟩ := Option.map_eq_some_iff.mp
    (show (clientProcessMachine.run (untilResubscribed.take 1)).map
      (fun u => u.commonEvent.eventListeners.lookup 0) = some (some 0) by decide +kernel)
  have hfirst : ρ.state 1 = u := by
    show (clientProcessMachine.run (untilResubscribed.take 1)).getD s = u
    rw [hu, Option.getD_some]
  refine ⟨ρ, hfair, rfl, ?_⟩
  obtain ⟨m, hm, hsurvive⟩ := subscriptions_survive hfair hreliable
    (n := untilResubscribed.length) fun m hm => by rw [hend m hm]; exact hup
  refine ⟨m, Nat.le_trans (by decide) hm, fun k hk => ?_⟩
  exact (hsurvive k hk).2 1 0 0 (Nat.le_trans (Nat.le_trans (by decide) hm) hk)
    (by rw [hfirst]; exact hcached) fun j _ _ => (hlabels j _).2

end ClientProcess

end CommonEventService

import CommonEventService.CommonEvent

/-!
# The listener cache

Is a subscriber that has a listener subscribed, and does a subscribing call
return `ERR_OK` only for a subscription the service has acknowledged?

Two calls go against it. A publication with a result subscriber makes a
listener that is never subscribed, and leaves it in the cache; and an update
of a subscription is judged by the transport alone. `CachesSubscribed`
is what a call has to meet for neither to happen, and a run whose every call
meets it is a run that keeps `CacheSound`.
-/

namespace CommonEventService

namespace CommonEvent

variable {s t : CommonEvent}

/-- What the service is known to have acknowledged for a listener. -/
def held (s : CommonEvent) (listener : ℕ) : Option CommonEventSubscribeInfo :=
  (s.acknowledged.lookup listener).or (s.stale.lookup listener)

/-- **A subscriber in the cache is subscribed, and a call that returned
`ERR_OK` left it subscribed as required.** -/
structure CacheSound (s : CommonEvent) : Prop where
  cached : ∀ subscriber listener, s.eventListeners.lookup subscriber = some listener →
    (s.held listener).isSome
  returned : ∀ call, s.returned = some call → call.result = ERR_OK →
    ∃ listener info, s.eventListeners.lookup call.subscriber = some listener
      ∧ s.held listener = some info ∧ ∀ required, call.required = some required → info = required

/-! ## Listeners are not used again -/

/-- The listeners are all from the allocator, and none has two subscribers. -/
structure Allocated (s : CommonEvent) : Prop where
  cached : ∀ subscriber listener, s.eventListeners.lookup subscriber = some listener →
    listener < s.nextListener
  held : ∀ listener, (s.held listener).isSome → listener < s.nextListener
  injective : ∀ subscriber subscriber' listener,
    s.eventListeners.lookup subscriber = some listener →
    s.eventListeners.lookup subscriber' = some listener → subscriber = subscriber'

theorem Allocated.init : ({} : CommonEvent).Allocated := ⟨nofun, nofun, nofun⟩

/-- The next listener has nothing acknowledged. -/
theorem Allocated.held_next (h : s.Allocated) : s.held s.nextListener = none := by
  by_contra hheld
  exact absurd (h.held s.nextListener (Option.isSome_iff_ne_none.mpr hheld)) (Nat.lt_irrefl _)

/-! ## What the parts of a call do -/

/-- A listener is made for a subscriber. -/
def created (s : CommonEvent) (subscriber : ℕ) : CommonEvent :=
  { s with
    eventListeners := s.eventListeners.insert subscriber s.nextListener
    nextListener := s.nextListener + 1 }

/-- The listener of a subscriber is dropped. -/
def forget (s : CommonEvent) (subscriber : ℕ) : CommonEvent :=
  { s with eventListeners := s.eventListeners.erase subscriber }

theorem lookup_created (subscriber subscriber' : ℕ) :
    (s.created subscriber).eventListeners.lookup subscriber'
      = if subscriber' = subscriber then some s.nextListener
        else s.eventListeners.lookup subscriber' :=
  Dict.lookup_insert_ite _ _ _ _

theorem lookup_forget (subscriber subscriber' : ℕ) :
    (s.forget subscriber).eventListeners.lookup subscriber'
      = if subscriber' = subscriber then none else s.eventListeners.lookup subscriber' :=
  Dict.lookup_erase_ite _ _ _

@[simp] theorem eventListeners_proxySubscribe (listener : ℕ) (info : CommonEventSubscribeInfo)
    (answer : ServiceAnswer) :
    (s.proxySubscribe listener info answer).eventListeners = s.eventListeners := by
  unfold proxySubscribe
  split <;> rfl

@[simp] theorem nextListener_proxySubscribe (listener : ℕ) (info : CommonEventSubscribeInfo)
    (answer : ServiceAnswer) :
    (s.proxySubscribe listener info answer).nextListener = s.nextListener := by
  unfold proxySubscribe
  split <;> rfl

@[simp] theorem eventListeners_proxyUnsubscribe (listener : ℕ) (answer : ServiceAnswer) :
    (s.proxyUnsubscribe listener answer).eventListeners = s.eventListeners := by
  unfold proxyUnsubscribe
  split <;> rfl

@[simp] theorem nextListener_proxyUnsubscribe (listener : ℕ) (answer : ServiceAnswer) :
    (s.proxyUnsubscribe listener answer).nextListener = s.nextListener := by
  unfold proxyUnsubscribe
  split <;> rfl

/-- **A subscription, acknowledged or not.** -/
theorem held_proxySubscribe (listener listener' : ℕ) (info : CommonEventSubscribeInfo)
    (answer : ServiceAnswer) :
    (s.proxySubscribe listener info answer).held listener'
      = if listener' = listener ∧ answer.isAcknowledged = true then some info
        else s.held listener' := by
  unfold proxySubscribe held
  cases answer.isAcknowledged with
  | false => simp
  | true =>
    simp only [if_true, and_true, Dict.lookup_insert_ite]
    split <;> rfl

/-- **An unsubscription, acknowledged or not.** -/
theorem held_proxyUnsubscribe (listener listener' : ℕ) (answer : ServiceAnswer) :
    (s.proxyUnsubscribe listener answer).held listener'
      = if listener' = listener ∧ answer.isAcknowledged = true then none
        else s.held listener' := by
  unfold proxyUnsubscribe held
  cases answer.isAcknowledged with
  | false => simp
  | true =>
    simp only [if_true, and_true, Dict.lookup_erase_ite]
    split <;> rfl

/-- A subscription takes nothing back. -/
theorem isSome_held_proxySubscribe {listener' : ℕ} (listener : ℕ)
    (info : CommonEventSubscribeInfo) (answer : ServiceAnswer) (h : (s.held listener').isSome) :
    ((s.proxySubscribe listener info answer).held listener').isSome := by
  rw [held_proxySubscribe]
  split
  · rfl
  · exact h

namespace Allocated

theorem created {subscriber : ℕ} (h : s.Allocated) : (s.created subscriber).Allocated := by
  refine ⟨?_, ?_, ?_⟩
  · intro subscriber' listener hlookup
    rw [lookup_created] at hlookup
    split at hlookup
    · cases hlookup
      exact Nat.lt_succ_self _
    · exact Nat.lt_succ_of_lt (h.cached subscriber' listener hlookup)
  · intro listener hheld
    exact Nat.lt_succ_of_lt (h.held listener hheld)
  · intro subscriber₁ subscriber₂ listener h₁ h₂
    rw [lookup_created] at h₁ h₂
    split at h₁ <;> split at h₂
    next heq₁ heq₂ => rw [heq₁, heq₂]
    next heq₁ hne₂ =>
      cases h₁
      exact absurd (h.cached subscriber₂ _ h₂) (Nat.lt_irrefl _)
    next hne₁ heq₂ =>
      cases h₂
      exact absurd (h.cached subscriber₁ _ h₁) (Nat.lt_irrefl _)
    next hne₁ hne₂ => exact h.injective subscriber₁ subscriber₂ listener h₁ h₂

theorem forget {subscriber : ℕ} (h : s.Allocated) : (s.forget subscriber).Allocated := by
  have hkept : ∀ subscriber' listener,
      (s.forget subscriber).eventListeners.lookup subscriber' = some listener →
      s.eventListeners.lookup subscriber' = some listener := by
    intro subscriber' listener hlookup
    rw [lookup_forget] at hlookup
    split at hlookup
    · cases hlookup
    · exact hlookup
  refine ⟨fun subscriber' listener hlookup => ?_, h.held, ?_⟩
  · exact h.cached subscriber' listener (hkept _ _ hlookup)
  · intro subscriber₁ subscriber₂ listener h₁ h₂
    exact h.injective subscriber₁ subscriber₂ listener (hkept _ _ h₁) (hkept _ _ h₂)

theorem proxySubscribe {listener : ℕ} {info : CommonEventSubscribeInfo} {answer : ServiceAnswer}
    (h : s.Allocated) (hlt : listener < s.nextListener) :
    (s.proxySubscribe listener info answer).Allocated := by
  refine ⟨?_, ?_, ?_⟩
  · simpa using h.cached
  · intro listener' hheld
    rw [held_proxySubscribe] at hheld
    rw [nextListener_proxySubscribe]
    split at hheld
    next heq => exact heq.1 ▸ hlt
    next => exact h.held listener' hheld
  · simpa using h.injective

theorem proxyUnsubscribe {listener : ℕ} {answer : ServiceAnswer} (h : s.Allocated) :
    (s.proxyUnsubscribe listener answer).Allocated := by
  refine ⟨?_, ?_, ?_⟩
  · simpa using h.cached
  · intro listener' hheld
    rw [held_proxyUnsubscribe] at hheld
    rw [nextListener_proxyUnsubscribe]
    split at hheld
    · cases hheld
    · exact h.held listener' hheld
  · simpa using h.injective

end Allocated

/-! ## A listener is made, or not -/

/-- `CreateCommonEventListener` makes a listener. -/
def Creates (s : CommonEvent) (subscriber : Option ℕ) (hasMemory : Bool) : Prop :=
  ∃ new, subscriber = some new ∧ s.eventListeners.lookup new = none
    ∧ s.eventListeners.entries.length ≠ SUBSCRIBER_MAX_SIZE ∧ hasMemory = true

/-- **What `CreateCommonEventListener` does**: it makes a listener, or changes
nothing. -/
theorem createCommonEventListener_cases (subscriber : Option ℕ) (hasMemory : Bool) :
    (∃ new, subscriber = some new ∧ s.Creates subscriber hasMemory
      ∧ s.createCommonEventListener subscriber hasMemory
        = (.INITIAL_SUBSCRIPTION, some s.nextListener, s.created new))
    ∨ (∃ known listener, subscriber = some known ∧ ¬ s.Creates subscriber hasMemory
      ∧ s.eventListeners.lookup known = some listener
      ∧ s.createCommonEventListener subscriber hasMemory
        = (.ALREADY_SUBSCRIBED, some listener, s))
    ∨ (¬ s.Creates subscriber hasMemory
      ∧ (s.createCommonEventListener subscriber hasMemory = (.SUBSCRIBE_EXCEED_LIMIT, none, s)
        ∨ s.createCommonEventListener subscriber hasMemory = (.SUBSCRIBE_FAILED, none, s))) := by
  cases subscriber with
  | none => exact .inr (.inr ⟨nofun, .inr rfl⟩)
  | some subscriber =>
    cases hlookup : s.eventListeners.lookup subscriber with
    | some listener =>
      refine .inr (.inl ⟨subscriber, listener, rfl, ?_, hlookup, ?_⟩)
      · rintro ⟨new, hnew, hnone, -⟩
        cases hnew
        rw [hlookup] at hnone
        cases hnone
      · simp [createCommonEventListener, hlookup]
    | none =>
      by_cases hlength : s.eventListeners.entries.length = SUBSCRIBER_MAX_SIZE
      · refine .inr (.inr ⟨?_, .inl ?_⟩)
        · rintro ⟨new, -, -, hne, -⟩
          exact hne hlength
        · simp [createCommonEventListener, hlookup, hlength]
      · cases hasMemory with
        | true =>
          refine .inl ⟨subscriber, rfl, ⟨subscriber, rfl, hlookup, hlength, rfl⟩, ?_⟩
          simp [createCommonEventListener, created, hlookup, hlength]
        | false =>
          refine .inr (.inr ⟨nofun, .inr ?_⟩)
          simp [createCommonEventListener, hlookup, hlength]

/-! ## Publishing -/

/-- A publication makes a listener for its result subscriber. -/
def PublishCreates (s : CommonEvent) (data : CommonEventData)
    (publishInfo : CommonEventPublishInfo) (subscriber : Option ℕ) (env : ClientEnv) : Prop :=
  data.want.action ≠ "" ∧ publishInfo.ordered = true ∧ s.Creates subscriber env.hasMemory

/-- **What a publication does to the cache**: it makes a listener, whether or
not there is a service to publish to, or changes nothing. -/
theorem publishParameterCheck_cases (data : CommonEventData)
    (publishInfo : CommonEventPublishInfo) (subscriber : Option ℕ) (env : ClientEnv) :
    (∃ new, subscriber = some new ∧ s.PublishCreates data publishInfo subscriber env
      ∧ s.publishParameterCheck data publishInfo subscriber env.hasMemory = (true, s.created new))
    ∨ (¬ s.PublishCreates data publishInfo subscriber env
      ∧ (s.publishParameterCheck data publishInfo subscriber env.hasMemory).2 = s) := by
  unfold publishParameterCheck
  by_cases haction : data.want.action = ""
  · refine .inr ⟨fun h => h.1 haction, ?_⟩
    rw [if_pos haction]
  · rw [if_neg haction]
    cases subscriber with
    | none =>
      refine .inr ⟨?_, by simp⟩
      rintro ⟨-, -, new, hnew, -⟩
      cases hnew
    | some subscriber =>
      cases hordered : publishInfo.ordered with
      | false =>
        refine .inr ⟨?_, by simp⟩
        rintro ⟨-, hordered', -⟩
        rw [hordered] at hordered'
        cases hordered'
      | true =>
        obtain ⟨new, hnew, hcreates, heq⟩ | ⟨known, listener, -, hcreates, -, heq⟩
          | ⟨hcreates, heq | heq⟩ :=
          s.createCommonEventListener_cases (some subscriber) env.hasMemory
        · refine .inl ⟨new, hnew, ⟨haction, hordered, hcreates⟩, ?_⟩
          simp [heq]
        all_goals
          refine .inr ⟨fun h => hcreates h.2.2, ?_⟩
          simp [heq]

theorem publishCommonEvent_snd (data : CommonEventData) (publishInfo : CommonEventPublishInfo)
    (subscriber : Option ℕ) (env : ClientEnv) :
    (s.publishCommonEvent data publishInfo subscriber env).2
      = (s.publishParameterCheck data publishInfo subscriber env.hasMemory).2 := by
  unfold publishCommonEvent
  split
  next h => rw [h]
  next h =>
    rw [h]
    split <;> rfl

theorem publishCommonEventAsUser_snd (data : CommonEventData)
    (publishInfo : CommonEventPublishInfo) (subscriber : Option ℕ) (env : ClientEnv) :
    (s.publishCommonEventAsUser data publishInfo subscriber env).2
      = (s.publishParameterCheck data publishInfo subscriber env.hasMemory).2 := by
  unfold publishCommonEventAsUser
  split
  next h => rw [h]
  next h =>
    rw [h]
    split <;> rfl

/-- The listener a publication makes has no subscription. -/
theorem not_cacheSound_created (h : s.Allocated) (new : ℕ) :
    ¬ (s.created new).quiet.CacheSound := by
  intro hsound
  have hheld : (s.held s.nextListener).isSome :=
    hsound.cached new s.nextListener ((lookup_created new new).trans (if_pos rfl))
  rw [h.held_next] at hheld
  cases hheld

theorem Allocated.quiet (h : s.Allocated) : s.quiet.Allocated := ⟨h.cached, h.held, h.injective⟩

theorem CacheSound.quiet (h : s.CacheSound) : s.quiet.CacheSound := ⟨h.cached, nofun⟩

theorem Allocated.publishParameterCheck (h : s.Allocated) (data : CommonEventData)
    (publishInfo : CommonEventPublishInfo) (subscriber : Option ℕ) (env : ClientEnv) :
    (s.publishParameterCheck data publishInfo subscriber env.hasMemory).2.Allocated := by
  obtain ⟨new, -, -, heq⟩ | ⟨-, heq⟩ :=
    s.publishParameterCheck_cases data publishInfo subscriber env
  · rw [heq]
    exact h.created
  · rw [heq]
    exact h

/-- **A publication keeps the cache sound exactly if it makes no listener.** -/
theorem publishParameterCheck_sound (hsound : s.CacheSound) (halloc : s.Allocated)
    (data : CommonEventData) (publishInfo : CommonEventPublishInfo) (subscriber : Option ℕ)
    (env : ClientEnv) :
    (s.publishParameterCheck data publishInfo subscriber env.hasMemory).2.quiet.CacheSound
      ↔ ¬ s.PublishCreates data publishInfo subscriber env := by
  obtain ⟨new, -, hcreates, heq⟩ | ⟨hcreates, heq⟩ :=
    s.publishParameterCheck_cases data publishInfo subscriber env
  · rw [heq]
    exact iff_of_false (not_cacheSound_created halloc new) (not_not.mpr hcreates)
  · rw [heq]
    exact iff_of_true hsound.quiet hcreates

/-! ## Subscribing -/

/-- An update of a subscription that the service turns down while the
transport returns `ERR_OK`. -/
def UpdateRefused (s : CommonEvent) (subscriber : Option ℕ) (info : CommonEventSubscribeInfo)
    (env : ClientEnv) : Prop :=
  ∃ known listener, subscriber = some known ∧ s.eventListeners.lookup known = some listener
    ∧ info.getEvents.length ≠ 0 ∧ env.hasProxy = true ∧ env.answer.res = ERR_OK
    ∧ env.answer.funcResult ≠ ERR_OK ∧ s.held listener ≠ some info

/-- A listener dropped right after it was made leaves nothing behind. -/
theorem forget_created {subscriber : ℕ} (h : s.eventListeners.lookup subscriber = none) :
    (s.created subscriber).forget subscriber = { s with nextListener := s.nextListener + 1 } := by
  unfold created forget
  rw [Dict.erase_insert, Dict.erase_of_lookup_none h]

theorem proxySubscribe_of_not {listener : ℕ} {info : CommonEventSubscribeInfo}
    {answer : ServiceAnswer} (h : answer.result ≠ ERR_OK) :
    s.proxySubscribe listener info answer = s := by
  rw [ne_eq, answer.result_eq_iff] at h
  exact if_neg h

/-- A subscribing call on a subscriber that has a listener. -/
theorem checkAndSubscribe_of_known {known listener : ℕ} {info : CommonEventSubscribeInfo}
    {env : ClientEnv} (hlookup : s.eventListeners.lookup known = some listener)
    (hevents : info.getEvents.length ≠ 0) (hproxy : env.hasProxy = true) (isUpdate : Bool) :
    s.checkAndSubscribe (some known) info isUpdate env
      = if isUpdate then
          (if env.answer.res ≠ ERR_OK then ERR_NOTIFICATION_CES_COMMON_PARAM_INVALID else ERR_OK,
            s.proxySubscribe listener info env.answer)
        else (ERR_OK, s) := by
  simp [checkAndSubscribe, hevents, hproxy, subscribeOrUpdate, createCommonEventListener, hlookup]

/-- **What a subscribing call does**: it fails; or it makes a subscription; or
it finds one, and updates it or not. -/
theorem checkAndSubscribe_cases (subscriber : Option ℕ) (info : CommonEventSubscribeInfo)
    (isUpdate : Bool) (env : ClientEnv) :
    ((s.checkAndSubscribe subscriber info isUpdate env).1 ≠ ERR_OK
      ∧ ∃ nextListener, s.nextListener ≤ nextListener
        ∧ (s.checkAndSubscribe subscriber info isUpdate env).2
          = { s with nextListener := nextListener })
    ∨ (∃ new, subscriber = some new ∧ s.eventListeners.lookup new = none
      ∧ env.answer.isAcknowledged = true
      ∧ s.checkAndSubscribe subscriber info isUpdate env
        = (ERR_OK, (s.created new).proxySubscribe s.nextListener info env.answer))
    ∨ (∃ known listener, subscriber = some known
      ∧ s.eventListeners.lookup known = some listener
      ∧ info.getEvents.length ≠ 0 ∧ env.hasProxy = true
      ∧ s.checkAndSubscribe subscriber info isUpdate env
        = if isUpdate then
            (if env.answer.res ≠ ERR_OK then ERR_NOTIFICATION_CES_COMMON_PARAM_INVALID else ERR_OK,
              s.proxySubscribe listener info env.answer)
          else (ERR_OK, s)) := by
  have hfailed : ∀ code : Int, code ≠ ERR_OK →
      s.checkAndSubscribe subscriber info isUpdate env = (code, s) →
      (s.checkAndSubscribe subscriber info isUpdate env).1 ≠ ERR_OK
        ∧ ∃ nextListener, s.nextListener ≤ nextListener
          ∧ (s.checkAndSubscribe subscriber info isUpdate env).2
            = { s with nextListener := nextListener } := by
    intro code hcode heq
    rw [heq]
    exact ⟨hcode, s.nextListener, le_refl _, rfl⟩
  -- the checks come in the order of the code, each with its own error
  cases subscriber with
  | none => exact .inl (hfailed ERR_NOTIFICATION_CES_COMMON_PARAM_INVALID (by decide) rfl)
  | some subscriber =>
    by_cases hevents : info.getEvents.length = 0
    · refine .inl (hfailed ERR_NOTIFICATION_CES_COMMON_PARAM_INVALID (by decide) ?_)
      simp only [checkAndSubscribe, hevents, if_true]
    cases hproxy : env.hasProxy with
    | false =>
      refine .inl (hfailed ERR_NOTIFICATION_CESM_ERROR (by decide) ?_)
      simp [checkAndSubscribe, hevents, hproxy]
    | true =>
      have hcall : s.checkAndSubscribe (some subscriber) info isUpdate env
          = s.subscribeOrUpdate subscriber info isUpdate env := by
        simp [checkAndSubscribe, hevents, hproxy]
      obtain ⟨new, hnew, hcreates, heq⟩ | ⟨known, listener, hknown, -, hlookup, heq⟩
        | ⟨-, heq | heq⟩ := s.createCommonEventListener_cases (some subscriber) env.hasMemory
      · cases hnew
        -- a new listener: it is dropped again if the service did not acknowledge it
        obtain ⟨new, hnew, hnone, -, -⟩ := hcreates
        cases hnew
        by_cases hresult : env.answer.result = ERR_OK
        · refine .inr (.inl ⟨subscriber, rfl, hnone, env.answer.result_eq_iff.mp hresult, ?_⟩)
          simp [hcall, subscribeOrUpdate, heq, hresult]
        · have hdropped : s.subscribeOrUpdate subscriber info isUpdate env
              = (env.answer.result, { s with nextListener := s.nextListener + 1 }) := by
            rw [← forget_created hnone]
            simp [subscribeOrUpdate, heq, hresult, proxySubscribe_of_not, forget]
          refine .inl ?_
          rw [hcall, hdropped]
          exact ⟨hresult, s.nextListener + 1, Nat.le_succ _, rfl⟩
      · cases hknown
        refine .inr (.inr ⟨subscriber, listener, rfl, hlookup, hevents, rfl, ?_⟩)
        exact checkAndSubscribe_of_known hlookup hevents hproxy isUpdate
      · refine .inl (hfailed ERR_NOTIFICATION_CES_SUBSCRIBE_EXCEED_LIMIT (by decide) ?_)
        rw [hcall, subscribeOrUpdate, heq]
      · refine .inl (hfailed ERR_NOTIFICATION_CES_COMMON_SYSTEMCAP_NOT_SUPPORT (by decide) ?_)
        rw [hcall, subscribeOrUpdate, heq]

/-- A call that failed left the cache as it was. -/
theorem CacheSound.noteReturn_failed (hsound : s.CacheSound) {subscriber : Option ℕ}
    {required : Option CommonEventSubscribeInfo} {call : Int × CommonEvent} {nextListener : ℕ}
    (hcall : call.1 ≠ ERR_OK) (ht : call.2 = { s with nextListener := nextListener }) :
    (noteReturn subscriber required call).CacheSound := by
  refine ⟨?_, ?_⟩
  · show ∀ subscriber listener, call.2.eventListeners.lookup subscriber = some listener →
      (call.2.held listener).isSome
    rw [ht]
    exact hsound.cached
  · intro made hmade hresult
    obtain ⟨subscriber', -, rfl⟩ := Option.map_eq_some_iff.mp hmade
    exact absurd hresult hcall

/-- A call on a subscriber whose listener is subscribed left the cache sound
exactly if it failed, or the subscription is the required one. -/
theorem cacheSound_noteReturn_iff {subscriber listener : ℕ}
    {required : Option CommonEventSubscribeInfo} {call : Int × CommonEvent}
    {held : CommonEventSubscribeInfo}
    (hcached : ∀ subscriber listener, call.2.eventListeners.lookup subscriber = some listener →
      (call.2.held listener).isSome)
    (hlookup : call.2.eventListeners.lookup subscriber = some listener)
    (hheld : call.2.held listener = some held) :
    (noteReturn (some subscriber) required call).CacheSound
      ↔ (call.1 = ERR_OK → ∀ info, required = some info → held = info) := by
  constructor
  · intro hsound hresult info hinfo
    obtain ⟨listener', info', hlookup', hheld', hrequired⟩ :=
      hsound.returned ⟨subscriber, required, call.1⟩ rfl hresult
    obtain rfl : listener = listener' := Option.some.inj (hlookup.symm.trans hlookup')
    obtain rfl : held = info' := Option.some.inj (hheld.symm.trans hheld')
    exact hrequired info hinfo
  · intro hrequired
    refine ⟨hcached, ?_⟩
    intro made hmade hresult
    cases hmade
    exact ⟨listener, held, hlookup, hheld, hrequired hresult⟩

theorem Allocated.noteReturn {subscriber : Option ℕ} {required : Option CommonEventSubscribeInfo}
    {call : Int × CommonEvent} (h : call.2.Allocated) :
    (noteReturn subscriber required call).Allocated := ⟨h.cached, h.held, h.injective⟩

/-- A subscribing call uses listeners from the allocator. -/
theorem Allocated.checkAndSubscribe (h : s.Allocated) (subscriber : Option ℕ)
    (info : CommonEventSubscribeInfo) (isUpdate : Bool) (env : ClientEnv) :
    (s.checkAndSubscribe subscriber info isUpdate env).2.Allocated := by
  obtain ⟨-, nextListener, hle, heq⟩ | ⟨new, -, -, -, heq⟩
    | ⟨known, listener, -, hlookup, -, -, heq⟩ :=
    s.checkAndSubscribe_cases subscriber info isUpdate env
  · rw [heq]
    exact ⟨fun _ _ hlookup => Nat.lt_of_lt_of_le (h.cached _ _ hlookup) hle,
      fun _ hheld => Nat.lt_of_lt_of_le (h.held _ hheld) hle, h.injective⟩
  · rw [heq]
    exact h.created.proxySubscribe (Nat.lt_succ_self _)
  · rw [heq]
    split
    · exact h.proxySubscribe (h.cached known listener hlookup)
    · exact h

theorem updateRefused_iff {known listener : ℕ} {info : CommonEventSubscribeInfo} {env : ClientEnv}
    (hlookup : s.eventListeners.lookup known = some listener)
    (hevents : info.getEvents.length ≠ 0) (hproxy : env.hasProxy = true) :
    s.UpdateRefused (some known) info env
      ↔ env.answer.res = ERR_OK ∧ env.answer.funcResult ≠ ERR_OK
        ∧ s.held listener ≠ some info := by
  constructor
  · rintro ⟨known', listener', hknown, hlookup', -, -, hres, hfunc, hheld⟩
    cases hknown
    obtain rfl : listener = listener' := Option.some.inj (hlookup.symm.trans hlookup')
    exact ⟨hres, hfunc, hheld⟩
  · rintro ⟨hres, hfunc, hheld⟩
    exact ⟨known, listener, rfl, hlookup, hevents, hproxy, hres, hfunc, hheld⟩

/-- **A subscribing call keeps the cache sound exactly if it is no update that
is refused.** -/
theorem checkAndSubscribe_sound (hsound : s.CacheSound) (subscriber : Option ℕ)
    (info : CommonEventSubscribeInfo) (isUpdate : Bool) (env : ClientEnv) :
    (noteReturn subscriber (if isUpdate then some info else none)
        (s.checkAndSubscribe subscriber info isUpdate env)).CacheSound
      ↔ ¬ (isUpdate = true ∧ s.UpdateRefused subscriber info env) := by
  obtain ⟨hfailed, nextListener, -, heq⟩ | ⟨new, rfl, hnone, hack, heq⟩
    | ⟨known, listener, rfl, hlookup, hevents, hproxy, heq⟩ :=
    s.checkAndSubscribe_cases subscriber info isUpdate env
  · -- the call failed, and an update that is refused does not fail
    refine iff_of_true (hsound.noteReturn_failed hfailed heq) ?_
    rintro ⟨rfl, known, listener, rfl, hlookup, hevents, hproxy, hres, -, -⟩
    rw [checkAndSubscribe_of_known hlookup hevents hproxy, if_pos rfl, if_neg (not_not.mpr hres)]
      at hfailed
    exact hfailed rfl
  · refine iff_of_true ?_ ?_
    · rw [heq]
      have hheld : ((s.created new).proxySubscribe s.nextListener info env.answer).held
          s.nextListener = some info := by
        rw [held_proxySubscribe, if_pos ⟨rfl, hack⟩]
      refine (cacheSound_noteReturn_iff ?_ ?_ hheld).mpr ?_
      · intro subscriber listener hlookup
        rw [eventListeners_proxySubscribe, lookup_created] at hlookup
        split at hlookup
        · cases hlookup
          rw [hheld]
          rfl
        · exact isSome_held_proxySubscribe _ _ _ (hsound.cached subscriber listener hlookup)
      · rw [eventListeners_proxySubscribe, lookup_created, if_pos rfl]
      · intro _ required hrequired
        split at hrequired
        · exact Option.some.inj hrequired
        · cases hrequired
    · rintro ⟨-, known, listener, hknown, hlookup, -⟩
      cases hknown
      rw [hnone] at hlookup
      cases hlookup
  · -- the subscriber is known: only an update asks the service
    obtain ⟨held, hheld⟩ := Option.isSome_iff_exists.mp (hsound.cached known listener hlookup)
    rw [heq]
    cases isUpdate with
    | false =>
      refine iff_of_true ?_ (by simp)
      exact (cacheSound_noteReturn_iff hsound.cached hlookup hheld).mpr nofun
    | true =>
      have hcached : ∀ subscriber' listener',
          (s.proxySubscribe listener info env.answer).eventListeners.lookup subscriber'
            = some listener' →
          ((s.proxySubscribe listener info env.answer).held listener').isSome := by
        intro subscriber' listener' hlookup'
        rw [eventListeners_proxySubscribe] at hlookup'
        exact isSome_held_proxySubscribe _ _ _ (hsound.cached subscriber' listener' hlookup')
      have hlookup' : (s.proxySubscribe listener info env.answer).eventListeners.lookup known
          = some listener := by rw [eventListeners_proxySubscribe, hlookup]
      obtain ⟨held', hheld'⟩ := Option.isSome_iff_exists.mp (hcached known listener hlookup')
      refine (cacheSound_noteReturn_iff hcached hlookup' hheld').trans ?_
      rw [held_proxySubscribe, hheld] at hheld'
      rw [updateRefused_iff hlookup hevents hproxy, hheld]
      -- the transaction went through, and the service may still have refused
      by_cases hres : env.answer.res = ERR_OK
      · by_cases hfunc : env.answer.funcResult = ERR_OK
        · have hack : env.answer.isAcknowledged = true := by
            simp [ServiceAnswer.isAcknowledged, hres, hfunc]
          rw [if_pos ⟨rfl, hack⟩] at hheld'
          refine iff_of_true (fun _ required hrequired => ?_) (fun hrefused => hrefused.2.2.1 hfunc)
          exact Option.some.inj (hheld'.symm.trans hrequired)
        · have hack : ¬ env.answer.isAcknowledged = true := by
            simp [ServiceAnswer.isAcknowledged, hfunc]
          rw [if_neg (fun h => hack h.2)] at hheld'
          cases hheld'
          simp [hres, hfunc]
      · refine iff_of_true (fun hresult => ?_) (fun hrefused => hres hrefused.2.1)
        have hcode : ERR_NOTIFICATION_CES_COMMON_PARAM_INVALID = ERR_OK := by
          simpa [hres] using hresult
        cases hcode

/-! ## Unsubscribing -/

/-- **What an unsubscribing call does**: it changes nothing, or drops a
listener whose unsubscription is acknowledged. -/
theorem checkAndUnsubscribe_cases (subscriber : Option ℕ) (env : ClientEnv) :
    (s.checkAndUnsubscribe subscriber env).2 = s
    ∨ ∃ known listener, s.eventListeners.lookup known = some listener
      ∧ (s.checkAndUnsubscribe subscriber env).2
        = (s.proxyUnsubscribe listener env.answer).forget known := by
  cases subscriber with
  | none => exact .inl rfl
  | some subscriber =>
    cases hproxy : env.hasProxy with
    | false =>
      refine .inl ?_
      simp [checkAndUnsubscribe, hproxy]
    | true =>
      cases hlookup : s.eventListeners.lookup subscriber with
      | none =>
        refine .inl ?_
        simp [checkAndUnsubscribe, hproxy, hlookup]
      | some listener =>
        by_cases hresult : env.answer.result = ERR_OK
        · refine .inr ⟨subscriber, listener, hlookup, ?_⟩
          simp [checkAndUnsubscribe, hproxy, hlookup, hresult, forget]
        · refine .inl ?_
          have hack : ¬ env.answer.isAcknowledged = true :=
            fun h => hresult (env.answer.result_eq_iff.mpr h)
          simp [checkAndUnsubscribe, hproxy, hlookup, hresult, proxyUnsubscribe, hack]

theorem Allocated.checkAndUnsubscribe (h : s.Allocated) (subscriber : Option ℕ)
    (env : ClientEnv) : (s.checkAndUnsubscribe subscriber env).2.Allocated := by
  obtain heq | ⟨known, listener, -, heq⟩ := s.checkAndUnsubscribe_cases subscriber env
  · rw [heq]
    exact h
  · rw [heq]
    exact h.proxyUnsubscribe.forget

/-- **An unsubscription keeps the cache sound**: the listener it takes the
subscription of is no other subscriber's. -/
theorem checkAndUnsubscribe_sound (hsound : s.CacheSound) (halloc : s.Allocated)
    (subscriber : Option ℕ) (env : ClientEnv) :
    (s.checkAndUnsubscribe subscriber env).2.quiet.CacheSound := by
  obtain heq | ⟨known, listener, hlookup, heq⟩ := s.checkAndUnsubscribe_cases subscriber env
  · rw [heq]
    exact hsound.quiet
  · rw [heq]
    refine ⟨?_, nofun⟩
    intro other listener' hother
    have hne : other ≠ known ∧ s.eventListeners.lookup other = some listener' := by
      change ((s.proxyUnsubscribe listener env.answer).forget known).eventListeners.lookup other
        = some listener' at hother
      rw [lookup_forget, eventListeners_proxyUnsubscribe] at hother
      split at hother
      · cases hother
      next hne => exact ⟨hne, hother⟩
    show ((s.proxyUnsubscribe listener env.answer).held listener').isSome
    rw [held_proxyUnsubscribe, if_neg]
    · exact hsound.cached other listener' hne.2
    · rintro ⟨rfl, -⟩
      exact hne.1 (halloc.injective other known listener' hne.2 hlookup)

/-! ## Subscribing again -/

/-- What the service has acknowledged since it was started stays through a
subscription. -/
theorem isSome_acknowledged_proxySubscribe {listener' : ℕ} (listener : ℕ)
    (info : CommonEventSubscribeInfo) (answer : ServiceAnswer)
    (h : (s.acknowledged.lookup listener').isSome) :
    ((s.proxySubscribe listener info answer).acknowledged.lookup listener').isSome := by
  unfold proxySubscribe
  split
  · show ((AList.insert listener info s.acknowledged).lookup listener').isSome
    rw [Dict.lookup_insert_ite]
    split
    · rfl
    · exact h
  · exact h

/-- **A turn of the loop of `Resubscribe`**: the subscriber is acknowledged, or
dropped. -/
theorem resubscribeEntries_cons (infos : ℕ → CommonEventSubscribeInfo)
    (answers : ℕ → ServiceAnswer) (subscriber listener : ℕ) (entries : List (ℕ × ℕ)) :
    ∃ next, resubscribeEntries infos answers s ((subscriber, listener) :: entries)
        = resubscribeEntries infos answers next entries
      ∧ ((answers subscriber).isAcknowledged = true
          ∧ next = s.proxySubscribe listener (infos subscriber) (answers subscriber)
        ∨ next = s.forget subscriber) := by
  by_cases hresult : (answers subscriber).result = ERR_OK
  · refine ⟨_, ?_, .inl ⟨(answers subscriber).result_eq_iff.mp hresult, rfl⟩⟩
    rw [resubscribeEntries]
    exact if_neg (not_not.mpr hresult)
  · refine ⟨s.forget subscriber, ?_, .inr rfl⟩
    rw [resubscribeEntries, proxySubscribe_of_not hresult]
    exact if_pos hresult

/-- **One subscriber after the other is subscribed again.** A subscriber that
is still in the cache after the loop was acknowledged in it. -/
theorem resubscribeEntries_spec (infos : ℕ → CommonEventSubscribeInfo)
    (answers : ℕ → ServiceAnswer) (entries : List (ℕ × ℕ)) {s t : CommonEvent}
    (halloc : s.Allocated) (hnodup : (entries.map Prod.fst).Nodup)
    (hentries : ∀ subscriber listener, (subscriber, listener) ∈ entries →
      s.eventListeners.lookup subscriber = some listener)
    (ht : t = resubscribeEntries infos answers s entries) :
    t.Allocated
      ∧ (∀ listener, (s.acknowledged.lookup listener).isSome →
        (t.acknowledged.lookup listener).isSome)
      ∧ ∀ subscriber listener, t.eventListeners.lookup subscriber = some listener →
        s.eventListeners.lookup subscriber = some listener
          ∧ ((subscriber, listener) ∈ entries → (t.acknowledged.lookup listener).isSome) := by
  induction entries generalizing s with
  | nil =>
    subst ht
    exact ⟨halloc, fun _ h => h, fun _ _ h => ⟨h, nofun⟩⟩
  | cons entry entries ih =>
    obtain ⟨subscriber, listener⟩ := entry
    rw [List.map_cons, List.nodup_cons] at hnodup
    obtain ⟨next, hloop, hnext⟩ :=
      resubscribeEntries_cons (s := s) infos answers subscriber listener entries
    have hhead : s.eventListeners.lookup subscriber = some listener :=
      hentries subscriber listener List.mem_cons_self
    -- the entries to come are of other subscribers
    have htail : ∀ subscriber' listener', (subscriber', listener') ∈ entries →
        subscriber' ≠ subscriber ∧ s.eventListeners.lookup subscriber' = some listener' := by
      intro subscriber' listener' hmem
      refine ⟨?_, hentries subscriber' listener' (List.mem_cons_of_mem _ hmem)⟩
      rintro rfl
      exact hnodup.1 (List.mem_map.mpr ⟨_, hmem, rfl⟩)
    obtain ⟨hack, rfl⟩ | rfl := hnext
    · obtain ⟨halloc', hacked, hlookup⟩ := ih
        (halloc.proxySubscribe (halloc.cached subscriber listener hhead)) hnodup.2
        (fun subscriber' listener' hmem => by
          rw [eventListeners_proxySubscribe]
          exact (htail subscriber' listener' hmem).2) (ht.trans hloop)
      refine ⟨halloc', ?_, ?_⟩
      · intro listener' h
        exact hacked listener' (isSome_acknowledged_proxySubscribe _ _ _ h)
      · intro subscriber' listener' h
        obtain ⟨hbefore, hmem⟩ := hlookup subscriber' listener' h
        rw [eventListeners_proxySubscribe] at hbefore
        refine ⟨hbefore, fun hin => ?_⟩
        obtain heq | hin := List.mem_cons.mp hin
        · cases heq
          refine hacked listener ?_
          rw [proxySubscribe, if_pos hack, AList.lookup_insert]
          rfl
        · exact hmem hin
    · obtain ⟨halloc', hacked, hlookup⟩ := ih halloc.forget hnodup.2
        (fun subscriber' listener' hmem => by
          rw [lookup_forget, if_neg (htail subscriber' listener' hmem).1]
          exact (htail subscriber' listener' hmem).2) (ht.trans hloop)
      refine ⟨halloc', hacked, ?_⟩
      intro subscriber' listener' h
      obtain ⟨hbefore, hmem⟩ := hlookup subscriber' listener' h
      rw [lookup_forget] at hbefore
      split at hbefore
      · cases hbefore
      next hne =>
        refine ⟨hbefore, fun hin => ?_⟩
        obtain heq | hin := List.mem_cons.mp hin
        · cases heq
          exact absurd rfl hne
        · exact hmem hin

/-- The client after the loop of `Resubscribe`, and once it is done. -/
theorem resubscribe_of_hasProxy (infos : ℕ → CommonEventSubscribeInfo)
    (answers : ℕ → ServiceAnswer) :
    (s.resubscribe true infos answers).2
      = { resubscribeEntries infos answers s (Dict.toList s.eventListeners) with stale := ∅ } :=
  rfl

/-- Once `Resubscribe` is done, what was acknowledged before counts no more. -/
theorem held_of_stale_empty (listener : ℕ) :
    ({ s with stale := ∅ } : CommonEvent).held listener = s.acknowledged.lookup listener := by
  show (s.acknowledged.lookup listener).or none = _
  rw [Option.or_none]

theorem Allocated.resubscribe (h : s.Allocated) (hasProxy : Bool)
    (infos : ℕ → CommonEventSubscribeInfo) (answers : ℕ → ServiceAnswer) :
    (s.resubscribe hasProxy infos answers).2.Allocated := by
  cases hasProxy with
  | false => exact h
  | true =>
    have hlisting := Dict.isListing_toList s.eventListeners
    have halloc := (resubscribeEntries_spec infos answers _ h hlisting.nodup
      (fun subscriber listener => (hlisting.mem subscriber listener).mp) rfl).1
    rw [resubscribe_of_hasProxy]
    refine ⟨halloc.cached, ?_, halloc.injective⟩
    intro listener hheld
    rw [held_of_stale_empty] at hheld
    refine halloc.held listener ?_
    rw [CommonEvent.held, Option.isSome_or, hheld, Bool.true_or]

/-- **`Resubscribe` keeps the cache sound**, and what was acknowledged before
the restart is not needed any more. -/
theorem resubscribe_sound (hsound : s.CacheSound) (halloc : s.Allocated) (hasProxy : Bool)
    (infos : ℕ → CommonEventSubscribeInfo) (answers : ℕ → ServiceAnswer) :
    (s.resubscribe hasProxy infos answers).2.quiet.CacheSound := by
  cases hasProxy with
  | false => exact hsound.quiet
  | true =>
    have hlisting := Dict.isListing_toList s.eventListeners
    obtain ⟨-, -, hlookup⟩ := resubscribeEntries_spec infos answers _ halloc hlisting.nodup
      (fun subscriber listener => (hlisting.mem subscriber listener).mp) rfl
    rw [resubscribe_of_hasProxy]
    refine ⟨?_, nofun⟩
    intro subscriber listener h
    obtain ⟨hbefore, hacked⟩ := hlookup subscriber listener h
    refine Eq.mpr
      (congrArg (fun held => Option.isSome held = true) (held_of_stale_empty listener)) ?_
    exact hacked ((hlisting.mem subscriber listener).mpr hbefore)

/-- **A restart of the service** changes nothing the cache is measured by. -/
theorem held_serviceRestarted : s.serviceRestarted.held = s.held := by
  funext listener
  show (none : Option _).or ((s.acknowledged ∪ s.stale).lookup listener) = _
  rw [Option.none_or, Dict.lookup_union]
  rfl

theorem Allocated.serviceRestarted (h : s.Allocated) : s.serviceRestarted.Allocated := by
  refine ⟨h.cached, ?_, h.injective⟩
  rw [held_serviceRestarted]
  exact h.held

theorem CacheSound.serviceRestarted (h : s.CacheSound) : s.serviceRestarted.quiet.CacheSound := by
  refine ⟨?_, nofun⟩
  show ∀ subscriber listener, s.eventListeners.lookup subscriber = some listener →
    (s.serviceRestarted.held listener).isSome
  rw [held_serviceRestarted]
  exact h.cached

/-! ## The runs that keep the cache sound -/

/-- **The condition on a call**: a publication makes no listener for its result
subscriber, and no update of a subscription is refused. -/
def CachesSubscribed (s : CommonEvent) : ClientLabel → Prop
  | .publishCommonEvent data publishInfo subscriber env
  | .publishCommonEventAsUser data publishInfo subscriber env =>
    ¬ s.PublishCreates data publishInfo subscriber env
  | .subscribe subscriber info env => ¬ s.UpdateRefused subscriber info env
  | _ => True

instance (s : CommonEvent) (subscriber : Option ℕ) (hasMemory : Bool) :
    Decidable (s.Creates subscriber hasMemory) :=
  match subscriber with
  | none => .isFalse nofun
  | some new => decidable_of_iff (s.eventListeners.lookup new = none
      ∧ s.eventListeners.entries.length ≠ SUBSCRIBER_MAX_SIZE ∧ hasMemory = true)
      ⟨fun h => ⟨new, rfl, h⟩, fun ⟨_, hnew, h⟩ => by cases hnew; exact h⟩

instance (s : CommonEvent) (data : CommonEventData) (publishInfo : CommonEventPublishInfo)
    (subscriber : Option ℕ) (env : ClientEnv) :
    Decidable (s.PublishCreates data publishInfo subscriber env) :=
  inferInstanceAs (Decidable (_ ∧ _ ∧ _))

instance (s : CommonEvent) (subscriber : Option ℕ) (info : CommonEventSubscribeInfo)
    (env : ClientEnv) : Decidable (s.UpdateRefused subscriber info env) :=
  match subscriber with
  | none => .isFalse nofun
  | some known =>
    match hlookup : s.eventListeners.lookup known with
    | none => .isFalse (fun ⟨_, _, hknown, hsome, _⟩ => by cases hknown; simp [hlookup] at hsome)
    | some listener => decidable_of_iff (info.getEvents.length ≠ 0 ∧ env.hasProxy = true
        ∧ env.answer.res = ERR_OK ∧ env.answer.funcResult ≠ ERR_OK
        ∧ s.held listener ≠ some info)
        ⟨fun h => ⟨known, listener, rfl, hlookup, h⟩, fun ⟨_, _, hknown, hsome, h⟩ => by
          cases hknown
          obtain rfl := Option.some.inj (hlookup.symm.trans hsome)
          exact h⟩

instance (s : CommonEvent) : ∀ l, Decidable (s.CachesSubscribed l)
  | .publishCommonEvent .. => inferInstanceAs (Decidable (¬ _))
  | .publishCommonEventAsUser .. => inferInstanceAs (Decidable (¬ _))
  | .subscribe .. => inferInstanceAs (Decidable (¬ _))
  | .subscribeCommonEvent .. => .isTrue trivial
  | .unSubscribeCommonEvent .. => .isTrue trivial
  | .unSubscribeCommonEventSync .. => .isTrue trivial
  | .resubscribe .. => .isTrue trivial
  | .serviceRestarted => .isTrue trivial

theorem CacheSound.init : ({} : CommonEvent).CacheSound := ⟨nofun, nofun⟩

theorem Allocated.apply (h : s.Allocated) (l : ClientLabel) : (s.apply l).Allocated := by
  cases l with
  | publishCommonEvent data publishInfo subscriber env =>
    have hcheck := h.publishParameterCheck data publishInfo subscriber env
    rw [← publishCommonEvent_snd] at hcheck
    exact hcheck.quiet
  | publishCommonEventAsUser data publishInfo subscriber env =>
    have hcheck := h.publishParameterCheck data publishInfo subscriber env
    rw [← publishCommonEventAsUser_snd] at hcheck
    exact hcheck.quiet
  | subscribeCommonEvent subscriber info env =>
    exact (h.checkAndSubscribe subscriber info false env).noteReturn
  | subscribe subscriber info env =>
    exact (h.checkAndSubscribe subscriber info true env).noteReturn
  | unSubscribeCommonEvent subscriber env => exact (h.checkAndUnsubscribe subscriber env).quiet
  | unSubscribeCommonEventSync subscriber env =>
    exact (h.checkAndUnsubscribe subscriber env).quiet
  | resubscribe hasProxy infos answers => exact (h.resubscribe hasProxy infos answers).quiet
  | serviceRestarted => exact h.serviceRestarted.quiet

/-- **A call from a sound cache leaves it sound exactly if it meets the
condition.** -/
theorem apply_sound (hsound : s.CacheSound) (halloc : s.Allocated) (l : ClientLabel) :
    (s.apply l).CacheSound ↔ s.CachesSubscribed l := by
  cases l with
  | publishCommonEvent data publishInfo subscriber env =>
    have hcheck := publishParameterCheck_sound hsound halloc data publishInfo subscriber env
    rw [← publishCommonEvent_snd] at hcheck
    exact hcheck
  | publishCommonEventAsUser data publishInfo subscriber env =>
    have hcheck := publishParameterCheck_sound hsound halloc data publishInfo subscriber env
    rw [← publishCommonEventAsUser_snd] at hcheck
    exact hcheck
  | subscribeCommonEvent subscriber info env =>
    refine iff_of_true ((checkAndSubscribe_sound hsound subscriber info false env).mpr ?_) trivial
    rintro ⟨hfalse, -⟩
    cases hfalse
  | subscribe subscriber info env =>
    refine (checkAndSubscribe_sound hsound subscriber info true env).trans ?_
    exact not_congr (and_iff_right rfl)
  | unSubscribeCommonEvent subscriber env =>
    exact iff_of_true (checkAndUnsubscribe_sound hsound halloc subscriber env) trivial
  | unSubscribeCommonEventSync subscriber env =>
    exact iff_of_true (checkAndUnsubscribe_sound hsound halloc subscriber env) trivial
  | resubscribe hasProxy infos answers =>
    exact iff_of_true (resubscribe_sound hsound halloc hasProxy infos answers) trivial
  | serviceRestarted => exact iff_of_true hsound.serviceRestarted trivial

/-- The listeners of a reachable state are from the allocator, whatever the
calls were. -/
theorem allocated_of_reachable (hs : clientMachine.Reachable s) : s.Allocated := by
  refine Machine.invariant Allocated.init ?_ hs
  intro s l t halloc hstep
  cases hstep
  exact halloc.apply l

/-- **The cache is sound throughout a run exactly if every call meets the
condition.** -/
theorem cacheSound_iff (ls : List ClientLabel) :
    (∀ pre post s, ls = pre ++ post → clientMachine.run pre = some s → s.CacheSound)
      ↔ clientMachine.Guarded CachesSubscribed ls := by
  obtain ⟨s, hs⟩ := clientMachine.run_total (fun s l => ⟨s.apply l, rfl⟩) ls
  refine Machine.forall_prefix_iff_guarded CacheSound.init ?_ hs
  intro s l t hreach hsound hstep
  cases hstep
  exact apply_sound hsound (allocated_of_reachable hreach) l

/-- What the one subscriber of an application asks for. -/
def screenOn : CommonEventSubscribeInfo where
  matchingSkills := { events := ["usual.event.SCREEN_ON"] }

/-- An event that is published in order. -/
def orderedEvent : CommonEventData := { want := { action := "usual.event.SCREEN_ON" } }

/-- A run in which the result subscriber is subscribed before the publication,
and again after a restart of the service. -/
def subscribedFirst : List ClientLabel :=
  [.subscribeCommonEvent (some 0) screenOn {},
    .publishCommonEvent orderedEvent { ordered := true } (some 0) {},
    .serviceRestarted, .resubscribe true (fun _ => screenOn) (fun _ => {}),
    .subscribe (some 0) screenOn {}]

/-- The cache of that run has the subscriber, and is sound. -/
theorem cacheSound_subscribedFirst :
    ∃ s, clientMachine.run subscribedFirst = some s ∧ s.eventListeners.lookup 0 = some 0
      ∧ s.CacheSound := by
  obtain ⟨s, hs, hlookup⟩ := Option.map_eq_some_iff.mp
    (show (clientMachine.run subscribedFirst).map (fun s => s.eventListeners.lookup 0)
      = some (some 0) by decide +kernel)
  refine ⟨s, hs, hlookup, ?_⟩
  exact (cacheSound_iff subscribedFirst).mpr (Machine.guarded_of_guardedFrom (by decide +kernel))
    subscribedFirst [] s (List.append_nil _).symm hs

/-- A run that publishes with a result subscriber, and then subscribes it. -/
def publishedFirst : List ClientLabel :=
  [.publishCommonEvent orderedEvent { ordered := true } (some 0) {},
    .subscribeCommonEvent (some 0) screenOn {}]

/-- **A result subscriber counts as subscribed**: the publication caches it, and
`SubscribeCommonEvent` returns `ERR_OK` without a call on the service. -/
theorem publishedFirst_unsound :
    ¬ ∀ ls s, clientMachine.run ls = some s → s.CacheSound := by
  intro hsound
  obtain ⟨s, hs, hbefore⟩ := Option.map_eq_some_iff.mp
    (show (clientMachine.run publishedFirst).map (fun s =>
        (s.returned.map (fun call => (call.subscriber, call.result)),
          s.eventListeners.lookup 0, s.held 0))
      = some (some (0, ERR_OK), some 0, none) by decide +kernel)
  obtain ⟨hreturned, hcached⟩ := Prod.mk.inj hbefore
  obtain ⟨hlookup, hheld⟩ := Prod.mk.inj hcached
  obtain ⟨call, hcall, heq⟩ := Option.map_eq_some_iff.mp hreturned
  obtain ⟨hsubscriber, hresult⟩ := Prod.mk.inj heq
  obtain ⟨listener, info, hlookup', hheld', -⟩ :=
    (hsound publishedFirst s hs).returned call hcall hresult
  rw [hsubscriber, hlookup] at hlookup'
  cases hlookup'
  rw [hheld] at hheld'
  cases hheld'

end CommonEvent

end CommonEventService

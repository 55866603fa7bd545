import CommonEventService.AllowList
import CommonEventService.Lib.Machine

/-!
# The registry of the static subscribers

What a static subscriber says of itself stands in the profile of its
application, which anyone may write as they like. What it may subscribe to is
said by the allow list. Every entry of the registry is made by one function,
behind one test against that list, and the tables are otherwise only cleared
and filtered: so the registry stays within the list, whatever the profiles
say, and has no subscriber twice for an event.

The registry is cleared before it is read in anew. Where that fails, it stays
empty, and is taken as read in if it once was.
-/

namespace CommonEventService

/-- A static subscriber, by what tells it from others. -/
def StaticSubscriberInfo.identity (subscriber : StaticSubscriberInfo) : String × String × Int :=
  (subscriber.name, subscriber.bundleName, subscriber.userId)

/-- The static subscriber a connection is made to. -/
def StaticConnection.identity (connection : StaticConnection) : String × String × Int :=
  (connection.abilityName, connection.bundleName, connection.userId)

/-- **The calls of the static subscriber manager.** What the services around it
answer comes with the call. -/
inductive StaticLabel where
  | publishCommonEvent (P : Platform) (env : StaticEnvironment) (data : CommonEventData)
      (publishInfo : CommonEventPublishInfo) (callerToken : AccessTokenID) (userId : Int)
  | setStaticSubscriberState (P : Platform) (callingUid : Uid) (bundleName : String)
      (events : Option (List String)) (enable : Bool)

namespace StaticSubscriberManager

variable {m t : StaticSubscriberManager} {P : Platform} {env : StaticEnvironment}

/-- **One call.** -/
def call (m : StaticSubscriberManager) : StaticLabel → StaticSubscriberManager
  | .publishCommonEvent P env data publishInfo callerToken userId =>
    m.publishCommonEvent P env data publishInfo callerToken userId
  | .setStaticSubscriberState P callingUid bundleName events enable =>
    m.setStaticSubscriberState P callingUid bundleName events enable

/-- **The registry is within the allow list**: every entry is allowed its
event, no two are of the same subscriber, and no event is mapped to no
entries. -/
structure WithinAllowList (m : StaticSubscriberManager) : Prop where
  allowed : ∀ event, ∀ sub ∈ m.subscribersOf event,
    event ∈ allowedEvents m.staticSubscribers (bundleKey sub.userId sub.bundleName)
  distinct : ∀ event, ((m.subscribersOf event).map StaticSubscriberInfo.identity).Nodup
  nonempty : ∀ event, m.validSubscribers.lookup event ≠ some []

/-- Nothing is read of a manager but its two tables. -/
theorem WithinAllowList.congr (h : m.WithinAllowList)
    (hvalid : t.validSubscribers = m.validSubscribers)
    (hallowed : t.staticSubscribers = m.staticSubscribers) : t.WithinAllowList := by
  obtain ⟨allowed, distinct, nonempty⟩ := h
  unfold subscribersOf at allowed distinct
  refine ⟨?_, ?_, ?_⟩
  · unfold subscribersOf
    rw [hvalid, hallowed]
    exact allowed
  · unfold subscribersOf
    rw [hvalid]
    exact distinct
  · rw [hvalid]
    exact nonempty

/-- An empty registry is within any list. -/
theorem withinAllowList_of_empty (h : m.validSubscribers = ∅) : m.WithinAllowList := by
  have hnone : ∀ event, m.subscribersOf event = [] := by
    intro event
    unfold subscribersOf
    rw [h]
    rfl
  refine ⟨fun event sub hsub => ?_, fun event => ?_, fun event => ?_⟩
  · rw [hnone] at hsub
    cases hsub
  · rw [hnone]
    exact List.nodup_nil
  · rw [h]
    nofun

/-! ## An entry is added -/

/-- The same subscriber is there for the event. -/
theorem any_same_iff {subscribers : List StaticSubscriberInfo} {subscriber : StaticSubscriberInfo} :
    subscribers.any (fun sub => sub.name = subscriber.name
        && sub.bundleName = subscriber.bundleName && sub.userId = subscriber.userId) = true
      ↔ subscriber.identity ∈ subscribers.map StaticSubscriberInfo.identity := by
  rw [List.any_eq_true, List.mem_map]
  refine exists_congr fun sub => and_congr_right fun _ => ?_
  unfold StaticSubscriberInfo.identity
  simp [and_assoc]

/-- **What `AddToValidSubscribers` does**: the subscriber is put last, unless it
is there. -/
theorem subscribersOf_addToValidSubscribers (m : StaticSubscriberManager) (eventName : String)
    (subscriber : StaticSubscriberInfo) (event : String) :
    (m.addToValidSubscribers eventName subscriber).subscribersOf event
      = if event = eventName
          ∧ subscriber.identity ∉ (m.subscribersOf event).map StaticSubscriberInfo.identity
        then m.subscribersOf event ++ [subscriber] else m.subscribersOf event := by
  unfold addToValidSubscribers
  dsimp only
  by_cases hsame : ((m.validSubscribers.lookup eventName).getD []).any
      (fun sub => sub.name = subscriber.name && sub.bundleName = subscriber.bundleName
        && sub.userId = subscriber.userId) = true
  · rw [if_pos hsame, if_neg]
    rintro ⟨rfl, hnot⟩
    exact hnot (any_same_iff.mp hsame)
  · rw [if_neg hsame]
    unfold subscribersOf
    rw [Dict.lookup_insert_ite]
    by_cases hevent : event = eventName
    · subst hevent
      rw [if_pos rfl, if_pos ⟨rfl, fun hmem => hsame (any_same_iff.mpr hmem)⟩]
      rfl
    · rw [if_neg hevent, if_neg fun h => hevent h.1]

theorem WithinAllowList.addToValidSubscribers (h : m.WithinAllowList) {eventName : String}
    {subscriber : StaticSubscriberInfo}
    (hallowed : eventName
      ∈ allowedEvents m.staticSubscribers (bundleKey subscriber.userId subscriber.bundleName)) :
    (m.addToValidSubscribers eventName subscriber).WithinAllowList := by
  have hstatic : (m.addToValidSubscribers eventName subscriber).staticSubscribers
      = m.staticSubscribers := by
    unfold StaticSubscriberManager.addToValidSubscribers
    dsimp only
    split <;> rfl
  refine ⟨fun event sub hsub => ?_, fun event => ?_, fun event => ?_⟩
  · rw [hstatic]
    rw [subscribersOf_addToValidSubscribers] at hsub
    split at hsub
    next hnew =>
      obtain hsub | hsub := List.mem_append.mp hsub
      · exact h.allowed event sub hsub
      · rw [List.mem_singleton.mp hsub, hnew.1]
        exact hallowed
    next => exact h.allowed event sub hsub
  · rw [subscribersOf_addToValidSubscribers]
    split
    next hnew =>
      rw [List.map_append, List.map_singleton, ← List.concat_eq_append]
      exact List.Nodup.concat hnew.2 (h.distinct event)
    next => exact h.distinct event
  · unfold StaticSubscriberManager.addToValidSubscribers
    dsimp only
    split
    · exact h.nonempty event
    · rw [Dict.lookup_insert_ite]
      split
      · exact fun heq => absurd (Option.some.inj heq) (List.append_ne_nil_of_right_ne_nil _ nofun)
      · exact h.nonempty event

/-! ## A profile is read -/

/-- The filter of a profile says nothing of who subscribes. -/
theorem parseFilterObject_identity (filterObj : Json) (eventName : String)
    (subscriber : StaticSubscriberInfo) :
    (parseFilterObject filterObj eventName subscriber).bundleName = subscriber.bundleName
      ∧ (parseFilterObject filterObj eventName subscriber).userId = subscriber.userId := by
  unfold parseFilterObject
  split
  · split <;> exact ⟨rfl, rfl⟩
  · exact ⟨rfl, rfl⟩

/-- **One test stands before every entry**: an event a profile names is added
only if the list of the bundle has it. -/
theorem WithinAllowList.parseEvent (h : m.WithinAllowList) (extension : ExtensionAbilityInfo)
    (userId : Int) (commonEvent : List (String × Json)) (permission : String) (event : Json) :
    (StaticSubscriberManager.parseEvent extension userId commonEvent permission m
      event).WithinAllowList := by
  unfold StaticSubscriberManager.parseEvent
  split
  next eventName =>
    dsimp only
    split
    next hallowed =>
      refine h.addToValidSubscribers ?_
      obtain ⟨hbundle, huser⟩ := parseFilterObject_identity (Json.member commonEvent "filter")
        eventName
        { name := extension.name
          bundleName := extension.bundleName
          userId := userId
          permission := permission }
      rw [hbundle, huser]
      exact List.contains_iff_mem.mp hallowed
    next => exact h
  · exact h

theorem WithinAllowList.parseCommonEvent (h : m.WithinAllowList)
    (extension : ExtensionAbilityInfo) (userId : Int) (commonEvent : Json) :
    (StaticSubscriberManager.parseCommonEvent extension userId m commonEvent).WithinAllowList := by
  unfold StaticSubscriberManager.parseCommonEvent
  split
  · split
    · split
      · exact List.foldlRecOn _ _ h fun m h event _ => h.parseEvent extension userId _ _ event
      · exact h
    · exact h
  · exact h

theorem WithinAllowList.parseEvents (h : m.WithinAllowList) (extension : ExtensionAbilityInfo)
    (userId : Int) (profile : String) :
    (StaticSubscriberManager.parseEvents env extension userId m profile).WithinAllowList := by
  unfold StaticSubscriberManager.parseEvents
  split
  · exact h
  · split
    · split
      · exact List.foldlRecOn _ _ h fun m h commonEvent _ =>
          h.parseCommonEvent extension userId commonEvent
      · exact h
    · exact h

theorem WithinAllowList.addSubscriber (h : m.WithinAllowList) (extension : ExtensionAbilityInfo) :
    (m.addSubscriber P env extension).WithinAllowList := by
  unfold StaticSubscriberManager.addSubscriber
  split
  · exact List.foldlRecOn _ _ h fun m h profile _ => h.parseEvents extension _ profile
  · exact h

theorem WithinAllowList.addExtension (h : m.WithinAllowList) (extension : ExtensionAbilityInfo) :
    (StaticSubscriberManager.addExtension P env m extension).WithinAllowList := by
  unfold StaticSubscriberManager.addExtension
  split
  · exact h
  · split
    · exact h.addSubscriber extension
    · exact h

theorem WithinAllowList.addSubscriberWithBundleName (h : m.WithinAllowList) (bundleName : String)
    (userId : Int) : (m.addSubscriberWithBundleName P env bundleName userId).WithinAllowList := by
  unfold StaticSubscriberManager.addSubscriberWithBundleName
  split
  · exact h
  · refine List.foldlRecOn _ _ h fun m h extension _ => ?_
    split
    · exact h.addSubscriber extension
    · exact h

/-! ## A bundle is taken out -/

/-- The entries that are not of a bundle of a user. -/
def others (bundleName : String) (userId : Int) (subscribers : List StaticSubscriberInfo) :
    List StaticSubscriberInfo :=
  subscribers.filter (fun sub => !(sub.bundleName = bundleName && sub.userId = userId))

/-- One round of the loop of `RemoveSubscriberWithBundleName`. -/
def removeFrom (bundleName : String) (userId : Int)
    (validSubscribers : Dict String (List StaticSubscriberInfo)) (event : String) :
    Dict String (List StaticSubscriberInfo) :=
  let subscribers := others bundleName userId ((validSubscribers.lookup event).getD [])
  if subscribers = [] then AList.erase event validSubscribers
  else AList.insert event subscribers validSubscribers

theorem validSubscribers_removeSubscriberWithBundleName (m : StaticSubscriberManager)
    (bundleName : String) (userId : Int) :
    (m.removeSubscriberWithBundleName bundleName userId).validSubscribers
      = m.validSubscribers.keys.foldl (removeFrom bundleName userId) m.validSubscribers := rfl

theorem lookup_removeFrom (bundleName : String) (userId : Int)
    (validSubscribers : Dict String (List StaticSubscriberInfo)) (event event' : String) :
    (removeFrom bundleName userId validSubscribers event).lookup event'
      = if event' = event then
          (if others bundleName userId ((validSubscribers.lookup event).getD []) = [] then none
            else some (others bundleName userId ((validSubscribers.lookup event).getD [])))
        else validSubscribers.lookup event' := by
  unfold removeFrom
  dsimp only
  split
  next hnil => rw [Dict.lookup_erase_ite]
  next hne => rw [Dict.lookup_insert_ite]

/-- **What the loop leaves** of an event it comes to, and of the others. -/
theorem getD_lookup_foldl_removeFrom (bundleName : String) (userId : Int) (events : List String)
    (validSubscribers : Dict String (List StaticSubscriberInfo)) (event : String) :
    ((events.foldl (removeFrom bundleName userId) validSubscribers).lookup event).getD []
      = if event ∈ events then others bundleName userId ((validSubscribers.lookup event).getD [])
        else (validSubscribers.lookup event).getD [] := by
  have hone : ∀ (validSubscribers : Dict String (List StaticSubscriberInfo)) (event' : String),
      ((removeFrom bundleName userId validSubscribers event').lookup event).getD []
        = if event = event' then others bundleName userId ((validSubscribers.lookup event).getD [])
          else (validSubscribers.lookup event).getD [] := by
    intro validSubscribers event'
    rw [lookup_removeFrom]
    split
    next h =>
      subst h
      split
      next hnil => rw [hnil, Option.getD_none]
      next => rw [Option.getD_some]
    next => rfl
  induction events generalizing validSubscribers with
  | nil => simp
  | cons event' events ih =>
    rw [List.foldl_cons, ih, hone]
    by_cases hevent : event = event'
    · subst hevent
      rw [if_pos rfl, if_pos List.mem_cons_self]
      split
      · exact List.filter_filter.trans (List.filter_congr fun sub _ => Bool.and_self _)
      · rfl
    · rw [if_neg hevent]
      refine if_congr ?_ rfl rfl
      rw [List.mem_cons, or_iff_right hevent]

/-- **`RemoveSubscriberWithBundleName`** takes out the entries of the bundle of
the user, and leaves the others in their order. -/
theorem subscribersOf_removeSubscriberWithBundleName (m : StaticSubscriberManager)
    (bundleName : String) (userId : Int) (event : String) :
    (m.removeSubscriberWithBundleName bundleName userId).subscribersOf event
      = others bundleName userId (m.subscribersOf event) := by
  unfold subscribersOf
  rw [validSubscribers_removeSubscriberWithBundleName, getD_lookup_foldl_removeFrom]
  split
  next => rfl
  next hnot =>
    rw [AList.lookup_eq_none.mpr hnot]
    rfl

theorem WithinAllowList.removeSubscriberWithBundleName (h : m.WithinAllowList)
    (bundleName : String) (userId : Int) :
    (m.removeSubscriberWithBundleName bundleName userId).WithinAllowList := by
  refine ⟨fun event sub hsub => ?_, fun event => ?_, ?_⟩
  · rw [subscribersOf_removeSubscriberWithBundleName] at hsub
    exact h.allowed event sub (List.mem_filter.mp hsub).1
  · rw [subscribersOf_removeSubscriberWithBundleName]
    exact (h.distinct event).sublist (List.filter_sublist.map _)
  · rw [validSubscribers_removeSubscriberWithBundleName]
    refine List.foldlRecOn
      (motive := fun validSubscribers : Dict String (List StaticSubscriberInfo) =>
      ∀ event, validSubscribers.lookup event ≠ some []) _ _ h.nonempty ?_
    intro validSubscribers hnonempty event' _ event
    rw [lookup_removeFrom]
    split
    · split
      · nofun
      next hne => exact fun heq => hne (Option.some.inj heq)
    · exact hnonempty event

/-! ## A call -/

theorem WithinAllowList.disableBundles (h : m.WithinAllowList) (bundleList : List String) :
    (m.disableBundles bundleList).WithinAllowList := by
  unfold StaticSubscriberManager.disableBundles
  split
  · exact h
  · exact h.congr rfl rfl

variable (P env) in
theorem withinAllowList_initValidSubscribers (m : StaticSubscriberManager) :
    (m.initValidSubscribers P env).2.WithinAllowList := by
  unfold initValidSubscribers
  dsimp only
  split
  · exact withinAllowList_of_empty rfl
  · split
    · exact withinAllowList_of_empty rfl
    · refine WithinAllowList.congr
        (m := StaticSubscriberManager.disableBundles (List.foldl _ _ _) _)
        (WithinAllowList.disableBundles ?_ _) rfl rfl
      exact List.foldlRecOn (motive := WithinAllowList) _ _ (withinAllowList_of_empty rfl)
        fun m h extension _ => h.addExtension extension

theorem WithinAllowList.updateSubscriber (h : m.WithinAllowList) (data : CommonEventData) :
    (m.updateSubscriber P env data).WithinAllowList := by
  unfold StaticSubscriberManager.updateSubscriber
  dsimp only
  split
  · exact h
  · split
    · split
      · exact h
      · split
        · exact h.addSubscriberWithBundleName _ _
        · split
          · exact h.removeSubscriberWithBundleName _ _
          · exact (h.removeSubscriberWithBundleName _ _).addSubscriberWithBundleName _ _
    · exact h

variable (P env) in
theorem WithinAllowList.refresh (h : m.WithinAllowList) (data : CommonEventData) :
    (m.refresh P env data).2.WithinAllowList := by
  have hinit := withinAllowList_initValidSubscribers P env m
  unfold StaticSubscriberManager.refresh
  split
  · split
    next heq =>
      rw [heq] at hinit
      exact hinit
    next heq =>
      rw [heq] at hinit
      exact hinit.updateSubscriber data
  · exact h.updateSubscriber data

/-- **What a publish connects to**: nothing where the subscribers cannot be
read in, and else those of the event, up to date, that pass the checks. -/
theorem publishCommonEvent_cases (m : StaticSubscriberManager) (P : Platform)
    (env : StaticEnvironment) (data : CommonEventData) (publishInfo : CommonEventPublishInfo)
    (callerToken : AccessTokenID) (userId : Int) :
    m.publishCommonEvent P env data publishInfo callerToken userId = (m.refresh P env data).2
      ∨ m.publishCommonEvent P env data publishInfo callerToken userId
        = (m.refresh P env data).2.publishCommonEventInner P env data publishInfo callerToken
          userId := by
  unfold publishCommonEvent
  split
  next heq => exact .inl (by rw [heq])
  next heq => exact .inr (by rw [heq])

theorem WithinAllowList.publishCommonEvent (h : m.WithinAllowList) (data : CommonEventData)
    (publishInfo : CommonEventPublishInfo) (callerToken : AccessTokenID) (userId : Int) :
    (m.publishCommonEvent P env data publishInfo callerToken userId).WithinAllowList := by
  obtain heq | heq := m.publishCommonEvent_cases P env data publishInfo callerToken userId
  · rw [heq]
    exact h.refresh P env data
  · rw [heq]
    exact (h.refresh P env data).congr rfl rfl

theorem WithinAllowList.setStaticSubscriberState (h : m.WithinAllowList) (callingUid : Uid)
    (bundleName : String) (events : Option (List String)) (enable : Bool) :
    (m.setStaticSubscriberState P callingUid bundleName events enable).WithinAllowList := by
  have hupdate : ∀ (events : List String) (userId : Int),
      (m.updateDisableEvents bundleName events enable userId).WithinAllowList := by
    intro events userId
    unfold updateDisableEvents
    dsimp only
    split
    · split
      · exact h
      · exact h.congr rfl rfl
    · exact h.congr rfl rfl
  unfold StaticSubscriberManager.setStaticSubscriberState
  split
  · exact h
  · split
    · exact hupdate _ _
    · split
      · exact h
      · exact hupdate _ _

theorem WithinAllowList.call (h : m.WithinAllowList) (l : StaticLabel) :
    (m.call l).WithinAllowList := by
  cases l with
  | publishCommonEvent P env data publishInfo callerToken userId =>
    exact h.publishCommonEvent data publishInfo callerToken userId
  | setStaticSubscriberState P callingUid bundleName events enable =>
    exact h.setStaticSubscriberState callingUid bundleName events enable

end StaticSubscriberManager

/-- **The static subscriber manager as a machine.** -/
def staticMachine : Machine StaticSubscriberManager StaticLabel where
  init := {}
  step m l := some (m.call l)

namespace StaticSubscriberManager

variable {m t : StaticSubscriberManager} {P : Platform} {env : StaticEnvironment}

theorem withinAllowList_of_reachable (hm : staticMachine.Reachable m) : m.WithinAllowList := by
  refine Machine.invariant (M := staticMachine) (I := WithinAllowList)
    (withinAllowList_of_empty rfl) ?_ hm
  intro m l t h hstep
  obtain rfl : m.call l = t := Option.some.inj hstep
  exact h.call l

/-- **What one publish connects to**: no subscriber twice, and only those that
are allowed the event. -/
theorem WithinAllowList.connected (h : m.WithinAllowList) (data : CommonEventData)
    (publishInfo : CommonEventPublishInfo) (callerToken : AccessTokenID) (userId : Int) :
    ∃ connections,
      (m.publishCommonEvent P env data publishInfo callerToken userId).connected
          = m.connected ++ connections
        ∧ (connections.map StaticConnection.identity).Nodup
        ∧ ∀ connection ∈ connections, data.want.action ∈ allowedEvents
            (m.publishCommonEvent P env data publishInfo callerToken userId).staticSubscribers
            (bundleKey connection.userId connection.bundleName) := by
  have hconnected := m.connected_refresh P env data
  obtain heq | heq := m.publishCommonEvent_cases P env data publishInfo callerToken userId
  · rw [heq]
    exact ⟨[], by rw [hconnected, List.append_nil], List.nodup_nil, nofun⟩
  · have hrefresh := h.refresh P env data
    rw [heq]
    refine ⟨_, congrArg (· ++ _) hconnected, ?_, ?_⟩
    · rw [List.map_map]
      exact (hrefresh.distinct data.want.action).sublist (List.filter_sublist.map _)
    · intro connection hconnection
      obtain ⟨sub, hsub, rfl⟩ := List.mem_map.mp hconnection
      exact hrefresh.allowed data.want.action sub (List.mem_filter.mp hsub).1

/-- **The registry stays within the allow list**, whatever the profiles say; a
removal takes out the entries of its bundle and no other; and so a publish
connects to no subscriber twice, and to none that is not allowed the event. -/
theorem registry_withinAllowList (hm : staticMachine.Reachable m) :
    m.WithinAllowList
      ∧ (∀ bundleName userId,
        (m.removeSubscriberWithBundleName bundleName userId).WithinAllowList
          ∧ ∀ event, (m.removeSubscriberWithBundleName bundleName userId).subscribersOf event
            = (m.subscribersOf event).filter
              (fun sub => !(sub.bundleName = bundleName && sub.userId = userId)))
      ∧ ∀ P env data publishInfo callerToken userId, ∃ connections,
        (m.publishCommonEvent P env data publishInfo callerToken userId).connected
            = m.connected ++ connections
          ∧ (connections.map StaticConnection.identity).Nodup
          ∧ ∀ connection ∈ connections, data.want.action ∈ allowedEvents
              (m.publishCommonEvent P env data publishInfo callerToken userId).staticSubscribers
              (bundleKey connection.userId connection.bundleName) := by
  have h := withinAllowList_of_reachable hm
  refine ⟨h, fun bundleName userId => ⟨h.removeSubscriberWithBundleName bundleName userId, ?_⟩, ?_⟩
  · exact subscribersOf_removeSubscriberWithBundleName m bundleName userId
  · intro P env data publishInfo callerToken userId
    exact h.connected data publishInfo callerToken userId

/-- A profile that names an event twice, and one that is not allowed. -/
def profileEnvironment : StaticEnvironment where
  getApplicationInfos := some [allowedApplication]
  queryExtensionInfos := some [{ name := "n", bundleName := "b", uid := 0 }]
  getResConfigFile := fun _ => some ["profile"]
  parse := fun _ => some (.object [("commonEvents", .array [.object [("name", .string "n"),
    ("permission", .string ""),
    ("events", .array [.string "e", .string "e", .string "notAllowed"])]])])

/-- An event is published while the services answer as given. -/
def publishUnder (env : StaticEnvironment) (event : String) : StaticLabel :=
  .publishCommonEvent {} env { want := { action := event } } {} 0 0

/-- The profile is read in with the first publish; the subscriber is there once,
for the one event. -/
theorem registry_withinAllowList_profile :
    ∃ m, staticMachine.run [publishUnder profileEnvironment "e"] = some m
      ∧ m.subscribersOf "e" = [{ name := "n", bundleName := "b", userId := 0 }]
      ∧ m.subscribersOf "notAllowed" = [] ∧ m.WithinAllowList := by
  refine ⟨_, rfl, by decide +kernel, by decide +kernel, ?_⟩
  exact (registry_withinAllowList ⟨[publishUnder profileEnvironment "e"], rfl⟩).1

/-! ## A refresh that fails -/

/-- **A refresh that fails loses nothing**: the registry is as before, or the
next publish reads it in again. -/
def LosesNothing (m : StaticSubscriberManager) (P : Platform) (env : StaticEnvironment) : Prop :=
  (m.initValidSubscribers P env).1 = false →
    (m.initValidSubscribers P env).2.validSubscribers = m.validSubscribers
      ∨ (m.initValidSubscribers P env).2.hasInitValidSubscribers = false

/-- **What a refresh that fails leaves**: an empty registry, and the mark as it
was. -/
theorem initValidSubscribers_failed (h : (m.initValidSubscribers P env).1 = false) :
    (m.initValidSubscribers P env).2.validSubscribers = ∅
      ∧ (m.initValidSubscribers P env).2.hasInitValidSubscribers = m.hasInitValidSubscribers := by
  revert h
  unfold initValidSubscribers
  dsimp only
  cases env.getApplicationInfos with
  | none => exact fun _ => ⟨rfl, rfl⟩
  | some appInfos =>
    cases env.queryExtensionInfos with
    | none => exact fun _ => ⟨rfl, rfl⟩
    | some extensions => exact fun h => absurd h nofun

/-- A refresh fails where the bundle manager does not answer. -/
theorem initValidSubscribers_eq_false :
    (m.initValidSubscribers P env).1 = false
      ↔ env.getApplicationInfos = none ∨ env.queryExtensionInfos = none := by
  unfold initValidSubscribers
  dsimp only
  cases env.getApplicationInfos with
  | none => simp
  | some appInfos => cases env.queryExtensionInfos <;> simp

/-- **A refresh loses nothing exactly where** there is nothing to lose, nothing
was read in before, or the bundle manager answers. -/
theorem losesNothing_iff :
    m.LosesNothing P env
      ↔ m.validSubscribers = ∅ ∨ m.hasInitValidSubscribers = false
        ∨ env.getApplicationInfos.isSome ∧ env.queryExtensionInfos.isSome := by
  have hanswers : (env.getApplicationInfos.isSome ∧ env.queryExtensionInfos.isSome)
      ↔ ¬ (m.initValidSubscribers P env).1 = false := by
    rw [initValidSubscribers_eq_false, not_or, ← Option.ne_none_iff_isSome,
      ← Option.ne_none_iff_isSome]
  rw [hanswers]
  unfold LosesNothing
  by_cases hfailed : (m.initValidSubscribers P env).1 = false
  · obtain ⟨hvalid, hinit⟩ := initValidSubscribers_failed hfailed
    rw [hvalid, hinit]
    constructor
    · intro h
      obtain h | h := h hfailed
      · exact .inl h.symm
      · exact .inr (.inl h)
    · rintro (h | h | h) _
      · exact .inl h.symm
      · exact .inr h
      · exact absurd hfailed h
  · exact iff_of_true (fun h => absurd h hfailed) (.inr (.inr hfailed))

/-- The refresh a publish makes loses nothing. -/
def RefreshSound (m : StaticSubscriberManager) : StaticLabel → Prop
  | .publishCommonEvent P env data _ _ _ =>
    m.isInitDue data.want.action = true → m.LosesNothing P env
  | .setStaticSubscriberState .. => True

/-- **The condition on a publish** that reads the subscribers in again: the
registry is empty, or was not read in, or the bundle manager answers. -/
def RefreshAnswered (m : StaticSubscriberManager) : StaticLabel → Prop
  | .publishCommonEvent _ env data _ _ _ =>
    m.isInitDue data.want.action = true →
      m.validSubscribers = ∅ ∨ m.hasInitValidSubscribers = false
        ∨ env.getApplicationInfos.isSome ∧ env.queryExtensionInfos.isSome
  | .setStaticSubscriberState .. => True

theorem refreshSound_iff (m : StaticSubscriberManager) (l : StaticLabel) :
    m.RefreshSound l ↔ m.RefreshAnswered l := by
  cases l with
  | publishCommonEvent P env data publishInfo callerToken userId =>
    exact imp_congr_right fun _ => losesNothing_iff
  | setStaticSubscriberState => exact Iff.rfl

/-- **No refresh of a run loses anything exactly where** every one of them that
has something to lose is answered. -/
theorem refreshSound_iff_guarded (ls : List StaticLabel) :
    (∀ pre l post, ls = pre ++ l :: post → ∀ m, staticMachine.run pre = some m → m.RefreshSound l)
      ↔ staticMachine.Guarded RefreshAnswered ls := by
  constructor
  · intro h pre l post hls m hm
    exact (refreshSound_iff m l).mp (h pre l post hls m hm)
  · intro h pre l post hls m hm
    exact (refreshSound_iff m l).mpr (h pre l post hls m hm)

/-- **A refresh can lose every subscriber**: the bundle manager does not answer
one that comes after the first. -/
theorem refresh_loses :
    ¬ ∀ ls m, staticMachine.run ls = some m → ∀ P env, m.LosesNothing P env := by
  intro hall
  have hsound := hall [publishUnder profileEnvironment "e"] _ rfl {} {}
  obtain hempty | hinit | ⟨hanswered, -⟩ := losesNothing_iff.mp hsound
  · have hone : ((staticMachine.init.call
        (publishUnder profileEnvironment "e")).subscribersOf "e").length = 1 := by decide +kernel
    unfold subscribersOf at hone
    rw [hempty] at hone
    cases hone
  · exact absurd hinit (by decide +kernel)
  · cases hanswered

end StaticSubscriberManager

end CommonEventService

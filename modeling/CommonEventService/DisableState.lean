import CommonEventService.StaticSubscriberDataManager
import CommonEventService.Lib.Machine

/-!
# Saving and loading the disable state

Every change of `disableEvents_` is saved at once, and every save begins with
a query of what was saved before. So a value that cannot be read back does
not only lose its own entry: it makes the next query fail, and with it every
save to come. There is one such value. An empty list is written as an empty
JSON array, which the reader refuses; and `UpdateDisableEvents`, which drops
a list that becomes empty, keeps one that is empty from the start.
-/

namespace CommonEventService

/-- A call of `UpdateDisableEvents`. -/
structure DisableCall where
  bundleName : String
  events : List String
  enable : Bool
  userId : Int

/-- **The calls of `UpdateDisableEvents`**, as a machine. -/
def disableMachine : Machine StaticSubscriberManager DisableCall where
  init := {}
  step m call :=
    some (m.updateDisableEvents call.bundleName call.events call.enable call.userId)

/-- Every key of `disableEvents_` is that of a bundle of a user. -/
theorem disableEvents_key {m : StaticSubscriberManager} (hm : disableMachine.Reachable m)
    {key : String} (hkey : (m.disableEvents.lookup key).isSome) :
    ∃ userId bundleName, key = bundleKey userId bundleName := by
  revert key
  refine Machine.invariant (M := disableMachine)
    (I := fun m => ∀ {key : String}, (m.disableEvents.lookup key).isSome →
      ∃ userId bundleName, key = bundleKey userId bundleName) nofun ?_ hm
  rintro m ⟨bundleName, events, enable, userId⟩ t ih hstep key hkey
  obtain rfl : m.updateDisableEvents bundleName events enable userId = t := Option.some.inj hstep
  have hinsert : ∀ (events : List String), ((AList.insert (bundleKey userId bundleName) events
      m.disableEvents).lookup key).isSome →
      ∃ userId bundleName, key = bundleKey userId bundleName := by
    intro events hsome
    rw [Dict.lookup_insert_ite] at hsome
    split at hsome
    next hk => exact ⟨userId, bundleName, hk⟩
    next => exact ih hsome
  unfold StaticSubscriberManager.updateDisableEvents at hkey
  dsimp only at hkey
  split at hkey
  · split at hkey
    · exact ih hkey
    · exact hinsert _ hkey
  · split at hkey
    · rw [Dict.lookup_erase_ite] at hkey
      split at hkey
      · cases hkey
      · exact ih hkey
    · exact hinsert _ hkey

namespace KvStore

variable {P : Platform} {env : StaticEnvironment} {D : DistributedKv} {dump : Json → String}
  {kv : KvStore} {disableEvents : Dict String (List String)}

/-- What is assumed of the JSON library for a map: the text it makes of each
list is read back, and `0` is read as a number. -/
structure JsonInverse (env : StaticEnvironment) (dump : Json → String)
    (disableEvents : Dict String (List String)) : Prop where
  parse_dump : ∀ key events, disableEvents.lookup key = some events →
    env.parse (dump (.array (events.map .string))) = some (.array (events.map .string))
  parse_zero : env.parse STATIC_SUBSCRIBER_VALUE_DEFAULT = some (.int 0)

/-- The text of a list is not `0`. -/
theorem JsonInverse.convertEventsToValue_ne (h : JsonInverse env dump disableEvents)
    {key : String} {events : List String} (hevents : disableEvents.lookup key = some events) :
    convertEventsToValue dump events ≠ STATIC_SUBSCRIBER_VALUE_DEFAULT := by
  intro hzero
  have hparse := h.parse_dump key events hevents
  rw [show dump (.array (events.map .string)) = STATIC_SUBSCRIBER_VALUE_DEFAULT from hzero,
    h.parse_zero] at hparse
  cases hparse

/-- What a store says of a key under which a list of the map is put. -/
theorem JsonInverse.convertValueToEvents (h : JsonInverse env dump disableEvents)
    {key : String} {events : List String} (hevents : disableEvents.lookup key = some events) :
    StaticSubscriberDataManager.convertValueToEvents env (convertEventsToValue dump events)
      = if events = [] then none else some events :=
  convertValueToEvents_convertEventsToValue (h.parse_dump key events hevents)

variable (dump) in
/-- A save leaves the mark where it was. -/
theorem isUpdated_save (hmark : kv.isUpdated = true) (hread : kv.Readable env)
    (hkeys : disableEvents.lookup IS_UPDATED_KEY = none) :
    (kv.updateStaticSubscriberState P env D dump {} disableEvents).2.isUpdated = true := by
  rw [isUpdated_iff, (save_readable dump hmark hread disableEvents).2, hkeys]
  unfold listed
  rw [if_pos rfl]
  exact isUpdated_iff.mp hmark

/-- **After a save every value can be read exactly if no list saved is
empty.** -/
theorem readable_save_iff (hmark : kv.isUpdated = true) (hread : kv.Readable env)
    (hkeys : disableEvents.lookup IS_UPDATED_KEY = none)
    (hjson : JsonInverse env dump disableEvents) :
    Readable env (kv.updateStaticSubscriberState P env D dump {} disableEvents).2
      ↔ ∀ key, disableEvents.lookup key ≠ some [] := by
  have hstored := (save_readable (P := P) (D := D) dump hmark hread disableEvents).2
  constructor
  · intro hread' key hnil
    have hkey : key ≠ IS_UPDATED_KEY := by
      rintro rfl
      rw [hkeys] at hnil
      cases hnil
    have hvalue := hstored key
    rw [hnil, Option.map_some, Option.some_or] at hvalue
    rcases hread' key _ hvalue hkey with hzero | hsome
    · exact hjson.convertEventsToValue_ne hnil hzero
    · rw [hjson.convertValueToEvents hnil] at hsome
      cases hsome
  · intro hne key value hvalue hkey
    rw [hstored key] at hvalue
    cases hevents : disableEvents.lookup key with
    | some events =>
      rw [hevents, Option.map_some, Option.some_or] at hvalue
      cases hvalue
      refine Or.inr ?_
      rw [hjson.convertValueToEvents hevents, if_neg]
      · rfl
      · rintro rfl
        exact hne key hevents
    | none =>
      rw [hevents, Option.map_none, Option.none_or] at hvalue
      split at hvalue
      · cases hvalue
      · exact hread key value hvalue hkey

/-- What a store says after a save. -/
theorem listed_save (hmark : kv.isUpdated = true) (hread : kv.Readable env)
    (hkeys : disableEvents.lookup IS_UPDATED_KEY = none)
    (hjson : JsonInverse env dump disableEvents)
    (hne : ∀ key, disableEvents.lookup key ≠ some []) (key : String) :
    listed env (kv.updateStaticSubscriberState P env D dump {} disableEvents).2 key
      = disableEvents.lookup key := by
  have hstored := (save_readable (P := P) (D := D) dump hmark hread disableEvents).2 key
  refine Option.ext fun events => ?_
  rw [listed_eq_some, hstored]
  cases hevents : disableEvents.lookup key with
  | some events' =>
    have hkey : key ≠ IS_UPDATED_KEY := by
      rintro rfl
      rw [hkeys] at hevents
      cases hevents
    have hvalue := hjson.convertEventsToValue_ne hevents
    have hback := hjson.convertValueToEvents hevents
    rw [if_neg (by rintro rfl; exact hne key hevents)] at hback
    rw [Option.map_some, Option.some_or]
    constructor
    · rintro ⟨-, value, ⟨⟩, -, heq⟩
      exact hback.symm.trans heq
    · rintro ⟨⟩
      exact ⟨hkey, _, rfl, hvalue, hback⟩
  | none =>
    rw [Option.map_none, Option.none_or]
    constructor
    · rintro ⟨hkey, value, hvalue, hzero, heq⟩
      split at hvalue
      · cases hvalue
      next hsome =>
        exact absurd (Option.isSome_iff_exists.mpr
          ⟨events, listed_eq_some.mpr ⟨hkey, value, hvalue, hzero, heq⟩⟩) hsome
    · nofun

end KvStore

/-- **A map survives in a store.** A query of the store succeeds and yields
the map, and every further save succeeds. -/
structure SurvivesIn (P : Platform) (env : StaticEnvironment) (D : DistributedKv)
    (dump : Json → String) (stored : KvStore) (disableEvents : Dict String (List String)) :
    Prop where
  result : (stored.queryStaticSubscriberStateData P env D {} ∅ []).result = .ERR_OK
  same : Dict.Agree (stored.queryStaticSubscriberStateData P env D {} ∅ []).disableEvents
    disableEvents
  again : ∀ disableEvents',
    ((stored.queryStaticSubscriberStateData P env D {} ∅ []).kvStore.updateStaticSubscriberState
      P env D dump {} disableEvents').1 = .ERR_OK

variable {P : Platform} {env : StaticEnvironment} {D : DistributedKv} {dump : Json → String}
  {kv : KvStore} {m : StaticSubscriberManager}

/-- **The disable state survives a save exactly if no list in it is empty.** -/
theorem survivesIn_save_iff (hm : disableMachine.Reachable m) (hmark : kv.isUpdated = true)
    (hjson : KvStore.JsonInverse env dump m.disableEvents)
    (hsaved : (kv.updateStaticSubscriberState P env D dump {} m.disableEvents).1 = .ERR_OK) :
    SurvivesIn P env D dump
        (kv.updateStaticSubscriberState P env D dump {} m.disableEvents).2 m.disableEvents
      ↔ ∀ key, m.disableEvents.lookup key ≠ some [] := by
  have hread := (KvStore.save_ok_iff hmark _).mp hsaved
  have hkeys : m.disableEvents.lookup IS_UPDATED_KEY = none := by
    by_contra hsome
    obtain ⟨userId, bundleName, hkey⟩ :=
      disableEvents_key hm (Option.isSome_iff_ne_none.mpr hsome)
    exact bundleKey_ne_updated userId bundleName hkey.symm
  have hmark' := KvStore.isUpdated_save (P := P) (D := D) dump hmark hread hkeys
  have hiff := KvStore.readable_save_iff (P := P) (D := D) hmark hread hkeys hjson
  constructor
  · exact fun h => hiff.mp ((KvStore.query_ok_iff hmark' _ _).mp h.result)
  · intro hne
    have hread' := hiff.mpr hne
    obtain ⟨hok, hlists, -, hkv⟩ :=
      KvStore.query_readable (P := P) (D := D) hmark' hread' ∅ []
    refine ⟨hok, ?_, ?_⟩
    · intro key
      rw [hlists key, AList.lookup_empty, Option.none_or]
      exact KvStore.listed_save hmark hread hkeys hjson hne key
    · intro disableEvents'
      exact (KvStore.save_ok_iff (KvStore.isUpdated_congr hkv hmark') disableEvents').mpr
        (KvStore.readable_congr hkv hread')

/-- The JSON text of the two lists below. -/
def jsonText : Json → String
  | .array [] => "[]"
  | .array [.string "e"] => "[\"e\"]"
  | _ => "null"

/-- An environment that reads these texts. -/
def jsonEnvironment : StaticEnvironment where
  parse
    | "[]" => some (.array [])
    | "[\"e\"]" => some (.array [.string "e"])
    | "0" => some (.int 0)
    | _ => none

/-- A store with nothing but the mark. -/
def markedStore : KvStore := AList.insert IS_UPDATED_KEY KEY_IS_ALREADY_UPDATED ∅

theorem readable_markedStore : KvStore.Readable jsonEnvironment markedStore := by
  intro key value hvalue hkey
  unfold markedStore at hvalue
  rw [Dict.lookup_insert_ite, if_neg hkey] at hvalue
  cases hvalue

/-- The manager after some events of one bundle are switched off. -/
def switchedOff (events : List String) : StaticSubscriberManager :=
  ({} : StaticSubscriberManager).updateDisableEvents "b" events false 100

theorem reachable_switchedOff (events : List String) :
    disableMachine.Reachable (switchedOff events) :=
  ⟨[⟨"b", events, false, 100⟩], rfl⟩

theorem lookup_switchedOff (events : List String) (key : String) :
    (switchedOff events).disableEvents.lookup key
      = if key = bundleKey 100 "b" then some events else none := by
  show (AList.insert (bundleKey 100 "b") events (∅ : Dict String (List String))).lookup key = _
  rw [Dict.lookup_insert_ite, AList.lookup_empty]

theorem jsonInverse_switchedOff (events : List String)
    (h : jsonEnvironment.parse (jsonText (.array (events.map .string)))
      = some (.array (events.map .string))) :
    KvStore.JsonInverse jsonEnvironment jsonText (switchedOff events).disableEvents := by
  refine ⟨?_, rfl⟩
  intro key events' hevents
  rw [lookup_switchedOff] at hevents
  split at hevents
  · cases hevents
    exact h
  · cases hevents

/-- One event switched off survives the save. -/
theorem survivesIn_save_iff_one :
    SurvivesIn {} jsonEnvironment {} jsonText
      (markedStore.updateStaticSubscriberState {} jsonEnvironment {} jsonText {}
        (switchedOff ["e"]).disableEvents).2 (switchedOff ["e"]).disableEvents := by
  refine (survivesIn_save_iff (reachable_switchedOff ["e"]) rfl (jsonInverse_switchedOff ["e"] rfl)
    ((KvStore.save_ok_iff rfl _).mpr readable_markedStore)).mpr ?_
  intro key hnil
  rw [lookup_switchedOff] at hnil
  split at hnil <;> cases hnil

/-- **The disable state may not survive its save**: a bundle that switches
off an empty list of events leaves a value that cannot be read back. -/
theorem unreadable_after_save :
    ¬ ∀ (P : Platform) (env : StaticEnvironment) (D : DistributedKv) (dump : Json → String)
      (kv : KvStore) (m : StaticSubscriberManager), disableMachine.Reachable m →
      kv.isUpdated = true → KvStore.JsonInverse env dump m.disableEvents →
      (kv.updateStaticSubscriberState P env D dump {} m.disableEvents).1 = .ERR_OK →
      SurvivesIn P env D dump
        (kv.updateStaticSubscriberState P env D dump {} m.disableEvents).2 m.disableEvents := by
  intro h
  have hjson := jsonInverse_switchedOff [] rfl
  have hkeys : (switchedOff []).disableEvents.lookup IS_UPDATED_KEY = none := by
    rw [lookup_switchedOff, if_neg (bundleKey_ne_updated 100 "b").symm]
  have hsurvives := h {} jsonEnvironment {} jsonText markedStore (switchedOff [])
    (reachable_switchedOff []) rfl hjson ((KvStore.save_ok_iff rfl _).mpr readable_markedStore)
  have hmark := KvStore.isUpdated_save (P := {}) (D := {}) jsonText rfl readable_markedStore hkeys
  have hread := (KvStore.query_ok_iff hmark _ _).mp hsurvives.result
  refine (KvStore.readable_save_iff rfl readable_markedStore hkeys hjson).mp hread
    (bundleKey 100 "b") ?_
  rw [lookup_switchedOff, if_pos rfl]

end CommonEventService

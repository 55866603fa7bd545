import CommonEventService.StaticSubscriberManager

/-!
# The database of the static subscribers

Which events of which bundles are switched off is kept in a key-value store:
under the key of a bundle, the list of its events that are, as JSON text, or
`0` for all of them. The keys once started with a uid, where they now have a
user; a query moves what it finds under old keys to new ones, and marks the
store as updated when it is done.

`StaticSubscriberManager` reads the answers of this database from its
environment. Here they are computed from what is stored, and the stored from
what was saved. The service that stores is not part of this one: in which
order it lists its entries, and which of its operations succeed, is left
open.
-/

namespace CommonEventService

def IS_UPDATED_KEY : String := "is_updated_key"
def KEY_IS_ALREADY_UPDATED : String := "true"
def STATIC_SUBSCRIBER_VALUE_DEFAULT : String := "0"

inductive ErrCode where
  | ERR_OK
  | ERR_NO_INIT
  | ERR_INVALID_OPERATION
  | ERR_INVALID_VALUE
  deriving DecidableEq, Repr

/-- What is stored. -/
abbrev KvStore := Dict String String

/-- **The order in which the entries of a store are listed.** -/
structure DistributedKv where
  getEntries : KvStore → List (String × String) := Dict.toList
  isListing : ∀ kv, Dict.IsListing (getEntries kv) kv := by exact Dict.isListing_toList

/-- Which operations of a query succeed. One that fails leaves what is
stored. -/
structure QueryAnswers where
  checkKvStore : Bool := true
  getEntries : Bool := true
  get : Bool := true
  deleteBatch : Bool := true
  putBatch : Bool := true
  put : Bool := true

/-- Which operations of a save succeed. -/
structure SaveAnswers where
  query : QueryAnswers := {}
  checkKvStore : Bool := true
  delete : String → Bool := fun _ => true
  put : String → Bool := fun _ => true

/-- **The loop of `QueryStaticSubscriberStateData`.** -/
structure QueryLoop where
  result : ErrCode := .ERR_OK
  removeOldkeys : List String := []
  migrateValues : Dict String String := ∅
  disableEvents : Dict String (List String) := ∅
  bundleList : List String := []

/-- What a query answers, and what is stored after it. -/
structure Query where
  result : ErrCode
  disableEvents : Dict String (List String)
  bundleList : List String
  kvStore : KvStore

namespace StaticSubscriberDataManager

variable (P : Platform) (env : StaticEnvironment)

/-- `GetValidKey`: the key an entry moves to, where it has to move. -/
def getValidKey (key : String) : ErrCode × Option String :=
  if key = "" then (.ERR_INVALID_VALUE, none) else (.ERR_OK, isNeedUpdateKey P key)

/-- One pass of the loop, up to the values: which keys the entry of `key`
goes by. `none` is a key that is passed over. -/
def migrateKey (isUpdatedValue : Bool) (loop : QueryLoop) (key value : String) :
    QueryLoop × Option String :=
  match (if isUpdatedValue then (.ERR_OK, none) else getValidKey P key : ErrCode × Option String)
    with
  | (.ERR_OK, none) => ({ loop with result := .ERR_OK }, some key)
  | (.ERR_OK, some newKey) =>
    ({ loop with
       result := .ERR_OK
       removeOldkeys := loop.removeOldkeys ++ [key]
       migrateValues := Dict.emplace loop.migrateValues newKey value }, some newKey)
  | (result, _) => ({ loop with result := result }, none)

/-- The loop over the entries: it ends at the first value that cannot be
read. -/
def queryLoop (isUpdatedValue : Bool) : QueryLoop → List (String × String) → QueryLoop
  | loop, [] => loop
  | loop, (key, value) :: entries =>
    if key = IS_UPDATED_KEY then queryLoop isUpdatedValue loop entries
    else
      match migrateKey P isUpdatedValue loop key value with
      | (loop, none) => queryLoop isUpdatedValue loop entries
      | (loop, some nk) =>
        if value = STATIC_SUBSCRIBER_VALUE_DEFAULT then
          queryLoop isUpdatedValue { loop with bundleList := loop.bundleList ++ [nk] } entries
        else
          match convertValueToEvents env value with
          | none => { loop with result := .ERR_INVALID_OPERATION }
          | some values =>
            queryLoop isUpdatedValue
              { loop with disableEvents := Dict.emplace loop.disableEvents nk values } entries

end StaticSubscriberDataManager

/-! ## Keys -/

theorem mem_toString_int {u : Int} {c : Char} (h : c ∈ (toString u).toList) :
    c.isDigit = true ∨ c = '-' := by
  rw [Int.toString_eq_repr] at h
  cases u with
  | ofNat n =>
    change c ∈ (Nat.repr n).toList at h
    rw [Nat.toList_repr] at h
    exact Or.inl (Nat.isDigit_of_mem_toDigits (by decide) (by decide) h)
  | negSucc n =>
    change c ∈ ("-" ++ Nat.repr (n + 1)).toList at h
    rw [String.toList_append, Nat.toList_repr, List.mem_append] at h
    rcases h with h | h
    · exact Or.inr (by simpa using h)
    · exact Or.inl (Nat.isDigit_of_mem_toDigits (by decide) (by decide) h)

theorem toList_bundleKey (u : Int) (b : String) :
    (bundleKey u b).toList = (toString u).toList ++ '_' :: b.toList := by
  unfold bundleKey
  rw [String.toList_append, String.toList_append, List.append_assoc]
  rfl

/-- The key of a bundle is not the mark. -/
theorem bundleKey_ne_updated (u : Int) (b : String) : bundleKey u b ≠ IS_UPDATED_KEY := by
  intro h
  have hlist := congrArg String.toList h
  rw [toList_bundleKey] at hlist
  cases hu : (toString u).toList with
  | nil =>
    rw [hu] at hlist
    cases hlist
  | cons c cs =>
    rw [hu] at hlist
    have hc : c = 'i' := (List.cons.inj hlist).1
    have hmem := mem_toString_int (u := u) (c := c) (by rw [hu]; exact List.mem_cons_self)
    rw [hc] at hmem
    revert hmem
    decide

open StaticSubscriberDataManager (queryLoop)

namespace KvStore

variable (P : Platform) (env : StaticEnvironment) (D : DistributedKv)
  (dump : Json → String) (kv : KvStore)

/-- `Put` of the mark. -/
def putUpdated (ok : Bool) : KvStore :=
  if ok then AList.insert IS_UPDATED_KEY KEY_IS_ALREADY_UPDATED kv else kv

/-- Whether the store bears the mark. -/
def isUpdated : Bool := kv.lookup IS_UPDATED_KEY = some KEY_IS_ALREADY_UPDATED

/-- `UpdateDistributedKv`. -/
def updateDistributedKv (answers : QueryAnswers) (oldkeys : List String)
    (migrateValues : Dict String String) : KvStore :=
  let kv := if answers.deleteBatch then oldkeys.foldl (fun kv key => AList.erase key kv) kv else kv
  let kv := if answers.putBatch then migrateValues ∪ kv else kv
  putUpdated kv answers.put

/-- **`QueryStaticSubscriberStateData`.** -/
def queryStaticSubscriberStateData (answers : QueryAnswers)
    (disableEvents : Dict String (List String)) (bundleList : List String) : Query :=
  if !answers.checkKvStore then ⟨.ERR_NO_INIT, disableEvents, bundleList, kv⟩
  else if !answers.getEntries then ⟨.ERR_INVALID_OPERATION, disableEvents, bundleList, kv⟩
  else if D.getEntries kv = [] then ⟨.ERR_OK, disableEvents, bundleList, kv⟩
  else
    let isUpdatedValue := answers.get && isUpdated kv
    let loop := queryLoop P env isUpdatedValue
      { disableEvents := disableEvents, bundleList := bundleList } (D.getEntries kv)
    ⟨loop.result, loop.disableEvents, loop.bundleList,
      updateDistributedKv kv answers loop.removeOldkeys loop.migrateValues⟩

/-- `ConvertEventsToValue`. -/
def convertEventsToValue (events : List String) : String :=
  dump (.array (events.map .string))

/-- The loop of `UpdateStaticSubscriberState` that deletes. -/
def deleteKeys (delete : String → Bool) : KvStore → List String → Bool × KvStore
  | kv, [] => (true, kv)
  | kv, key :: keys =>
    if delete key then deleteKeys delete (AList.erase key kv) keys else (false, kv)

/-- The loop of `UpdateStaticSubscriberState` that puts. -/
def putEvents (put : String → Bool) : KvStore → List (String × List String) → Bool × KvStore
  | kv, [] => (true, kv)
  | kv, (key, events) :: disableEvents =>
    if put key
    then putEvents put (AList.insert key (convertEventsToValue dump events) kv) disableEvents
    else (false, kv)

/-- **`UpdateStaticSubscriberState`**: what a query finds in the store is
taken out of it, and the map given is put in. -/
def updateStaticSubscriberState (answers : SaveAnswers)
    (disableEvents : Dict String (List String)) : ErrCode × KvStore :=
  let q := queryStaticSubscriberStateData P env D kv answers.query ∅ []
  if q.result ≠ .ERR_OK then (q.result, q.kvStore)
  else if !answers.checkKvStore then (.ERR_NO_INIT, q.kvStore)
  else
    match deleteKeys answers.delete (putUpdated q.kvStore (answers.put IS_UPDATED_KEY))
        q.disableEvents.keys with
    | (false, kv) => (.ERR_INVALID_OPERATION, kv)
    | (true, kv) =>
      match putEvents dump answers.put kv (Dict.toList disableEvents) with
      | (false, kv) => (.ERR_INVALID_OPERATION, kv)
      | (true, kv) => (.ERR_OK, kv)

/-! ## What a store says -/

/-- The events that are listed under a key. -/
def listed (kv : KvStore) (key : String) : Option (List String) :=
  if key = IS_UPDATED_KEY then none
  else
    match kv.lookup key with
    | none => none
    | some value =>
      if value = STATIC_SUBSCRIBER_VALUE_DEFAULT then none
      else StaticSubscriberDataManager.convertValueToEvents env value

/-- All events of the bundle of a key are off. -/
def Legacy (kv : KvStore) (key : String) : Prop :=
  key ≠ IS_UPDATED_KEY ∧ kv.lookup key = some STATIC_SUBSCRIBER_VALUE_DEFAULT

/-- Every value can be read. -/
def Readable (kv : KvStore) : Prop :=
  ∀ key value, kv.lookup key = some value → key ≠ IS_UPDATED_KEY →
    value = STATIC_SUBSCRIBER_VALUE_DEFAULT
      ∨ (StaticSubscriberDataManager.convertValueToEvents env value).isSome

variable {P env D dump kv}

theorem listed_legacy {key : String} (h : kv.Legacy key) : kv.listed env key = none := by
  unfold listed
  rw [if_neg h.1, h.2]
  exact if_pos rfl

section Agree

variable {kv' : KvStore} (h : Dict.Agree kv' kv)
include h

theorem listed_congr (key : String) : kv'.listed env key = kv.listed env key := by
  unfold listed
  rw [h key]

theorem legacy_congr (key : String) : kv'.Legacy key ↔ kv.Legacy key := by
  unfold Legacy
  rw [h key]

theorem readable_congr (hread : kv.Readable env) : kv'.Readable env := by
  intro key value hvalue
  rw [h key] at hvalue
  exact hread key value hvalue

theorem isUpdated_congr (hmark : kv.isUpdated = true) : kv'.isUpdated = true := by
  unfold isUpdated
  rw [h IS_UPDATED_KEY]
  exact hmark

end Agree

/-- What is stored is read back, unless it is the empty list. -/
theorem convertValueToEvents_convertEventsToValue {events : List String}
    (hparse : env.parse (convertEventsToValue dump events)
      = some (.array (events.map .string))) :
    StaticSubscriberDataManager.convertValueToEvents env (convertEventsToValue dump events)
      = if events = [] then none else some events := by
  unfold StaticSubscriberDataManager.convertValueToEvents
  rw [hparse]
  cases events with
  | nil => rfl
  | cons first rest =>
    rw [if_neg nofun]
    show some (((first :: rest).map Json.string).filterMap _) = _
    rw [List.filterMap_map]
    exact congrArg some (List.filterMap_some)

/-! ## The loop over an updated store -/

/-- With the mark, an entry goes by its own key. -/
theorem queryLoop_updated_cons (loop : QueryLoop) (key value : String)
    (entries : List (String × String)) :
    queryLoop P env true loop ((key, value) :: entries)
      = if key = IS_UPDATED_KEY then queryLoop P env true loop entries
        else if value = STATIC_SUBSCRIBER_VALUE_DEFAULT then
          queryLoop P env true
            { loop with result := .ERR_OK, bundleList := loop.bundleList ++ [key] } entries
        else
          match StaticSubscriberDataManager.convertValueToEvents env value with
          | none => { loop with result := .ERR_INVALID_OPERATION }
          | some values =>
            queryLoop P env true
              { loop with
                result := .ERR_OK
                disableEvents := Dict.emplace loop.disableEvents key values } entries := rfl

/-- Nothing is to be moved in a store that bears the mark. -/
theorem queryLoop_updated_keys (entries : List (String × String)) (loop : QueryLoop) :
    (queryLoop P env true loop entries).removeOldkeys = loop.removeOldkeys
      ∧ (queryLoop P env true loop entries).migrateValues = loop.migrateValues := by
  induction entries generalizing loop with
  | nil => exact ⟨rfl, rfl⟩
  | cons entry entries ih =>
    obtain ⟨key, value⟩ := entry
    rw [queryLoop_updated_cons]
    split
    · exact ih loop
    · split
      · exact ih _
      · split
        · exact ⟨rfl, rfl⟩
        · exact ih _

variable (env) in
/-- The lists of events among the entries. -/
def eventLists (entries : List (String × String)) : List (String × List String) :=
  entries.filterMap (fun entry =>
    if entry.1 = IS_UPDATED_KEY ∨ entry.2 = STATIC_SUBSCRIBER_VALUE_DEFAULT then none
    else (StaticSubscriberDataManager.convertValueToEvents env entry.2).map
      (fun events => (entry.1, events)))

/-- The keys of the bundles that have all their events off. -/
def legacyKeys (entries : List (String × String)) : List String :=
  (entries.filter (fun entry =>
    entry.1 ≠ IS_UPDATED_KEY ∧ entry.2 = STATIC_SUBSCRIBER_VALUE_DEFAULT)).map Prod.fst

theorem eventLists_cons_skip {key value : String} (entries : List (String × String))
    (h : key = IS_UPDATED_KEY ∨ value = STATIC_SUBSCRIBER_VALUE_DEFAULT) :
    eventLists env ((key, value) :: entries) = eventLists env entries := by
  unfold eventLists
  exact List.filterMap_cons_none (by exact if_pos h)

theorem eventLists_cons {key value : String} {events : List String}
    (entries : List (String × String))
    (h : ¬ (key = IS_UPDATED_KEY ∨ value = STATIC_SUBSCRIBER_VALUE_DEFAULT))
    (hevents : StaticSubscriberDataManager.convertValueToEvents env value = some events) :
    eventLists env ((key, value) :: entries) = (key, events) :: eventLists env entries := by
  rw [eventLists, List.filterMap_cons_some (b := (key, events))
    (by rw [if_neg h, hevents, Option.map_some])]
  rfl

theorem legacyKeys_cons {key : String} (entries : List (String × String))
    (h : key ≠ IS_UPDATED_KEY) :
    legacyKeys ((key, STATIC_SUBSCRIBER_VALUE_DEFAULT) :: entries) = key :: legacyKeys entries := by
  rw [legacyKeys, List.filter_cons_of_pos (by simp [h])]
  rfl

theorem legacyKeys_cons_skip {key value : String} (entries : List (String × String))
    (h : key = IS_UPDATED_KEY ∨ value ≠ STATIC_SUBSCRIBER_VALUE_DEFAULT) :
    legacyKeys ((key, value) :: entries) = legacyKeys entries := by
  rw [legacyKeys, List.filter_cons_of_neg]
  · rfl
  · rcases h with h | h
    · simp [h]
    · simp [h]

/-- **Where every value can be read**, the loop finds every entry. -/
theorem queryLoop_updated (entries : List (String × String)) (loop : QueryLoop)
    (hok : loop.result = .ERR_OK)
    (hread : ∀ entry ∈ entries, entry.1 ≠ IS_UPDATED_KEY →
      entry.2 = STATIC_SUBSCRIBER_VALUE_DEFAULT
        ∨ (StaticSubscriberDataManager.convertValueToEvents env entry.2).isSome) :
    queryLoop P env true loop entries
      = { loop with
          disableEvents := Dict.emplaceAll loop.disableEvents (eventLists env entries)
          bundleList := loop.bundleList ++ legacyKeys entries } := by
  induction entries generalizing loop with
  | nil =>
    show loop = { loop with
      disableEvents := loop.disableEvents
      bundleList := loop.bundleList ++ [] }
    rw [List.append_nil]
  | cons entry entries ih =>
    obtain ⟨key, value⟩ := entry
    have hrest := fun entry hentry => hread entry (List.mem_cons_of_mem _ hentry)
    rw [queryLoop_updated_cons]
    split
    next hkey =>
      rw [ih loop hok hrest, eventLists_cons_skip _ (Or.inl hkey),
        legacyKeys_cons_skip _ (Or.inl hkey)]
    next hkey =>
      split
      next hvalue =>
        subst hvalue
        rw [ih _ rfl hrest, eventLists_cons_skip _ (Or.inr rfl), legacyKeys_cons _ hkey,
          ← hok, List.append_assoc, List.singleton_append]
      next hvalue =>
        obtain ⟨values, hvalues⟩ :=
          Option.isSome_iff_exists.mp ((hread _ List.mem_cons_self hkey).resolve_left hvalue)
        rw [show StaticSubscriberDataManager.convertValueToEvents env value = some values
          from hvalues]
        dsimp only
        rw [ih _ rfl hrest, eventLists_cons _ (not_or.mpr ⟨hkey, hvalue⟩) hvalues,
          legacyKeys_cons_skip _ (Or.inr hvalue), ← hok]
        rfl

/-- Where some value cannot be read, the loop fails. -/
theorem queryLoop_updated_error {entries : List (String × String)} (loop : QueryLoop)
    {key value : String} (hentry : (key, value) ∈ entries) (hkey : key ≠ IS_UPDATED_KEY)
    (hvalue : value ≠ STATIC_SUBSCRIBER_VALUE_DEFAULT)
    (hnone : StaticSubscriberDataManager.convertValueToEvents env value = none) :
    (queryLoop P env true loop entries).result = .ERR_INVALID_OPERATION := by
  induction entries generalizing loop with
  | nil => cases hentry
  | cons entry entries ih =>
    obtain ⟨k, v⟩ := entry
    rw [queryLoop_updated_cons]
    rcases List.mem_cons.mp hentry with heq | hmem
    · cases heq
      rw [if_neg hkey, if_neg hvalue, hnone]
    · split
      · exact ih _ hmem
      · split
        · exact ih _ hmem
        · split
          · rfl
          · exact ih _ hmem

/-! ## Queries and saves -/

theorem listed_eq_some {key : String} {events : List String} :
    kv.listed env key = some events ↔ key ≠ IS_UPDATED_KEY ∧ ∃ value, kv.lookup key = some value
      ∧ value ≠ STATIC_SUBSCRIBER_VALUE_DEFAULT
      ∧ StaticSubscriberDataManager.convertValueToEvents env value = some events := by
  unfold listed
  split
  next hkey => simp [hkey]
  next hkey =>
    cases hl : kv.lookup key with
    | none => simp
    | some value =>
      by_cases hvalue : value = STATIC_SUBSCRIBER_VALUE_DEFAULT
      · simp [hvalue]
      · simp [hkey, hvalue]

theorem mem_eventLists {entries : List (String × String)} {key : String} {events : List String} :
    (key, events) ∈ eventLists env entries ↔ ∃ value, (key, value) ∈ entries
      ∧ key ≠ IS_UPDATED_KEY ∧ value ≠ STATIC_SUBSCRIBER_VALUE_DEFAULT
      ∧ StaticSubscriberDataManager.convertValueToEvents env value = some events := by
  unfold eventLists
  rw [List.mem_filterMap]
  constructor
  · rintro ⟨⟨k, value⟩, hmem, heq⟩
    split at heq
    next => cases heq
    next h =>
      obtain ⟨events', hevents, heq⟩ := Option.map_eq_some_iff.mp heq
      cases heq
      exact ⟨value, hmem, (not_or.mp h).1, (not_or.mp h).2, hevents⟩
  · rintro ⟨value, hmem, hkey, hvalue, hevents⟩
    refine ⟨(key, value), hmem, ?_⟩
    rw [if_neg (not_or.mpr ⟨hkey, hvalue⟩), hevents]
    rfl

/-- The lists of events among the entries of a store are those it says. -/
theorem lookup_eventLists {entries : List (String × String)} (h : Dict.IsListing entries kv)
    (key : String) : (eventLists env entries).lookup key = kv.listed env key := by
  have hsub : ((eventLists env entries).map Prod.fst).Sublist (entries.map Prod.fst) := by
    refine Dict.sublist_keys_filterMap ?_ entries
    intro entry entry' heq
    split at heq
    · cases heq
    · obtain ⟨events, -, rfl⟩ := Option.map_eq_some_iff.mp heq
      rfl
  refine Option.ext fun events => ?_
  rw [Dict.lookup_eq_some_iff (h.nodup.sublist hsub), mem_eventLists, listed_eq_some]
  constructor
  · rintro ⟨value, hmem, hkey, hvalue⟩
    exact ⟨hkey, value, (h.mem _ _).mp hmem, hvalue⟩
  · rintro ⟨hkey, value, hlookup, hvalue⟩
    exact ⟨value, (h.mem _ _).mpr hlookup, hkey, hvalue⟩

theorem mem_legacyKeys {entries : List (String × String)} (h : Dict.IsListing entries kv)
    (key : String) : key ∈ legacyKeys entries ↔ kv.Legacy key := by
  unfold legacyKeys Legacy
  rw [List.mem_map]
  constructor
  · rintro ⟨⟨k, value⟩, hmem, rfl⟩
    obtain ⟨hmem, hcond⟩ := List.mem_filter.mp hmem
    obtain ⟨hkey, rfl⟩ := of_decide_eq_true hcond
    exact ⟨hkey, (h.mem _ _).mp hmem⟩
  · rintro ⟨hkey, hlookup⟩
    exact ⟨(key, _), List.mem_filter.mpr ⟨(h.mem _ _).mpr hlookup, decide_eq_true ⟨hkey, rfl⟩⟩, rfl⟩

theorem isUpdated_iff :
    kv.isUpdated = true ↔ kv.lookup IS_UPDATED_KEY = some KEY_IS_ALREADY_UPDATED :=
  decide_eq_true_iff

/-- The mark put once more changes nothing. -/
theorem agree_putUpdated (hmark : kv.isUpdated = true) (ok : Bool) :
    Dict.Agree (kv.putUpdated ok) kv := by
  intro key
  unfold putUpdated
  split
  · rw [Dict.lookup_insert_ite]
    split
    next h => rw [h, isUpdated_iff.mp hmark]
    next => rfl
  · rfl

/-- A query of a store that bears the mark, once all operations succeed. -/
theorem queryStaticSubscriberStateData_updated (hmark : kv.isUpdated = true)
    (disableEvents : Dict String (List String)) (bundleList : List String) :
    let loop := queryLoop P env true { disableEvents := disableEvents, bundleList := bundleList }
      (D.getEntries kv)
    kv.queryStaticSubscriberStateData P env D {} disableEvents bundleList
      = ⟨loop.result, loop.disableEvents, loop.bundleList, kv.putUpdated true⟩ := by
  have hne : D.getEntries kv ≠ [] := by
    intro hnil
    have hmem := ((D.isListing kv).mem _ _).mpr (isUpdated_iff.mp hmark)
    rw [hnil] at hmem
    cases hmem
  intro loop
  obtain ⟨hold, hmigrate⟩ := queryLoop_updated_keys (P := P) (D.getEntries kv)
    { disableEvents := disableEvents, bundleList := bundleList }
  unfold queryStaticSubscriberStateData
  dsimp only
  rw [if_neg nofun, if_neg nofun, if_neg hne, hmark, Bool.and_true, hold, hmigrate]
  show Query.mk _ _ _ (putUpdated (∅ ∪ kv) true) = _
  rw [AList.empty_union]

/-- **What a query answers** where every value can be read: the lists it
holds and those stored, and the bundles with all their events off. What is
stored stays. -/
theorem query_readable (hmark : kv.isUpdated = true) (hread : kv.Readable env)
    (disableEvents : Dict String (List String)) (bundleList : List String) :
    let q := kv.queryStaticSubscriberStateData P env D {} disableEvents bundleList
    q.result = .ERR_OK
    ∧ (∀ key, q.disableEvents.lookup key = (disableEvents.lookup key).or (kv.listed env key))
    ∧ (∀ key, key ∈ q.bundleList ↔ key ∈ bundleList ∨ kv.Legacy key)
    ∧ Dict.Agree q.kvStore kv := by
  have hlisting := D.isListing kv
  intro q
  have hq : q = _ := queryStaticSubscriberStateData_updated hmark disableEvents bundleList
  rw [queryLoop_updated (D.getEntries kv) _ rfl
    (fun entry hentry => hread entry.1 entry.2 ((hlisting.mem _ _).mp hentry))] at hq
  rw [hq]
  refine ⟨rfl, ?_, ?_, agree_putUpdated hmark true⟩
  · intro key
    show (Dict.emplaceAll disableEvents (eventLists env (D.getEntries kv))).lookup key = _
    rw [Dict.lookup_emplaceAll, lookup_eventLists hlisting]
  · intro key
    show key ∈ bundleList ++ legacyKeys (D.getEntries kv) ↔ _
    rw [List.mem_append, mem_legacyKeys hlisting]

/-- A query succeeds exactly if every value can be read. -/
theorem query_ok_iff (hmark : kv.isUpdated = true) (disableEvents : Dict String (List String))
    (bundleList : List String) :
    (kv.queryStaticSubscriberStateData P env D {} disableEvents bundleList).result = .ERR_OK
      ↔ kv.Readable env := by
  constructor
  · intro hok key value hlookup hkey
    by_contra hbad
    obtain ⟨hvalue, hnone⟩ := not_or.mp hbad
    rw [queryStaticSubscriberStateData_updated hmark] at hok
    have herror := queryLoop_updated_error (P := P)
      { disableEvents := disableEvents, bundleList := bundleList }
      (((D.isListing kv).mem _ _).mpr hlookup) hkey hvalue (by simpa using hnone)
    exact ErrCode.noConfusion (hok.symm.trans herror)
  · exact fun hread => (query_readable hmark hread disableEvents bundleList).1

theorem deleteKeys_ok (keys : List String) :
    deleteKeys (fun _ => true) kv keys
      = (true, keys.foldl (fun kv key => AList.erase key kv) kv) := by
  induction keys generalizing kv with
  | nil => rfl
  | cons key keys ih =>
    rw [deleteKeys, if_pos rfl, ih]
    rfl

/-- Lists put one after the other, under different keys, are all there in the
end. -/
theorem putEvents_ok (disableEvents : List (String × List String))
    (hnodup : (disableEvents.map Prod.fst).Nodup) :
    ∃ kv', putEvents dump (fun _ => true) kv disableEvents = (true, kv')
      ∧ ∀ key, kv'.lookup key
        = ((disableEvents.lookup key).map (convertEventsToValue dump)).or (kv.lookup key) := by
  induction disableEvents generalizing kv with
  | nil => exact ⟨kv, rfl, fun _ => rfl⟩
  | cons entry disableEvents ih =>
    obtain ⟨key, events⟩ := entry
    rw [List.map_cons, List.nodup_cons] at hnodup
    obtain ⟨kv', heq, hlookup⟩ :=
      ih hnodup.2
    refine ⟨kv', by rw [putEvents, if_pos rfl, heq], ?_⟩
    intro k
    rw [hlookup k, Dict.lookup_insert_ite, List.lookup_cons]
    by_cases hk : k = key
    · have hnone : disableEvents.lookup k = none := by
        rw [← Option.not_isSome_iff_eq_none, Option.isSome_iff_exists]
        rintro ⟨events', hevents⟩
        have hmem := (Dict.lookup_eq_some_iff hnodup.2).mp hevents
        exact hnodup.1 (List.mem_map.mpr ⟨_, hmem, hk⟩)
      simp [hk, hk ▸ hnone]
    · rw [if_neg hk, beq_false_of_ne hk]

variable (dump) in
/-- **What a save leaves stored** where every value can be read: the map
given, and what a query does not list. -/
theorem save_readable (hmark : kv.isUpdated = true) (hread : kv.Readable env)
    (disableEvents : Dict String (List String)) :
    let r := kv.updateStaticSubscriberState P env D dump {} disableEvents
    r.1 = .ERR_OK
    ∧ ∀ key, r.2.lookup key
        = ((disableEvents.lookup key).map (convertEventsToValue dump)).or
            (if (kv.listed env key).isSome then none else kv.lookup key) := by
  obtain ⟨hok, hlists, -, hkv⟩ := query_readable (P := P) (D := D) hmark hread ∅ []
  intro r
  have hr : r = kv.updateStaticSubscriberState P env D dump {} disableEvents := rfl
  unfold updateStaticSubscriberState at hr
  dsimp only at hr
  generalize kv.queryStaticSubscriberStateData P env D {} ∅ [] = q at hok hlists hkv hr
  obtain ⟨kv', hput, hlookup⟩ := putEvents_ok disableEvents.toList
    (Dict.isListing_toList disableEvents).nodup
  rw [hok, if_neg nofun, if_neg nofun, deleteKeys_ok] at hr
  dsimp only at hr
  rw [hput] at hr
  rw [hr]
  refine ⟨rfl, ?_⟩
  intro key
  have hmark' := isUpdated_congr hkv hmark
  have hsame := (Dict.isListing_toList disableEvents).lookup_eq key
  have hlisted : key ∈ q.disableEvents.keys ↔ (kv.listed env key).isSome = true := by
    have hkey := hlists key
    rw [AList.lookup_empty, Option.none_or] at hkey
    rw [← hkey]
    exact AList.mem_keys.symm.trans AList.lookup_isSome.symm
  show kv'.lookup key = _
  rw [hlookup key, hsame, Dict.lookup_foldl_erase, agree_putUpdated hmark' true key, hkv key]
  by_cases hsome : (kv.listed env key).isSome = true
  · rw [if_pos hsome, if_pos (hlisted.mpr hsome)]
  · rw [if_neg hsome, if_neg (fun hmem => hsome (hlisted.mp hmem))]

/-- A save succeeds exactly if every value stored before it can be read. -/
theorem save_ok_iff (hmark : kv.isUpdated = true) (disableEvents : Dict String (List String)) :
    (kv.updateStaticSubscriberState P env D dump {} disableEvents).1 = .ERR_OK
      ↔ kv.Readable env := by
  constructor
  · intro hok
    by_contra hbad
    unfold updateStaticSubscriberState at hok
    dsimp only at hok
    have hq := mt (query_ok_iff (P := P) (D := D) hmark ∅ []).mp hbad
    rw [if_pos hq] at hok
    exact hq hok
  · exact fun hread => (save_readable dump hmark hread disableEvents).1

end KvStore

end CommonEventService

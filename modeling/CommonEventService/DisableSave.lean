import CommonEventService.LegacyMigration
import CommonEventService.KeyMigration

/-!
# A save that fails

`UpdateDisableEvents` changes what is held in memory, and then saves it: what a
query finds in the store is deleted key by key, and the lists held are put one
by one. Every step may fail, and one that does ends the save; nothing is taken
back, in memory or in the store. So a failed call has been made as far as
memory goes, and the store is somewhere between what it was and what it was to
become – where it is exactly is said here, and what it is after a save that
succeeds.
-/

namespace CommonEventService

open StaticSubscriberDataManager

namespace StaticSubscriberManager

variable (P : Platform) (env : StaticEnvironment) (D : DistributedKv) (dump : Json → String)

/-- **`UpdateDisableEvents`** over a store: its result, and what it leaves in
memory and in the store. -/
def updateDisableEventsOn (answers : SaveAnswers) (kv : KvStore) (m : StaticSubscriberManager)
    (bundleName : String) (events : List String) (enable : Bool) (userId : Int) :
    ErrCode × StaticSubscriberManager × KvStore :=
  let m := m.updateDisableEvents bundleName events enable userId
  let (result, kv) := kv.updateStaticSubscriberState P env D dump answers m.disableEvents
  (result, m, kv)

end StaticSubscriberManager

namespace KvStore

variable {P : Platform} {env : StaticEnvironment} {D : DistributedKv} {dump : Json → String}
  {kv : KvStore}

/-! ## The two loops -/

/-- **How far the loop that deletes comes**: to the first key whose deletion
fails. -/
theorem deleteKeys_cases (delete : String → Bool) (kv : KvStore) (keys : List String) :
    ∃ deleted rest, keys = deleted ++ rest
      ∧ deleteKeys delete kv keys
        = (rest.isEmpty, deleted.foldl (fun kv key => AList.erase key kv) kv)
      ∧ ∀ key ∈ rest.head?, delete key = false := by
  induction keys generalizing kv with
  | nil => exact ⟨[], [], rfl, rfl, nofun⟩
  | cons key keys ih =>
    rw [deleteKeys]
    split
    next hdelete =>
      obtain ⟨deleted, rest, hkeys, hresult, hrest⟩ := ih (AList.erase key kv)
      refine ⟨key :: deleted, rest, congrArg (key :: ·) hkeys, hresult, hrest⟩
    next hdelete =>
      refine ⟨[], key :: keys, rfl, rfl, ?_⟩
      rintro _ ⟨⟩
      exact Bool.eq_false_iff.mpr hdelete

/-- **How far the loop that puts comes**: to the first list whose putting
fails. -/
theorem putEvents_cases (put : String → Bool) (kv : KvStore)
    (lists : List (String × List String)) (hnodup : (lists.map Prod.fst).Nodup) :
    ∃ done rest kv', lists = done ++ rest
      ∧ putEvents dump put kv lists = (rest.isEmpty, kv')
      ∧ (∀ key, kv'.lookup key
        = ((done.lookup key).map (convertEventsToValue dump)).or (kv.lookup key))
      ∧ ∀ entry ∈ rest.head?, put entry.1 = false := by
  induction lists generalizing kv with
  | nil => exact ⟨[], [], kv, rfl, rfl, fun _ => rfl, nofun⟩
  | cons entry lists ih =>
    obtain ⟨key, events⟩ := entry
    rw [List.map_cons, List.nodup_cons] at hnodup
    rw [putEvents]
    split
    next hput =>
      obtain ⟨done, rest, kv', hlists, hresult, hlookup, hrest⟩ :=
        ih (AList.insert key (convertEventsToValue dump events) kv) hnodup.2
      refine ⟨(key, events) :: done, rest, kv', congrArg (_ :: ·) hlists, hresult, ?_, hrest⟩
      intro k
      rw [hlookup k, Dict.lookup_insert_ite, List.lookup_cons]
      by_cases hk : k = key
      · have hnone : done.lookup k = none := by
          rw [List.lookup_eq_none_iff]
          intro entry hentry
          rw [bne_iff_ne, hk]
          intro heq
          refine hnodup.1 (List.mem_map.mpr ⟨entry, ?_, heq.symm⟩)
          rw [hlists]
          exact List.mem_append_left _ hentry
        simp [hk, hk ▸ hnone]
      · rw [if_neg hk, beq_false_of_ne hk]
    next hput =>
      refine ⟨[], (key, events) :: lists, kv, rfl, rfl, fun _ => rfl, ?_⟩
      rintro _ ⟨⟩
      exact Bool.eq_false_iff.mpr hput

/-! ## What a query finds -/

/-- **A loop that succeeds has come to every entry**, and found a list wherever
there is one, under the key the entry goes by. -/
theorem queryLoop_found {isUpdatedValue : Bool} {entries : List (String × String)}
    {loop : QueryLoop} (hok : (queryLoop P env isUpdatedValue loop entries).result = .ERR_OK) :
    (∀ key, (loop.disableEvents.lookup key).isSome →
        ((queryLoop P env isUpdatedValue loop entries).disableEvents.lookup key).isSome)
      ∧ ∀ entry ∈ entries, entry.1 ≠ IS_UPDATED_KEY → (isUpdatedValue = true ∨ entry.1 ≠ "") →
        entry.2 ≠ STATIC_SUBSCRIBER_VALUE_DEFAULT →
        ((queryLoop P env isUpdatedValue loop entries).disableEvents.lookup
          (if isUpdatedValue then entry.1 else migratedKey P entry.1)).isSome := by
  induction entries generalizing loop with
  | nil => exact ⟨fun _ h => h, nofun⟩
  | cons first entries ih =>
    obtain ⟨key, value⟩ := first
    rw [queryLoop] at hok ⊢
    rw [List.forall_mem_cons]
    by_cases hmark : key = IS_UPDATED_KEY
    · rw [if_pos hmark] at hok ⊢
      exact ⟨(ih hok).1, fun h => absurd hmark h, (ih hok).2⟩
    rw [if_neg hmark] at hok ⊢
    obtain ⟨hskip, result, heq⟩ | ⟨-, result, removeOldkeys, migrateValues, heq⟩ :=
      StaticSubscriberManager.migrateKey_cases (P := P) isUpdatedValue loop key value
    · -- an empty key is passed over
      rw [heq] at hok ⊢
      dsimp only at hok ⊢
      refine ⟨(ih hok).1, fun _ hkey => ?_, (ih hok).2⟩
      obtain ⟨hold, hempty⟩ := hskip
      obtain hupdated | hne := hkey
      · rw [hupdated] at hold
        cases hold
      · exact absurd hempty hne
    rw [heq] at hok ⊢
    dsimp only at hok ⊢
    by_cases hvalue : value = STATIC_SUBSCRIBER_VALUE_DEFAULT
    · rw [if_pos hvalue] at hok ⊢
      exact ⟨(ih hok).1, fun _ _ h => absurd hvalue h, (ih hok).2⟩
    rw [if_neg hvalue] at hok ⊢
    cases hread : convertValueToEvents env value with
    | none =>
      rw [hread] at hok
      cases hok
    | some values =>
      rw [hread] at hok
      dsimp only at hok ⊢
      obtain ⟨hkept, hfound⟩ := ih hok
      refine ⟨fun k hk => hkept k ?_, fun _ _ _ => hkept _ ?_, hfound⟩
      · rw [Dict.lookup_emplace, Option.isSome_or, hk, Bool.true_or]
      · rw [Dict.lookup_emplace, Option.isSome_or]
        unfold migratedKey
        rw [if_pos rfl, Option.isSome_some, Bool.or_true]

/-- Nothing stops a loop that succeeds. -/
theorem reached_of_ok {entries : List (String × String)} {loop : QueryLoop}
    (hok : (queryLoop P env false loop entries).result = .ERR_OK) :
    reached env entries = entries := by
  induction entries generalizing loop with
  | nil => rfl
  | cons first entries ih =>
    obtain ⟨key, value⟩ := first
    rw [queryLoop] at hok
    rw [reached]
    by_cases hmark : key = IS_UPDATED_KEY
    · rw [if_pos hmark] at hok
      rw [if_neg fun h => h.1.1 hmark, ih hok]
    rw [if_neg hmark] at hok
    obtain ⟨hskip, result, heq⟩ | ⟨-, result, removeOldkeys, migrateValues, heq⟩ :=
      StaticSubscriberManager.migrateKey_cases (P := P) false loop key value
    · rw [heq] at hok
      rw [if_neg fun h => h.2 hskip.2, ih hok]
    rw [heq] at hok
    dsimp only at hok
    by_cases hvalue : value = STATIC_SUBSCRIBER_VALUE_DEFAULT
    · rw [if_pos hvalue] at hok
      rw [if_neg fun h => h.1.2.1 hvalue, ih hok]
    rw [if_neg hvalue] at hok
    cases hread : convertValueToEvents env value with
    | none =>
      rw [hread] at hok
      cases hok
    | some values =>
      rw [hread] at hok
      have hreadable : ¬ (Unreadable env (key, value) ∧ (key, value).1 ≠ "") := by
        rintro ⟨⟨-, -, hnone⟩, -⟩
        rw [show convertValueToEvents env value = none from hnone] at hread
        cases hread
      rw [if_neg hreadable, ih hok]

theorem lookup_putUpdated (kv : KvStore) (ok : Bool) {key : String} (hkey : key ≠ IS_UPDATED_KEY) :
    (kv.putUpdated ok).lookup key = kv.lookup key := by
  unfold putUpdated
  split
  · rw [Dict.lookup_insert_ite, if_neg hkey]
  · rfl

/-- What `UpdateDistributedKv` leaves stored under a key. -/
theorem lookup_updateDistributedKv (kv : KvStore) (answers : QueryAnswers) (oldkeys : List String)
    (migrateValues : Dict String String) {key : String} (hkey : key ≠ IS_UPDATED_KEY) :
    (kv.updateDistributedKv answers oldkeys migrateValues).lookup key
      = (if answers.putBatch then migrateValues.lookup key else none).or
          (if answers.deleteBatch ∧ key ∈ oldkeys then none else kv.lookup key) := by
  unfold updateDistributedKv
  dsimp only
  rw [lookup_putUpdated _ _ hkey]
  have hdelete : (if answers.deleteBatch then oldkeys.foldl (fun kv key => AList.erase key kv) kv
      else kv).lookup key
        = if answers.deleteBatch ∧ key ∈ oldkeys then none else kv.lookup key := by
    by_cases h : answers.deleteBatch = true
    · rw [if_pos h, Dict.lookup_foldl_erase]
      simp [h]
    · rw [if_neg h, if_neg fun h' => h h'.1]
  split
  · rw [Dict.lookup_union, hdelete]
  · rw [hdelete, Option.none_or]

/-- **What is stored after the loop comes from an entry** that goes by its key,
where the loop moves no keys, or the old ones are deleted. -/
theorem origin_of_stored {isUpdatedValue : Bool} {answers : QueryAnswers}
    (hok : (queryLoop P env isUpdatedValue {} (D.getEntries kv)).result = .ERR_OK)
    (hmoved : isUpdatedValue = true ∨ answers.deleteBatch = true) {key value : String}
    (hkey : key ≠ IS_UPDATED_KEY)
    (hvalue : (kv.updateDistributedKv answers
      (queryLoop P env isUpdatedValue {} (D.getEntries kv)).removeOldkeys
      (queryLoop P env isUpdatedValue {} (D.getEntries kv)).migrateValues).lookup key
        = some value) :
    ∃ oldkey, (oldkey, value) ∈ D.getEntries kv ∧ oldkey ≠ IS_UPDATED_KEY
      ∧ (if isUpdatedValue then oldkey else migratedKey P oldkey) = key := by
  have hlisting := D.isListing kv
  rw [lookup_updateDistributedKv _ _ _ _ hkey] at hvalue
  cases isUpdatedValue with
  | true =>
    obtain ⟨hold, hmigrate⟩ := queryLoop_updated_keys (P := P) (D.getEntries kv) {}
    rw [hold, hmigrate, AList.lookup_empty, ite_self, Option.none_or,
      if_neg fun h => List.not_mem_nil h.2] at hvalue
    exact ⟨key, (hlisting.mem _ _).mpr hvalue, hkey, rfl⟩
  | false =>
    have hdelete : answers.deleteBatch = true := hmoved.resolve_left Bool.false_ne_true
    obtain ⟨hold, hnew⟩ := queryLoop_old (P := P) (D.getEntries kv) {}
    rw [hold, hnew, reached_of_ok hok, Dict.lookup_emplaceAll, AList.lookup_empty, Option.none_or,
      Option.or_eq_some_iff] at hvalue
    obtain hvalue | ⟨-, hvalue⟩ := hvalue
    · -- the entry was moved here
      split at hvalue
      · obtain ⟨oldkey, hentry, hneed⟩ := lookup_newEntries hvalue
        have hsome : (isNeedUpdateKey P oldkey).isSome := by
          rw [hneed]
          rfl
        exact ⟨oldkey, hentry, ne_updated_of_isSome hsome, migratedKey_of_some hneed⟩
      · cases hvalue
    · -- the entry was here, and stays
      split at hvalue
      · cases hvalue
      next hstays =>
        have hentry := (hlisting.mem _ _).mpr hvalue
        have hneed : isNeedUpdateKey P key = none := by
          by_contra hsome
          exact hstays ⟨hdelete, List.mem_append_right _ (mem_oldKeys.mpr
            ⟨value, hentry, Option.isSome_iff_ne_none.mpr hsome⟩)⟩
        exact ⟨key, hentry, hkey, migratedKey_of_none hneed⟩

/-- **A query that succeeds finds every list it leaves stored**, where it moves
no keys, or deletes the old ones. -/
theorem found_of_stored {answers : QueryAnswers}
    (hok : (kv.queryStaticSubscriberStateData P env D answers ∅ []).result = .ERR_OK)
    (hempty : kv.lookup "" = none)
    (hmoved : (kv.isUpdated = true ∧ answers.get = true) ∨ answers.deleteBatch = true)
    {key value : String} (hkey : key ≠ IS_UPDATED_KEY)
    (hvalue : (kv.queryStaticSubscriberStateData P env D answers ∅ []).kvStore.lookup key
      = some value) (hlist : value ≠ STATIC_SUBSCRIBER_VALUE_DEFAULT) :
    ((kv.queryStaticSubscriberStateData P env D answers ∅ []).disableEvents.lookup key).isSome := by
  have hmoved' : (answers.get && kv.isUpdated) = true ∨ answers.deleteBatch = true := by
    rw [Bool.and_eq_true]
    exact hmoved.imp_left And.symm
  unfold queryStaticSubscriberStateData at hok hvalue ⊢
  split at hok
  · cases hok
  next hcheck =>
  rw [if_neg hcheck] at hvalue ⊢
  split at hok
  · cases hok
  next hget =>
  rw [if_neg hget] at hvalue ⊢
  split at hok
  next hnil =>
    rw [if_pos hnil] at hvalue
    have hentry := ((D.isListing kv).mem _ _).mpr hvalue
    rw [hnil] at hentry
    cases hentry
  next hne =>
  rw [if_neg hne] at hvalue ⊢
  obtain ⟨oldkey, hentry, hmark, hgoes⟩ := origin_of_stored hok hmoved' hkey hvalue
  have hnonempty : oldkey ≠ "" := by
    rintro rfl
    have hlookup := ((D.isListing kv).mem _ _).mp hentry
    rw [hempty] at hlookup
    cases hlookup
  have hsome := (queryLoop_found hok).2 (oldkey, value) hentry hmark (.inr hnonempty) hlist
  rw [hgoes] at hsome
  exact hsome

/-! ## What a save leaves -/

/-- **Where a save that fails leaves the store**: as its query left it; or with
some of the lists found deleted, but not all; or with all of them deleted, and
some of the new ones put, but not all. -/
inductive Interrupted (dump : Json → String) (found : List String) (before : KvStore)
    (disableEvents : Dict String (List String)) (stored : KvStore) : Prop
  | notBegun (h : Dict.Agree stored before)
  | deleting (deleted rest : List String) (hrest : rest ≠ [])
      (hfound : found.Perm (deleted ++ rest))
      (h : ∀ key, key ≠ IS_UPDATED_KEY →
        stored.lookup key = if key ∈ deleted then none else before.lookup key)
  | putting (done rest : List (String × List String)) (hrest : rest ≠ [])
      (hlists : Dict.IsListing (done ++ rest) disableEvents)
      (h : ∀ key, key ≠ IS_UPDATED_KEY →
        stored.lookup key = ((done.lookup key).map (convertEventsToValue dump)).or
          (if key ∈ found then none else before.lookup key))

/-- **The lists stored are those given**, the mark and the bundles with all
their events off apart. -/
def Saved (dump : Json → String) (disableEvents : Dict String (List String)) (stored : KvStore) :
    Prop :=
  ∀ key, key ≠ IS_UPDATED_KEY →
    match disableEvents.lookup key with
    | some events => stored.lookup key = some (convertEventsToValue dump events)
    | none => ∀ value, stored.lookup key = some value → value = STATIC_SUBSCRIBER_VALUE_DEFAULT

/-- **What a save does**, wherever it ends. -/
theorem save_cases (answers : SaveAnswers) (disableEvents : Dict String (List String)) :
    let q := kv.queryStaticSubscriberStateData P env D answers.query ∅ []
    let r := kv.updateStaticSubscriberState P env D dump answers disableEvents
    (r.1 ≠ .ERR_OK ∧ Interrupted dump q.disableEvents.keys q.kvStore disableEvents r.2)
      ∨ (r.1 = .ERR_OK ∧ q.result = .ERR_OK ∧ ∀ key, key ≠ IS_UPDATED_KEY →
        r.2.lookup key = ((disableEvents.lookup key).map (convertEventsToValue dump)).or
          (if key ∈ q.disableEvents.keys then none else q.kvStore.lookup key)) := by
  intro q r
  have hr : r = kv.updateStaticSubscriberState P env D dump answers disableEvents := rfl
  unfold updateStaticSubscriberState at hr
  dsimp only at hr
  rw [show kv.queryStaticSubscriberStateData P env D answers.query ∅ [] = q from rfl] at hr
  -- the stages in order: query, check, mark, delete, put
  by_cases hresult : q.result = .ERR_OK
  · rw [if_neg (not_not.mpr hresult)] at hr
    by_cases hcheck : (!answers.checkKvStore) = true
    · rw [if_pos hcheck] at hr
      rw [hr]
      exact .inl ⟨nofun, .notBegun fun _ => rfl⟩
    · rw [if_neg hcheck] at hr
      obtain ⟨deleted, rest, hkeys, hdelete, -⟩ := deleteKeys_cases answers.delete
        (q.kvStore.putUpdated (answers.put IS_UPDATED_KEY)) q.disableEvents.keys
      have hdeleted : ∀ key, key ≠ IS_UPDATED_KEY →
          (deleted.foldl (fun kv key => AList.erase key kv)
            (q.kvStore.putUpdated (answers.put IS_UPDATED_KEY))).lookup key
            = if key ∈ deleted then none else q.kvStore.lookup key := by
        intro key hkey
        rw [Dict.lookup_foldl_erase, lookup_putUpdated _ _ hkey]
      rw [hdelete] at hr
      cases rest with
      | cons key rest =>
        rw [hr]
        exact .inl ⟨nofun, .deleting deleted (key :: rest) nofun (.of_eq hkeys) hdeleted⟩
      | nil =>
        rw [List.append_nil] at hkeys
        have hlisting := Dict.isListing_toList disableEvents
        obtain ⟨done, rest, kv', hlists, hput, hlookup, -⟩ := putEvents_cases
          answers.put (deleted.foldl (fun kv key => AList.erase key kv)
            (q.kvStore.putUpdated (answers.put IS_UPDATED_KEY))) disableEvents.toList
          hlisting.nodup
        dsimp only [List.isEmpty_nil] at hr
        rw [hput] at hr
        cases rest with
        | cons entry rest =>
          rw [hr]
          refine .inl ⟨nofun, .putting done (entry :: rest) nofun (hlists ▸ hlisting) ?_⟩
          intro key hkey
          show kv'.lookup key = _
          rw [hlookup key, hdeleted key hkey, hkeys]
        | nil =>
          rw [List.append_nil] at hlists
          rw [hr]
          refine .inr ⟨rfl, hresult, fun key hkey => ?_⟩
          show kv'.lookup key = _
          rw [hlookup key, hdeleted key hkey, hkeys, ← hlists, hlisting.lookup_eq]
  · rw [if_pos hresult] at hr
    rw [hr]
    exact .inl ⟨hresult, .notBegun fun _ => rfl⟩

/-- **After a save that succeeds** the lists stored are those given. -/
theorem saved_of_ok {answers : SaveAnswers} {disableEvents : Dict String (List String)}
    (hok : (kv.updateStaticSubscriberState P env D dump answers disableEvents).1 = .ERR_OK)
    (hempty : kv.lookup "" = none)
    (hmoved : (kv.isUpdated = true ∧ answers.query.get = true) ∨ answers.query.deleteBatch = true) :
    Saved dump disableEvents
      (kv.updateStaticSubscriberState P env D dump answers disableEvents).2 := by
  obtain ⟨hfailed, -⟩ | ⟨-, hquery, hlookup⟩ :=
    save_cases (P := P) (D := D) answers disableEvents
  · exact absurd hok hfailed
  intro key hkey
  have hkv := hlookup key hkey
  cases hevents : disableEvents.lookup key with
  | some events =>
    rw [hevents] at hkv
    exact hkv
  | none =>
    dsimp only
    intro value hvalue
    rw [hkv, hevents, Option.map_none, Option.none_or] at hvalue
    by_contra hlist
    split at hvalue
    · cases hvalue
    next hnot =>
      exact hnot (AList.lookup_isSome.mp (found_of_stored hquery hempty hmoved hkey hvalue hlist))

/-- A query leaves a store that bears the mark as it is. -/
theorem agree_query (hmark : kv.isUpdated = true) {answers : QueryAnswers}
    (hget : answers.get = true) (disableEvents : Dict String (List String))
    (bundleList : List String) :
    Dict.Agree (kv.queryStaticSubscriberStateData P env D answers disableEvents bundleList).kvStore
      kv := by
  unfold queryStaticSubscriberStateData
  split
  · exact fun _ => rfl
  · split
    · exact fun _ => rfl
    · split
      · exact fun _ => rfl
      · obtain ⟨hold, hmigrate⟩ := queryLoop_updated_keys (P := P) (D.getEntries kv)
          { disableEvents := disableEvents, bundleList := bundleList }
        dsimp only
        rw [hget, hmark, Bool.and_self, hold, hmigrate]
        unfold updateDistributedKv
        dsimp only [List.foldl_nil]
        rw [ite_self, AList.empty_union, ite_self]
        exact agree_putUpdated hmark answers.put

end KvStore

namespace StaticSubscriberManager

variable {P : Platform} {env : StaticEnvironment} {D : DistributedKv} {dump : Json → String}
  {kv : KvStore} {m : StaticSubscriberManager}

/-- **What `UpdateDisableEvents` leaves**: in memory the update, whether or not
it is saved; in the store, where it fails, a save that was broken off, and the
lists held where it succeeds. -/
theorem updateDisableEventsOn_leaves (answers : SaveAnswers) (bundleName : String)
    (events : List String) (enable : Bool) (userId : Int) :
    let q := kv.queryStaticSubscriberStateData P env D answers.query ∅ []
    let r := m.updateDisableEventsOn P env D dump answers kv bundleName events enable userId
    r.2.1 = m.updateDisableEvents bundleName events enable userId
      ∧ (r.1 ≠ .ERR_OK →
        KvStore.Interrupted dump q.disableEvents.keys q.kvStore r.2.1.disableEvents r.2.2)
      ∧ (kv.isUpdated = true → answers.query.get = true → Dict.Agree q.kvStore kv)
      ∧ (r.1 = .ERR_OK → kv.lookup "" = none →
        (kv.isUpdated = true ∧ answers.query.get = true) ∨ answers.query.deleteBatch = true →
        KvStore.Saved dump r.2.1.disableEvents r.2.2) := by
  intro q r
  refine ⟨rfl, fun hfailed => ?_, fun hmark hget => KvStore.agree_query hmark hget ∅ [],
    fun hok hempty hmoved => KvStore.saved_of_ok hok hempty hmoved⟩
  obtain ⟨-, hinterrupted⟩ | ⟨hok, -⟩ := KvStore.save_cases (P := P) (D := D)
    answers (m.updateDisableEvents bundleName events enable
      userId).disableEvents
  · exact hinterrupted
  · exact absurd hok hfailed

/-- A store in which one event of one bundle is off. -/
def savedStore : KvStore := AList.insert (bundleKey 100 "b") "[\"e\"]" markedStore

/-- No list can be put. -/
def putFails : SaveAnswers where
  put := fun _ => false

/-- The event is switched off once more, and the list cannot be put. -/
def switchedOffAgain : ErrCode × StaticSubscriberManager × KvStore :=
  (switchedOff ["e"]).updateDisableEventsOn {} jsonEnvironment {} jsonText putFails savedStore "b"
    ["e"] false 100

/-- The list that was stored is gone, and the save was broken off. -/
theorem updateDisableEventsOn_leaves_again :
    switchedOffAgain.1 = .ERR_INVALID_OPERATION
      ∧ switchedOffAgain.2.2.lookup (bundleKey 100 "b") = none
      ∧ KvStore.Interrupted jsonText
          (savedStore.queryStaticSubscriberStateData {} jsonEnvironment {} {} ∅ []).disableEvents.keys
          (savedStore.queryStaticSubscriberStateData {} jsonEnvironment {} {} ∅ []).kvStore
          switchedOffAgain.2.1.disableEvents switchedOffAgain.2.2 := by
  refine ⟨by decide +kernel, by decide +kernel, ?_⟩
  exact (updateDisableEventsOn_leaves putFails "b" ["e"] false 100).2.1 (by decide +kernel)

/-- **A save is not all or nothing**: nothing changes in memory, and the stored
list is lost. -/
theorem save_loses :
    ¬ ∀ (P : Platform) (env : StaticEnvironment) (D : DistributedKv) (dump : Json → String)
      (answers : SaveAnswers) (kv : KvStore) (m : StaticSubscriberManager) (bundleName : String)
      (events : List String) (enable : Bool) (userId : Int),
      let r := m.updateDisableEventsOn P env D dump answers kv bundleName events enable userId
      (r.1 ≠ .ERR_OK →
          (∀ key, key ≠ IS_UPDATED_KEY → r.2.2.lookup key = kv.lookup key)
            ∧ Dict.Agree r.2.1.disableEvents m.disableEvents)
        ∧ (r.1 = .ERR_OK → KvStore.Saved dump r.2.1.disableEvents r.2.2) := by
  intro hall
  have hsame := ((hall {} jsonEnvironment {} jsonText putFails savedStore (switchedOff ["e"]) "b"
    ["e"] false 100).1 (by decide +kernel)).1 (bundleKey 100 "b") (bundleKey_ne_updated 100 "b")
  revert hsame
  decide +kernel

end StaticSubscriberManager

end CommonEventService

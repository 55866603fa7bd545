import CommonEventService.DisableState

/-!
# Migrating old keys

A query of a store without the mark moves every entry it comes to from its
old key to a new one, and then sets the mark, after which no query looks at
keys again. But the loop ends at the first value that cannot be read, and the
mark is set all the same: what the loop has not come to is never migrated.
And new keys may meet – each other, keys that need no migration, or keys that
do need it, since a migrated key starts with digits as well. The migration is
complete, in whatever order the entries are listed, just for the stores that
have none of this.
-/

namespace CommonEventService

namespace StaticSubscriberDataManager

variable {P : Platform}

theorem isNeedUpdateKey_some {key newKey : String} (h : isNeedUpdateKey P key = some newKey) :
    ∃ userId, newKey = bundleKey userId (String.ofList (key.toList.dropWhile Char.isDigit)) := by
  unfold isNeedUpdateKey at h
  dsimp only at h
  split at h
  · cases h
  · obtain ⟨userId, -, rfl⟩ := Option.map_eq_some_iff.mp h
    exact ⟨userId, rfl⟩

/-- A key that does not start with a digit is no old key. -/
theorem isNeedUpdateKey_eq_none {key : String} (h : key.toList.takeWhile Char.isDigit = []) :
    isNeedUpdateKey P key = none := by
  unfold isNeedUpdateKey
  dsimp only
  rw [if_pos (Or.inl h)]

theorem isNeedUpdateKey_updated : isNeedUpdateKey P IS_UPDATED_KEY = none :=
  isNeedUpdateKey_eq_none (by decide)

/-- A migrated key is another one. -/
theorem isNeedUpdateKey_ne {key newKey : String} (h : isNeedUpdateKey P key = some newKey) :
    newKey ≠ key := by
  obtain ⟨userId, rfl⟩ := isNeedUpdateKey_some h
  intro heq
  have hlist := congrArg String.toList heq
  rw [toList_bundleKey, String.toList_ofList, ← List.singleton_append, ← List.append_assoc] at hlist
  have hdigits : (toString userId).toList ++ ['_'] = key.toList.takeWhile Char.isDigit :=
    List.append_cancel_right (hlist.trans List.takeWhile_append_dropWhile.symm)
  have hmem : '_' ∈ key.toList.takeWhile Char.isDigit := by
    rw [← hdigits]
    simp
  exact absurd (List.all_eq_true.mp List.all_takeWhile '_' hmem) (by decide)

/-- A migrated key is neither empty nor the mark. -/
theorem isNeedUpdateKey_ne_updated {key newKey : String}
    (h : isNeedUpdateKey P key = some newKey) : newKey ≠ IS_UPDATED_KEY ∧ newKey ≠ "" := by
  obtain ⟨userId, rfl⟩ := isNeedUpdateKey_some h
  refine ⟨bundleKey_ne_updated userId _, ?_⟩
  intro heq
  have hlist := congrArg String.toList heq
  rw [toList_bundleKey] at hlist
  simp at hlist

end StaticSubscriberDataManager

namespace KvStore

open StaticSubscriberDataManager

variable {P : Platform} {env : StaticEnvironment} {D : DistributedKv} {kv : KvStore}

/-! ## The loop over a store without the mark -/

variable (env) in
/-- An entry whose value cannot be read. -/
def Unreadable (entry : String × String) : Prop :=
  entry.1 ≠ IS_UPDATED_KEY ∧ entry.2 ≠ STATIC_SUBSCRIBER_VALUE_DEFAULT
    ∧ convertValueToEvents env entry.2 = none

instance (entry : String × String) : Decidable (Unreadable env entry) :=
  decidable_of_iff (entry.1 ≠ IS_UPDATED_KEY ∧ entry.2 ≠ STATIC_SUBSCRIBER_VALUE_DEFAULT
    ∧ (convertValueToEvents env entry.2).isNone = true) (by rw [Option.isNone_iff_eq_none]; rfl)

variable (env) in
/-- The entries the loop comes to: it passes over an empty key, and ends at a
value that cannot be read. -/
def reached : List (String × String) → List (String × String)
  | [] => []
  | entry :: entries =>
    if Unreadable env entry ∧ entry.1 ≠ "" then [entry] else entry :: reached entries

variable (P) in
/-- The old keys among those of some entries. -/
def oldKeys (entries : List (String × String)) : List String :=
  (entries.filter (fun entry => (isNeedUpdateKey P entry.1).isSome)).map Prod.fst

variable (P) in
/-- What some entries put under new keys. -/
def newEntries (entries : List (String × String)) : List (String × String) :=
  entries.filterMap (fun entry =>
    (isNeedUpdateKey P entry.1).map (fun newKey => (newKey, entry.2)))

theorem moved_cons_none (entry : String × String) (h : isNeedUpdateKey P entry.1 = none)
    (entries : List (String × String)) :
    oldKeys P (entry :: entries) = oldKeys P entries
      ∧ newEntries P (entry :: entries) = newEntries P entries := by
  constructor
  · rw [oldKeys, List.filter_cons_of_neg (by rw [h]; exact nofun)]
    rfl
  · rw [newEntries, List.filterMap_cons_none (by rw [h]; rfl)]
    rfl

theorem moved_cons_some {key value newKey : String} (h : isNeedUpdateKey P key = some newKey)
    (entries : List (String × String)) :
    oldKeys P ((key, value) :: entries) = key :: oldKeys P entries
      ∧ newEntries P ((key, value) :: entries) = (newKey, value) :: newEntries P entries := by
  constructor
  · rw [oldKeys, List.filter_cons_of_pos (by rw [h]; rfl)]
    rfl
  · rw [newEntries, List.filterMap_cons_some (b := (newKey, value)) (by rw [h]; rfl)]
    rfl

/-- What a pass does with the key of an entry that has one. -/
theorem migrateKey_of_ne (loop : QueryLoop) {key : String} (hkey : key ≠ "") (value : String) :
    migrateKey P false loop key value
      = match isNeedUpdateKey P key with
        | none => ({ loop with result := .ERR_OK }, some key)
        | some newKey =>
          ({ loop with
             result := .ERR_OK
             removeOldkeys := loop.removeOldkeys ++ [key]
             migrateValues := Dict.emplace loop.migrateValues newKey value }, some newKey) := by
  unfold migrateKey getValidKey
  rw [if_neg nofun, if_neg hkey]
  cases isNeedUpdateKey P key <;> rfl

/-- What a pass notes down about the key of an entry. -/
theorem migrateKey_old (loop : QueryLoop) {key : String} (hkey : key ≠ "") (value : String) :
    ∃ loop' nk, migrateKey P false loop key value = (loop', some nk)
      ∧ ∀ entries, loop'.removeOldkeys ++ oldKeys P entries
          = loop.removeOldkeys ++ oldKeys P ((key, value) :: entries)
        ∧ Dict.emplaceAll loop'.migrateValues (newEntries P entries)
          = Dict.emplaceAll loop.migrateValues (newEntries P ((key, value) :: entries)) := by
  rw [migrateKey_of_ne loop hkey value]
  cases hneed : isNeedUpdateKey P key with
  | none =>
    refine ⟨_, _, rfl, fun entries => ?_⟩
    obtain ⟨hold, hnew⟩ := moved_cons_none (key, value) hneed entries
    rw [hold, hnew]
    exact ⟨rfl, rfl⟩
  | some newKey =>
    refine ⟨_, _, rfl, fun entries => ?_⟩
    obtain ⟨hold, hnew⟩ := moved_cons_some hneed entries
    rw [hold, hnew, List.append_assoc]
    exact ⟨rfl, rfl⟩

/-- **What the loop is about to move**: the entries it comes to. -/
theorem queryLoop_old (entries : List (String × String)) (loop : QueryLoop) :
    (queryLoop P env false loop entries).removeOldkeys
        = loop.removeOldkeys ++ oldKeys P (reached env entries)
    ∧ (queryLoop P env false loop entries).migrateValues
        = Dict.emplaceAll loop.migrateValues (newEntries P (reached env entries)) := by
  induction entries generalizing loop with
  | nil => exact ⟨(List.append_nil _).symm, rfl⟩
  | cons entry entries ih =>
    obtain ⟨key, value⟩ := entry
    rw [queryLoop, reached]
    by_cases hmark : key = IS_UPDATED_KEY
    · obtain ⟨hold, hnew⟩ := moved_cons_none (P := P) (key, value)
        (hmark ▸ isNeedUpdateKey_updated) (reached env entries)
      rw [if_pos hmark, if_neg (fun h => h.1.1 hmark), hold, hnew]
      exact ih loop
    · rw [if_neg hmark]
      by_cases hkey : key = ""
      · subst hkey
        obtain ⟨hold, hnew⟩ := moved_cons_none (P := P) ("", value)
          (isNeedUpdateKey_eq_none rfl) (reached env entries)
        rw [if_neg (fun h => h.2 rfl), hold, hnew]
        exact ih _
      · obtain ⟨loop', nk, hmigrate, hmoved⟩ := migrateKey_old (P := P) loop hkey value
        rw [hmigrate]
        dsimp only
        by_cases hvalue : value = STATIC_SUBSCRIBER_VALUE_DEFAULT
        · rw [if_pos hvalue, if_neg (fun h => h.1.2.1 hvalue), ← (hmoved _).1, ← (hmoved _).2]
          exact ih _
        · rw [if_neg hvalue]
          cases hread : convertValueToEvents env value with
          | none =>
            rw [if_pos ⟨⟨hmark, hvalue, hread⟩, hkey⟩, ← (hmoved _).1, ← (hmoved _).2]
            exact ⟨(List.append_nil _).symm, rfl⟩
          | some values =>
            rw [if_neg (fun h => by simpa [hread] using h.1.2.2), ← (hmoved _).1, ← (hmoved _).2]
            exact ih _

theorem mem_oldKeys {entries : List (String × String)} {key : String} :
    key ∈ oldKeys P entries ↔ ∃ value, (key, value) ∈ entries ∧ (isNeedUpdateKey P key).isSome := by
  unfold oldKeys
  rw [List.mem_map]
  constructor
  · rintro ⟨⟨key, value⟩, hmem, rfl⟩
    obtain ⟨hmem, hneed⟩ := List.mem_filter.mp hmem
    exact ⟨value, hmem, hneed⟩
  · rintro ⟨value, hmem, hneed⟩
    exact ⟨(key, value), List.mem_filter.mpr ⟨hmem, hneed⟩, rfl⟩

/-- A new key comes from an old one. -/
theorem lookup_newEntries {entries : List (String × String)} {newKey value : String}
    (h : (newEntries P entries).lookup newKey = some value) :
    ∃ key, (key, value) ∈ entries ∧ isNeedUpdateKey P key = some newKey := by
  obtain ⟨pre, post, heq, -⟩ := List.lookup_eq_some_iff.mp h
  have hmem : (newKey, value) ∈ newEntries P entries := by
    rw [heq]
    simp
  obtain ⟨⟨key, value'⟩, hentry, hmove⟩ := List.mem_filterMap.mp hmem
  obtain ⟨newKey', hneed, hpair⟩ := Option.map_eq_some_iff.mp hmove
  cases hpair
  exact ⟨key, hentry, hneed⟩

theorem isSome_lookup_newEntries {entries : List (String × String)} {key value newKey : String}
    (hentry : (key, value) ∈ entries) (hneed : isNeedUpdateKey P key = some newKey) :
    ((newEntries P entries).lookup newKey).isSome := by
  refine List.lookup_isSome_iff.mpr ⟨(newKey, value), ?_, beq_self_eq_true _⟩
  exact List.mem_filterMap.mpr ⟨(key, value), hentry, by rw [hneed]; rfl⟩

theorem reached_subset (entries : List (String × String)) :
    ∀ entry ∈ reached env entries, entry ∈ entries := by
  induction entries with
  | nil => exact fun _ h => h
  | cons first entries ih =>
    intro entry hentry
    rw [reached] at hentry
    split at hentry
    · rw [List.mem_singleton.mp hentry]
      exact List.mem_cons_self
    · rcases List.mem_cons.mp hentry with rfl | hrest
      · exact List.mem_cons_self
      · exact List.mem_cons_of_mem _ (ih entry hrest)

/-- The loop comes to an entry that no other one stops it before. -/
theorem mem_reached {entries : List (String × String)} {entry : String × String}
    (hentry : entry ∈ entries)
    (honly : ∀ other ∈ entries, Unreadable env other ∧ other.1 ≠ "" → other = entry) :
    entry ∈ reached env entries := by
  induction entries with
  | nil => cases hentry
  | cons first entries ih =>
    rw [reached]
    split
    next hstop =>
      rw [honly first List.mem_cons_self hstop]
      exact List.mem_singleton_self entry
    next =>
      rcases List.mem_cons.mp hentry with rfl | hrest
      · exact List.mem_cons_self
      · exact List.mem_cons_of_mem _
          (ih hrest (fun other hother => honly other (List.mem_cons_of_mem _ hother)))

/-- Where every value can be read the loop comes to every entry. -/
theorem mem_reached_of_readable (hread : kv.Readable env) {key value : String}
    (hvalue : kv.lookup key = some value) : (key, value) ∈ reached env (D.getEntries kv) := by
  refine mem_reached (((D.isListing kv).mem _ _).mpr hvalue) ?_
  rintro ⟨other, value'⟩ hother ⟨⟨hmark, hvalue', hnone⟩, -⟩
  have hsome := (hread other value' (((D.isListing kv).mem _ _).mp hother) hmark).resolve_left
    hvalue'
  rw [show convertValueToEvents env value' = none from hnone] at hsome
  cases hsome

/-- **What is stored after a query of a store without the mark.** -/
theorem lookup_query_old (hmark : kv.isUpdated = false) (hne : D.getEntries kv ≠ [])
    (key : String) :
    (kv.queryStaticSubscriberStateData P env D {} ∅ []).kvStore.lookup key
      = if key = IS_UPDATED_KEY then some KEY_IS_ALREADY_UPDATED
        else ((newEntries P (reached env (D.getEntries kv))).lookup key).or
          (if key ∈ oldKeys P (reached env (D.getEntries kv)) then none else kv.lookup key) := by
  obtain ⟨hold, hnew⟩ := queryLoop_old (P := P) (D.getEntries kv) {}
  unfold queryStaticSubscriberStateData
  dsimp only
  rw [if_neg nofun, if_neg nofun, if_neg hne, hmark, Bool.and_false, hold, hnew]
  show (AList.insert IS_UPDATED_KEY KEY_IS_ALREADY_UPDATED
    (Dict.emplaceAll ∅ (newEntries P (reached env (D.getEntries kv)))
      ∪ (oldKeys P (reached env (D.getEntries kv))).foldl
        (fun kv key => AList.erase key kv) kv)).lookup key = _
  rw [Dict.lookup_insert_ite, Dict.lookup_union, Dict.lookup_emplaceAll, AList.lookup_empty,
    Option.none_or, Dict.lookup_foldl_erase]

/-- A query of a store that lists nothing leaves it. -/
theorem kvStore_query_nil (hnil : D.getEntries kv = []) :
    (kv.queryStaticSubscriberStateData P env D {} ∅ []).kvStore = kv := by
  unfold queryStaticSubscriberStateData
  rw [if_neg nofun, if_neg nofun, if_pos hnil]

end KvStore

open StaticSubscriberDataManager

/-- The key an entry goes by after the migration. -/
def migratedKey (P : Platform) (key : String) : String := (isNeedUpdateKey P key).getD key

/-- **The migration is complete if it is declared complete**: where a query
leaves the mark, no old key is stored any more, and the next query reports
every entry that can be read under its new key. -/
def Migrated (P : Platform) (env : StaticEnvironment) (D : DistributedKv) (kv : KvStore) : Prop :=
  let q := kv.queryStaticSubscriberStateData P env D {} ∅ []
  let q' := q.kvStore.queryStaticSubscriberStateData P env D {} ∅ []
  q.kvStore.isUpdated = true →
    (∀ key, (kv.lookup key).isSome → (isNeedUpdateKey P key).isSome →
      q.kvStore.lookup key = none)
    ∧ ∀ key value, kv.lookup key = some value → key ≠ IS_UPDATED_KEY →
      (value = STATIC_SUBSCRIBER_VALUE_DEFAULT → migratedKey P key ∈ q'.bundleList)
      ∧ ∀ events, value ≠ STATIC_SUBSCRIBER_VALUE_DEFAULT →
        convertValueToEvents env value = some events →
        q'.disableEvents.lookup (migratedKey P key) = some events

/-- **The stores whose migration is complete.** Every value can be read, no
old key becomes another old key that is stored, and what ends under one key
says the same; or no value can be read, and a key that has to move is the
only one, the empty key apart. -/
def Migratable (P : Platform) (env : StaticEnvironment) (kv : KvStore) : Prop :=
  (kv.Readable env
    ∧ (∀ key newKey, (kv.lookup key).isSome → isNeedUpdateKey P key = some newKey →
        (kv.lookup newKey).isSome → isNeedUpdateKey P newKey = none)
    ∧ ∀ key key' value value', kv.lookup key = some value → kv.lookup key' = some value' →
        key ≠ IS_UPDATED_KEY → key' ≠ IS_UPDATED_KEY →
        migratedKey P key = migratedKey P key' →
        (value = STATIC_SUBSCRIBER_VALUE_DEFAULT ∧ value' = STATIC_SUBSCRIBER_VALUE_DEFAULT)
          ∨ value ≠ STATIC_SUBSCRIBER_VALUE_DEFAULT ∧ value' ≠ STATIC_SUBSCRIBER_VALUE_DEFAULT
            ∧ convertValueToEvents env value = convertValueToEvents env value')
  ∨ (∀ key value, kv.lookup key = some value → key ≠ IS_UPDATED_KEY →
      KvStore.Unreadable env (key, value))
    ∧ ∀ key key', (kv.lookup key).isSome → (isNeedUpdateKey P key).isSome →
      (kv.lookup key').isSome → key' ≠ IS_UPDATED_KEY → key' ≠ "" → key' = key

variable {P : Platform} {env : StaticEnvironment} {D : DistributedKv} {kv : KvStore}

theorem migratedKey_of_some {key newKey : String} (h : isNeedUpdateKey P key = some newKey) :
    migratedKey P key = newKey := by
  rw [migratedKey, h, Option.getD_some]

theorem migratedKey_of_none {key : String} (h : isNeedUpdateKey P key = none) :
    migratedKey P key = key := by
  rw [migratedKey, h, Option.getD_none]

theorem ne_updated_of_isSome {key : String} (h : (isNeedUpdateKey P key).isSome) :
    key ≠ IS_UPDATED_KEY := by
  rintro rfl
  rw [isNeedUpdateKey_updated] at h
  cases h

theorem migratedKey_ne_updated {key : String} (hkey : key ≠ IS_UPDATED_KEY) :
    migratedKey P key ≠ IS_UPDATED_KEY := by
  cases hneed : isNeedUpdateKey P key with
  | none =>
    rw [migratedKey_of_none hneed]
    exact hkey
  | some newKey =>
    rw [migratedKey_of_some hneed]
    exact (isNeedUpdateKey_ne_updated hneed).1

/-- A query that leaves the mark on a store without it has listed an entry. -/
theorem getEntries_ne_nil (hmark : kv.isUpdated = false)
    (hupdated : (kv.queryStaticSubscriberStateData P env D {} ∅ []).kvStore.isUpdated = true) :
    D.getEntries kv ≠ [] := by
  intro hnil
  rw [KvStore.kvStore_query_nil hnil, hmark] at hupdated
  cases hupdated

/-- What is stored after the query was stored before, perhaps under another
key. -/
theorem lookup_before (hmark : kv.isUpdated = false) (hne : D.getEntries kv ≠ [])
    {key value : String} (hkey : key ≠ IS_UPDATED_KEY)
    (hvalue : (kv.queryStaticSubscriberStateData P env D {} ∅ []).kvStore.lookup key
      = some value) :
    ∃ key', kv.lookup key' = some value ∧ key' ≠ IS_UPDATED_KEY
      ∧ (isNeedUpdateKey P key' = some key ∨ key' = key) := by
  rw [KvStore.lookup_query_old hmark hne, if_neg hkey] at hvalue
  cases hnew : (KvStore.newEntries P (KvStore.reached env (D.getEntries kv))).lookup key with
  | some value' =>
    rw [hnew, Option.some_or] at hvalue
    cases hvalue
    obtain ⟨key', hentry, hneed⟩ := KvStore.lookup_newEntries hnew
    exact ⟨key', ((D.isListing kv).mem _ _).mp (KvStore.reached_subset _ _ hentry),
      ne_updated_of_isSome (by rw [hneed]; rfl), Or.inl hneed⟩
  | none =>
    rw [hnew, Option.none_or] at hvalue
    split at hvalue
    · cases hvalue
    · exact ⟨key, hvalue, hkey, Or.inr rfl⟩

/-- **Where every value can be read**, every entry is found under its new key
after the query, or another one that ends there. -/
theorem lookup_migratedKey (hmark : kv.isUpdated = false) (hne : D.getEntries kv ≠ [])
    (hread : kv.Readable env) {key value : String} (hvalue : kv.lookup key = some value)
    (hkey : key ≠ IS_UPDATED_KEY) :
    ∃ key' value', kv.lookup key' = some value' ∧ key' ≠ IS_UPDATED_KEY
      ∧ migratedKey P key = migratedKey P key'
      ∧ (kv.queryStaticSubscriberStateData P env D {} ∅ []).kvStore.lookup (migratedKey P key)
        = some value' := by
  have hentry := KvStore.mem_reached_of_readable (D := D) hread hvalue
  rw [KvStore.lookup_query_old hmark hne, if_neg (migratedKey_ne_updated hkey)]
  cases hnew : (KvStore.newEntries P (KvStore.reached env (D.getEntries kv))).lookup
      (migratedKey P key) with
  | some value' =>
    obtain ⟨key', hentry', hneed⟩ := KvStore.lookup_newEntries hnew
    exact ⟨key', value', ((D.isListing kv).mem _ _).mp (KvStore.reached_subset _ _ hentry'),
      ne_updated_of_isSome (by rw [hneed]; rfl), (migratedKey_of_some hneed).symm, rfl⟩
  | none =>
    have hneed : isNeedUpdateKey P key = none := by
      cases hneed : isNeedUpdateKey P key with
      | none => rfl
      | some newKey =>
        have hsome := KvStore.isSome_lookup_newEntries hentry hneed
        rw [← migratedKey_of_some hneed, hnew] at hsome
        cases hsome
    refine ⟨key, value, hvalue, hkey, rfl, ?_⟩
    rw [migratedKey_of_none hneed, Option.none_or, if_neg]
    · exact hvalue
    · intro hold
      obtain ⟨-, -, hsome⟩ := KvStore.mem_oldKeys.mp hold
      rw [hneed] at hsome
      cases hsome

/-- What can be read before the query can be read after it. -/
theorem readable_query_old (hmark : kv.isUpdated = false) (hne : D.getEntries kv ≠ [])
    (hread : kv.Readable env) :
    KvStore.Readable env (kv.queryStaticSubscriberStateData P env D {} ∅ []).kvStore := by
  intro key value hvalue hkey
  obtain ⟨key', hvalue', hkey', -⟩ := lookup_before hmark hne hkey hvalue
  exact hread key' value hvalue' hkey'

variable (P env) in
theorem isUpdated_query_old (hmark : kv.isUpdated = false) (hne : D.getEntries kv ≠ []) :
    (kv.queryStaticSubscriberStateData P env D {} ∅ []).kvStore.isUpdated = true := by
  rw [KvStore.isUpdated_iff, KvStore.lookup_query_old hmark hne, if_pos rfl]

/-! ## Complete migrations -/

/-- The first kind of store. -/
theorem migrated_of_readable (hmark : kv.isUpdated = false) (hread : kv.Readable env)
    (hkeys : ∀ key newKey, (kv.lookup key).isSome → isNeedUpdateKey P key = some newKey →
      (kv.lookup newKey).isSome → isNeedUpdateKey P newKey = none)
    (hvalues : ∀ key key' value value', kv.lookup key = some value → kv.lookup key' = some value' →
      key ≠ IS_UPDATED_KEY → key' ≠ IS_UPDATED_KEY → migratedKey P key = migratedKey P key' →
      (value = STATIC_SUBSCRIBER_VALUE_DEFAULT ∧ value' = STATIC_SUBSCRIBER_VALUE_DEFAULT)
        ∨ value ≠ STATIC_SUBSCRIBER_VALUE_DEFAULT ∧ value' ≠ STATIC_SUBSCRIBER_VALUE_DEFAULT
          ∧ convertValueToEvents env value = convertValueToEvents env value') :
    Migrated P env D kv := by
  intro hupdated
  have hne := getEntries_ne_nil hmark hupdated
  refine ⟨?_, ?_⟩
  · intro key hstored hneed
    obtain ⟨value, hvalue⟩ := Option.isSome_iff_exists.mp hstored
    have hkey := ne_updated_of_isSome hneed
    cases hlookup : (kv.queryStaticSubscriberStateData P env D {} ∅ []).kvStore.lookup key with
    | none => rfl
    | some value' =>
      -- what is left under an old key would have been moved there from another one
      exfalso
      have hlookup' := hlookup
      rw [KvStore.lookup_query_old hmark hne, if_neg hkey] at hlookup'
      cases hnew : (KvStore.newEntries P (KvStore.reached env (D.getEntries kv))).lookup key with
      | some value'' =>
        obtain ⟨key', hentry, hneed'⟩ := KvStore.lookup_newEntries hnew
        have hstored' := ((D.isListing kv).mem _ _).mp (KvStore.reached_subset _ _ hentry)
        have hnone := hkeys key' key (by rw [hstored']; rfl) hneed' hstored
        rw [hnone] at hneed
        cases hneed
      | none =>
        rw [hnew, Option.none_or, if_pos] at hlookup'
        · cases hlookup'
        · exact KvStore.mem_oldKeys.mpr
            ⟨value, KvStore.mem_reached_of_readable hread hvalue, hneed⟩
  · intro key value hvalue hkey
    obtain ⟨-, hlists, hbundles, -⟩ := KvStore.query_readable (P := P) (D := D)
      hupdated (readable_query_old hmark hne hread) ∅ []
    obtain ⟨key', value', hvalue', hkey', hsame, hlookup⟩ :=
      lookup_migratedKey hmark hne hread hvalue hkey
    have hmigrated := migratedKey_ne_updated (P := P) hkey
    rcases hvalues key key' value value' hvalue hvalue' hkey hkey' hsame with
      ⟨rfl, rfl⟩ | ⟨hzero, hzero', hevents⟩
    · exact ⟨fun _ => (hbundles _).mpr (Or.inr ⟨hmigrated, hlookup⟩),
        fun _ hne _ => absurd rfl hne⟩
    · refine ⟨fun h => absurd h hzero, fun events _ hread' => ?_⟩
      rw [hlists, AList.lookup_empty, Option.none_or, KvStore.listed_eq_some]
      exact ⟨hmigrated, value', hlookup, hzero', hevents ▸ hread'⟩

/-- The second kind of store. -/
theorem migrated_of_unreadable (hmark : kv.isUpdated = false)
    (hunread : ∀ key value, kv.lookup key = some value → key ≠ IS_UPDATED_KEY →
      KvStore.Unreadable env (key, value))
    (honly : ∀ key key', (kv.lookup key).isSome → (isNeedUpdateKey P key).isSome →
      (kv.lookup key').isSome → key' ≠ IS_UPDATED_KEY → key' ≠ "" → key' = key) :
    Migrated P env D kv := by
  intro hupdated
  have hne := getEntries_ne_nil hmark hupdated
  refine ⟨?_, ?_⟩
  · intro key hstored hneed
    obtain ⟨value, hvalue⟩ := Option.isSome_iff_exists.mp hstored
    obtain ⟨newKey, hnewKey⟩ := Option.isSome_iff_exists.mp hneed
    show AList.lookup key (KvStore.queryStaticSubscriberStateData P env D kv {} ∅ []).kvStore = none
    rw [KvStore.lookup_query_old hmark hne, if_neg (ne_updated_of_isSome hneed), if_pos,
      Option.or_none]
    · -- the one key that moves does not move to itself
      cases hnew : (KvStore.newEntries P (KvStore.reached env (D.getEntries kv))).lookup key with
      | none => rfl
      | some value' =>
        exfalso
        obtain ⟨key', hentry, hneed'⟩ := KvStore.lookup_newEntries hnew
        have hstored' : (kv.lookup key').isSome := by
          rw [((D.isListing kv).mem _ _).mp (KvStore.reached_subset _ _ hentry)]
          rfl
        have hne' : (isNeedUpdateKey P key').isSome := by
          rw [hneed']
          rfl
        have hempty : key' ≠ "" := by
          rintro rfl
          rw [isNeedUpdateKey_eq_none rfl] at hne'
          cases hne'
        have hsame := honly key key' hstored hneed hstored' (ne_updated_of_isSome hne') hempty
        rw [hsame] at hneed'
        exact isNeedUpdateKey_ne hneed' rfl
    · refine KvStore.mem_oldKeys.mpr ⟨value, ?_, hneed⟩
      refine KvStore.mem_reached (((D.isListing kv).mem _ _).mpr hvalue) ?_
      rintro ⟨other, value'⟩ hother ⟨⟨hmark', -⟩, hempty⟩
      have hlookup := ((D.isListing kv).mem _ _).mp hother
      obtain rfl := honly key other hstored hneed (by rw [hlookup]; rfl) hmark' hempty
      rw [hvalue] at hlookup
      cases hlookup
      rfl
  · intro key value hvalue hkey
    obtain ⟨-, hzero, hnone⟩ := hunread key value hvalue hkey
    refine ⟨fun h => absurd h hzero, fun events _ hevents => ?_⟩
    rw [show convertValueToEvents env value = none from hnone] at hevents
    cases hevents

/-! ## Orders that make a migration fail -/

/-- The order that lists some entries first. -/
def listFirst (first : String × String → Bool) : DistributedKv where
  getEntries kv :=
    (Dict.toList kv).filter first ++ (Dict.toList kv).filter (fun entry => !first entry)
  isListing kv := (Dict.isListing_toList kv).perm (List.filter_append_perm first (Dict.toList kv))

/-- An entry of that kind is listed first, where there is one. -/
theorem listFirst_eq (first : String × String → Bool) {key value : String}
    (hvalue : kv.lookup key = some value) (hfirst : first (key, value) = true) :
    ∃ entry entries, (listFirst first).getEntries kv = entry :: entries ∧ first entry = true
      ∧ kv.lookup entry.1 = some entry.2 := by
  have hmem : (key, value) ∈ (Dict.toList kv).filter first :=
    List.mem_filter.mpr ⟨((Dict.isListing_toList kv).mem _ _).mpr hvalue, hfirst⟩
  obtain ⟨entry, entries, heq⟩ := List.exists_cons_of_ne_nil (List.ne_nil_of_mem hmem)
  have hentry : entry ∈ (Dict.toList kv).filter first := by
    rw [heq]
    exact List.mem_cons_self
  obtain ⟨hlist, hfirst'⟩ := List.mem_filter.mp hentry
  refine ⟨entry, entries ++ (Dict.toList kv).filter (fun entry => !first entry), ?_, hfirst',
    ((Dict.isListing_toList kv).mem _ _).mp hlist⟩
  show (Dict.toList kv).filter first ++ _ = _
  rw [heq]
  rfl

theorem getEntries_ne_nil_of_lookup {key value : String} (hvalue : kv.lookup key = some value) :
    D.getEntries kv ≠ [] :=
  List.ne_nil_of_mem (((D.isListing kv).mem _ _).mpr hvalue)

/-- **An old key that is not come to stays.** If the migration is complete in
every order, a value that cannot be read is that of the one old key. -/
theorem old_key_eq (hmark : kv.isUpdated = false) (h : ∀ D, Migrated P env D kv)
    {bad value : String} (hvalue : kv.lookup bad = some value)
    (hbad : KvStore.Unreadable env (bad, value)) (hempty : bad ≠ "") {key : String}
    (hstored : (kv.lookup key).isSome) (hneed : (isNeedUpdateKey P key).isSome) : key = bad := by
  by_contra hkey
  let D := listFirst (fun entry => entry.1 = bad)
  obtain ⟨⟨key₀, value₀⟩, entries, heq, hfirst, hvalue₀⟩ :=
    listFirst_eq (fun entry => entry.1 = bad) hvalue (decide_eq_true rfl)
  obtain rfl : key₀ = bad := of_decide_eq_true hfirst
  rw [show kv.lookup key₀ = some value₀ from hvalue₀] at hvalue
  cases hvalue
  have hreached : KvStore.reached env (D.getEntries kv) = [(key₀, value)] := by
    rw [show D.getEntries kv = _ from heq, KvStore.reached, if_pos ⟨hbad, hempty⟩]
  have hne : D.getEntries kv ≠ [] := getEntries_ne_nil_of_lookup hvalue₀
  have hgone := (h D (isUpdated_query_old P env hmark hne)).1 key hstored hneed
  rw [KvStore.lookup_query_old hmark hne, if_neg (ne_updated_of_isSome hneed), hreached,
    Option.or_eq_none_iff, if_neg] at hgone
  · rw [hgone.2] at hstored
    cases hstored
  · intro hold
    obtain ⟨value', hentry, -⟩ := KvStore.mem_oldKeys.mp hold
    cases List.mem_singleton.mp hentry
    exact hkey rfl

/-- A key that does not move, and that no key moves to, is left as it is. -/
theorem lookup_query_of_unmoved (hmark : kv.isUpdated = false) (hne : D.getEntries kv ≠ [])
    {key : String} (hkey : key ≠ IS_UPDATED_KEY) (hneed : isNeedUpdateKey P key = none)
    (hnew : ∀ key', (kv.lookup key').isSome → isNeedUpdateKey P key' ≠ some key) :
    (kv.queryStaticSubscriberStateData P env D {} ∅ []).kvStore.lookup key = kv.lookup key := by
  rw [KvStore.lookup_query_old hmark hne, if_neg hkey, if_neg]
  · cases hlookup : (KvStore.newEntries P (KvStore.reached env (D.getEntries kv))).lookup key with
    | none => exact Option.none_or
    | some value =>
      exfalso
      obtain ⟨key', hentry, hneed'⟩ := KvStore.lookup_newEntries hlookup
      refine hnew key' ?_ hneed'
      rw [((D.isListing kv).mem _ _).mp (KvStore.reached_subset _ _ hentry)]
      rfl
  · intro hold
    obtain ⟨-, -, hsome⟩ := KvStore.mem_oldKeys.mp hold
    rw [hneed] at hsome
    cases hsome

/-- **A value that cannot be read remains**, under one key or another. -/
theorem unreadable_remains (hmark : kv.isUpdated = false) {bad value : String}
    (hvalue : kv.lookup bad = some value) (hbad : KvStore.Unreadable env (bad, value))
    (honly : bad ≠ "" → ∀ key, (kv.lookup key).isSome → (isNeedUpdateKey P key).isSome →
      key = bad) :
    ∃ key value, (kv.queryStaticSubscriberStateData P env D {} ∅ []).kvStore.lookup key = some value
      ∧ KvStore.Unreadable env (key, value) := by
  have hne : D.getEntries kv ≠ [] := getEntries_ne_nil_of_lookup hvalue
  cases hneed : isNeedUpdateKey P bad with
  | none =>
    refine ⟨bad, value, ?_, hbad⟩
    rw [lookup_query_of_unmoved hmark hne hbad.1 hneed]
    · exact hvalue
    · intro key' hstored hneed'
      by_cases hempty : bad = ""
      · exact (isNeedUpdateKey_ne_updated hneed').2 hempty
      · rw [honly hempty key' hstored (by rw [hneed']; rfl), hneed] at hneed'
        cases hneed'
  | some newKey =>
    have hempty : bad ≠ "" := by
      rintro rfl
      rw [isNeedUpdateKey_eq_none rfl] at hneed
      cases hneed
    -- what moves is the entry of `bad`, and nothing else
    have hfrom : ∀ {key value' : String},
        (KvStore.newEntries P (KvStore.reached env (D.getEntries kv))).lookup key = some value' →
        isNeedUpdateKey P bad = some key ∧ value' = value := by
      intro key value' hlookup
      obtain ⟨key', hentry, hneed'⟩ := KvStore.lookup_newEntries hlookup
      have hstored := ((D.isListing kv).mem _ _).mp (KvStore.reached_subset _ _ hentry)
      obtain rfl := honly hempty key' (by rw [hstored]; rfl) (by rw [hneed']; rfl)
      rw [hvalue] at hstored
      cases hstored
      exact ⟨hneed', rfl⟩
    cases hlookup :
        (KvStore.newEntries P (KvStore.reached env (D.getEntries kv))).lookup newKey with
    | some value' =>
      obtain ⟨-, rfl⟩ := hfrom hlookup
      have hnewKey := (isNeedUpdateKey_ne_updated hneed).1
      refine ⟨newKey, value', ?_, hnewKey, hbad.2⟩
      rw [KvStore.lookup_query_old hmark hne, if_neg hnewKey, hlookup, Option.some_or]
    | none =>
      refine ⟨bad, value, ?_, hbad⟩
      rw [KvStore.lookup_query_old hmark hne, if_neg hbad.1, if_neg]
      · cases hself : (KvStore.newEntries P (KvStore.reached env (D.getEntries kv))).lookup bad with
        | none => rw [Option.none_or, hvalue]
        | some value' => exact absurd rfl (isNeedUpdateKey_ne (hfrom hself).1)
      · intro hold
        obtain ⟨value', hentry, -⟩ := KvStore.mem_oldKeys.mp hold
        have hsome := KvStore.isSome_lookup_newEntries hentry hneed
        rw [hlookup] at hsome
        cases hsome

/-- With a value that cannot be read listed first, a query reports nothing. -/
theorem query_reports_nothing (hmark : kv.isUpdated = true) {bad value : String}
    (hvalue : kv.lookup bad = some value) (hbad : KvStore.Unreadable env (bad, value)) :
    let q := kv.queryStaticSubscriberStateData P env
      (listFirst (fun entry => KvStore.Unreadable env entry)) {} ∅ []
    q.disableEvents = ∅ ∧ q.bundleList = [] := by
  obtain ⟨⟨key, value'⟩, entries, heq, hfirst, -⟩ := listFirst_eq
    (fun entry => KvStore.Unreadable env entry) hvalue (decide_eq_true hbad)
  obtain ⟨hkey, hzero, hnone⟩ := of_decide_eq_true hfirst
  intro q
  have hq : q = _ := KvStore.queryStaticSubscriberStateData_updated hmark ∅ []
  rw [hq, heq, KvStore.queryLoop_updated_cons, if_neg hkey, if_neg hzero,
    show convertValueToEvents env value' = none from hnone]
  exact ⟨rfl, rfl⟩

/-- An old key does not move to another old key that is stored. -/
theorem isNeedUpdateKey_new_of_migrated (hmark : kv.isUpdated = false)
    (h : Migrated P env {} kv) (hread : kv.Readable env) {key newKey : String}
    (hstored : (kv.lookup key).isSome) (hneed : isNeedUpdateKey P key = some newKey)
    (hstored' : (kv.lookup newKey).isSome) : isNeedUpdateKey P newKey = none := by
  obtain ⟨value, hvalue⟩ := Option.isSome_iff_exists.mp hstored
  have hne : ({} : DistributedKv).getEntries kv ≠ [] := getEntries_ne_nil_of_lookup hvalue
  by_contra hneed'
  have hgone := (h (isUpdated_query_old P env hmark hne)).1 newKey hstored'
    (Option.isSome_iff_ne_none.mpr hneed')
  have hnew := KvStore.isSome_lookup_newEntries (P := P)
    (KvStore.mem_reached_of_readable (D := {}) hread hvalue) hneed
  rw [KvStore.lookup_query_old hmark hne, if_neg (isNeedUpdateKey_ne_updated hneed).1,
    Option.or_eq_none_iff] at hgone
  rw [hgone.1] at hnew
  cases hnew

/-- Two values that end under one key say the same. -/
theorem same_report_of_migrated (hmark : kv.isUpdated = false) (h : Migrated P env {} kv)
    (hread : kv.Readable env) {key key' value value' : String}
    (hvalue : kv.lookup key = some value) (hvalue' : kv.lookup key' = some value')
    (hkey : key ≠ IS_UPDATED_KEY) (hkey' : key' ≠ IS_UPDATED_KEY)
    (hsame : migratedKey P key = migratedKey P key') :
    (value = STATIC_SUBSCRIBER_VALUE_DEFAULT ∧ value' = STATIC_SUBSCRIBER_VALUE_DEFAULT)
      ∨ value ≠ STATIC_SUBSCRIBER_VALUE_DEFAULT ∧ value' ≠ STATIC_SUBSCRIBER_VALUE_DEFAULT
        ∧ convertValueToEvents env value = convertValueToEvents env value' := by
  have hne : ({} : DistributedKv).getEntries kv ≠ [] := getEntries_ne_nil_of_lookup hvalue
  have hupdated := isUpdated_query_old P env hmark hne
  obtain ⟨-, hlists, hbundles, -⟩ := KvStore.query_readable (P := P) (D := {})
    hupdated (readable_query_old hmark hne hread) ∅ []
  -- one key cannot be reported both ways
  have hnotBoth : ∀ key events, key ∈ ((kv.queryStaticSubscriberStateData P env {} {} ∅
      []).kvStore.queryStaticSubscriberStateData P env {} {} ∅ []).bundleList →
      ((kv.queryStaticSubscriberStateData P env {} {} ∅
        []).kvStore.queryStaticSubscriberStateData P env {} {} ∅ []).disableEvents.lookup key
        ≠ some events := by
    intro key events hbundle hevents
    have hlegacy := ((hbundles key).mp hbundle).resolve_left List.not_mem_nil
    rw [hlists, AList.lookup_empty, Option.none_or, KvStore.listed_legacy hlegacy] at hevents
    cases hevents
  have hreport := (h hupdated).2 key value hvalue hkey
  have hreport' := (h hupdated).2 key' value' hvalue' hkey'
  rw [← hsame] at hreport'
  by_cases hzero : value = STATIC_SUBSCRIBER_VALUE_DEFAULT
  · refine Or.inl ⟨hzero, ?_⟩
    by_contra hzero'
    obtain ⟨events, hevents⟩ := Option.isSome_iff_exists.mp
      ((hread key' value' hvalue' hkey').resolve_left hzero')
    exact hnotBoth _ events (hreport.1 hzero) (hreport'.2 events hzero' hevents)
  · obtain ⟨events, hevents⟩ := Option.isSome_iff_exists.mp
      ((hread key value hvalue hkey).resolve_left hzero)
    have hlist := hreport.2 events hzero hevents
    have hzero' : value' ≠ STATIC_SUBSCRIBER_VALUE_DEFAULT :=
      fun hzero' => hnotBoth _ events (hreport'.1 hzero') hlist
    obtain ⟨events', hevents'⟩ := Option.isSome_iff_exists.mp
      ((hread key' value' hvalue' hkey').resolve_left hzero')
    have hlist' := hreport'.2 events' hzero' hevents'
    refine Or.inr ⟨hzero, hzero', ?_⟩
    rw [hevents, hevents']
    exact hlist.symm.trans hlist'

/-- **One value that cannot be read spoils them all**: listed first, it keeps
the next query from reporting any other. -/
theorem unreadable_of_migrated (hmark : kv.isUpdated = false) (h : ∀ D, Migrated P env D kv)
    {bad value : String} (hvalue : kv.lookup bad = some value)
    (hbad : KvStore.Unreadable env (bad, value)) {key value' : String}
    (hvalue' : kv.lookup key = some value') (hkey : key ≠ IS_UPDATED_KEY) :
    KvStore.Unreadable env (key, value') := by
  let D := listFirst (fun entry => KvStore.Unreadable env entry)
  have hne : D.getEntries kv ≠ [] := getEntries_ne_nil_of_lookup hvalue
  have hupdated := isUpdated_query_old P env hmark hne
  obtain ⟨left, value'', hleft, hbad'⟩ := unreadable_remains (P := P) (D := D) hmark hvalue hbad
    fun hempty _ => old_key_eq hmark h hvalue hbad hempty
  obtain ⟨hlists, hbundles⟩ := query_reports_nothing (P := P) hupdated hleft hbad'
  obtain ⟨hzero, hevents⟩ := (h D hupdated).2 key value' hvalue' hkey
  have hnotZero : value' ≠ STATIC_SUBSCRIBER_VALUE_DEFAULT := by
    intro h
    have hmem := hzero h
    rw [hbundles] at hmem
    cases hmem
  refine ⟨hkey, hnotZero, ?_⟩
  cases hconvert : convertValueToEvents env value' with
  | none => rfl
  | some events =>
    have hlookup := hevents events hnotZero hconvert
    rw [hlists, AList.lookup_empty] at hlookup
    cases hlookup

/-- **Where the migration is complete in every order**, the store is of one of
the two kinds. -/
theorem migratable_of_migrated (hmark : kv.isUpdated = false) (h : ∀ D, Migrated P env D kv) :
    Migratable P env kv := by
  by_cases hread : kv.Readable env
  · refine Or.inl ⟨hread, ?_, ?_⟩
    · exact fun _ _ => isNeedUpdateKey_new_of_migrated hmark (h {}) hread
    · exact fun _ _ _ _ => same_report_of_migrated hmark (h {}) hread
  · obtain ⟨bad, value, hvalue, hbad⟩ : ∃ bad value, kv.lookup bad = some value
        ∧ KvStore.Unreadable env (bad, value) := by
      unfold KvStore.Readable at hread
      simp only [not_forall, not_or] at hread
      obtain ⟨bad, value, hvalue, hkey, hzero, hnone⟩ := hread
      exact ⟨bad, value, hvalue, hkey, hzero, by simpa using hnone⟩
    refine Or.inr ⟨fun _ _ => unreadable_of_migrated hmark h hvalue hbad, ?_⟩
    intro key key' hstored hneed hstored' hkey' hempty'
    obtain ⟨value', hvalue'⟩ := Option.isSome_iff_exists.mp hstored'
    have hbad' := unreadable_of_migrated hmark h hvalue hbad hvalue' hkey'
    exact (old_key_eq hmark h hvalue' hbad' hempty' hstored hneed).symm

/-- **The migration is complete, in whatever order entries are listed, exactly
for the stores of the two kinds.** -/
theorem migrated_iff_migratable (hmark : kv.isUpdated = false) :
    (∀ D, Migrated P env D kv) ↔ Migratable P env kv := by
  constructor
  · exact migratable_of_migrated hmark
  · rintro (⟨hread, hkeys, hvalues⟩ | ⟨hunread, honly⟩) D
    · exact migrated_of_readable hmark hread hkeys hvalues
    · exact migrated_of_unreadable hmark hunread honly

/-- A store with one entry under an old key. -/
def oldStore : KvStore := AList.insert "20000001b" "[\"e\"]" ∅

/-- The same with an entry that cannot be read. -/
def badStore : KvStore := AList.insert "10000000a" "junk" oldStore

theorem lookup_oldStore (key : String) :
    oldStore.lookup key = if key = "20000001b" then some "[\"e\"]" else none := by
  unfold oldStore
  rw [Dict.lookup_insert_ite, AList.lookup_empty]

/-- One entry is migrated completely. -/
theorem migrated_iff_migratable_one :
    oldStore.isUpdated = false ∧ ∀ D, Migrated {} jsonEnvironment D oldStore := by
  refine ⟨by decide, ?_⟩
  refine (migrated_iff_migratable (by decide)).mpr (Or.inl ⟨?_, ?_, ?_⟩)
  · intro key value hvalue hkey
    rw [lookup_oldStore] at hvalue
    split at hvalue
    · cases hvalue
      exact Or.inr rfl
    · cases hvalue
  · intro key newKey hstored hneed hstored'
    rw [lookup_oldStore] at hstored'
    split at hstored'
    next h =>
      rw [lookup_oldStore] at hstored
      split at hstored
      next h' => exact absurd (h.trans h'.symm) (isNeedUpdateKey_ne hneed)
      next => cases hstored
    next => cases hstored'
  · intro key key' value value' hvalue hvalue' _ _ _
    rw [lookup_oldStore] at hvalue hvalue'
    split at hvalue
    · split at hvalue'
      · cases hvalue
        cases hvalue'
        exact Or.inr ⟨by decide, by decide, rfl⟩
      · cases hvalue'
    · cases hvalue

/-- **The migration can be declared complete when it is not**: a value that
cannot be read may come first. -/
theorem migration_incomplete :
    ¬ ∀ (P : Platform) (env : StaticEnvironment) (D : DistributedKv) (kv : KvStore),
      kv.isUpdated = false → Migrated P env D kv := by
  intro h
  have hx : badStore.lookup "10000000a" = some "junk" := AList.lookup_insert _
  have hb : badStore.lookup "20000001b" = some "[\"e\"]" := by
    unfold badStore
    rw [Dict.lookup_insert_ite, if_neg (by decide), lookup_oldStore, if_pos rfl]
  rcases migratable_of_migrated (P := {})
    (by decide) (fun D => h {} jsonEnvironment D badStore (by decide)) with
    ⟨hread, -⟩ | ⟨hunread, -⟩
  · rcases hread "10000000a" "junk" hx (by decide) with hzero | hsome
    · exact absurd hzero (by decide)
    · cases hsome
  · exact absurd (hunread _ _ hb (by decide)).2.2 nofun

end CommonEventService

import CommonEventService.DisableState
import CommonEventService.AllowList

/-!
# Bundles with all their events off

A value `0` is left from the time when a bundle was switched off as a whole.
`InitValidSubscribers` replaces it: where a query lists such bundles, it
builds `disableEvents_` anew from the events they are allowed, and saves it.
What it builds holds nothing else, and a save takes out of the store what it
does not hold. So the migration is sound only for a store that has no other
entries, and whose bundles are all migrated at once, or none of them.
-/

namespace CommonEventService

namespace StaticSubscriberManager

variable (P : Platform) (env : StaticEnvironment) (D : DistributedKv) (dump : Json → String)

/-- **`InitValidSubscribers`** over a store: whether it succeeds, and what it
leaves in memory and in the store. -/
def initValidSubscribersOn (answers : QueryAnswers) (save : SaveAnswers)
    (m : StaticSubscriberManager) (kv : KvStore) : Bool × StaticSubscriberManager × KvStore :=
  let m := { m with validSubscribers := ∅ }
  match env.getApplicationInfos with
  | none => (false, m, kv)
  | some appInfos =>
    let m := { m with staticSubscribers := appInfos.foldl (allowEvents P) m.staticSubscribers }
    let q := kv.queryStaticSubscriberStateData P env D answers m.disableEvents []
    let m := { m with disableEvents := q.disableEvents }
    match env.queryExtensionInfos with
    | none => (false, m, q.kvStore)
    | some extensions =>
      let m := (extensions.foldl (addExtension P env) m).disableBundles q.bundleList
      (true, { m with hasInitValidSubscribers := true },
        if q.bundleList = [] then q.kvStore
        else (q.kvStore.updateStaticSubscriberState P env D dump save m.disableEvents).2)

/-- The environment of a manager that has this store. -/
def environmentOf (answers : QueryAnswers) (kv : KvStore) : StaticEnvironment :=
  { env with
    getEntries :=
      if answers.checkKvStore && answers.getEntries
      then some ((D.getEntries kv).filter (fun entry => entry.1 ≠ IS_UPDATED_KEY)) else none
    isUpdated := answers.get && kv.isUpdated }

variable {P env D dump}

/-- Which key an entry goes by. -/
theorem migrateKey_cases (isUpdatedValue : Bool) (loop : QueryLoop) (key value : String) :
    (((!isUpdatedValue) = true ∧ key = "")
      ∧ ∃ result, StaticSubscriberDataManager.migrateKey P isUpdatedValue loop key value
        = ({ loop with result := result }, none))
    ∨ ¬ ((!isUpdatedValue) = true ∧ key = "")
      ∧ ∃ result removeOldkeys migrateValues,
        StaticSubscriberDataManager.migrateKey P isUpdatedValue loop key value
          = ({ loop with
               result := result
               removeOldkeys := removeOldkeys
               migrateValues := migrateValues },
            some (if isUpdatedValue then key
              else (StaticSubscriberDataManager.isNeedUpdateKey P key).getD key)) := by
  unfold StaticSubscriberDataManager.migrateKey StaticSubscriberDataManager.getValidKey
  cases isUpdatedValue with
  | true => exact Or.inr ⟨fun h => Bool.noConfusion h.1, _, _, _, rfl⟩
  | false =>
    by_cases hkey : key = ""
    · rw [if_pos hkey]
      exact Or.inl ⟨⟨rfl, hkey⟩, _, rfl⟩
    · rw [if_neg hkey]
      refine Or.inr ⟨fun h => hkey h.2, ?_⟩
      cases StaticSubscriberDataManager.isNeedUpdateKey P key with
      | none => exact ⟨_, _, _, rfl⟩
      | some newKey => exact ⟨_, _, _, rfl⟩

variable (env) in
/-- The loop finds in the entries of a store what it finds in those the
environment answers. -/
theorem queryLoop_eq_queryEntries (env' : StaticEnvironment) (hparse : env'.parse = env.parse)
    (entries : List (String × String)) (loop : QueryLoop) :
    ((StaticSubscriberDataManager.queryLoop P env env'.isUpdated loop entries).disableEvents,
      (StaticSubscriberDataManager.queryLoop P env env'.isUpdated loop entries).bundleList)
      = StaticSubscriberDataManager.queryEntries P env' loop.disableEvents loop.bundleList
          (entries.filter (fun entry => entry.1 ≠ IS_UPDATED_KEY)) := by
  have hconvert : ∀ value, StaticSubscriberDataManager.convertValueToEvents env' value
      = StaticSubscriberDataManager.convertValueToEvents env value := by
    intro value
    unfold StaticSubscriberDataManager.convertValueToEvents
    rw [hparse]
  induction entries generalizing loop with
  | nil => rfl
  | cons entry entries ih =>
    obtain ⟨key, value⟩ := entry
    rw [StaticSubscriberDataManager.queryLoop]
    by_cases hmark : key = IS_UPDATED_KEY
    · rw [if_pos hmark, List.filter_cons_of_neg (by simp [hmark])]
      exact ih loop
    · rw [if_neg hmark, List.filter_cons_of_pos (by simp [hmark]),
        StaticSubscriberDataManager.queryEntries]
      rcases migrateKey_cases (P := P) env'.isUpdated loop key value with
        ⟨hcond, result, heq⟩ | ⟨hcond, result, removeOldkeys, migrateValues, heq⟩
      · rw [heq, if_pos hcond]
        exact ih _
      · rw [heq, if_neg hcond, hconvert]
        unfold STATIC_SUBSCRIBER_VALUE_DEFAULT
        dsimp only
        by_cases hvalue : value = "0"
        · rw [if_pos hvalue, if_pos hvalue]
          exact ih _
        · rw [if_neg hvalue, if_neg hvalue]
          cases StaticSubscriberDataManager.convertValueToEvents env value with
          | none => rfl
          | some values => exact ih _

/-- **The manager reads a store as it reads its environment.** -/
theorem initValidSubscribersOn_eq (answers : QueryAnswers) (save : SaveAnswers)
    (m : StaticSubscriberManager) (kv : KvStore) :
    ((m.initValidSubscribersOn P env D dump answers save kv).1,
      (m.initValidSubscribersOn P env D dump answers save kv).2.1)
      = m.initValidSubscribers P (environmentOf env D answers kv) := by
  have hquery : ∀ disableEvents,
      ((kv.queryStaticSubscriberStateData P env D answers disableEvents []).disableEvents,
        (kv.queryStaticSubscriberStateData P env D answers disableEvents []).bundleList)
      = StaticSubscriberDataManager.queryStaticSubscriberStateData P
          (environmentOf env D answers kv) disableEvents := by
    intro disableEvents
    unfold KvStore.queryStaticSubscriberStateData
      StaticSubscriberDataManager.queryStaticSubscriberStateData
    have hloop := queryLoop_eq_queryEntries (P := P) env
      (environmentOf env D answers kv) rfl (D.getEntries kv)
      { disableEvents := disableEvents, bundleList := [] }
    cases hcheck : answers.checkKvStore with
    | false =>
      rw [show (environmentOf env D answers kv).getEntries = none by simp [environmentOf, hcheck]]
      rfl
    | true =>
      cases hget : answers.getEntries with
      | false =>
        rw [show (environmentOf env D answers kv).getEntries = none by
          simp [environmentOf, hcheck, hget]]
        rfl
      | true =>
        rw [show (environmentOf env D answers kv).getEntries = some ((D.getEntries kv).filter
          (fun entry => entry.1 ≠ IS_UPDATED_KEY)) by simp [environmentOf, hcheck, hget]]
        dsimp only
        rw [if_neg nofun, if_neg nofun, ← hloop]
        split
        next hnil =>
          rw [hnil]
          rfl
        next => rfl
  unfold initValidSubscribersOn initValidSubscribers
  dsimp only
  rw [show (environmentOf env D answers kv).getApplicationInfos = env.getApplicationInfos from rfl,
    show (environmentOf env D answers kv).queryExtensionInfos = env.queryExtensionInfos from rfl]
  cases env.getApplicationInfos with
  | none => rfl
  | some appInfos =>
    rw [← hquery]
    cases env.queryExtensionInfos with
    | none => rfl
    | some extensions => rfl

/-! ## The allow list -/

/-- An application allows a bundle of a user an event. -/
def Allowed (P : Platform) (appInfos : List ApplicationInfo) (key event : String) : Prop :=
  ∃ appInfo ∈ appInfos, ∃ userId, P.getOsAccountLocalIdFromUid appInfo.uid = some userId
    ∧ key = bundleKey userId appInfo.bundleName ∧ event ∈ appInfo.allowCommonEvent

theorem mem_allowedBy {appInfos : List ApplicationInfo} {key event : String} :
    event ∈ allowedBy P appInfos key ↔ Allowed P appInfos key event := by
  unfold allowedBy Allowed
  rw [List.mem_flatMap]
  refine exists_congr fun appInfo => and_congr_right fun _ => ?_
  cases P.getOsAccountLocalIdFromUid appInfo.uid with
  | none => simp
  | some userId =>
    by_cases hkey : bundleKey userId appInfo.bundleName = key
    · simp [hkey]
    · simp [hkey, Ne.symm hkey]

/-- **What all applications add to the allow list.** -/
theorem lookup_foldl_allowEvents (appInfos : List ApplicationInfo)
    (staticSubscribers : Dict String (List String)) (key event : String) :
    (event ∈ ((appInfos.foldl (allowEvents P) staticSubscribers).lookup key).getD []
        ↔ event ∈ (staticSubscribers.lookup key).getD [] ∨ Allowed P appInfos key event)
    ∧ (((appInfos.foldl (allowEvents P) staticSubscribers).lookup key).isSome
        ↔ (staticSubscribers.lookup key).isSome ∨ ∃ event, Allowed P appInfos key event) := by
  rw [show (appInfos.foldl (allowEvents P) staticSubscribers).lookup key
    = pushed (staticSubscribers.lookup key) (allowedBy P appInfos key)
      from lookup_initAllowList key]
  constructor
  · rw [getD_pushed, List.mem_append, mem_allowedBy]
  · rw [isSome_pushed]
    exact or_congr_right (exists_congr fun _ => mem_allowedBy)

/-- **The allow list of these applications**, events perhaps repeated. -/
structure IsAllowList (P : Platform) (appInfos : List ApplicationInfo)
    (staticSubscribers : Dict String (List String)) : Prop where
  mem : ∀ key event, event ∈ (staticSubscribers.lookup key).getD [] ↔ Allowed P appInfos key event
  isSome : ∀ key, (staticSubscribers.lookup key).isSome ↔ ∃ event, Allowed P appInfos key event

theorem isAllowList_empty (appInfos : List ApplicationInfo) :
    IsAllowList P appInfos (appInfos.foldl (allowEvents P) ∅) := by
  refine ⟨fun key event => ?_, fun key => ?_⟩
  · rw [(lookup_foldl_allowEvents appInfos ∅ key event).1]
    simp
  · rw [(lookup_foldl_allowEvents appInfos ∅ key "").2]
    simp

/-- Reading the applications in once more adds repetitions only. -/
theorem IsAllowList.again {appInfos : List ApplicationInfo}
    {staticSubscribers : Dict String (List String)} (h : IsAllowList P appInfos staticSubscribers) :
    IsAllowList P appInfos (appInfos.foldl (allowEvents P) staticSubscribers) := by
  refine ⟨fun key event => ?_, fun key => ?_⟩
  · rw [(lookup_foldl_allowEvents appInfos staticSubscribers key event).1, h.mem, or_self]
  · rw [(lookup_foldl_allowEvents appInfos staticSubscribers key "").2, h.isSome, or_self]

/-- A bundle in the allow list is allowed an event. -/
theorem IsAllowList.ne_nil {appInfos : List ApplicationInfo}
    {staticSubscribers : Dict String (List String)} (h : IsAllowList P appInfos staticSubscribers)
    {key : String} {events : List String} (hevents : staticSubscribers.lookup key = some events) :
    events ≠ [] := by
  obtain ⟨event, hallowed⟩ := (h.isSome key).mp (by rw [hevents]; rfl)
  have hmem := (h.mem key event).mpr hallowed
  rw [hevents] at hmem
  rintro rfl
  cases hmem

/-! ## One run of `InitValidSubscribers` -/

variable {m : StaticSubscriberManager} {kv : KvStore}

/-- What the loop over the bundles of a list switches off. -/
theorem lookup_foldl_disableBundles (bundleList : List String)
    (disableEvents : Dict String (List String)) (key : String) :
    (bundleList.foldl (fun disableEvents key =>
        match m.staticSubscribers.lookup key with
        | none => disableEvents
        | some events => Dict.emplace disableEvents key events) disableEvents).lookup key
      = (disableEvents.lookup key).or
          (if key ∈ bundleList then m.staticSubscribers.lookup key else none) := by
  induction bundleList generalizing disableEvents with
  | nil => simp
  | cons k bundleList ih =>
    rw [List.foldl_cons, ih]
    by_cases hk : key = k
    · subst hk
      cases hevents : m.staticSubscribers.lookup key with
      | none => simp
      | some events => simp [Dict.lookup_emplace]
    · cases hevents : m.staticSubscribers.lookup k with
      | none => simp [hk]
      | some events => simp [Dict.lookup_emplace, hk]

/-- What is switched off of the bundles of a list. -/
theorem lookup_disableBundles {bundleList : List String} (hne : bundleList ≠ []) (key : String) :
    (m.disableBundles bundleList).disableEvents.lookup key
      = if key ∈ bundleList then m.staticSubscribers.lookup key else none := by
  have hempty := lookup_foldl_disableBundles (m := m) bundleList ∅ key
  rw [AList.lookup_empty, Option.none_or] at hempty
  unfold disableBundles
  rw [if_neg hne]
  exact hempty

/-- The applications and extensions of a run that succeeds. -/
theorem initValidSubscribersOn_true (answers : QueryAnswers) (save : SaveAnswers)
    (h : (m.initValidSubscribersOn P env D dump answers save kv).1 = true) :
    ∃ appInfos extensions, env.getApplicationInfos = some appInfos
      ∧ env.queryExtensionInfos = some extensions := by
  unfold initValidSubscribersOn at h
  dsimp only at h
  cases happs : env.getApplicationInfos with
  | none =>
    rw [happs] at h
    cases h
  | some appInfos =>
    rw [happs] at h
    cases hexts : env.queryExtensionInfos with
    | none =>
      rw [hexts] at h
      cases h
    | some extensions => exact ⟨appInfos, extensions, rfl, rfl⟩

/-- A run reads the allow list in. -/
theorem staticSubscribers_initValidSubscribersOn {appInfos : List ApplicationInfo}
    {extensions : List ExtensionAbilityInfo} (happs : env.getApplicationInfos = some appInfos)
    (hexts : env.queryExtensionInfos = some extensions) :
    (m.initValidSubscribersOn P env D dump {} {} kv).2.1.staticSubscribers
      = appInfos.foldl (allowEvents P) m.staticSubscribers := by
  unfold initValidSubscribersOn
  rw [happs]
  dsimp only
  rw [hexts]
  show (disableBundles _ _).staticSubscribers = _
  unfold disableBundles
  split
  · exact (OnlySubscribers.foldl onlySubscribers_addExtension _ _).staticSubscribers
  · exact (OnlySubscribers.foldl onlySubscribers_addExtension _ _).staticSubscribers

/-- **One run**, where every value can be read. Without a bundle that has all
its events off it adds what is stored to what is held. With one it holds the
events such bundles are allowed, and stores these for what a query lists. -/
theorem initValidSubscribersOn_spec {appInfos : List ApplicationInfo}
    {extensions : List ExtensionAbilityInfo} (happs : env.getApplicationInfos = some appInfos)
    (hexts : env.queryExtensionInfos = some extensions) (hmark : kv.isUpdated = true)
    (hread : kv.Readable env) :
    let r := (m.initValidSubscribersOn P env D dump {} {} kv).2
    ((∀ key, ¬ kv.Legacy key) → Dict.Agree r.2 kv ∧ ∀ key,
        r.1.disableEvents.lookup key = (m.disableEvents.lookup key).or (kv.listed env key))
    ∧ ∀ legacy, kv.Legacy legacy →
        (∀ key, (kv.Legacy key → r.1.disableEvents.lookup key = r.1.staticSubscribers.lookup key)
          ∧ (¬ kv.Legacy key → r.1.disableEvents.lookup key = none))
        ∧ ∃ stored : KvStore, Dict.Agree stored kv ∧ r.2 =
          (stored.updateStaticSubscriberState P env D dump {} r.1.disableEvents).2 := by
  obtain ⟨-, hlists, hbundles, hkv⟩ := KvStore.query_readable (P := P) (D := D)
    hmark hread m.disableEvents []
  have hbundles : ∀ key, key ∈ (kv.queryStaticSubscriberStateData P env D {} m.disableEvents
      []).bundleList ↔ kv.Legacy key := by
    intro key
    rw [hbundles key]
    simp
  intro r
  have hstatic : r.1.staticSubscribers = _ :=
    staticSubscribers_initValidSubscribersOn happs hexts
  rw [hstatic]
  have hr : r = (m.initValidSubscribersOn P env D dump {} {} kv).2 := rfl
  unfold initValidSubscribersOn at hr
  rw [happs] at hr
  dsimp only at hr
  rw [hexts] at hr
  dsimp only at hr
  -- from here on only what the query lists and leaves is used
  generalize kv.queryStaticSubscriberStateData P env D {} m.disableEvents [] = q
    at hlists hbundles hkv hr
  have honly := OnlySubscribers.foldl (f := addExtension P env) onlySubscribers_addExtension
    extensions { m with
      validSubscribers := ∅
      staticSubscribers := appInfos.foldl (allowEvents P) m.staticSubscribers
      disableEvents := q.disableEvents }
  rw [hr]
  constructor
  · intro hnone
    -- without such a bundle nothing is saved
    have hnil : q.bundleList = [] := by
      refine List.eq_nil_iff_forall_not_mem.mpr fun key hkey => ?_
      exact hnone key ((hbundles key).mp hkey)
    rw [if_pos hnil]
    refine ⟨hkv, fun key => ?_⟩
    show (disableBundles _ q.bundleList).disableEvents.lookup key = _
    rw [hnil]
    show AList.lookup key (StaticSubscriberManager.disableEvents _) = _
    rw [show disableBundles _ [] = _ from if_pos rfl, honly.disableEvents]
    exact hlists key
  · intro legacy hlegacy
    have hne : q.bundleList ≠ [] := List.ne_nil_of_mem ((hbundles legacy).mpr hlegacy)
    rw [if_neg hne]
    refine ⟨?_, q.kvStore, hkv, rfl⟩
    intro key
    show (_ → (disableBundles _ q.bundleList).disableEvents.lookup key = _)
      ∧ (_ → (disableBundles _ q.bundleList).disableEvents.lookup key = _)
    rw [lookup_disableBundles hne, honly.staticSubscribers]
    constructor
    · exact fun h => if_pos ((hbundles key).mpr h)
    · exact fun h => if_neg (fun hmem => h ((hbundles key).mp hmem))

/-! ## Several runs -/

variable (P env D dump kv) in
/-- The state after some runs of `InitValidSubscribers`, on a fresh manager
and a given store. -/
def initRuns : ℕ → StaticSubscriberManager × KvStore
  | 0 => ({}, kv)
  | n + 1 => ((initRuns n).1.initValidSubscribersOn P env D dump {} {} (initRuns n).2).2

/-- **Nothing that was stored is lost**: what an explicit entry of the store
`kv` switches off, and what a bundle that was off is allowed, is off, and the
explicit entries are still stored. -/
structure NothingLost (env : StaticEnvironment) (kv : KvStore)
    (state : StaticSubscriberManager × KvStore) : Prop where
  explicit : ∀ userId bundleName events event,
    kv.listed env (bundleKey userId bundleName) = some events → event ∈ events →
    state.1.isDisableEvent bundleName event userId = true
  legacy : ∀ userId bundleName events event, kv.Legacy (bundleKey userId bundleName) →
    state.1.staticSubscribers.lookup (bundleKey userId bundleName) = some events →
    event ∈ events → state.1.isDisableEvent bundleName event userId = true
  stored : ∀ key events, kv.listed env key = some events →
    state.2.listed env key = some events

variable (P env) in
/-- The allow list that a fresh manager reads in. -/
def allowList : Dict String (List String) :=
  (env.getApplicationInfos.getD []).foldl (allowEvents P) ∅

variable (P env) in
/-- **Where the migration is sound**: no bundle has all its events off; or no
entry is explicit, and of the bundles that have all events off the allow list
holds all or none. -/
def MigrationSafe (kv : KvStore) : Prop :=
  (∀ key, ¬ kv.Legacy key)
  ∨ (∀ key, kv.listed env key = none)
    ∧ ((∀ key, kv.Legacy key → ((allowList P env).lookup key).isSome)
      ∨ ∀ key, kv.Legacy key → (allowList P env).lookup key = none)

section Runs

variable {appInfos : List ApplicationInfo} {extensions : List ExtensionAbilityInfo}
  (happs : env.getApplicationInfos = some appInfos)
  (hexts : env.queryExtensionInfos = some extensions)
include happs hexts

omit hexts in
theorem isAllowList_allowList : IsAllowList P appInfos (allowList P env) := by
  rw [allowList, happs]
  exact isAllowList_empty appInfos

variable (D dump kv) in
theorem isAllowList_initRuns (n : ℕ) :
    IsAllowList P appInfos (initRuns P env D dump kv (n + 1)).1.staticSubscribers := by
  rw [initRuns, staticSubscribers_initValidSubscribersOn happs hexts]
  induction n with
  | zero => exact isAllowList_empty appInfos
  | succ n ih =>
    rw [initRuns, staticSubscribers_initValidSubscribersOn happs hexts]
    exact ih.again

/-- **A run without a bundle that has all its events off** keeps what is
stored, and loads it, unless other lists are held. -/
theorem loaded_initValidSubscribersOn (hmark : kv.isUpdated = true) (hread : kv.Readable env)
    (hnone : ∀ key, ¬ kv.Legacy key) {state : StaticSubscriberManager × KvStore}
    (hagree : Dict.Agree state.2 kv)
    (hheld : ∀ key, state.1.disableEvents.lookup key = none
      ∨ state.1.disableEvents.lookup key = kv.listed env key) :
    let r := (state.1.initValidSubscribersOn P env D dump {} {} state.2).2
    Dict.Agree r.2 kv ∧ ∀ key, r.1.disableEvents.lookup key = kv.listed env key := by
  obtain ⟨hkv, hlists⟩ := (initValidSubscribersOn_spec (P := P) (D := D)
    (m := state.1) happs hexts (KvStore.isUpdated_congr hagree hmark)
    (KvStore.readable_congr hagree hread)).1
    (fun key hlegacy => hnone key ((KvStore.legacy_congr hagree key).mp hlegacy))
  refine ⟨fun key => (hkv key).trans (hagree key), fun key => ?_⟩
  rw [hlists key, KvStore.listed_congr hagree key]
  rcases hheld key with hheld | hheld
  · rw [hheld, Option.none_or]
  · rw [hheld]
    cases kv.listed env key <;> rfl

/-- Several such runs. -/
theorem loaded_initRuns {kv₀ : KvStore} (hmark : kv.isUpdated = true) (hread : kv.Readable env)
    (hnone : ∀ key, ¬ kv.Legacy key) (k : ℕ)
    (hagree : Dict.Agree (initRuns P env D dump kv₀ k).2 kv)
    (hheld : ∀ key, (initRuns P env D dump kv₀ k).1.disableEvents.lookup key = none
      ∨ (initRuns P env D dump kv₀ k).1.disableEvents.lookup key = kv.listed env key) (n : ℕ) :
    Dict.Agree (initRuns P env D dump kv₀ (k + n + 1)).2 kv
      ∧ ∀ key, (initRuns P env D dump kv₀ (k + n + 1)).1.disableEvents.lookup key
        = kv.listed env key := by
  induction n with
  | zero => exact loaded_initValidSubscribersOn happs hexts hmark hread hnone hagree hheld
  | succ n ih =>
    exact loaded_initValidSubscribersOn happs hexts hmark hread hnone ih.1
      (fun key => Or.inr (ih.2 key))

/-- **The run that migrates.** It holds what the bundles that were off are
allowed, and nothing else; what is stored says just that; and the bundles that
are allowed nothing are as they were. -/
theorem initRuns_migrating (hmark : kv.isUpdated = true) (hread : kv.Readable env)
    (hjson : KvStore.JsonInverse env dump (allowList P env)) {legacy : String}
    (hlegacy : kv.Legacy legacy) :
    let s := initRuns P env D dump kv 1
    s.2.isUpdated = true ∧ s.2.Readable env
      ∧ (∀ key, s.2.listed env key = s.1.disableEvents.lookup key)
      ∧ (∀ key, s.2.Legacy key ↔ kv.Legacy key ∧ (allowList P env).lookup key = none)
      ∧ ∀ key, (kv.Legacy key → s.1.disableEvents.lookup key = (allowList P env).lookup key)
        ∧ (¬ kv.Legacy key → s.1.disableEvents.lookup key = none) := by
  intro s
  have hstatic : s.1.staticSubscribers = allowList P env := by
    rw [allowList, happs]
    exact staticSubscribers_initValidSubscribersOn happs hexts
  have hallow := isAllowList_allowList (P := P) happs
  obtain ⟨hheld, stored, hstored, hsave⟩ := (initValidSubscribersOn_spec (P := P) (D := D)
    (m := {}) happs hexts hmark hread).2 legacy hlegacy
  change ∀ key, (kv.Legacy key → s.1.disableEvents.lookup key = s.1.staticSubscribers.lookup key)
    ∧ (¬ kv.Legacy key → s.1.disableEvents.lookup key = none) at hheld
  change s.2 = (KvStore.updateStaticSubscriberState P env D dump stored {} s.1.disableEvents).2
    at hsave
  rw [hstatic] at hheld
  -- what is held is part of the allow list
  have hsub : ∀ key events, s.1.disableEvents.lookup key = some events →
      (allowList P env).lookup key = some events := by
    intro key events hevents
    by_cases h : kv.Legacy key
    · rw [← (hheld key).1 h]
      exact hevents
    · rw [(hheld key).2 h] at hevents
      cases hevents
  have hkeys : s.1.disableEvents.lookup IS_UPDATED_KEY = none :=
    (hheld IS_UPDATED_KEY).2 (fun h => h.1 rfl)
  have hjson' : KvStore.JsonInverse env dump s.1.disableEvents :=
    ⟨fun key events hevents => hjson.parse_dump key events (hsub key events hevents),
      hjson.parse_zero⟩
  have hne : ∀ key, s.1.disableEvents.lookup key ≠ some [] :=
    fun key hnil => hallow.ne_nil (hsub key [] hnil) rfl
  have hmark' := KvStore.isUpdated_congr hstored hmark
  have hread' := KvStore.readable_congr hstored hread
  have hlookup := (KvStore.save_readable (P := P) (D := D) dump hmark' hread'
    s.1.disableEvents).2
  rw [← hsave] at hlookup
  refine ⟨?_, ?_, ?_, ?_, hheld⟩
  · rw [hsave]
    exact KvStore.isUpdated_save dump hmark' hread' hkeys
  · rw [hsave]
    exact (KvStore.readable_save_iff hmark' hread' hkeys hjson').mpr hne
  · rw [hsave]
    exact KvStore.listed_save hmark' hread' hkeys hjson' hne
  · intro key
    unfold KvStore.Legacy
    rw [hlookup key]
    cases hevents : s.1.disableEvents.lookup key with
    | some events =>
      rw [Option.map_some, Option.some_or, hsub key events hevents]
      constructor
      · rintro ⟨-, hzero⟩
        exact absurd (Option.some.inj hzero) (hjson'.convertEventsToValue_ne hevents)
      · rintro ⟨-, ⟨⟩⟩
    | none =>
      rw [Option.map_none, Option.none_or, KvStore.listed_congr hstored, hstored key]
      constructor
      · rintro ⟨hkey, hzero⟩
        have h : kv.Legacy key := by
          refine ⟨hkey, ?_⟩
          split at hzero
          · cases hzero
          · exact hzero
        refine ⟨h, ?_⟩
        rw [← (hheld key).1 h]
        exact hevents
      · rintro ⟨h, -⟩
        rw [KvStore.listed_legacy h]
        exact h

end Runs

section Exact

variable {appInfos : List ApplicationInfo} {extensions : List ExtensionAbilityInfo}
  (happs : env.getApplicationInfos = some appInfos)
  (hexts : env.queryExtensionInfos = some extensions)
  (hmark : kv.isUpdated = true) (hread : kv.Readable env)
include happs hexts hmark hread

/-- Without a bundle that has all its events off nothing is lost. -/
theorem nothingLost_of_noLegacy (hnone : ∀ key, ¬ kv.Legacy key) (n : ℕ) :
    NothingLost env kv (initRuns P env D dump kv (n + 1)) := by
  obtain ⟨hagree, hheld⟩ := loaded_initRuns (P := P) (D := D)
    happs hexts hmark hread hnone 0 (fun _ => rfl) (fun _ => Or.inl (AList.lookup_empty _)) n
  rw [Nat.zero_add] at hagree hheld
  refine ⟨?_, fun userId bundleName _ _ hlegacy => absurd hlegacy (hnone _), ?_⟩
  · intro userId bundleName events event hevents hevent
    rw [isDisableEvent_iff, hheld, hevents]
    exact hevent
  · intro key events hevents
    rw [KvStore.listed_congr hagree]
    exact hevents

/-- Where no entry is explicit, and every bundle that is off is allowed
something, nothing is lost. -/
theorem nothingLost_of_allAllowed (hjson : KvStore.JsonInverse env dump (allowList P env))
    (hexplicit : ∀ key, kv.listed env key = none) {legacy : String} (hlegacy : kv.Legacy legacy)
    (hall : ∀ key, kv.Legacy key → ((allowList P env).lookup key).isSome) (n : ℕ) :
    NothingLost env kv (initRuns P env D dump kv (n + 1)) := by
  obtain ⟨hmark', hread', hlisted, hlegacy', hheld⟩ := initRuns_migrating (P := P) (D := D)
    happs hexts hmark hread hjson hlegacy
  have hnone : ∀ key, ¬ (initRuns P env D dump kv 1).2.Legacy key := by
    intro key h
    obtain ⟨h, hnone⟩ := (hlegacy' key).mp h
    have hsome := hall key h
    rw [hnone] at hsome
    cases hsome
  have hsame : ∀ key, (initRuns P env D dump kv (n + 1)).1.disableEvents.lookup key
      = (initRuns P env D dump kv 1).1.disableEvents.lookup key := by
    cases n with
    | zero => exact fun _ => rfl
    | succ n =>
      intro key
      rw [← hlisted key, show n + 1 + 1 = 1 + n + 1 by omega]
      exact (loaded_initRuns happs hexts hmark' hread' hnone 1 (fun _ => rfl)
        (fun key => Or.inr (hlisted key).symm) n).2 key
  refine ⟨?_, ?_, ?_⟩
  · intro userId bundleName events event hevents
    rw [hexplicit] at hevents
    cases hevents
  · intro userId bundleName events event h hevents hevent
    rw [isDisableEvent_iff, hsame, (hheld _).1 h]
    refine ((isAllowList_allowList happs).mem _ event).mpr ?_
    refine ((isAllowList_initRuns (P := P) D dump kv happs hexts n).mem
      _ event).mp ?_
    rw [hevents]
    exact hevent
  · intro key events hevents
    rw [hexplicit] at hevents
    cases hevents

omit hmark hread in
/-- Where no entry is explicit, and no bundle that is off is allowed anything,
nothing is lost. -/
theorem nothingLost_of_noneAllowed (hexplicit : ∀ key, kv.listed env key = none)
    (hnone : ∀ key, kv.Legacy key → (allowList P env).lookup key = none) (n : ℕ) :
    NothingLost env kv (initRuns P env D dump kv (n + 1)) := by
  refine ⟨?_, ?_, ?_⟩
  · intro userId bundleName events event hevents
    rw [hexplicit] at hevents
    cases hevents
  · intro userId bundleName events event h hevents
    have hallow := isAllowList_initRuns (P := P) D dump kv happs hexts n
    obtain ⟨event', hallowed⟩ := (hallow.isSome _).mp (by rw [hevents]; rfl)
    have hsome := ((isAllowList_allowList (P := P) happs).isSome _).mpr ⟨event', hallowed⟩
    rw [hnone _ h] at hsome
    cases hsome
  · intro key events hevents
    rw [hexplicit] at hevents
    cases hevents

/-- **Where nothing is lost the migration is sound.** The first run takes
explicit entries out of the store if it migrates a bundle; and if it leaves
one, the second takes out what the first has migrated. -/
theorem migrationSafe_of_nothingLost (hjson : KvStore.JsonInverse env dump (allowList P env))
    (h : ∀ n, NothingLost env kv (initRuns P env D dump kv (n + 1))) :
    MigrationSafe P env kv := by
  by_cases hlegacy : ∃ key, kv.Legacy key
  swap
  · exact Or.inl (not_exists.mp hlegacy)
  obtain ⟨legacy, hlegacy⟩ := hlegacy
  obtain ⟨hmark', hread', hlisted, hlegacy', hheld⟩ := initRuns_migrating (P := P) (D := D)
    happs hexts hmark hread hjson hlegacy
  refine Or.inr ⟨?_, ?_⟩
  · intro key
    cases hevents : kv.listed env key with
    | none => rfl
    | some events =>
      exfalso
      have hstored := (h 0).stored key events hevents
      have hnot : ¬ kv.Legacy key := by
        intro hkey
        rw [KvStore.listed_legacy hkey] at hevents
        cases hevents
      rw [hlisted key, (hheld key).2 hnot] at hstored
      cases hstored
  · by_contra hmixed
    obtain ⟨hsome, hnone⟩ := not_or.mp hmixed
    simp only [not_forall] at hsome hnone
    obtain ⟨left, hleft, hleftNone⟩ := hsome
    obtain ⟨key, hkey, hkeySome⟩ := hnone
    -- the second run finds `left` still off, and holds nothing of `key`
    have hleft' : (initRuns P env D dump kv 1).2.Legacy left :=
      (hlegacy' left).mpr ⟨hleft, by simpa using hleftNone⟩
    have hforgotten : (initRuns P env D dump kv 2).1.disableEvents.lookup key = none :=
      (((initValidSubscribersOn_spec (m := (initRuns P env D dump kv 1).1) happs hexts hmark'
        hread').2 left hleft').1 key).2 (fun hkey' => hkeySome ((hlegacy' key).mp hkey').2)
    have hallow := isAllowList_initRuns (P := P) D dump kv happs hexts 1
    have hisSome : ((allowList P env).lookup key).isSome := Option.isSome_iff_ne_none.mpr hkeySome
    obtain ⟨event, hallowed⟩ := ((isAllowList_allowList happs).isSome key).mp hisSome
    have hmem := (hallow.mem key event).mpr hallowed
    obtain ⟨events, hevents⟩ := Option.isSome_iff_exists.mp
      ((hallow.isSome key).mpr ⟨event, hallowed⟩)
    rw [hevents] at hmem
    obtain ⟨appInfo, -, userId, -, rfl, -⟩ := hallowed
    have hoff := (h 1).legacy userId _ events event hkey hevents hmem
    rw [isDisableEvent_iff, hforgotten] at hoff
    cases hoff

end Exact

/-- **The migration loses nothing, however often it runs, exactly where it is
sound.** -/
theorem nothingLost_iff_migrationSafe (hmark : kv.isUpdated = true) (hread : kv.Readable env)
    (hjson : KvStore.JsonInverse env dump (allowList P env))
    (htrue : (({} : StaticSubscriberManager).initValidSubscribersOn P env D dump {} {} kv).1
      = true) :
    (∀ n, NothingLost env kv (initRuns P env D dump kv (n + 1))) ↔ MigrationSafe P env kv := by
  obtain ⟨appInfos, extensions, happs, hexts⟩ := initValidSubscribersOn_true {} {} htrue
  constructor
  · exact migrationSafe_of_nothingLost happs hexts hmark hread hjson
  · rintro (hnone | ⟨hexplicit, hall | hnone⟩) n
    · exact nothingLost_of_noLegacy happs hexts hmark hread hnone n
    · by_cases hlegacy : ∃ key, kv.Legacy key
      · obtain ⟨legacy, hlegacy⟩ := hlegacy
        exact nothingLost_of_allAllowed happs hexts hmark hread hjson hexplicit hlegacy hall n
      · exact nothingLost_of_noLegacy happs hexts hmark hread (not_exists.mp hlegacy) n
    · exact nothingLost_of_noneAllowed happs hexts hexplicit hnone n

/-- An environment with one application, which is allowed one event. -/
def oneApplication : StaticEnvironment :=
  { jsonEnvironment with
    getApplicationInfos := some [⟨"b", 20000, ["e"]⟩]
    queryExtensionInfos := some [] }

/-- A store in which that application has all its events off. -/
def legacyStore : KvStore :=
  AList.insert (bundleKey 0 "b") STATIC_SUBSCRIBER_VALUE_DEFAULT markedStore

/-- A store in which another one has one event off besides. -/
def mixedStore : KvStore := AList.insert (bundleKey 0 "a") "[\"e\"]" legacyStore

theorem lookup_allowList_oneApplication (key : String) :
    (allowList {} oneApplication).lookup key
      = if key = bundleKey 0 "b" then some ["e"] else none := by
  have hallowed : allowedBy {} (oneApplication.getApplicationInfos.getD []) key
      = if bundleKey 0 "b" = key then ["e"] else [] := List.flatMap_singleton _ _
  refine (lookup_initAllowList key).trans ?_
  rw [hallowed, AList.lookup_empty]
  by_cases hkey : key = bundleKey 0 "b"
  · rw [if_pos hkey, if_pos hkey.symm]
    rfl
  · rw [if_neg hkey, if_neg (Ne.symm hkey)]
    rfl

theorem jsonInverse_oneApplication :
    KvStore.JsonInverse oneApplication jsonText (allowList {} oneApplication) := by
  refine ⟨?_, rfl⟩
  intro key events hevents
  rw [lookup_allowList_oneApplication] at hevents
  split at hevents
  · cases hevents
    rfl
  · cases hevents

theorem lookup_legacyStore (key : String) :
    legacyStore.lookup key = if key = bundleKey 0 "b" then some STATIC_SUBSCRIBER_VALUE_DEFAULT
      else if key = IS_UPDATED_KEY then some KEY_IS_ALREADY_UPDATED else none := by
  unfold legacyStore markedStore
  rw [Dict.lookup_insert_ite, Dict.lookup_insert_ite, AList.lookup_empty]

theorem readable_legacyStore : legacyStore.Readable oneApplication := by
  intro key value hvalue hkey
  rw [lookup_legacyStore, if_neg hkey] at hvalue
  split at hvalue
  · cases hvalue
    exact Or.inl rfl
  · cases hvalue

theorem readable_mixedStore : mixedStore.Readable oneApplication := by
  intro key value hvalue hkey
  unfold mixedStore at hvalue
  rw [Dict.lookup_insert_ite] at hvalue
  split at hvalue
  · cases hvalue
    exact Or.inr rfl
  · exact readable_legacyStore key value hvalue hkey

/-- The one application is migrated, and stays so. -/
theorem nothingLost_iff_migrationSafe_one :
    legacyStore.lookup (bundleKey 0 "b") = some STATIC_SUBSCRIBER_VALUE_DEFAULT
      ∧ ∀ n, NothingLost oneApplication legacyStore
        (initRuns {} oneApplication {} jsonText legacyStore (n + 1)) := by
  refine ⟨by rw [lookup_legacyStore, if_pos rfl], ?_⟩
  refine (nothingLost_iff_migrationSafe (by decide +kernel) readable_legacyStore
    jsonInverse_oneApplication rfl).mpr (Or.inr ⟨?_, Or.inl ?_⟩)
  · intro key
    by_cases hkey : key = bundleKey 0 "b"
    · refine KvStore.listed_legacy ⟨?_, ?_⟩
      · rw [hkey]
        exact bundleKey_ne_updated 0 "b"
      · rw [lookup_legacyStore, if_pos hkey]
    · unfold KvStore.listed
      split
      next => rfl
      next hmark => rw [lookup_legacyStore, if_neg hkey, if_neg hmark]
  · rintro key ⟨hmark, hkey⟩
    rw [lookup_legacyStore, if_neg hmark] at hkey
    rw [lookup_allowList_oneApplication]
    split at hkey
    next h =>
      rw [if_pos h]
      rfl
    next => cases hkey

/-- **The migration can lose other state**: a bundle that is migrated takes
the explicit entry of another one out of the store. -/
theorem lost_by_migration :
    ¬ ∀ (P : Platform) (env : StaticEnvironment) (D : DistributedKv) (dump : Json → String)
      (kv : KvStore), kv.isUpdated = true → kv.Readable env →
      KvStore.JsonInverse env dump (allowList P env) →
      (({} : StaticSubscriberManager).initValidSubscribersOn P env D dump {} {} kv).1 = true →
      ∀ n, NothingLost env kv (initRuns P env D dump kv (n + 1)) := by
  intro h
  have hall := h {} oneApplication {} jsonText mixedStore (by decide +kernel)
    readable_mixedStore jsonInverse_oneApplication rfl
  rcases migrationSafe_of_nothingLost rfl rfl (by decide +kernel) readable_mixedStore
    jsonInverse_oneApplication hall with hnone | ⟨hexplicit, -⟩
  · exact hnone (bundleKey 0 "b") ⟨bundleKey_ne_updated 0 "b", by decide +kernel⟩
  · have hlisted : KvStore.listed oneApplication mixedStore (bundleKey 0 "a") = some ["e"] := by
      decide +kernel
    rw [hexplicit] at hlisted
    cases hlisted

end StaticSubscriberManager

end CommonEventService

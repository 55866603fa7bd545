import CommonEventService.Platform
import CommonEventService.Lib.Dict

/-!
# The table of event permissions

`CommonEventPermissionManager::Init` makes its map of permissions from a table
that is traversed in the order of its hashes. It fills one `Permission` again
and again and inserts a copy of it for each event. Two of the three members are
set at each pass; `isSensitive` is only ever set to true, so behind the first
sensitive event every event is sensitive, and which events those are is up to
the order. The usage of a permission is recorded by that member.
-/

namespace CommonEventService

def COMMON_EVENT_SMS_RECEIVE_COMPLETED : String := "usual.event.SMS_RECEIVE_COMPLETED"
def COMMON_EVENT_BOOT_COMPLETED : String := "usual.event.BOOT_COMPLETED"

/-- An entry of `COMMON_EVENT_MAP`. -/
abbrev PermissionEntry := String × PermissionState × List String

/-- A table as `COMMON_EVENT_MAP`. -/
abbrev PermissionTable := Dict String (PermissionState × List String)

namespace CommonEventPermissionManager

def SENSITIVE_COMMON_EVENTS : List String := [COMMON_EVENT_SMS_RECEIVE_COMPLETED]

def isSensitiveEvent (event : String) : Bool := SENSITIVE_COMMON_EVENTS.contains event

/-- One pass of the loop of `Init`, with the permission that is filled and the
map. -/
def initPass (loop : Permission × Dict String Permission) (entry : PermissionEntry) :
    Permission × Dict String Permission :=
  let per := { loop.1 with state := entry.2.1 }
  let per := { per with names := per.names ++ entry.2.2 }
  let per := if isSensitiveEvent entry.1 then { per with isSensitive := true } else per
  ({ per with names := [] }, Dict.emplace loop.2 entry.1 per)

/-- **`Init`**, of a table that is traversed in an order. -/
def init (order : List PermissionEntry) : Dict String Permission :=
  (order.foldl initPass ({}, ∅)).2

def getEventPermission (eventMap : Dict String Permission) (event : String) : Permission :=
  (eventMap.lookup event).getD {}

/-- `RecordSensitivePermissionUsage`: the permissions whose usage is
recorded. -/
def recordSensitivePermissionUsage (P : Platform) (eventMap : Dict String Permission)
    (callerToken : AccessTokenID) (event : String) : List String :=
  if P.getTokenTypeFlag callerToken ≠ .hap then []
  else
    let permission := getEventPermission eventMap event
    if !permission.isSensitive || permission.names.isEmpty then [] else permission.names

/-! ## What `Init` inserts -/

/-- The permission of an entry. -/
def permissionOf (isSensitive : Bool) (entry : PermissionEntry) : Permission :=
  { isSensitive := isSensitive, state := entry.2.1, names := entry.2.2 }

/-- What is inserted, where `isSensitive` is what the passes before have left. -/
def inserted : Bool → List PermissionEntry → List (String × Permission)
  | _, [] => []
  | isSensitive, entry :: order =>
    (entry.1, permissionOf (isSensitive || isSensitiveEvent entry.1) entry)
      :: inserted (isSensitive || isSensitiveEvent entry.1) order

theorem foldl_initPass (order : List PermissionEntry) {per : Permission}
    (hnames : per.names = []) (eventMap : Dict String Permission) :
    (order.foldl initPass (per, eventMap)).2
      = Dict.emplaceAll eventMap (inserted per.isSensitive order) := by
  induction order generalizing per eventMap with
  | nil => rfl
  | cons entry order ih =>
    have hpass : initPass (per, eventMap) entry
        = ({ isSensitive := per.isSensitive || isSensitiveEvent entry.1
             state := entry.2.1
             names := [] },
            Dict.emplace eventMap entry.1
              (permissionOf (per.isSensitive || isSensitiveEvent entry.1) entry)) := by
      unfold initPass permissionOf
      dsimp only
      rw [hnames, List.nil_append]
      cases isSensitiveEvent entry.1 with
      | true => rw [if_pos rfl, Bool.or_true]
      | false => rw [if_neg Bool.false_ne_true, Bool.or_false]
    rw [List.foldl_cons, hpass]
    exact ih rfl _

/-- **What the map holds of an event.** -/
theorem lookup_init (order : List PermissionEntry) (event : String) :
    (init order).lookup event = (inserted false order).lookup event := by
  have hfold := foldl_initPass order (show ({} : Permission).names = [] from rfl) ∅
  unfold init
  rw [hfold, Dict.lookup_emplaceAll, AList.lookup_empty, Option.none_or]

theorem map_fst_inserted (isSensitive : Bool) (order : List PermissionEntry) :
    (inserted isSensitive order).map Prod.fst = order.map Prod.fst := by
  induction order generalizing isSensitive with
  | nil => rfl
  | cons entry order ih => rw [inserted, List.map_cons, List.map_cons, ih]

/-- Every event of the order is inserted, and no other. -/
theorem lookup_inserted_isSome_iff (isSensitive : Bool) (order : List PermissionEntry)
    (event : String) :
    ((inserted isSensitive order).lookup event).isSome = true ↔ event ∈ order.map Prod.fst := by
  rw [← map_fst_inserted isSensitive order, List.lookup_isSome_iff, List.mem_map]
  refine exists_congr fun pair => and_congr_right fun _ => ?_
  rw [beq_iff_eq, eq_comm]

/-! ## The order -/

/-- No event that is not sensitive comes behind one that is. -/
def SensitiveLast (order : List PermissionEntry) : Prop :=
  order.Pairwise fun earlier later =>
    isSensitiveEvent earlier.1 = true → isSensitiveEvent later.1 = true

/-- **Each event is inserted as sensitive as it is exactly where** the sensitive
events come last, and none has come before unless all that follow are. -/
theorem lookup_inserted_iff {order : List PermissionEntry}
    (hnodup : (order.map Prod.fst).Nodup) (isSensitive : Bool) :
    (∀ entry ∈ order, (inserted isSensitive order).lookup entry.1
        = some (permissionOf (isSensitiveEvent entry.1) entry))
      ↔ SensitiveLast order
        ∧ (isSensitive = true → ∀ entry ∈ order, isSensitiveEvent entry.1 = true) := by
  unfold SensitiveLast
  induction order generalizing isSensitive with
  | nil => simp
  | cons first order ih =>
    rw [List.map_cons, List.nodup_cons] at hnodup
    -- the entries behind the first are of other events
    have hrest : (∀ entry ∈ order, (inserted isSensitive (first :: order)).lookup entry.1
          = some (permissionOf (isSensitiveEvent entry.1) entry))
        ↔ ∀ entry ∈ order, (inserted (isSensitive || isSensitiveEvent first.1) order).lookup
            entry.1 = some (permissionOf (isSensitiveEvent entry.1) entry) := by
      refine forall₂_congr fun entry hentry => ?_
      have hne : entry.1 ≠ first.1 := fun heq =>
        hnodup.1 (heq ▸ List.mem_map_of_mem hentry)
      rw [inserted, List.lookup_cons, beq_false_of_ne hne]
    have hfirst : (inserted isSensitive (first :: order)).lookup first.1
          = some (permissionOf (isSensitiveEvent first.1) first)
        ↔ (isSensitive = true → isSensitiveEvent first.1 = true) := by
      rw [inserted, List.lookup_cons, beq_self_eq_true]
      show some (permissionOf _ first) = some (permissionOf _ first) ↔ _
      unfold permissionOf
      rw [Option.some_inj, Permission.mk.injEq]
      cases isSensitive <;> cases isSensitiveEvent first.1 <;> simp
    have hbehind : (∀ entry ∈ order, isSensitiveEvent first.1 = true →
          isSensitiveEvent entry.1 = true)
        ↔ (isSensitiveEvent first.1 = true → ∀ entry ∈ order, isSensitiveEvent entry.1 = true) :=
      ⟨fun h hsensitive entry hentry => h entry hentry hsensitive,
        fun h entry hentry hsensitive => h hsensitive entry hentry⟩
    rw [List.forall_mem_cons, hrest, hfirst, ih hnodup.2, List.pairwise_cons,
      List.forall_mem_cons, hbehind, Bool.or_eq_true]
    tauto

/-! ## The map of a table -/

/-- **What `Init` is to make of a table**: the permission of each event has the
state and the names of the table, and is sensitive if the event is; and the
usage of a permission is recorded for sensitive events only. -/
structure Builds (table : PermissionTable) (eventMap : Dict String Permission) : Prop where
  permission : ∀ event entry, table.lookup event = some entry →
    getEventPermission eventMap event = permissionOf (isSensitiveEvent event) (event, entry)
  usage : ∀ P callerToken event,
    recordSensitivePermissionUsage P eventMap callerToken event ≠ [] →
      isSensitiveEvent event = true

/-- A table with sensitive events or others, but not both. -/
def IsUnmixed (table : PermissionTable) : Prop :=
  (∀ event ∈ table, isSensitiveEvent event = true)
    ∨ ∀ event ∈ table, isSensitiveEvent event = false

variable {table : PermissionTable} {order : List PermissionEntry}

/-- The map holds the events of the table, and no other. -/
theorem lookup_init_isSome_iff (h : Dict.IsListing order table) (event : String) :
    ((init order).lookup event).isSome = true ↔ event ∈ table := by
  rw [lookup_init, lookup_inserted_isSome_iff, List.mem_map, ← AList.lookup_isSome,
    Option.isSome_iff_exists]
  constructor
  · rintro ⟨⟨event', entry⟩, hentry, rfl⟩
    exact ⟨entry, (h.mem event' entry).mp hentry⟩
  · rintro ⟨entry, hentry⟩
    exact ⟨(event, entry), (h.mem event entry).mpr hentry, rfl⟩

theorem lookup_init_eq_none (h : Dict.IsListing order table) {event : String}
    (hevent : event ∉ table) : (init order).lookup event = none := by
  rw [← Option.not_isSome_iff_eq_none, lookup_init_isSome_iff h]
  exact hevent

/-- An event of the table has the permission that the map holds of it. -/
theorem getEventPermission_init_eq_iff (h : Dict.IsListing order table) {event : String}
    (hevent : event ∈ table) (permission : Permission) :
    getEventPermission (init order) event = permission
      ↔ (init order).lookup event = some permission := by
  obtain ⟨permission', hlookup⟩ :=
    Option.isSome_iff_exists.mp ((lookup_init_isSome_iff h event).mpr hevent)
  unfold getEventPermission
  rw [hlookup, Option.getD_some, Option.some_inj]

/-- The usage is recorded rightly where the permissions are right. -/
theorem builds_of_permission (h : Dict.IsListing order table)
    (hpermission : ∀ event entry, table.lookup event = some entry →
      (init order).lookup event = some (permissionOf (isSensitiveEvent event) (event, entry))) :
    Builds table (init order) := by
  refine ⟨fun event entry hentry => ?_, fun P callerToken event hrecorded => ?_⟩
  · have hevent : event ∈ table := AList.lookup_isSome.mp (by rw [hentry]; rfl)
    exact (getEventPermission_init_eq_iff h hevent _).mpr (hpermission event entry hentry)
  · -- without an entry there is nothing to record, and an entry says whether to
    unfold recordSensitivePermissionUsage getEventPermission at hrecorded
    by_contra hsensitive
    rw [Bool.not_eq_true] at hsensitive
    cases hentry : table.lookup event with
    | none =>
      have hnone := lookup_init_eq_none h (AList.lookup_eq_none.mp hentry)
      rw [hnone] at hrecorded
      simp at hrecorded
    | some entry =>
      rw [hpermission event entry hentry, hsensitive] at hrecorded
      simp [permissionOf] at hrecorded

/-- **In one order `Init` makes of a table what it is to make of it exactly
where** the sensitive events come last. -/
theorem builds_init_iff (h : Dict.IsListing order table) :
    Builds table (init order) ↔ SensitiveLast order := by
  have hinserted := lookup_inserted_iff h.nodup false
  rw [and_iff_left (fun hfalse => by cases hfalse)] at hinserted
  rw [← hinserted]
  constructor
  · intro hbuilds entry hentry
    have hlookup := (h.mem entry.1 entry.2).mp hentry
    have hevent : entry.1 ∈ table := AList.lookup_isSome.mp (by rw [hlookup]; rfl)
    rw [← lookup_init]
    exact (getEventPermission_init_eq_iff h hevent _).mp (hbuilds.permission _ _ hlookup)
  · intro hexact
    refine builds_of_permission h fun event entry hlookup => ?_
    rw [lookup_init]
    exact hexact (event, entry) ((h.mem event entry).mpr hlookup)

/-- Of the events of a table any one can come first. -/
theorem exists_listing_first {event : String} {entry : PermissionState × List String}
    (h : table.lookup event = some entry) :
    ∃ rest, Dict.IsListing ((event, entry) :: rest) table := by
  have hlisting := Dict.isListing_toList table
  have hmem := (hlisting.mem event entry).mpr h
  exact ⟨_, hlisting.perm (List.perm_cons_erase hmem).symm⟩

/-- The first event is inserted as sensitive as it is. -/
theorem lookup_init_first (entry : PermissionEntry) (rest : List PermissionEntry) :
    (init (entry :: rest)).lookup entry.1
      = some (permissionOf (isSensitiveEvent entry.1) entry) := by
  rw [lookup_init, inserted, List.lookup_cons, beq_self_eq_true, Bool.false_or]

/-- In an unmixed table the sensitive events come last in any order. -/
theorem sensitiveLast_of_isUnmixed (h : Dict.IsListing order table) (hunmixed : IsUnmixed table) :
    SensitiveLast order := by
  have hmem : ∀ entry ∈ order, entry.1 ∈ table := fun entry hentry =>
    AList.lookup_isSome.mp (by rw [(h.mem entry.1 entry.2).mp hentry]; rfl)
  refine List.pairwise_of_forall_mem_list fun earlier hearlier later hlater hsensitive => ?_
  obtain hall | hnone := hunmixed
  · exact hall later.1 (hmem later hlater)
  · rw [hnone earlier.1 (hmem earlier hearlier)] at hsensitive
    cases hsensitive

/-- A table in which the sensitive events come last in any order is unmixed. -/
theorem isUnmixed_of_sensitiveLast
    (h : ∀ order, Dict.IsListing order table → SensitiveLast order) : IsUnmixed table := by
  unfold IsUnmixed
  by_cases hsome : ∃ event ∈ table, isSensitiveEvent event = true
  · -- with that event in front every other one comes behind it
    obtain ⟨event, hevent, hsensitive⟩ := hsome
    obtain ⟨entry, hentry⟩ := Option.isSome_iff_exists.mp (AList.lookup_isSome.mpr hevent)
    obtain ⟨rest, hlisting⟩ := exists_listing_first hentry
    have hrest := (List.pairwise_cons.mp (h _ hlisting)).1
    refine .inl fun event' hevent' => ?_
    obtain ⟨entry', hentry'⟩ := Option.isSome_iff_exists.mp (AList.lookup_isSome.mpr hevent')
    obtain hfirst | hbehind := List.mem_cons.mp ((hlisting.mem event' entry').mpr hentry')
    · cases hfirst
      exact hsensitive
    · exact hrest _ hbehind hsensitive
  · refine .inr fun event hevent => ?_
    rw [← Bool.not_eq_true]
    exact fun hsensitive => hsome ⟨event, hevent, hsensitive⟩

/-- **What `Init` makes of a table is right, and does not depend on the order,
exactly where** the table has no sensitive event or no other; and in one order it
is right exactly where the sensitive events come last. -/
theorem builds_init_all_iff (table : PermissionTable) :
    ((∀ order, Dict.IsListing order table → Builds table (init order)) ↔ IsUnmixed table)
    ∧ ((∀ order order', Dict.IsListing order table → Dict.IsListing order' table →
        Dict.Agree (init order) (init order')) ↔ IsUnmixed table)
    ∧ ∀ order, Dict.IsListing order table →
        (Builds table (init order) ↔ SensitiveLast order) := by
  have hright : (∀ order, Dict.IsListing order table → Builds table (init order))
      ↔ IsUnmixed table := by
    constructor
    · intro h
      exact isUnmixed_of_sensitiveLast fun order hlisting =>
        (builds_init_iff hlisting).mp (h order hlisting)
    · intro hunmixed order hlisting
      exact (builds_init_iff hlisting).mpr (sensitiveLast_of_isUnmixed hlisting hunmixed)
  refine ⟨hright, ⟨fun hagree => hright.mp fun order hlisting => ?_, fun hunmixed => ?_⟩,
    fun order hlisting => builds_init_iff hlisting⟩
  · -- each event has the permission that it has where it comes first
    refine builds_of_permission hlisting fun event entry hentry => ?_
    obtain ⟨rest, hfirst⟩ := exists_listing_first hentry
    rw [hagree order _ hlisting hfirst event]
    exact lookup_init_first (event, entry) rest
  · intro order order' hlisting hlisting' event
    have hbuilds := hright.mpr hunmixed
    by_cases hevent : event ∈ table
    · obtain ⟨entry, hentry⟩ := Option.isSome_iff_exists.mp (AList.lookup_isSome.mpr hevent)
      rw [(getEventPermission_init_eq_iff hlisting hevent _).mp
          ((hbuilds order hlisting).permission event entry hentry),
        (getEventPermission_init_eq_iff hlisting' hevent _).mp
          ((hbuilds order' hlisting').permission event entry hentry)]
    · rw [lookup_init_eq_none hlisting hevent, lookup_init_eq_none hlisting' hevent]

/-- The message of a text alone makes a table that is unmixed. -/
theorem builds_init_all_iff_sms :
    Builds (AList.insert COMMON_EVENT_SMS_RECEIVE_COMPLETED
        (.DEFAULT, ["ohos.permission.RECEIVE_SMS"]) ∅)
      (init [(COMMON_EVENT_SMS_RECEIVE_COMPLETED, .DEFAULT, ["ohos.permission.RECEIVE_SMS"])]) := by
  have hlisting := Dict.isListing_toList (AList.insert COMMON_EVENT_SMS_RECEIVE_COMPLETED
    (PermissionState.DEFAULT, ["ohos.permission.RECEIVE_SMS"]) ∅)
  refine (builds_init_all_iff _).1.mpr (.inl fun event hevent => ?_) _ hlisting
  rw [List.mem_singleton.mp (show event ∈ [COMMON_EVENT_SMS_RECEIVE_COMPLETED] from hevent)]
  rfl

/-- Behind the message of a text the end of booting is sensitive. -/
theorem not_builds_init :
    ¬ ∀ (table : PermissionTable) (order : List PermissionEntry),
      Dict.IsListing order table → Builds table (init order) := by
  intro h
  have hbuilds := h
    (AList.insert COMMON_EVENT_SMS_RECEIVE_COMPLETED (.DEFAULT, ["ohos.permission.RECEIVE_SMS"])
      (AList.insert COMMON_EVENT_BOOT_COMPLETED
        (.DEFAULT, ["ohos.permission.RECEIVER_STARTUP_COMPLETED"]) ∅)) _
    (Dict.isListing_toList _)
  have hsensitive := hbuilds.usage {} 0 COMMON_EVENT_BOOT_COMPLETED (by decide)
  exact absurd hsensitive (by decide)

end CommonEventPermissionManager

end CommonEventService

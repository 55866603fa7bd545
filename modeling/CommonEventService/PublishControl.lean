import CommonEventService.InnerCommonEventManager

/-!
# Who may publish an event

A configuration may restrict an event to the uids that it lists.
`getCcmPublishControl` reads it into `publishControlMap_`, where the last item
that names an event counts, and `IsPublishAllowed` looks an event up before
anything else is done with a publication. The text it logs takes in the first
uid of the list.
-/

namespace CommonEventService

/-- An item of the configuration. -/
structure PublishControlItem where
  eventName : String
  uidList : List Int32
  deriving DecidableEq, Repr

/-! ## Reading the configuration -/

/-- What a loop over a JSON value runs over. -/
def Json.elements : Json → List Json
  | .null => []
  | .array values => values
  | .object members => members.map Prod.snd
  | value => [value]

/-- `get<int>`; `none` is an exception. -/
def Json.getInt : Json → Option Int32
  | .int value => some (Int32.ofInt value)
  | .bool value => some (if value then 1 else 0)
  | .float bits => some (Float.ofBits bits).toInt32
  | _ => none

/-- `GetConfigJson`, for a key of the root: the files are gone through from the
last to the first, and each one that has the key takes the place of the one
before. -/
def getConfigJson (eventConfigJson : List Json) (key : String) : Option (List (String × Json)) :=
  eventConfigJson.reverse.foldl (fun configJson json =>
    match json with
    | .object members => if (members.lookup key).isSome then some members else configJson
    | _ => configJson) none

/-- One pass of the loop of `getCcmPublishControl`; `none` is an exception, or
an access to a member that is not there. -/
def addPublishControl (publishControlMap : Dict String (List Int32)) (item : Json) :
    Option (Dict String (List Int32)) :=
  match item with
  | .object members =>
    match members.lookup "eventName", members.lookup "uidList" with
    | some (.string eventName), some uidList =>
      (uidList.elements.mapM Json.getInt).map fun uids =>
        AList.insert eventName uids publishControlMap
    | _, _ => none
  | _ => none

/-- **`getCcmPublishControl`.** -/
def getCcmPublishControl (eventConfigJson : List Json)
    (publishControlMap : Dict String (List Int32)) : Option (Dict String (List Int32)) :=
  match getConfigJson eventConfigJson "publishControl" with
  | none => some publishControlMap
  | some root =>
    match root.lookup "publishControl" with
    | none => some publishControlMap
    | some publishControl =>
      if publishControl.elements.isEmpty then some publishControlMap
      else publishControl.elements.foldlM addPublishControl publishControlMap

/-! ## `IsPublishAllowed` -/

/-- **`IsPublishAllowed`**, with what it evaluates for the log: `none` is an
access to an element that is out of range. -/
def isPublishAllowedLogged (publishControlMap : Dict String (List Int32)) (event : String)
    (uid : Int32) : Option Bool :=
  if publishControlMap.entries = [] then some true
  else
    match publishControlMap.lookup event with
    | some uids => (uids[0]?).map fun _ => uids.contains uid
    | none => some true

/-- Where it gives an answer, the answer is the one that a publication goes
by. -/
theorem eq_of_isPublishAllowedLogged {C : Config} {event : String} {uid : Int32} {allowed : Bool}
    (h : isPublishAllowedLogged C.publishControlMap event uid = some allowed) :
    isPublishAllowed C event uid = allowed := by
  unfold isPublishAllowedLogged at h
  unfold isPublishAllowed
  split at h
  next hempty => rw [if_pos hempty, Option.some_inj.mp h]
  next hnonempty =>
    rw [if_neg hnonempty]
    cases hlookup : C.publishControlMap.lookup event with
    | some uids =>
      rw [hlookup] at h
      obtain ⟨-, -, rfl⟩ := Option.map_eq_some_iff.mp h
      rfl
    | none =>
      rw [hlookup] at h
      exact Option.some_inj.mp h

/-! ## A list of items -/

/-- An item as it stands in a file. -/
def PublishControlItem.toJson (item : PublishControlItem) : Json :=
  .object [("eventName", .string item.eventName),
    ("uidList", .array (item.uidList.map fun uid => .int uid.toInt))]

/-- The files configure these items. -/
def Configures (eventConfigJson : List Json) (items : List PublishControlItem) : Prop :=
  ∃ root, getConfigJson eventConfigJson "publishControl" = some root
    ∧ root.lookup "publishControl" = some (.array (items.map PublishControlItem.toJson))

/-- The last item that names an event. -/
def lastItem (items : List PublishControlItem) (event : String) : Option PublishControlItem :=
  items.reverse.find? (fun item => item.eventName = event)

/-- **What the configuration says**: an event that no item names is allowed to
everyone, and another one to the uids of the last item that names it. -/
def isAllowedBy (items : List PublishControlItem) (event : String) (uid : Int32) : Bool :=
  match lastItem items event with
  | none => true
  | some item => item.uidList.contains uid

theorem mapM_getInt (uids : List Int32) :
    (uids.map fun uid => Json.int uid.toInt).mapM Json.getInt = some uids := by
  induction uids with
  | nil => rfl
  | cons uid uids ih =>
    rw [List.map_cons, List.mapM_cons, ih]
    show some (Int32.ofInt uid.toInt :: uids) = some (uid :: uids)
    rw [Int32.ofInt_toInt]

theorem addPublishControl_toJson (publishControlMap : Dict String (List Int32))
    (item : PublishControlItem) :
    addPublishControl publishControlMap item.toJson
      = some (AList.insert item.eventName item.uidList publishControlMap) := by
  show ((item.uidList.map fun uid => Json.int uid.toInt).mapM Json.getInt).map _ = _
  rw [mapM_getInt]
  rfl

/-- The loop over the items inserts one after the other. -/
theorem foldlM_addPublishControl (items : List PublishControlItem)
    (publishControlMap : Dict String (List Int32)) :
    (items.map PublishControlItem.toJson).foldlM addPublishControl publishControlMap
      = some (Dict.insertAll publishControlMap
          (items.map fun item => (item.eventName, item.uidList))) := by
  induction items generalizing publishControlMap with
  | nil => rfl
  | cons item items ih =>
    rw [List.map_cons, List.foldlM_cons, addPublishControl_toJson]
    exact ih _

/-- **What the map holds after `getCcmPublishControl`**: of each event the list
of the last item that names it. -/
theorem exists_getCcmPublishControl {eventConfigJson : List Json}
    {items : List PublishControlItem} (h : Configures eventConfigJson items) :
    ∃ publishControlMap, getCcmPublishControl eventConfigJson ∅ = some publishControlMap
      ∧ ∀ event, publishControlMap.lookup event
        = (lastItem items event).map PublishControlItem.uidList := by
  obtain ⟨root, hroot, hpublishControl⟩ := h
  have hmap : getCcmPublishControl eventConfigJson ∅
      = some (Dict.insertAll ∅ (items.map fun item => (item.eventName, item.uidList))) := by
    unfold getCcmPublishControl
    rw [hroot]
    dsimp only
    rw [hpublishControl]
    cases items with
    | nil => rfl
    | cons item items => exact foldlM_addPublishControl (item :: items) ∅
  refine ⟨_, hmap, fun event => ?_⟩
  rw [Dict.lookup_insertAll, AList.lookup_empty, Option.or_none, ← List.map_reverse]
  unfold lastItem
  induction items.reverse with
  | nil => rfl
  | cons item rest ih =>
    rw [List.map_cons, List.lookup_cons, List.find?_cons]
    by_cases hname : event = item.eventName
    · rw [beq_iff_eq.mpr hname, decide_eq_true hname.symm]
      rfl
    · rw [beq_false_of_ne hname, decide_eq_false (fun h => hname h.symm)]
      exact ih

/-- What a lookup gives, also where the map is empty. -/
theorem isPublishAllowedLogged_eq (publishControlMap : Dict String (List Int32)) (event : String)
    (uid : Int32) :
    isPublishAllowedLogged publishControlMap event uid
      = match publishControlMap.lookup event with
        | some uids => (uids[0]?).map fun _ => uids.contains uid
        | none => some true := by
  unfold isPublishAllowedLogged
  split
  next hempty =>
    have hnone : publishControlMap.lookup event = none := by
      rw [AList.lookup_eq_none, AList.mem_keys, AList.keys, hempty]
      exact List.not_mem_nil
    rw [hnone]
  next => rfl

/-- **`IsPublishAllowed` follows the configuration, and stays in range, exactly
where** the last item that names the event lists a uid, or no item names it. -/
theorem isPublishAllowedLogged_iff {eventConfigJson : List Json}
    {items : List PublishControlItem} (h : Configures eventConfigJson items) :
    ∃ publishControlMap, getCcmPublishControl eventConfigJson ∅ = some publishControlMap
      ∧ ∀ event uid,
        (isPublishAllowedLogged publishControlMap event uid = some (isAllowedBy items event uid)
          ↔ ∀ item, lastItem items event = some item → item.uidList ≠ []) := by
  obtain ⟨publishControlMap, hmap, hlookup⟩ := exists_getCcmPublishControl h
  refine ⟨publishControlMap, hmap, fun event uid => ?_⟩
  rw [isPublishAllowedLogged_eq, hlookup event]
  unfold isAllowedBy
  cases lastItem items event with
  | none => exact iff_of_true rfl fun item hitem => by cases hitem
  | some item =>
    rw [Option.map_some]
    cases huids : item.uidList with
    | nil =>
      refine iff_of_false (fun hnone => by cases hnone) fun hnonempty => ?_
      exact hnonempty item rfl huids
    | cons first rest =>
      refine iff_of_true ?_ fun item' hitem' => ?_
      · show some ((first :: rest).contains uid) = some (item.uidList.contains uid)
        rw [huids]
      · cases hitem'
        rw [huids]
        exact List.cons_ne_nil first rest

/-- An event that two items name: the second one counts. -/
theorem isPublishAllowedLogged_iff_two :
    ∃ publishControlMap,
      getCcmPublishControl [.object [("publishControl",
        .array (List.map PublishControlItem.toJson [⟨"event", []⟩, ⟨"event", [5, 6]⟩]))]] ∅
        = some publishControlMap
      ∧ isPublishAllowedLogged publishControlMap "event" 6
        = some (isAllowedBy [⟨"event", []⟩, ⟨"event", [5, 6]⟩] "event" 6) := by
  have hconfigures : Configures [.object [("publishControl",
      .array (List.map PublishControlItem.toJson [⟨"event", []⟩, ⟨"event", [5, 6]⟩]))]]
      [⟨"event", []⟩, ⟨"event", [5, 6]⟩] := ⟨_, rfl, rfl⟩
  obtain ⟨publishControlMap, hmap, hiff⟩ := isPublishAllowedLogged_iff hconfigures
  refine ⟨publishControlMap, hmap, (hiff "event" 6).mpr fun item hitem => ?_⟩
  cases hitem
  exact List.cons_ne_nil 5 [6]

/-- An item without uids: the first uid that is logged is out of range. -/
theorem not_isPublishAllowedLogged :
    ¬ ∀ (eventConfigJson : List Json) (items : List PublishControlItem) publishControlMap,
      Configures eventConfigJson items →
        getCcmPublishControl eventConfigJson ∅ = some publishControlMap →
          ∀ event uid, isPublishAllowedLogged publishControlMap event uid
            = some (isAllowedBy items event uid) := by
  intro h
  have hconfigures : Configures [.object [("publishControl",
      .array (List.map PublishControlItem.toJson [⟨"event", []⟩]))]] [⟨"event", []⟩] :=
    ⟨_, rfl, rfl⟩
  have hallowed := h _ [⟨"event", []⟩] (AList.insert "event" [] ∅) hconfigures rfl "event" 5
  rw [isPublishAllowedLogged_eq, AList.lookup_insert] at hallowed
  cases hallowed

end CommonEventService

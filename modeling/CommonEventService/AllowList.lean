import CommonEventService.StaticSubscriberManager
import Mathlib.Logic.Function.Iterate

/-!
# The allow list

Which events a bundle may subscribe to in its profile is said by the bundle
manager; `InitAllowList` writes it to `staticSubscribers_`, whenever the static
subscribers are read in. Nothing is taken out of the table, and an event is
pushed whether or not it is there. So a second reading lists every event
twice, and a lookup does not see it: what is added to the list of a key is the
same list again.
-/

namespace CommonEventService

open StaticSubscriberManager (allowEvents)

variable (P : Platform) (appInfos : List ApplicationInfo)
  (staticSubscribers : Dict String (List String))

/-- **`InitAllowList`**, on what the bundle manager answers. -/
def initAllowList : Dict String (List String) :=
  appInfos.foldl (allowEvents P) staticSubscribers

/-- The events a bundle of a user is allowed: `staticSubscribers_[key].events`. -/
def allowedEvents (key : String) : List String := (staticSubscribers.lookup key).getD []

/-- What the applications of a key allow, one after the other. -/
def allowedBy (key : String) : List String :=
  appInfos.flatMap fun appInfo =>
    match P.getOsAccountLocalIdFromUid appInfo.uid with
    | none => []
    | some userId =>
      if bundleKey userId appInfo.bundleName = key then appInfo.allowCommonEvent else []

/-- What a key is mapped to after some events are pushed to its list. -/
def pushed (own : Option (List String)) (events : List String) : Option (List String) :=
  if events = [] then own else some (own.getD [] ++ events)

theorem pushed_nil (own : Option (List String)) : pushed own [] = own := rfl

theorem getD_pushed (own : Option (List String)) (events : List String) :
    (pushed own events).getD [] = own.getD [] ++ events := by
  unfold pushed
  split
  next h => rw [h, List.append_nil]
  next => rfl

theorem isSome_pushed (own : Option (List String)) (events : List String) :
    (pushed own events).isSome ↔ own.isSome ∨ ∃ event, event ∈ events := by
  unfold pushed
  split
  next h => simp [h]
  next h => simp [List.exists_mem_of_ne_nil events h]

theorem pushed_pushed (own : Option (List String)) (events events' : List String) :
    pushed (pushed own events) events' = pushed own (events ++ events') := by
  by_cases h' : events' = []
  · rw [h', pushed_nil, List.append_nil]
  · have happend : events ++ events' ≠ [] := fun h => h' (List.append_eq_nil_iff.mp h).2
    rw [pushed, if_neg h', getD_pushed, pushed, if_neg happend, List.append_assoc]

/-- To push the same list twice is to push nothing, or to see it. -/
theorem pushed_inj {own : Option (List String)} {events events' : List String} :
    pushed own events = pushed own events' ↔ events = events' := by
  constructor
  · intro h
    have hgetD := congrArg (Option.getD · []) h
    rw [getD_pushed, getD_pushed] at hgetD
    exact List.append_cancel_left hgetD
  · rintro rfl
    rfl

variable {P appInfos staticSubscribers}

/-- **What one application adds.** -/
theorem lookup_allowEvents (appInfo : ApplicationInfo) (key : String) :
    (allowEvents P staticSubscribers appInfo).lookup key
      = pushed (staticSubscribers.lookup key) (allowedBy P [appInfo] key) := by
  unfold allowEvents allowedBy
  rw [List.flatMap_singleton]
  cases P.getOsAccountLocalIdFromUid appInfo.uid with
  | none => rfl
  | some userId =>
    dsimp only
    generalize appInfo.allowCommonEvent = events
    induction events generalizing staticSubscribers with
    | nil => simp [pushed]
    | cons event events ih =>
      rw [List.foldl_cons, ih, Dict.lookup_insert_ite]
      by_cases hkey : bundleKey userId appInfo.bundleName = key
      · rw [if_pos hkey.symm, if_pos hkey, if_pos hkey, hkey]
        exact pushed_pushed (staticSubscribers.lookup key) [event] events
      · rw [if_neg (Ne.symm hkey), if_neg hkey, if_neg hkey]

/-- **What `InitAllowList` adds**: to the list of every key, what the
applications of the key allow. -/
theorem lookup_initAllowList (key : String) :
    (initAllowList P appInfos staticSubscribers).lookup key
      = pushed (staticSubscribers.lookup key) (allowedBy P appInfos key) := by
  unfold initAllowList
  induction appInfos generalizing staticSubscribers with
  | nil => rfl
  | cons appInfo appInfos ih =>
    rw [List.foldl_cons, ih, lookup_allowEvents, pushed_pushed]
    refine congrArg (pushed _) ?_
    unfold allowedBy
    rw [List.flatMap_singleton, List.flatMap_cons]

/-- Several readings add it as often. -/
theorem lookup_iterate_initAllowList (n : ℕ) (key : String) :
    ((initAllowList P appInfos)^[n] staticSubscribers).lookup key
      = pushed (staticSubscribers.lookup key)
          (List.replicate n (allowedBy P appInfos key)).flatten := by
  induction n with
  | zero => rfl
  | succ n ih =>
    rw [Function.iterate_succ_apply', lookup_initAllowList, ih, pushed_pushed,
      List.replicate_succ', List.flatten_append, List.flatten_singleton]

/-- A list repeated is the list itself where there is one of it, or nothing in
it. -/
theorem flatten_replicate_eq_self {α : Type} {n : ℕ} {l : List α} (hn : 1 ≤ n) :
    (List.replicate n l).flatten = l ↔ n = 1 ∨ l = [] := by
  constructor
  · intro h
    have hlength := congrArg List.length h
    rw [List.length_flatten, List.map_replicate, List.sum_replicate_nat] at hlength
    obtain hnil | hpos := Nat.eq_zero_or_pos l.length
    · exact .inr (List.length_eq_zero_iff.mp hnil)
    · exact .inl (Nat.eq_of_mul_eq_mul_right hpos (hlength.trans (Nat.one_mul _).symm))
  · rintro (rfl | rfl)
    · exact List.append_nil l
    · simp

/-- **No list of events has a name twice.** -/
def NoRepeats (staticSubscribers : Dict String (List String)) : Prop :=
  ∀ key, (allowedEvents staticSubscribers key).Nodup

theorem noRepeats_initAllowList (h : NoRepeats staticSubscribers) :
    NoRepeats (initAllowList P appInfos staticSubscribers)
      ↔ ∀ key, (allowedBy P appInfos key).Nodup
        ∧ ∀ event ∈ allowedBy P appInfos key, event ∉ allowedEvents staticSubscribers key := by
  refine forall_congr' fun key => ?_
  unfold allowedEvents
  rw [lookup_initAllowList, getD_pushed, List.nodup_append']
  exact (and_iff_right (h key)).trans (and_congr_right fun _ => List.disjoint_right)

/-- **Reading the allow list in again** changes nothing, and repeats no name,
exactly where it is not read in again or allows nothing, and where no name
comes from two applications of a key, or was there. -/
theorem initAllowList_idempotent_iff {n : ℕ} (hn : 1 ≤ n) :
    (Dict.Agree ((initAllowList P appInfos)^[n] staticSubscribers)
          (initAllowList P appInfos staticSubscribers)
        ∧ (NoRepeats staticSubscribers →
          NoRepeats ((initAllowList P appInfos)^[n] staticSubscribers)))
      ↔ (n = 1 ∨ ∀ key, allowedBy P appInfos key = [])
        ∧ (NoRepeats staticSubscribers → ∀ key, (allowedBy P appInfos key).Nodup
          ∧ ∀ event ∈ allowedBy P appInfos key, event ∉ allowedEvents staticSubscribers key) := by
  have hagree : Dict.Agree ((initAllowList P appInfos)^[n] staticSubscribers)
      (initAllowList P appInfos staticSubscribers)
        ↔ n = 1 ∨ ∀ key, allowedBy P appInfos key = [] := by
    rw [← forall_or_left]
    refine forall_congr' fun key => ?_
    rw [lookup_iterate_initAllowList, lookup_initAllowList, pushed_inj,
      flatten_replicate_eq_self hn]
  rw [← hagree]
  refine and_congr_right fun hsame => imp_congr_right fun hbefore => ?_
  rw [← noRepeats_initAllowList hbefore]
  refine forall_congr' fun key => ?_
  unfold allowedEvents
  rw [hsame key]

/-- An application that is allowed one event. -/
def allowedApplication : ApplicationInfo where
  bundleName := "b"
  uid := 0
  allowCommonEvent := ["e"]

/-- A first reading. -/
theorem initAllowList_once :
    Dict.Agree ((initAllowList {} [allowedApplication])^[1] ∅)
        (initAllowList {} [allowedApplication] ∅)
      ∧ (NoRepeats ∅ → NoRepeats ((initAllowList {} [allowedApplication])^[1] ∅)) := by
  refine (initAllowList_idempotent_iff (le_refl 1)).mpr ⟨.inl rfl, fun _ key => ⟨?_, ?_⟩⟩
  · unfold allowedBy
    rw [List.flatMap_singleton]
    dsimp only
    split
    · exact List.nodup_singleton "e"
    · exact List.nodup_nil
  · intro event _ hmem
    rw [allowedEvents, AList.lookup_empty] at hmem
    cases hmem

/-- **A second reading repeats every name.** -/
theorem initAllowList_twice :
    ¬ ∀ (P : Platform) (appInfos : List ApplicationInfo)
      (staticSubscribers : Dict String (List String)) (n : ℕ),
      (∀ appInfo ∈ appInfos, appInfo.allowCommonEvent.Nodup) → 1 ≤ n →
      Dict.Agree ((initAllowList P appInfos)^[n] staticSubscribers)
          (initAllowList P appInfos staticSubscribers)
        ∧ (NoRepeats staticSubscribers →
          NoRepeats ((initAllowList P appInfos)^[n] staticSubscribers)) := by
  intro hall
  have hnodup : ∀ appInfo ∈ [allowedApplication], appInfo.allowCommonEvent.Nodup := by
    simp [allowedApplication]
  have hsame := (hall {} [allowedApplication] ∅ 2 hnodup (by decide)).1 (bundleKey 0 "b")
  have htwice : ((initAllowList {} [allowedApplication])^[2] ∅).lookup (bundleKey 0 "b")
      = some ["e", "e"] := by decide +kernel
  have honce : (initAllowList {} [allowedApplication] ∅).lookup (bundleKey 0 "b")
      = some ["e"] := by decide +kernel
  rw [htwice, honce] at hsame
  cases hsame

end CommonEventService

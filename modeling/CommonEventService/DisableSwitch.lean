import CommonEventService.AllowList
import CommonEventService.Lib.Machine
import Mathlib.Data.List.Count

/-!
# Switching subscriptions off and on

An application switches its static subscriptions off and on, for the events it
names or for all it is allowed. What is off is a set, and the last call that
names an event should decide. The set is kept as a list: the first call of a
bundle stores the list as it is given, later ones look before they push, and a
call that switches on erases one occurrence for each name.

So an event is off as often as it is listed, and has to be switched on as
often. The condition below is that it is; where it fails the event stays off.
-/

namespace CommonEventService

/-- **A call that has an effect**: of which bundle, for which events, and
whether they are switched on. -/
structure Switch where
  key : String
  events : List String
  enable : Bool
  deriving DecidableEq, Repr

/-- What the last call of a key that names an event says. -/
def lastSwitch (calls : List Switch) (key event : String) : Option Bool :=
  calls.foldl (fun last call =>
    if call.key = key ∧ event ∈ call.events then some call.enable else last) none

theorem lastSwitch_concat (calls : List Switch) (call : Switch) (key event : String) :
    lastSwitch (calls ++ [call]) key event
      = if call.key = key ∧ event ∈ call.events then some call.enable
        else lastSwitch calls key event := by
  unfold lastSwitch
  rw [List.foldl_append]
  rfl

/-! ## What one call does -/

section Call

open StaticSubscriberManager (updateDisableEvent)

/-- What becomes of the events a bundle has off. -/
def switchEvents (own : Option (List String)) (events : List String) (enable : Bool) :
    List String :=
  match own with
  | none => if enable then [] else events
  | some currentEvents => events.foldl (updateDisableEvent enable) currentEvents

/-- **Switching on** leaves an event off where it was listed more often than
it is named. -/
theorem mem_switchEvents_enable (own : Option (List String)) (events : List String)
    (event : String) :
    event ∈ switchEvents own events true ↔ events.count event < (own.getD []).count event := by
  cases own with
  | none => simp [switchEvents]
  | some currentEvents =>
    have hdiff : switchEvents (some currentEvents) events true = currentEvents.diff events :=
      (List.diff_eq_foldl currentEvents events).symm
    rw [hdiff, ← List.count_pos_iff, List.count_diff, Nat.sub_pos_iff_lt, Option.getD_some]

/-- **Switching off** lists what was listed and what is named. -/
theorem mem_switchEvents_disable (own : Option (List String)) (events : List String)
    (event : String) :
    event ∈ switchEvents own events false ↔ event ∈ own.getD [] ∨ event ∈ events := by
  cases own with
  | none => simp [switchEvents]
  | some currentEvents =>
    show event ∈ events.foldl (updateDisableEvent false) currentEvents ↔ _
    rw [Option.getD_some]
    induction events generalizing currentEvents with
    | nil => simp
    | cons first events ih =>
      have hone : ∀ e, e ∈ updateDisableEvent false currentEvents first
          ↔ e ∈ currentEvents ∨ e = first := by
        intro e
        unfold updateDisableEvent
        rw [if_neg Bool.false_ne_true]
        by_cases hfirst : first ∈ currentEvents
        · rw [if_pos (List.contains_iff_mem.mpr hfirst)]
          exact ⟨.inl, fun h => h.elim id fun heq => heq ▸ hfirst⟩
        · rw [if_neg (mt List.contains_iff_mem.mp hfirst), List.mem_append, List.mem_singleton]
      rw [List.foldl_cons, ih, hone, List.mem_cons, or_assoc]

end Call

namespace StaticSubscriberManager

variable (m : StaticSubscriberManager)

/-- The events a bundle of a user has off. -/
def disabledEvents (key : String) : List String := (m.disableEvents.lookup key).getD []

/-- What a call of `SetStaticSubscriberState` is about, where it is about
anything. -/
def switchOf (P : Platform) (callingUid : Uid) (bundleName : String)
    (events : Option (List String)) (enable : Bool) : Option Switch :=
  match P.getOsAccountLocalIdFromUid callingUid with
  | none => none
  | some userId =>
    let key := bundleKey userId bundleName
    match events with
    | some events => some ⟨key, events, enable⟩
    | none => (m.staticSubscribers.lookup key).map (fun events => ⟨key, events, enable⟩)

/-- **What `UpdateDisableEvents` does** to the bundle, and to the others. -/
theorem disabledEvents_updateDisableEvents (bundleName : String) (events : List String)
    (enable : Bool) (userId : Int) (key : String) :
    (m.updateDisableEvents bundleName events enable userId).disabledEvents key
      = if key = bundleKey userId bundleName
        then switchEvents (m.disableEvents.lookup key) events enable
        else m.disabledEvents key := by
  unfold updateDisableEvents disabledEvents
  dsimp only
  by_cases hkey : key = bundleKey userId bundleName
  · -- the own list: none yet, emptied and erased, or written back
    rw [if_pos hkey, ← hkey]
    cases hown : m.disableEvents.lookup key with
    | none =>
      dsimp only
      unfold switchEvents
      split
      · rw [hown]
        rfl
      · rw [Dict.lookup_insert_ite, if_pos rfl]
        rfl
    | some currentEvents =>
      dsimp only
      unfold switchEvents
      dsimp only
      split
      next hnil =>
        rw [Dict.lookup_erase_ite, if_pos rfl, hnil]
        rfl
      next =>
        rw [Dict.lookup_insert_ite, if_pos rfl]
        rfl
  · rw [if_neg hkey]
    split
    · split
      · rfl
      · rw [Dict.lookup_insert_ite, if_neg hkey]
    · split
      · rw [Dict.lookup_erase_ite, if_neg hkey]
      · rw [Dict.lookup_insert_ite, if_neg hkey]

/-- **What `SetStaticSubscriberState` does.** -/
theorem disabledEvents_setStaticSubscriberState (P : Platform) (callingUid : Uid)
    (bundleName : String) (events : Option (List String)) (enable : Bool) (key : String) :
    (m.setStaticSubscriberState P callingUid bundleName events enable).disabledEvents key
      = match m.switchOf P callingUid bundleName events enable with
        | none => m.disabledEvents key
        | some call =>
          if key = call.key then switchEvents (m.disableEvents.lookup key) call.events call.enable
          else m.disabledEvents key := by
  unfold setStaticSubscriberState switchOf
  cases P.getOsAccountLocalIdFromUid callingUid with
  | none => rfl
  | some userId =>
    dsimp only
    cases events with
    | some events => exact m.disabledEvents_updateDisableEvents bundleName events enable userId key
    | none =>
      dsimp only
      cases m.staticSubscribers.lookup (bundleKey userId bundleName) with
      | none => rfl
      | some events =>
        exact m.disabledEvents_updateDisableEvents bundleName events enable userId key

end StaticSubscriberManager

/-! ## The calls as a machine -/

/-- **The calls of the machine**: an application switches events, or the allow
list is read in. -/
inductive SwitchLabel where
  | setStaticSubscriberState (P : Platform) (callingUid : Uid) (bundleName : String)
      (events : Option (List String)) (enable : Bool)
  | initAllowList (P : Platform) (appInfos : List ApplicationInfo)

/-- The manager, with the calls that had an effect so far, which no step
reads. -/
structure Switches where
  manager : StaticSubscriberManager := {}
  calls : List Switch := []

namespace Switches

variable (s : Switches)

/-- What a call is about. -/
def switchOf : SwitchLabel → Option Switch
  | .setStaticSubscriberState P callingUid bundleName events enable =>
    s.manager.switchOf P callingUid bundleName events enable
  | .initAllowList .. => none

/-- **One call.** -/
def step (l : SwitchLabel) : Switches where
  manager :=
    match l with
    | .setStaticSubscriberState P callingUid bundleName events enable =>
      s.manager.setStaticSubscriberState P callingUid bundleName events enable
    | .initAllowList P appInfos =>
      { s.manager with
        staticSubscribers := initAllowList P appInfos s.manager.staticSubscribers }
  calls := s.calls ++ (s.switchOf l).toList

end Switches

/-- **The switches as a machine.** -/
def switchMachine : Machine Switches SwitchLabel where
  init := {}
  step s l := some (s.step l)

namespace Switches

variable {s : Switches}

/-- **The state is a set**: an event is off where the last call of its bundle
that names it switched it off. -/
def SetSemantics (s : Switches) : Prop :=
  ∀ bundleName event userId, s.manager.isDisableEvent bundleName event userId = true
    ↔ lastSwitch s.calls (bundleKey userId bundleName) event = some false

/-- A call changes no answer for another key. -/
def KeepsOthers (s : Switches) (l : SwitchLabel) : Prop :=
  ∀ call, s.switchOf l = some call → ∀ bundleName event userId,
    bundleKey userId bundleName ≠ call.key →
    (s.step l).manager.isDisableEvent bundleName event userId
      = s.manager.isDisableEvent bundleName event userId

/-- **The condition on a call**: an event that it switches on is not listed
more often than it is named. -/
def NamesAsListed (s : Switches) (l : SwitchLabel) : Prop :=
  ∀ call, s.switchOf l = some call → call.enable = true →
    ∀ event ∈ call.events,
      (s.manager.disabledEvents call.key).count event ≤ call.events.count event

/-- What is off after a call. -/
theorem disabledEvents_step (s : Switches) (l : SwitchLabel) (key : String) :
    (s.step l).manager.disabledEvents key
      = match s.switchOf l with
        | none => s.manager.disabledEvents key
        | some call =>
          if key = call.key
          then switchEvents (s.manager.disableEvents.lookup key) call.events call.enable
          else s.manager.disabledEvents key := by
  cases l with
  | setStaticSubscriberState P callingUid bundleName events enable =>
    exact s.manager.disabledEvents_setStaticSubscriberState P callingUid bundleName events enable
      key
  | initAllowList P appInfos => rfl

/-- A call is about a bundle of a user. -/
theorem key_of_switchOf {l : SwitchLabel} {call : Switch} (h : s.switchOf l = some call) :
    ∃ userId bundleName, call.key = bundleKey userId bundleName := by
  cases l with
  | initAllowList P appInfos => cases h
  | setStaticSubscriberState P callingUid bundleName events enable =>
    change s.manager.switchOf P callingUid bundleName events enable = some call at h
    unfold StaticSubscriberManager.switchOf at h
    cases huser : P.getOsAccountLocalIdFromUid callingUid with
    | none =>
      rw [huser] at h
      cases h
    | some userId =>
      rw [huser] at h
      dsimp only at h
      refine ⟨userId, bundleName, ?_⟩
      cases events with
      | some events =>
        cases h
        rfl
      | none =>
        obtain ⟨events, -, rfl⟩ := Option.map_eq_some_iff.mp h
        rfl

/-- The set, by what is listed. -/
theorem setSemantics_iff :
    s.SetSemantics ↔ ∀ bundleName event userId,
      event ∈ s.manager.disabledEvents (bundleKey userId bundleName)
        ↔ lastSwitch s.calls (bundleKey userId bundleName) event = some false := by
  unfold SetSemantics StaticSubscriberManager.disabledEvents
  simp only [StaticSubscriberManager.isDisableEvent_iff]

/-- **Whether an event is off after a call of its bundle** is as the call says,
or as it was, where the call names it as it is listed. -/
theorem mem_switchEvents_iff {call : Switch} {own : Option (List String)} {event : String}
    (h : call.enable = true → event ∈ call.events →
      (own.getD []).count event ≤ call.events.count event) :
    event ∈ switchEvents own call.events call.enable
      ↔ if event ∈ call.events then call.enable = false else event ∈ own.getD [] := by
  cases henable : call.enable with
  | true =>
    rw [mem_switchEvents_enable]
    split
    next hmem => exact iff_of_false (Nat.not_lt.mpr (h henable hmem)) Bool.true_eq_false.mp
    next hmem => rw [List.count_eq_zero.mpr hmem, List.count_pos_iff]
  | false =>
    rw [mem_switchEvents_disable]
    split
    next hmem => exact iff_of_true (.inr hmem) rfl
    next hmem => exact or_iff_left hmem

/-- **A step keeps the set exactly where** it names events as they are
listed. -/
theorem setSemantics_step (h : s.SetSemantics) (l : SwitchLabel) :
    (s.step l).SetSemantics ↔ s.NamesAsListed l := by
  rw [setSemantics_iff] at h
  rw [setSemantics_iff]
  have hdisabled := fun bundleName userId =>
    s.disabledEvents_step l (bundleKey userId bundleName)
  -- a label that switches nothing leaves the set and the history
  cases hcall : s.switchOf l with
  | none =>
    have hcalls : (s.step l).calls = s.calls := by
      show s.calls ++ (s.switchOf l).toList = s.calls
      rw [hcall]
      exact List.append_nil _
    rw [hcall] at hdisabled
    refine iff_of_true (fun bundleName event userId => ?_) fun call heq => ?_
    · rw [hdisabled, hcalls]
      exact h bundleName event userId
    · rw [hcall] at heq
      cases heq
  | some call =>
    have hcalls : (s.step l).calls = s.calls ++ [call] := by
      show s.calls ++ (s.switchOf l).toList = s.calls ++ [call]
      rw [hcall]
      rfl
    rw [hcall] at hdisabled
    dsimp only at hdisabled
    obtain ⟨userId₀, bundleName₀, hkey₀⟩ := key_of_switchOf hcall
    constructor
    · intro hset call' hcall' henable event hevent
      obtain rfl : call = call' := Option.some.inj (hcall.symm.trans hcall')
      have hmem := (hset bundleName₀ event userId₀).not
      rw [hdisabled, hcalls, lastSwitch_concat, if_pos hkey₀.symm, if_pos ⟨hkey₀, hevent⟩, henable,
        mem_switchEvents_enable, ← hkey₀, Nat.not_lt] at hmem
      exact hmem.mpr nofun
    · intro hnames bundleName event userId
      rw [hdisabled, hcalls, lastSwitch_concat]
      by_cases hkey : bundleKey userId bundleName = call.key
      · rw [if_pos hkey, mem_switchEvents_iff fun henable hevent => ?_]
        · by_cases hevent : event ∈ call.events
          · rw [if_pos hevent, if_pos ⟨hkey.symm, hevent⟩, Option.some_inj]
          · rw [if_neg hevent, if_neg fun h => hevent h.2]
            exact h bundleName event userId
        · have hcount := hnames call hcall henable event hevent
          rw [← hkey] at hcount
          exact hcount
      · rw [if_neg hkey, if_neg fun h => hkey h.1.symm]
        exact h bundleName event userId

/-- **A call never changes the answer for another key.** -/
theorem keepsOthers (s : Switches) (l : SwitchLabel) : s.KeepsOthers l := by
  intro call hcall bundleName event userId hkey
  have hdisabled := s.disabledEvents_step l (bundleKey userId bundleName)
  rw [hcall] at hdisabled
  dsimp only at hdisabled
  rw [if_neg hkey] at hdisabled
  rw [Bool.eq_iff_iff, StaticSubscriberManager.isDisableEvent_iff,
    StaticSubscriberManager.isDisableEvent_iff]
  unfold StaticSubscriberManager.disabledEvents at hdisabled
  rw [hdisabled]

/-- **The disabled events are a set throughout a run exactly where** no call
that switches on names an event less often than it is listed; and no call
changes the answer for another key. -/
theorem setSemantics_iff_namesAsListed {ls : List SwitchLabel}
    (hs : switchMachine.run ls = some s) :
    ((∀ pre post t, ls = pre ++ post → switchMachine.run pre = some t → t.SetSemantics)
        ∧ ∀ pre l post t, ls = pre ++ l :: post → switchMachine.run pre = some t → t.KeepsOthers l)
      ↔ switchMachine.Guarded NamesAsListed ls := by
  refine (and_iff_left fun pre l post t _ _ => t.keepsOthers l).trans ?_
  refine Machine.forall_prefix_iff_guarded ?_ ?_ hs
  · intro bundleName event userId
    exact iff_of_false Bool.false_ne_true nofun
  · intro s l t _ h hstep
    obtain rfl : s.step l = t := Option.some.inj hstep
    exact setSemantics_step h l

/-- An application of bundle `b` switches events. -/
def switchB (events : Option (List String)) (enable : Bool) : SwitchLabel :=
  .setStaticSubscriberState {} 0 "b" events enable

/-- All that is allowed is switched off, and an event of it on again. -/
def offAndOn : List SwitchLabel :=
  [.initAllowList {} [allowedApplication], switchB none false, switchB (some ["e"]) true]

/-- After one reading of the allow list the event is on again. -/
theorem setSemantics_offAndOn :
    ∃ s, switchMachine.run offAndOn = some s ∧ s.manager.isDisableEvent "b" "e" 0 = false
      ∧ s.SetSemantics := by
  refine ⟨_, rfl, by decide +kernel, ?_⟩
  refine ((setSemantics_iff_namesAsListed rfl).mpr
    (Machine.guarded_of_guardedFrom ?_)).1 offAndOn [] _ rfl rfl
  refine ⟨nofun, fun call hcall henable => ?_, fun call hcall _ event hevent => ?_, trivial⟩
  · cases hcall
    cases henable
  · cases hcall
    obtain rfl := List.mem_singleton.mp hevent
    decide +kernel

/-- **An event may stay off**: after a second reading of the allow list it is
listed twice, and switched on once. -/
theorem setSemantics_readTwice :
    ¬ ∀ ls s, switchMachine.run ls = some s → s.SetSemantics := by
  intro hall
  have hset := hall (.initAllowList {} [allowedApplication] :: offAndOn) _ rfl "b" "e" 0
  revert hset
  decide +kernel

end Switches

end CommonEventService

import CommonEventService.CallsInOrder
import CommonEventService.StickyReplay

/-!
# What the front promises

Two promises of the front rest on the order of the calls.

A publish that gets past the other checks is counted by `PublishManager`,
which refuses it if twenty of its uid came within the period of decision. It
counts the calls it refuses as well, so the calls it lets through are never
more than twenty in any such period, whichever it is and however the other
calls come between.

`UnsubscribeCommonEventSync` returns when its task has run. The tasks run in
the order of the calls, so by then every subscription made before has been
entered, and the listener that was given is gone; and it stays so until it is
subscribed again, whatever else is called.
-/

namespace CommonEventService

/-! ## Flood control -/

/-- **`PublishManager` as a machine**, which its calls drive. -/
def floodMachine : Machine PublishManager FloodCall where
  init := {}
  step m call := some (m.checkIsFloodAttack call.appUid call.now).1

namespace PublishManager

/-- The call, if it is not refused. -/
def passed (m : PublishManager) (call : FloodCall) : List FloodCall :=
  if (m.checkIsFloodAttack call.appUid call.now).2 then [] else [call]

theorem run_floodMachine (calls : List FloodCall) :
    floodMachine.run calls = some (afterCalls calls) := by
  induction calls using List.reverseRecOn with
  | nil => rfl
  | append_singleton calls call ih =>
    refine (floodMachine.run_concat).mpr ⟨afterCalls calls, ih, ?_⟩
    rw [afterCalls_concat]
    rfl

theorem outputs_passed_concat (calls : List FloodCall) (call : FloodCall) :
    floodMachine.outputs passed (calls ++ [call])
      = floodMachine.outputs passed calls ++ (afterCalls calls).passed call :=
  floodMachine.outputs_concat passed (run_floodMachine calls)

theorem outputs_passed_sublist (calls : List FloodCall) :
    (floodMachine.outputs passed calls).Sublist calls := by
  induction calls using List.reverseRecOn with
  | nil => exact List.Sublist.refl _
  | append_singleton calls call ih =>
    rw [outputs_passed_concat]
    refine ih.append ?_
    unfold passed
    split
    · exact List.nil_sublist _
    · exact List.Sublist.refl _

end PublishManager

/-- Whether a call of a uid comes within the period of decision that begins at
a time. -/
def FloodCall.within (uid : Pid) (since : Int) (call : FloodCall) : Bool :=
  call.appUid = uid ∧ since ≤ call.now ∧ call.now ≤ since + FLOOD_ATTACK_INTERVAL_MAX

namespace PublishManager

/-- **In no period of decision** more calls of a uid are let through than the
number that makes an attack. -/
theorem passed_within_le {calls : List FloodCall} (h : NonDecreasing calls) (uid : Pid)
    (since : Int) :
    ((floodMachine.outputs passed calls).filter (FloodCall.within uid since)).length
      ≤ FLOOD_ATTACK_NUMBER_MAX := by
  induction calls using List.reverseRecOn with
  | nil => exact Nat.zero_le _
  | append_singleton calls call ih =>
    have hcalls := ih (h.sublist (List.sublist_append_left calls [call]))
    rw [outputs_passed_concat, List.filter_append, List.length_append]
    by_cases hcounts : ((afterCalls calls).checkIsFloodAttack call.appUid call.now).2 = false
        ∧ call.within uid since = true
    · obtain ⟨hpassed, hwithin⟩ := hcounts
      obtain ⟨huid, -, hnow⟩ := of_decide_eq_true hwithin
      -- whatever of the period came before counts against this call
      have hbefore :
          ((floodMachine.outputs passed calls).filter (FloodCall.within uid since)).length
          ≤ (countedWith calls call).length := by
        refine (((outputs_passed_sublist calls).filter _).trans ?_).length_le
        refine List.monotone_filter_right calls fun earlier hearlier => ?_
        obtain ⟨huid', hsince, -⟩ := of_decide_eq_true hearlier
        refine decide_eq_true ⟨huid'.trans huid.symm, ?_⟩
        omega
      have hfew : ¬ FLOOD_ATTACK_NUMBER_MAX ≤ (countedWith calls call).length := by
        rw [← answer_afterCalls h, hpassed]
        exact Bool.false_ne_true
      have hone :
          ((afterCalls calls).passed call).filter (FloodCall.within uid since) = [call] := by
        unfold passed
        rw [hpassed, if_neg Bool.false_ne_true, List.filter_cons_of_pos hwithin, List.filter_nil]
      rw [hone, List.length_singleton]
      exact lt_of_le_of_lt hbefore (Nat.lt_of_not_le hfew)
    · have hnone : ((afterCalls calls).passed call).filter (FloodCall.within uid since) = [] := by
        unfold passed
        split
        · rfl
        next hpassed =>
          have hwithin : ¬ call.within uid since = true := fun hwithin =>
            hcounts ⟨Bool.eq_false_of_not_eq_true hpassed, hwithin⟩
          rw [List.filter_cons_of_neg hwithin, List.filter_nil]
      rw [hnone]
      exact hcalls

end PublishManager

/-- The call of `CheckIsFloodAttack` that a publish makes, if it comes so
far. What foundation publishes for another counts as the other's. -/
def FrontLabel.floodCall? : FrontLabel → Option FloodCall
  | .publishCommonEvent caller _ _ _ _ clock => some ⟨caller.uid.toInt32.toInt, clock.now⟩
  | .publishCommonEventAsProxy _ _ _ _ uid _ _ clock => some ⟨uid.toInt32.toInt, clock.now⟩
  | _ => none

namespace ServiceFront

variable {P : FrontPlatform} {S : StdSort} {C : Config} {s t : ServiceFront}

/-- The publishes that are let through. -/
def accepted (P : FrontPlatform) (s : ServiceFront) (l : FrontLabel) : List FloodCall :=
  if s.succeeds P l then l.floodCall?.toList else []

/-- A publish is counted or not, and an attack is refused. -/
def Counts (s t : ServiceFront) (call : FloodCall) (ok : Bool) : Prop :=
  (t.publishManager = s.publishManager ∧ ok = false)
    ∨ (t.publishManager = (s.publishManager.checkIsFloodAttack call.appUid call.now).1
      ∧ ok = !(s.publishManager.checkIsFloodAttack call.appUid call.now).2)

theorem counts_publishCommonEventDetailed (s : ServiceFront) (event : CommonEventData)
    (publishinfo : CommonEventPublishInfo) (listener : Option Remote) (pid : Pid) (uid : Uid)
    (clientToken : AccessTokenID) (userId : Int) (clock : PublishClock) :
    Counts s (s.publishCommonEventDetailed P event publishinfo listener pid uid clientToken userId
        clock).2 ⟨uid.toInt32.toInt, clock.now⟩
      (decide ((s.publishCommonEventDetailed P event publishinfo listener pid uid clientToken
        userId clock).1 = ERR_OK)) := by
  unfold publishCommonEventDetailed
  split
  · exact Or.inl ⟨rfl, rfl⟩
  split
  · exact Or.inl ⟨rfl, rfl⟩
  dsimp only
  split
  next hcode => exact Or.inl ⟨rfl, decide_eq_false hcode⟩
  next =>
    split
    next hattack => exact Or.inr ⟨rfl, by rw [hattack]; rfl⟩
    next hattack => exact Or.inr ⟨rfl, by rw [Bool.eq_false_of_not_eq_true hattack]; rfl⟩

theorem counts_publishCommonEvent (s : ServiceFront) (caller : Caller) (event : CommonEventData)
    (publishinfo : CommonEventPublishInfo) (listener : Option Remote) (userId : Int)
    (clock : PublishClock) :
    Counts s (s.publishCommonEvent P caller event publishinfo listener userId clock).2
      ⟨caller.uid.toInt32.toInt, clock.now⟩
      (decide ((s.publishCommonEvent P caller event publishinfo listener userId clock).1
        = ERR_OK)) := by
  unfold publishCommonEvent
  split
  · exact Or.inl ⟨rfl, rfl⟩
  split
  · exact Or.inl ⟨rfl, rfl⟩
  · exact s.counts_publishCommonEventDetailed event publishinfo listener caller.pid caller.uid
      caller.tokenId userId clock

theorem counts_publishCommonEventAsProxy (s : ServiceFront) (caller : Caller)
    (event : CommonEventData) (publishinfo : CommonEventPublishInfo) (listener : Option Remote)
    (uid : Uid) (callerToken : AccessTokenID) (userId : Int) (clock : PublishClock) :
    Counts s (s.publishCommonEventAsProxy P caller event publishinfo listener uid callerToken
        userId clock).2 ⟨uid.toInt32.toInt, clock.now⟩
      (s.publishCommonEventAsProxy P caller event publishinfo listener uid callerToken userId
        clock).1 := by
  unfold publishCommonEventAsProxy
  split
  · exact Or.inl ⟨rfl, rfl⟩
  split
  · exact Or.inl ⟨rfl, rfl⟩
  · exact s.counts_publishCommonEventDetailed event publishinfo listener UNDEFINED_PID uid
      callerToken userId clock

/-- **What a step does to flood control**: nothing, or it asks for a publish,
which succeeds if it is not refused. -/
theorem flood_step {l : FrontLabel} (hstep : s.step P S C l = some t) :
    (t.publishManager = s.publishManager ∧ s.accepted P l = [])
      ∨ ∃ call, l.floodCall? = some call
        ∧ t.publishManager = (s.publishManager.checkIsFloodAttack call.appUid call.now).1
        ∧ s.accepted P l = s.publishManager.passed call := by
  have hcounted : ∀ call, l.floodCall? = some call → Counts s t call (s.succeeds P l) →
      (t.publishManager = s.publishManager ∧ s.accepted P l = [])
        ∨ ∃ call, l.floodCall? = some call
          ∧ t.publishManager = (s.publishManager.checkIsFloodAttack call.appUid call.now).1
          ∧ s.accepted P l = s.publishManager.passed call := by
    intro call hcall hcounts
    rcases hcounts with ⟨hsame, hok⟩ | ⟨hasked, hok⟩
    · exact Or.inl ⟨hsame, by rw [accepted, hok, if_neg Bool.false_ne_true]⟩
    · refine Or.inr ⟨call, hcall, hasked, ?_⟩
      rw [accepted, hok, hcall, PublishManager.passed]
      cases (s.publishManager.checkIsFloodAttack call.appUid call.now).2 <;> rfl
  have hquiet : l.floodCall? = none → t.publishManager = s.publishManager →
      t.publishManager = s.publishManager ∧ s.accepted P l = [] := by
    intro hcall hsame
    refine ⟨hsame, ?_⟩
    rw [accepted, hcall]
    exact ite_self _
  have hfreezing : ∀ caller task, (s.submitFreezing P caller task).2.publishManager
      = s.publishManager := by
    intro caller task
    rcases s.submitFreezing_cases (P := P) caller task with heq | ⟨-, heq⟩
    · rw [heq]
    · rw [heq]
      rfl
  cases l with
  | publishCommonEvent caller event publishinfo listener userId clock =>
    cases hstep
    exact hcounted _ rfl (s.counts_publishCommonEvent caller event publishinfo listener userId
      clock)
  | publishCommonEventAsProxy caller event publishinfo listener uid callerToken userId clock =>
    cases hstep
    exact hcounted _ rfl (s.counts_publishCommonEventAsProxy caller event publishinfo listener uid
      callerToken userId clock)
  | subscribeCommonEvent caller subscribeInfo listener recordTime =>
    cases hstep
    refine Or.inl (hquiet rfl ?_)
    rcases s.subscribeCommonEvent_cases (P := P) caller subscribeInfo listener recordTime with
      ⟨errCode, -, heq⟩ | ⟨-, heq⟩
    · rw [heq]
    · rw [heq]
      rfl
  | unsubscribeCommonEvent caller listener =>
    cases hstep
    refine Or.inl (hquiet rfl ?_)
    rcases s.unsubscribeCommonEvent_cases listener with ⟨errCode, -, heq⟩ | heq
    · rw [heq]
    · rw [heq]
      rfl
  | unsubscribeCommonEventSync caller listener =>
    cases hstep
    refine Or.inl (hquiet rfl ?_)
    unfold unsubscribeCommonEventSync
    rcases s.unsubscribeCommonEvent_cases listener with ⟨errCode, hcode, heq⟩ | heq
    · rw [heq]
      dsimp only
      rw [if_neg hcode]
    · rw [heq]
      rfl
  | finishReceiver caller reply =>
    cases hstep
    refine Or.inl (hquiet rfl ?_)
    rcases s.finishReceiver_cases reply with heq | heq
    · rw [heq]
    · rw [heq]
      rfl
  | freeze caller _ | unfreeze caller _ | unfreezeAll caller | setFreezeStatus caller _ _ =>
    cases hstep
    exact Or.inl (hquiet rfl (hfreezing caller _))
  | init =>
    refine Or.inl (hquiet rfl ?_)
    unfold step at hstep
    dsimp only at hstep
    split at hstep
    · cases hstep
    · cases hstep
      rfl
  | returned task =>
    refine Or.inl (hquiet rfl ?_)
    unfold step at hstep
    dsimp only at hstep
    split at hstep
    · cases hstep
      rfl
    · cases hstep
  | removeStickyCommonEvent caller event =>
    refine Or.inl (hquiet rfl ?_)
    have hremove : s.removeStickyCommonEvent P S C caller event = some t := hstep
    unfold removeStickyCommonEvent at hremove
    split at hremove
    · cases hremove
      rfl
    · rw [(callInner_some hremove).2]
  | setStaticSubscriberState caller events enable =>
    refine Or.inl (hquiet rfl ?_)
    have hset : s.setStaticSubscriberState P S C caller events enable = some t := hstep
    unfold setStaticSubscriberState at hset
    split at hset
    · cases hset
      rfl
    split at hset
    · cases hset
    · rw [(callInner_some hset).2]
  | runTask run =>
    refine Or.inl (hquiet rfl ?_)
    unfold step at hstep
    dsimp only at hstep
    split at hstep
    · cases hstep
    · rw [(callInner_some hstep).2]
  | internal l =>
    refine Or.inl (hquiet rfl ?_)
    unfold step at hstep
    dsimp only at hstep
    split at hstep
    · rw [(callInner_some hstep).2]
    · cases hstep

/-- What `PublishManager` has been asked, over a run, and what it let
through. -/
theorem asked_of_run {ls : List FrontLabel} (hs : (frontMachine P S C).run ls = some s) :
    ∃ asked, asked.Sublist (ls.filterMap FrontLabel.floodCall?)
      ∧ s.publishManager = PublishManager.afterCalls asked
      ∧ (frontMachine P S C).outputs (accepted P) ls
        = floodMachine.outputs PublishManager.passed asked := by
  refine Machine.run_induction (M := frontMachine P S C)
    (R := fun ls s => ∃ asked, asked.Sublist (ls.filterMap FrontLabel.floodCall?)
      ∧ s.publishManager = PublishManager.afterCalls asked
      ∧ (frontMachine P S C).outputs (accepted P) ls
        = floodMachine.outputs PublishManager.passed asked)
    ⟨[], List.Sublist.refl _, rfl, rfl⟩ ?_ hs
  rintro ls l s t hs ⟨asked, hasked, hmanager, haccepted⟩ hstep
  rw [List.filterMap_append, Machine.outputs_concat _ _ hs, haccepted]
  rcases flood_step hstep with ⟨hsame, hnone⟩ | ⟨call, hcall, hcounted, hpassed⟩
  · refine ⟨asked, hasked.trans (List.sublist_append_left _ _), hsame.trans hmanager, ?_⟩
    rw [hnone, List.append_nil]
  · refine ⟨asked ++ [call], hasked.append ?_, ?_, ?_⟩
    · rw [List.filterMap_cons_some hcall]
      exact List.Sublist.refl _
    · rw [hcounted, hmanager, PublishManager.afterCalls_concat]
    · rw [hpassed, hmanager, PublishManager.outputs_passed_concat]

/-- **No flood gets through.** In every run of the front during which the
clock of the publishes does not go back, of the publishes of one uid that
succeed no more than twenty fall in any period of decision. -/
theorem no_flood_accepted {ls : List FrontLabel} (hs : (frontMachine P S C).run ls = some s)
    (hclock : NonDecreasing (ls.filterMap FrontLabel.floodCall?)) (uid : Pid) (since : Int) :
    (((frontMachine P S C).outputs (accepted P) ls).filter
      (FloodCall.within uid since)).length ≤ FLOOD_ATTACK_NUMBER_MAX := by
  obtain ⟨asked, hasked, -, haccepted⟩ := asked_of_run hs
  rw [haccepted]
  exact PublishManager.passed_within_le (hclock.sublist hasked) uid since

/-- An application that publishes twenty-two times in a millisecond. -/
def flood : List FrontLabel :=
  .init :: List.replicate 22 (.publishCommonEvent anApp { want := { action := "e" } } {} none
    UNDEFINED_USER {})

/-- Twenty of them are let through. -/
theorem no_flood_accepted_flood :
    ∃ s, (frontMachine {} .insertion {}).run flood = some s
      ∧ (((frontMachine {} .insertion {}).outputs (accepted {}) flood).filter
          (FloodCall.within 20010001 0)).length ≤ FLOOD_ATTACK_NUMBER_MAX
      ∧ s.commonEventSrvQueue.length = 20 := by
  obtain ⟨s, hs, hqueue⟩ := Option.map_eq_some_iff.mp
    (show ((frontMachine {} .insertion {}).run flood).map
      (fun s => s.commonEventSrvQueue.length) = some 20 by decide +kernel)
  have hclock : NonDecreasing (flood.filterMap FrontLabel.floodCall?) := by
    unfold NonDecreasing
    decide +kernel
  exact ⟨s, hs, no_flood_accepted hs hclock 20010001 0, hqueue⟩

end ServiceFront

/-! ## The return of `UnsubscribeCommonEventSync` -/

namespace SubscriberManager

variable {P : Platform} {m : SubscriberManager (Buffered CellId) CellId}

/-- What is selected is registered. -/
theorem not_mem_selectedListeners (h : m.IndexSound) {listener : Remote}
    (hnone : m.recordOf listener = none) (event : EventRecord) :
    listener ∉ m.selectedListeners P event := by
  unfold selectedListeners
  rw [List.mem_map, not_exists]
  rintro r ⟨hr, hlistener⟩
  have hnone' : (m.getSubscriberRecords P event).2.recordOf listener = none := by
    rw [recordOf_getSubscriberRecords h.allocated, hnone]
  have hsound : (m.getSubscriberRecords P event).2.IndexSound :=
    h.managerStep (UnorderedDelivery.manager_getSubscriberRecords (S := .insertion) m event)
  have hselected :
      r ∈ (m.getSubscriberRecords P event).2.getSubscriberRecordsByWantLocked P event :=
    hr
  have hregistered := (hsound.mem_subscribersOf (List.mem_filter.mp hselected).1).1
  exact recordOf_eq_none.mp hnone' r hregistered hlistener

end SubscriberManager

namespace InnerCommonEventManager

variable {P : Platform} {S : StdSort} {C : Config} {s t : InnerCommonEventManager}

/-- A listener that is not registered is registered by its subscription
alone. -/
theorem recordOf_step_none (hs : (serviceMachine P S C).Reachable s) {l : ServiceLabel}
    {listener : Remote} (hstep : s.step P S C l = some t)
    (hl : ∀ args, l = .subscribeCommonEvent args → args.commonEventListener ≠ some listener)
    (hnone : s.delivery.manager.recordOf listener = none) :
    t.delivery.manager.recordOf listener = none := by
  have hsound := indexSound_reachable hs
  rcases manager_step_cases hstep with heq | ⟨l', u, hl', hu, heq⟩ |
    ⟨args, info, recordInfo, rfl, -, heq⟩
  · rw [heq]
    exact hnone
  · have hne : ∀ maxSubscriberNum info listener recordInfo,
        l' ≠ .insertSubscriber maxSubscriberNum info listener recordInfo := by
      rintro _ _ _ _ rfl
      cases hl'
    rw [heq, Option.eq_none_iff_forall_ne_some]
    intro record hrecord
    obtain ⟨record', hrecord', -⟩ :=
      UnorderedDelivery.keepsSubscriptions_step hsound hne hu listener record hrecord
    rw [hnone] at hrecord'
    cases hrecord'
  · rw [heq]
    rcases SubscriberManager.recordOf_insertSubscriber hsound.allocated S args.maxSubscriberNum
      (some info) args.commonEventListener recordInfo listener with hsame | ⟨-, -, hlistener, -⟩
    · rw [hsame, hnone]
    · exact absurd hlistener (hl args rfl)

/-- An unsubscription takes its listener out. -/
theorem recordOf_unsubscribeCommonEvent (hC : C.hasControl = true)
    (hs : (serviceMachine P S C).Reachable s) (listener : Remote) :
    (s.unsubscribeCommonEvent C (some listener)).delivery.manager.recordOf listener = none := by
  unfold unsubscribeCommonEvent
  rw [if_neg (by simp [hC])]
  exact (SubscriberManager.recordOf_removeSubscriber (indexSound_reachable hs) (some listener)
    listener).trans (if_pos rfl)

end InnerCommonEventManager

/-- Whether a task enters a listener. -/
def SrvTask.Subscribes (listener : Remote) : SrvTask → Prop
  | .subscribeCommonEvent _ commonEventListener _ _ _ => commonEventListener = some listener
  | _ => False

/-- Whether a call is a subscription of a listener. -/
def FrontLabel.Subscribes (listener : Remote) : FrontLabel → Prop
  | .subscribeCommonEvent _ _ commonEventListener _ => commonEventListener = some listener
  | _ => False

namespace ServiceFront

variable {P : FrontPlatform} {S : StdSort} {C : Config} {s t : ServiceFront} {n : ℕ}
  {listener : Remote}

/-- The listener is not registered, and no subscription of it waits. -/
structure Gone (s : ServiceFront) (listener : Remote) : Prop where
  queue : ∀ entry ∈ s.commonEventSrvQueue, ¬ entry.2.Subscribes listener
  recordOf : s.innerCommonEventManager.delivery.manager.recordOf listener = none

/-- **A listener that goes**: its unsubscription waits, and behind it no
subscription of it. -/
def Leaving (s : ServiceFront) (n : ℕ) (listener : Remote) : Prop :=
  ∃ before after, s.commonEventSrvQueue
      = before ++ (n, .unsubscribeCommonEvent (some listener)) :: after
    ∧ ∀ entry ∈ after, ¬ entry.2.Subscribes listener

theorem not_subscribes_of_task {l : FrontLabel} {task : SrvTask} (htask : l.task? = some task)
    (hl : ¬ l.Subscribes listener) : ¬ task.Subscribes listener := by
  cases l with
  | subscribeCommonEvent caller subscribeInfo commonEventListener recordTime =>
    cases htask
    exact hl
  | _ =>
    cases htask <;> exact id

/-- Only the task of a subscription subscribes. -/
theorem not_subscribes_of_call {task : SrvTask} {run : TaskRun} {args : SubscribeArgs}
    (htask : ¬ task.Subscribes listener) (hcall : task.call P run = .subscribeCommonEvent args) :
    args.commonEventListener ≠ some listener := by
  cases task with
  | subscribeCommonEvent subscribeInfo commonEventListener pid uid callerToken =>
    cases hcall
    exact htask
  | _ => cases hcall

/-- What goes past the queue subscribes nobody. -/
theorem direct_ne_subscribe {l : FrontLabel} {label : ServiceLabel}
    (hdirect : s.direct P C l = [label]) (args : SubscribeArgs) :
    label ≠ .subscribeCommonEvent args := by
  rintro rfl
  have htask := isTask_direct (P := P) (C := C) (hdirect ▸ List.mem_singleton.mpr rfl)
  cases htask

/-- What is submitted behind a queue that subscribes nobody. -/
theorem not_subscribes_concat {queue : List (ℕ × SrvTask)} {m : ℕ} {task : SrvTask}
    (hqueue : ∀ entry ∈ queue, ¬ entry.2.Subscribes listener) (htask : ¬ task.Subscribes listener) :
    ∀ entry ∈ queue ++ [(m, task)], ¬ entry.2.Subscribes listener := by
  intro entry hentry
  rcases List.mem_append.mp hentry with hentry | hentry
  · exact hqueue entry hentry
  · rw [List.mem_singleton.mp hentry]
    exact htask

/-- **A listener that has gone stays away**, but for a subscription of it. -/
theorem gone_step (hs : (frontMachine P S C).Reachable s) {l : FrontLabel}
    (hstep : s.step P S C l = some t) (hl : ¬ l.Subscribes listener) (h : s.Gone listener) :
    t.Gone listener := by
  have hreach := inner_reachable hs
  cases does_of_step hstep with
  | submits task htask hok hqueue hnext hinner hwaiting =>
    refine ⟨?_, by rw [hinner]; exact h.recordOf⟩
    rw [hqueue]
    exact not_subscribes_concat h.queue (not_subscribes_of_task htask hl)
  | rests hok hran hdirect hqueue hnext hinner hwaiting =>
    exact ⟨by rw [hqueue]; exact h.queue, by rw [hinner]; exact h.recordOf⟩
  | runs m task rest run hl' hqueue hrest hnext hwaiting hinner =>
    have htask : ¬ task.Subscribes listener :=
      h.queue (m, task) (by rw [hqueue]; exact List.mem_cons_self)
    refine ⟨fun entry hentry => h.queue entry ?_, InnerCommonEventManager.recordOf_step_none hreach
      hinner (fun args hcall => not_subscribes_of_call htask hcall) h.recordOf⟩
    rw [hqueue]
    exact List.mem_cons_of_mem _ (hrest ▸ hentry)
  | goesPast label hok hran hdirect hqueue hnext hwaiting hinner =>
    exact ⟨by rw [hqueue]; exact h.queue, InnerCommonEventManager.recordOf_step_none hreach
      hinner (fun args hlabel => absurd hlabel (direct_ne_subscribe hdirect args)) h.recordOf⟩

/-- **A listener that goes is gone when it is its turn.** -/
theorem leaving_step (hC : C.hasControl = true) (hs : (frontMachine P S C).Reachable s)
    {l : FrontLabel} (hstep : s.step P S C l = some t) (hl : ¬ l.Subscribes listener)
    (h : s.Leaving n listener) : t.Leaving n listener ∨ t.Gone listener := by
  obtain ⟨before, after, hbefore, hafter⟩ := h
  cases does_of_step hstep with
  | submits task htask hok hqueue hnext hinner hwaiting =>
    refine Or.inl ⟨before, after ++ [(s.nextTask, task)], ?_, ?_⟩
    · rw [hqueue, hbefore, List.append_assoc, List.cons_append]
    · exact not_subscribes_concat hafter (not_subscribes_of_task htask hl)
  | rests hok hran hdirect hqueue hnext hinner hwaiting =>
    exact Or.inl ⟨before, after, hqueue.trans hbefore, hafter⟩
  | runs m task rest run hl' hqueue hrest hnext hwaiting hinner =>
    rw [hqueue] at hbefore
    cases before with
    | nil =>
      obtain ⟨hentry, rfl⟩ := List.cons.inj hbefore
      obtain ⟨rfl, rfl⟩ := Prod.mk.inj hentry
      refine Or.inr ⟨by rw [hrest]; exact hafter, ?_⟩
      rw [← Option.some.inj hinner]
      exact InnerCommonEventManager.recordOf_unsubscribeCommonEvent hC (inner_reachable hs) listener
    | cons first before =>
      obtain ⟨-, hbefore⟩ := List.cons.inj hbefore
      exact Or.inl ⟨before, after, hrest.trans hbefore, hafter⟩
  | goesPast label hok hran hdirect hqueue hnext hwaiting hinner =>
    exact Or.inl ⟨before, after, hqueue.trans hbefore, hafter⟩

/-- **When `UnsubscribeCommonEventSync` returns, the listener is gone.** In
every run, if nobody has subscribed it since the call, it is not registered
when the call returns, and from then on no event that is published is for it,
until it is subscribed again. -/
theorem unsubscribed_on_return (hC : C.hasControl = true) {pre mid post : List FrontLabel}
    {caller : Caller} {r u : ServiceFront} (hpre : (frontMachine P S C).run pre = some r)
    (hready : r.ready = true)
    (hmid : (frontMachine P S C).runFrom r
      (.unsubscribeCommonEventSync caller (some listener) :: mid) = some s)
    (hreturn : (frontMachine P S C).step s (.returned r.nextTask) = some t)
    (hpost : (frontMachine P S C).runFrom t post = some u)
    (hnone : ∀ l ∈ mid ++ post, ¬ l.Subscribes listener) :
    u.innerCommonEventManager.delivery.manager.recordOf listener = none
      ∧ ∀ event : EventRecord, listener ∉
        u.innerCommonEventManager.delivery.manager.selectedListeners P.toPlatform event := by
  have hr : (frontMachine P S C).Reachable r := ⟨pre, hpre⟩
  rw [Machine.runFrom_cons] at hmid
  obtain ⟨r', hcall, hmid⟩ := Option.bind_eq_some_iff.mp hmid
  -- the task has been submitted, behind all that waited
  have hleaving : r'.Leaving r.nextTask listener := by
    cases hcall
    refine ⟨r.commonEventSrvQueue, [], ?_, List.forall_mem_nil _⟩
    show (r.unsubscribeCommonEventSync (some listener)).commonEventSrvQueue = _
    unfold unsubscribeCommonEventSync unsubscribeCommonEvent
    rw [hready]
    rfl
  have hbetween := Machine.runFrom_invariant (M := frontMachine P S C)
    (I := fun s => (frontMachine P S C).Reachable s
      ∧ (s.Leaving r.nextTask listener ∨ s.Gone listener))
    (fun s l t hs hl hstep => ⟨hs.1.step hstep, hs.2.elim (leaving_step hC hs.1 hstep hl)
      (fun hgone => Or.inr (gone_step hs.1 hstep hl hgone))⟩)
    ⟨hr.step hcall, Or.inl hleaving⟩ (fun l hl => hnone l (List.mem_append_left _ hl)) hmid
  obtain ⟨hreach, hwhich⟩ := hbetween
  have ht : (frontMachine P S C).Reachable t := hreach.step hreturn
  have hgone : t.Gone listener := by
    have hstep : s.step P S C (.returned r.nextTask) = some t := hreturn
    unfold step at hstep
    dsimp only at hstep
    split at hstep
    next hran =>
      cases hstep
      rcases hwhich with ⟨before, after, hbefore, -⟩ | hgone
      · -- it would still wait
        have hne := List.all_eq_true.mp hran.2 (r.nextTask, .unsubscribeCommonEvent (some listener))
          (by rw [hbefore]; exact List.mem_append_right _ List.mem_cons_self)
        exact absurd rfl (of_decide_eq_true hne)
      · exact ⟨hgone.queue, hgone.recordOf⟩
    next => cases hstep
  have hafter := Machine.runFrom_invariant (M := frontMachine P S C)
    (I := fun s => (frontMachine P S C).Reachable s ∧ s.Gone listener)
    (fun s l t hs hl hstep => ⟨hs.1.step hstep, gone_step hs.1 hstep hl hs.2⟩)
    ⟨ht, hgone⟩ (fun l hl => hnone l (List.mem_append_right _ hl)) hpost
  exact ⟨hafter.2.recordOf, fun event => SubscriberManager.not_mem_selectedListeners
    (InnerCommonEventManager.indexSound_reachable (inner_reachable hafter.1)) hafter.2.recordOf
    event⟩

/-- An application has asked to be subscribed. -/
def subscribing : List FrontLabel :=
  [.init, .subscribeCommonEvent anApp { matchingSkills := { events := ["e"] } } (some ⟨1⟩)
    (some 0)]

/-- It asks to be unsubscribed, both tasks run, its call returns, and another
one publishes. -/
theorem unsubscribed_on_return_waiting :
    ∃ u, (frontMachine {} .insertion {}).run (subscribing
        ++ (.unsubscribeCommonEventSync anApp (some ⟨1⟩) ::
            [.runTask { maxSubscriberNum := 1 }, .runTask {}])
        ++ .returned 1 :: [.publishCommonEvent anApp { want := { action := "e" } } {} none
          UNDEFINED_USER {}]) = some u
      ∧ u.innerCommonEventManager.delivery.manager.recordOf ⟨1⟩ = none := by
  obtain ⟨r, hpre, hready⟩ := Option.map_eq_some_iff.mp
    (show ((frontMachine {} .insertion {}).run subscribing).map
      (fun s => (s.ready, s.nextTask)) = some (true, 1) by decide +kernel)
  obtain ⟨hready, hnext⟩ := Prod.mk.inj hready
  obtain ⟨u, hu, -⟩ := Option.map_eq_some_iff.mp
    (show ((frontMachine {} .insertion {}).run (subscribing
        ++ (.unsubscribeCommonEventSync anApp (some ⟨1⟩) ::
            [.runTask { maxSubscriberNum := 1 }, .runTask {}])
        ++ .returned 1 :: [.publishCommonEvent anApp { want := { action := "e" } } {} none
          UNDEFINED_USER {}])).map (fun s => s.commonEventSrvQueue.length) = some 1 by
      decide +kernel)
  refine ⟨u, hu, ?_⟩
  rw [Machine.run_append, Machine.run_append, hpre, Option.bind_some] at hu
  obtain ⟨s, hmid, hu⟩ := Option.bind_eq_some_iff.mp hu
  rw [Machine.runFrom_cons] at hu
  obtain ⟨t, hreturn, hpost⟩ := Option.bind_eq_some_iff.mp hu
  rw [← hnext] at hreturn
  have hnone : ∀ l ∈ [.runTask { maxSubscriberNum := 1 }, .runTask {}]
      ++ [.publishCommonEvent anApp { want := { action := "e" } } {} none UNDEFINED_USER {}],
      ¬ FrontLabel.Subscribes ⟨1⟩ l := by
    intro l hl
    simp only [List.cons_append, List.nil_append, List.mem_cons, List.not_mem_nil, or_false] at hl
    rcases hl with rfl | rfl | rfl <;> exact id
  exact (unsubscribed_on_return rfl hpre hready hmid hreturn hpost hnone).1

end ServiceFront

end CommonEventService

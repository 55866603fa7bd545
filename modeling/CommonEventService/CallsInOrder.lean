import CommonEventService.Lib.Observation
import CommonEventService.ServiceFront

/-!
# Calls on the front, in order

A call that succeeds has submitted one task, and a call that fails none. The
tasks run one at a time in the order of submission, so what comes to
`InnerCommonEventManager` are the calls that succeeded, in their order, each
once, and between them the calls that go past the queue. Who made a call is
written into its task, and what the caller had to be was checked before.

`Does` says once what a step of the front can do; all else is read off it.
-/

namespace CommonEventService

/-- The task a call submits, if it is let through. -/
def FrontLabel.task? : FrontLabel → Option SrvTask
  | .publishCommonEvent caller event publishinfo listener userId clock =>
    some (.publishCommonEvent event publishinfo listener (clock.recordTime.getD 0) caller.pid
      caller.uid caller.tokenId userId)
  | .publishCommonEventAsProxy _ event publishinfo listener uid callerToken userId clock =>
    some (.publishCommonEvent event publishinfo listener (clock.recordTime.getD 0) UNDEFINED_PID
      uid callerToken userId)
  | .subscribeCommonEvent caller subscribeInfo listener _ =>
    some (.subscribeCommonEvent subscribeInfo listener caller.pid caller.uid caller.tokenId)
  | .unsubscribeCommonEvent _ listener => some (.unsubscribeCommonEvent listener)
  | .unsubscribeCommonEventSync _ listener => some (.unsubscribeCommonEvent listener)
  | .finishReceiver _ reply => some (.finishReceiver reply)
  | .freeze _ uid => some (.freeze uid)
  | .unfreeze _ uid => some (.unfreeze uid)
  | .unfreezeAll _ => some .unfreezeAll
  | .setFreezeStatus _ pidList isFreeze => some (.setFreezeStatus pidList isFreeze)
  | _ => none

/-- Whether a call goes through the queue. -/
def ServiceLabel.isTask : ServiceLabel → Bool
  | .publishCommonEvent _ _ | .subscribeCommonEvent _ | .unsubscribeCommonEvent _
  | .finishReceiver _ | .freeze _ _ | .unfreeze _ | .setFreezeStatus _ _ _ | .unfreezeAll => true
  | .removeStickyCommonEvent _ _ | .setStaticSubscriberState _ _ _ _ | .onRemoteDied _ | .control _
  | .unordered | .unorderedImmediate | .call _ => false

namespace ServiceFront

variable {P : FrontPlatform} {S : StdSort} {C : Config} {s t : ServiceFront}

/-- What a call that is submitted returns: whether it succeeds. -/
def succeeds (P : FrontPlatform) (s : ServiceFront) : FrontLabel → Bool
  | .publishCommonEvent caller event publishinfo listener userId clock =>
    (s.publishCommonEvent P caller event publishinfo listener userId clock).1 = ERR_OK
  | .publishCommonEventAsProxy caller event publishinfo listener uid callerToken userId clock =>
    (s.publishCommonEventAsProxy P caller event publishinfo listener uid callerToken userId
      clock).1
  | .subscribeCommonEvent caller subscribeInfo listener recordTime =>
    (s.subscribeCommonEvent P caller subscribeInfo listener recordTime).1 = ERR_OK
  | .unsubscribeCommonEvent _ listener => (s.unsubscribeCommonEvent listener).1 = ERR_OK
  | .unsubscribeCommonEventSync _ listener => (s.unsubscribeCommonEvent listener).1 = ERR_OK
  | .finishReceiver _ reply => (s.finishReceiver reply).1
  | .freeze caller uid => (s.freeze P caller uid).1
  | .unfreeze caller uid => (s.unfreeze P caller uid).1
  | .unfreezeAll caller => (s.unfreezeAll P caller).1
  | .setFreezeStatus caller pidList isFreeze => (s.setFreezeStatus P caller pidList isFreeze).1
  | _ => false

/-- The tasks submitted by the calls that succeed. -/
def submitted (P : FrontPlatform) (s : ServiceFront) (l : FrontLabel) : List SrvTask :=
  if s.succeeds P l then l.task?.toList else []

/-- The task that a step runs, and what it reads. -/
def ran (s : ServiceFront) : FrontLabel → List (SrvTask × TaskRun)
  | .runTask run => (s.commonEventSrvQueue.head?.map (fun entry => (entry.2, run))).toList
  | _ => []

/-- The call that a step makes past the queue. -/
def direct (P : FrontPlatform) (C : Config) (s : ServiceFront) : FrontLabel → List ServiceLabel
  | .removeStickyCommonEvent caller event =>
    if s.checkRemoveSticky P C caller ≠ ERR_OK then []
    else [.removeStickyCommonEvent event caller.uid]
  | .setStaticSubscriberState caller events enable =>
    if !P.isSystemApp caller then []
    else [.setStaticSubscriberState caller.uid (P.getBundleName caller.uid) events enable]
  | .internal l => if l.isInternal then [l] else []
  | _ => []

/-- **What a step of the front does on the inner manager.** -/
def calls (P : FrontPlatform) (C : Config) (s : ServiceFront) (l : FrontLabel) :
    List ServiceLabel :=
  (s.ran l).map (fun (task, run) => task.call P run) ++ s.direct P C l

/-! ## What a step can do -/

/-- **What a step of the front can do.** A call succeeds and submits its task;
or nothing is submitted and nothing called; or the first task of the queue
runs; or a call goes past the queue. -/
inductive Does (P : FrontPlatform) (S : StdSort) (C : Config) (s : ServiceFront)
    (l : FrontLabel) (t : ServiceFront) : Prop
  | submits (task : SrvTask) (htask : l.task? = some task) (hok : s.succeeds P l = true)
      (hqueue : t.commonEventSrvQueue = s.commonEventSrvQueue ++ [(s.nextTask, task)])
      (hnext : t.nextTask = s.nextTask + 1)
      (hinner : t.innerCommonEventManager = s.innerCommonEventManager)
      (hwaiting : t.waiting = s.waiting ∨ ∃ caller listener,
        l = .unsubscribeCommonEventSync caller listener ∧ t.waiting = s.waiting ++ [s.nextTask])
  | rests (hok : s.succeeds P l = false) (hran : s.ran l = []) (hdirect : s.direct P C l = [])
      (hqueue : t.commonEventSrvQueue = s.commonEventSrvQueue) (hnext : t.nextTask = s.nextTask)
      (hinner : t.innerCommonEventManager = s.innerCommonEventManager)
      (hwaiting : t.waiting = s.waiting ∨ ∃ task, l = .returned task
        ∧ (∀ entry ∈ s.commonEventSrvQueue, entry.1 ≠ task) ∧ t.waiting = s.waiting.erase task)
  | runs (n : ℕ) (task : SrvTask) (rest : List (ℕ × SrvTask)) (run : TaskRun)
      (hl : l = .runTask run) (hqueue : s.commonEventSrvQueue = (n, task) :: rest)
      (hrest : t.commonEventSrvQueue = rest) (hnext : t.nextTask = s.nextTask)
      (hwaiting : t.waiting = s.waiting)
      (hinner : s.innerCommonEventManager.step P.toPlatform S C (task.call P run)
        = some t.innerCommonEventManager)
  | goesPast (label : ServiceLabel) (hok : s.succeeds P l = false) (hran : s.ran l = [])
      (hdirect : s.direct P C l = [label])
      (hqueue : t.commonEventSrvQueue = s.commonEventSrvQueue) (hnext : t.nextTask = s.nextTask)
      (hwaiting : t.waiting = s.waiting)
      (hinner : s.innerCommonEventManager.step P.toPlatform S C label
        = some t.innerCommonEventManager)

/-- A publish that is let through submits its task, and one that is not
submits none. -/
theorem publishCommonEventDetailed_cases (s : ServiceFront) (event : CommonEventData)
    (publishinfo : CommonEventPublishInfo) (listener : Option Remote) (pid : Pid) (uid : Uid)
    (clientToken : AccessTokenID) (userId : Int) (clock : PublishClock) :
    (∃ errCode publishManager, errCode ≠ ERR_OK
        ∧ s.publishCommonEventDetailed P event publishinfo listener pid uid clientToken userId
          clock = (errCode, { s with publishManager := publishManager }))
      ∨ (P.isDlpHap clientToken = false ∧ P.checkUserIdParams userId = ERR_OK
        ∧ ∃ publishManager,
          s.publishCommonEventDetailed P event publishinfo listener pid uid clientToken userId
            clock = (ERR_OK, { s with publishManager := publishManager }.submit
              (.publishCommonEvent event publishinfo listener (clock.recordTime.getD 0) pid uid
                clientToken userId))) := by
  unfold publishCommonEventDetailed
  cases hdlp : P.isDlpHap clientToken with
  | true => exact Or.inl ⟨_, s.publishManager, by decide, rfl⟩
  | false =>
    rw [if_neg Bool.false_ne_true]
    cases clock.recordTime with
    | none => exact Or.inl ⟨_, s.publishManager, by decide, rfl⟩
    | some recordTime =>
      dsimp only
      by_cases hcode : P.checkUserIdParams userId = ERR_OK
      · rw [if_neg (not_not.mpr hcode)]
        split
        · exact Or.inl ⟨_, _, by decide, rfl⟩
        · exact Or.inr ⟨rfl, hcode, _, rfl⟩
      · rw [if_pos hcode]
        exact Or.inl ⟨_, s.publishManager, hcode, rfl⟩

/-- A publish to a user that is named needs a subsystem or a system
application. -/
theorem publishCommonEvent_cases (s : ServiceFront) (caller : Caller) (event : CommonEventData)
    (publishinfo : CommonEventPublishInfo) (listener : Option Remote) (userId : Int)
    (clock : PublishClock) :
    (∃ errCode publishManager, errCode ≠ ERR_OK
        ∧ s.publishCommonEvent P caller event publishinfo listener userId clock
          = (errCode, { s with publishManager := publishManager }))
      ∨ ((userId = ALL_USER ∨ userId = CURRENT_USER ∨ userId = UNDEFINED_USER
          ∨ P.verifyNativeToken caller.tokenId = true ∨ P.isSystemApp caller = true)
        ∧ P.isDlpHap caller.tokenId = false ∧ P.checkUserIdParams userId = ERR_OK
        ∧ ∃ publishManager,
          s.publishCommonEvent P caller event publishinfo listener userId clock
            = (ERR_OK, { s with publishManager := publishManager }.submit
              (.publishCommonEvent event publishinfo listener (clock.recordTime.getD 0)
                caller.pid caller.uid caller.tokenId userId))) := by
  unfold publishCommonEvent
  split
  · exact Or.inl ⟨ERR_NOTIFICATION_CESM_ERROR, s.publishManager, by decide, rfl⟩
  split
  · exact Or.inl ⟨ERR_NOTIFICATION_CES_COMMON_NOT_SYSTEM_APP, s.publishManager, by decide, rfl⟩
  next hspecial =>
    rcases s.publishCommonEventDetailed_cases (P := P) event publishinfo listener caller.pid
      caller.uid caller.tokenId userId clock with ⟨errCode, publishManager, hcode, heq⟩ |
      ⟨hdlp, huser, publishManager, heq⟩
    · exact Or.inl ⟨errCode, publishManager, hcode, heq⟩
    · refine Or.inr ⟨?_, hdlp, huser, publishManager, heq⟩
      by_contra hnot
      simp only [not_or, Bool.not_eq_true] at hnot
      obtain ⟨hall, hcurrent, hundefined, hnative, hsystem⟩ := hnot
      exact hspecial ⟨hall, hcurrent, hundefined, by rw [hnative]; rfl, by rw [hsystem]; rfl⟩

/-- Only foundation publishes for another. -/
theorem publishCommonEventAsProxy_cases (s : ServiceFront) (caller : Caller)
    (event : CommonEventData) (publishinfo : CommonEventPublishInfo) (listener : Option Remote)
    (uid : Uid) (callerToken : AccessTokenID) (userId : Int) (clock : PublishClock) :
    (∃ publishManager,
        s.publishCommonEventAsProxy P caller event publishinfo listener uid callerToken userId
          clock = (false, { s with publishManager := publishManager }))
      ∨ (caller.uid = FOUNDATION_UID ∧ P.isDlpHap callerToken = false
        ∧ P.checkUserIdParams userId = ERR_OK ∧ ∃ publishManager,
          s.publishCommonEventAsProxy P caller event publishinfo listener uid callerToken userId
            clock = (true, { s with publishManager := publishManager }.submit
              (.publishCommonEvent event publishinfo listener (clock.recordTime.getD 0)
                UNDEFINED_PID uid callerToken userId))) := by
  unfold publishCommonEventAsProxy
  split
  · exact Or.inl ⟨s.publishManager, rfl⟩
  by_cases huid : caller.uid = FOUNDATION_UID
  · rw [if_neg (not_not.mpr huid)]
    rcases s.publishCommonEventDetailed_cases (P := P) event publishinfo listener UNDEFINED_PID
      uid callerToken userId clock with ⟨errCode, publishManager, hcode, heq⟩ |
      ⟨hdlp, huser, publishManager, heq⟩
    · refine Or.inl ⟨publishManager, ?_⟩
      rw [heq]
      exact Prod.ext (decide_eq_false hcode) rfl
    · refine Or.inr ⟨huid, hdlp, huser, publishManager, ?_⟩
      rw [heq]
      rfl
  · rw [if_pos huid]
    exact Or.inl ⟨s.publishManager, rfl⟩

/-- A subscription is let through if its user is one there is. -/
theorem subscribeCommonEvent_cases (s : ServiceFront) (caller : Caller)
    (subscribeInfo : CommonEventSubscribeInfo) (listener : Option Remote)
    (recordTime : Option Int) :
    (∃ errCode, errCode ≠ ERR_OK
        ∧ s.subscribeCommonEvent P caller subscribeInfo listener recordTime = (errCode, s))
      ∨ (P.checkUserIdParams subscribeInfo.userId = ERR_OK
        ∧ s.subscribeCommonEvent P caller subscribeInfo listener recordTime
          = (ERR_OK, s.submit (.subscribeCommonEvent subscribeInfo listener caller.pid caller.uid
              caller.tokenId))) := by
  unfold subscribeCommonEvent
  split
  · exact Or.inl ⟨ERR_NOTIFICATION_CES_COMMON_PARAM_INVALID, by decide, rfl⟩
  cases recordTime with
  | none => exact Or.inl ⟨ERR_NOTIFICATION_CES_COMMON_PARAM_INVALID, by decide, rfl⟩
  | some recordTime =>
    dsimp only
    by_cases hcode : P.checkUserIdParams subscribeInfo.userId = ERR_OK
    · rw [if_neg (not_not.mpr hcode)]
      exact Or.inr ⟨hcode, rfl⟩
    · rw [if_pos hcode]
      exact Or.inl ⟨_, hcode, rfl⟩

theorem unsubscribeCommonEvent_cases (s : ServiceFront) (listener : Option Remote) :
    (∃ errCode, errCode ≠ ERR_OK ∧ s.unsubscribeCommonEvent listener = (errCode, s))
      ∨ s.unsubscribeCommonEvent listener
        = (ERR_OK, s.submit (.unsubscribeCommonEvent listener)) := by
  unfold unsubscribeCommonEvent
  split
  · exact Or.inl ⟨ERR_NOTIFICATION_CES_COMMON_PARAM_INVALID, by decide, rfl⟩
  · exact Or.inr rfl

theorem finishReceiver_cases (s : ServiceFront) (reply : Reply) :
    s.finishReceiver reply = (false, s)
      ∨ s.finishReceiver reply = (true, s.submit (.finishReceiver reply)) := by
  unfold finishReceiver
  split
  · exact Or.inl rfl
  · exact Or.inr rfl

/-- A call that freezes is let through if the resource manager makes it, of a
service that is ready. -/
theorem submitFreezing_cases (s : ServiceFront) (caller : Caller) (task : SrvTask) :
    s.submitFreezing P caller task = (false, s)
      ∨ (P.isResourceManager caller = true
        ∧ s.submitFreezing P caller task = (true, s.submit task)) := by
  unfold submitFreezing
  cases P.isResourceManager caller with
  | false => exact Or.inl rfl
  | true =>
    cases s.ready with
    | false => exact Or.inl rfl
    | true => exact Or.inr ⟨rfl, rfl⟩

/-- A call on the inner manager touches nothing else. -/
theorem callInner_some {l : ServiceLabel} (h : s.callInner P S C l = some t) :
    s.innerCommonEventManager.step P.toPlatform S C l = some t.innerCommonEventManager
      ∧ t = { s with innerCommonEventManager := t.innerCommonEventManager } := by
  obtain ⟨inner, hinner, rfl⟩ := Option.map_eq_some_iff.mp h
  exact ⟨hinner, rfl⟩

/-- A call that submits its task. -/
theorem Does.submitted {l : FrontLabel} {task : SrvTask} {publishManager : PublishManager}
    (htask : l.task? = some task) (hok : s.succeeds P l = true)
    (ht : t = { s with publishManager := publishManager }.submit task) : Does P S C s l t := by
  subst ht
  exact .submits task htask hok rfl rfl rfl (Or.inl rfl)

/-- A call that is refused. -/
theorem Does.refused {l : FrontLabel} {publishManager : PublishManager}
    (hok : s.succeeds P l = false) (hran : s.ran l = []) (hdirect : s.direct P C l = [])
    (ht : t = { s with publishManager := publishManager }) : Does P S C s l t := by
  subst ht
  exact .rests hok hran hdirect rfl rfl rfl (Or.inl rfl)

/-- A call that freezes. -/
theorem Does.freezing {l : FrontLabel} {caller : Caller} {task : SrvTask}
    (htask : l.task? = some task) (hran : s.ran l = []) (hdirect : s.direct P C l = [])
    (hok : s.succeeds P l = (s.submitFreezing P caller task).1)
    (ht : t = (s.submitFreezing P caller task).2) : Does P S C s l t := by
  rcases s.submitFreezing_cases (P := P) caller task with heq | ⟨-, heq⟩
  · rw [heq] at hok ht
    exact .refused hok hran hdirect ht
  · rw [heq] at hok ht
    exact .submitted htask hok ht

/-- **Every step does one of these.** -/
theorem does_of_step {l : FrontLabel} (hstep : s.step P S C l = some t) : Does P S C s l t := by
  cases l with
  | init =>
    unfold step at hstep
    dsimp only at hstep
    split at hstep
    · cases hstep
    · cases hstep
      exact .rests rfl rfl rfl rfl rfl rfl (Or.inl rfl)
  | publishCommonEvent caller event publishinfo listener userId clock =>
    cases hstep
    rcases s.publishCommonEvent_cases (P := P) caller event publishinfo listener userId clock with
      ⟨errCode, publishManager, hcode, heq⟩ | ⟨-, -, -, publishManager, heq⟩
    · refine .refused ?_ rfl rfl (congrArg Prod.snd heq)
      rw [succeeds, heq]
      exact decide_eq_false hcode
    · refine .submitted rfl ?_ (congrArg Prod.snd heq)
      rw [succeeds, heq]
      rfl
  | publishCommonEventAsProxy caller event publishinfo listener uid callerToken userId clock =>
    cases hstep
    rcases s.publishCommonEventAsProxy_cases (P := P) caller event publishinfo listener uid
      callerToken userId clock with ⟨publishManager, heq⟩ | ⟨-, -, -, publishManager, heq⟩
    · exact .refused (congrArg Prod.fst heq) rfl rfl (congrArg Prod.snd heq)
    · exact .submitted rfl (congrArg Prod.fst heq) (congrArg Prod.snd heq)
  | subscribeCommonEvent caller subscribeInfo listener recordTime =>
    cases hstep
    rcases s.subscribeCommonEvent_cases (P := P) caller subscribeInfo listener recordTime with
      ⟨errCode, hcode, heq⟩ | ⟨-, heq⟩
    · refine .refused ?_ rfl rfl (congrArg Prod.snd heq)
      rw [succeeds, heq]
      exact decide_eq_false hcode
    · refine .submitted rfl ?_ (congrArg Prod.snd heq)
      rw [succeeds, heq]
      rfl
  | unsubscribeCommonEvent caller listener =>
    cases hstep
    rcases s.unsubscribeCommonEvent_cases listener with ⟨errCode, hcode, heq⟩ | heq
    · refine .refused ?_ rfl rfl (congrArg Prod.snd heq)
      rw [succeeds, heq]
      exact decide_eq_false hcode
    · refine .submitted rfl ?_ (congrArg Prod.snd heq)
      rw [succeeds, heq]
      rfl
  | unsubscribeCommonEventSync caller listener =>
    cases hstep
    unfold unsubscribeCommonEventSync
    rcases s.unsubscribeCommonEvent_cases listener with ⟨errCode, hcode, heq⟩ | heq
    · refine .refused ?_ rfl rfl (show _ = { s with publishManager := s.publishManager } from ?_)
      · rw [succeeds, heq]
        exact decide_eq_false hcode
      · rw [heq]
        dsimp only
        rw [if_neg hcode]
    · refine .submits (.unsubscribeCommonEvent listener) rfl ?_ ?_ ?_ ?_
        (Or.inr ⟨caller, listener, rfl, ?_⟩)
      · rw [succeeds, heq]
        rfl
      all_goals
        rw [heq]
        rfl
  | returned task =>
    unfold step at hstep
    dsimp only at hstep
    split at hstep
    next hc =>
      cases hstep
      refine .rests rfl rfl rfl rfl rfl rfl (Or.inr ⟨task, rfl, fun entry hentry => ?_, rfl⟩)
      simpa using List.all_eq_true.mp hc.2 entry hentry
    next => cases hstep
  | finishReceiver caller reply =>
    cases hstep
    rcases s.finishReceiver_cases reply with heq | heq
    · exact .refused (congrArg Prod.fst heq) rfl rfl (congrArg Prod.snd heq)
    · exact .submitted rfl (congrArg Prod.fst heq) (congrArg Prod.snd heq)
  | freeze caller uid | unfreeze caller uid | unfreezeAll caller
  | setFreezeStatus caller pidList isFreeze =>
    cases hstep
    exact .freezing rfl rfl rfl rfl rfl
  | removeStickyCommonEvent caller event =>
    have hremove : s.removeStickyCommonEvent P S C caller event = some t := hstep
    unfold removeStickyCommonEvent at hremove
    split at hremove
    next hcheck =>
      cases hremove
      exact .rests rfl rfl (if_pos hcheck) rfl rfl rfl (Or.inl rfl)
    next hcheck =>
      obtain ⟨hinner, ht⟩ := callInner_some hremove
      rw [ht]
      exact .goesPast _ rfl rfl (if_neg hcheck) rfl rfl rfl hinner
  | setStaticSubscriberState caller events enable =>
    have hset : s.setStaticSubscriberState P S C caller events enable = some t := hstep
    unfold setStaticSubscriberState at hset
    split at hset
    next hsystem =>
      cases hset
      exact .rests rfl rfl (if_pos hsystem) rfl rfl rfl (Or.inl rfl)
    next hsystem =>
      split at hset
      · cases hset
      · obtain ⟨hinner, ht⟩ := callInner_some hset
        rw [ht]
        exact .goesPast _ rfl rfl (if_neg hsystem) rfl rfl rfl hinner
  | runTask run =>
    unfold step at hstep
    dsimp only at hstep
    cases hqueue : s.commonEventSrvQueue with
    | nil =>
      rw [hqueue] at hstep
      cases hstep
    | cons entry rest =>
      rw [hqueue] at hstep
      obtain ⟨hinner, ht⟩ := callInner_some hstep
      rw [ht]
      exact .runs entry.1 entry.2 rest run rfl hqueue rfl rfl rfl hinner
  | internal l =>
    unfold step at hstep
    dsimp only at hstep
    split at hstep
    next hl =>
      obtain ⟨hinner, ht⟩ := callInner_some hstep
      rw [ht]
      exact .goesPast l rfl rfl (if_pos hl) rfl rfl rfl hinner
    next => cases hstep

/-! ## Calls in order -/

theorem isTask_call (run : TaskRun) (task : SrvTask) : (task.call P run).isTask = true := by
  cases task with
  | _ => rfl

/-- What goes past the queue is none of its tasks. -/
theorem isTask_direct {l : FrontLabel} {label : ServiceLabel} (h : label ∈ s.direct P C l) :
    label.isTask = false := by
  unfold direct at h
  split at h
  · split at h
    · cases h
    · rw [List.mem_singleton.mp h]
      rfl
  · split at h
    · cases h
    · rw [List.mem_singleton.mp h]
      rfl
  next l =>
    split at h
    next hl =>
      rw [List.mem_singleton.mp h]
      cases l with
      | onRemoteDied _ | control _ | unordered | unorderedImmediate | call _ => rfl
      | _ => cases hl
    next => cases h
  · cases h

/-- The calls of a step that go through the queue. -/
theorem filter_calls (l : FrontLabel) :
    (s.calls P C l).filter ServiceLabel.isTask
      = (s.ran l).map (fun (task, run) => task.call P run) := by
  unfold calls
  rw [List.filter_append, List.filter_eq_self.mpr, List.filter_eq_nil_iff.mpr, List.append_nil]
  · intro label hlabel
    rw [isTask_direct hlabel]
    exact Bool.false_ne_true
  · intro label hlabel
    obtain ⟨⟨task, run⟩, -, rfl⟩ := List.mem_map.mp hlabel
    exact isTask_call run task

/-- What a step runs was at the front of the queue, and what it submits is at
the end. -/
theorem queue_step {l : FrontLabel} (hstep : s.step P S C l = some t) :
    (s.ran l).map Prod.fst ++ t.commonEventSrvQueue.map Prod.snd
      = s.commonEventSrvQueue.map Prod.snd ++ s.submitted P l := by
  cases does_of_step hstep with
  | submits task htask hok hqueue hnext hinner hwaiting =>
    have hran : s.ran l = [] := by
      cases l with
      | runTask run => cases htask
      | _ => rfl
    rw [hran, hqueue, submitted, hok, htask, List.map_append]
    rfl
  | rests hok hran hdirect hqueue hnext hinner hwaiting =>
    rw [hran, hqueue, submitted, hok]
    simp
  | runs n task rest run hl hqueue hrest hnext hwaiting hinner =>
    rw [hl, ran, hqueue, hrest]
    simp [submitted, succeeds]
  | goesPast label hok hran hdirect hqueue hnext hwaiting hinner =>
    rw [hran, hqueue, submitted, hok]
    simp

/-- **A step calls nothing**, and leaves the inner manager, or it makes one
call. -/
theorem calls_cases {l : FrontLabel} (hstep : s.step P S C l = some t) :
    (s.calls P C l = [] ∧ t.innerCommonEventManager = s.innerCommonEventManager)
      ∨ ∃ label, s.calls P C l = [label]
        ∧ s.innerCommonEventManager.step P.toPlatform S C label
          = some t.innerCommonEventManager := by
  cases does_of_step hstep with
  | submits task htask hok hqueue hnext hinner hwaiting =>
    refine Or.inl ⟨?_, hinner⟩
    cases l with
    | runTask _ | removeStickyCommonEvent _ _ | setStaticSubscriberState _ _ _ | internal _ =>
      cases htask
    | _ => rfl
  | rests hok hran hdirect hqueue hnext hinner hwaiting =>
    refine Or.inl ⟨?_, hinner⟩
    rw [calls, hran, hdirect]
    rfl
  | runs n task rest run hl hqueue hrest hnext hwaiting hinner =>
    refine Or.inr ⟨task.call P run, ?_, hinner⟩
    rw [hl, calls, ran, hqueue]
    rfl
  | goesPast label hok hran hdirect hqueue hnext hwaiting hinner =>
    refine Or.inr ⟨label, ?_, hinner⟩
    rw [calls, hran, hdirect]
    rfl

/-- What a step calls leads the inner manager from one state to the next. -/
theorem inner_step {l : FrontLabel} (hstep : s.step P S C l = some t) :
    (serviceMachine P.toPlatform S C).runFrom s.innerCommonEventManager (s.calls P C l)
      = some t.innerCommonEventManager := by
  rcases calls_cases hstep with ⟨hcalls, hinner⟩ | ⟨label, hcalls, hinner⟩
  · rw [hcalls, hinner]
    rfl
  · rw [hcalls, Machine.runFrom_cons,
      show (serviceMachine P.toPlatform S C).step s.innerCommonEventManager label
        = some t.innerCommonEventManager from hinner]
    rfl

/-- A run of the front is, on the inner manager, a run of the service. -/
theorem inner_run {ls : List FrontLabel} (hs : (frontMachine P S C).run ls = some s) :
    (serviceMachine P.toPlatform S C).run ((frontMachine P S C).outputs (calls P C) ls)
      = some s.innerCommonEventManager :=
  Machine.run_outputs (M := frontMachine P S C) innerCommonEventManager rfl
    (fun _ _ _ hstep => inner_step hstep) hs

/-- What holds of the service holds under the front. -/
theorem inner_reachable (hs : (frontMachine P S C).Reachable s) :
    (serviceMachine P.toPlatform S C).Reachable s.innerCommonEventManager := by
  obtain ⟨ls, hls⟩ := hs
  exact ⟨_, inner_run hls⟩

/-- The tasks run, with those that wait, are those submitted. -/
theorem queue_run {ls : List FrontLabel} (hs : (frontMachine P S C).run ls = some s) :
    ((frontMachine P S C).outputs ran ls).map Prod.fst ++ s.commonEventSrvQueue.map Prod.snd
      = (frontMachine P S C).outputs (submitted P) ls := by
  rw [← List.filterMap_eq_map, Machine.filterMap_outputs]
  refine Machine.queue_law (M := frontMachine P S C)
    (fun s => s.commonEventSrvQueue.map Prod.snd) rfl (fun s l t hstep => ?_) hs
  rw [← queue_step hstep, List.filterMap_eq_map]

/-- **The front refines the service.** A run of the front is, on the inner
manager, a run of the service; the calls of it that go through the queue are
those of the tasks run; and the tasks run, with those that wait, are what was
submitted by the calls that succeeded, in their order. -/
theorem calls_in_order {ls : List FrontLabel} (hs : (frontMachine P S C).run ls = some s) :
    (serviceMachine P.toPlatform S C).run ((frontMachine P S C).outputs (calls P C) ls)
        = some s.innerCommonEventManager
      ∧ ((frontMachine P S C).outputs (calls P C) ls).filter ServiceLabel.isTask
        = ((frontMachine P S C).outputs ran ls).map (fun (task, run) => task.call P run)
      ∧ ((frontMachine P S C).outputs ran ls).map Prod.fst
          ++ s.commonEventSrvQueue.map Prod.snd
        = (frontMachine P S C).outputs (submitted P) ls := by
  refine ⟨?_, ?_, ?_⟩
  · exact inner_run hs
  · rw [← List.filterMap_eq_filter, ← List.filterMap_eq_map, Machine.filterMap_outputs,
      Machine.filterMap_outputs]
    congr 1
    funext s l
    rw [List.filterMap_eq_filter, List.filterMap_eq_map, filter_calls]
  · exact queue_run hs

/-- An application. -/
def anApp : Caller := ⟨100, 20010001, 7, 0⟩

/-- It subscribes, publishes, and the two tasks run. -/
def untilPublished : List FrontLabel :=
  [.init, .subscribeCommonEvent anApp { matchingSkills := { events := ["e"] } } (some ⟨1⟩) (some 0),
    .publishCommonEvent anApp { want := { action := "e" } } {} none UNDEFINED_USER {},
    .freeze anApp 20010001, .runTask { maxSubscriberNum := 1 }, .runTask {}]

/-- The two calls that succeed come to the service in their order, and the one
that freezes does not. -/
theorem calls_in_order_untilPublished :
    ∃ s, (frontMachine {} .insertion {}).run untilPublished = some s
      ∧ ((frontMachine {} .insertion {}).outputs ran untilPublished).map Prod.fst
        = [.subscribeCommonEvent { matchingSkills := { events := ["e"] } } (some ⟨1⟩) 100
            20010001 7,
          .publishCommonEvent { want := { action := "e" } } {} none 0 100 20010001 7
            UNDEFINED_USER] := by
  obtain ⟨s, hs, hqueue⟩ := Option.map_eq_some_iff.mp
    (show ((frontMachine {} .insertion {}).run untilPublished).map
      (fun s => s.commonEventSrvQueue) = some [] by decide +kernel)
  obtain ⟨-, -, horder⟩ := calls_in_order hs
  refine ⟨s, hs, ?_⟩
  rw [hqueue, List.map_nil, List.append_nil] at horder
  rw [horder]
  decide +kernel

/-! ## Who may call -/

/-- **A call on the service was granted**: a call of the run asked for it, by
a caller that may make it, and it bears the caller's own identity. Only
foundation publishes under another one, and then without a process. -/
inductive Granted (P : FrontPlatform) (C : Config) (ls : List FrontLabel) : ServiceLabel → Prop
  | publishCommonEvent (caller : Caller) (clock : PublishClock) (args : PublishArgs)
      (env : StaticEnvironment)
      (hcall : .publishCommonEvent caller args.data args.publishInfo args.commonEventListener
        args.userId clock ∈ ls)
      (hpid : args.pid = caller.pid) (huid : args.uid = caller.uid)
      (htoken : args.callerToken = caller.tokenId)
      (hbundle : args.bundleName = P.bundleNameOf caller.tokenId caller.uid)
      (hnamed : args.userId = ALL_USER ∨ args.userId = CURRENT_USER
        ∨ args.userId = UNDEFINED_USER ∨ P.verifyNativeToken caller.tokenId = true
        ∨ P.isSystemApp caller = true)
      (hdlp : P.isDlpHap caller.tokenId = false)
      (huser : P.checkUserIdParams args.userId = ERR_OK) :
      Granted P C ls (.publishCommonEvent args env)
  | publishCommonEventAsProxy (caller : Caller) (clock : PublishClock) (args : PublishArgs)
      (env : StaticEnvironment)
      (hcall : .publishCommonEventAsProxy caller args.data args.publishInfo
        args.commonEventListener args.uid args.callerToken args.userId clock ∈ ls)
      (hfoundation : caller.uid = FOUNDATION_UID) (hpid : args.pid = UNDEFINED_PID)
      (hbundle : args.bundleName = P.bundleNameOf args.callerToken args.uid)
      (hdlp : P.isDlpHap args.callerToken = false)
      (huser : P.checkUserIdParams args.userId = ERR_OK) :
      Granted P C ls (.publishCommonEvent args env)
  | subscribeCommonEvent (caller : Caller) (recordTime : Option Int) (args : SubscribeArgs)
      (hcall : .subscribeCommonEvent caller args.subscribeInfo args.commonEventListener
        recordTime ∈ ls)
      (hpid : args.pid = caller.pid) (huid : args.uid = caller.uid)
      (htoken : args.callerToken = caller.tokenId)
      (hbundle : args.bundleName = P.bundleNameOf caller.tokenId caller.uid)
      (huser : P.checkUserIdParams args.subscribeInfo.userId = ERR_OK) :
      Granted P C ls (.subscribeCommonEvent args)
  | unsubscribeCommonEvent (caller : Caller) (listener : Option Remote)
      (hcall : .unsubscribeCommonEvent caller listener ∈ ls
        ∨ .unsubscribeCommonEventSync caller listener ∈ ls) :
      Granted P C ls (.unsubscribeCommonEvent listener)
  | finishReceiver (caller : Caller) (reply : Reply) (hcall : .finishReceiver caller reply ∈ ls) :
      Granted P C ls (.finishReceiver reply)
  | freeze (caller : Caller) (uid : Uid) (now : Int) (hcall : .freeze caller uid ∈ ls)
      (hmanager : P.isResourceManager caller = true) : Granted P C ls (.freeze uid now)
  | unfreeze (caller : Caller) (uid : Uid) (hcall : .unfreeze caller uid ∈ ls)
      (hmanager : P.isResourceManager caller = true) : Granted P C ls (.unfreeze uid)
  | unfreezeAll (caller : Caller) (hcall : .unfreezeAll caller ∈ ls)
      (hmanager : P.isResourceManager caller = true) : Granted P C ls .unfreezeAll
  | setFreezeStatus (caller : Caller) (pidList : List Pid) (isFreeze : Bool) (now : Int)
      (hcall : .setFreezeStatus caller pidList isFreeze ∈ ls)
      (hmanager : P.isResourceManager caller = true) :
      Granted P C ls (.setFreezeStatus pidList isFreeze now)
  | removeStickyCommonEvent (caller : Caller) (event : String)
      (hcall : .removeStickyCommonEvent caller event ∈ ls)
      (hsystem : P.verifyNativeToken caller.tokenId = true ∨ P.isSystemApp caller = true)
      (hpermission : P.verifyAccessToken caller.tokenId PERMISSION_STICKY = true
        ∨ (P.verifyNativeToken caller.tokenId = true ∧ C.supportCheckSaPermission ≠ "true")) :
      Granted P C ls (.removeStickyCommonEvent event caller.uid)
  | setStaticSubscriberState (caller : Caller) (events : Option (List String)) (enable : Bool)
      (hcall : .setStaticSubscriberState caller events enable ∈ ls)
      (hsystem : P.isSystemApp caller = true) :
      Granted P C ls (.setStaticSubscriberState caller.uid (P.getBundleName caller.uid) events
        enable)
  | internal (l : ServiceLabel) (hl : l.isInternal = true) : Granted P C ls l

/-- The task of a call that succeeds is granted. -/
theorem granted_of_submitted {ls : List FrontLabel} {l : FrontLabel} (hl : l ∈ ls)
    {task : SrvTask} (htask : task ∈ s.submitted P l) (run : TaskRun) :
    Granted P C ls (task.call P run) := by
  unfold submitted at htask
  split at htask
  next hok =>
    rw [Option.mem_toList] at htask
    have hmanager : ∀ caller task, s.succeeds P l = (s.submitFreezing P caller task).1 →
        P.isResourceManager caller = true := by
      intro caller task heq
      rcases s.submitFreezing_cases (P := P) caller task with hfalse | ⟨hmanager, -⟩
      · rw [heq, hfalse] at hok
        cases hok
      · exact hmanager
    cases l with
    | publishCommonEvent caller event publishinfo listener userId clock =>
      cases htask
      rw [succeeds] at hok
      rcases s.publishCommonEvent_cases (P := P) caller event publishinfo listener userId clock
        with ⟨errCode, publishManager, hcode, heq⟩ | ⟨hnamed, hdlp, huser, -⟩
      · rw [heq] at hok
        exact absurd (of_decide_eq_true hok) hcode
      · exact .publishCommonEvent caller clock _ _ hl rfl rfl rfl rfl hnamed hdlp huser
    | publishCommonEventAsProxy caller event publishinfo listener uid callerToken userId clock =>
      cases htask
      rw [succeeds] at hok
      rcases s.publishCommonEventAsProxy_cases (P := P) caller event publishinfo listener uid
        callerToken userId clock with ⟨publishManager, heq⟩ | ⟨hfoundation, hdlp, huser, -⟩
      · rw [heq] at hok
        cases hok
      · exact .publishCommonEventAsProxy caller clock _ _ hl hfoundation rfl rfl hdlp huser
    | subscribeCommonEvent caller subscribeInfo listener recordTime =>
      cases htask
      rw [succeeds] at hok
      rcases s.subscribeCommonEvent_cases (P := P) caller subscribeInfo listener recordTime with
        ⟨errCode, hcode, heq⟩ | ⟨huser, -⟩
      · rw [heq] at hok
        exact absurd (of_decide_eq_true hok) hcode
      · exact .subscribeCommonEvent caller recordTime _ hl rfl rfl rfl rfl huser
    | unsubscribeCommonEvent caller listener =>
      cases htask
      exact .unsubscribeCommonEvent caller listener (Or.inl hl)
    | unsubscribeCommonEventSync caller listener =>
      cases htask
      exact .unsubscribeCommonEvent caller listener (Or.inr hl)
    | finishReceiver caller reply =>
      cases htask
      exact .finishReceiver caller reply hl
    | freeze caller uid =>
      cases htask
      exact .freeze caller uid run.now hl (hmanager caller _ rfl)
    | unfreeze caller uid =>
      cases htask
      exact .unfreeze caller uid hl (hmanager caller _ rfl)
    | unfreezeAll caller =>
      cases htask
      exact .unfreezeAll caller hl (hmanager caller _ rfl)
    | setFreezeStatus caller pidList isFreeze =>
      cases htask
      exact .setFreezeStatus caller pidList isFreeze run.now hl (hmanager caller _ rfl)
    | _ => cases htask
  next => cases htask

/-- What `RemoveStickyCommonEvent` asks of its caller. -/
theorem checkRemoveSticky_ok {caller : Caller} (h : s.checkRemoveSticky P C caller = ERR_OK) :
    (P.verifyNativeToken caller.tokenId = true ∨ P.isSystemApp caller = true)
      ∧ (P.verifyAccessToken caller.tokenId PERMISSION_STICKY = true
        ∨ (P.verifyNativeToken caller.tokenId = true ∧ C.supportCheckSaPermission ≠ "true")) := by
  unfold checkRemoveSticky at h
  dsimp only at h
  split at h
  · cases h
  split at h
  · cases h
  next hsystem =>
    split at h
    · cases h
    next hpermission =>
      simp only [Bool.and_eq_true, Bool.or_eq_true, Bool.not_eq_true', decide_eq_true_eq, not_and,
        not_or, Bool.not_eq_false] at hsystem hpermission
      refine ⟨?_, ?_⟩
      · cases hnative : P.verifyNativeToken caller.tokenId with
        | true => exact Or.inl rfl
        | false => exact Or.inr (hsystem hnative)
      · cases hverify : P.verifyAccessToken caller.tokenId PERMISSION_STICKY with
        | true => exact Or.inl rfl
        | false => exact Or.inr (hpermission hverify)

/-- The call of a step that goes past the queue is granted. -/
theorem granted_of_direct {ls : List FrontLabel} {l : FrontLabel} (hl : l ∈ ls)
    {label : ServiceLabel} (hlabel : label ∈ s.direct P C l) : Granted P C ls label := by
  cases l with
  | removeStickyCommonEvent caller event =>
    unfold direct at hlabel
    dsimp only at hlabel
    split at hlabel
    · cases hlabel
    next hcheck =>
      rw [List.mem_singleton.mp hlabel]
      obtain ⟨hsystem, hpermission⟩ := checkRemoveSticky_ok (not_not.mp hcheck)
      exact .removeStickyCommonEvent caller event hl hsystem hpermission
  | setStaticSubscriberState caller events enable =>
    unfold direct at hlabel
    dsimp only at hlabel
    split at hlabel
    · cases hlabel
    next hsystem =>
      rw [List.mem_singleton.mp hlabel]
      exact .setStaticSubscriberState caller events enable hl (by simpa using hsystem)
  | internal l =>
    unfold direct at hlabel
    dsimp only at hlabel
    split at hlabel
    next hinternal =>
      rw [List.mem_singleton.mp hlabel]
      exact .internal l hinternal
    next => cases hlabel
  | _ => cases hlabel

/-- A call that comes to the service was granted. -/
theorem granted_of_outputs {ls : List FrontLabel} (hs : (frontMachine P S C).run ls = some s)
    {label : ServiceLabel} (hlabel : label ∈ (frontMachine P S C).outputs (calls P C) ls) :
    Granted P C ls label := by
  obtain ⟨pre, l, post, t, rfl, hpre, hcalls⟩ := Machine.mem_outputs hs hlabel
  rcases List.mem_append.mp hcalls with hran | hdirect
  · -- the task waited, so a call before has submitted it
    obtain ⟨⟨task, run⟩, hrun, rfl⟩ := List.mem_map.mp hran
    have hwaits : task ∈ t.commonEventSrvQueue.map Prod.snd := by
      unfold ran at hrun
      split at hrun
      · obtain ⟨entry, hentry, heq⟩ := Option.map_eq_some_iff.mp (Option.mem_toList.mp hrun)
        obtain ⟨rfl, -⟩ := Prod.mk.inj heq
        exact List.mem_map_of_mem (List.mem_of_head? hentry)
      · cases hrun
    have hsubmitted : task ∈ (frontMachine P S C).outputs (submitted P) pre := by
      rw [← queue_run hpre]
      exact List.mem_append_right _ hwaits
    obtain ⟨pre', l', post', u, rfl, -, htask⟩ := Machine.mem_outputs hpre hsubmitted
    exact granted_of_submitted (by simp) htask run
  · exact granted_of_direct (by simp) hdirect

/-- **Nothing is called that was not granted.** In every run of the front,
whatever comes to the service was asked for by a call of the run, and its
caller could make it. -/
theorem calls_granted {ls : List FrontLabel} (hs : (frontMachine P S C).run ls = some s) :
    ∀ label ∈ (frontMachine P S C).outputs (calls P C) ls, Granted P C ls label := by
  intro label hlabel
  exact granted_of_outputs hs hlabel

/-- So it is of the application's run. -/
theorem calls_granted_untilPublished :
    ∃ s, (frontMachine {} .insertion {}).run untilPublished = some s
      ∧ ∀ label ∈ (frontMachine {} .insertion {}).outputs (calls {} {}) untilPublished,
        Granted {} {} untilPublished label := by
  obtain ⟨s, hs, -⟩ := Option.map_eq_some_iff.mp
    (show ((frontMachine {} .insertion {}).run untilPublished).map
      (fun s => s.commonEventSrvQueue) = some [] by decide +kernel)
  exact ⟨s, hs, calls_granted hs⟩

end ServiceFront

end CommonEventService

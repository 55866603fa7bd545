import CommonEventService.Lib.FairQueue
import CommonEventService.Recipients

/-!
# What is submitted is visited

An unordered event goes to its receivers one after another, in a task of one
of two serial queues, and an event that was kept for a frozen subscriber is a
task of its own. To *visit* a receiver is to notify it, or to keep the event
for it if it is frozen.

A task does not visit at every step: it has insertions to make for a receiver
that is frozen, and it ends. So the two queues are looked at as queues of
visits, which are what the tasks have left to do, and the steps before the
next visit are their rank.
-/

namespace CommonEventService

variable {δ π : Type}

/-- **A visit**: a task comes to a receiver, or is the redelivery of an event
that was kept. -/
inductive Visit (δ π : Type) where
  | receiver (eventRecord : CommonEventRecord δ π) (vec : SubscriberRecordPtr)
  | redelivery (subscriberRecord : EventSubscriberRecord)
      (eventRecord : CommonEventRecord (Buffered δ) π)

/-! ## The visits of a task -/

namespace UnorderedTask

/-- **The visits a task has left to make.** -/
def visits : UnorderedTask δ π → List (Visit δ π)
  | .notifyUnorderedEvent _ eventRecord receivers => receivers.map (.receiver eventRecord)
  | .handleFrozenUnorderedSubscriber _ insertion receivers =>
    receivers.map (.receiver insertion.eventRecord)
  | .notifyFreezeEvents subscriberRecord eventRecord => [.redelivery subscriberRecord eventRecord]

/-- The visit that the next step of a task makes, if it makes one. -/
def visited : UnorderedTask δ π → List (Visit δ π)
  | .notifyUnorderedEvent _ eventRecord (vec :: _) => [.receiver eventRecord vec]
  | .notifyFreezeEvents subscriberRecord eventRecord => [.redelivery subscriberRecord eventRecord]
  | _ => []

/-- A receiver that is visited and not frozen is notified. -/
theorem notifies_of_visited {m : SubscriberManager (Buffered δ) π} {task : UnorderedTask δ π}
    {event : CommonEventRecord δ π} {vec : SubscriberRecordPtr}
    (h : .receiver event vec ∈ task.visited) (hfreeze : (m.heap vec).isFreeze = false) :
    (m.listenerOf vec, event.fillCommonEventRecord) ∈ task.notifies m := by
  cases task with
  | notifyUnorderedEvent record eventRecord receivers =>
    cases receivers with
    | nil => cases h
    | cons first receivers =>
      cases List.mem_singleton.mp h
      rw [notifies, hfreeze]
      exact List.mem_singleton_self _
  | handleFrozenUnorderedSubscriber record insertion receivers => cases h
  | notifyFreezeEvents subscriberRecord eventRecord => cases List.mem_singleton.mp h

/-- The steps of a task before its next visit, or its end. -/
def idle : UnorderedTask δ π → ℕ
  | .notifyUnorderedEvent _ _ receivers => if receivers = [] then 1 else 0
  | .handleFrozenUnorderedSubscriber _ insertion receivers =>
    (if insertion.buffering = none then 2 else 1) + if receivers = [] then 1 else 0
  | .notifyFreezeEvents _ _ => 0

/-- The steps of a queue before its next visit. -/
def rank : List (UnorderedTask δ π) → ℕ
  | [] => 0
  | task :: rest => task.idle + if task.visits = [] then rank rest else 0

/-- What comes to the end of a queue does not delay the next visit. -/
theorem rank_append {tasks : List (UnorderedTask δ π)} (new : List (UnorderedTask δ π))
    (h : tasks.flatMap visits ≠ []) : rank (tasks ++ new) = rank tasks := by
  induction tasks with
  | nil => exact absurd rfl h
  | cons task rest ih =>
    rw [List.cons_append, rank, rank]
    split
    next hnone =>
      rw [List.flatMap_cons, hnone, List.nil_append] at h
      rw [ih h]
    next => rfl

end UnorderedTask

namespace UnorderedDelivery

variable {s t : UnorderedDelivery δ π}

/-- **A step makes one of the visits of its task**, or none, and leaves the
others. -/
theorem visits_stepTask (task : UnorderedTask δ π) :
    task.visited ++ (s.stepTask task).2.toList.flatMap UnorderedTask.visits = task.visits := by
  cases task with
  | notifyUnorderedEvent record eventRecord receivers =>
    cases receivers with
    | nil => rfl
    | cons vec receivers =>
      rw [stepTask]
      split
      all_goals simp [UnorderedTask.visited, UnorderedTask.visits]
  | handleFrozenUnorderedSubscriber record insertion receivers =>
    obtain ⟨eventRecord, subscriber, buffering⟩ := insertion
    -- after either insertion the receivers are those that were left
    cases buffering with
    | none => exact List.append_nil _
    | some buffering => exact List.append_nil _
  | notifyFreezeEvents subscriberRecord eventRecord => rfl

/-- A step that visits nobody comes closer to the next visit. -/
theorem rank_stepTask {task : UnorderedTask δ π} (h : task.visited = [])
    (rest : List (UnorderedTask δ π)) :
    UnorderedTask.rank ((s.stepTask task).2.toList ++ rest)
      < UnorderedTask.rank (task :: rest) := by
  cases task with
  | notifyUnorderedEvent record eventRecord receivers =>
    cases receivers with
    | nil =>
      show UnorderedTask.rank rest < 1 + UnorderedTask.rank rest
      omega
    | cons vec receivers => cases h
  | handleFrozenUnorderedSubscriber record insertion receivers =>
    obtain ⟨eventRecord, subscriber, buffering⟩ := insertion
    cases buffering with
    | none => exact Nat.add_lt_add_right (Nat.add_lt_add_right Nat.one_lt_two _) _
    | some buffering =>
      refine Nat.add_lt_add_right ?_ _
      show (if receivers = [] then 1 else 0) < 1 + if receivers = [] then 1 else 0
      omega
  | notifyFreezeEvents subscriberRecord eventRecord => cases h

/-! ## The two queues -/

/-- The tasks of `unorderedImmediateQueue_`, or of `unorderedQueue_`. -/
def tasks (immediate : Bool) (s : UnorderedDelivery δ π) : List (UnorderedTask δ π) :=
  if immediate then s.unorderedImmediateQueue else s.unorderedQueue

/-- The visits that a queue has left to make. -/
def toVisit (immediate : Bool) (s : UnorderedDelivery δ π) : List (Visit δ π) :=
  (s.tasks immediate).flatMap UnorderedTask.visits

/-- Tasks come to the end of a queue. -/
def Submits (immediate : Bool) (s t : UnorderedDelivery δ π) (submitted : List (Visit δ π)) :
    Prop :=
  ∃ new, t.tasks immediate = s.tasks immediate ++ new
    ∧ submitted = new.flatMap UnorderedTask.visits

theorem Submits.nothing {immediate : Bool} (h : t.tasks immediate = s.tasks immediate) :
    Submits immediate s t [] :=
  ⟨[], by rw [h, List.append_nil], rfl⟩

theorem Submits.trans {immediate : Bool} {u : UnorderedDelivery δ π} {first later : List _}
    (h : Submits immediate s t first) (h' : Submits immediate t u later) :
    Submits immediate s u (first ++ later) := by
  obtain ⟨new, htasks, rfl⟩ := h
  obtain ⟨new', htasks', rfl⟩ := h'
  exact ⟨new ++ new', by rw [htasks', htasks, List.append_assoc], List.flatMap_append.symm⟩

/-- **What happens to a queue at a step**: it is served, so its first task
makes a step; or tasks come to its end. -/
inductive TaskStep (immediate : Bool) (s t : UnorderedDelivery δ π)
    (visited submitted : List (Visit δ π)) (served : Bool) : Prop
  | serves (task : UnorderedTask δ π) (rest : List (UnorderedTask δ π))
      (htasks : s.tasks immediate = task :: rest)
      (hrest : t.tasks immediate = (s.stepTask task).2.toList ++ rest)
      (hmanager : t.manager = (s.stepTask task).1.manager)
      (hvisited : visited = task.visited) (hsubmitted : submitted = [])
      (hserved : served = true)
  | submits (hsubmits : Submits immediate s t submitted) (hvisited : visited = [])
      (hserved : served = false)

namespace TaskStep

variable {immediate served : Bool} {visited submitted : List (Visit δ π)}

/-- **First in, first out.** -/
theorem law (h : TaskStep immediate s t visited submitted served) :
    visited ++ t.toVisit immediate = s.toVisit immediate ++ submitted := by
  unfold toVisit
  cases h with
  | serves task rest htasks hrest hmanager hvisited hsubmitted =>
    rw [htasks, hrest, hvisited, hsubmitted, List.flatMap_append, ← List.append_assoc,
      visits_stepTask, List.append_nil, List.flatMap_cons]
  | submits hsubmits hvisited =>
    obtain ⟨new, htasks, hsubmitted⟩ := hsubmits
    rw [htasks, hvisited, hsubmitted, List.flatMap_append, List.nil_append]

/-- To serve the queue is to visit somebody or to come closer to it, and no
other step delays it. -/
theorem closer (h : TaskStep immediate s t visited submitted served)
    (hwaits : s.toVisit immediate ≠ []) :
    visited ≠ [] ∨ (UnorderedTask.rank (t.tasks immediate)
        ≤ UnorderedTask.rank (s.tasks immediate)
      ∧ (served = true → UnorderedTask.rank (t.tasks immediate)
        < UnorderedTask.rank (s.tasks immediate))) := by
  cases h with
  | serves task rest htasks hrest hmanager hvisited =>
    by_cases hnone : task.visited = []
    · have hlt := rank_stepTask (s := s) hnone rest
      rw [← hrest, ← htasks] at hlt
      exact Or.inr ⟨Nat.le_of_lt hlt, fun _ => hlt⟩
    · exact Or.inl (hvisited ▸ hnone)
  | submits hsubmits hvisited hserved =>
    obtain ⟨new, htasks, -⟩ := hsubmits
    refine Or.inr ⟨?_, fun h => absurd (hserved.symm.trans h) Bool.false_ne_true⟩
    rw [htasks, UnorderedTask.rank_append new hwaits]

/-- The first task stays where it is until the queue is served. -/
theorem stays (h : TaskStep immediate s t visited submitted served) (hnot : ¬ served = true)
    {task : UnorderedTask δ π} (hfirst : (s.tasks immediate).head? = some task) :
    (t.tasks immediate).head? = some task := by
  cases h with
  | serves first rest htasks hrest hmanager hvisited hsubmitted hserved => exact absurd hserved hnot
  | submits hsubmits hvisited hserved =>
    obtain ⟨new, htasks, -⟩ := hsubmits
    rw [htasks, List.head?_append, hfirst]
    rfl

/-- **Who is visited and is frozen** has the event kept for it next. -/
theorem frozen (h : TaskStep immediate s t visited submitted served)
    {event : CommonEventRecord δ π} {vec : SubscriberRecordPtr}
    (hvisit : .receiver event vec ∈ visited) (hfreeze : (s.manager.heap vec).isFreeze = true) :
    ∃ record receivers, (t.tasks immediate).head?
      = some (.handleFrozenUnorderedSubscriber record ⟨event, vec, none⟩ receivers) := by
  cases h with
  | submits hsubmits hvisited hserved =>
    rw [hvisited] at hvisit
    cases hvisit
  | serves task rest htasks hrest hmanager hvisited hsubmitted hserved =>
    rw [hvisited] at hvisit
    cases task with
    | notifyUnorderedEvent record eventRecord receivers =>
      cases receivers with
      | nil => cases hvisit
      | cons first receivers =>
        cases List.mem_singleton.mp hvisit
        refine ⟨record, receivers, ?_⟩
        rw [hrest, stepTask, hfreeze]
        rfl
    | handleFrozenUnorderedSubscriber record insertion receivers => cases hvisit
    | notifyFreezeEvents subscriberRecord eventRecord => cases List.mem_singleton.mp hvisit

/-- **The next insertion is made** when the queue is served, and the one after
it is next then. -/
theorem inserts (h : TaskStep immediate s t visited submitted served) (hserved : served = true)
    {record : ℕ} {insertion : FrozenInsertion δ π} {receivers : List SubscriberRecordPtr}
    (hfirst : (s.tasks immediate).head?
      = some (.handleFrozenUnorderedSubscriber record insertion receivers)) :
    t.manager = (s.stepInsertion insertion).1.manager
      ∧ ∀ next, (s.stepInsertion insertion).2 = some next → (t.tasks immediate).head?
        = some (.handleFrozenUnorderedSubscriber record next receivers) := by
  cases h with
  | submits hsubmits hvisited hnot => exact absurd (hnot.symm.trans hserved) Bool.false_ne_true
  | serves task rest htasks hrest hmanager =>
    rw [htasks, List.head?_cons] at hfirst
    obtain rfl := Option.some.inj hfirst
    refine ⟨hmanager, fun next hnext => ?_⟩
    rw [hrest, stepTask]
    dsimp only
    rw [hnext]
    rfl

end TaskStep

/-! ## What is kept for a receiver -/

/-- The events kept for a subscriber under the uid of its record. -/
def keptForUid (s : UnorderedDelivery δ π) (vec : SubscriberRecordPtr) :
    List (CommonEventRecord (Buffered δ) π) :=
  s.manager.frozenEvents.keptFor (s.manager.heap vec).eventRecordInfo.uid
    (s.manager.heap vec).commonEventListener

/-- The events kept for a subscriber under the pid of its record. -/
def keptForPid (s : UnorderedDelivery δ π) (vec : SubscriberRecordPtr) :
    List (CommonEventRecord (Buffered δ) π) :=
  s.manager.frozenEventsMap.keptFor (s.manager.heap vec).eventRecordInfo.pid
    (s.manager.heap vec).commonEventListener

theorem mem_keptForUid {event : CommonEventRecord δ π} {vec : SubscriberRecordPtr}
    (h : t.manager = (s.stepInsertion ⟨event, vec, none⟩).1.manager) :
    event.buffered s.nextBuffering ∈ t.keptForUid vec := by
  unfold keptForUid
  rw [h]
  exact s.manager.frozenEvents.mem_keptFor_insert _ (s.manager.heap vec) _

theorem mem_keptForPid {event : CommonEventRecord δ π} {vec : SubscriberRecordPtr} {buffering : ℕ}
    (h : t.manager = (s.stepInsertion ⟨event, vec, some buffering⟩).1.manager) :
    event.buffered buffering ∈ t.keptForPid vec := by
  unfold keptForPid
  rw [h]
  exact s.manager.frozenEventsMap.mem_keptFor_insert _ (s.manager.heap vec) _

/-! ## What the steps submit -/

/-- The redeliveries of a part of a buffer. -/
def redeliveries (frozenRecords : FrozenRecords (Buffered δ) π) : List (Visit δ π) :=
  (frozenTasks frozenRecords).map (fun task => .redelivery task.1 task.2)

/-- What the next step of an unfreezing call submits. -/
def submitsCall (s : UnorderedDelivery δ π) : UnfreezeCall → List (Visit δ π)
  | .getFrozenEvents uid => redeliveries (s.manager.getFrozenEvents uid).1
  | .getFrozenEventsMapByPid [] => []
  | .getFrozenEventsMapByPid (pid :: _) =>
    redeliveries (s.manager.getFrozenEventsMapByPid pid).1
  | .getAllFrozenEvents =>
    s.manager.getAllFrozenEvents.entries.flatMap (fun entry => redeliveries entry.2)
  | .getAllFrozenEventsMap =>
    s.manager.getAllFrozenEventsMap.entries.flatMap (fun entry => redeliveries entry.2)

/-- What is redelivered goes to the immediate queue. -/
theorem submits_publishFrozenEventsInner (immediate : Bool) (kind : UnfreezeKind)
    (frozenRecords : FrozenRecords (Buffered δ) π) :
    Submits immediate s (s.publishFrozenEventsInner kind frozenRecords)
      (if immediate then redeliveries frozenRecords else []) := by
  cases immediate with
  | false => exact .nothing rfl
  | true =>
    refine ⟨_, rfl, ?_⟩
    rw [if_pos rfl, List.flatMap_map]
    exact List.map_eq_flatMap

theorem submits_publishAllFrozenEvents {κ : Type} (immediate : Bool)
    (buffer : FrozenBuffer κ (Buffered δ) π) :
    Submits immediate s (s.publishAllFrozenEvents buffer)
      (if immediate then buffer.entries.flatMap (fun entry => redeliveries entry.2) else []) := by
  unfold publishAllFrozenEvents
  generalize buffer.entries = entries
  induction entries generalizing s with
  | nil =>
    rw [List.flatMap_nil, ite_self]
    exact .nothing rfl
  | cons entry entries ih =>
    have hfirst := s.submits_publishFrozenEventsInner immediate .all entry.2
    have hall := hfirst.trans ih
    cases immediate with
    | false => exact hall
    | true => exact hall

/-- **What an unfreezing call submits.** -/
theorem submits_stepCall (immediate : Bool) (i : ℕ) (call : UnfreezeCall) :
    Submits immediate s (s.stepCall i call) (if immediate then s.submitsCall call else []) := by
  cases call with
  | getFrozenEvents uid =>
    exact submits_publishFrozenEventsInner immediate .uid (s.manager.getFrozenEvents uid).1
  | getFrozenEventsMapByPid pidList =>
    cases pidList with
    | nil =>
      rw [submitsCall, ite_self]
      exact .nothing (by cases immediate <;> rfl)
    | cons pid pidList =>
      exact submits_publishFrozenEventsInner immediate .pid
        (s.manager.getFrozenEventsMapByPid pid).1
  | getAllFrozenEvents =>
    exact submits_publishAllFrozenEvents immediate s.manager.getAllFrozenEvents
  | getAllFrozenEventsMap =>
    exact submits_publishAllFrozenEvents immediate s.manager.getAllFrozenEventsMap

/-- **What `ProcessUnorderedEvent` submits**: the visits to its receivers, to
the queue of the system's events or to the other. -/
theorem submits_processUnorderedEvent {P : Platform} (immediate : Bool)
    (eventRecord : CommonEventRecord δ π) (view : EventRecord)
    (subscriberRecord : Option SubscriberRecordPtr) :
    Submits immediate s (s.processUnorderedEvent P eventRecord view subscriberRecord)
      (if eventRecord.isSystemEvent = immediate then
        (subscriberRecord.elim (s.manager.getSubscriberRecords P view).1 (fun r => [r])).map
          (.receiver eventRecord.fillCommonEventRecord)
      else []) := by
  have htasks : (s.processUnorderedEvent P eventRecord view subscriberRecord).tasks immediate
      = s.tasks immediate ++ if eventRecord.isSystemEvent = immediate then
          [.notifyUnorderedEvent s.nextRecord eventRecord.fillCommonEventRecord
            (subscriberRecord.elim (s.manager.getSubscriberRecords P view).1 (fun r => [r]))]
        else [] := by
    unfold processUnorderedEvent tasks
    dsimp only
    cases immediate <;> cases eventRecord.isSystemEvent <;> cases subscriberRecord <;> simp
  refine ⟨_, htasks, ?_⟩
  split
  · rw [List.flatMap_singleton]
    rfl
  · rfl

/-- What is submitted for one subscriber, record by record. -/
theorem submits_replay {P : Platform} (immediate : Bool) (r : SubscriberRecordPtr)
    (view : CommonEventRecord δ π → EventRecord) (records : List (CommonEventRecord δ π)) :
    Submits immediate s
      (records.foldl (fun delivery record =>
        delivery.processUnorderedEvent P record (view record) (some r)) s)
      ((records.filter (fun record => record.isSystemEvent = immediate)).map
        (fun record => .receiver record.fillCommonEventRecord r)) := by
  induction records generalizing s with
  | nil => exact .nothing rfl
  | cons record records ih =>
    have hall := (submits_processUnorderedEvent (P := P) (s := s) immediate record (view record)
      (some r)).trans ih
    rw [List.foldl_cons]
    by_cases hqueue : record.isSystemEvent = immediate
    · rw [List.filter_cons_of_pos (by simpa using hqueue), List.map_cons]
      rw [if_pos hqueue] at hall
      exact hall
    · rw [List.filter_cons_of_neg (by simpa using hqueue)]
      rw [if_neg hqueue] at hall
      exact hall

end UnorderedDelivery

/-! ## The service -/

/-- Whether a step of the service serves a queue. -/
def ServiceLabel.serves (immediate : Bool) : ServiceLabel → Bool
  | .unordered => !immediate
  | .unorderedImmediate => immediate
  | _ => false

namespace InnerCommonEventManager

variable {P : Platform} {S : StdSort} {C : Config} {s t : InnerCommonEventManager}

/-- **The record of a publish that comes to `ProcessUnorderedEvent`**, and what
its pointers point to. The publish passes all checks, and it is not ordered. -/
def unorderedRecord (P : Platform) (C : Config) (s : InnerCommonEventManager)
    (args : PublishArgs) : Option (CommonEventRecord CellId CellId × EventRecord) :=
  (checkPublish P C args).bind fun (comeFrom, user) =>
    if args.publishInfo.sticky && !isStickyAllowed P (publisherInfo args comeFrom) then none
    else if !C.hasControl then none
    else if args.publishInfo.ordered then none
    else
      some (s.eventRecordOf P args comeFrom user,
        { s.eventRecordOf P args comeFrom user with
          commonEventData := args.data
          publishInfo := args.publishInfo })

/-- **The visits that a step submits to a queue**: to the receivers of an
event that is published, to a new subscriber for each event that is replayed
to it, and the redeliveries of an unfreezing call. -/
def submits (P : Platform) (S : StdSort) (C : Config) (immediate : Bool)
    (s : InnerCommonEventManager) : ServiceLabel → List (Visit CellId CellId)
  | .publishCommonEvent args _ =>
    (s.unorderedRecord P C args).elim [] fun (eventRecord, view) =>
      if eventRecord.isSystemEvent = immediate then
        (s.delivery.manager.getSubscriberRecords P view).1.map
          (.receiver eventRecord.fillCommonEventRecord)
      else []
  | .subscribeCommonEvent args =>
    (checkSubscribe P C args).elim [] fun (info, recordInfo) =>
      (s.insertSubscriber S args info recordInfo).1.elim [] fun r =>
        (((s.insertSubscriber S args info recordInfo).2.replayed C info r).filter
            (fun record => record.isSystemEvent = immediate)).map
          (fun record => .receiver record.fillCommonEventRecord r)
  | .call i =>
    if immediate then s.delivery.calls[i]?.elim [] s.delivery.submitsCall else []
  | _ => []

/-- **The visit that a step makes.** -/
def visits (immediate : Bool) (s : InnerCommonEventManager) (l : ServiceLabel) :
    List (Visit CellId CellId) :=
  if l.serves immediate then (s.delivery.tasks immediate).head?.elim [] UnorderedTask.visited
  else []

/-- A publish submits its receivers. -/
theorem submits_publishCommonEvent (immediate : Bool) (args : PublishArgs)
    (env : StaticEnvironment) :
    UnorderedDelivery.Submits immediate s.delivery
      (s.publishCommonEvent P S C args env).2.delivery
      (s.submits P S C immediate (.publishCommonEvent args env)) := by
  unfold submits unorderedRecord
  dsimp only
  rcases publishCommonEvent_cases (P := P) (S := S) (C := C) s args env with ⟨hcheck, heq⟩ |
    ⟨comeFrom, user, hcheck, ⟨hsticky, heq⟩ | ⟨hsticky, u, rfl, ⟨hcontrol, heq⟩ |
      ⟨hcontrol, heq⟩⟩⟩
  all_goals rw [heq, hcheck]
  · exact .nothing rfl
  · rw [Option.bind_some, if_pos hsticky]
    exact .nothing rfl
  · rw [Option.bind_some, hsticky, hcontrol]
    exact .nothing rfl
  · rw [Option.bind_some, hsticky, hcontrol, if_neg Bool.false_ne_true]
    unfold controlPublishCommonEvent
    dsimp only
    cases hordered : args.publishInfo.ordered with
    | true => exact .nothing rfl
    | false =>
      exact UnorderedDelivery.submits_processUnorderedEvent immediate _ _ none

/-- A subscription submits what is replayed to it. -/
theorem submits_subscribeCommonEvent (immediate : Bool) (args : SubscribeArgs) :
    UnorderedDelivery.Submits immediate s.delivery (s.subscribeCommonEvent P S C args).delivery
      (s.submits P S C immediate (.subscribeCommonEvent args)) := by
  unfold submits subscribeCommonEvent
  dsimp only
  cases checkSubscribe P C args with
  | none => exact .nothing rfl
  | some checked =>
    obtain ⟨info, recordInfo⟩ := checked
    rw [Option.elim_some]
    dsimp only
    cases hr : (s.insertSubscriber S args info recordInfo).1 with
    | none => exact .nothing rfl
    | some r =>
      rw [delivery_publishStickyEvent, Option.elim_some]
      exact (UnorderedDelivery.Submits.nothing rfl).trans
        (UnorderedDelivery.submits_replay (P := P) immediate r
          (s.insertSubscriber S args info recordInfo).2.view _)

/-- **What every step of the service does to a queue.** -/
theorem taskStep {l : ServiceLabel} (immediate : Bool) (hstep : s.step P S C l = some t) :
    UnorderedDelivery.TaskStep immediate s.delivery t.delivery (s.visits immediate l)
      (s.submits P S C immediate l) (l.serves immediate) := by
  cases l with
  | publishCommonEvent args env =>
    cases hstep
    exact .submits (submits_publishCommonEvent immediate args env) rfl rfl
  | subscribeCommonEvent args =>
    cases hstep
    exact .submits (submits_subscribeCommonEvent immediate args) rfl rfl
  | unsubscribeCommonEvent listener =>
    cases hstep
    refine .submits (.nothing ?_) rfl rfl
    unfold unsubscribeCommonEvent
    split <;> rfl
  | finishReceiver reply =>
    cases hstep
    refine .submits (.nothing ?_) rfl rfl
    unfold finishReceiver
    split <;> rfl
  | removeStickyCommonEvent event callerUid =>
    cases hstep
    exact .submits (.nothing rfl) rfl rfl
  | setStaticSubscriberState callingUid bundleName events enable =>
    cases hstep
    refine .submits (.nothing ?_) rfl rfl
    unfold setStaticSubscriberState
    split <;> rfl
  | freeze uid now =>
    cases hstep
    exact .submits (.nothing rfl) rfl rfl
  | unfreeze uid =>
    cases hstep
    refine .submits (.nothing ?_) rfl rfl
    unfold unfreeze release
    split <;> rfl
  | setFreezeStatus pidList isFreeze now =>
    cases hstep
    refine .submits (.nothing ?_) rfl rfl
    unfold setFreezeStatus release
    split <;> rfl
  | unfreezeAll =>
    cases hstep
    refine .submits (.nothing ?_) rfl rfl
    unfold unfreezeAll release
    split <;> rfl
  | onRemoteDied remote =>
    cases hstep
    exact .submits (.nothing rfl) rfl rfl
  | control l =>
    refine .submits (.nothing ?_) rfl rfl
    rcases controlStep_cases hstep with
      ⟨-, control, -, -, -, rfl | ⟨sp, receiver, -, delivery, hnotify, rfl⟩⟩ |
      ⟨-, -, delivery, -, -, hnotify, rfl⟩
    · rfl
    · obtain ⟨-, -, rfl⟩ := UnorderedDelivery.notifyOrderedEvent_cases hnotify
      rfl
    · obtain ⟨insertion, -, rfl⟩ := UnorderedDelivery.notifyFrozenSubscriber_cases hnotify
      obtain ⟨hunordered, himmediate, -⟩ :=
        UnorderedDelivery.stepInsertion_frame (s := s.delivery) insertion
      cases immediate with
      | false => exact hunordered
      | true => exact himmediate
  | unordered =>
    obtain ⟨delivery, hqueue, rfl⟩ := Option.map_eq_some_iff.mp hstep
    obtain ⟨task, rest, htasks, rfl⟩ := UnorderedDelivery.unordered_cases hqueue
    cases immediate with
    | true =>
      exact .submits (.nothing (UnorderedDelivery.stepTask_frame task).2.1) rfl rfl
    | false =>
      refine .serves task rest htasks rfl rfl ?_ rfl rfl
      show (s.delivery.unorderedQueue.head?.elim [] UnorderedTask.visited) = task.visited
      rw [htasks]
      rfl
  | unorderedImmediate =>
    obtain ⟨delivery, hqueue, rfl⟩ := Option.map_eq_some_iff.mp hstep
    obtain ⟨task, rest, htasks, rfl⟩ := UnorderedDelivery.unorderedImmediate_cases hqueue
    cases immediate with
    | false =>
      exact .submits (.nothing (UnorderedDelivery.stepTask_frame task).1) rfl rfl
    | true =>
      refine .serves task rest htasks rfl rfl ?_ rfl rfl
      show (s.delivery.unorderedImmediateQueue.head?.elim [] UnorderedTask.visited)
        = task.visited
      rw [htasks]
      rfl
  | call i =>
    obtain ⟨delivery, hdelivery, rfl⟩ := Option.map_eq_some_iff.mp hstep
    obtain ⟨call, hcall, rfl⟩ := Option.map_eq_some_iff.mp hdelivery
    refine .submits ?_ rfl rfl
    rw [submits, hcall]
    exact UnorderedDelivery.submits_stepCall immediate i call

end InnerCommonEventManager

/-! ## The front -/

/-- Whether a step of the front serves a queue of unordered delivery. -/
def FrontLabel.serves (immediate : Bool) : FrontLabel → Bool
  | .internal l => l.serves immediate
  | _ => false

/-- Whether a step of the front serves its own queue. -/
def FrontLabel.isRunTask : FrontLabel → Bool
  | .runTask _ => true
  | _ => false

namespace ServiceFront

variable {P : FrontPlatform} {S : StdSort} {C : Config} {s t : ServiceFront}

/-- The visits that a queue of the service has left to make. -/
def toVisit (immediate : Bool) (s : ServiceFront) : List (Visit CellId CellId) :=
  s.innerCommonEventManager.delivery.toVisit immediate

/-- The visits that a step of the front submits to a queue. -/
def submits (P : FrontPlatform) (S : StdSort) (C : Config) (immediate : Bool) (s : ServiceFront)
    (l : FrontLabel) : List (Visit CellId CellId) :=
  (s.calls P C l).flatMap (s.innerCommonEventManager.submits P.toPlatform S C immediate)

/-- The visits that a step of the front makes. -/
def visits (P : FrontPlatform) (C : Config) (immediate : Bool) (s : ServiceFront)
    (l : FrontLabel) : List (Visit CellId CellId) :=
  (s.calls P C l).flatMap (s.innerCommonEventManager.visits immediate)

/-- A step serves a queue if it calls what serves it. -/
theorem any_calls (immediate : Bool) (l : FrontLabel) :
    (s.calls P C l).any (ServiceLabel.serves immediate) = l.serves immediate := by
  unfold calls
  rw [List.any_append]
  refine (congrArg₂ or (List.any_eq_false.mpr fun label hlabel => ?_)
    (show _ = l.serves immediate from ?_)).trans (Bool.false_or _)
  · obtain ⟨⟨task, run⟩, -, rfl⟩ := List.mem_map.mp hlabel
    cases task with
    | _ => exact Bool.false_ne_true
  · cases l with
    | removeStickyCommonEvent caller event =>
      rw [direct]
      split <;> rfl
    | setStaticSubscriberState caller events enable =>
      rw [direct]
      split <;> rfl
    | internal label =>
      rw [direct]
      split
      next => exact Bool.or_false _
      next hinternal =>
        -- what serves a queue is the part of no call
        cases label with
        | unordered | unorderedImmediate => exact absurd rfl hinternal
        | _ => rfl
    | _ => rfl

/-- **What every step of the front does to a queue.** -/
theorem taskStep {l : FrontLabel} (immediate : Bool) (hstep : s.step P S C l = some t) :
    UnorderedDelivery.TaskStep immediate s.innerCommonEventManager.delivery
      t.innerCommonEventManager.delivery (s.visits P C immediate l)
      (s.submits P S C immediate l) (l.serves immediate) := by
  unfold visits submits
  rw [← s.any_calls (P := P) (C := C)]
  rcases calls_cases hstep with ⟨hcalls, hinner⟩ | ⟨label, hcalls, hinner⟩
  · rw [hcalls, hinner]
    exact .submits (.nothing rfl) rfl rfl
  · rw [hcalls, List.flatMap_singleton, List.flatMap_singleton]
    have hcalled := InnerCommonEventManager.taskStep immediate hinner
    rw [← Bool.or_false (label.serves immediate)] at hcalled
    exact hcalled

/-! ## In order, each once -/

variable (P S C) in
/-- **The visits of a queue are made first in, first out.** -/
theorem fifoQueue_toVisit (immediate : Bool) :
    (frontMachine P S C).FifoQueue (toVisit immediate) (submits P S C immediate)
      (visits P C immediate) where
  init := by cases immediate <;> rfl
  step _ _ _ hstep := (taskStep immediate hstep).law

variable (P S C) in
/-- A step of a queue makes its next visit, or comes closer to it. -/
theorem serves_toVisit (immediate : Bool) :
    (frontMachine P S C).Serves (toVisit immediate) (visits P C immediate)
      (fun s => UnorderedTask.rank (s.innerCommonEventManager.delivery.tasks immediate))
      (fun l => l.serves immediate) where
  step _ _ _ hstep hwaits := (taskStep immediate hstep).closer hwaits

variable (P S C) in
/-- So are the tasks of the front's own queue, which a step of it runs. -/
theorem fifoQueue_commonEventSrvQueue :
    (frontMachine P S C).FifoQueue (fun s => s.commonEventSrvQueue.map Prod.snd) (submitted P)
      (fun s l => (s.ran l).map Prod.fst) where
  init := rfl
  step _ _ _ hstep := queue_step hstep

variable (P S C) in
theorem serves_commonEventSrvQueue :
    (frontMachine P S C).Serves (fun s => s.commonEventSrvQueue.map Prod.snd)
      (fun s l => (s.ran l).map Prod.fst) (fun _ => 0) (fun l => l.isRunTask) where
  step s l t _ hwaits := by
    by_cases hl : l.isRunTask
    · refine Or.inl ?_
      cases l with
      | runTask run =>
        cases hqueue : s.commonEventSrvQueue with
        | nil => exact absurd (by rw [hqueue]; rfl) hwaits
        | cons entry rest =>
          rw [ran, hqueue]
          exact List.cons_ne_nil _ _
      | _ => cases hl
    · exact Or.inr ⟨Nat.le_refl 0, fun h => absurd h hl⟩

/-- **Each receiver is visited once, in order.** In every run of the front, the
visits that a queue of unordered delivery has made, with those it has left to
make, are those that were submitted to it, in the order in which they were:
publish by publish, as the calls were executed, and receiver by receiver. -/
theorem visited_in_order {ls : List FrontLabel} (hs : (frontMachine P S C).run ls = some s)
    (immediate : Bool) :
    (frontMachine P S C).outputs (visits P C immediate) ls ++ s.toVisit immediate
      = (frontMachine P S C).outputs (submits P S C immediate) ls :=
  Machine.queue_law (toVisit immediate) (fifoQueue_toVisit P S C immediate).init
    (fifoQueue_toVisit P S C immediate).step hs

/-! ## Sooner or later -/

/-- **What the schedulers owe**: a queue in which a task waits is served
sooner or later. -/
structure Fair (ρ : (frontMachine P S C).EndlessRun) : Prop where
  commonEventSrvQueue :
    ρ.IsServed (fun s => s.commonEventSrvQueue) (fun l => l.isRunTask)
  unordered : ∀ immediate,
    ρ.IsServed (fun s => s.innerCommonEventManager.delivery.tasks immediate)
      (fun l => l.serves immediate)

/-- **An event is kept** for a receiver after time `k`: a step puts it, with the
next number, into the buffer by uid, and a later one into the buffer by pid. -/
def Keeps (ρ : (frontMachine P S C).EndlessRun) (vec : SubscriberRecordPtr)
    (event : CommonEventRecord CellId CellId) (k : ℕ) : Prop :=
  ∃ i j buffering, k < i ∧ i < j
    ∧ buffering = (ρ.state i).innerCommonEventManager.delivery.nextBuffering
    ∧ event.buffered buffering ∈ (ρ.state (i + 1)).innerCommonEventManager.delivery.keptForUid vec
    ∧ event.buffered buffering ∈ (ρ.state (j + 1)).innerCommonEventManager.delivery.keptForPid vec

/-- **A receiver is reached** at time `k`: a queue comes to it with the event,
and it is either notified then, or frozen then and the event is kept for it. -/
structure Reaches (ρ : (frontMachine P S C).EndlessRun) (immediate : Bool)
    (vec : SubscriberRecordPtr) (event : CommonEventRecord CellId CellId) (k : ℕ) : Prop where
  visits : .receiver event vec ∈ (ρ.state k).visits P C immediate (ρ.label k)
  notifies : ((ρ.state k).innerCommonEventManager.delivery.manager.heap vec).isFreeze = false →
    ∃ label ∈ (ρ.state k).calls P C (ρ.label k),
      ((ρ.state k).innerCommonEventManager.delivery.manager.listenerOf vec,
        event.fillCommonEventRecord) ∈ (ρ.state k).innerCommonEventManager.notifies label
  keeps : ((ρ.state k).innerCommonEventManager.delivery.manager.heap vec).isFreeze = true →
    Keeps ρ vec event k

/-- **Who is visited and not frozen is notified.** -/
theorem notifies_of_visits {immediate : Bool} {l : FrontLabel} {vec : SubscriberRecordPtr}
    {event : CommonEventRecord CellId CellId} (h : .receiver event vec ∈ s.visits P C immediate l)
    (hfreeze : (s.innerCommonEventManager.delivery.manager.heap vec).isFreeze = false) :
    ∃ label ∈ s.calls P C l,
      (s.innerCommonEventManager.delivery.manager.listenerOf vec, event.fillCommonEventRecord)
        ∈ s.innerCommonEventManager.notifies label := by
  obtain ⟨label, hlabel, hvisit⟩ := List.mem_flatMap.mp h
  unfold InnerCommonEventManager.visits at hvisit
  split at hvisit
  next hserves =>
    -- the first task of the queue has come to the receiver
    have hnotifies : s.innerCommonEventManager.notifies label
        = (s.innerCommonEventManager.delivery.tasks immediate).head?.elim []
          (UnorderedTask.notifies s.innerCommonEventManager.delivery.manager) := by
      cases label with
      | unordered =>
        cases immediate with
        | false => rfl
        | true => cases hserves
      | unorderedImmediate =>
        cases immediate with
        | false => cases hserves
        | true => rfl
      | _ => cases hserves
    refine ⟨label, hlabel, ?_⟩
    rw [hnotifies]
    cases htasks : s.innerCommonEventManager.delivery.tasks immediate with
    | nil =>
      rw [htasks] at hvisit
      cases hvisit
    | cons task rest =>
      rw [htasks] at hvisit
      exact UnorderedTask.notifies_of_visited hvisit hfreeze
  next => cases hvisit

/-- **A task in an insertion makes it**, sooner or later. -/
theorem Fair.later_inserts {ρ : (frontMachine P S C).EndlessRun} (hfair : Fair ρ)
    {immediate : Bool} {n record : ℕ} {insertion : FrozenInsertion CellId CellId}
    {receivers : List SubscriberRecordPtr}
    (hfirst : ((ρ.state n).innerCommonEventManager.delivery.tasks immediate).head?
      = some (.handleFrozenUnorderedSubscriber record insertion receivers)) :
    ∃ i, n ≤ i ∧ (ρ.state (i + 1)).innerCommonEventManager.delivery.manager
        = ((ρ.state i).innerCommonEventManager.delivery.stepInsertion insertion).1.manager
      ∧ ∀ next, ((ρ.state i).innerCommonEventManager.delivery.stepInsertion insertion).2
          = some next →
        ((ρ.state (i + 1)).innerCommonEventManager.delivery.tasks immediate).head?
          = some (.handleFrozenUnorderedSubscriber record next receivers) := by
  have hwaits : (ρ.state n).innerCommonEventManager.delivery.tasks immediate ≠ [] := by
    intro hnil
    rw [hnil] at hfirst
    cases hfirst
  obtain ⟨i, hi, hserves, hfirst'⟩ := ρ.until_first
    (I := fun s => (s.innerCommonEventManager.delivery.tasks immediate).head?
      = some (.handleFrozenUnorderedSubscriber record insertion receivers))
    (fun m _ hm hnot => (taskStep immediate (ρ.step m)).stays hnot hm) hfirst
    (hfair.unordered immediate n hwaits)
  exact ⟨i, hi, (taskStep immediate (ρ.step i)).inserts hserves hfirst'⟩

/-- **Who is visited and frozen has the event kept for it.** -/
theorem Fair.keeps {ρ : (frontMachine P S C).EndlessRun} (hfair : Fair ρ) {immediate : Bool}
    {vec : SubscriberRecordPtr} {event : CommonEventRecord CellId CellId} {k : ℕ}
    (hvisit : .receiver event vec ∈ (ρ.state k).visits P C immediate (ρ.label k))
    (hfreeze : ((ρ.state k).innerCommonEventManager.delivery.manager.heap vec).isFreeze = true) :
    Keeps ρ vec event k := by
  obtain ⟨record, receivers, hfirst⟩ := (taskStep immediate (ρ.step k)).frozen hvisit hfreeze
  obtain ⟨i, hi, huid, hnext⟩ := hfair.later_inserts hfirst
  -- the first insertion leaves the second to the task
  obtain ⟨j, hj, hpid, -⟩ := hfair.later_inserts (hnext _ rfl)
  exact ⟨i, j, _, hi, hj, rfl, UnorderedDelivery.mem_keptForUid huid,
    UnorderedDelivery.mem_keptForPid hpid⟩

/-- **Every receiver of an unordered event is reached.** In every endless run of
the front in which its queues are served, a call that is let through is
executed sooner or later; and where that is a publish of an unordered event
that passes all checks, each receiver that is chosen then is reached sooner or
later from then on: the queue comes to it with the event, and its listener is
notified, unless it is frozen then and the event is kept for it. No other call,
no subscriber that has gone and no number of other events keeps it from
that. -/
theorem every_receiver_reached {ρ : (frontMachine P S C).EndlessRun} (hfair : Fair ρ) {n : ℕ}
    {task : SrvTask} (htask : task ∈ (ρ.state n).submitted P (ρ.label n)) :
    Machine.Later (fun m => ∃ run, (task, run) ∈ (ρ.state m).ran (ρ.label m)
      ∧ ∀ args env record view, task.call P run = .publishCommonEvent args env →
        (ρ.state m).innerCommonEventManager.unorderedRecord P.toPlatform C args
          = some (record, view) →
        ∀ vec ∈ ((ρ.state m).innerCommonEventManager.delivery.manager.getSubscriberRecords
            P.toPlatform view).1,
          Machine.Later (Reaches ρ record.isSystemEvent vec record.fillCommonEventRecord) m)
      n := by
  have hserial : ρ.IsServed (fun s => s.commonEventSrvQueue.map Prod.snd)
      (fun l => l.isRunTask) :=
    hfair.commonEventSrvQueue.of_empty fun _ hempty => congrArg (List.map Prod.snd) hempty
  have hqueues : ∀ immediate, ρ.IsServed (toVisit immediate) (fun l => l.serves immediate) :=
    fun immediate => (hfair.unordered immediate).of_empty fun _ hempty =>
      congrArg (List.flatMap UnorderedTask.visits) hempty
  have hrun := (fifoQueue_commonEventSrvQueue P S C).goes_out_later
    (serves_commonEventSrvQueue P S C) hserial htask
  refine hrun.trans fun m _ hm => .now ?_
  obtain ⟨⟨task, run⟩, hran, rfl⟩ := List.mem_map.mp hm
  refine ⟨run, hran, fun args env record view hcall hrecord vec hvec => ?_⟩
  have hsubmits : .receiver record.fillCommonEventRecord vec
      ∈ (ρ.state m).submits P S C record.isSystemEvent (ρ.label m) := by
    refine List.mem_flatMap.mpr ⟨.publishCommonEvent args env, ?_, ?_⟩
    · exact List.mem_append_left _ (List.mem_map.mpr ⟨(task, run), hran, hcall⟩)
    · rw [InnerCommonEventManager.submits, hrecord, Option.elim_some]
      dsimp only
      rw [if_pos rfl]
      exact List.mem_map_of_mem hvec
  refine ((fifoQueue_toVisit P S C _).goes_out_later (serves_toVisit P S C _)
    (hqueues _) hsubmits).trans fun k _ hk => .now ?_
  exact ⟨hk, notifies_of_visits hk, hfair.keeps hk⟩

/-! ## Runs that come to rest -/

/-- A run that comes to rest with all its queues empty is fair. -/
theorem fair_of_atRest {ls : List FrontLabel} {l : FrontLabel}
    (hs : (frontMachine P S C).run ls = some s) (hl : (frontMachine P S C).step s l = some s)
    (hserial : s.commonEventSrvQueue = [])
    (hqueues : ∀ immediate, s.innerCommonEventManager.delivery.tasks immediate = []) :
    Fair (Machine.EndlessRun.ofRest (frontMachine P S C) ls l hs hl) := by
  have hend : ∀ n, (Machine.EndlessRun.ofRest (frontMachine P S C) ls l hs hl).state
      (n + ls.length) = s := fun n =>
    Machine.EndlessRun.state_ofRest hs hl (Nat.le_add_left _ _)
  refine ⟨?_, fun immediate => ?_⟩
  · refine Machine.EndlessRun.isServed_of_empties ?_ fun n =>
      ⟨n + ls.length, Nat.le_add_right _ _,
        (congrArg commonEventSrvQueue (hend n)).trans hserial⟩
    intro u label t hstep hnot hwaits
    cases does_of_step hstep with
    | submits task htask hok hqueue =>
      rw [hqueue]
      exact List.append_ne_nil_of_left_ne_nil hwaits _
    | rests hok hran hdirect hqueue => exact hqueue ▸ hwaits
    | runs n task rest run hl => exact absurd (by rw [hl]; rfl) hnot
    | goesPast label hok hran hdirect hqueue => exact hqueue ▸ hwaits
  · refine Machine.EndlessRun.isServed_of_empties ?_ fun n =>
      ⟨n + ls.length, Nat.le_add_right _ _,
        (congrArg (fun s => s.innerCommonEventManager.delivery.tasks immediate) (hend n)).trans
          (hqueues immediate)⟩
    intro u label t hstep hnot hwaits
    cases taskStep immediate hstep with
    | serves task rest htasks hrest hmanager hvisited hsubmitted hserved =>
      exact absurd hserved hnot
    | submits hsubmits =>
      obtain ⟨new, htasks, -⟩ := hsubmits
      rw [htasks]
      exact List.append_ne_nil_of_left_ne_nil hwaits _

/-- An application publishes an event that it has subscribed to, and its
subscriber is notified. -/
def untilVisited : List FrontLabel :=
  [.init, .subscribeCommonEvent anApp { matchingSkills := { events := ["e"] } } (some ⟨1⟩) (some 0),
    .publishCommonEvent anApp { want := { action := "e" } } {} none UNDEFINED_USER {},
    .runTask { maxSubscriberNum := 1 }, .runTask {}, .internal .unordered, .internal .unordered]

/-- The one visit that was submitted has been made. -/
theorem visited_in_order_untilVisited :
    ((frontMachine {} .insertion {}).outputs (visits {} {} false) untilVisited).length = 1
      ∧ (frontMachine {} .insertion {}).outputs (visits {} {} false) untilVisited
        = (frontMachine {} .insertion {}).outputs (submits {} .insertion {} false)
          untilVisited := by
  obtain ⟨s, hs, hnone⟩ := Option.map_eq_some_iff.mp
    (show ((frontMachine {} .insertion {}).run untilVisited).map
      (fun s => (s.toVisit false).length) = some 0 by decide +kernel)
  have horder := visited_in_order hs false
  rw [List.eq_nil_of_length_eq_zero hnone, List.append_nil] at horder
  exact ⟨by decide +kernel, horder⟩

/-- A platform with a resource manager. -/
def aPlatform : FrontPlatform where
  getTokenTypeFlag token := if token = 8 then .native else .hap
  getCallingProcessName _ := RESOURCE_MANAGER_PROCESS_NAME

/-- Two applications subscribe to an event, the second is frozen, and the first
publishes the event: it is notified, and for the second the event is kept. -/
def untilKept : List FrontLabel :=
  [.init, .subscribeCommonEvent anApp { matchingSkills := { events := ["e"] } } (some ⟨1⟩) (some 0),
    .subscribeCommonEvent ⟨101, 20010002, 9, 0⟩ { matchingSkills := { events := ["e"] } }
      (some ⟨2⟩) (some 0),
    .freeze ⟨1, 1096, 8, 0⟩ 20010002,
    .publishCommonEvent anApp { want := { action := "e" } } {} none UNDEFINED_USER {},
    .runTask { maxSubscriberNum := 2 }, .runTask { maxSubscriberNum := 2 }, .runTask {},
    .runTask {}, .internal .unordered, .internal .unordered, .internal .unordered,
    .internal .unordered, .internal .unordered]

/-- The task of the publish. -/
def publishTask : SrvTask :=
  .publishCommonEvent { want := { action := "e" } } {} none 0 100 20010001 7 UNDEFINED_USER

/-- What it is executed with. -/
def publishArgs : PublishArgs where
  data := { want := { action := "e" } }
  pid := 100
  uid := 20010001
  callerToken := 7
  userId := UNDEFINED_USER

/-- The run of the two is fair, and both are reached. -/
theorem every_receiver_reached_untilKept :
    ∃ ρ : (frontMachine aPlatform .insertion {}).EndlessRun, Fair ρ ∧ ∃ event,
      (∃ k, ∃ label ∈ (ρ.state k).calls aPlatform {} (ρ.label k),
        (⟨1⟩, event) ∈ (ρ.state k).innerCommonEventManager.notifies label)
      ∧ ∃ k, Keeps ρ 1 event k := by
  obtain ⟨s, hs, hstate⟩ := Option.map_eq_some_iff.mp
    (show ((frontMachine aPlatform .insertion {}).run untilKept).map
      (fun s => (s.commonEventSrvQueue, s.innerCommonEventManager.delivery.unorderedQueue.length,
        s.innerCommonEventManager.delivery.unorderedImmediateQueue.length))
        = some ([], 0, 0) by decide +kernel)
  simp only [Prod.mk.injEq] at hstate
  obtain ⟨hserial, hunordered, himmediate⟩ := hstate
  -- a call of the application's that is refused changes nothing
  have hfair := fair_of_atRest (l := .unfreezeAll anApp) hs rfl hserial (fun immediate => by
    cases immediate with
    | false => exact List.eq_nil_of_length_eq_zero hunordered
    | true => exact List.eq_nil_of_length_eq_zero himmediate)
  have hall := Machine.EndlessRun.all_ofRest (l := .unfreezeAll anApp) hs rfl
  have hrun := Machine.EndlessRun.run_take_ofRest (l := .unfreezeAll anApp) hs rfl
  set ρ := Machine.EndlessRun.ofRest (frontMachine aPlatform .insertion {}) untilKept
    (.unfreezeAll anApp) hs rfl
  -- when the publish is executed it chooses the two, and a visit finds one of them frozen
  have hchooses := hall (fun u l => (u.ran l).all fun entry => entry.1 ≠ publishTask
    || (u.innerCommonEventManager.unorderedRecord aPlatform.toPlatform {} publishArgs).any
      fun p => !p.1.isSystemEvent
        && (u.innerCommonEventManager.delivery.manager.getSubscriberRecords aPlatform.toPlatform
          p.2).1 = [0, 1]) (by decide +kernel)
  have hfinds := hall (fun u l => (u.visits aPlatform {} false l).all fun _ =>
    !(u.innerCommonEventManager.delivery.manager.heap 0).isFreeze
      && u.innerCommonEventManager.delivery.manager.listenerOf 0 = ⟨1⟩
      && (u.innerCommonEventManager.delivery.manager.heap 1).isFreeze) (by decide +kernel)
  have htask : publishTask ∈ (ρ.state 4).submitted aPlatform (ρ.label 4) := by
    obtain ⟨u, hu, hsubmitted⟩ := Option.map_eq_some_iff.mp
      (show ((frontMachine aPlatform .insertion {}).run (untilKept.take 4)).map
        (fun u => u.submitted aPlatform (untilKept.getD 4 .init)) = some [publishTask] by
          decide +kernel)
    obtain rfl := Option.some.inj (hu.symm.trans (hrun 4))
    exact hsubmitted ▸ List.mem_singleton_self publishTask
  obtain ⟨m, -, run, hran, hreached⟩ := every_receiver_reached hfair htask
  have hentry := List.all_eq_true.mp (hchooses m) _ hran
  obtain ⟨⟨record, view⟩, hrecord, hchosen⟩ := (Option.any_eq_true _ _).mp
    ((Bool.or_eq_true_iff.mp hentry).resolve_left (by simp))
  obtain ⟨hsystem, hvecs⟩ := Bool.and_eq_true_iff.mp hchosen
  have hreaches : ∀ vec ∈ [0, 1], ∃ k, Reaches ρ false vec record.fillCommonEventRecord k := by
    intro vec hvec
    rw [← of_decide_eq_true hvecs] at hvec
    obtain ⟨k, -, hk⟩ := hreached publishArgs run.env record view rfl hrecord vec hvec
    rw [(Bool.not_eq_true' _).mp hsystem] at hk
    exact ⟨k, hk⟩
  obtain ⟨k, hk⟩ := hreaches 0 (by simp)
  obtain ⟨j, hj⟩ := hreaches 1 (by simp)
  have hfirst := List.all_eq_true.mp (hfinds k) _ hk.visits
  have hsecond := List.all_eq_true.mp (hfinds j) _ hj.visits
  simp only [Bool.and_eq_true, Bool.not_eq_true', decide_eq_true_eq] at hfirst hsecond
  obtain ⟨label, hlabel, hnotifies⟩ := hk.notifies hfirst.1.1
  rw [hfirst.1.2] at hnotifies
  exact ⟨ρ, hfair, record.fillCommonEventRecord, ⟨k, label, hlabel, hnotifies⟩, j,
    hj.keeps hsecond.2⟩

end ServiceFront

end CommonEventService

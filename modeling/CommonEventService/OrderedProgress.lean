import CommonEventService.Completion
import CommonEventService.TimeoutWatchdog
import CommonEventService.WakeUp
import CommonEventService.Lib.EndlessRun
import Mathlib.Algebra.GroupWithZero.Nat

/-!
# Progress of the ordered pipeline

A wake-up can be lost, a receiver may never answer, and the publishers go on
all the while. Does every ordered event leave the queue? It does, and this is
why: as long as the queue is not empty, a task waits, or a call is about to
submit one, or the timer is armed, or the serial queue is on its way to one
of these (`Going`). Unlike `Wakeful`, that is an invariant of every step: a
lost wake-up leaves the timer of the receiver that has just finished.

The measure of the progress made for a record is its `weight`: what is left
to do for the records up to it. No step makes it greater. A stretch in which
it stays the same is `Steady`; in such a stretch the timer comes twice at
most, then the front record is idle, and the next task makes the weight
smaller.
-/

namespace CommonEventService

/-- Whether the serial queue has chosen a record and has not handed its next
receiver over. -/
def OrderedThread.choosing : OrderedThread → Bool
  | .finals _ sp => sp.isSome
  | .prepareNext _ => true
  | _ => false

/-- Whether the serial queue has nobody to notify. -/
def OrderedThread.calm : OrderedThread → Bool
  | .idle => true
  | .queueSection => true
  | .finals _ sp => sp.isNone
  | .reschedule => true
  | .timeoutFront => true
  | .timeoutCheck _ => true
  | .timeoutHandle _ _ => true
  | _ => false

/-- Whether the serial queue, going on from here, ends with a task submitted
or with the timer armed. -/
def OrderedThread.goesOn : OrderedThread → Bool
  | .idle => false
  | .finals _ sp => sp.isSome
  | _ => true

/-- How many steps the serial queue has before it, from here to the end of
its task. -/
def OrderedThread.rank : OrderedThread → ℕ
  | .idle => 0
  | .reschedule => 1
  | .storeIdle _ => 2
  | .timeoutHandle _ _ => 2
  | .finalTest _ => 3
  | .timeoutCheck _ => 3
  | .frozen _ _ => 4
  | .handleResult _ _ _ => 4
  | .timeoutFront => 4
  | .inCall _ _ => 5
  | .call _ _ => 6
  | .prepareNotify _ _ => 7
  | .notify _ _ => 8
  | .setTimeout _ _ => 9
  | .prepareNext _ => 10
  | .finals removed _ => 11 + removed.length
  -- how many records the section removes is not known before
  | .queueSection => 0

/-- What is left to do for a record: its removal, and the receivers it has
not handed over. -/
def OrderedEventRecord.left (record : OrderedEventRecord) : ℕ :=
  1 + (record.receivers.length - record.nextReceiver)

namespace ControlManager

variable {P : Platform} {S : StdSort} {s t u : ControlManager} {th th' : OrderedThread} {r : ℕ}

/-- **What is left to do** for the records up to `r`. -/
def weight (s : ControlManager) (th : OrderedThread) (r : ℕ) : ℕ :=
  2 * ((s.orderedEventQueue.filter (· ≤ r)).map (fun q => (s.records q).left)).sum
    + (!th.choosing).toNat

/-- **The queue will be looked at**, by a task, a call or the timer, with the
program counter at `th`. -/
def Going (s : ControlManager) (th : OrderedThread) : Prop :=
  s.orderedEventQueue ≠ [] →
    s.orderedQueue ≠ [] ∨ (∃ op ∈ s.ops, op.wakes) ∨ s.pendingTimeoutMessage = true
      ∨ th.goesOn = true

/-! ## The queue is always looked at -/

/-- The rule for a step that takes no task, ends no call and leaves the
timer. -/
theorem Going.frame (h : s.Going th) (hq : t.orderedEventQueue = s.orderedEventQueue)
    (hord : s.orderedQueue ≠ [] → t.orderedQueue ≠ [])
    (hops : ∀ op ∈ s.ops, op.wakes = true → op ∈ t.ops)
    (hpending : s.pendingTimeoutMessage = true → t.pendingTimeoutMessage = true)
    (hth : th.goesOn = true → th'.goesOn = true) : t.Going th' := by
  intro hne
  rw [hq] at hne
  rcases h hne with htask | ⟨op, hop, hw⟩ | htimer | hgoes
  · exact Or.inl (hord htask)
  · exact Or.inr (Or.inl ⟨op, hops op hop hw, hw⟩)
  · exact Or.inr (Or.inr (Or.inl (hpending htimer)))
  · exact Or.inr (Or.inr (Or.inr (hth hgoes)))

theorem Going.of_orderedQueue (h : s.orderedQueue ≠ []) : s.Going th := fun _ => Or.inl h

theorem Going.of_pending (h : s.pendingTimeoutMessage = true) : s.Going th :=
  fun _ => Or.inr (Or.inr (Or.inl h))

theorem Going.of_goesOn (h : th.goesOn = true) : s.Going th :=
  fun _ => Or.inr (Or.inr (Or.inr h))

/-- Who is at work is watched by the timer, once the serial queue is not at
the callback of one. -/
theorem Watchdog.pending_of_curReceiver (h : s.Watchdog th) (hth : th.handling = none) {r : ℕ}
    (hcur : (s.records r).curReceiver ≠ none) : s.pendingTimeoutMessage = true := by
  obtain ⟨listener, hlistener⟩ := Option.ne_none_iff_exists'.mp hcur
  refine (h.active r listener hlistener).resolve_right ?_
  rw [hth]
  exact nofun

/-- A call that wakes submits a task. -/
theorem orderedQueue_ne_nil_of_wakes (hsch : s.scheduled = true → true ∈ s.orderedQueue)
    (i : ℕ) {op : ServiceOp} (hw : op.wakes = true) : (s.stepOp i op).orderedQueue ≠ [] := by
  cases op with
  | schedule =>
    exact List.ne_nil_of_mem
      (true_mem_scheduleOrderedCommonEvent (s := { s with ops := s.ops.eraseIdx i }) hsch)
  | finishUpdate call state =>
    rw [stepOp_finishUpdate, if_pos (of_decide_eq_true hw)]
    exact List.append_ne_nil_of_right_ne_nil _ (List.cons_ne_nil _ _)
  | readResult sp receiver => cases hw
  | finishLoad call => cases hw

/-- A step of a service call keeps the queue looked at: where it submits no
task, what was there before is still there, the timer for one. -/
theorem Going.stepOp (h : s.Going th) (hsch : s.scheduled = true → true ∈ s.orderedQueue)
    {i : ℕ} {op : ServiceOp} (hi : s.ops[i]? = some op) : (s.stepOp i op).Going th := by
  cases hwakes : op.wakes with
  | true => exact .of_orderedQueue (orderedQueue_ne_nil_of_wakes hsch i hwakes)
  | false =>
    cases op with
    | schedule => cases hwakes
    | readResult sp receiver =>
      exact h.frame rfl id (fun op hop hw => mem_set_of_wakes hi rfl hop hw) id id
    | finishLoad call =>
      exact h.frame rfl id (fun op hop hw => mem_set_of_wakes hi rfl hop hw) id id
    | finishUpdate call state =>
      rw [stepOp_finishUpdate, if_neg (of_decide_eq_false hwakes), List.append_nil]
      exact h.frame rfl id (fun op hop hw => mem_eraseIdx_of_wakes hi hwakes hop hw) id id

/-- A step of the serial queue keeps the queue looked at. -/
theorem Going.stepThread (ha : s.Activity s.thread) (hw : s.Watchdog s.thread)
    (h : s.Going s.thread) {answer : Answer} (hstep : s.stepThread answer = some t) :
    t.Going t.thread := by
  have hcase := threadStep_of_stepThread hstep
  generalize s.thread = th at hcase h ha hw
  cases hcase with
  | queueSection u removed sp hrun =>
    cases sp with
    | some sp => exact .of_goesOn rfl
    | none =>
      -- the front record has a receiver at work, and the timer watches it
      intro hne
      obtain ⟨r, rest, hq⟩ := List.exists_cons_of_ne_nil hne
      have hfront : u.front = some r := by
        rw [front, show u.orderedEventQueue = r :: rest from hq]
        rfl
      have hcur := (ha.processOrderedEventQueueLocked hrun).2 r rfl hfront
      exact Or.inr (Or.inr (Or.inl
        ((hw.processOrderedEventQueueLocked ha hrun).pending_of_curReceiver rfl hcur)))
  | finalSubscriber removed rest sp =>
    obtain ⟨-, hq, hord, hops⟩ :=
      handleFinalSubscriber_records (s := s) removed answer.hasProxy
    refine h.frame hq (by rw [hord]; exact id) (fun op hop _ => by rw [hops]; exact hop) ?_ id
    unfold ControlManager.handleFinalSubscriber
    dsimp only
    split <;> exact id
  | finalsEnd => exact h.frame rfl id (fun _ hop _ => hop) id id
  | finalTestSome sp hcur => exact .of_pending (hw.pending_of_curReceiver rfl hcur)
  | reschedule =>
    refine .of_orderedQueue (List.ne_nil_of_mem (a := true) ?_)
    exact true_mem_scheduleOrderedCommonEvent ha.scheduled
  | timeoutEmpty hfront =>
    intro hne
    exact absurd (List.head?_eq_none_iff.mp hfront) hne
  | timeoutEarly sp hearly =>
    have hset : s.setTimeout.Watchdog (.notify sp 0) := hw.setTimeout (by simp) rfl
    exact .of_pending (hset.armed rfl)
  | _ => exact .of_goesOn rfl

/-- **Every step keeps the queue looked at.** -/
theorem going_step {l : ControlLabel} (ha : s.Activity s.thread) (hw : s.Watchdog s.thread)
    (h : s.Going s.thread) (hstep : s.step P S l = some t) : t.Going t.thread := by
  have hstay : t.orderedEventQueue = s.orderedEventQueue → t.orderedQueue = s.orderedQueue →
      (∀ op ∈ s.ops, op ∈ t.ops) → t.pendingTimeoutMessage = s.pendingTimeoutMessage →
      t.thread = s.thread → t.Going t.thread := by
    intro hq hord hops hpending hth
    exact h.frame hq (by rw [hord]; exact id) (fun op hop _ => hops op hop)
      (by rw [hpending]; exact id) (by rw [hth]; exact id)
  cases l with
  | publish request =>
    cases hstep
    exact fun _ => Or.inr (Or.inl ⟨.schedule,
      List.mem_append_right _ (List.mem_singleton_self _), rfl⟩)
  | finishReceiver reply =>
    cases hstep
    unfold ControlManager.finishReceiver at hstay ⊢
    split at hstay
    · exact hstay rfl rfl (fun _ => List.mem_append_left _) rfl rfl
    · exact h
  | unsubscribeCommonEvent listener =>
    cases hstep
    unfold ControlManager.unsubscribeCommonEvent at hstay ⊢
    split at hstay
    · exact h
    · split at hstay
      · exact hstay rfl rfl (fun _ => List.mem_append_left _) rfl rfl
      · exact h
  | op i =>
    obtain ⟨op, hi, rfl⟩ := Option.map_eq_some_iff.mp hstep
    rw [stepOp_thread]
    exact h.stepOp ha.scheduled hi
  | processNextOrderedEvent =>
    unfold ControlManager.step at hstep
    dsimp only at hstep
    split at hstep
    · cases hstep
      exact .of_goesOn rfl
    · cases hstep
  | timeout handler =>
    unfold ControlManager.step at hstep
    dsimp only at hstep
    split at hstep
    · cases hstep
      exact .of_goesOn rfl
    · cases hstep
  | thread answer => exact h.stepThread ha hw hstep
  | _ =>
    cases hstep
    exact hstay rfl rfl (fun _ => id) rfl rfl

/-- **In every reachable state the queue is looked at**, whatever wake-ups
were lost. -/
theorem going_reachable (hs : (orderedMachine P S).Reachable s) : s.Going s.thread := by
  obtain ⟨ls, hls⟩ := hs
  exact Machine.run_induction (M := orderedMachine P S) (R := fun _ s => s.Going s.thread)
    (fun hne => absurd rfl hne)
    (fun ls _ _ _ hs h hstep => going_step (activity_reachable ⟨ls, hs⟩)
      (watchdog_reachable ⟨ls, hs⟩) h hstep) hls

/-! ## What is left to do -/

/-- The queue is in the order of enqueueing. -/
theorem Dispatch.pairwise (h : s.Dispatch th) : s.orderedEventQueue.Pairwise (· < ·) := by
  have hrange : (removedOf s.trace ++ s.orderedEventQueue).Pairwise (· < ·) := by
    rw [h.queue]
    exact List.pairwise_lt_range
  exact (List.pairwise_append.mp hrange).2.1

/-- A record that waits waits behind the front one. -/
theorem Dispatch.front_le (h : s.Dispatch th) {r : ℕ} (hr : r ∈ s.orderedEventQueue) :
    ∃ sp rest, s.orderedEventQueue = sp :: rest ∧ sp ≤ r := by
  obtain ⟨sp, rest, hq⟩ := List.exists_cons_of_ne_nil (List.ne_nil_of_mem hr)
  refine ⟨sp, rest, hq, ?_⟩
  have hlt := h.pairwise
  rw [hq] at hlt hr
  rcases List.mem_cons.mp hr with rfl | hr
  · exact Nat.le_refl _
  · exact Nat.le_of_lt ((List.pairwise_cons.mp hlt).1 r hr)

theorem Dispatch.lt_nextRecord (h : s.Dispatch th) {r : ℕ} (hr : r ∈ s.orderedEventQueue) :
    r < s.nextRecord := by
  refine List.mem_range.mp ?_
  rw [← h.queue]
  exact List.mem_append_right _ hr

theorem left_of_skeleton {record record' : OrderedEventRecord}
    (h : record'.skeleton = record.skeleton) : record'.left = record.left := by
  have hn : record'.nextReceiver = record.nextReceiver := congrArg Prod.fst h
  have hr : record'.receivers = record.receivers := congrArg (fun x => x.2.1) h
  rw [OrderedEventRecord.left, OrderedEventRecord.left, hn, hr]

/-- A write to one record that hands over no receiver. -/
theorem skeleton_update (sp : ℕ) {record : OrderedEventRecord}
    (ht : t.records = Function.update s.records sp record)
    (hrecord : record.skeleton = (s.records sp).skeleton) (q : ℕ) :
    (t.records q).skeleton = (s.records q).skeleton := by
  rw [ht, Function.update_apply]
  split
  next h => rw [h, hrecord]
  next => rfl

/-- The section under the queue's lock hands over no receiver. -/
theorem skeleton_processOrderedEventQueueLocked {removed : List ℕ} {sp : Option ℕ}
    (hrun : s.processOrderedEventQueueLocked = some (u, removed, sp)) (q : ℕ) :
    (u.records q).skeleton = (s.records q).skeleton := by
  have hcheck : ∀ {s u : ControlManager} {sp : ℕ} {forced : Bool},
      s.checkTimeoutForceReceive sp = (u, forced) →
        (u.records q).skeleton = (s.records q).skeleton := by
    intro s u sp forced h
    rcases s.checkTimeoutForceReceive_cases sp with ⟨-, heq⟩ | ⟨-, heq⟩
    · rw [heq] at h
      cases h
      exact s.skeleton_handleTimeoutReceiver sp s.now q
    · rw [heq] at h
      cases h
      rfl
  refine DoWhile.doWhile_rule (f := processOrderedEventQueuePass) (s := (s, []))
    (fun loop => (loop.1.records q).skeleton = (s.records q).skeleton)
    (fun result => (result.1.records q).skeleton = (s.records q).skeleton) ?_ ?_ rfl hrun
  · rintro ⟨s', removed⟩ loop' h heq'
    rcases processOrderedEventQueuePass_cases (s := s') removed with ⟨-, heq⟩ |
      ⟨sp, rest, u, forced, -, hc, ⟨-, heq⟩ | ⟨-, -, heq⟩ | ⟨-, -, -, -, heq⟩⟩
    all_goals
      rw [heq] at heq'
      cases heq'
    obtain ⟨pending, timers, hcancel⟩ := u.cancelTimeout_eq
    rw [hcancel]
    exact (hcheck hc).trans h
  · rintro ⟨s', removed⟩ result h heq'
    rcases processOrderedEventQueuePass_cases (s := s') removed with ⟨-, heq⟩ |
      ⟨sp, rest, u, forced, -, hc, ⟨-, heq⟩ | ⟨-, -, heq⟩ | ⟨-, -, -, -, heq⟩⟩
    all_goals
      rw [heq] at heq'
      cases heq'
    · exact h
    all_goals exact (hcheck hc).trans h

/-- **Nothing is handed over** by a step of the serial queue other than
`PrepareNextReceiverRecord`. -/
theorem skeleton_stepThread {answer : Answer} (hstep : s.stepThread answer = some t)
    (hth : ∀ sp, s.thread ≠ .prepareNext sp) (q : ℕ) :
    (t.records q).skeleton = (s.records q).skeleton := by
  have hcase := threadStep_of_stepThread hstep
  generalize s.thread = th at hcase hth
  cases hcase with
  | queueSection u removed sp hrun => exact skeleton_processOrderedEventQueueLocked hrun q
  | finalSubscriber removed rest sp =>
    unfold ControlManager.handleFinalSubscriber
    dsimp only
    split
    · rfl
    · exact skeleton_update (s := s) removed rfl (by rfl) q
  | prepareNext sp => exact absurd rfl (hth sp)
  | setTimeout sp i =>
    dsimp only
    rw [setTimeout_records.1]
  | frozen sp i | prepareNotify sp i hproxy | invalidProxy sp i hproxy =>
    exact skeleton_update (s := s) sp rfl (by simp [OrderedEventRecord.skeleton]) q
  | handleResult sp i isOk =>
    exact skeleton_update (s := s) sp rfl (by cases isOk <;> rfl) q
  | storeIdle sp => exact skeleton_update (s := s) sp rfl (by rfl) q
  | reschedule =>
    dsimp only
    rw [scheduleOrderedCommonEvent_records.1]
  | timeoutEarly sp hearly =>
    dsimp only
    rw [setTimeout_records.1]
  | timeoutHandle sp nowSysTime => exact s.skeleton_handleTimeoutReceiver sp nowSysTime q
  | _ => rfl

/-- Where the queue grows at most, by records enqueued after `r`, and nothing
is handed over, the weight is as it was. -/
theorem weight_congr (new : List ℕ) (hq : t.orderedEventQueue = s.orderedEventQueue ++ new)
    (hnew : ∀ q ∈ new, r < q)
    (hleft : ∀ q ∈ s.orderedEventQueue, (t.records q).left = (s.records q).left)
    (hchoosing : th'.choosing = th.choosing) : t.weight th' r = s.weight th r := by
  have hfilter : new.filter (· ≤ r) = [] :=
    List.filter_eq_nil_iff.mpr fun q hmem => by simpa using hnew q hmem
  have hmap : (s.orderedEventQueue.filter (· ≤ r)).map (fun q => (t.records q).left)
      = (s.orderedEventQueue.filter (· ≤ r)).map (fun q => (s.records q).left) :=
    List.map_congr_left fun q hmem => hleft q (List.mem_filter.mp hmem).1
  rw [weight, weight, hq, List.filter_append, hfilter, List.append_nil, hmap, hchoosing]

/-- The front record's share of the weight. -/
theorem weight_of_front {sp : ℕ} {rest : List ℕ} (hq : s.orderedEventQueue = sp :: rest)
    (hle : sp ≤ r) :
    s.weight th r = 2 * ((s.records sp).left
        + ((rest.filter (· ≤ r)).map (fun q => (s.records q).left)).sum)
      + (!th.choosing).toNat := by
  have hpos : decide (sp ≤ r) = true := decide_eq_true hle
  rw [weight, hq, List.filter_cons, if_pos hpos, List.map_cons, List.sum_cons]

/-- **The section under the queue's lock makes the weight smaller**, if it
removes a record or chooses one. -/
theorem weight_section (hd : s.Dispatch .queueSection) (hr : r ∈ s.orderedEventQueue)
    {removed : List ℕ} {sp : Option ℕ}
    (hrun : s.processOrderedEventQueueLocked = some (u, removed, sp))
    (hdone : removed ≠ [] ∨ sp ≠ none) :
    u.weight (.finals removed sp) r < s.weight .queueSection r := by
  have hqueue := (processOrderedEventQueueLocked_spec hd.pairwise.nodup hrun).1.queue
  have hleft : ∀ q, (u.records q).left = (s.records q).left := fun q =>
    left_of_skeleton (skeleton_processOrderedEventQueueLocked hrun q)
  obtain ⟨front, rest, hq, hle⟩ := hd.front_le hr
  cases removed with
  | nil =>
    have hsp : sp.isSome = true := Option.isSome_iff_ne_none.mpr
      (hdone.resolve_left fun hne => hne rfl)
    have hu : u.orderedEventQueue = s.orderedEventQueue := hqueue.symm
    rw [weight, weight, hu]
    simp only [hleft, OrderedThread.choosing, hsp, Bool.not_true, Bool.not_false]
    exact Nat.lt_succ_self _
  | cons first removed =>
    -- the front record is gone, and what is left of it is at least its removal
    rw [List.cons_append] at hqueue
    have hpos : 1 ≤ (s.records first).left := Nat.le_add_right 1 _
    have hfirst : first ≤ r := by
      rw [hqueue] at hq
      exact (List.cons.inj hq).1 ▸ hle
    rw [weight_of_front hqueue hfirst, weight]
    simp only [hleft, OrderedThread.choosing, List.filter_append, List.map_append,
      List.sum_append]
    have hlast : (!sp.isSome).toNat ≤ 1 := Bool.toNat_le _
    simp only [Bool.not_false, Bool.toNat_true]
    omega

/-- **No step makes what is left to do greater**, and a step that leaves it as
it is leaves the front of the queue. -/
theorem weight_step {l : ControlLabel} (hd : s.Dispatch s.thread)
    (hr : r ∈ s.orderedEventQueue) (hstep : s.step P S l = some t) :
    t.weight t.thread r < s.weight s.thread r ∨
      (t.weight t.thread r = s.weight s.thread r
        ∧ ∃ new, t.orderedEventQueue = s.orderedEventQueue ++ new) := by
  have hsame : t.orderedEventQueue = s.orderedEventQueue →
      (∀ q, (t.records q).skeleton = (s.records q).skeleton) →
      t.thread.choosing = s.thread.choosing →
      t.weight t.thread r < s.weight s.thread r ∨
        (t.weight t.thread r = s.weight s.thread r
          ∧ ∃ new, t.orderedEventQueue = s.orderedEventQueue ++ new) := by
    intro hq hsk hchoosing
    have hq' : t.orderedEventQueue = s.orderedEventQueue ++ [] := by
      rw [hq, List.append_nil]
    exact Or.inr ⟨weight_congr [] hq' (fun q hq => absurd hq List.not_mem_nil)
      (fun q _ => left_of_skeleton (hsk q)) hchoosing, [], hq'⟩
  cases l with
  | publish request =>
    cases hstep
    refine Or.inr ⟨weight_congr [s.nextRecord] rfl ?_ ?_ rfl, [s.nextRecord], rfl⟩
    · intro q hq
      rw [List.mem_singleton.mp hq]
      exact hd.lt_nextRecord hr
    · intro q hq
      have hrec : (s.processOrderedEvent P S request).records q = s.records q :=
        Function.update_of_ne (Nat.ne_of_lt (hd.lt_nextRecord hq)) _ _
      rw [hrec]
  | finishReceiver reply =>
    cases hstep
    unfold ControlManager.finishReceiver at hsame ⊢
    split at hsame
    all_goals exact hsame rfl (fun _ => rfl) rfl
  | unsubscribeCommonEvent listener =>
    cases hstep
    unfold ControlManager.unsubscribeCommonEvent at hsame ⊢
    split at hsame
    · exact hsame rfl (fun _ => rfl) rfl
    · split at hsame
      all_goals exact hsame rfl (fun _ => rfl) rfl
  | op i =>
    obtain ⟨op, -, rfl⟩ := Option.map_eq_some_iff.mp hstep
    rw [stepOp_thread] at hsame ⊢
    cases op with
    | schedule =>
      obtain ⟨hrec, hq⟩ :=
        scheduleOrderedCommonEvent_records (s := { s with ops := s.ops.eraseIdx i })
      exact hsame hq (fun q => congrArg (fun f => (f q).skeleton) hrec) rfl
    | readResult sp receiver => exact hsame rfl (fun _ => rfl) rfl
    | finishLoad call => exact hsame rfl (fun _ => rfl) rfl
    | finishUpdate call state =>
      rw [stepOp_finishUpdate] at hsame ⊢
      exact hsame rfl (fun q => s.skeleton_finishUpdate call q) rfl
  | processNextOrderedEvent =>
    unfold ControlManager.step at hstep
    dsimp only at hstep
    split at hstep
    next hth _ =>
      cases hstep
      rw [hth] at hsame ⊢
      exact hsame rfl (fun _ => rfl) rfl
    next => cases hstep
  | timeout handler =>
    unfold ControlManager.step at hstep
    dsimp only at hstep
    split at hstep
    next hc =>
      cases hstep
      rw [hc.1] at hsame ⊢
      exact hsame rfl (fun _ => rfl) rfl
    next => cases hstep
  | thread answer =>
    have hskeleton := skeleton_stepThread hstep
    have hcase := threadStep_of_stepThread hstep
    generalize s.thread = th at hcase hd hskeleton hsame ⊢
    have hsk : (∀ sp, th ≠ .prepareNext sp) → t.orderedEventQueue = s.orderedEventQueue →
        t.thread.choosing = th.choosing → _ := fun hth hq hchoosing =>
      hsame hq (hskeleton hth) hchoosing
    cases hcase with
    | queueSection u removed sp hrun =>
      by_cases hdone : removed ≠ [] ∨ sp ≠ none
      · have hlt := weight_section hd hr hrun hdone
        exact Or.inl hlt
      · simp only [not_or, not_not] at hdone
        obtain ⟨rfl, rfl⟩ := hdone
        have hqueue := (processOrderedEventQueueLocked_spec hd.pairwise.nodup hrun).1.queue
        exact hsk (by simp) hqueue.symm rfl
    | finalSubscriber removed rest sp =>
      exact hsk (by simp) (handleFinalSubscriber_records removed answer.hasProxy).2.1 rfl
    | prepareNext sp =>
      -- one receiver of the front record is handed over
      obtain ⟨hfront, hlt⟩ := hd.threadOk
      obtain ⟨front, rest, hq, hle⟩ := hd.front_le hr
      obtain rfl : front = sp := by
        rw [ControlManager.front, hq] at hfront
        exact Option.some.inj hfront
      have hrest : ∀ q ∈ rest.filter (· ≤ r),
          ((s.prepareNextReceiverRecord front).records q).left = (s.records q).left := by
        intro q hmem
        have hne : q ≠ front := by
          rintro rfl
          have hnodup := hd.pairwise.nodup
          rw [hq] at hnodup
          exact (List.nodup_cons.mp hnodup).1 (List.mem_filter.mp hmem).1
        rw [prepareNextReceiverRecord, modify_records, if_neg hne]
      have hself : ((s.prepareNextReceiverRecord front).records front).left + 1
          = (s.records front).left := by
        rw [prepareNextReceiverRecord, modify_records, if_pos rfl]
        unfold OrderedEventRecord.left
        dsimp only
        omega
      refine Or.inl ?_
      have hwt : ControlManager.weight { s.prepareNextReceiverRecord front with
          thread := .setTimeout front (s.records front).nextReceiver }
            (.setTimeout front (s.records front).nextReceiver) r
          = 2 * (((s.prepareNextReceiverRecord front).records front).left
              + ((rest.filter (· ≤ r)).map
                (fun q => ((s.prepareNextReceiverRecord front).records q).left)).sum) + 1 :=
        weight_of_front hq hle
      rw [hwt, weight_of_front hq hle, List.map_congr_left hrest, ← hself]
      simp only [OrderedThread.choosing, Bool.not_true, Bool.toNat_false]
      omega
    | setTimeout sp i => exact hsk (by simp) setTimeout_records.2.1 rfl
    | timeoutEarly sp hearly => exact hsk (by simp) setTimeout_records.2.1 rfl
    | reschedule => exact hsk (by simp) scheduleOrderedCommonEvent_records.2 rfl
    | _ => exact hsk (by simp) rfl rfl
  | _ =>
    cases hstep
    exact hsame rfl (fun _ => rfl) rfl

/-! ## Steps that get nowhere -/

/-- A section that removes nothing and chooses nothing does nothing. -/
theorem processOrderedEventQueueLocked_none
    (hrun : s.processOrderedEventQueueLocked = some (u, [], none)) : u = s := by
  refine DoWhile.doWhile_rule (f := processOrderedEventQueuePass) (s := (s, []))
    (fun loop => loop = (s, []) ∨ loop.2 ≠ [])
    (fun result => result.2.1 = [] → result.2.2 = none → result.1 = s) ?_ ?_ (Or.inl rfl)
    hrun rfl rfl
  · rintro ⟨s', removed⟩ loop' - heq'
    rcases processOrderedEventQueuePass_cases (s := s') removed with ⟨-, heq⟩ |
      ⟨sp, rest, u, forced, -, hc, ⟨-, heq⟩ | ⟨-, -, heq⟩ | ⟨-, -, -, -, heq⟩⟩
    all_goals
      rw [heq] at heq'
      cases heq'
    exact Or.inr (List.append_ne_nil_of_right_ne_nil _ (List.cons_ne_nil _ _))
  · rintro ⟨s', removed⟩ result h heq' hnil hnone
    rcases processOrderedEventQueuePass_cases (s := s') removed with ⟨-, heq⟩ |
      ⟨sp, rest, u, forced, -, hc, ⟨hst, heq⟩ | ⟨-, -, heq⟩ | ⟨-, -, -, -, heq⟩⟩
    all_goals
      rw [heq] at heq'
      cases heq'
    · exact congrArg Prod.fst (h.resolve_right fun hne => hne hnil)
    · obtain ⟨rfl, -⟩ := Prod.mk.inj (h.resolve_right fun hne => hne hnil)
      -- an overdue record would have been made idle
      rcases s'.checkTimeoutForceReceive_cases sp with ⟨-, hforce⟩ | ⟨-, hforce⟩
      · rw [hforce] at hc
        cases hc
        refine absurd ?_ hst
        rw [handleTimeoutReceiver, modify_records, if_pos rfl]
      · rw [hforce] at hc
        cases hc
        rfl
    · cases hnone

/-- **A step that gets nowhere**, from `s` to `t`: nobody is put to work, the
time of the receivers stays but where one is given up on, and the timer stays
but where it comes. -/
structure Lull (s : ControlManager) (l : ControlLabel) (t : ControlManager) : Prop where
  calm : t.thread.calm = true
  curReceiver : ∀ q ∈ s.orderedEventQueue,
    (s.records q).curReceiver = none → (t.records q).curReceiver = none
  receiverTime : ∀ q ∈ s.orderedEventQueue,
    (t.records q).receiverTime = (s.records q).receiverTime
      ∨ ∃ now, s.thread = .timeoutHandle q now
  timers : ∀ timer ∈ s.timers, timer ∈ t.timers ∨ ∃ handler, l = .timeout handler

theorem mem_timers_setTimeout {timer : ℕ × ℕ} (h : timer ∈ s.timers) :
    timer ∈ s.setTimeout.timers := by
  unfold ControlManager.setTimeout
  split
  · exact h
  · exact List.mem_append_left _ h

/-- A step that touches no record and no timer gets nowhere. -/
theorem Lull.of_records {l : ControlLabel} (hcalm : t.thread.calm = true)
    (hrec : t.records = s.records) (htimers : ∀ timer ∈ s.timers, timer ∈ t.timers) :
    Lull s l t :=
  ⟨hcalm, fun q _ h => by rw [hrec]; exact h, fun q _ => Or.inl (by rw [hrec]),
    fun timer h => Or.inl (htimers timer h)⟩

/-- **Where nobody is to be notified, a step that leaves the weight as it is
gets nowhere.** -/
theorem lull_step {l : ControlLabel} (hd : s.Dispatch s.thread)
    (hr : r ∈ s.orderedEventQueue) (hcalm : s.thread.calm = true)
    (hstep : s.step P S l = some t)
    (hsteady : ¬ t.weight t.thread r < s.weight s.thread r) : Lull s l t := by
  have hsame : t.thread = s.thread → t.records = s.records → t.timers = s.timers →
      Lull s l t := by
    intro hth hrec htimers
    exact .of_records (by rw [hth]; exact hcalm) hrec (fun _ h => by rw [htimers]; exact h)
  cases l with
  | publish request =>
    cases hstep
    have hrec : ∀ q ∈ s.orderedEventQueue,
        (s.processOrderedEvent P S request).records q = s.records q := fun q hq =>
      Function.update_of_ne (Nat.ne_of_lt (hd.lt_nextRecord hq)) _ _
    exact ⟨hcalm, fun q hq h => by rw [hrec q hq]; exact h,
      fun q hq => Or.inl (by rw [hrec q hq]), fun _ h => Or.inl h⟩
  | finishReceiver reply =>
    cases hstep
    unfold ControlManager.finishReceiver at hsame ⊢
    split at hsame
    all_goals exact hsame rfl rfl rfl
  | unsubscribeCommonEvent listener =>
    cases hstep
    unfold ControlManager.unsubscribeCommonEvent at hsame ⊢
    split at hsame
    · exact hsame rfl rfl rfl
    · split at hsame
      all_goals exact hsame rfl rfl rfl
  | op i =>
    obtain ⟨op, -, rfl⟩ := Option.map_eq_some_iff.mp hstep
    cases op with
    | schedule =>
      obtain ⟨scheduled, queue, heq⟩ :=
        { s with ops := s.ops.eraseIdx i }.scheduleOrderedCommonEvent_eq
      unfold ControlManager.stepOp at hsame ⊢
      rw [heq] at hsame ⊢
      exact hsame rfl rfl rfl
    | readResult sp receiver => exact hsame rfl rfl rfl
    | finishLoad call => exact hsame rfl rfl rfl
    | finishUpdate call state =>
      rw [stepOp_finishUpdate]
      refine ⟨hcalm, fun q _ h => ?_, fun q _ => Or.inl (finishUpdate_records call q).1,
        fun _ h => Or.inl h⟩
      show ((s.finishUpdate call).records q).curReceiver = none
      by_cases hq : q = call.record
      · rw [hq, ControlManager.finishUpdate]
        dsimp only
        rw [modify_records, if_pos rfl]
      · rw [(finishUpdate_records call q).2.2 hq]
        exact h
  | processNextOrderedEvent =>
    unfold ControlManager.step at hstep
    dsimp only at hstep
    split at hstep
    · cases hstep
      exact .of_records rfl rfl (fun _ h => h)
    · cases hstep
  | timeout handler =>
    unfold ControlManager.step at hstep
    dsimp only at hstep
    split at hstep
    · cases hstep
      exact ⟨rfl, fun _ _ h => h, fun _ _ => Or.inl rfl, fun _ _ => Or.inr ⟨handler, rfl⟩⟩
    · cases hstep
  | thread answer =>
    have hcase := threadStep_of_stepThread hstep
    generalize hth : s.thread = th at hcase hd hcalm hsteady
    cases hcase with
    | queueSection u removed sp hrun =>
      -- a section that does something makes the weight smaller
      by_cases hdone : removed ≠ [] ∨ sp ≠ none
      · have hlt := weight_section hd hr hrun hdone
        exact absurd hlt hsteady
      · simp only [not_or, not_not] at hdone
        obtain ⟨rfl, rfl⟩ := hdone
        obtain rfl := processOrderedEventQueueLocked_none hrun
        exact .of_records rfl rfl (fun _ h => h)
    | finalSubscriber removed rest sp =>
      have hrec : (s.handleFinalSubscriber removed answer.hasProxy).timers = s.timers
          ∧ ∀ q, ((s.handleFinalSubscriber removed answer.hasProxy).records q).receiverTime
            = (s.records q).receiverTime := by
        unfold ControlManager.handleFinalSubscriber
        dsimp only
        split
        · exact ⟨rfl, fun _ => rfl⟩
        · refine ⟨rfl, fun q => ?_⟩
          rw [modify_records]
          split
          next hq => rw [hq]
          next => rfl
      refine ⟨hcalm, fun q _ h => ?_, fun q _ => Or.inl (hrec.2 q),
        fun timer h => Or.inl (by rw [hrec.1]; exact h)⟩
      rw [← ((handleFinalSubscriber_records removed answer.hasProxy).1 q).2] at h
      exact h
    | finalsEnd => exact .of_records rfl rfl (fun _ h => h)
    | reschedule =>
      obtain ⟨scheduled, queue, heq⟩ := s.scheduleOrderedCommonEvent_eq
      rw [heq]
      exact .of_records rfl rfl (fun _ h => h)
    | timeoutEmpty hfront => exact .of_records rfl rfl (fun _ h => h)
    | timeoutFront sp hfront => exact .of_records rfl rfl (fun _ h => h)
    | timeoutEarly sp hearly =>
      exact .of_records rfl setTimeout_records.1 (fun _ h => mem_timers_setTimeout h)
    | timeoutDue sp hdue => exact .of_records rfl rfl (fun _ h => h)
    | timeoutHandle sp nowSysTime =>
      have hrec : ∀ q, (s.handleTimeoutReceiver sp nowSysTime).records q = if q = sp then _
          else s.records q := fun q => modify_records s sp _ q
      refine ⟨rfl, fun q _ h => ?_, fun q _ => ?_, fun _ h => Or.inl h⟩
      · dsimp only
        rw [hrec]
        split
        next => rfl
        next => exact h
      · by_cases hq : q = sp
        · exact Or.inr ⟨nowSysTime, by rw [hth, hq]⟩
        · refine Or.inl ?_
          dsimp only
          rw [hrec, if_neg hq]
    | _ => cases hcalm
  | _ =>
    cases hstep
    exact hsame rfl rfl rfl

/-! ## Fair runs -/

/-- The serial queue is moved by its own steps only, while it is at work. -/
theorem thread_of_step {l : ControlLabel} (hth : s.thread ≠ .idle)
    (hl : ∀ answer, l ≠ .thread answer) (hstep : s.step P S l = some t) :
    t.thread = s.thread := by
  cases l with
  | finishReceiver reply =>
    cases hstep
    unfold ControlManager.finishReceiver
    split <;> rfl
  | unsubscribeCommonEvent listener =>
    cases hstep
    unfold ControlManager.unsubscribeCommonEvent
    split
    · rfl
    · split <;> rfl
  | op i =>
    obtain ⟨op, -, rfl⟩ := Option.map_eq_some_iff.mp hstep
    exact stepOp_thread i op
  | processNextOrderedEvent =>
    unfold ControlManager.step at hstep
    dsimp only at hstep
    split at hstep
    next hidle _ => exact absurd hidle hth
    next => cases hstep
  | timeout handler =>
    unfold ControlManager.step at hstep
    dsimp only at hstep
    split at hstep
    next hc => exact absurd hc.1 hth
    next => cases hstep
  | thread answer => exact absurd rfl (hl answer)
  | _ =>
    cases hstep
    rfl

/-- The clock goes on. -/
theorem now_le_of_step {l : ControlLabel} (hl : ∀ answer, l ≠ .thread answer)
    (hstep : s.step P S l = some t) : s.now ≤ t.now := by
  cases l with
  | tick duration =>
    cases hstep
    exact Nat.le_add_right _ _
  | finishReceiver reply =>
    cases hstep
    unfold ControlManager.finishReceiver
    split <;> exact Nat.le_refl _
  | unsubscribeCommonEvent listener =>
    cases hstep
    unfold ControlManager.unsubscribeCommonEvent
    split
    · exact Nat.le_refl _
    · split <;> exact Nat.le_refl _
  | op i =>
    obtain ⟨op, -, rfl⟩ := Option.map_eq_some_iff.mp hstep
    cases op with
    | schedule =>
      obtain ⟨scheduled, queue, heq⟩ :=
        { s with ops := s.ops.eraseIdx i }.scheduleOrderedCommonEvent_eq
      unfold ControlManager.stepOp
      rw [heq]
    | finishUpdate call state =>
      rw [stepOp_finishUpdate]
      exact Nat.le_refl _
    | _ => exact Nat.le_refl _
  | processNextOrderedEvent =>
    unfold ControlManager.step at hstep
    dsimp only at hstep
    split at hstep
    · cases hstep
      exact Nat.le_refl _
    · cases hstep
  | timeout handler =>
    unfold ControlManager.step at hstep
    dsimp only at hstep
    split at hstep
    · cases hstep
      exact Nat.le_refl _
    · cases hstep
  | thread answer => exact absurd rfl (hl answer)
  | _ =>
    cases hstep
    exact Nat.le_refl _

/-- **A step of the serial queue comes nearer to the end of its task.** -/
theorem rank_stepThread {answer : Answer} (hstep : s.stepThread answer = some t)
    (hth : s.thread ≠ .queueSection) :
    t.thread.rank < s.thread.rank ∧ t.thread ≠ .queueSection := by
  have hcase := threadStep_of_stepThread hstep
  generalize s.thread = th at hcase hth
  cases hcase with
  | queueSection u removed sp hrun => exact absurd rfl hth
  | finalSubscriber removed rest sp => exact ⟨Nat.lt_succ_self _, nofun⟩
  | _ => exact ⟨by simp [OrderedThread.rank], nofun⟩

/-- **A fair run**: what the serial queue has begun goes on, a task that waits
is taken, a delayed task is taken or cancelled, and a service call in progress
goes on. Nothing is said of the receivers, who may never answer, nor of the
publishers, who may never stop. -/
structure Fair (ρ : (orderedMachine P S).EndlessRun) : Prop where
  thread : ∀ n, (ρ.state n).thread ≠ .idle →
    Machine.Later (fun m => ∃ answer, ρ.label m = .thread answer) n
  task : ∀ n, (ρ.state n).orderedQueue ≠ [] →
    Machine.Later (fun m => ρ.label m = .processNextOrderedEvent) n
  timeout : ∀ n, ∀ timer ∈ (ρ.state n).timers,
    Machine.Later (fun m => ρ.label m = .timeout timer.1 ∨ timer ∉ (ρ.state m).timers) n
  op : ∀ n, ∀ op ∈ (ρ.state n).ops,
    Machine.Later (fun m => ∃ i, ρ.label m = .op i ∧ (ρ.state m).ops[i]? = some op) n

/-- The step a run makes, by its label. -/
theorem step_of_label {ρ : (orderedMachine P S).EndlessRun} {n : ℕ} {l : ControlLabel}
    (hlabel : ρ.label n = l) : (ρ.state n).step P S l = some (ρ.state (n + 1)) := by
  rw [← hlabel]
  exact ρ.step n

namespace Fair

variable {ρ : (orderedMachine P S).EndlessRun} {n m f : ℕ}

/-- **The serial queue goes on from where it is**, and finds what every step
has kept until then. -/
theorem next (hfair : Fair ρ) {I : ControlManager → Prop}
    (hat : (ρ.state n).thread = th) (hth : th ≠ .idle)
    (hI : ∀ m, n ≤ m → (ρ.state m).thread = th → (∀ answer, ρ.label m ≠ .thread answer) →
      I (ρ.state m) → I (ρ.state (m + 1)))
    (h : I (ρ.state n)) :
    ∃ m answer, n ≤ m ∧ (ρ.state m).thread = th ∧ I (ρ.state m)
      ∧ (ρ.state m).ThreadStep answer th (ρ.state (m + 1)) := by
  have hlater := ρ.until_first (I := fun s => s.thread = th ∧ I s)
    (Q := fun m => ∃ answer, ρ.label m = .thread answer) (n := n) ?_ ⟨hat, h⟩
    (hfair.thread n (by rw [hat]; exact hth))
  · obtain ⟨m, hm, ⟨answer, hlabel⟩, hthm, hIm⟩ := hlater
    refine ⟨m, answer, hm, hthm, hIm, ?_⟩
    have hcase := threadStep_of_stepThread (step_of_label hlabel)
    rw [hthm] at hcase
    exact hcase
  · rintro m hm ⟨hthm, hIm⟩ hno
    have hl : ∀ answer, ρ.label m ≠ .thread answer := fun answer hl => hno ⟨answer, hl⟩
    refine ⟨?_, hI m hm hthm hl hIm⟩
    rw [← hthm]
    exact thread_of_step (by rw [hthm]; exact hth) hl (ρ.step m)

/-- **Every task of the serial queue ends.** -/
theorem later_idle (hfair : Fair ρ) (n : ℕ) :
    Machine.Later (fun m => (ρ.state m).thread = .idle) n := by
  -- first a task that is past the section under the queue's lock
  have hend : ∀ k n, (ρ.state n).thread.rank = k → (ρ.state n).thread ≠ .queueSection →
      Machine.Later (fun m => (ρ.state m).thread = .idle) n := by
    intro k
    induction k using Nat.strong_induction_on with
    | _ _ ih =>
      intro n hrank hth
      by_cases hidle : (ρ.state n).thread = .idle
      · exact .now hidle
      obtain ⟨m, hm, ⟨answer, hlabel⟩, hthm⟩ := ρ.until_first
        (I := fun s => s.thread = (ρ.state n).thread)
        (fun m _ hthm hno => (thread_of_step (by rw [hthm]; exact hidle)
          (fun answer hl => hno ⟨answer, hl⟩) (ρ.step m)).trans hthm) rfl (hfair.thread n hidle)
      obtain ⟨hlt, hne⟩ := rank_stepThread (step_of_label hlabel) (by rw [hthm]; exact hth)
      rw [hthm, hrank] at hlt
      exact (ih _ hlt (m + 1) rfl hne).of_le (Nat.le_succ_of_le hm)
  by_cases hth : (ρ.state n).thread = .queueSection
  · obtain ⟨m, answer, hm, -, -, hcase⟩ := hfair.next (I := fun _ => True) hth nofun
      (fun _ _ _ _ _ => trivial) trivial
    refine (hend _ (m + 1) rfl ?_).of_le (Nat.le_succ_of_le hm)
    generalize ρ.state (m + 1) = t at hcase
    cases hcase with
    | queueSection u removed sp hrun => exact nofun
  · exact hend _ n rfl hth

end Fair

/-- **The run gets nowhere from `n` on**: the record `r` waits, `f` is the
front of the queue, nobody is to be notified, and no step makes what is left
to do smaller. -/
structure Becalmed (ρ : (orderedMachine P S).EndlessRun) (r f n : ℕ) : Prop where
  mem : r ∈ (ρ.state n).orderedEventQueue
  front : (ρ.state n).front = some f
  calm : (ρ.state n).thread.calm = true
  steady : ∀ m, n ≤ m →
    ¬ (ρ.state (m + 1)).weight (ρ.state (m + 1)).thread r
      < (ρ.state m).weight (ρ.state m).thread r

namespace Becalmed

variable {ρ : (orderedMachine P S).EndlessRun} {n m f : ℕ}

theorem lull (h : Becalmed ρ r f n) : Lull (ρ.state n) (ρ.label n) (ρ.state (n + 1)) :=
  lull_step (dispatch_reachable (ρ.reachable n)) h.mem h.calm (ρ.step n)
    (h.steady n (Nat.le_refl n))

theorem succ (h : Becalmed ρ r f n) : Becalmed ρ r f (n + 1) := by
  obtain ⟨-, new, hq⟩ := (weight_step (dispatch_reachable (ρ.reachable n)) h.mem
    (ρ.step n)).resolve_left (h.steady n (Nat.le_refl n))
  obtain ⟨rest, hrest⟩ := List.head?_eq_some_iff.mp h.front
  refine ⟨?_, ?_, h.lull.calm, fun m hm => h.steady m (Nat.le_of_succ_le hm)⟩
  · rw [hq]
    exact List.mem_append_left _ h.mem
  · rw [ControlManager.front, hq, hrest]
    rfl

/-- Once the run gets nowhere it stays so. -/
theorem later (h : Becalmed ρ r f n) (hm : n ≤ m) : Becalmed ρ r f m := by
  induction m, hm using Nat.le_induction with
  | base => exact h
  | succ m _ ih => exact ih.succ

theorem front_mem (h : Becalmed ρ r f n) : f ∈ (ρ.state n).orderedEventQueue :=
  List.mem_of_mem_head? h.front

/-- Nobody is put to work. -/
theorem curReceiver (h : Becalmed ρ r f n) (hm : n ≤ m)
    (hcur : ((ρ.state n).records f).curReceiver = none) :
    ((ρ.state m).records f).curReceiver = none :=
  ρ.stays (I := fun s => (s.records f).curReceiver = none)
    (fun _ hk hkcur => (h.later hk).lull.curReceiver f (h.later hk).front_mem hkcur) hcur m hm

/-- **A task that waits gets somewhere**, once the front record has nobody at
work: the section under the queue's lock removes it, or chooses it. -/
theorem not_of_task (hfair : Fair ρ) (h : Becalmed ρ r f n)
    (hcur : ((ρ.state n).records f).curReceiver = none)
    (htask : (ρ.state n).orderedQueue ≠ []) : False := by
  obtain ⟨m, hm, hlabel⟩ := hfair.task n htask
  have hm1 : n ≤ m + 1 := Nat.le_succ_of_le hm
  have hth : (ρ.state (m + 1)).thread = .queueSection := by
    have hstep := step_of_label hlabel
    unfold ControlManager.step at hstep
    dsimp only at hstep
    split at hstep
    · rw [← Option.some.inj hstep]
    · cases hstep
  obtain ⟨k, answer, hk, hthk, -, hcase⟩ := hfair.next (I := fun _ => True) hth nofun
    (fun _ _ _ _ _ => trivial) trivial
  have hnk : n ≤ k := Nat.le_trans hm1 hk
  have hd := dispatch_reachable (ρ.reachable k)
  have ha := activity_reachable (ρ.reachable k)
  have hsteady := h.steady k hnk
  rw [hthk] at hd ha hsteady
  generalize ρ.state (k + 1) = t at hcase hsteady
  cases hcase with
  | queueSection u removed sp hrun =>
    have hnotdone : ¬ (removed ≠ [] ∨ sp ≠ none) := fun hdone => by
      have hlt := weight_section hd (h.later hnk).mem hrun hdone
      exact hsteady hlt
    simp only [not_or, not_not] at hnotdone
    obtain ⟨rfl, rfl⟩ := hnotdone
    obtain rfl := processOrderedEventQueueLocked_none hrun
    -- it leaves the front record only if somebody is at work on it
    exact (ha.processOrderedEventQueueLocked hrun).2 f rfl (h.later hnk).front
      (h.curReceiver hnk hcur)

/-- A receiver that is given up on has nobody at work, and a task is
submitted. -/
theorem not_of_timeoutHandle (hfair : Fair ρ) (h : Becalmed ρ r f n) {now : ℕ}
    (hth : (ρ.state n).thread = .timeoutHandle f now) : False := by
  obtain ⟨m, answer, hm, -, -, hcase⟩ := hfair.next (I := fun _ => True) hth (by simp)
    (fun _ _ _ _ _ => trivial) trivial
  have hm1 : n ≤ m + 1 := Nat.le_succ_of_le hm
  have hdone : ((ρ.state (m + 1)).records f).curReceiver = none
      ∧ (ρ.state (m + 1)).thread = .reschedule := by
    generalize ρ.state (m + 1) = t at hcase
    cases hcase with
    | timeoutHandle sp now =>
      refine ⟨?_, rfl⟩
      dsimp only
      rw [handleTimeoutReceiver, modify_records, if_pos rfl]
  obtain ⟨k, answer, hk, -, -, hcase⟩ := hfair.next (I := fun _ => True) hdone.2 (by simp)
    (fun _ _ _ _ _ => trivial) trivial
  have hk1 : m + 1 ≤ k + 1 := Nat.le_succ_of_le hk
  have ha := activity_reachable (ρ.reachable k)
  refine (h.later (Nat.le_trans hm1 hk1)).not_of_task hfair
    ((h.later hm1).curReceiver hk1 hdone.1) ?_
  generalize ρ.state (k + 1) = t at hcase
  cases hcase with
  | reschedule =>
    exact List.ne_nil_of_mem (true_mem_scheduleOrderedCommonEvent ha.scheduled)

/-- **The timer comes**, or a receiver is given up on before. -/
theorem later_timeout (hfair : Fair ρ) (h : Becalmed ρ r f n) {timer : ℕ × ℕ}
    (htimer : timer ∈ (ρ.state n).timers) :
    ∃ m, n ≤ m ∧ ((ρ.state m).records f).receiverTime = ((ρ.state n).records f).receiverTime
      ∧ ((∃ now, (ρ.state m).thread = .timeoutHandle f now)
        ∨ ((ρ.state (m + 1)).thread = .timeoutFront ∧ timer.2 ≤ (ρ.state (m + 1)).now
          ∧ ((ρ.state (m + 1)).records f).receiverTime
            = ((ρ.state n).records f).receiverTime)) := by
  -- while it does not come, the timer and the time of the receiver stay
  have hkeep : ∀ m, n ≤ m → timer ∈ (ρ.state m).timers
        ∧ ((ρ.state m).records f).receiverTime = ((ρ.state n).records f).receiverTime →
      ¬ ((∃ handler, ρ.label m = .timeout handler)
        ∨ ∃ now, (ρ.state m).thread = .timeoutHandle f now) →
      timer ∈ (ρ.state (m + 1)).timers
        ∧ ((ρ.state (m + 1)).records f).receiverTime
          = ((ρ.state n).records f).receiverTime := by
    rintro m hm ⟨hmem, htime⟩ hno
    have hlull := (h.later hm).lull
    refine ⟨(hlull.timers timer hmem).resolve_right fun hl => hno (Or.inl hl), ?_⟩
    rw [← htime]
    exact (hlull.receiverTime f (h.later hm).front_mem).resolve_right
      fun hth => hno (Or.inr hth)
  have hlater : Machine.Later (fun m => (∃ handler, ρ.label m = .timeout handler)
      ∨ ∃ now, (ρ.state m).thread = .timeoutHandle f now) n := by
    by_contra hnever
    have hmem := ρ.stays (I := fun s => timer ∈ s.timers
        ∧ (s.records f).receiverTime = ((ρ.state n).records f).receiverTime)
      (fun m hm hI => hkeep m hm hI fun hQ => hnever ⟨m, hm, hQ⟩) ⟨htimer, rfl⟩
    obtain ⟨m, hm, hlabel | hgone⟩ := hfair.timeout n timer htimer
    · exact hnever ⟨m, hm, Or.inl ⟨timer.1, hlabel⟩⟩
    · exact hgone (hmem m hm).1
  obtain ⟨m, hm, hcame, hmem, htime⟩ := ρ.until_first
    (I := fun s => timer ∈ s.timers
      ∧ (s.records f).receiverTime = ((ρ.state n).records f).receiverTime)
    hkeep ⟨htimer, rfl⟩ hlater
  refine ⟨m, hm, htime, ?_⟩
  rcases hcame with ⟨handler, hlabel⟩ | hhandle
  · refine Or.inr ?_
    have hstep := step_of_label hlabel
    have hw := watchdog_reachable (ρ.reachable m)
    rw [← htime]
    unfold ControlManager.step at hstep
    dsimp only at hstep
    split at hstep
    next hc =>
      obtain ⟨hth, hdue⟩ := hc
      rw [hth] at hw
      -- the task that is due is this one, the only one there is
      have hlen := congrArg List.length (hw.timers_map nofun)
      rw [List.length_map] at hlen
      have hle : (ρ.state m).timers.length ≤ 1 := by
        rw [hlen]
        split <;> simp
      obtain ⟨due, hdue, htest⟩ := List.any_eq_true.mp hdue
      obtain rfl : due = timer := by
        obtain ⟨x, hx⟩ := List.length_eq_one_iff.mp
          (Nat.le_antisymm hle (List.length_pos_of_mem hmem))
        rw [hx] at hdue hmem
        rw [List.mem_singleton.mp hdue, List.mem_singleton.mp hmem]
      have hnow : due.2 ≤ (ρ.state m).now := by
        simpa using (Bool.and_eq_true_iff.mp htest).2
      rw [← Option.some.inj hstep]
      exact ⟨rfl, hnow, rfl⟩
    next => cases hstep
  · exact Or.inl hhandle

/-- **A receiver is given up on.** If the timer comes too early it is set
again, and the next time it is not too early any more. -/
theorem later_timeoutHandle (hfair : Fair ρ) (h : Becalmed ρ r f n) {timer : ℕ × ℕ}
    (htimer : timer ∈ (ρ.state n).timers) :
    ∃ m now, n ≤ m ∧ (ρ.state m).thread = .timeoutHandle f now := by
  obtain ⟨x, hx⟩ : ∃ x, ((ρ.state n).records f).receiverTime + TIMEOUT - timer.2 = x := ⟨_, rfl⟩
  induction x using Nat.strong_induction_on generalizing n timer with
  | _ x ih =>
    obtain ⟨m, hm, -, ⟨now, hth⟩ | ⟨hth, hdue, htime⟩⟩ := h.later_timeout hfair htimer
    · exact ⟨m, now, hm, hth⟩
    have hm1 : n ≤ m + 1 := Nat.le_succ_of_le hm
    -- the two steps of the callback, and what others leave in between
    have hkeep : ∀ k, n ≤ k → (∀ now, (ρ.state k).thread ≠ .timeoutHandle f now) →
        (∀ answer, ρ.label k ≠ .thread answer) →
        timer.2 ≤ (ρ.state k).now ∧ ((ρ.state k).records f).receiverTime
          = ((ρ.state n).records f).receiverTime →
        timer.2 ≤ (ρ.state (k + 1)).now ∧ ((ρ.state (k + 1)).records f).receiverTime
          = ((ρ.state n).records f).receiverTime := by
      rintro k hk hno hl ⟨hnow, htime⟩
      refine ⟨Nat.le_trans hnow (now_le_of_step hl (ρ.step k)), ?_⟩
      rw [← htime]
      exact ((h.later hk).lull.receiverTime f (h.later hk).front_mem).resolve_right
        fun ⟨now, hth⟩ => hno now hth
    obtain ⟨k, answer, hk, -, ⟨hdue, htime⟩, hcase⟩ := hfair.next
      (I := fun s => timer.2 ≤ s.now ∧ (s.records f).receiverTime
        = ((ρ.state n).records f).receiverTime) hth nofun
      (fun k hk hthk hl => hkeep k (Nat.le_trans hm1 hk) (by rw [hthk]; exact nofun) hl)
      ⟨hdue, htime⟩
    have hnk : n ≤ k := Nat.le_trans hm1 hk
    have hcheck : (ρ.state (k + 1)).thread = .timeoutCheck f
        ∧ timer.2 ≤ (ρ.state (k + 1)).now ∧ ((ρ.state (k + 1)).records f).receiverTime
          = ((ρ.state n).records f).receiverTime := by
      have hfront := (h.later hnk).front
      generalize ρ.state (k + 1) = t at hcase
      cases hcase with
      | timeoutEmpty hnone =>
        rw [hnone] at hfront
        cases hfront
      | timeoutFront sp hsp =>
        obtain rfl : sp = f := Option.some.inj (hsp.symm.trans hfront)
        exact ⟨rfl, hdue, htime⟩
    have hnk1 : n ≤ k + 1 := Nat.le_succ_of_le hnk
    obtain ⟨j, answer, hj, hthj, ⟨hdue, htime⟩, hcase⟩ := hfair.next
      (I := fun s => timer.2 ≤ s.now ∧ (s.records f).receiverTime
        = ((ρ.state n).records f).receiverTime) hcheck.1 nofun
      (fun j hj hthj hl => hkeep j (Nat.le_trans hnk1 hj) (by rw [hthj]; exact nofun) hl)
      hcheck.2
    have hnj : n ≤ j + 1 := Nat.le_succ_of_le (Nat.le_trans hnk1 hj)
    have hw := watchdog_reachable (ρ.reachable j)
    rw [hthj] at hw
    have hpending := hw.handling nofun
    have hnext : (∃ now, (ρ.state (j + 1)).thread = .timeoutHandle f now)
        ∨ ((ρ.state j).records f).receiverTime + TIMEOUT > (ρ.state j).now
          ∧ ((ρ.state (j + 1)).records f).receiverTime = ((ρ.state j).records f).receiverTime
          ∧ ((ρ.state j).nextHandler, (ρ.state j).now + TIMEOUT) ∈ (ρ.state (j + 1)).timers := by
      generalize ρ.state (j + 1) = t at hcase
      cases hcase with
      | timeoutEarly sp hearly =>
        refine Or.inr ⟨hearly, by dsimp only; rw [setTimeout_records.1], ?_⟩
        dsimp only
        rw [ControlManager.setTimeout, hpending]
        exact List.mem_append_right _ (List.mem_singleton_self _)
      | timeoutDue sp hdue => exact Or.inl ⟨_, rfl⟩
    rcases hnext with ⟨now, hhandle⟩ | ⟨hearly, hsame, hmem⟩
    · exact ⟨j + 1, now, hnj, hhandle⟩
    · rw [htime] at hearly
      have hlt : ((ρ.state (j + 1)).records f).receiverTime + TIMEOUT
          - ((ρ.state j).now + TIMEOUT) < x := by
        rw [hsame, htime, ← hx]
        have hpos : 0 < TIMEOUT := by decide
        omega
      obtain ⟨i, now, hi, hhandle⟩ := ih _ hlt (h.later hnj) hmem rfl
      exact ⟨i, now, Nat.le_trans hnj hi, hhandle⟩

/-- **A fair run gets somewhere.** -/
theorem not_fair (h : Becalmed ρ r f n) (hth : (ρ.state n).thread = .idle) : ¬ Fair ρ := by
  intro hfair
  have hw := watchdog_reachable (ρ.reachable n)
  have hgoing := going_reachable (ρ.reachable n) (List.ne_nil_of_mem h.mem)
  rw [hth] at hw hgoing
  have hnot : (ρ.state n).pendingTimeoutMessage ≠ true := by
    intro hpending
    have hmap := hw.timers_map nofun
    rw [if_pos hpending] at hmap
    obtain ⟨timer, htimer, -⟩ := List.mem_map.mp
      (by rw [hmap]; exact List.mem_singleton_self _ :
        (ρ.state n).orderedHandler ∈ (ρ.state n).timers.map Prod.fst)
    obtain ⟨m, now, hm, hhandle⟩ := h.later_timeoutHandle hfair htimer
    exact (h.later hm).not_of_timeoutHandle hfair hhandle
  -- without the timer nobody is at work
  have hcur : ((ρ.state n).records f).curReceiver = none := by
    by_contra hcur
    exact hnot (hw.pending_of_curReceiver rfl hcur)
  rcases hgoing with htask | ⟨op, hop, hwakes⟩ | hpending | hgoes
  · exact h.not_of_task hfair hcur htask
  · obtain ⟨m, hm, i, hlabel, hi⟩ := hfair.op n op hop
    have hm1 : n ≤ m + 1 := Nat.le_succ_of_le hm
    refine (h.later hm1).not_of_task hfair (h.curReceiver hm1 hcur) ?_
    obtain ⟨op', hi', hnext⟩ := Option.map_eq_some_iff.mp (step_of_label hlabel)
    obtain rfl : op = op' := Option.some.inj (hi.symm.trans hi')
    rw [← hnext]
    exact orderedQueue_ne_nil_of_wakes
      (activity_reachable (ρ.reachable m)).scheduled i hwakes
  · exact hnot hpending
  · cases hgoes

end Becalmed

/-- **Progress**: as long as a record waits, a fair run makes what is left to
do before it smaller. -/
theorem Fair.later_lt {ρ : (orderedMachine P S).EndlessRun} (hfair : Fair ρ) {n : ℕ}
    (hr : r ∈ (ρ.state n).orderedEventQueue) :
    Machine.Later (fun m => (ρ.state (m + 1)).weight (ρ.state (m + 1)).thread r
      < (ρ.state m).weight (ρ.state m).thread r) n := by
  by_contra hnever
  have hsteady : ∀ m, n ≤ m → ¬ (ρ.state (m + 1)).weight (ρ.state (m + 1)).thread r
      < (ρ.state m).weight (ρ.state m).thread r := fun m hm hlt => hnever ⟨m, hm, hlt⟩
  have hmem := ρ.stays (I := fun s => r ∈ s.orderedEventQueue) (n := n) (fun m hm hmem => by
    obtain ⟨-, new, hq⟩ := (weight_step (dispatch_reachable (ρ.reachable m)) hmem
      (ρ.step m)).resolve_left (hsteady m hm)
    rw [hq]
    exact List.mem_append_left _ hmem) hr
  obtain ⟨m, hm, hth⟩ := hfair.later_idle n
  obtain ⟨f, rest, hq, -⟩ := (dispatch_reachable (ρ.reachable m)).front_le (hmem m hm)
  have hcalm : Becalmed ρ r f m :=
    ⟨hmem m hm, by rw [ControlManager.front, hq]; rfl, by rw [hth]; rfl,
      fun k hk => hsteady k (Nat.le_trans hm hk)⟩
  exact hcalm.not_fair hth hfair

/-- **Every record that waits leaves the queue.** -/
theorem Fair.later_leaves {ρ : (orderedMachine P S).EndlessRun} (hfair : Fair ρ) (n : ℕ) :
    Machine.Later (fun m => r ∉ (ρ.state m).orderedEventQueue) n := by
  refine Machine.later_of_decreasing (fun m => (ρ.state m).weight (ρ.state m).thread r)
    fun m _ hr => ?_
  rw [not_not] at hr
  obtain ⟨k, hk, hlt⟩ := hfair.later_lt hr
  -- until then the record waits, and the weight is no greater, or it has left
  have hwaits : ∀ j, m ≤ j → Machine.Later (fun i => r ∉ (ρ.state i).orderedEventQueue) m
      ∨ (r ∈ (ρ.state j).orderedEventQueue
        ∧ (ρ.state j).weight (ρ.state j).thread r ≤ (ρ.state m).weight (ρ.state m).thread r) := by
    intro j hj
    induction j, hj using Nat.le_induction with
    | base => exact Or.inr ⟨hr, Nat.le_refl _⟩
    | succ j hj ih =>
      rcases ih with hleft | ⟨hmem, hle⟩
      · exact Or.inl hleft
      by_cases hmem' : r ∈ (ρ.state (j + 1)).orderedEventQueue
      · refine Or.inr ⟨hmem', Nat.le_trans ?_ hle⟩
        rcases weight_step (dispatch_reachable (ρ.reachable j)) hmem (ρ.step j) with
          hlt | ⟨heq, -⟩
        · exact Nat.le_of_lt hlt
        · exact Nat.le_of_eq heq
      · exact Or.inl ⟨j + 1, Nat.le_succ_of_le hj, hmem'⟩
  rcases hwaits k hk with ⟨i, hi, hleft⟩ | ⟨-, hle⟩
  · exact ⟨i, hi, Or.inl hleft⟩
  · exact ⟨k + 1, Nat.le_succ_of_le hk, Or.inr (Nat.lt_of_lt_of_le hlt hle)⟩

/-! ## How an ordered event ends -/

/-- **An ordered event has been served**: all its receivers were notified, in
order and once each; or it was aborted; or its delivery was begun and has had
more than twice the time of all its receivers. -/
def Served (s : ControlManager) (r : ℕ) : Prop :=
  notifiedOf s.trace r = List.range (s.records r).receivers.length
    ∨ (s.records r).resultAbort = true
    ∨ (s.records r).dispatchTime > 0 ∧ s.now > (s.records r).dispatchTime
        + DOUBLE * TIMEOUT * (s.records r).receivers.length

/-- What leaves the queue has been served. -/
theorem Removable.served {removed : List ℕ} {sp : Option ℕ}
    (hd : s.Dispatch (.finals removed sp)) (h : s.Removable r) : s.Served r := by
  have hnotified := hd.notified r
  rw [show (OrderedThread.finals removed sp).unnotified = none from rfl, if_neg nofun,
    Nat.sub_zero] at hnotified
  have hall : (s.records r).nextReceiver ≥ (s.records r).receivers.length →
      notifiedOf s.trace r = List.range (s.records r).receivers.length := by
    intro hge
    rw [hnotified, Nat.le_antisymm (hd.nextReceiver_le r) hge]
  rcases h.2 with hnil | hge | habort | hover
  · refine Or.inl (hall ?_)
    rw [hnil]
    exact Nat.zero_le _
  · exact Or.inl (hall hge)
  · exact Or.inr (Or.inl habort)
  · exact Or.inr (Or.inr hover)

/-- **An ordered event leaves the queue**: it has been served, and its final
receiver has not been called. -/
structure Leaves (s t : ControlManager) (r : ℕ) : Prop where
  waited : r ∈ s.orderedEventQueue
  gone : r ∉ t.orderedEventQueue
  served : t.Served r
  unfinished : r ∉ finalsOf t.trace

/-- The trace of a run grows, and what is removed is removed for a reason. -/
theorem trace_step {l : ControlLabel} (hd : s.Dispatch s.thread)
    (hstep : s.step P S l = some t) :
    ∃ more, t.trace = s.trace ++ more ∧ ∀ r ∈ removedOf more, s.Leaves t r := by
  have hdt := dispatch_step hd hstep
  have hfinals := hd.finalsInOrder
  rcases queue_step hstep with ⟨new, -, htr⟩ | ⟨u, removed, sp, hth, hrun, rfl⟩ |
    ⟨r, rest, sp, -, -, htr⟩ | ⟨sp, i, -, -, htr⟩
  · exact ⟨[], by rw [htr, List.append_nil], by simp [removedOf]⟩
  · rw [hth] at hd
    have hnodup := hd.pairwise.nodup
    have hdone := (processOrderedEventQueueLocked_spec hnodup hrun).1
    rw [hdone.queue] at hnodup
    refine ⟨removed.map .removed, hdone.trace, fun r hr => ?_⟩
    have hmem : r ∈ removed := by
      simpa [removedOf, List.filterMap_map, Function.comp_def, TraceEvent.removed?] using hr
    have hwaited : r ∈ s.orderedEventQueue := by
      rw [hdone.queue]
      exact List.mem_append_left _ hmem
    refine ⟨hwaited, fun hleft => ?_, Removable.served hdt (hdone.removable r hmem),
      fun hfinal => ?_⟩
    · exact (List.nodup_append.mp hnodup).2.2 r hmem r hleft rfl
    · -- a step that removes calls no final receiver
      have hbefore : r ∈ finalsOf s.trace := by
        rw [hdone.trace, finalsOf, List.filterMap_append] at hfinal
        refine (List.mem_append.mp hfinal).resolve_right fun hnew => ?_
        obtain ⟨e, he, hr⟩ := List.mem_filterMap.mp hnew
        obtain ⟨r', -, rfl⟩ := List.mem_map.mp he
        cases hr
      exact hfinals.removed r hbefore hwaited
  · exact ⟨_, htr, by simp [removedOf, TraceEvent.removed?]⟩
  · exact ⟨_, htr, by simp [removedOf, TraceEvent.removed?]⟩

/-- What a run has removed had been served when it left the queue. -/
theorem exists_leaves (ρ : (orderedMachine P S).EndlessRun) (n : ℕ) :
    ∀ r ∈ removedOf (ρ.state n).trace, ∃ k < n, (ρ.state k).Leaves (ρ.state (k + 1)) r := by
  induction n with
  | zero =>
    intro r hr
    rw [ρ.init] at hr
    cases hr
  | succ n ih =>
    intro r hr
    obtain ⟨more, htr, hleaves⟩ := trace_step (dispatch_reachable (ρ.reachable n)) (ρ.step n)
    rw [htr, removedOf, List.filterMap_append] at hr
    rcases List.mem_append.mp hr with hr | hr
    · obtain ⟨k, hk, hr⟩ := ih r hr
      exact ⟨k, Nat.lt_succ_of_lt hk, hr⟩
    · exact ⟨n, Nat.lt_succ_self n, hleaves r hr⟩

theorem nextRecord_le_of_step {l : ControlLabel} (hstep : s.step P S l = some t) :
    s.nextRecord ≤ t.nextRecord := by
  rcases identity_step hstep with ⟨request, -, rfl⟩ | ⟨-, -, hnext, -⟩
  · exact Nat.le_succ _
  · exact hnext.ge

/-- **Every ordered event comes to its end.** In a fair run every event that
is published leaves the queue, served by then, and its final receiver is called
after that, whatever the receivers answer or do not answer, whatever is
published behind it, and whatever wake-ups are lost. -/
theorem every_event_ends {ρ : (orderedMachine P S).EndlessRun} (hfair : Fair ρ) {n r : ℕ}
    (hr : r < (ρ.state n).nextRecord) :
    ∃ k m, k < m ∧ n ≤ m ∧ (ρ.state k).Leaves (ρ.state (k + 1)) r
      ∧ r ∈ finalsOf (ρ.state m).trace := by
  obtain ⟨m, hm, hleft⟩ := hfair.later_leaves (r := r) n
  have hnext := ρ.stays (I := fun s => r < s.nextRecord)
    (fun k _ hk => Nat.lt_of_lt_of_le hk (nextRecord_le_of_step (ρ.step k))) hr m hm
  have hremoved : r ∈ removedOf (ρ.state m).trace := by
    have hmem := List.mem_range.mpr hnext
    rw [← (dispatch_reachable (ρ.reachable m)).queue] at hmem
    exact (List.mem_append.mp hmem).resolve_right hleft
  obtain ⟨k, hk, hth⟩ := hfair.later_idle m
  have hstill := ρ.stays (I := fun s => r ∈ removedOf s.trace)
    (fun j _ hj => by
      obtain ⟨more, htr, -⟩ := trace_step (dispatch_reachable (ρ.reachable j)) (ρ.step j)
      rw [htr, removedOf, List.filterMap_append]
      exact List.mem_append_left _ hj) hremoved k hk
  obtain ⟨j, hj, hleaves⟩ := exists_leaves ρ k r hstill
  refine ⟨j, k, hj, Nat.le_trans hm hk, hleaves, ?_⟩
  have hfinals := (dispatch_reachable (ρ.reachable k)).finals
  rw [hth, show OrderedThread.idle.finalsLeft = [] from rfl, List.append_nil] at hfinals
  rw [← hfinals]
  exact hstill

/-! ## Runs that come to rest -/

/-- **The pipeline is at rest**: no task, no timer, no call in progress. -/
structure AtRest (s : ControlManager) : Prop where
  thread : s.thread = .idle
  orderedQueue : s.orderedQueue = []
  timers : s.timers = []
  ops : s.ops = []

/-- A task that waits goes on waiting until one is taken. -/
theorem orderedQueue_of_step {l : ControlLabel} (hl : l ≠ .processNextOrderedEvent)
    (hstep : s.step P S l = some t) (h : s.orderedQueue ≠ []) : t.orderedQueue ≠ [] := by
  have hschedule : ∀ s : ControlManager, s.orderedQueue ≠ [] →
      s.scheduleOrderedCommonEvent.orderedQueue ≠ [] := by
    intro s hs
    unfold ControlManager.scheduleOrderedCommonEvent
    split
    · exact hs
    · exact List.append_ne_nil_of_left_ne_nil hs _
  cases l with
  | finishReceiver reply =>
    cases hstep
    unfold ControlManager.finishReceiver
    split <;> exact h
  | unsubscribeCommonEvent listener =>
    cases hstep
    unfold ControlManager.unsubscribeCommonEvent
    split
    · exact h
    · split <;> exact h
  | op i =>
    obtain ⟨op, -, rfl⟩ := Option.map_eq_some_iff.mp hstep
    cases op with
    | schedule => exact hschedule _ h
    | finishUpdate call state =>
      rw [stepOp_finishUpdate]
      exact List.append_ne_nil_of_left_ne_nil h _
    | _ => exact h
  | processNextOrderedEvent => exact absurd rfl hl
  | timeout handler =>
    unfold ControlManager.step at hstep
    dsimp only at hstep
    split at hstep
    · cases hstep
      exact h
    · cases hstep
  | thread answer =>
    have hcase := threadStep_of_stepThread hstep
    generalize s.thread = th at hcase
    cases hcase with
    | queueSection u removed sp hrun =>
      dsimp only
      rw [(ops_processOrderedEventQueueLocked hrun).1]
      exact h
    | finalSubscriber removed rest sp =>
      dsimp only
      rw [(handleFinalSubscriber_records removed answer.hasProxy).2.2.1]
      exact h
    | setTimeout sp i =>
      dsimp only
      rw [setTimeout_records.2.2.2.1]
      exact h
    | timeoutEarly sp hearly =>
      dsimp only
      rw [setTimeout_records.2.2.2.1]
      exact h
    | reschedule => exact hschedule s h
    | _ => exact h
  | _ =>
    cases hstep
    exact h

/-- A call in progress goes on only by a step of its own. -/
theorem mem_ops_of_step {l : ControlLabel} {op : ServiceOp} (hstep : s.step P S l = some t)
    (hop : op ∈ s.ops) (hl : ∀ i, l = .op i → s.ops[i]? ≠ some op) : op ∈ t.ops := by
  rcases ops_step hstep with heq | ⟨request, -, heq⟩ | ⟨reply, sp, -, -, heq⟩ |
    ⟨listener, sp, -, -, heq⟩ | ⟨i, op', rfl, hi, -, heq⟩
  · rw [heq]
    exact hop
  · rw [heq]
    exact List.mem_append_left _ hop
  · rw [heq]
    exact List.mem_append_left _ hop
  · rw [heq]
    exact List.mem_append_left _ hop
  · obtain ⟨j, hj⟩ := List.mem_iff_getElem?.mp hop
    have hne : j ≠ i := by
      rintro rfl
      exact hl j rfl hj
    rcases heq with heq | ⟨op'', heq, -⟩
    · rw [heq]
      exact List.mem_eraseIdx_iff_getElem?.mpr ⟨j, hne, hj⟩
    · rw [heq]
      refine List.mem_iff_getElem?.mpr ⟨j, ?_⟩
      rw [List.getElem?_set_ne hne.symm]
      exact hj

/-- **A run that comes to rest is fair**, and stays at rest while the time
goes on. -/
theorem fair_of_atRest {ls : List ControlLabel} (hs : (orderedMachine P S).run ls = some s)
    (hrest : s.AtRest) :
    Fair (Machine.EndlessRun.ofRest (orderedMachine P S) ls (.tick 0) hs rfl) := by
  set ρ := Machine.EndlessRun.ofRest (orderedMachine P S) ls (.tick 0) hs rfl with hρ
  have hend : ∀ n, ρ.state (n + ls.length) = s := fun n =>
    Machine.EndlessRun.state_ofRest hs rfl (Nat.le_add_left _ _)
  -- what is owed at `n` is no longer owed at the end, so it has been done
  have hdone : ∀ (I : ControlManager → Prop) (Q : ℕ → Prop) (n : ℕ), I (ρ.state n) → ¬ I s →
      (∀ m, I (ρ.state m) → ¬ Q m → I (ρ.state (m + 1))) → Machine.Later Q n := by
    intro I Q n hI hnot hkeep
    refine ρ.later_of_leaves (fun m _ => hkeep m) hI ⟨n + ls.length, Nat.le_add_right _ _, ?_⟩
    show ¬ I (ρ.state (n + ls.length))
    rw [hend]
    exact hnot
  refine ⟨fun n hn => ?_, fun n hn => ?_, fun n timer _ => ?_, fun n op hop => ?_⟩
  · refine hdone (fun s => s.thread ≠ .idle) _ n hn (fun h => h hrest.thread) ?_
    intro m hm hno
    rw [thread_of_step hm (fun answer hl => hno ⟨answer, hl⟩) (ρ.step m)]
    exact hm
  · exact hdone (fun s => s.orderedQueue ≠ []) _ n hn (fun h => h hrest.orderedQueue)
      fun m hm hno => orderedQueue_of_step hno (ρ.step m) hm
  · refine ⟨n + ls.length, Nat.le_add_right _ _, Or.inr ?_⟩
    rw [hend, hrest.timers]
    exact List.not_mem_nil
  · refine hdone (fun s => op ∈ s.ops) _ n hop (by rw [hrest.ops]; exact List.not_mem_nil) ?_
    exact fun m hm hno => mem_ops_of_step (ρ.step m) hm fun i hl hi => hno ⟨i, hl, hi⟩

/-- The one listener never answers, and is given up on. -/
def untilGivenUp : List ControlLabel :=
  untilCalled ++ List.replicate 3 (.thread {}) ++ [.tick TIMEOUT, .timeout 0]
    ++ List.replicate 4 (.thread {}) ++ [.processNextOrderedEvent] ++ List.replicate 3 (.thread {})

/-- The event to a listener that never answers comes to its end. -/
theorem every_event_ends_untilGivenUp :
    ∃ ρ : (orderedMachine {} .insertion).EndlessRun, Fair ρ
      ∧ ∃ k m, k < m ∧ (ρ.state k).Leaves (ρ.state (k + 1)) 0
        ∧ 0 ∈ finalsOf (ρ.state m).trace := by
  obtain ⟨s, hs, hstate⟩ := Option.map_eq_some_iff.mp
    (show ((orderedMachine {} .insertion).run untilGivenUp).map
      (fun s => (decide (s.thread = .idle), s.orderedQueue, s.timers, s.ops.length, s.nextRecord))
        = some (true, [], [], 0, 1) by decide +kernel)
  simp only [Prod.mk.injEq, decide_eq_true_eq] at hstate
  obtain ⟨hthread, hord, htimers, hops, hnext⟩ := hstate
  have hfair := fair_of_atRest hs ⟨hthread, hord, htimers, List.eq_nil_of_length_eq_zero hops⟩
  have hpublished : 0 < (((orderedMachine {} .insertion).run
      (untilGivenUp.take untilGivenUp.length)).getD s).nextRecord := by
    rw [List.take_length, hs]
    show 0 < s.nextRecord
    omega
  obtain ⟨k, m, hkm, -, hleaves, hfinal⟩ :=
    every_event_ends hfair (n := untilGivenUp.length) hpublished
  exact ⟨_, hfair, k, m, hkm, hleaves, hfinal⟩

end ControlManager

end CommonEventService

import CommonEventService.OrderedActivity

/-!
# Wake-ups

When nobody is at work on the front record, somebody has to look at the queue
again: a task that is waiting, a call that is about to submit one, or the
serial queue itself on its way to the end of a task. `Wakeful` says that
there is always one of the three, and it is an invariant of every step but
one.

The exception is the locked update of `FinishReceiver`. It makes the front
record idle on the strength of a state it read before it took the lock, and
leaves the submitting to the serial queue whenever that state was not
`RECEIVED`. If the notification has returned and its task has ended in
between, nobody is left to go on, and the queue stands still until a timeout
or another publish. `WakeUpOk` is the condition under which the update does
no such thing.
-/

namespace CommonEventService

/-- Whether a service call submits a task at its next step. -/
def ServiceOp.wakes : ServiceOp → Bool
  | .schedule => true
  | .readResult _ _ => false
  | .finishLoad _ => false
  | .finishUpdate _ state => state = .RECEIVED

/-- Whether an unsubscription has not come to `FinishReceiverAction` yet. -/
def ServiceOp.isReading : ServiceOp → Bool
  | .readResult _ _ => true
  | _ => false

/-- How many steps of `FinishReceiverAction` a service call still takes. -/
def ServiceOp.steps : ServiceOp → ℕ
  | .schedule => 0
  | .readResult _ _ => 0
  | .finishLoad _ => 2
  | .finishUpdate _ _ => 1

/-- What goes on without anybody else: the serial queue and the service calls
in progress. -/
def ControlLabel.finishes : ControlLabel → Bool
  | .op _ => true
  | .thread _ => true
  | _ => false

namespace ControlManager

variable {P : Platform} {S : StdSort} {s t : ControlManager} {th th' : OrderedThread}

/-- Whether the receiver of a record has used up its time. -/
def timeIsUp (s : ControlManager) (sp : ℕ) : Bool :=
  (s.records sp).receiverTime + TIMEOUT ≤ s.now

/-- Whether the serial queue, going on from `th`, ends with a task submitted
or with a receiver at work. -/
def threadWakes (s : ControlManager) : OrderedThread → Bool
  | .idle => false
  | .finals _ sp => sp.isSome
  | .timeoutFront => s.front.any s.timeIsUp
  | .timeoutCheck sp => s.timeIsUp sp
  | _ => true

/-- **Somebody will look at the queue**, with the program counter at `th`. -/
def Awake (s : ControlManager) (th : OrderedThread) : Prop :=
  s.orderedQueue ≠ [] ∨ (∃ op ∈ s.ops, op.wakes) ∨ s.threadWakes th

instance : Decidable (s.Awake th) := inferInstanceAs (Decidable (_ ∨ _ ∨ _))

/-- **The invariant of wake-ups**: somebody is at work on the front record,
or somebody will look at the queue. -/
def Wakeful (s : ControlManager) (th : OrderedThread) : Prop :=
  ∀ sp, s.front = some sp → (s.records sp).curReceiver = none → s.Awake th

/-- **A lost wake-up**: the front record is idle and has no current receiver,
the serial queue has nothing to do, and no call in progress has come to
`FinishReceiverAction` or to `ScheduleOrderedCommonEvent`. -/
def Lost (s : ControlManager) : Prop :=
  (∃ sp ∈ s.front, (s.records sp).state = .IDLE ∧ (s.records sp).curReceiver = none)
    ∧ s.thread = .idle ∧ s.orderedQueue = [] ∧ ∀ op ∈ s.ops, op.isReading

instance : Decidable s.Lost := inferInstanceAs (Decidable (_ ∧ _ ∧ _ ∧ _))

/-- What a service call has to meet when it makes its next step: an update
that rests on another state than `RECEIVED` finds the record without a
current receiver, or somebody else will look at the queue. -/
def OpWakes (s : ControlManager) (i : ℕ) : ServiceOp → Prop
  | .finishUpdate call state =>
    state = .RECEIVED ∨ (s.records call.record).curReceiver = none
      ∨ Awake { s with ops := s.ops.eraseIdx i } s.thread
  | _ => True

/-- **The condition on a step** under which it loses no wake-up. -/
def WakeUpOk (s : ControlManager) : ControlLabel → Prop
  | .op i => ∀ op ∈ s.ops[i]?, s.OpWakes i op
  | _ => True

instance (i : ℕ) : ∀ op, Decidable (s.OpWakes i op)
  | .finishUpdate _ _ => inferInstanceAs (Decidable (_ ∨ _ ∨ _))
  | .schedule => .isTrue trivial
  | .readResult _ _ => .isTrue trivial
  | .finishLoad _ => .isTrue trivial

instance : ∀ l, Decidable (s.WakeUpOk l)
  | .op i => inferInstanceAs (Decidable (∀ op ∈ s.ops[i]?, s.OpWakes i op))
  | .tick _ => .isTrue trivial
  | .makeCells _ _ => .isTrue trivial
  | .setUnordered _ => .isTrue trivial
  | .publish _ => .isTrue trivial
  | .finishReceiver _ => .isTrue trivial
  | .unsubscribeCommonEvent _ => .isTrue trivial
  | .processNextOrderedEvent => .isTrue trivial
  | .timeout _ => .isTrue trivial
  | .thread _ => .isTrue trivial

/-! ## Who will look at the queue -/

theorem Awake.of_orderedQueue (h : s.orderedQueue ≠ []) : s.Awake th := Or.inl h

theorem Awake.of_threadWakes (h : s.threadWakes th = true) : s.Awake th :=
  Or.inr (Or.inr h)

/-- A step that takes no task and ends no call leaves somebody who will. -/
theorem Awake.frame (h : s.Awake th) (hord : s.orderedQueue ≠ [] → t.orderedQueue ≠ [])
    (hops : ∀ op ∈ s.ops, op.wakes = true → op ∈ t.ops)
    (hth : s.threadWakes th = true → t.threadWakes th' = true) : t.Awake th' := by
  rcases h with hq | ⟨op, hop, hw⟩ | hw
  · exact Or.inl (hord hq)
  · exact Or.inr (Or.inl ⟨op, hops op hop hw, hw⟩)
  · exact Or.inr (Or.inr (hth hw))

/-- **The frame rule**: where the queue stays and no current receiver is
taken away, the invariant stays if those who will look at the queue do. -/
theorem Wakeful.frame (h : s.Wakeful th) (hq : t.orderedEventQueue = s.orderedEventQueue)
    (hcur : ∀ r, (t.records r).curReceiver = none → (s.records r).curReceiver = none)
    (hawake : s.Awake th → t.Awake th') : t.Wakeful th' := by
  intro sp hfront hnone
  have hfront' : s.front = some sp := by rw [← hfront, front, front, hq]
  exact hawake (h sp hfront' (hcur sp hnone))

theorem Wakeful.of_awake (h : s.Awake th) : s.Wakeful th := fun _ _ _ => h

/-- The serial queue's own wake-ups are lasting: its program counter, the
front of the queue and the receivers' times stay, and the clock moves on. -/
theorem threadWakes_mono (hq : t.orderedEventQueue = s.orderedEventQueue)
    (htime : ∀ r, (t.records r).receiverTime = (s.records r).receiverTime)
    (hnow : s.now ≤ t.now) (h : s.threadWakes th = true) : t.threadWakes th = true := by
  have hup : ∀ sp, s.timeIsUp sp = true → t.timeIsUp sp = true := by
    intro sp hsp
    unfold timeIsUp at hsp ⊢
    rw [htime sp]
    simp only [decide_eq_true_eq] at hsp ⊢
    exact Nat.le_trans hsp hnow
  have hfront : t.front = s.front := by rw [front, front, hq]
  cases th with
  | timeoutFront =>
    unfold threadWakes at h ⊢
    rw [hfront, Option.any_eq_true]
    obtain ⟨sp, hsp, hup'⟩ := (Option.any_eq_true _ _).mp h
    exact ⟨sp, hsp, hup sp hup'⟩
  | timeoutCheck sp => exact hup sp h
  | _ => exact h

theorem threadWakes_congr (hq : t.orderedEventQueue = s.orderedEventQueue)
    (htime : ∀ r, (t.records r).receiverTime = (s.records r).receiverTime)
    (hnow : t.now = s.now) : t.threadWakes th = s.threadWakes th :=
  Bool.eq_iff_iff.mpr
    ⟨threadWakes_mono hq.symm (fun r => (htime r).symm) hnow.le,
      threadWakes_mono hq htime hnow.ge⟩

/-- The rule for a step that leaves the tasks and the program counter, and
adds calls at most. -/
theorem Wakeful.stay (h : s.Wakeful th) (hq : t.orderedEventQueue = s.orderedEventQueue)
    (hrec : t.records = s.records) (hnow : s.now ≤ t.now)
    (hord : t.orderedQueue = s.orderedQueue) (hops : ∀ op ∈ s.ops, op ∈ t.ops) :
    t.Wakeful th := by
  refine h.frame hq (fun r => by rw [hrec]; exact id) fun hawake => ?_
  refine hawake.frame (by rw [hord]; exact id) (fun op hop _ => hops op hop) ?_
  exact threadWakes_mono hq (fun r => by rw [hrec]) hnow

/-! ## The steps of the service calls -/

/-- The calls that wake stay when one that does not is replaced. -/
theorem mem_set_of_wakes {ops : List ServiceOp} {i : ℕ} {op op' op'' : ServiceOp}
    (hi : ops[i]? = some op) (hno : op.wakes = false) (hop : op' ∈ ops)
    (hw : op'.wakes = true) : op' ∈ ops.set i op'' := by
  obtain ⟨j, hj⟩ := List.mem_iff_getElem?.mp hop
  have hne : i ≠ j := by
    rintro rfl
    rw [hi] at hj
    cases hj
    rw [hno] at hw
    cases hw
  exact List.mem_iff_getElem?.mpr ⟨j, by rw [List.getElem?_set_ne hne, hj]⟩

/-- The calls that wake stay when one that does not is over. -/
theorem mem_eraseIdx_of_wakes {ops : List ServiceOp} {i : ℕ} {op op' : ServiceOp}
    (hi : ops[i]? = some op) (hno : op.wakes = false) (hop : op' ∈ ops)
    (hw : op'.wakes = true) : op' ∈ ops.eraseIdx i := by
  obtain ⟨j, hj⟩ := List.mem_iff_getElem?.mp hop
  refine List.mem_eraseIdx_iff_getElem?.mpr ⟨j, ?_, hj⟩
  rintro rfl
  rw [hi] at hj
  cases hj
  rw [hno] at hw
  cases hw

/-- **A step of a service call that meets its condition** keeps the
invariant. -/
theorem Wakeful.stepOp (h : s.Wakeful s.thread)
    (hsch : s.scheduled = true → true ∈ s.orderedQueue) {i : ℕ} {op : ServiceOp}
    (hi : s.ops[i]? = some op) (hok : s.OpWakes i op) :
    (s.stepOp i op).Wakeful s.thread := by
  cases op with
  | schedule =>
    refine .of_awake (.of_orderedQueue (List.ne_nil_of_mem (a := true) ?_))
    exact true_mem_scheduleOrderedCommonEvent (s := { s with ops := s.ops.eraseIdx i }) hsch
  | readResult sp receiver =>
    refine h.frame rfl (fun _ => id) fun hawake => hawake.frame id ?_ ?_
    · exact fun op hop hw => mem_set_of_wakes hi rfl hop hw
    · exact threadWakes_mono rfl (fun _ => rfl) (Nat.le_refl _)
  | finishLoad call =>
    refine h.frame rfl (fun _ => id) fun hawake => hawake.frame id ?_ ?_
    · exact fun op hop hw => mem_set_of_wakes hi rfl hop hw
    · exact threadWakes_mono rfl (fun _ => rfl) (Nat.le_refl _)
  | finishUpdate call state =>
    rw [stepOp_finishUpdate]
    have htime : ∀ u : ControlManager, u.records = (s.finishUpdate call).records →
        ∀ r, (u.records r).receiverTime = (s.records r).receiverTime := by
      intro u hu r
      rw [hu]
      exact (finishUpdate_records call r).1
    by_cases hstate : state = .RECEIVED
    · refine .of_awake (.of_orderedQueue ?_)
      rw [if_pos hstate]
      exact List.append_ne_nil_of_right_ne_nil _ (List.cons_ne_nil _ _)
    have hno : ServiceOp.wakes (.finishUpdate call state) = false := decide_eq_false hstate
    rw [if_neg hstate, List.append_nil]
    rcases hok with hreceived | hcur | hawake
    · exact absurd hreceived hstate
    · -- nobody was at work on the record, so the invariant spoke of it before
      refine h.frame rfl ?_ fun hawake => hawake.frame id ?_ ?_
      · intro r hr
        by_cases hrecord : r = call.record
        · rw [hrecord]
          exact hcur
        · rw [← (finishUpdate_records call r).2.2 hrecord]
          exact hr
      · exact fun op hop hw => mem_eraseIdx_of_wakes hi hno hop hw
      · exact threadWakes_mono rfl (htime _ rfl) (Nat.le_refl _)
    · -- somebody else will look at the queue
      refine .of_awake (hawake.frame id (fun _ hop _ => hop) ?_)
      exact threadWakes_mono (s := { s with ops := s.ops.eraseIdx i }) rfl (htime _ rfl)
        (Nat.le_refl _)

/-! ## The steps of the serial queue -/

/-- The rule for a step of the serial queue that takes no task: the calls
stay, and what it was going to do is still to come. -/
theorem Wakeful.goto (h : s.Wakeful th) (hq : t.orderedEventQueue = s.orderedEventQueue)
    (hcur : ∀ r, (t.records r).curReceiver = none → (s.records r).curReceiver = none)
    (hord : t.orderedQueue = s.orderedQueue) (hops : t.ops = s.ops)
    (hth : s.threadWakes th = true → t.threadWakes th' = true) : t.Wakeful th' :=
  h.frame hq hcur fun hawake =>
    hawake.frame (by rw [hord]; exact id) (fun op hop _ => by rw [hops]; exact hop) hth

/-- **A step of the serial queue keeps the invariant.** -/
theorem Wakeful.stepThread (ha : s.Activity s.thread) (h : s.Wakeful s.thread)
    {answer : Answer} (hstep : s.stepThread answer = some t) : t.Wakeful t.thread := by
  -- most places lead on to another look at the queue
  have hwakes : t.threadWakes t.thread = true → t.Wakeful t.thread := fun hw =>
    .of_awake (.of_threadWakes hw)
  have hops := stepThread_ops hstep
  have hcase := threadStep_of_stepThread hstep
  generalize s.thread = th at hcase h ha
  cases hcase with
  | queueSection u removed sp hrun =>
    cases sp with
    | some sp => exact hwakes rfl
    | none =>
      -- the section ended because the front record has a current receiver
      intro r hfront hnone
      exact absurd hnone ((ha.processOrderedEventQueueLocked hrun).2 r rfl hfront)
  | finalSubscriber removed rest sp =>
    obtain ⟨hrec, hq, hord, hops'⟩ :=
      handleFinalSubscriber_records (s := s) removed answer.hasProxy
    refine h.goto hq (fun r hr => ?_) hord hops' id
    rw [← (hrec r).2]
    exact hr
  | finalsEnd => exact h.goto rfl (fun _ => id) rfl rfl id
  | finalTestSome sp hcur =>
    -- the receiver is at work, and its record is the front of the queue
    obtain ⟨listener, hlistener⟩ := Option.ne_none_iff_exists'.mp hcur
    intro r hfront hnone
    obtain rfl : sp = r := Option.some.inj
      ((ha.active sp listener hlistener).1.symm.trans hfront)
    exact absurd hnone hcur
  | reschedule =>
    refine .of_awake (.of_orderedQueue (List.ne_nil_of_mem (a := true) ?_))
    exact true_mem_scheduleOrderedCommonEvent ha.scheduled
  | timeoutEmpty hfront =>
    refine h.goto rfl (fun _ => id) rfl rfl fun hup => ?_
    obtain ⟨sp, hsp, -⟩ := (Option.any_eq_true _ _).mp hup
    rw [hfront] at hsp
    cases hsp
  | timeoutFront sp hfront =>
    refine h.goto rfl (fun _ => id) rfl rfl fun hup => ?_
    obtain ⟨sp', hsp, hup⟩ := (Option.any_eq_true _ _).mp hup
    obtain rfl : sp = sp' := Option.some.inj (hfront.symm.trans hsp)
    exact hup
  | timeoutEarly sp hearly =>
    obtain ⟨hrec, hq, -, hord, hops'⟩ := setTimeout_records (s := s)
    refine h.goto hq (fun r => by rw [hrec]; exact id) hord hops' fun hup => ?_
    exact absurd (of_decide_eq_true hup) (Nat.not_le_of_gt hearly)
  | _ => exact hwakes rfl

/-- **A step that meets its condition keeps the invariant of wake-ups.** -/
theorem wakeful_step {l : ControlLabel} (ha : s.Activity s.thread)
    (h : s.Wakeful s.thread) (hok : s.WakeUpOk l) (hstep : s.step P S l = some t) :
    t.Wakeful t.thread := by
  cases l with
  | tick duration =>
    cases hstep
    exact h.stay rfl rfl (Nat.le_add_right _ _) rfl fun _ => id
  | makeCells data info =>
    cases hstep
    exact h.stay rfl rfl (Nat.le_refl _) rfl fun _ => id
  | setUnordered cell =>
    cases hstep
    exact h.stay rfl rfl (Nat.le_refl _) rfl fun _ => id
  | publish request =>
    cases hstep
    -- whoever publishes is about to schedule
    exact .of_awake (Or.inr (Or.inl ⟨.schedule, List.mem_append_right _
      (List.mem_singleton_self _), rfl⟩))
  | finishReceiver reply =>
    cases hstep
    unfold ControlManager.finishReceiver
    split
    · exact h.stay rfl rfl (Nat.le_refl _) rfl fun _ => List.mem_append_left _
    · exact h
  | unsubscribeCommonEvent listener =>
    cases hstep
    unfold ControlManager.unsubscribeCommonEvent
    split
    · exact h
    · split
      · exact h.stay rfl rfl (Nat.le_refl _) rfl fun _ => List.mem_append_left _
      · exact h
  | op i =>
    obtain ⟨op, hi, rfl⟩ := Option.map_eq_some_iff.mp hstep
    rw [stepOp_thread]
    exact h.stepOp ha.scheduled hi (hok op hi)
  | processNextOrderedEvent =>
    unfold ControlManager.step at hstep
    dsimp only at hstep
    split at hstep
    · cases hstep
      exact .of_awake (.of_threadWakes rfl)
    · cases hstep
  | timeout handler =>
    unfold ControlManager.step at hstep
    dsimp only at hstep
    split at hstep
    next hc =>
      cases hstep
      rw [hc.1] at h
      exact h.goto rfl (fun _ => id) rfl rfl nofun
    next => cases hstep
  | thread answer => exact h.stepThread ha hstep

/-- Where somebody will look at the queue, no wake-up is lost. -/
theorem Wakeful.not_lost (h : s.Wakeful s.thread) : ¬ s.Lost := by
  rintro ⟨⟨sp, hfront, -, hcur⟩, hth, hq, hops⟩
  rcases h sp hfront hcur with hne | ⟨op, hop, hw⟩ | hw
  · exact hne hq
  · have hreading := hops op hop
    cases op with
    | readResult sp' receiver => cases hw
    | _ => cases hreading
  · rw [hth] at hw
    cases hw

/-! ## What an update that does not meet its condition leads to -/

/-- **Everybody is asleep**: nobody is at work on any record, and nobody will
look at the queue. -/
structure Asleep (s : ControlManager) (th : OrderedThread) : Prop where
  nonempty : ∃ sp, s.front = some sp
  idle : ∀ r, (s.records r).state = .IDLE ∧ (s.records r).curReceiver = none
  orderedQueue : s.orderedQueue = []
  ops : ∀ op ∈ s.ops, op.wakes = false
  thread : s.threadWakes th = false

/-- Everybody stays asleep while the queue, the tasks and what is written in
the records stay. -/
theorem Asleep.frame (h : s.Asleep th) (hq : t.orderedEventQueue = s.orderedEventQueue)
    (hrec : ∀ r, (t.records r).state = (s.records r).state
      ∧ (t.records r).curReceiver = (s.records r).curReceiver)
    (hord : t.orderedQueue = s.orderedQueue) (hops : ∀ op ∈ t.ops, op.wakes = false)
    (hth : t.threadWakes th' = false) : t.Asleep th' := by
  refine ⟨?_, fun r => ?_, hord.trans h.orderedQueue, hops, hth⟩
  · rw [front, hq]
    exact h.nonempty
  · rw [(hrec r).1, (hrec r).2]
    exact h.idle r

/-- After an update of the one record that was not idle, all are. -/
theorem finishUpdate_idle {call : FinishCall}
    (h : ∀ r, r ≠ call.record → (s.records r).state = .IDLE ∧ (s.records r).curReceiver = none)
    (r : ℕ) : ((s.finishUpdate call).records r).state = .IDLE
      ∧ ((s.finishUpdate call).records r).curReceiver = none := by
  by_cases hr : r = call.record
  · have hself : (s.finishUpdate call).records call.record
        = { s.records call.record with
            state := .IDLE
            curReceiver := none
            resultAbort := call.abortEvent.getD (s.records call.record).resultAbort } :=
      Function.update_self _ _ _
    rw [hr, hself]
    exact ⟨rfl, rfl⟩
  · rw [(finishUpdate_records call r).2.2 hr]
    exact h r hr

/-- **An update that does not meet its condition puts everybody to sleep.** -/
theorem asleep_of_not_wakeUpOk {l : ControlLabel} (ha : s.Activity s.thread)
    (hok : ¬ s.WakeUpOk l) (hstep : s.step P S l = some t) : t.Asleep t.thread := by
  cases l with
  | op i =>
    obtain ⟨op, hi, rfl⟩ := Option.map_eq_some_iff.mp hstep
    have hop : ¬ s.OpWakes i op := by
      intro hop
      refine hok fun op' hi' => ?_
      obtain rfl : op = op' := Option.some.inj (hi.symm.trans hi')
      exact hop
    cases op with
    | finishUpdate call state =>
      have hstate : state ≠ .RECEIVED := fun h => hop (Or.inl h)
      have hcur : (s.records call.record).curReceiver ≠ none := fun h => hop (Or.inr (Or.inl h))
      have hawake : ¬ Awake { s with ops := s.ops.eraseIdx i } s.thread :=
        fun h => hop (Or.inr (Or.inr h))
      obtain ⟨listener, hlistener⟩ := Option.ne_none_iff_exists'.mp hcur
      obtain ⟨hfront, -, -⟩ := ha.active call.record listener hlistener
      rw [stepOp_thread, stepOp_finishUpdate, if_neg hstate, List.append_nil]
      -- the record had the one current receiver there was
      have hnobody := finishUpdate_idle (s := s) fun r hr => by
        have hnone : (s.records r).curReceiver = none := by
          by_contra hne
          obtain ⟨listener', hlistener'⟩ := Option.ne_none_iff_exists'.mp hne
          exact hr (Option.some.inj ((ha.active r listener' hlistener').1.symm.trans hfront))
        refine ⟨(ha.idle r hnone).resolve_right fun hset => ?_, hnone⟩
        refine hawake (.of_threadWakes ?_)
        cases hth : s.thread with
        | finalTest sp => rfl
        | storeIdle sp => rfl
        | _ => rw [hth] at hset; cases hset
      have hasleep : ∀ u : ControlManager, u.orderedEventQueue = s.orderedEventQueue →
          u.records = (s.finishUpdate call).records → u.now = s.now →
          u.orderedQueue = s.orderedQueue → u.ops = s.ops.eraseIdx i → u.Asleep s.thread := by
        intro u hq hrec hnow hord hops
        refine ⟨⟨call.record, by rw [front, hq]; exact hfront⟩, fun r => ?_, ?_, ?_, ?_⟩
        · rw [hrec]
          exact hnobody r
        · rw [hord]
          by_contra hne
          exact hawake (.of_orderedQueue hne)
        · rw [hops]
          intro op hmem
          by_contra hw
          exact hawake (Or.inr (Or.inl ⟨op, hmem, Bool.eq_true_of_not_eq_false hw⟩))
        · rw [threadWakes_congr hq (fun r => by rw [hrec, (finishUpdate_records call r).1]) hnow]
          by_contra hw
          exact hawake (.of_threadWakes (Bool.eq_true_of_not_eq_false hw))
      exact hasleep _ rfl rfl rfl rfl rfl
    | schedule => exact absurd trivial hop
    | readResult sp receiver => exact absurd trivial hop
    | finishLoad call => exact absurd trivial hop
  | _ => exact absurd trivial hok

/-- **What the parties already at work can come to**, with no new call, no new
task and no timeout. -/
def Finishes (P : Platform) (S : StdSort) (s u : ControlManager) : Prop :=
  ∃ ls, (∀ l ∈ ls, ControlLabel.finishes l) ∧ (orderedMachine P S).runFrom s ls = some u

theorem Finishes.refl : Finishes P S s s := ⟨[], List.forall_mem_nil _, rfl⟩

theorem Finishes.head {l : ControlLabel} {u : ControlManager} (hl : l.finishes = true)
    (hstep : s.step P S l = some t) (h : Finishes P S t u) : Finishes P S s u := by
  obtain ⟨ls, hls, hrun⟩ := h
  refine ⟨l :: ls, List.forall_mem_cons.mpr ⟨hl, hls⟩, ?_⟩
  show (s.step P S l).bind _ = _
  rw [hstep]
  exact hrun

theorem Finishes.trans {u : ControlManager} (h : Finishes P S s t) (h' : Finishes P S t u) :
    Finishes P S s u := by
  obtain ⟨ls, hls, hrun⟩ := h
  obtain ⟨ls', hls', hrun'⟩ := h'
  refine ⟨ls ++ ls', List.forall_mem_append.mpr ⟨hls, hls'⟩, ?_⟩
  rw [Machine.runFrom_append, hrun]
  exact hrun'

/-- The final receivers are called, and nobody is woken up. -/
theorem Asleep.finishFinals (removed : List ℕ) (hth : s.thread = .finals removed none)
    (h : s.Asleep s.thread) :
    ∃ u, Finishes P S s u ∧ u.Asleep u.thread ∧ u.thread = .idle := by
  induction removed generalizing s with
  | nil =>
    refine ⟨{ s with thread := .idle }, .head (l := .thread {}) rfl ?_ .refl,
      h.frame rfl (fun _ => ⟨rfl, rfl⟩) rfl h.ops rfl, rfl⟩
    show s.stepThread {} = _
    unfold ControlManager.stepThread
    rw [hth]
  | cons first rest ih =>
    have hstep : s.step P S (.thread {}) = some
        { s.handleFinalSubscriber first true with thread := .finals rest none } := by
      show s.stepThread {} = _
      unfold ControlManager.stepThread
      rw [hth]
    have hrec := handleFinalSubscriber_records (s := s) first true
    obtain ⟨u, hu, hasleep, hidle⟩ := ih
      (s := { s.handleFinalSubscriber first true with thread := .finals rest none }) rfl
      (h.frame hrec.2.1 (fun r => (hrec.1 r)) hrec.2.2.1 (by rw [hrec.2.2.2]; exact h.ops) rfl)
    exact ⟨u, .head rfl hstep hu, hasleep, hidle⟩

/-- **The serial queue ends its task** without waking anybody up. -/
theorem Asleep.finishThread (h : s.Asleep s.thread) :
    ∃ u, Finishes P S s u ∧ u.Asleep u.thread ∧ u.thread = .idle := by
  -- the timer came early: it is set again, and nothing is looked at
  have hcheck : ∀ (s : ControlManager) (sp : ℕ), s.thread = .timeoutCheck sp →
      s.Asleep s.thread → ∃ u, Finishes P S s u ∧ u.Asleep u.thread ∧ u.thread = .idle := by
    intro s sp hth h
    have hearly : (s.records sp).receiverTime + TIMEOUT > s.now := by
      have hno := h.thread
      rw [hth] at hno
      exact Nat.lt_of_not_le (of_decide_eq_false hno)
    obtain ⟨hrec, hq, -, hord, hops⟩ := setTimeout_records (s := s)
    have hstep : s.step P S (.thread {}) = some { s.setTimeout with thread := .idle } := by
      show s.stepThread {} = _
      unfold ControlManager.stepThread
      rw [hth]
      dsimp only
      rw [if_pos hearly]
    refine ⟨{ s.setTimeout with thread := .idle }, .head rfl hstep .refl, ?_, rfl⟩
    refine h.frame hq (fun r => ?_) hord (by rw [hops]; exact h.ops) rfl
    dsimp only
    rw [hrec]
    exact ⟨rfl, rfl⟩
  have hno := h.thread
  cases hth : s.thread with
  | idle => exact ⟨s, .refl, h, hth⟩
  | finals removed sp =>
    rw [hth] at hno
    cases sp with
    | some sp => cases hno
    | none => exact h.finishFinals removed hth
  | timeoutFront =>
    obtain ⟨sp, hfront⟩ := h.nonempty
    have hstep : s.step P S (.thread {}) = some
        { s with pendingTimeoutMessage := false, thread := .timeoutCheck sp } := by
      show s.stepThread {} = _
      unfold ControlManager.stepThread
      rw [hth]
      dsimp only
      rw [hfront]
    rw [hth, threadWakes, hfront] at hno
    obtain ⟨u, hu, hasleep, hidle⟩ := hcheck
      { s with pendingTimeoutMessage := false, thread := .timeoutCheck sp } sp rfl
      (h.frame rfl (fun _ => ⟨rfl, rfl⟩) rfl h.ops hno)
    exact ⟨u, .head rfl hstep hu, hasleep, hidle⟩
  | timeoutCheck sp => exact hcheck s sp hth h
  | _ =>
    rw [hth] at hno
    cases hno

/-- **The calls in progress end** without waking anybody up. -/
theorem Asleep.finishOps (h : s.Asleep s.thread) (hth : s.thread = .idle) :
    ∃ u, Finishes P S s u ∧ u.Asleep u.thread ∧ u.thread = .idle
      ∧ ∀ op ∈ u.ops, op.isReading := by
  obtain ⟨n, hn⟩ : ∃ n, (s.ops.map ServiceOp.steps).sum = n := ⟨_, rfl⟩
  induction n using Nat.strong_induction_on generalizing s with
  | _ n ih =>
    by_cases hreading : ∀ op ∈ s.ops, op.isReading
    · exact ⟨s, .refl, h, hth, hreading⟩
    obtain ⟨op, hop, hreading⟩ : ∃ op ∈ s.ops, ¬ op.isReading := by simpa using hreading
    obtain ⟨pre, post, hops⟩ := List.append_of_mem hop
    have hstep : s.step P S (.op pre.length) = some (s.stepOp pre.length op) := by
      show s.ops[pre.length]?.map (s.stepOp pre.length) = _
      rw [hops, List.getElem?_append_right (Nat.le_refl _), Nat.sub_self]
      rfl
    -- the step keeps everybody asleep, and there are fewer to come
    have hsmaller : (s.stepOp pre.length op).Asleep s.thread
        ∧ ((s.stepOp pre.length op).ops.map ServiceOp.steps).sum < n := by
      cases op with
      | schedule => cases h.ops _ hop
      | readResult sp receiver => exact absurd rfl hreading
      | finishLoad call =>
        have hset : (s.stepOp pre.length (.finishLoad call)).ops
            = pre ++ .finishUpdate call .IDLE :: post := by
          show s.ops.set pre.length (.finishUpdate call (s.records call.record).state) = _
          rw [(h.idle call.record).1, hops, List.set_append_right _ _ (Nat.le_refl _),
            Nat.sub_self]
          rfl
        refine ⟨h.frame rfl (fun _ => ⟨rfl, rfl⟩) rfl ?_ ?_, ?_⟩
        · rw [hset]
          intro op' hop'
          rcases List.mem_append.mp hop' with hpre | hpost
          · exact h.ops op' (by rw [hops]; exact List.mem_append_left _ hpre)
          · rcases List.mem_cons.mp hpost with rfl | hpost
            · rfl
            · exact h.ops op' (by
                rw [hops]
                exact List.mem_append_right _ (List.mem_cons_of_mem _ hpost))
        · rw [hth]
          rfl
        · rw [hset, ← hn, hops]
          simp [ServiceOp.steps]
      | finishUpdate call state =>
        have hstate : state ≠ .RECEIVED := of_decide_eq_false (h.ops _ hop)
        have hnobody := finishUpdate_idle (s := s) fun r (_ : r ≠ call.record) => h.idle r
        rw [stepOp_finishUpdate, if_neg hstate, List.append_nil]
        have herase : s.ops.eraseIdx pre.length = pre ++ post := by
          rw [hops, List.eraseIdx_append_of_length_le (Nat.le_refl _), Nat.sub_self]
          rfl
        refine ⟨h.frame rfl (fun r => ?_) rfl ?_ ?_, ?_⟩
        · rw [(h.idle r).1, (h.idle r).2]
          exact hnobody r
        · exact fun op' hop' => h.ops op' (List.mem_of_mem_eraseIdx hop')
        · rw [hth]
          rfl
        · show ((s.ops.eraseIdx pre.length).map ServiceOp.steps).sum < n
          rw [herase, ← hn, hops]
          simp [ServiceOp.steps]
    obtain ⟨u, hu, hasleep⟩ := ih _ hsmaller.2 (s := s.stepOp pre.length op)
      (by rw [stepOp_thread]; exact hsmaller.1) (by rw [stepOp_thread]; exact hth) rfl
    exact ⟨u, .head rfl hstep hu, hasleep⟩

/-- **The condition on a step is exact.** In a run whose every step meets it no
wake-up is lost. And a step that does not meet it loses one: once the parties
at work have ended what they were doing, the queue stands still. -/
theorem no_lost_wakeUp :
    (∀ ls s, (orderedMachine P S).Guarded WakeUpOk ls →
        (orderedMachine P S).run ls = some s → ¬ s.Lost)
      ∧ ∀ ls s l t, (orderedMachine P S).run ls = some s → s.step P S l = some t →
          ¬ s.WakeUpOk l → ∃ u, Finishes P S t u ∧ u.Lost := by
  constructor
  · intro ls s hok hs
    have hboth : (s.Dispatch s.thread ∧ s.Activity s.thread) ∧ s.Wakeful s.thread := by
      refine Machine.guarded_invariant (M := orderedMachine P S)
        (I := fun s => (s.Dispatch s.thread ∧ s.Activity s.thread) ∧ s.Wakeful s.thread)
        ⟨⟨dispatch_init, activity_init⟩, fun sp hfront => by cases hfront⟩ ?_ hok hs
      rintro s l t ⟨⟨hd, ha⟩, hw⟩ hl hstep
      exact ⟨⟨dispatch_step hd hstep, activity_step hd ha hstep⟩, wakeful_step ha hw hl hstep⟩
    exact hboth.2.not_lost
  · intro ls s l t hs hstep hok
    have ht := asleep_of_not_wakeUpOk (activity_reachable ⟨ls, hs⟩) hok hstep
    obtain ⟨u, htu, hu, huth⟩ := ht.finishThread (P := P) (S := S)
    obtain ⟨v, huv, hv, hvth, hreading⟩ := hu.finishOps (P := P) (S := S) huth
    obtain ⟨sp, hfront⟩ := hv.nonempty
    exact ⟨v, htu.trans huv, ⟨sp, hfront, hv.idle sp⟩, hvth, hv.orderedQueue, hreading⟩

/-- A publish to the one listener, and its delivery up to the call. -/
def untilCalled : List ControlLabel :=
  [publishE, .op 0, .processNextOrderedEvent] ++ List.replicate 7 (.thread {})

/-- The reply of the one listener. -/
def promptReply : Reply := ⟨some ⟨1⟩, 0, "", false, (0, 0)⟩

/-- The reply comes after the notification has returned: every step meets its
condition. -/
theorem no_lost_wakeUp_promptReply :
    ∃ s, (orderedMachine {} .insertion).run (untilCalled ++ List.replicate 3 (.thread {})
      ++ [.finishReceiver promptReply, .op 0, .op 0]) = some s ∧ ¬ s.Lost := by
  obtain ⟨s, hs, -⟩ := Option.map_eq_some_iff.mp
    (show ((orderedMachine {} .insertion).run (untilCalled ++ List.replicate 3 (.thread {})
      ++ [.finishReceiver promptReply, .op 0, .op 0])).map (fun s => s.orderedQueue)
      = some [false] by decide)
  exact ⟨s, hs, no_lost_wakeUp.1 _ s (Machine.guarded_of_guardedFrom (by decide)) hs⟩

/-- The reply comes during the call. Its state is read before the call
returns, and its update is made after the task has ended. -/
def untilLost : List ControlLabel :=
  untilCalled ++ [.finishReceiver promptReply, .op 0] ++ List.replicate 3 (.thread {})
    ++ [.op 0]

/-- **A wake-up can be lost**: after `untilLost` the front record is idle, and
nobody will look at the queue. -/
theorem lost_wakeUp :
    ¬ ∀ ls s, (orderedMachine {} .insertion).run ls = some s → ¬ s.Lost := by
  intro h
  obtain ⟨s, hs, hlost⟩ := Option.map_eq_some_iff.mp
    (show ((orderedMachine {} .insertion).run untilLost).map (fun s => decide s.Lost)
      = some true by decide)
  exact h untilLost s hs (of_decide_eq_true hlost)

end ControlManager

end CommonEventService

import CommonEventService.ReplyMatching

/-!
# The completion of ordered events

How an ordered event ends. The section under the queue's lock takes the
records off the front that have nothing left to do – at least one of four
reasons has to hold, and the record has to be idle – and the same task then
calls their final receivers, one after the other, before it notifies
anybody. A receiver that aborts the event is the last one: the record keeps
its abort flag, is given no current receiver any more, and the next section
removes it.
-/

namespace CommonEventService

/-- The record whose next receiver the serial queue is about to notify, or is
notifying without having set it. -/
def OrderedThread.chosen : OrderedThread → Option ℕ
  | .finals _ sp => sp
  | .prepareNext sp => some sp
  | .setTimeout sp _ => some sp
  | .notify sp _ => some sp
  | .frozen sp _ => some sp
  | .prepareNotify sp _ => some sp
  | _ => none

theorem OrderedThread.quiet_of_chosen {th : OrderedThread} {sp : ℕ}
    (h : th.chosen = some sp) : th.quiet = some sp := by
  cases th with
  | idle | queueSection | call | inCall | handleResult | finalTest | storeIdle | reschedule
  | timeoutFront | timeoutCheck | timeoutHandle => cases h
  | _ => exact h

namespace ControlManager

variable {P : Platform} {S : StdSort} {s t u : ControlManager} {th : OrderedThread}

/-- **A record may leave the queue**: it is idle, and has no receivers, has
handed over all of them, was aborted, or has had more than twice the time of
all its receivers. -/
def Removable (s : ControlManager) (r : ℕ) : Prop :=
  (s.records r).state = .IDLE ∧
    ((s.records r).receivers = []
      ∨ (s.records r).nextReceiver ≥ (s.records r).receivers.length
      ∨ (s.records r).resultAbort = true
      ∨ (s.records r).dispatchTime > 0 ∧ s.now > (s.records r).dispatchTime
          + DOUBLE * TIMEOUT * (s.records r).receivers.length)

/-! ## The section under the queue's lock -/

/-- What `CheckTimeoutForceReceive` leaves of a record, and what its answer
says. -/
theorem checkTimeoutForceReceive_records {sp : ℕ} {forced : Bool}
    (h : s.checkTimeoutForceReceive sp = (u, forced)) :
    (∀ r, r ≠ sp → u.records r = s.records r)
      ∧ (∀ r, (u.records r).resultAbort = (s.records r).resultAbort)
      ∧ (∀ r, (s.records r).curReceiver = none → (u.records r).curReceiver = none)
      ∧ (forced = true → (u.records sp).dispatchTime > 0 ∧ u.now > (u.records sp).dispatchTime
          + DOUBLE * TIMEOUT * (u.records sp).receivers.length) := by
  rcases s.checkTimeoutForceReceive_cases sp with ⟨hdue, heq⟩ | ⟨-, heq⟩
  · rw [heq] at h
    cases h
    have hself : ∀ r, (s.handleTimeoutReceiver sp s.now).records r = if r = sp then _
        else s.records r := fun r => modify_records s sp _ r
    refine ⟨fun r hr => ?_, fun r => ?_, fun r hr => ?_, fun _ => ?_⟩
    · rw [hself, if_neg hr]
    · rw [hself]
      split
      next h => rw [h]
      next => rfl
    · rw [hself]
      split
      next => rfl
      next => exact hr
    · rw [hself, if_pos rfl]
      unfold isOverdue at hdue
      simp only [Bool.and_eq_true, decide_eq_true_eq] at hdue
      exact ⟨hdue.1.1, hdue.2⟩
  · rw [heq] at h
    cases h
    exact ⟨fun _ _ => rfl, fun _ => rfl, fun _ => id, nofun⟩

/-- **What the section under the queue's lock has done** between `s` and `u`,
when it has removed `removed`. The records removed are the first ones of the
queue, and may leave it; no record has been given a current receiver, and the
abort flags are as they were. -/
structure SectionDone (s u : ControlManager) (removed : List ℕ) : Prop where
  queue : s.orderedEventQueue = removed ++ u.orderedEventQueue
  removable : ∀ r ∈ removed, u.Removable r
  resultAbort : ∀ r, (u.records r).resultAbort = (s.records r).resultAbort
  curReceiver : ∀ r, (s.records r).curReceiver = none → (u.records r).curReceiver = none
  trace : u.trace = s.trace ++ removed.map .removed

/-- `CheckTimeoutForceReceive` does not touch the records removed before. -/
theorem SectionDone.checkTimeoutForceReceive {removed : List ℕ} {sp : ℕ} {rest : List ℕ}
    {v : ControlManager} {forced : Bool} (h : SectionDone s u removed)
    (hnodup : s.orderedEventQueue.Nodup) (hq : u.orderedEventQueue = sp :: rest)
    (hcheck : u.checkTimeoutForceReceive sp = (v, forced)) : SectionDone s v removed := by
  obtain ⟨hqueue, htrace, hnow, -⟩ := checkTimeoutForceReceive_frame hcheck
  obtain ⟨hother, habort, hcur, -⟩ := checkTimeoutForceReceive_records hcheck
  refine ⟨hqueue ▸ h.queue, fun r hr => ?_, fun r => (habort r).trans (h.resultAbort r),
    fun r hr => hcur r (h.curReceiver r hr), htrace.trans h.trace⟩
  have hne : r ≠ sp := by
    rintro rfl
    rw [h.queue, hq] at hnodup
    exact (List.nodup_append.mp hnodup).2.2 r hr r List.mem_cons_self rfl
  unfold Removable
  rw [hother r hne, hnow]
  exact h.removable r hr

/-- **What the section under the queue's lock does.** The record it goes on
with was not aborted. -/
theorem processOrderedEventQueueLocked_spec (hnodup : s.orderedEventQueue.Nodup)
    {removed : List ℕ} {sp : Option ℕ}
    (hrun : s.processOrderedEventQueueLocked = some (u, removed, sp)) :
    SectionDone s u removed ∧ ∀ r, sp = some r → (u.records r).resultAbort = false := by
  refine DoWhile.doWhile_rule (f := processOrderedEventQueuePass) (s := (s, []))
    (fun loop => SectionDone s loop.1 loop.2)
    (fun result => SectionDone s result.1 result.2.1
      ∧ ∀ r, result.2.2 = some r → (result.1.records r).resultAbort = false) ?_ ?_ ?_ hrun
  · -- the invariant of the loop says why each record removed was removable
    rintro ⟨s', removed⟩ loop' h heq'
    rcases processOrderedEventQueuePass_cases (s := s') removed with ⟨-, heq⟩ |
      ⟨sp, rest, v, forced, hq, hc, ⟨-, heq⟩ | ⟨hidle, hwhy, heq⟩ | ⟨-, -, -, -, heq⟩⟩
    all_goals
      rw [heq] at heq'
      cases heq'
    have hv := h.checkTimeoutForceReceive hnodup hq hc
    have hvq : v.orderedEventQueue = sp :: rest := (checkTimeoutForceReceive_frame hc).1.trans hq
    have hforced := (checkTimeoutForceReceive_records hc).2.2.2
    obtain ⟨pending, timers, hcancel⟩ := v.cancelTimeout_eq
    rw [hcancel]
    refine ⟨?_, fun r hr => ?_, hv.resultAbort, hv.curReceiver, ?_⟩
    · rw [hv.queue, hvq, List.append_assoc]
      rfl
    · rcases List.mem_append.mp hr with hr | hr
      · exact hv.removable r hr
      · obtain rfl := List.mem_singleton.mp hr
        exact ⟨hidle, hwhy.imp id (Or.imp id (Or.imp id hforced))⟩
    · rw [hv.trace, List.map_append, List.append_assoc]
      rfl
  · -- the loop ends at a record that was not aborted
    rintro ⟨s', removed⟩ result h heq'
    rcases processOrderedEventQueuePass_cases (s := s') removed with ⟨-, heq⟩ |
      ⟨sp, rest, v, forced, hq, hc, ⟨-, heq⟩ | ⟨-, -, heq⟩ | ⟨-, -, habort, -, heq⟩⟩
    all_goals
      rw [heq] at heq'
      cases heq'
    · exact ⟨h, nofun⟩
    · exact ⟨h.checkTimeoutForceReceive hnodup hq hc, nofun⟩
    · refine ⟨h.checkTimeoutForceReceive hnodup hq hc, fun r hr => ?_⟩
      obtain rfl : sp = r := Option.some.inj hr
      exact habort
  · exact ⟨rfl, nofun, fun _ => rfl, fun _ => id, by simp⟩

/-! ## What a step does to the queue and the trace -/

/-- **What a step does to the queue and to what is recorded.** Records are
enqueued; or the section under the queue's lock removes some; or one final
receiver is called, with the data then stored; or one receiver is notified. -/
theorem queue_step {l : ControlLabel} (hstep : s.step P S l = some t) :
    (∃ new, t.orderedEventQueue = s.orderedEventQueue ++ new ∧ t.trace = s.trace)
    ∨ (∃ u removed sp, s.thread = .queueSection
        ∧ s.processOrderedEventQueueLocked = some (u, removed, sp)
        ∧ t = { u with thread := .finals removed sp })
    ∨ (∃ r rest sp, s.thread = .finals (r :: rest) sp
        ∧ t.orderedEventQueue = s.orderedEventQueue
        ∧ t.trace = s.trace ++ [.final r (s.cells (s.records r).commonEventData)])
    ∨ ∃ sp i, s.thread = .notify sp i ∧ t.orderedEventQueue = s.orderedEventQueue
        ∧ t.trace = s.trace ++ [.notified sp i] := by
  have hsame : t.orderedEventQueue = s.orderedEventQueue → t.trace = s.trace →
      ∃ new, t.orderedEventQueue = s.orderedEventQueue ++ new ∧ t.trace = s.trace :=
    fun hq htr => ⟨[], by rw [hq, List.append_nil], htr⟩
  have hsetTimeout : s.setTimeout.orderedEventQueue = s.orderedEventQueue
      ∧ s.setTimeout.trace = s.trace := by
    obtain ⟨pending, handler, next, timers, heq⟩ := s.setTimeout_eq
    rw [heq]
    exact ⟨rfl, rfl⟩
  -- a call on the service enqueues at most; the rest is the serial queue
  cases l with
  | publish request =>
    cases hstep
    exact Or.inl ⟨[s.nextRecord], rfl, rfl⟩
  | finishReceiver reply =>
    cases hstep
    refine Or.inl (hsame ?_ ?_)
    all_goals
      unfold ControlManager.finishReceiver
      split <;> rfl
  | unsubscribeCommonEvent listener =>
    cases hstep
    refine Or.inl (hsame ?_ ?_)
    all_goals
      unfold ControlManager.unsubscribeCommonEvent
      split
      · rfl
      · split <;> rfl
  | op i =>
    obtain ⟨op, -, rfl⟩ := Option.map_eq_some_iff.mp hstep
    cases op with
    | schedule =>
      obtain ⟨scheduled, queue, heq⟩ :=
        { s with ops := s.ops.eraseIdx i }.scheduleOrderedCommonEvent_eq
      unfold ControlManager.stepOp at hsame ⊢
      rw [heq] at hsame ⊢
      exact Or.inl (hsame rfl rfl)
    | readResult sp receiver => exact Or.inl (hsame rfl rfl)
    | finishLoad call => exact Or.inl (hsame rfl rfl)
    | finishUpdate call state =>
      rw [stepOp_finishUpdate] at hsame ⊢
      exact Or.inl (hsame rfl rfl)
  | processNextOrderedEvent =>
    unfold ControlManager.step at hstep
    dsimp only at hstep
    split at hstep
    · cases hstep
      exact Or.inl (hsame rfl rfl)
    · cases hstep
  | timeout handler =>
    unfold ControlManager.step at hstep
    dsimp only at hstep
    split at hstep
    · cases hstep
      exact Or.inl (hsame rfl rfl)
    · cases hstep
  | thread answer =>
    have hcase := threadStep_of_stepThread hstep
    generalize hth : s.thread = th at hcase
    cases hcase with
    | queueSection u removed sp hrun => exact Or.inr (Or.inl ⟨u, removed, sp, rfl, hrun, rfl⟩)
    | finalSubscriber r rest sp =>
      refine Or.inr (Or.inr (Or.inl ⟨r, rest, sp, rfl,
        (handleFinalSubscriber_records r answer.hasProxy).2.1, ?_⟩))
      unfold ControlManager.handleFinalSubscriber
      dsimp only
      split <;> rfl
    | setTimeout sp i => exact Or.inl (hsame hsetTimeout.1 hsetTimeout.2)
    | timeoutEarly sp hearly => exact Or.inl (hsame hsetTimeout.1 hsetTimeout.2)
    | notifyInvalid sp i hindex => exact Or.inr (Or.inr (Or.inr ⟨sp, i, rfl, rfl, rfl⟩))
    | notifyFrozen sp i hindex hfreeze => exact Or.inr (Or.inr (Or.inr ⟨sp, i, rfl, rfl, rfl⟩))
    | notifyReceiver sp i hindex hfreeze => exact Or.inr (Or.inr (Or.inr ⟨sp, i, rfl, rfl, rfl⟩))
    | reschedule =>
      obtain ⟨scheduled, queue, heq⟩ := s.scheduleOrderedCommonEvent_eq
      rw [heq] at hsame ⊢
      exact Or.inl (hsame rfl rfl)
    | _ => exact Or.inl (hsame rfl rfl)
  | _ =>
    cases hstep
    exact Or.inl (hsame rfl rfl)

/-! ## Aborted records -/

/-- **A record is aborted for good**: its abort flag is set, it has no current
receiver, no call in progress is about to finish it, and the serial queue has
not chosen it. It was notified with the indices `notified`. -/
structure Aborted (s : ControlManager) (th : OrderedThread) (r : ℕ) (notified : List ℕ) :
    Prop where
  enqueued : r < s.nextRecord
  resultAbort : (s.records r).resultAbort = true
  curReceiver : (s.records r).curReceiver = none
  ops : ∀ op ∈ s.ops, op.record? ≠ some r
  chosen : th.chosen ≠ some r
  notified : notifiedOf s.trace r = notified

variable {r : ℕ} {notified : List ℕ}

theorem notifiedOf_map_removed (trace : List TraceEvent) (removed : List ℕ) (r : ℕ) :
    notifiedOf (trace ++ removed.map .removed) r = notifiedOf trace r := by
  induction removed generalizing trace with
  | nil => rw [List.map_nil, List.append_nil]
  | cons first rest ih =>
    rw [List.map_cons, ← List.singleton_append, ← List.append_assoc, ih, notifiedOf_removed]

/-- **The frame rule.** -/
theorem Aborted.frame (h : s.Aborted th r notified) {th' : OrderedThread}
    (hnext : s.nextRecord ≤ t.nextRecord)
    (habort : (t.records r).resultAbort = (s.records r).resultAbort)
    (hcur : (s.records r).curReceiver = none → (t.records r).curReceiver = none)
    (hops : ∀ op ∈ t.ops, op ∈ s.ops ∨ op.record? ≠ some r)
    (hchosen : th'.chosen ≠ some r)
    (htr : notifiedOf t.trace r = notifiedOf s.trace r) : t.Aborted th' r notified := by
  refine ⟨Nat.lt_of_lt_of_le h.enqueued hnext, habort.trans h.resultAbort, hcur h.curReceiver,
    fun op hop => ?_, hchosen, htr.trans h.notified⟩
  rcases hops op hop with hop | hne
  · exact h.ops op hop
  · exact hne

/-- A write of the serial queue to another record. -/
theorem Aborted.other (h : s.Aborted th r notified) {th' : OrderedThread} {sp : ℕ}
    (hne : sp ≠ r) {f : OrderedEventRecord → OrderedEventRecord}
    (hchosen : th'.chosen ≠ some r) :
    Aborted { s.modify sp f with thread := th' } th' r notified := by
  have hrec : (s.modify sp f).records r = s.records r := Function.update_of_ne (Ne.symm hne) _ _
  exact h.frame (Nat.le_refl _) (congrArg _ hrec) (fun hcur => (congrArg _ hrec).trans hcur)
    (fun _ hop => Or.inl hop) hchosen rfl

/-- A write that leaves the abort flag and sets no current receiver. -/
theorem Aborted.modify (h : s.Aborted th r notified) {th' : OrderedThread} {sp : ℕ}
    {f : OrderedEventRecord → OrderedEventRecord}
    (habort : ∀ record, (f record).resultAbort = record.resultAbort)
    (hcur : ∀ record, record.curReceiver = none → (f record).curReceiver = none)
    (hchosen : th'.chosen ≠ some r) :
    Aborted { s.modify sp f with thread := th' } th' r notified := by
  refine h.frame (Nat.le_refl _) ?_ ?_ (fun _ hop => Or.inl hop) hchosen rfl
  · show ((s.modify sp f).records r).resultAbort = _
    rw [modify_records]
    split
    next hr => rw [habort, hr]
    next => rfl
  · intro hnone
    show ((s.modify sp f).records r).curReceiver = none
    rw [modify_records]
    split
    next hr => exact hcur _ (hr ▸ hnone)
    next => exact hnone

/-- **A step of the serial queue keeps a record aborted**, and does not notify
it. -/
theorem Aborted.stepThread (hnodup : s.orderedEventQueue.Nodup)
    (h : s.Aborted s.thread r notified) {answer : Answer}
    (hstep : s.stepThread answer = some t) : t.Aborted t.thread r notified := by
  have hops : ∀ op ∈ t.ops, op ∈ s.ops ∨ op.record? ≠ some r := fun op hop =>
    Or.inl (stepThread_ops hstep ▸ hop)
  have hne : ∀ {th : OrderedThread} {sp : ℕ}, s.Aborted th r notified →
      th.chosen = some sp → sp ≠ r := fun h hchosen hc => h.chosen (hc ▸ hchosen)
  have hcase := threadStep_of_stepThread hstep
  generalize s.thread = th at hcase h
  cases hcase with
  | queueSection u removed sp hrun =>
    obtain ⟨hdone, hsp⟩ := processOrderedEventQueueLocked_spec hnodup hrun
    refine h.frame ?_ (hdone.resultAbort r) (hdone.curReceiver r) hops ?_ ?_
    · exact (identity_processOrderedEventQueueLocked hrun).2.1.ge
    · -- the section goes on with a record only if it was not aborted
      rintro rfl
      have habort := hsp r rfl
      rw [hdone.resultAbort r, h.resultAbort] at habort
      cases habort
    · show notifiedOf u.trace r = _
      rw [hdone.trace]
      exact notifiedOf_map_removed _ _ _
  | finalSubscriber removed rest sp =>
    have htr : Aborted { s with trace := s.trace ++
        [.final removed (s.cells (s.records removed).commonEventData)] }
        (.finals (removed :: rest) sp) r notified :=
      h.frame (Nat.le_refl _) rfl id (fun _ => Or.inl) h.chosen (notifiedOf_final _ _ _ _)
    unfold ControlManager.handleFinalSubscriber
    dsimp only
    split
    · exact htr.frame (Nat.le_refl _) rfl id (fun _ => Or.inl) h.chosen rfl
    · exact htr.modify (fun _ => rfl) (fun _ => id) h.chosen
  | finalsEnd => exact h.frame (Nat.le_refl _) rfl id hops nofun rfl
  | finalsNext sp => exact h.frame (Nat.le_refl _) rfl id hops h.chosen rfl
  | prepareNext sp => exact h.other (hne h rfl) h.chosen
  | setTimeout sp i =>
    obtain ⟨pending, handler, next, timers, heq⟩ := s.setTimeout_eq
    rw [heq]
    exact h.frame (Nat.le_refl _) rfl id (fun _ => Or.inl) h.chosen rfl
  | notifyInvalid sp i hindex =>
    -- the record notified is the one chosen, and so another one
    refine h.frame (Nat.le_refl _) rfl id (fun _ => Or.inl) nofun ?_
    rw [notifiedOf_notified, if_neg (hne h rfl)]
  | notifyFrozen sp i hindex hfreeze =>
    refine h.frame (Nat.le_refl _) rfl id (fun _ => Or.inl) h.chosen ?_
    rw [notifiedOf_notified, if_neg (hne h rfl)]
  | notifyReceiver sp i hindex hfreeze =>
    refine h.frame (Nat.le_refl _) rfl id (fun _ => Or.inl) h.chosen ?_
    rw [notifiedOf_notified, if_neg (hne h rfl)]
  | frozen sp i => exact h.other (hne h rfl) nofun
  | prepareNotify sp i hproxy => exact h.other (hne h rfl) nofun
  | invalidProxy sp i hproxy => exact h.other (hne h rfl) nofun
  | call sp i => exact h.frame (Nat.le_refl _) rfl id hops nofun rfl
  | inCall sp i => exact h.frame (Nat.le_refl _) rfl id hops nofun rfl
  | handleResult sp i isOk =>
    refine h.modify (fun record => ?_) (fun record hcur => ?_) nofun
    · split <;> rfl
    · split
      · exact hcur
      · rfl
  | finalTestNone sp hcur => exact h.frame (Nat.le_refl _) rfl id hops nofun rfl
  | finalTestSome sp hcur => exact h.frame (Nat.le_refl _) rfl id hops nofun rfl
  | storeIdle sp => exact h.modify (fun _ => rfl) (fun _ => id) nofun
  | reschedule =>
    obtain ⟨scheduled, queue, heq⟩ := s.scheduleOrderedCommonEvent_eq
    rw [heq]
    exact h.frame (Nat.le_refl _) rfl id (fun _ => Or.inl) nofun rfl
  | timeoutEmpty hfront => exact h.frame (Nat.le_refl _) rfl id hops nofun rfl
  | timeoutFront sp hfront => exact h.frame (Nat.le_refl _) rfl id hops nofun rfl
  | timeoutEarly sp hearly =>
    obtain ⟨pending, handler, next, timers, heq⟩ := s.setTimeout_eq
    rw [heq]
    exact h.frame (Nat.le_refl _) rfl id (fun _ => Or.inl) nofun rfl
  | timeoutDue sp hdue => exact h.frame (Nat.le_refl _) rfl id hops nofun rfl
  | timeoutHandle sp nowSysTime => exact h.modify (fun _ => rfl) (fun _ _ => rfl) nofun

/-! ## One call at a time -/

/-- **Calls run one at a time, with listeners that are not null**: a reply or
an unsubscription comes when no other is in progress. -/
def OneAtATime (s : ControlManager) : ControlLabel → Prop
  | .finishReceiver reply => reply.proxy ≠ none ∧ ∀ op ∈ s.ops, op.record? = none
  | .unsubscribeCommonEvent listener => listener ≠ none ∧ ∀ op ∈ s.ops, op.record? = none
  | _ => True

instance : ∀ l, Decidable (s.OneAtATime l)
  | .finishReceiver reply =>
    inferInstanceAs (Decidable (reply.proxy ≠ none ∧ ∀ op ∈ s.ops, op.record? = none))
  | .unsubscribeCommonEvent listener =>
    inferInstanceAs (Decidable (listener ≠ none ∧ ∀ op ∈ s.ops, op.record? = none))
  | .tick _ => .isTrue trivial
  | .makeCells _ _ => .isTrue trivial
  | .setUnordered _ => .isTrue trivial
  | .publish _ => .isTrue trivial
  | .op _ => .isTrue trivial
  | .processNextOrderedEvent => .isTrue trivial
  | .timeout _ => .isTrue trivial
  | .thread _ => .isTrue trivial

/-- At most one call is about to finish a record. -/
def Serial (s : ControlManager) : Prop :=
  (s.ops.filterMap ServiceOp.record?).length ≤ 1

/-- A call that goes on stays with its record. -/
theorem filterMap_set {ops : List ServiceOp} {i : ℕ} {op op' : ServiceOp}
    (hi : ops[i]? = some op) (hrecord : op'.record? = op.record?) :
    (ops.set i op').filterMap ServiceOp.record? = ops.filterMap ServiceOp.record? := by
  induction ops generalizing i with
  | nil => rfl
  | cons first rest ih =>
    cases i with
    | zero =>
      obtain rfl : first = op := Option.some.inj hi
      rw [List.set_cons_zero, List.filterMap_cons, List.filterMap_cons, hrecord]
    | succ i => rw [List.set_cons_succ, List.filterMap_cons, List.filterMap_cons, ih hi]

/-- Where one call finishes a record, no other does. -/
theorem Serial.eraseIdx {i : ℕ} {op : ServiceOp} (h : s.Serial) (hi : s.ops[i]? = some op)
    (hrecord : op.record? ≠ none) : ∀ op' ∈ s.ops.eraseIdx i, op'.record? = none := by
  have hlength : ∀ (ops : List ServiceOp) (i : ℕ), ops[i]? = some op →
      (ops.filterMap ServiceOp.record?).length
        = ((ops.eraseIdx i).filterMap ServiceOp.record?).length + 1 := by
    intro ops
    induction ops with
    | nil => exact fun i hi => by cases hi
    | cons first rest ih =>
      intro i hi
      obtain ⟨r, hr⟩ := Option.ne_none_iff_exists'.mp hrecord
      cases i with
      | zero =>
        obtain rfl : first = op := Option.some.inj hi
        rw [List.eraseIdx_cons_zero, List.filterMap_cons_some hr, List.length_cons]
      | succ i =>
        rw [List.eraseIdx_cons_succ, List.filterMap_cons, List.filterMap_cons]
        cases first.record? with
        | none => exact ih i hi
        | some r' => rw [List.length_cons, List.length_cons, ih i hi]
  have hnil : (s.ops.eraseIdx i).filterMap ServiceOp.record? = [] := by
    rw [← List.length_eq_zero_iff]
    have hone : (s.ops.filterMap ServiceOp.record?).length ≤ 1 := h
    have := hlength s.ops i hi
    omega
  exact fun op' hop' => List.filterMap_eq_nil_iff.mp hnil op' hop'

/-- **Calls that run one at a time stay so.** -/
theorem serial_step {l : ControlLabel} (h : s.Serial) (hok : s.OneAtATime l)
    (hstep : s.step P S l = some t) : t.Serial := by
  have hbegin : (∀ op ∈ s.ops, op.record? = none) → ∀ op, t.ops = s.ops ++ [op] →
      t.Serial := by
    intro hnone op hops
    unfold Serial
    rw [hops, List.filterMap_append, List.filterMap_eq_nil_iff.mpr hnone, List.nil_append]
    exact List.length_filterMap_le _ _
  rcases ops_step hstep with hops | ⟨request, -, hops⟩ | ⟨reply, sp, rfl, -, hops⟩ |
    ⟨listener, sp, rfl, -, hops⟩ | ⟨i, op, -, hi, -, hops | ⟨op', hops, hrecord, -⟩⟩
  · unfold Serial
    rw [hops]
    exact h
  · unfold Serial
    rw [hops, List.filterMap_append]
    show (_ ++ []).length ≤ 1
    rw [List.append_nil]
    exact h
  · exact hbegin hok.2 _ hops
  · exact hbegin hok.2 _ hops
  · unfold Serial
    rw [hops]
    exact Nat.le_trans ((s.ops.eraseIdx_sublist i).filterMap _).length_le h
  · unfold Serial
    rw [hops, filterMap_set hi hrecord]
    exact h

/-- **Every step keeps a record aborted**, if calls run one at a time. -/
theorem aborted_step {l : ControlLabel} (hnodup : s.orderedEventQueue.Nodup)
    (h : s.Aborted s.thread r notified) (hok : s.OneAtATime l)
    (hstep : s.step P S l = some t) : t.Aborted t.thread r notified := by
  -- a call that is matched is matched to a record with a current receiver
  have hmatch : ∀ proxy sp, proxy ≠ none → s.getMatchingOrderedReceiver proxy = some sp →
      sp ≠ r := by
    rintro proxy sp hproxy hmatch rfl
    rw [← (getMatchingOrderedReceiver_some hmatch).2, h.curReceiver] at hproxy
    exact hproxy rfl
  have hops : ∀ op ∈ t.ops, op ∈ s.ops ∨ op.record? ≠ some r := by
    intro op hop
    rcases ops_step hstep with hops | ⟨request, -, hops⟩ | ⟨reply, sp, rfl, hsp, hops⟩ |
      ⟨listener, sp, rfl, hsp, hops⟩ | ⟨i, op', -, hi, -, hops | ⟨op'', hops, hrecord, -⟩⟩
    all_goals rw [hops] at hop
    · exact Or.inl hop
    · refine (List.mem_append.mp hop).imp id fun hop => ?_
      rw [List.mem_singleton.mp hop]
      exact nofun
    · refine (List.mem_append.mp hop).imp id fun hop => ?_
      rw [List.mem_singleton.mp hop]
      exact fun hc => hmatch _ sp hok.1 hsp (Option.some.inj hc)
    · refine (List.mem_append.mp hop).imp id fun hop => ?_
      rw [List.mem_singleton.mp hop]
      exact fun hc => hmatch _ sp (Option.some_ne_none listener) hsp (Option.some.inj hc)
    · exact Or.inl (List.mem_of_mem_eraseIdx hop)
    · refine (List.mem_or_eq_of_mem_set hop).imp id ?_
      rintro rfl
      rw [hrecord]
      exact h.ops op' (List.mem_of_getElem? hi)
  cases l with
  | tick duration =>
    cases hstep
    exact h.frame (Nat.le_refl _) rfl id hops h.chosen rfl
  | makeCells data info =>
    cases hstep
    exact h.frame (Nat.le_refl _) rfl id hops h.chosen rfl
  | setUnordered cell =>
    cases hstep
    exact h.frame (Nat.le_refl _) rfl id hops h.chosen rfl
  | publish request =>
    cases hstep
    have hrec : (s.processOrderedEvent P S request).records r = s.records r :=
      Function.update_of_ne (Nat.ne_of_lt h.enqueued) _ _
    refine h.frame (Nat.le_succ _) (by rw [hrec]) (by rw [hrec]; exact id) hops h.chosen rfl
  | finishReceiver reply =>
    cases hstep
    unfold ControlManager.finishReceiver at hops ⊢
    split at hops
    · exact h.frame (Nat.le_refl _) rfl id hops h.chosen rfl
    · exact h
  | unsubscribeCommonEvent listener =>
    cases hstep
    unfold ControlManager.unsubscribeCommonEvent at hops ⊢
    split at hops
    · exact h
    · split at hops
      · exact h.frame (Nat.le_refl _) rfl id hops h.chosen rfl
      · exact h
  | op i =>
    obtain ⟨op, hi, rfl⟩ := Option.map_eq_some_iff.mp hstep
    rw [stepOp_thread]
    cases op with
    | schedule =>
      obtain ⟨scheduled, queue, heq⟩ :=
        { s with ops := s.ops.eraseIdx i }.scheduleOrderedCommonEvent_eq
      unfold ControlManager.stepOp at hops ⊢
      rw [heq] at hops ⊢
      exact h.frame (Nat.le_refl _) rfl id hops h.chosen rfl
    | readResult sp receiver => exact h.frame (Nat.le_refl _) rfl id hops h.chosen rfl
    | finishLoad call => exact h.frame (Nat.le_refl _) rfl id hops h.chosen rfl
    | finishUpdate call state =>
      have hne : r ≠ call.record := fun hc =>
        h.ops _ (List.mem_of_getElem? hi) (congrArg some hc.symm)
      have hrec := (finishUpdate_records (s := s) call r).2.2 hne
      rw [stepOp_finishUpdate] at hops ⊢
      exact h.frame (Nat.le_refl _) (congrArg _ hrec) (fun hcur => (congrArg _ hrec).trans hcur)
        hops h.chosen rfl
  | processNextOrderedEvent =>
    unfold ControlManager.step at hstep
    dsimp only at hstep
    split at hstep
    · cases hstep
      exact h.frame (Nat.le_refl _) rfl id hops nofun rfl
    · cases hstep
  | timeout handler =>
    unfold ControlManager.step at hstep
    dsimp only at hstep
    split at hstep
    · cases hstep
      exact h.frame (Nat.le_refl _) rfl id hops nofun rfl
    · cases hstep
  | thread answer => exact h.stepThread hnodup hstep

/-- **An abort is for good** from the update on that applies it. -/
theorem aborted_of_finishUpdate (hd : s.Dispatch s.thread) (ha : s.Activity s.thread)
    (hserial : s.Serial) {i : ℕ} {call : FinishCall} {state : EventState}
    (hi : s.ops[i]? = some (.finishUpdate call state)) (habort : call.abortEvent = some true)
    (hcur : (s.records call.record).curReceiver ≠ none) :
    (s.stepOp i (.finishUpdate call state)).Aborted s.thread call.record
      (notifiedOf s.trace call.record) := by
  obtain ⟨listener, hlistener⟩ := Option.ne_none_iff_exists'.mp hcur
  have hself : (s.finishUpdate call).records call.record
      = { s.records call.record with
          state := .IDLE
          curReceiver := none
          resultAbort := call.abortEvent.getD (s.records call.record).resultAbort } :=
    Function.update_self _ _ _
  have hchosen : s.thread.chosen ≠ some call.record :=
    fun hc => hcur (ha.quiet _ (OrderedThread.quiet_of_chosen hc))
  rw [stepOp_finishUpdate]
  refine ⟨hd.front_lt (ha.active _ _ hlistener).1, ?_, ?_, ?_, hchosen, rfl⟩
  · exact (congrArg OrderedEventRecord.resultAbort hself).trans (by rw [habort]; rfl)
  · exact congrArg OrderedEventRecord.curReceiver hself
  · intro op hop
    rw [hserial.eraseIdx hi (Option.some_ne_none _) op hop]
    exact nofun

/-! ## The completion of ordered events -/

/-- **The final receivers are called exactly once**, for the records removed
and in the order of removal, and before any later record is notified. What
was removed and what is queued are all records, in order. -/
structure FinalsInOrder (s : ControlManager) : Prop where
  queue : removedOf s.trace ++ s.orderedEventQueue = List.range s.nextRecord
  order : removedOf s.trace = finalsOf s.trace ++ s.thread.finalsLeft
  once : (finalsOf s.trace).Nodup
  removed : ∀ r ∈ finalsOf s.trace, r ∉ s.orderedEventQueue
  inOrder : InOrder s.trace

/-- The records removed and the records queued are different ones. -/
theorem Dispatch.nodup (h : s.Dispatch th) : (removedOf s.trace ++ s.orderedEventQueue).Nodup := by
  rw [h.queue]
  exact List.nodup_range

theorem Dispatch.finalsInOrder (h : s.Dispatch s.thread) : s.FinalsInOrder := by
  obtain ⟨hremoved, -, hdisjoint⟩ := List.nodup_append.mp h.nodup
  have hmem : ∀ r ∈ finalsOf s.trace, r ∈ removedOf s.trace := by
    intro r hr
    rw [h.finals]
    exact List.mem_append_left _ hr
  refine ⟨h.queue, h.finals, ?_, fun r hr hq => hdisjoint r (hmem r hr) r hq rfl, h.inOrder⟩
  rw [h.finals] at hremoved
  exact (List.nodup_append.mp hremoved).1

/-- A final receiver is passed the data stored in the record then. -/
theorem final_passed {l : ControlLabel} (hd : s.Dispatch s.thread)
    (hstep : s.step P S l = some t) {passed : CommonEventData}
    (htrace : t.trace = s.trace ++ [.final r passed]) :
    passed = s.cells (s.records r).commonEventData := by
  rcases queue_step hstep with ⟨new, -, htr⟩ | ⟨u, removed, sp, -, hrun, rfl⟩ |
    ⟨r', rest, sp, -, -, htr⟩ | ⟨sp, i, -, -, htr⟩
  · rw [htr] at htrace
    exact absurd htrace (by simp)
  · have hdone := (processOrderedEventQueueLocked_spec
      (List.nodup_append.mp hd.nodup).2.1 hrun).1
    have heq := List.append_cancel_left (hdone.trace.symm.trans htrace)
    cases removed with
    | nil => cases heq
    | cons first rest => cases (List.cons.inj heq).1
  · cases List.append_cancel_left (htr.symm.trans htrace)
    rfl
  · cases List.append_cancel_left (htr.symm.trans htrace)

/-- While final receivers are to be called, the serial queue calls the next
one. -/
theorem finals_next {rest : List ℕ} (hleft : s.thread.finalsLeft = r :: rest)
    (answer : Answer) :
    ∃ t, s.step P S (.thread answer) = some t
      ∧ t.trace = s.trace ++ [.final r (s.cells (s.records r).commonEventData)]
      ∧ t.thread.finalsLeft = rest := by
  cases hth : s.thread with
  | finals removed sp =>
    rw [hth] at hleft
    obtain rfl : removed = r :: rest := hleft
    refine ⟨{ s.handleFinalSubscriber r answer.hasProxy with thread := .finals rest sp },
      ?_, ?_, rfl⟩
    · show s.stepThread answer = _
      unfold ControlManager.stepThread
      rw [hth]
    · unfold ControlManager.handleFinalSubscriber
      dsimp only
      split <;> rfl
  | _ =>
    rw [hth] at hleft
    cases hleft

/-- **Nobody is notified after an abort**, where calls run one at a time. -/
theorem notifiedOf_of_abort {pre post : List ControlLabel} {i : ℕ}
    (hok : (orderedMachine P S).Guarded OneAtATime (pre ++ .op i :: post))
    (hs : (orderedMachine P S).run pre = some s) {call : FinishCall} {state : EventState}
    (hi : s.ops[i]? = some (.finishUpdate call state)) (habort : call.abortEvent = some true)
    (hcur : (s.records call.record).curReceiver ≠ none)
    (hu : (orderedMachine P S).run (pre ++ .op i :: post) = some u) :
    notifiedOf u.trace call.record = notifiedOf s.trace call.record := by
  have hserial : s.Serial := by
    refine Machine.guarded_invariant (M := orderedMachine P S) (I := Serial) (Nat.zero_le 1)
      (fun s l t h hl hstep => serial_step h hl hstep) (Machine.Guarded.of_append hok) hs
  have haborted : u.Aborted u.thread call.record (notifiedOf s.trace call.record) := by
    -- the run after the update, last step first
    induction post using List.reverseRecOn generalizing u with
    | nil =>
      obtain ⟨s', hs', hstep⟩ := (Machine.run_concat _).mp hu
      obtain rfl : s = s' := Option.some.inj (hs.symm.trans hs')
      obtain ⟨op, hop, rfl⟩ := Option.map_eq_some_iff.mp hstep
      obtain rfl : .finishUpdate call state = op := Option.some.inj (hi.symm.trans hop)
      rw [stepOp_thread]
      exact aborted_of_finishUpdate (dispatch_reachable ⟨pre, hs⟩)
        (activity_reachable ⟨pre, hs⟩) hserial hi habort hcur
    | append_singleton post l ih =>
      rw [← List.cons_append, ← List.append_assoc] at hok hu
      obtain ⟨v, hv, hstep⟩ := (Machine.run_concat _).mp hu
      obtain ⟨hok', hl⟩ := (Machine.guarded_concat hv).mp hok
      have hnodup := (List.nodup_append.mp (dispatch_reachable ⟨_, hv⟩).nodup).2.1
      exact aborted_step hnodup (ih hok' hv) hl hstep
  exact haborted.notified

/-- A manager with two listeners of one event. -/
def twoListeners : SubscriberManager (Buffered CellId) CellId :=
  (oneListener.insertSubscriber .insertion 5000
    (some { matchingSkills := { events := ["e"] }, userId := ALL_USER }) (some ⟨2⟩) {}).2

/-- An ordered publish to both, and the first of them aborts it. -/
def untilAborted : List ControlLabel :=
  [.publish { manager := twoListeners
              event := { commonEventData := { want := { action := "e" } }
                         publishInfo := { ordered := true } }
              resultTo := none },
    .op 0, .processNextOrderedEvent] ++ List.replicate 10 (.thread {})
    ++ [.finishReceiver ⟨some ⟨1⟩, 1, "done", true, (0, 0)⟩, .op 0]

end ControlManager

end CommonEventService

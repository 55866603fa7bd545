import CommonEventService.OrderedDispatch

/-!
# The active receiver

Which record has a receiver at work, and what its state then is. Replies,
timeouts and unsubscriptions all write the same three fields – the state, the
current receiver, the abort flag – and all of them write the same two values
into the first two: idle, and nobody. The serial queue is the only party that
writes anything else, and `Activity` says what it leaves for the others to
find: a current receiver belongs to the front record, which is then not idle
and has just handed over that very receiver; and a record without one is
idle, except between the answer to a notification and the test that follows.

The last clause is about the tasks: while `scheduled_` is set, a task that
will clear it is waiting.
-/

namespace CommonEventService

namespace ServiceOp

/-- The record a service call is about to finish. -/
def record? : ServiceOp → Option ℕ
  | .schedule => none
  | .readResult sp _ => some sp
  | .finishLoad call => some call.record
  | .finishUpdate call _ => some call.record

/-- The call of `FinishReceiverAction` a service call has come to. -/
def call? : ServiceOp → Option FinishCall
  | .schedule => none
  | .readResult _ _ => none
  | .finishLoad call => some call
  | .finishUpdate call _ => some call

/-- The delivery that a service call was matched for, if a receiver was at
work. -/
def matched? : ServiceOp → Option (ℕ × ℕ)
  | .schedule => none
  | .readResult sp receiver => receiver.map (fun i => (sp, i))
  | .finishLoad call => call.receiver.map (fun i => (call.record, i))
  | .finishUpdate call _ => call.receiver.map (fun i => (call.record, i))

end ServiceOp

namespace OrderedThread

/-- The record that has no current receiver because the serial queue has not
set one yet, or has just seen that there is none. -/
def quiet : OrderedThread → Option ℕ
  | .finals _ sp => sp
  | .prepareNext sp => some sp
  | .setTimeout sp _ => some sp
  | .notify sp _ => some sp
  | .frozen sp _ => some sp
  | .prepareNotify sp _ => some sp
  | .storeIdle sp => some sp
  | _ => none

/-- The record whose state the serial queue is about to look at again. -/
def settling : OrderedThread → Option ℕ
  | .finalTest sp => some sp
  | .storeIdle sp => some sp
  | _ => none

end OrderedThread

namespace ControlManager

variable {P : Platform} {S : StdSort} {s t : ControlManager} {th th' : OrderedThread}

/-- The receiver a record has handed over last. -/
def IsLast (record : OrderedEventRecord) (listener : Remote) : Prop :=
  ∃ i receiver, record.nextReceiver = i + 1 ∧ record.receivers[i]? = some receiver
    ∧ receiver.commonEventListener = listener

/-- **The invariant of activity**, with the program counter at `th`. -/
structure Activity (s : ControlManager) (th : OrderedThread) : Prop where
  /-- A current receiver is the last one handed over, of the front record,
  which is not idle. -/
  active : ∀ r listener, (s.records r).curReceiver = some listener →
    s.front = some r ∧ (s.records r).state ≠ .IDLE ∧ IsLast (s.records r) listener
  /-- Without a current receiver a record is idle, or about to be looked
  at. -/
  idle : ∀ r, (s.records r).curReceiver = none →
    (s.records r).state = .IDLE ∨ th.settling = some r
  quiet : ∀ r, th.quiet = some r → (s.records r).curReceiver = none
  scheduled : s.scheduled = true → true ∈ s.orderedQueue

namespace Activity

/-- **The frame rule**: where the records, the queue and the tasks stay, and
the program counter claims no more, the invariant stays. -/
theorem frame (h : s.Activity th) (hrec : t.records = s.records)
    (hq : t.orderedEventQueue = s.orderedEventQueue)
    (hsch : t.scheduled = true → true ∈ t.orderedQueue)
    (hsettling : ∀ r, th.settling = some r →
      th'.settling = some r ∨ (s.records r).curReceiver ≠ none)
    (hquiet : ∀ r, th'.quiet = some r → (s.records r).curReceiver = none) :
    t.Activity th' := by
  have hfront : t.front = s.front := by rw [front, front, hq]
  refine ⟨?_, ?_, ?_, hsch⟩
  · intro r listener hcur
    rw [hrec] at hcur ⊢
    rw [hfront]
    exact h.active r listener hcur
  · intro r hcur
    rw [hrec] at hcur ⊢
    rcases h.idle r hcur with hidle | hset
    · exact Or.inl hidle
    · rcases hsettling r hset with hset' | hne
      · exact Or.inr hset'
      · exact absurd hcur hne
  · intro r hr
    rw [hrec]
    exact hquiet r hr

/-- The rule for a step of the program counter alone. -/
theorem goto (h : s.Activity th) (th' : OrderedThread)
    (hsettling : ∀ r, th.settling = some r →
      th'.settling = some r ∨ (s.records r).curReceiver ≠ none)
    (hquiet : ∀ r, th'.quiet = some r → (s.records r).curReceiver = none) :
    Activity { s with thread := th' } th' :=
  h.frame rfl rfl h.scheduled hsettling hquiet

/-- The frame rule where the program counter stays. -/
theorem stay (h : s.Activity th) (hrec : t.records = s.records)
    (hq : t.orderedEventQueue = s.orderedEventQueue)
    (hsch : t.scheduled = true → true ∈ t.orderedQueue) : t.Activity th :=
  h.frame hrec hq hsch (fun _ hr => Or.inl hr) h.quiet

/-- **The rule for a write to one record.** -/
theorem update (h : s.Activity th) {r : ℕ} {record : OrderedEventRecord}
    (ht : t.records = Function.update s.records r record)
    (hq : t.orderedEventQueue = s.orderedEventQueue)
    (hsch : t.scheduled = true → true ∈ t.orderedQueue)
    (hactive : ∀ listener, record.curReceiver = some listener →
      s.front = some r ∧ record.state ≠ .IDLE ∧ IsLast record listener)
    (hidle : record.curReceiver = none → record.state = .IDLE ∨ th'.settling = some r)
    (hsettling : ∀ r', r' ≠ r → th.settling = some r' → th'.settling = some r')
    (hquiet : ∀ r', th'.quiet = some r' → r' = r ∧ record.curReceiver = none
      ∨ r' ≠ r ∧ th.quiet = some r') : t.Activity th' := by
  have hfront : t.front = s.front := by rw [front, front, hq]
  have hself : t.records r = record := by rw [ht, Function.update_self]
  have hother : ∀ r', r' ≠ r → t.records r' = s.records r' := by
    intro r' hr'
    rw [ht, Function.update_of_ne hr']
  refine ⟨?_, ?_, ?_, hsch⟩
  · intro r' listener hcur
    rw [hfront]
    by_cases hr' : r' = r
    · subst hr'
      rw [hself] at hcur ⊢
      exact hactive listener hcur
    · rw [hother r' hr'] at hcur ⊢
      exact h.active r' listener hcur
  · intro r' hcur
    by_cases hr' : r' = r
    · subst hr'
      rw [hself] at hcur ⊢
      exact hidle hcur
    · rw [hother r' hr'] at hcur ⊢
      rcases h.idle r' hcur with hst | hset
      · exact Or.inl hst
      · exact Or.inr (hsettling r' hr' hset)
  · intro r' hr'
    rcases hquiet r' hr' with ⟨rfl, hcur⟩ | ⟨hne, hq'⟩
    · rw [hself]
      exact hcur
    · rw [hother r' hne]
      exact h.quiet r' hq'

/-- **The rule for what all parties write**: idle, and nobody. -/
theorem settle (h : s.Activity th) {r : ℕ} {record : OrderedEventRecord}
    (ht : t.records = Function.update s.records r record)
    (hq : t.orderedEventQueue = s.orderedEventQueue)
    (hsch : t.scheduled = true → true ∈ t.orderedQueue)
    (hcur : record.curReceiver = none) (hstate : record.state = .IDLE) :
    t.Activity th := by
  refine h.update ht hq hsch ?_ (fun _ => Or.inl hstate) (fun _ _ hr => hr) ?_
  · intro listener hl
    rw [hcur] at hl
    cases hl
  · intro r' hr'
    by_cases hne : r' = r
    · exact Or.inl ⟨hne, hcur⟩
    · exact Or.inr ⟨hne, hr'⟩

/-- An idle record has no current receiver. -/
theorem curReceiver_of_idle (h : s.Activity th) {r : ℕ} (hst : (s.records r).state = .IDLE) :
    (s.records r).curReceiver = none := by
  cases hcur : (s.records r).curReceiver with
  | none => rfl
  | some listener => exact absurd hst (h.active r listener hcur).2.1

end Activity

/-- What `GetMatchingOrderedReceiver` finds. -/
theorem getMatchingOrderedReceiver_some {proxy : Option Remote} {sp : ℕ}
    (h : s.getMatchingOrderedReceiver proxy = some sp) :
    s.front = some sp ∧ (s.records sp).curReceiver = proxy := by
  unfold getMatchingOrderedReceiver at h
  split at h
  next first hfront =>
    split at h
    next hcur =>
      cases h
      exact ⟨hfront, hcur⟩
    next => cases h
  next => cases h

/-! ## Tasks -/

/-- After `ScheduleOrderedCommonEvent` a task is waiting. -/
theorem true_mem_scheduleOrderedCommonEvent
    (hsch : s.scheduled = true → true ∈ s.orderedQueue) :
    true ∈ s.scheduleOrderedCommonEvent.orderedQueue := by
  unfold scheduleOrderedCommonEvent
  split
  next h => exact hsch h
  next h => simp

theorem scheduleOrderedCommonEvent_records :
    s.scheduleOrderedCommonEvent.records = s.records
      ∧ s.scheduleOrderedCommonEvent.orderedEventQueue = s.orderedEventQueue := by
  obtain ⟨scheduled, queue, heq⟩ := s.scheduleOrderedCommonEvent_eq
  rw [heq]
  exact ⟨rfl, rfl⟩

theorem setTimeout_records :
    s.setTimeout.records = s.records
      ∧ s.setTimeout.orderedEventQueue = s.orderedEventQueue
      ∧ s.setTimeout.scheduled = s.scheduled
      ∧ s.setTimeout.orderedQueue = s.orderedQueue
      ∧ s.setTimeout.ops = s.ops := by
  obtain ⟨pending, handler, next, timers, heq⟩ := s.setTimeout_eq
  rw [heq]
  exact ⟨rfl, rfl, rfl, rfl, rfl⟩

theorem Activity.scheduleOrderedCommonEvent (h : s.Activity th) :
    s.scheduleOrderedCommonEvent.Activity th :=
  h.stay scheduleOrderedCommonEvent_records.1 scheduleOrderedCommonEvent_records.2
    (fun _ => true_mem_scheduleOrderedCommonEvent h.scheduled)

theorem Activity.setTimeout (h : s.Activity th) : s.setTimeout.Activity th := by
  obtain ⟨hrec, hq, hsch, hord, -⟩ := setTimeout_records (s := s)
  refine h.stay hrec hq ?_
  rw [hsch, hord]
  exact h.scheduled

/-! ## The section under the queue's lock -/

theorem Activity.handleTimeoutReceiver (h : s.Activity th) (sp nowSysTime : ℕ) :
    (s.handleTimeoutReceiver sp nowSysTime).Activity th :=
  h.settle (r := sp) rfl rfl h.scheduled rfl rfl

theorem Activity.checkTimeoutForceReceive (h : s.Activity th) {sp : ℕ} {u : ControlManager}
    {forced : Bool} (hcheck : s.checkTimeoutForceReceive sp = (u, forced)) :
    u.Activity th := by
  rcases s.checkTimeoutForceReceive_cases sp with ⟨-, heq⟩ | ⟨-, heq⟩
  · rw [heq] at hcheck
    cases hcheck
    exact h.handleTimeoutReceiver sp s.now
  · rw [heq] at hcheck
    cases hcheck
    exact h

/-- **An idle front record leaves nobody at work.** -/
theorem Activity.curReceiver_of_idle_front (h : s.Activity th) {sp : ℕ} {rest : List ℕ}
    (hq : s.orderedEventQueue = sp :: rest) (hst : (s.records sp).state = .IDLE) (r : ℕ) :
    (s.records r).curReceiver = none := by
  cases hcur : (s.records r).curReceiver with
  | none => rfl
  | some listener =>
    obtain ⟨hfront, hne, -⟩ := h.active r listener hcur
    rw [front, hq] at hfront
    obtain rfl : sp = r := Option.some.inj hfront
    exact absurd hst hne

/-- The removal of an idle front record keeps the invariant. -/
theorem Activity.removeFront (h : s.Activity th) {sp : ℕ} {rest : List ℕ}
    (hq : s.orderedEventQueue = sp :: rest) (hst : (s.records sp).state = .IDLE)
    (hrec : t.records = s.records) (hsch : t.scheduled = true → true ∈ t.orderedQueue) :
    t.Activity th := by
  have hnone := h.curReceiver_of_idle_front hq hst
  refine ⟨?_, ?_, ?_, hsch⟩
  · intro r listener hcur
    rw [hrec, hnone r] at hcur
    cases hcur
  · intro r hcur
    rw [hrec] at hcur ⊢
    exact h.idle r hcur
  · intro r _
    rw [hrec]
    exact hnone r

/-- **The section under the queue's lock** keeps the invariant; it leaves
with the front record only if that is idle, and without it only if the queue
is empty or its front record has a receiver at work. -/
theorem Activity.processOrderedEventQueueLocked (h : s.Activity .queueSection)
    {u : ControlManager} {removed : List ℕ} {sp : Option ℕ}
    (hrun : s.processOrderedEventQueueLocked = some (u, removed, sp)) :
    u.Activity (.finals removed sp)
      ∧ ∀ r, sp = none → u.front = some r → (u.records r).curReceiver ≠ none := by
  refine DoWhile.doWhile_rule (f := processOrderedEventQueuePass) (s := (s, []))
    (fun loop => loop.1.Activity .queueSection)
    (fun result => result.1.Activity (.finals result.2.1 result.2.2)
      ∧ ∀ r, result.2.2 = none → result.1.front = some r →
          (result.1.records r).curReceiver ≠ none) ?_ ?_ h hrun
  · rintro ⟨s', removed⟩ loop' ha heq'
    rcases processOrderedEventQueuePass_cases (s := s') removed with ⟨-, heq⟩ |
      ⟨sp, rest, u, forced, hq, hc, ⟨-, heq⟩ | ⟨hst, -, heq⟩ | ⟨-, -, -, -, heq⟩⟩
    all_goals
      rw [heq] at heq'
      cases heq'
    have huq := (checkTimeoutForceReceive_frame hc).1
    have hu := ha.checkTimeoutForceReceive hc
    obtain ⟨pending, timers, hcancel⟩ := u.cancelTimeout_eq
    rw [hcancel]
    exact hu.removeFront (huq.trans hq) hst rfl hu.scheduled
  · rintro ⟨s', removed⟩ result ha heq'
    rcases processOrderedEventQueuePass_cases (s := s') removed with ⟨hq, heq⟩ |
      ⟨sp, rest, u, forced, hq, hc, ⟨hst, heq⟩ | ⟨-, -, heq⟩ | ⟨hst, -, -, -, heq⟩⟩
    all_goals
      rw [heq] at heq'
      cases heq'
    · -- the queue is empty
      refine ⟨ha.frame rfl rfl ha.scheduled (fun _ h => by cases h) (fun _ h => by cases h), ?_⟩
      intro r _ hfront
      rw [front, hq] at hfront
      cases hfront
    · -- the front record is not idle
      have huq := (checkTimeoutForceReceive_frame hc).1
      have hu := ha.checkTimeoutForceReceive hc
      refine ⟨hu.frame rfl rfl hu.scheduled (fun _ h => by cases h) (fun _ h => by cases h), ?_⟩
      intro r _ hfront hcur
      rw [front, huq, hq] at hfront
      obtain rfl : sp = r := Option.some.inj hfront
      rcases hu.idle sp hcur with hidle | hset
      · exact hst hidle
      · cases hset
    · -- the front record is idle
      have hu := ha.checkTimeoutForceReceive hc
      refine ⟨hu.frame rfl rfl hu.scheduled (fun _ h => by cases h) ?_, fun _ h => by cases h⟩
      intro r hr
      obtain rfl : sp = r := Option.some.inj hr
      exact hu.curReceiver_of_idle hst

/-- The section under the queue's lock submits no task and touches no service
call. -/
theorem ops_processOrderedEventQueueLocked {u : ControlManager} {removed : List ℕ}
    {sp : Option ℕ} (hrun : s.processOrderedEventQueueLocked = some (u, removed, sp)) :
    u.orderedQueue = s.orderedQueue ∧ u.ops = s.ops := by
  refine DoWhile.doWhile_rule (f := processOrderedEventQueuePass) (s := (s, []))
    (fun loop => loop.1.orderedQueue = s.orderedQueue ∧ loop.1.ops = s.ops)
    (fun result => result.1.orderedQueue = s.orderedQueue ∧ result.1.ops = s.ops) ?_ ?_
    ⟨rfl, rfl⟩ hrun
  · rintro ⟨s', removed⟩ loop' ⟨hord, hops⟩ heq'
    rcases processOrderedEventQueuePass_cases (s := s') removed with ⟨-, heq⟩ |
      ⟨sp, rest, u, forced, -, hc, ⟨-, heq⟩ | ⟨-, -, heq⟩ | ⟨-, -, -, -, heq⟩⟩
    all_goals
      rw [heq] at heq'
      cases heq'
    obtain ⟨-, -, -, -, -, huops, huord, -⟩ := checkTimeoutForceReceive_frame hc
    obtain ⟨pending, timers, hcancel⟩ := u.cancelTimeout_eq
    rw [hcancel]
    exact ⟨huord.trans hord, huops.trans hops⟩
  · rintro ⟨s', removed⟩ result ⟨hord, hops⟩ heq'
    rcases processOrderedEventQueuePass_cases (s := s') removed with ⟨-, heq⟩ |
      ⟨sp, rest, u, forced, -, hc, ⟨-, heq⟩ | ⟨-, -, heq⟩ | ⟨-, -, -, -, heq⟩⟩
    all_goals
      rw [heq] at heq'
      cases heq'
    · exact ⟨hord, hops⟩
    all_goals
      obtain ⟨-, -, -, -, -, huops, huord, -⟩ := checkTimeoutForceReceive_frame hc
      exact ⟨huord.trans hord, huops.trans hops⟩

/-! ## The steps -/

theorem Activity.processOrderedEvent (h : s.Activity th) (request : PublishRequest)
    (hth : th.quiet ≠ some s.nextRecord) :
    (s.processOrderedEvent P S request).Activity th := by
  set t := s.processOrderedEvent P S request with ht
  have hself : (t.records s.nextRecord).curReceiver = none
      ∧ (t.records s.nextRecord).state = .IDLE := by
    rw [ht, ControlManager.processOrderedEvent]
    simp [makeCells]
  have hother : ∀ r, r ≠ s.nextRecord → t.records r = s.records r := fun r hr =>
    Function.update_of_ne hr _ _
  have hfront : ∀ r, s.front = some r → t.front = some r := by
    intro r hr
    obtain ⟨rest, hrest⟩ := List.head?_eq_some_iff.mp hr
    have : t.orderedEventQueue = s.orderedEventQueue ++ [s.nextRecord] := rfl
    rw [front, this, hrest]
    rfl
  refine ⟨?_, ?_, ?_, h.scheduled⟩
  · intro r listener hcur
    by_cases hr : r = s.nextRecord
    · subst hr
      rw [hself.1] at hcur
      cases hcur
    · rw [hother r hr] at hcur ⊢
      obtain ⟨hfr, hrest⟩ := h.active r listener hcur
      exact ⟨hfront r hfr, hrest⟩
  · intro r hcur
    by_cases hr : r = s.nextRecord
    · subst hr
      exact Or.inl hself.2
    · rw [hother r hr] at hcur ⊢
      exact h.idle r hcur
  · intro r hr
    have hne : r ≠ s.nextRecord := by
      rintro rfl
      exact hth hr
    rw [hother r hne]
    exact h.quiet r hr

/-- **The last step of `FinishReceiverAction`**: the locked update, and a task
if the state loaded was `RECEIVED`. -/
theorem stepOp_finishUpdate (i : ℕ) (call : FinishCall) (state : EventState) :
    s.stepOp i (.finishUpdate call state)
      = { { s with ops := s.ops.eraseIdx i }.finishUpdate call with
          orderedQueue := s.orderedQueue ++ if state = .RECEIVED then [false] else [] } := by
  unfold ControlManager.stepOp
  dsimp only
  split
  · rfl
  · rw [List.append_nil]
    rfl

/-- `FinishReceiver` leaves the receivers of a record and the time they were
given. -/
theorem finishUpdate_records (call : FinishCall) (r : ℕ) :
    ((s.finishUpdate call).records r).receiverTime = (s.records r).receiverTime
      ∧ ((s.finishUpdate call).records r).receivers = (s.records r).receivers
      ∧ (r ≠ call.record → (s.finishUpdate call).records r = s.records r) := by
  have hrec : (s.finishUpdate call).records r = if r = call.record then
      { s.records call.record with
        state := .IDLE
        curReceiver := none
        resultAbort := call.abortEvent.getD (s.records call.record).resultAbort }
      else s.records r := Function.update_apply _ _ _ _
  rw [hrec]
  split
  next h => exact ⟨by rw [h], by rw [h], fun hne => absurd h hne⟩
  next => exact ⟨rfl, rfl, fun _ => rfl⟩

/-- `HandleFinalSubscriber` writes to nothing but the final receiver. -/
theorem handleFinalSubscriber_records (sp : ℕ) (hasProxy : Bool) :
    (∀ r, ((s.handleFinalSubscriber sp hasProxy).records r).state = (s.records r).state
        ∧ ((s.handleFinalSubscriber sp hasProxy).records r).curReceiver
          = (s.records r).curReceiver)
      ∧ (s.handleFinalSubscriber sp hasProxy).orderedEventQueue = s.orderedEventQueue
      ∧ (s.handleFinalSubscriber sp hasProxy).orderedQueue = s.orderedQueue
      ∧ (s.handleFinalSubscriber sp hasProxy).ops = s.ops := by
  unfold handleFinalSubscriber
  dsimp only
  split
  · exact ⟨fun _ => ⟨rfl, rfl⟩, rfl, rfl, rfl⟩
  · refine ⟨fun r => ?_, rfl, rfl, rfl⟩
    rw [modify_records]
    split
    next hr => exact hr ▸ ⟨rfl, rfl⟩
    next => exact ⟨rfl, rfl⟩

theorem Activity.stepOp (h : s.Activity th) (i : ℕ) (op : ServiceOp) :
    (s.stepOp i op).Activity th := by
  have hops : ∀ ops, Activity { s with ops := ops } th := fun ops =>
    h.stay rfl rfl h.scheduled
  cases op with
  | schedule => exact (hops _).scheduleOrderedCommonEvent
  | readResult sp receiver => exact hops _
  | finishLoad call => exact hops _
  | finishUpdate call state =>
    rw [stepOp_finishUpdate]
    refine h.settle (r := call.record) rfl rfl ?_ rfl rfl
    exact fun hs => List.mem_append_left _ (h.scheduled hs)

/-- **A step of the serial queue keeps the invariant of activity.** -/
theorem Activity.stepThread (hd : s.Dispatch s.thread) (h : s.Activity s.thread)
    {answer : Answer} (hstep : s.stepThread answer = some t) : t.Activity t.thread := by
  have hcase := threadStep_of_stepThread hstep
  generalize s.thread = th at hcase h hd
  cases hcase with
  | queueSection u removed sp hrun =>
    -- the lock is released before the final receivers are called
    have hu := (h.processOrderedEventQueueLocked hrun).1
    exact hu.stay rfl rfl hu.scheduled
  | finalSubscriber removed rest sp =>
    have hfinal : ∀ trace : List TraceEvent,
        Activity { s with trace := trace, thread := .finals rest sp } (.finals rest sp) :=
      fun trace => h.frame rfl rfl h.scheduled nofun h.quiet
    unfold ControlManager.handleFinalSubscriber
    dsimp only
    split
    · exact hfinal _
    · refine (hfinal (s.trace ++
          [.final removed (s.cells (s.records removed).commonEventData)])).update
        (r := removed) rfl rfl h.scheduled
        (fun listener hl => h.active removed listener hl)
        (fun hcur => (h.idle removed hcur).imp id fun hset => by cases hset)
        (fun _ _ hr => hr) ?_
      intro r hr
      by_cases hne : r = removed
      · subst hne
        exact Or.inl ⟨rfl, h.quiet r hr⟩
      · exact Or.inr ⟨hne, hr⟩
  | finalsEnd => exact h.goto _ nofun nofun
  | finalsNext sp => exact h.goto _ nofun h.quiet
  | prepareNext sp =>
    have hcur := h.quiet sp rfl
    refine h.update (r := sp) rfl rfl h.scheduled ?_ ?_ nofun ?_
    · intro listener hl
      rw [show (s.records sp).curReceiver = some listener from hl] at hcur
      cases hcur
    · exact fun _ => (h.idle sp hcur).imp id fun hset => by cases hset
    · intro r hr
      obtain rfl : sp = r := Option.some.inj hr
      exact Or.inl ⟨rfl, hcur⟩
  | setTimeout sp i =>
    refine h.setTimeout.goto (.notify sp i) nofun ?_
    exact h.setTimeout.quiet
  | notifyInvalid sp i hindex =>
    have htr : Activity { s with trace := s.trace ++ [.notified sp i] } (.notify sp i) :=
      h.stay rfl rfl h.scheduled
    exact htr.goto _ nofun nofun
  | notifyFrozen sp i hindex hfreeze =>
    have htr : Activity { s with trace := s.trace ++ [.notified sp i] } (.notify sp i) :=
      h.stay rfl rfl h.scheduled
    exact htr.goto _ nofun htr.quiet
  | notifyReceiver sp i hindex hfreeze =>
    have htr : Activity { s with trace := s.trace ++ [.notified sp i] } (.notify sp i) :=
      h.stay rfl rfl h.scheduled
    exact htr.goto _ nofun htr.quiet
  | frozen sp i =>
    have hcur := h.quiet sp rfl
    have hidle : (s.records sp).state = .IDLE :=
      (h.idle sp hcur).resolve_right fun hset => by cases hset
    have hset : (s.notifyFrozenSubscriber sp i).Activity (.frozen sp i) :=
      h.settle (r := sp) rfl rfl h.scheduled rfl hidle
    exact hset.goto _ nofun nofun
  | prepareNotify sp i hproxy =>
    obtain ⟨hfront, hnext⟩ := hd.threadOk
    have hlt : i < (s.records sp).receivers.length := by
      have := hd.nextReceiver_le sp
      omega
    refine h.update (r := sp) rfl rfl h.scheduled ?_ ?_ nofun nofun
    · intro listener hl
      obtain ⟨receiver, hreceiver, hlistener⟩ := Option.map_eq_some_iff.mp hl
      exact ⟨hfront, EventState.noConfusion, i, receiver, hnext, hreceiver, hlistener⟩
    · -- the index handed over is within the receivers
      intro hnone
      have hmap : (s.records sp).receivers[i]?.map (fun receiver =>
          receiver.commonEventListener) = none := hnone
      rw [List.getElem?_eq_getElem hlt] at hmap
      cases hmap
  | invalidProxy sp i hproxy =>
    have hcur := h.quiet sp rfl
    have hidle : (s.records sp).state = .IDLE :=
      (h.idle sp hcur).resolve_right fun hset => by cases hset
    have hset : (s.prepareOrderedNotify sp i false).Activity (.prepareNotify sp i) :=
      h.settle (r := sp) rfl rfl h.scheduled rfl hidle
    exact hset.goto (.finalTest sp) nofun nofun
  | call sp i => exact h.goto _ nofun nofun
  | inCall sp i => exact h.goto _ nofun nofun
  | handleResult sp i isOk =>
    cases isOk with
    | true =>
      -- the state is no longer idle, and is looked at again next
      refine h.update (r := sp) rfl rfl h.scheduled ?_ (fun _ => Or.inr rfl)
        nofun nofun
      intro listener hl
      obtain ⟨hfront, -, hlast⟩ := h.active sp listener hl
      exact ⟨hfront, EventState.noConfusion, hlast⟩
    | false =>
      refine h.update (r := sp) rfl rfl h.scheduled nofun
        (fun _ => Or.inr rfl) nofun nofun
  | finalTestNone sp hcur =>
    refine h.goto _ (fun r hr => Or.inl hr) ?_
    intro r hr
    obtain rfl : sp = r := Option.some.inj hr
    exact hcur
  | finalTestSome sp hcur =>
    refine h.goto _ ?_ nofun
    intro r hr
    obtain rfl : sp = r := Option.some.inj hr
    exact Or.inr hcur
  | storeIdle sp =>
    refine h.update (r := sp) rfl rfl h.scheduled ?_ (fun _ => Or.inl rfl) ?_
      nofun
    · intro listener hl
      rw [show (s.records sp).curReceiver = none from h.quiet sp rfl] at hl
      cases hl
    · intro r hne hr
      exact absurd (Option.some.inj hr).symm hne
  | reschedule => exact h.scheduleOrderedCommonEvent.goto _ nofun nofun
  | timeoutEmpty hfront => exact h.frame rfl rfl h.scheduled nofun nofun
  | timeoutFront sp hfront => exact h.frame rfl rfl h.scheduled nofun nofun
  | timeoutEarly sp hearly => exact h.setTimeout.goto _ nofun nofun
  | timeoutDue sp hdue => exact h.goto _ nofun nofun
  | timeoutHandle sp nowSysTime =>
    exact (h.handleTimeoutReceiver sp nowSysTime).goto _ nofun nofun

/-- The serial queue does not touch the service calls. -/
theorem stepThread_ops {answer : Answer} (hstep : s.stepThread answer = some t) :
    t.ops = s.ops := by
  have hcase := threadStep_of_stepThread hstep
  generalize s.thread = th at hcase
  cases hcase with
  | queueSection u removed sp hrun => exact (ops_processOrderedEventQueueLocked hrun).2
  | finalSubscriber removed rest sp =>
    exact (handleFinalSubscriber_records removed answer.hasProxy).2.2.2
  | setTimeout sp i => exact setTimeout_records.2.2.2.2
  | timeoutEarly sp hearly => exact setTimeout_records.2.2.2.2
  | reschedule =>
    obtain ⟨scheduled, queue, heq⟩ := s.scheduleOrderedCommonEvent_eq
    rw [heq]
  | _ => rfl

/-- **What a step does to the service calls.** It leaves them; or a call
begins, of a publish, or of a reply or an unsubscription that was matched; or
one call goes on. A call that goes on stays with its record, the delivery it was
matched for, and its reply. -/
theorem ops_step {l : ControlLabel} (hstep : s.step P S l = some t) :
    t.ops = s.ops
    ∨ (∃ request, l = .publish request ∧ t.ops = s.ops ++ [.schedule])
    ∨ (∃ reply sp, l = .finishReceiver reply
        ∧ s.getMatchingOrderedReceiver reply.proxy = some sp
        ∧ t.ops = s.ops ++ [.finishLoad
          ⟨sp, reply.code, reply.receiverData, some reply.abortEvent, some reply,
            (s.records sp).currentIndex⟩])
    ∨ (∃ listener sp, l = .unsubscribeCommonEvent (some listener)
        ∧ s.getMatchingOrderedReceiver (some listener) = some sp
        ∧ t.ops = s.ops ++ [.readResult sp (s.records sp).currentIndex])
    ∨ ∃ i op, l = .op i ∧ s.ops[i]? = some op ∧ t = s.stepOp i op
        ∧ (t.ops = s.ops.eraseIdx i ∨ ∃ op', t.ops = s.ops.set i op' ∧ op'.record? = op.record?
          ∧ op'.matched? = op.matched?
          ∧ ∀ call, op'.call? = some call → op.call? = some call ∨ call.reply = none) := by
  cases l with
  | tick duration =>
    cases hstep
    exact Or.inl rfl
  | makeCells data info =>
    cases hstep
    exact Or.inl rfl
  | setUnordered cell =>
    cases hstep
    exact Or.inl rfl
  | publish request =>
    cases hstep
    exact Or.inr (Or.inl ⟨request, rfl, rfl⟩)
  | finishReceiver reply =>
    cases hstep
    unfold ControlManager.finishReceiver
    split
    next sp hmatch => exact Or.inr (Or.inr (Or.inl ⟨reply, sp, rfl, hmatch, rfl⟩))
    next => exact Or.inl rfl
  | unsubscribeCommonEvent listener =>
    cases hstep
    unfold ControlManager.unsubscribeCommonEvent
    split
    next => exact Or.inl rfl
    next listener =>
      split
      next sp hmatch =>
        exact Or.inr (Or.inr (Or.inr (Or.inl ⟨listener, sp, rfl, hmatch, rfl⟩)))
      next => exact Or.inl rfl
  | op i =>
    obtain ⟨op, hi, rfl⟩ := Option.map_eq_some_iff.mp hstep
    refine Or.inr (Or.inr (Or.inr (Or.inr ⟨i, op, rfl, hi, rfl, ?_⟩)))
    -- a call in progress is over, or goes on to its next section
    cases op with
    | schedule =>
      obtain ⟨scheduled, queue, heq⟩ :=
        { s with ops := s.ops.eraseIdx i }.scheduleOrderedCommonEvent_eq
      refine Or.inl ?_
      unfold ControlManager.stepOp
      rw [heq]
    | readResult sp receiver =>
      exact Or.inr ⟨_, rfl, rfl, rfl, fun call hcall => Or.inr (by cases hcall; rfl)⟩
    | finishLoad call => exact Or.inr ⟨_, rfl, rfl, rfl, fun _ hcall => Or.inl hcall⟩
    | finishUpdate call state =>
      rw [stepOp_finishUpdate]
      exact Or.inl rfl
  | processNextOrderedEvent =>
    unfold ControlManager.step at hstep
    dsimp only at hstep
    split at hstep
    · cases hstep
      exact Or.inl rfl
    · cases hstep
  | timeout handler =>
    unfold ControlManager.step at hstep
    dsimp only at hstep
    split at hstep
    · cases hstep
      exact Or.inl rfl
    · cases hstep
  | thread answer => exact Or.inl (stepThread_ops hstep)

/-- The record without a current receiver is the front one. -/
theorem front_of_quiet {th : OrderedThread} {sp : ℕ} (hok : s.ThreadOk th)
    (hquiet : th.quiet = some sp) : s.front = some sp := by
  cases th with
  | storeIdle sp =>
    cases hquiet
    exact hok
  | finals removed sp =>
    cases hquiet
    exact hok.1
  | prepareNext sp =>
    cases hquiet
    exact hok.1
  | setTimeout sp i | notify sp i | frozen sp i | prepareNotify sp i =>
    cases hquiet
    exact hok.1
  | _ => cases hquiet

/-- **Every step keeps the invariant of activity.** -/
theorem activity_step {l : ControlLabel} (hd : s.Dispatch s.thread)
    (h : s.Activity s.thread) (hstep : s.step P S l = some t) : t.Activity t.thread := by
  cases l with
  | tick duration =>
    cases hstep
    exact h.stay rfl rfl h.scheduled
  | makeCells data info =>
    cases hstep
    exact h.stay rfl rfl h.scheduled
  | setUnordered cell =>
    cases hstep
    exact h.stay rfl rfl h.scheduled
  | publish request =>
    cases hstep
    -- the new record goes behind the front one
    have hfresh : s.front ≠ some s.nextRecord := fun hfront =>
      absurd (hd.front_lt hfront) (Nat.lt_irrefl _)
    exact h.processOrderedEvent request (fun hq => hfresh (front_of_quiet hd.threadOk hq))
  | finishReceiver reply =>
    cases hstep
    unfold ControlManager.finishReceiver
    split
    · exact h.stay rfl rfl h.scheduled
    · exact h
  | unsubscribeCommonEvent listener =>
    cases hstep
    unfold ControlManager.unsubscribeCommonEvent
    split
    · exact h
    · split
      · exact h.stay rfl rfl h.scheduled
      · exact h
  | op i =>
    obtain ⟨op, -, rfl⟩ := Option.map_eq_some_iff.mp hstep
    rw [stepOp_thread]
    exact h.stepOp i op
  | processNextOrderedEvent =>
    unfold ControlManager.step at hstep
    dsimp only at hstep
    split at hstep
    next isSendMsg rest hth hq =>
      cases hstep
      rw [hth] at h
      refine h.frame rfl rfl ?_ nofun nofun
      -- a plain task that is taken leaves the scheduled one waiting
      have hsch := h.scheduled
      rw [hq] at hsch
      cases isSendMsg with
      | true => exact nofun
      | false => exact fun hc => (List.mem_cons.mp (hsch hc)).resolve_left (by simp)
    next => cases hstep
  | timeout handler =>
    unfold ControlManager.step at hstep
    dsimp only at hstep
    split at hstep
    next hc =>
      cases hstep
      rw [hc.1] at h
      exact h.frame rfl rfl h.scheduled nofun nofun
    next => cases hstep
  | thread answer => exact Activity.stepThread hd h hstep

theorem activity_init : ({} : ControlManager).Activity .idle :=
  ⟨nofun, fun _ _ => Or.inl rfl, nofun, nofun⟩

/-- **The invariant of activity holds in every reachable state.** -/
theorem activity_reachable (hs : (orderedMachine P S).Reachable s) :
    s.Activity s.thread := by
  have hboth : s.Dispatch s.thread ∧ s.Activity s.thread :=
    Machine.invariant (M := orderedMachine P S)
      (I := fun s => s.Dispatch s.thread ∧ s.Activity s.thread)
      ⟨dispatch_init, activity_init⟩
      (fun _ _ _ h hstep => ⟨dispatch_step h.1 hstep, activity_step h.1 h.2 hstep⟩) hs
  exact hboth.2

end ControlManager

end CommonEventService

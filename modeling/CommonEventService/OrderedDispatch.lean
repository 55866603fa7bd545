import CommonEventService.OrderedPipeline

/-!
# The order of dispatch

What no interleaving of the four parties changes: the records leave the queue
in the order they entered it, the receivers of a record are taken one after
another from the first, and a record is not begun before those ahead of it
are done with.

The invariant is `Dispatch`. Most steps touch none of what it speaks of – a
reply, a timeout, an unsubscription change the state of a record, never how
many of its receivers were handed over – so it is stated over the *skeleton*
of a record, the part only the publish and `PrepareNextReceiverRecord` write,
and the frame rule `Dispatch.frame` disposes of the rest.

The program counter is an argument of its own. That is for the loop under the
queue's lock: while it runs, the invariant holds as if the serial queue had
already begun to call the final receivers of the records removed so far.
-/

namespace CommonEventService

/-! ## Reading the trace -/

namespace TraceEvent

/-- The record that was removed. -/
def removed? : TraceEvent → Option ℕ
  | .removed r => some r
  | _ => none

/-- The record whose final receiver was called. -/
def final? : TraceEvent → Option ℕ
  | .final r _ => some r
  | _ => none

/-- The index that was passed, where it was one of this record. -/
def notified? (record : ℕ) : TraceEvent → Option ℕ
  | .notified r index => if r = record then some index else none
  | _ => none

end TraceEvent

/-- The records removed, in order. -/
def removedOf (trace : List TraceEvent) : List ℕ := trace.filterMap TraceEvent.removed?

/-- The records whose final receivers were called, in order. -/
def finalsOf (trace : List TraceEvent) : List ℕ := trace.filterMap TraceEvent.final?

/-- The indices a record was notified with, in order. -/
def notifiedOf (trace : List TraceEvent) (record : ℕ) : List ℕ :=
  trace.filterMap (TraceEvent.notified? record)

section Trace

variable (trace : List TraceEvent) (r : ℕ)

@[simp] theorem removedOf_removed :
    removedOf (trace ++ [.removed r]) = removedOf trace ++ [r] := by
  simp [removedOf, TraceEvent.removed?]

@[simp] theorem removedOf_final (d : CommonEventData) :
    removedOf (trace ++ [.final r d]) = removedOf trace := by
  simp [removedOf, TraceEvent.removed?]

@[simp] theorem removedOf_notified (i : ℕ) :
    removedOf (trace ++ [.notified r i]) = removedOf trace := by
  simp [removedOf, TraceEvent.removed?]

@[simp] theorem finalsOf_removed :
    finalsOf (trace ++ [.removed r]) = finalsOf trace := by
  simp [finalsOf, TraceEvent.final?]

@[simp] theorem finalsOf_final (d : CommonEventData) :
    finalsOf (trace ++ [.final r d]) = finalsOf trace ++ [r] := by
  simp [finalsOf, TraceEvent.final?]

@[simp] theorem finalsOf_notified (i : ℕ) :
    finalsOf (trace ++ [.notified r i]) = finalsOf trace := by
  simp [finalsOf, TraceEvent.final?]

@[simp] theorem notifiedOf_removed (r' : ℕ) :
    notifiedOf (trace ++ [.removed r]) r' = notifiedOf trace r' := by
  simp [notifiedOf, TraceEvent.notified?]

@[simp] theorem notifiedOf_final (d : CommonEventData) (r' : ℕ) :
    notifiedOf (trace ++ [.final r d]) r' = notifiedOf trace r' := by
  simp [notifiedOf, TraceEvent.notified?]

theorem notifiedOf_notified (i : ℕ) (r' : ℕ) :
    notifiedOf (trace ++ [.notified r i]) r'
      = if r = r' then notifiedOf trace r' ++ [i] else notifiedOf trace r' := by
  by_cases h : r = r' <;> simp [notifiedOf, TraceEvent.notified?, h]

end Trace

/-- **No receiver is notified early**: before each notification, all earlier
records were removed and their final receivers called. -/
def InOrder (trace : List TraceEvent) : Prop :=
  ∀ pre r i post, trace = pre ++ .notified r i :: post →
    ∀ r' < r, r' ∈ removedOf pre ∧ r' ∈ finalsOf pre

theorem inOrder_nil : InOrder [] := by
  intro pre r i post h
  exact absurd h.symm (by simp)

/-- One more event that is in order keeps a trace in order. -/
theorem InOrder.concat {trace : List TraceEvent} (h : InOrder trace) {e : TraceEvent}
    (he : ∀ r i, e = .notified r i → ∀ r' < r, r' ∈ removedOf trace ∧ r' ∈ finalsOf trace) :
    InOrder (trace ++ [e]) := by
  intro pre r i post heq r' hr'
  rcases List.eq_nil_or_concat post with rfl | ⟨post, e', rfl⟩
  · obtain ⟨rfl, he'⟩ := List.append_inj' heq rfl
    exact he r i (List.singleton_inj.mp he') r' hr'
  · have hcat : trace ++ [e] = (pre ++ .notified r i :: post) ++ [e'] := by
      rw [heq]
      simp
    exact h pre r i post (List.append_inj' hcat rfl).1 r' hr'

/-! ## The invariant -/

/-- **The skeleton of a record**: what only the publish and
`PrepareNextReceiverRecord` write. -/
def OrderedEventRecord.skeleton (record : OrderedEventRecord) :
    ℕ × List Receiver × ℕ × CellId :=
  (record.nextReceiver, record.receivers, record.deliveryState.length,
    record.commonEventData)

namespace OrderedThread

/-- The records whose final receivers are still to be called. -/
def finalsLeft : OrderedThread → List ℕ
  | .finals removed _ => removed
  | _ => []

/-- The record that has handed over an index it has not been notified with
yet. -/
def unnotified : OrderedThread → Option ℕ
  | .setTimeout sp _ => some sp
  | .notify sp _ => some sp
  | _ => none

end OrderedThread

namespace ControlManager

/-- **What the program counter says about the record it is at**: it is the
front of the queue, and the index handed over is the last one. -/
def ThreadOk (s : ControlManager) : OrderedThread → Prop
  | .finals _ (some sp) =>
    s.front = some sp ∧ (s.records sp).nextReceiver < (s.records sp).receivers.length
  | .prepareNext sp =>
    s.front = some sp ∧ (s.records sp).nextReceiver < (s.records sp).receivers.length
  | .setTimeout sp i | .notify sp i | .frozen sp i | .prepareNotify sp i | .call sp i
  | .inCall sp i | .handleResult sp i _ =>
    s.front = some sp ∧ (s.records sp).nextReceiver = i + 1
  | .finalTest sp | .storeIdle sp => s.front = some sp
  | _ => True

/-- **The invariant of dispatch**, with the program counter at `thread`. -/
structure Dispatch (s : ControlManager) (thread : OrderedThread) : Prop where
  /-- The records removed and the records queued are all records, in order. -/
  queue : removedOf s.trace ++ s.orderedEventQueue = List.range s.nextRecord
  /-- The final receivers are called in the order of removal. -/
  finals : removedOf s.trace = finalsOf s.trace ++ thread.finalsLeft
  threadOk : s.ThreadOk thread
  /-- The indices a record was notified with are the first ones, each once. -/
  notified : ∀ r, notifiedOf s.trace r
    = List.range ((s.records r).nextReceiver - if thread.unnotified = some r then 1 else 0)
  nextReceiver_le : ∀ r, (s.records r).nextReceiver ≤ (s.records r).receivers.length
  length_deliveryState : ∀ r,
    (s.records r).deliveryState.length = (s.records r).receivers.length
  fresh : ∀ r, s.nextRecord ≤ r → (s.records r).nextReceiver = 0
  inOrder : InOrder s.trace

namespace Dispatch

variable {s t : ControlManager} {th : OrderedThread}

theorem threadOk_congr (hq : t.orderedEventQueue = s.orderedEventQueue)
    (hrec : ∀ r, (t.records r).skeleton = (s.records r).skeleton) :
    t.ThreadOk th ↔ s.ThreadOk th := by
  have hfront : t.front = s.front := by rw [front, front, hq]
  have hn : ∀ r, (t.records r).nextReceiver = (s.records r).nextReceiver :=
    fun r => congrArg Prod.fst (hrec r)
  have hr : ∀ r, (t.records r).receivers = (s.records r).receivers :=
    fun r => congrArg (fun x => x.2.1) (hrec r)
  unfold ThreadOk
  simp only [hfront, hn, hr]

/-- **The frame rule**: where the skeletons, the queue and the trace stay,
the invariant stays. -/
theorem frame (h : s.Dispatch th)
    (hrec : ∀ r, (t.records r).skeleton = (s.records r).skeleton)
    (hnext : t.nextRecord = s.nextRecord)
    (hq : t.orderedEventQueue = s.orderedEventQueue) (htr : t.trace = s.trace) :
    t.Dispatch th := by
  have hn : ∀ r, (t.records r).nextReceiver = (s.records r).nextReceiver :=
    fun r => congrArg Prod.fst (hrec r)
  have hr : ∀ r, (t.records r).receivers = (s.records r).receivers :=
    fun r => congrArg (fun x => x.2.1) (hrec r)
  have hd : ∀ r, (t.records r).deliveryState.length = (s.records r).deliveryState.length :=
    fun r => congrArg (fun x => x.2.2.1) (hrec r)
  refine ⟨?_, ?_, (threadOk_congr hq hrec).mpr h.threadOk, ?_, ?_, ?_, ?_, ?_⟩
  · rw [htr, hq, hnext]
    exact h.queue
  · rw [htr]
    exact h.finals
  · intro r
    rw [htr, hn]
    exact h.notified r
  · intro r
    rw [hn, hr]
    exact h.nextReceiver_le r
  · intro r
    rw [hd, hr]
    exact h.length_deliveryState r
  · intro r hle
    rw [hn]
    exact h.fresh r (hnext ▸ hle)
  · rw [htr]
    exact h.inOrder

/-- A step of the program counter alone. -/
theorem move (h : s.Dispatch th) {th' : OrderedThread}
    (hfinals : th'.finalsLeft = th.finalsLeft) (hun : th'.unnotified = th.unnotified)
    (hok : s.ThreadOk th') : s.Dispatch th' := by
  refine ⟨h.queue, ?_, hok, ?_, h.nextReceiver_le, h.length_deliveryState, h.fresh,
    h.inOrder⟩
  · rw [hfinals]
    exact h.finals
  · rw [hun]
    exact h.notified

/-- Where the serial queue is at a record, all earlier records are done
with. -/
theorem removedOf_eq_range (h : s.Dispatch th) {sp : ℕ} (hfront : s.front = some sp) :
    removedOf s.trace = List.range sp := by
  obtain ⟨rest, hrest⟩ := List.head?_eq_some_iff.mp hfront
  have hq := h.queue
  rw [hrest] at hq
  have hlen : (removedOf s.trace).length = sp := by
    have hget := congrArg (fun l => l[(removedOf s.trace).length]?) hq
    simp only [List.getElem?_append_right (Nat.le_refl _), Nat.sub_self,
      List.getElem?_cons_zero] at hget
    have := (List.getElem?_eq_some_iff.mp hget.symm).2
    simpa using this
  have htake := congrArg (List.take sp) hq
  rw [List.take_append_of_le_length (Nat.le_of_eq hlen.symm), ← hlen, List.take_length,
    List.take_range] at htake
  rw [htake, hlen]
  congr 1
  have : sp ≤ s.nextRecord := by
    have := congrArg List.length hq
    simp at this
    omega
  exact Nat.min_eq_left this

/-- A queued record is an enqueued one. -/
theorem front_lt (h : s.Dispatch th) {sp : ℕ} (hfront : s.front = some sp) :
    sp < s.nextRecord := by
  refine List.mem_range.mp ?_
  rw [← h.queue]
  exact List.mem_append_right _ (List.mem_of_mem_head? hfront)

end Dispatch

end ControlManager

/-! ## The frame of each function -/

namespace ControlManager

variable {P : Platform} {S : StdSort} (s : ControlManager)

theorem modify_records (r : ℕ) (f : OrderedEventRecord → OrderedEventRecord)
    (r' : ℕ) :
    (s.modify r f).records r' = if r' = r then f (s.records r) else s.records r' := by
  show Function.update s.records r (f (s.records r)) r' = _
  rw [Function.update_apply]

/-- A change of one record that keeps its skeleton keeps all skeletons. -/
theorem skeleton_modify {f : OrderedEventRecord → OrderedEventRecord}
    (hf : ∀ record, (f record).skeleton = record.skeleton) (r r' : ℕ) :
    ((s.modify r f).records r').skeleton = (s.records r').skeleton := by
  rw [modify_records]
  split
  next h => rw [h, hf]
  next h => rfl

theorem skeleton_handleTimeoutReceiver (sp : ℕ) (now : ℕ) (r : ℕ) :
    ((s.handleTimeoutReceiver sp now).records r).skeleton = (s.records r).skeleton := by
  refine s.skeleton_modify (fun record => ?_) sp r
  unfold OrderedEventRecord.skeleton
  dsimp only
  split <;> simp

theorem skeleton_finishUpdate (call : FinishCall) (r : ℕ) :
    ((s.finishUpdate call).records r).skeleton = (s.records r).skeleton := by
  exact s.skeleton_modify (f := fun record =>
    { record with
      state := .IDLE
      curReceiver := none
      resultAbort := call.abortEvent.getD record.resultAbort }) (fun _ => rfl) call.record r

theorem scheduleOrderedCommonEvent_eq :
    ∃ scheduled queue, s.scheduleOrderedCommonEvent
      = { s with scheduled := scheduled, orderedQueue := queue } := by
  unfold scheduleOrderedCommonEvent
  split
  · exact ⟨s.scheduled, s.orderedQueue, rfl⟩
  · exact ⟨_, _, rfl⟩

theorem setTimeout_eq :
    ∃ pending handler next timers, s.setTimeout
      = { s with pendingTimeoutMessage := pending, orderedHandler := handler,
                 nextHandler := next, timers := timers } := by
  unfold setTimeout
  split
  · exact ⟨s.pendingTimeoutMessage, s.orderedHandler, s.nextHandler, s.timers, rfl⟩
  · exact ⟨_, _, _, _, rfl⟩

theorem cancelTimeout_eq :
    ∃ pending timers, s.cancelTimeout
      = { s with pendingTimeoutMessage := pending, timers := timers } := by
  unfold cancelTimeout
  split
  · exact ⟨_, _, rfl⟩
  · exact ⟨s.pendingTimeoutMessage, s.timers, rfl⟩

/-! ## What a step of the serial queue can do -/

/-- **A step of the serial queue**, by the place it is at: all that it can do
there, and when. -/
inductive ThreadStep (answer : Answer) : OrderedThread → ControlManager → Prop
  | queueSection (u : ControlManager) (removed : List ℕ) (sp : Option ℕ)
      (hrun : s.processOrderedEventQueueLocked = some (u, removed, sp)) :
      ThreadStep answer .queueSection { u with thread := .finals removed sp }
  | finalSubscriber (removed : ℕ) (rest : List ℕ) (sp : Option ℕ) :
      ThreadStep answer (.finals (removed :: rest) sp)
        { s.handleFinalSubscriber removed answer.hasProxy with thread := .finals rest sp }
  | finalsEnd : ThreadStep answer (.finals [] none) { s with thread := .idle }
  | finalsNext (sp : ℕ) :
      ThreadStep answer (.finals [] (some sp)) { s with thread := .prepareNext sp }
  | prepareNext (sp : ℕ) :
      ThreadStep answer (.prepareNext sp) { s.prepareNextReceiverRecord sp with
        thread := .setTimeout sp (s.records sp).nextReceiver }
  | setTimeout (sp i : ℕ) :
      ThreadStep answer (.setTimeout sp i) { s.setTimeout with thread := .notify sp i }
  | notifyInvalid (sp i : ℕ) (hindex : i ≥ (s.records sp).receivers.length) :
      ThreadStep answer (.notify sp i)
        { s with trace := s.trace ++ [.notified sp i], thread := .finalTest sp }
  | notifyFrozen (sp i : ℕ) (hindex : i < (s.records sp).receivers.length)
      (hfreeze : answer.isFreeze = true) :
      ThreadStep answer (.notify sp i)
        { s with trace := s.trace ++ [.notified sp i], thread := .frozen sp i }
  | notifyReceiver (sp i : ℕ) (hindex : i < (s.records sp).receivers.length)
      (hfreeze : answer.isFreeze = false) :
      ThreadStep answer (.notify sp i)
        { s with trace := s.trace ++ [.notified sp i], thread := .prepareNotify sp i }
  | frozen (sp i : ℕ) :
      ThreadStep answer (.frozen sp i)
        { s.notifyFrozenSubscriber sp i with thread := .finalTest sp }
  | prepareNotify (sp i : ℕ) (hproxy : answer.hasProxy = true) :
      ThreadStep answer (.prepareNotify sp i)
        { s.prepareOrderedNotify sp i true with thread := .call sp i }
  | invalidProxy (sp i : ℕ) (hproxy : answer.hasProxy = false) :
      ThreadStep answer (.prepareNotify sp i)
        { s.prepareOrderedNotify sp i false with thread := .finalTest sp }
  | call (sp i : ℕ) : ThreadStep answer (.call sp i) { s with thread := .inCall sp i }
  | inCall (sp i : ℕ) :
      ThreadStep answer (.inCall sp i) { s with thread := .handleResult sp i answer.isOk }
  | handleResult (sp i : ℕ) (isOk : Bool) :
      ThreadStep answer (.handleResult sp i isOk)
        { s.handleOrderedNotifyResult sp isOk with thread := .finalTest sp }
  | finalTestNone (sp : ℕ) (hcur : (s.records sp).curReceiver = none) :
      ThreadStep answer (.finalTest sp) { s with thread := .storeIdle sp }
  | finalTestSome (sp : ℕ) (hcur : (s.records sp).curReceiver ≠ none) :
      ThreadStep answer (.finalTest sp) { s with thread := .idle }
  | storeIdle (sp : ℕ) :
      ThreadStep answer (.storeIdle sp)
        { s.modify sp (fun record => { record with state := .IDLE }) with thread := .reschedule }
  | reschedule :
      ThreadStep answer .reschedule { s.scheduleOrderedCommonEvent with thread := .idle }
  | timeoutEmpty (hfront : s.front = none) :
      ThreadStep answer .timeoutFront
        { s with pendingTimeoutMessage := false, thread := .idle }
  | timeoutFront (sp : ℕ) (hfront : s.front = some sp) :
      ThreadStep answer .timeoutFront
        { s with pendingTimeoutMessage := false, thread := .timeoutCheck sp }
  | timeoutEarly (sp : ℕ) (hearly : (s.records sp).receiverTime + TIMEOUT > s.now) :
      ThreadStep answer (.timeoutCheck sp) { s.setTimeout with thread := .idle }
  | timeoutDue (sp : ℕ) (hdue : (s.records sp).receiverTime + TIMEOUT ≤ s.now) :
      ThreadStep answer (.timeoutCheck sp) { s with thread := .timeoutHandle sp s.now }
  | timeoutHandle (sp nowSysTime : ℕ) :
      ThreadStep answer (.timeoutHandle sp nowSysTime)
        { s.handleTimeoutReceiver sp nowSysTime with thread := .reschedule }

variable {s}

theorem threadStep_of_stepThread {answer : Answer} {t : ControlManager}
    (hstep : s.stepThread answer = some t) : s.ThreadStep answer s.thread t := by
  -- one case for each place the serial queue can be at
  unfold ControlManager.stepThread at hstep
  cases hth : s.thread with
  | idle =>
    rw [hth] at hstep
    cases hstep
  | queueSection =>
    rw [hth] at hstep
    obtain ⟨⟨u, removed, sp⟩, hrun, rfl⟩ := Option.map_eq_some_iff.mp hstep
    exact .queueSection u removed sp hrun
  | finals removed sp =>
    rw [hth] at hstep
    cases removed with
    | nil =>
      cases sp with
      | none =>
        cases hstep
        exact .finalsEnd
      | some sp =>
        cases hstep
        exact .finalsNext sp
    | cons removed rest =>
      cases hstep
      exact .finalSubscriber removed rest sp
  | prepareNext sp =>
    rw [hth] at hstep
    cases hstep
    exact .prepareNext sp
  | setTimeout sp i =>
    rw [hth] at hstep
    cases hstep
    exact .setTimeout sp i
  | notify sp i =>
    rw [hth] at hstep
    cases hstep
    by_cases hindex : i ≥ (s.records sp).receivers.length
    · rw [if_pos hindex]
      exact .notifyInvalid sp i hindex
    · rw [if_neg hindex]
      cases hfreeze : answer.isFreeze with
      | true => exact .notifyFrozen sp i (Nat.lt_of_not_ge hindex) hfreeze
      | false => exact .notifyReceiver sp i (Nat.lt_of_not_ge hindex) hfreeze
  | frozen sp i =>
    rw [hth] at hstep
    cases hstep
    exact .frozen sp i
  | prepareNotify sp i =>
    rw [hth] at hstep
    cases hstep
    cases hproxy : answer.hasProxy with
    | true => exact .prepareNotify sp i hproxy
    | false => exact .invalidProxy sp i hproxy
  | call sp i =>
    rw [hth] at hstep
    cases hstep
    exact .call sp i
  | inCall sp i =>
    rw [hth] at hstep
    cases hstep
    exact .inCall sp i
  | handleResult sp i isOk =>
    rw [hth] at hstep
    cases hstep
    exact .handleResult sp i isOk
  | finalTest sp =>
    rw [hth] at hstep
    cases hstep
    by_cases hcur : (s.records sp).curReceiver = none
    · rw [if_pos hcur]
      exact .finalTestNone sp hcur
    · rw [if_neg hcur]
      exact .finalTestSome sp hcur
  | storeIdle sp =>
    rw [hth] at hstep
    cases hstep
    exact .storeIdle sp
  | reschedule =>
    rw [hth] at hstep
    cases hstep
    exact .reschedule
  | timeoutFront =>
    rw [hth] at hstep
    cases hstep
    cases hfront : s.front with
    | none => exact .timeoutEmpty hfront
    | some sp => exact .timeoutFront sp hfront
  | timeoutCheck sp =>
    rw [hth] at hstep
    dsimp only at hstep
    split at hstep
    next hearly =>
      cases hstep
      exact .timeoutEarly sp hearly
    next hdue =>
      cases hstep
      exact .timeoutDue sp (Nat.le_of_not_gt hdue)
  | timeoutHandle sp nowSysTime =>
    rw [hth] at hstep
    cases hstep
    exact .timeoutHandle sp nowSysTime

/-! ## The steps -/

theorem Dispatch.setTimeout {th : OrderedThread} (h : s.Dispatch th) :
    s.setTimeout.Dispatch th := by
  obtain ⟨pending, handler, next, timers, heq⟩ := s.setTimeout_eq
  rw [heq]
  exact h.frame (fun _ => rfl) rfl rfl rfl

theorem Dispatch.scheduleOrderedCommonEvent {th : OrderedThread} (h : s.Dispatch th) :
    s.scheduleOrderedCommonEvent.Dispatch th := by
  obtain ⟨scheduled, queue, heq⟩ := s.scheduleOrderedCommonEvent_eq
  rw [heq]
  exact h.frame (fun _ => rfl) rfl rfl rfl

theorem Dispatch.modify {th : OrderedThread} (h : s.Dispatch th)
    {f : OrderedEventRecord → OrderedEventRecord}
    (hf : ∀ record, (f record).skeleton = record.skeleton) (r : ℕ) :
    (s.modify r f).Dispatch th :=
  h.frame (s.skeleton_modify hf r) rfl rfl rfl

theorem Dispatch.handleTimeoutReceiver {th : OrderedThread} (h : s.Dispatch th)
    (sp : ℕ) (now : ℕ) : (s.handleTimeoutReceiver sp now).Dispatch th :=
  h.frame (s.skeleton_handleTimeoutReceiver sp now) rfl rfl rfl

/-- **A publish** adds a record behind the queue, with no receiver handed
over. -/
theorem Dispatch.processOrderedEvent {th : OrderedThread} (h : s.Dispatch th)
    (request : PublishRequest) : (s.processOrderedEvent P S request).Dispatch th := by
  set t := s.processOrderedEvent P S request with ht
  have hother : ∀ r, r ≠ s.nextRecord → t.records r = s.records r := fun r hr =>
    Function.update_of_ne hr _ _
  have hself : t.records s.nextRecord
      = { commonEventData := s.nextCell
          publishInfo := s.nextCell
          recordTime := request.event.recordTime
          userId := request.event.userId
          eventRecordInfo := request.event.eventRecordInfo
          resultTo := request.resultTo
          receivers := sortedReceivers P S request
          deliveryState := (sortedReceivers P S request).map (fun _ => .PENDING) } :=
    Function.update_self _ _ _
  have hqueue : t.orderedEventQueue = s.orderedEventQueue ++ [s.nextRecord] := rfl
  have hfront : ∀ sp, s.front = some sp → t.front = some sp ∧ sp ≠ s.nextRecord := by
    intro sp hsp
    obtain ⟨rest, hrest⟩ := List.head?_eq_some_iff.mp hsp
    exact ⟨by rw [front, hqueue, hrest]; rfl, Nat.ne_of_lt (h.front_lt hsp)⟩
  have hnext0 := h.fresh s.nextRecord (Nat.le_refl _)
  refine ⟨?_, h.finals, ?_, ?_, ?_, ?_, ?_, h.inOrder⟩
  · rw [hqueue, ← List.append_assoc]
    show removedOf s.trace ++ s.orderedEventQueue ++ [s.nextRecord]
      = List.range (s.nextRecord + 1)
    rw [h.queue, List.range_succ]
  · -- the program counter speaks of a record that was enqueued before
    have hok := h.threadOk
    unfold ThreadOk at hok ⊢
    split at hok
    all_goals first
      | exact trivial
      | exact (hfront _ hok).1
      | (obtain ⟨hsp, hnum⟩ := hok
         obtain ⟨hfr, hne⟩ := hfront _ hsp
         rw [hother _ hne]
         exact ⟨hfr, hnum⟩)
  · intro r
    by_cases hr : r = s.nextRecord
    · subst hr
      have hnot := h.notified s.nextRecord
      rw [hnext0, Nat.zero_sub] at hnot
      rw [hself, Nat.zero_sub]
      exact hnot
    · rw [hother r hr]
      exact h.notified r
  · intro r
    by_cases hr : r = s.nextRecord
    · subst hr
      rw [hself]
      exact Nat.zero_le _
    · rw [hother r hr]
      exact h.nextReceiver_le r
  · intro r
    by_cases hr : r = s.nextRecord
    · subst hr
      rw [hself]
      simp
    · rw [hother r hr]
      exact h.length_deliveryState r
  · intro r hle
    have hle' : s.nextRecord + 1 ≤ r := hle
    rw [hother r (by omega)]
    exact h.fresh r (by omega)

/-- A step of a service call changes no skeleton. -/
theorem Dispatch.stepOp {th : OrderedThread} (h : s.Dispatch th) (i : ℕ) (op : ServiceOp) :
    (s.stepOp i op).Dispatch th := by
  have hops : ∀ ops, { s with ops := ops }.Dispatch th := fun ops =>
    h.frame (fun _ => rfl) rfl rfl rfl
  cases op with
  | schedule => exact (hops _).scheduleOrderedCommonEvent
  | readResult sp receiver => exact hops _
  | finishLoad call => exact hops _
  | finishUpdate call state =>
    have hupd : ({ s with ops := s.ops.eraseIdx i }.finishUpdate call).Dispatch th :=
      (hops _).frame (fun r => skeleton_finishUpdate _ call r) rfl rfl rfl
    unfold ControlManager.stepOp
    dsimp only
    split
    · exact hupd.frame (fun _ => rfl) rfl rfl rfl
    · exact hupd

theorem stepOp_thread (i : ℕ) (op : ServiceOp) : (s.stepOp i op).thread = s.thread := by
  cases op with
  | schedule =>
    obtain ⟨scheduled, queue, heq⟩ :=
      { s with ops := s.ops.eraseIdx i }.scheduleOrderedCommonEvent_eq
    unfold ControlManager.stepOp
    rw [heq]
  | readResult sp receiver => rfl
  | finishLoad call => rfl
  | finishUpdate call state =>
    unfold ControlManager.stepOp
    dsimp only
    split <;> rfl

/-! ### The section under the queue's lock -/

theorem checkTimeoutForceReceive_cases (sp : ℕ) :
    (s.isOverdue sp = true ∧
      s.checkTimeoutForceReceive sp = (s.handleTimeoutReceiver sp s.now, true)) ∨
    (s.isOverdue sp = false ∧ s.checkTimeoutForceReceive sp = (s, false)) := by
  unfold checkTimeoutForceReceive
  cases s.isOverdue sp with
  | true => exact Or.inl ⟨rfl, rfl⟩
  | false => exact Or.inr ⟨rfl, rfl⟩

theorem Dispatch.checkTimeoutForceReceive {th : OrderedThread} (h : s.Dispatch th)
    (sp : ℕ) : (s.checkTimeoutForceReceive sp).1.Dispatch th := by
  rcases s.checkTimeoutForceReceive_cases sp with ⟨-, heq⟩ | ⟨-, heq⟩
  · rw [heq]
    exact h.handleTimeoutReceiver sp s.now
  · rw [heq]
    exact h

/-- **One pass of the loop.** It leaves because the queue is empty, because
the front record is not idle, or with the front record, which has a receiver
left and has not been aborted; or it removes the front record. -/
theorem processOrderedEventQueuePass_cases (removed : List ℕ) :
    (s.orderedEventQueue = [] ∧
      processOrderedEventQueuePass (s, removed) = .inr (s, removed, none)) ∨
    ∃ sp rest u forced, s.orderedEventQueue = sp :: rest ∧
      s.checkTimeoutForceReceive sp = (u, forced) ∧
      (((u.records sp).state ≠ .IDLE ∧
        processOrderedEventQueuePass (s, removed) = .inr (u, removed, none)) ∨
      ((u.records sp).state = .IDLE ∧
        ((u.records sp).receivers = []
          ∨ (u.records sp).nextReceiver ≥ (u.records sp).receivers.length
          ∨ (u.records sp).resultAbort = true ∨ forced = true) ∧
        processOrderedEventQueuePass (s, removed)
          = .inl ({ u.cancelTimeout with
              orderedEventQueue := rest
              trace := u.trace ++ [.removed sp] }, removed ++ [sp])) ∨
      ((u.records sp).state = .IDLE ∧
        (u.records sp).nextReceiver < (u.records sp).receivers.length ∧
        (u.records sp).resultAbort = false ∧ forced = false ∧
        processOrderedEventQueuePass (s, removed) = .inr (u, removed, some sp))) := by
  unfold processOrderedEventQueuePass
  dsimp only
  cases hq : s.orderedEventQueue with
  | nil => exact Or.inl ⟨rfl, rfl⟩
  | cons sp rest =>
    dsimp only
    refine Or.inr ⟨sp, rest, (s.checkTimeoutForceReceive sp).1,
      (s.checkTimeoutForceReceive sp).2, rfl, rfl, ?_⟩
    generalize s.checkTimeoutForceReceive sp = checked
    obtain ⟨u, forced⟩ := checked
    dsimp only
    by_cases hidle : (u.records sp).state = .IDLE
    · rw [if_neg (not_not.mpr hidle)]
      by_cases hremove : (u.records sp).receivers = []
          ∨ (u.records sp).nextReceiver ≥ (u.records sp).receivers.length
          ∨ (u.records sp).resultAbort = true ∨ forced = true
      · rw [if_pos hremove]
        exact Or.inr (Or.inl ⟨hidle, hremove, rfl⟩)
      · rw [if_neg hremove]
        simp only [not_or] at hremove
        obtain ⟨-, hlt, habort, hforced⟩ := hremove
        exact Or.inr (Or.inr ⟨hidle, Nat.lt_of_not_ge hlt, by simpa using habort,
          by simpa using hforced, rfl⟩)
    · rw [if_pos hidle]
      exact Or.inl ⟨hidle, rfl⟩

theorem checkTimeoutForceReceive_frame {sp : ℕ} {u : ControlManager} {forced : Bool}
    (h : s.checkTimeoutForceReceive sp = (u, forced)) :
    u.orderedEventQueue = s.orderedEventQueue ∧ u.trace = s.trace ∧ u.now = s.now
      ∧ u.nextRecord = s.nextRecord ∧ u.thread = s.thread ∧ u.ops = s.ops
      ∧ u.orderedQueue = s.orderedQueue ∧ u.scheduled = s.scheduled
      ∧ u.cells = s.cells ∧ u.nextCell = s.nextCell := by
  rcases s.checkTimeoutForceReceive_cases sp with ⟨-, heq⟩ | ⟨-, heq⟩
  all_goals
    rw [heq] at h
    cases h
    exact ⟨rfl, rfl, rfl, rfl, rfl, rfl, rfl, rfl, rfl, rfl⟩

/-- A pass that goes on has one record less in front of it. -/
theorem length_processOrderedEventQueuePass {loop loop' : ControlManager × List ℕ}
    (h : processOrderedEventQueuePass loop = .inl loop') :
    loop'.1.orderedEventQueue.length < loop.1.orderedEventQueue.length := by
  obtain ⟨s, removed⟩ := loop
  rcases processOrderedEventQueuePass_cases (s := s) removed with ⟨-, heq⟩ |
    ⟨sp, rest, u, forced, hq, -, ⟨-, heq⟩ | ⟨-, -, heq⟩ | ⟨-, -, -, -, heq⟩⟩
  · rw [heq] at h
    cases h
  · rw [heq] at h
    cases h
  · rw [heq] at h
    cases h
    rw [hq]
    exact Nat.lt_succ_self _
  · rw [heq] at h
    cases h

/-- **The loop terminates**, whatever the queue holds. -/
theorem processOrderedEventQueueLocked_terminates (s : ControlManager) :
    ∃ result, s.processOrderedEventQueueLocked = some result :=
  DoWhile.doWhile_terminates (fun loop => loop.1.orderedEventQueue.length)
    (fun _ _ h => length_processOrderedEventQueuePass h) (Nat.lt_succ_self _)

/-- A pass that removes a record keeps the invariant, with the final
receiver of one record more to be called. -/
theorem Dispatch.removeFront {removed : List ℕ}
    (h : s.Dispatch (.finals removed none)) {sp : ℕ} {rest : List ℕ}
    (hq : s.orderedEventQueue = sp :: rest) :
    Dispatch
      { s with
        orderedEventQueue := rest
        trace := s.trace ++ [.removed sp] } (.finals (removed ++ [sp]) none) := by
  refine ⟨?_, ?_, trivial, ?_, h.nextReceiver_le, h.length_deliveryState, h.fresh, ?_⟩
  · have := h.queue
    rw [hq] at this
    rw [removedOf_removed, List.append_assoc]
    exact this
  · rw [removedOf_removed, finalsOf_removed, h.finals]
    simp [OrderedThread.finalsLeft]
  · intro r
    rw [notifiedOf_removed]
    exact h.notified r
  · exact h.inOrder.concat (fun r i he => absurd he (by simp))

/-- **The section under the queue's lock** keeps the invariant. -/
theorem Dispatch.processOrderedEventQueueLocked (h : s.Dispatch .queueSection)
    {u : ControlManager} {removed : List ℕ} {sp : Option ℕ}
    (hrun : s.processOrderedEventQueueLocked = some (u, removed, sp)) :
    u.Dispatch (.finals removed sp) := by
  refine DoWhile.doWhile_rule (f := processOrderedEventQueuePass)
    (fun loop => loop.1.Dispatch (.finals loop.2 none))
    (fun result => result.1.Dispatch (.finals result.2.1 result.2.2)) ?_ ?_
    (s := (s, [])) (h.move rfl rfl trivial) hrun
  · -- a pass after which the loop goes on has removed the front record
    rintro ⟨s, removed⟩ loop' hd heq'
    rcases processOrderedEventQueuePass_cases (s := s) removed with ⟨-, heq⟩ |
      ⟨sp, rest, u, forced, hq, hcheck, ⟨-, heq⟩ | ⟨-, -, heq⟩ | ⟨-, -, -, -, heq⟩⟩
    · rw [heq] at heq'
      cases heq'
    · rw [heq] at heq'
      cases heq'
    · rw [heq] at heq'
      cases heq'
      have hu : u.Dispatch (.finals removed none) := by
        have := hd.checkTimeoutForceReceive sp
        rw [hcheck] at this
        exact this
      have huq : u.orderedEventQueue = sp :: rest :=
        (checkTimeoutForceReceive_frame hcheck).1.trans hq
      obtain ⟨pending, timers, hcancel⟩ := u.cancelTimeout_eq
      rw [hcancel]
      exact (hu.removeFront huq).frame (fun _ => rfl) rfl rfl rfl
    · rw [heq] at heq'
      cases heq'
  · -- a pass that ends the loop leaves the front record where it is
    rintro ⟨s, removed⟩ result hd heq'
    rcases processOrderedEventQueuePass_cases (s := s) removed with ⟨-, heq⟩ |
      ⟨sp, rest, u, forced, hq, hcheck, ⟨-, heq⟩ | ⟨-, -, heq⟩ | ⟨-, hlt, -, -, heq⟩⟩
    · rw [heq] at heq'
      cases heq'
      exact hd
    · rw [heq] at heq'
      cases heq'
      have := hd.checkTimeoutForceReceive sp
      rw [hcheck] at this
      exact this
    · rw [heq] at heq'
      cases heq'
    · rw [heq] at heq'
      cases heq'
      have hu := hd.checkTimeoutForceReceive sp
      rw [hcheck] at hu
      refine hu.move rfl rfl ⟨?_, hlt⟩
      rw [front, (checkTimeoutForceReceive_frame hcheck).1, hq]
      rfl

/-! ### The serial queue -/

/-- `PrepareNextReceiverRecord` hands over one index more. -/
theorem Dispatch.prepareNextReceiverRecord {sp : ℕ}
    (h : s.Dispatch (.prepareNext sp)) :
    (s.prepareNextReceiverRecord sp).Dispatch
      (.setTimeout sp (s.records sp).nextReceiver) := by
  obtain ⟨hfront, hlt⟩ := h.threadOk
  have hrec : ∀ r, ((s.prepareNextReceiverRecord sp).records r).nextReceiver
      = (s.records r).nextReceiver + if r = sp then 1 else 0 := by
    intro r
    unfold ControlManager.prepareNextReceiverRecord
    rw [modify_records]
    by_cases hr : r = sp
    · subst hr
      simp
    · simp [hr]
  have hsame : ∀ r, ((s.prepareNextReceiverRecord sp).records r).receivers
      = (s.records r).receivers
      ∧ ((s.prepareNextReceiverRecord sp).records r).deliveryState
      = (s.records r).deliveryState := by
    intro r
    unfold ControlManager.prepareNextReceiverRecord
    rw [modify_records]
    by_cases hr : r = sp
    · subst hr
      simp
    · simp [hr]
  refine ⟨h.queue, h.finals, ⟨hfront, ?_⟩, ?_, ?_, ?_, ?_, h.inOrder⟩
  · rw [hrec, if_pos rfl]
  · intro r
    show notifiedOf s.trace r = _
    rw [hrec]
    have hnot := h.notified r
    by_cases hr : r = sp
    · subst hr
      simpa [OrderedThread.unnotified] using hnot
    · have hr' : ¬ sp = r := fun hc => hr hc.symm
      simpa [OrderedThread.unnotified, hr, hr'] using hnot
  · intro r
    rw [hrec, (hsame r).1]
    by_cases hr : r = sp
    · subst hr
      rw [if_pos rfl]
      exact Nat.succ_le_of_lt hlt
    · simpa [hr] using h.nextReceiver_le r
  · intro r
    rw [(hsame r).1, (hsame r).2]
    exact h.length_deliveryState r
  · intro r hle
    rw [hrec]
    -- the front record has been enqueued, and is not a fresh one
    have hne : r ≠ sp := by
      rintro rfl
      exact absurd (h.front_lt hfront) (Nat.not_lt.mpr hle)
    rw [if_neg hne]
    exact h.fresh r hle

/-- `NotifyOrderedEvent` is passed the index handed over. -/
theorem Dispatch.notify {sp : ℕ} {i : ℕ} (h : s.Dispatch (.notify sp i))
    {th : OrderedThread} (hfinals : th.finalsLeft = []) (hun : th.unnotified = none)
    (hok : s.ThreadOk th) :
    Dispatch { s with trace := s.trace ++ [.notified sp i] } th := by
  obtain ⟨hfront, hnext⟩ := h.threadOk
  have hfin : removedOf s.trace = finalsOf s.trace := by
    rw [h.finals]
    simp [OrderedThread.finalsLeft]
  refine ⟨?_, ?_, (threadOk_congr rfl (fun _ => rfl)).mpr hok, ?_, h.nextReceiver_le,
    h.length_deliveryState, h.fresh, ?_⟩
  · rw [removedOf_notified]
    exact h.queue
  · rw [removedOf_notified, finalsOf_notified, hfinals, List.append_nil]
    exact hfin
  · intro r
    rw [notifiedOf_notified, hun]
    have hnot := h.notified r
    by_cases hr : sp = r
    · subst hr
      have hr' : (OrderedThread.notify sp i).unnotified = some sp := rfl
      rw [if_pos hr', hnext, Nat.add_sub_cancel] at hnot
      rw [if_pos rfl, hnot, ← List.range_succ]
      show _ = List.range ((s.records sp).nextReceiver - _)
      rw [hnext]
      simp
    · have hr' : ¬ (OrderedThread.notify sp i).unnotified = some r := by
        simpa [OrderedThread.unnotified] using hr
      rw [if_neg hr'] at hnot
      rw [if_neg hr]
      simpa using hnot
  · -- what was enqueued before the front record has been removed
    refine h.inOrder.concat (fun r j he r' hr' => ?_)
    cases he
    have hmem : r' ∈ removedOf s.trace := by
      rw [h.removedOf_eq_range hfront]
      exact List.mem_range.mpr hr'
    exact ⟨hmem, hfin ▸ hmem⟩

/-- `HandleFinalSubscriber` is called for the first record removed that is
left. -/
theorem Dispatch.handleFinalSubscriber {removed : ℕ} {rest : List ℕ}
    {sp : Option ℕ} (h : s.Dispatch (.finals (removed :: rest) sp))
    (hasProxy : Bool) :
    (s.handleFinalSubscriber removed hasProxy).Dispatch (.finals rest sp) := by
  have hfinal : Dispatch
      { s with trace :=
          s.trace ++ [.final removed (s.cells (s.records removed).commonEventData)] }
      (.finals rest sp) := by
    refine ⟨?_, ?_, by cases sp <;> exact h.threadOk, ?_, h.nextReceiver_le,
      h.length_deliveryState, h.fresh, ?_⟩
    · rw [removedOf_final]
      exact h.queue
    · rw [removedOf_final, finalsOf_final, h.finals]
      simp [OrderedThread.finalsLeft]
    · intro r
      rw [notifiedOf_final]
      exact h.notified r
    · exact h.inOrder.concat (fun r i he => absurd he (by simp))
  unfold ControlManager.handleFinalSubscriber
  dsimp only
  split
  · exact hfinal
  · exact hfinal.modify (f := fun record => { record with resultTo := none })
      (fun _ => rfl) removed

/-- The program counter field itself does not concern the invariant. -/
theorem Dispatch.at_thread {th : OrderedThread} (h : s.Dispatch th) :
    Dispatch { s with thread := th } th := h.frame (fun _ => rfl) rfl rfl rfl

/-- A step of the program counter, field and all. -/
theorem Dispatch.goto {th : OrderedThread} (h : s.Dispatch th) (th' : OrderedThread)
    (hfinals : th'.finalsLeft = th.finalsLeft) (hun : th'.unnotified = th.unnotified)
    (hok : s.ThreadOk th') : Dispatch { s with thread := th' } th' :=
  (h.move hfinals hun hok).at_thread

/-- **A step of the serial queue keeps the invariant of dispatch.** -/
theorem Dispatch.stepThread {t : ControlManager} (h : s.Dispatch s.thread) {answer : Answer}
    (hstep : s.stepThread answer = some t) : t.Dispatch t.thread := by
  have hcase := threadStep_of_stepThread hstep
  generalize s.thread = th at hcase h
  cases hcase with
  | queueSection u removed sp hrun => exact (h.processOrderedEventQueueLocked hrun).at_thread
  | finalSubscriber removed rest sp => exact (h.handleFinalSubscriber answer.hasProxy).at_thread
  | finalsEnd => exact h.goto _ rfl rfl trivial
  | finalsNext sp => exact h.goto _ rfl rfl h.threadOk
  | prepareNext sp => exact h.prepareNextReceiverRecord.at_thread
  | setTimeout sp i => exact h.setTimeout.goto _ rfl rfl h.setTimeout.threadOk
  | notifyInvalid sp i hindex =>
    have hok : s.ThreadOk (.finalTest sp) := h.threadOk.1
    exact (h.notify rfl rfl hok).at_thread
  | notifyFrozen sp i hindex hfreeze =>
    have hok : s.ThreadOk (.frozen sp i) := h.threadOk
    exact (h.notify rfl rfl hok).at_thread
  | notifyReceiver sp i hindex hfreeze =>
    have hok : s.ThreadOk (.prepareNotify sp i) := h.threadOk
    exact (h.notify rfl rfl hok).at_thread
  | frozen sp i =>
    have hmod : (s.notifyFrozenSubscriber sp i).Dispatch (.frozen sp i) :=
      h.modify (fun record => by simp [OrderedEventRecord.skeleton]) sp
    exact hmod.goto _ rfl rfl hmod.threadOk.1
  | prepareNotify sp i hproxy =>
    have hmod : (s.prepareOrderedNotify sp i true).Dispatch (.prepareNotify sp i) :=
      h.modify (fun record => by simp [OrderedEventRecord.skeleton]) sp
    exact hmod.goto _ rfl rfl hmod.threadOk
  | invalidProxy sp i hproxy =>
    have hmod : (s.prepareOrderedNotify sp i false).Dispatch (.prepareNotify sp i) :=
      h.modify (fun record => by simp [OrderedEventRecord.skeleton]) sp
    exact hmod.goto _ rfl rfl hmod.threadOk.1
  | call sp i => exact h.goto _ rfl rfl h.threadOk
  | inCall sp i => exact h.goto _ rfl rfl h.threadOk
  | handleResult sp i isOk =>
    have hmod : (s.handleOrderedNotifyResult sp isOk).Dispatch (.handleResult sp i isOk) := by
      refine h.modify (fun record => ?_) sp
      split <;> rfl
    exact hmod.goto _ rfl rfl hmod.threadOk.1
  | finalTestNone sp hcur => exact h.goto _ rfl rfl h.threadOk
  | finalTestSome sp hcur => exact h.goto _ rfl rfl trivial
  | storeIdle sp =>
    have hmod : (s.modify sp (fun record => { record with state := .IDLE })).Dispatch
        (.storeIdle sp) :=
      h.modify (f := fun record => { record with state := .IDLE }) (fun _ => rfl) sp
    exact hmod.goto _ rfl rfl trivial
  | reschedule => exact h.scheduleOrderedCommonEvent.goto _ rfl rfl trivial
  | timeoutEmpty hfront =>
    have hpend : { s with pendingTimeoutMessage := false }.Dispatch .timeoutFront :=
      h.frame (fun _ => rfl) rfl rfl rfl
    exact hpend.goto _ rfl rfl trivial
  | timeoutFront sp hfront =>
    have hpend : { s with pendingTimeoutMessage := false }.Dispatch .timeoutFront :=
      h.frame (fun _ => rfl) rfl rfl rfl
    exact hpend.goto _ rfl rfl trivial
  | timeoutEarly sp hearly => exact h.setTimeout.goto _ rfl rfl trivial
  | timeoutDue sp hdue => exact h.goto _ rfl rfl trivial
  | timeoutHandle sp nowSysTime =>
    exact (h.handleTimeoutReceiver sp nowSysTime).goto _ rfl rfl trivial

/-- **Every step keeps the invariant of dispatch.** -/
theorem dispatch_step {t : ControlManager} {l : ControlLabel} (h : s.Dispatch s.thread)
    (hstep : s.step P S l = some t) : t.Dispatch t.thread := by
  cases l with
  | tick duration =>
    cases hstep
    exact h.frame (fun _ => rfl) rfl rfl rfl
  | makeCells data info =>
    cases hstep
    exact h.frame (fun _ => rfl) rfl rfl rfl
  | setUnordered cell =>
    cases hstep
    exact h.frame (fun _ => rfl) rfl rfl rfl
  | publish request =>
    cases hstep
    exact h.processOrderedEvent request
  | finishReceiver reply =>
    cases hstep
    unfold ControlManager.finishReceiver
    split
    · exact h.frame (fun _ => rfl) rfl rfl rfl
    · exact h
  | unsubscribeCommonEvent listener =>
    cases hstep
    unfold ControlManager.unsubscribeCommonEvent
    split
    · exact h
    · split
      · exact h.frame (fun _ => rfl) rfl rfl rfl
      · exact h
  | op i =>
    obtain ⟨op, -, rfl⟩ := Option.map_eq_some_iff.mp hstep
    rw [stepOp_thread]
    exact h.stepOp i op
  | processNextOrderedEvent =>
    unfold ControlManager.step at hstep
    dsimp only at hstep
    split at hstep
    next isSendMsg rest hth hq =>
      cases hstep
      rw [hth] at h
      refine Dispatch.frame (s := s) ?_ (fun _ => rfl) rfl rfl rfl
      exact h.move rfl rfl trivial
    next => cases hstep
  | timeout handler =>
    unfold ControlManager.step at hstep
    dsimp only at hstep
    split at hstep
    next hc =>
      cases hstep
      rw [hc.1] at h
      refine Dispatch.frame (s := s) ?_ (fun _ => rfl) rfl rfl rfl
      exact h.move rfl rfl trivial
    next => cases hstep
  | thread answer => exact h.stepThread hstep

theorem dispatch_init : ({} : ControlManager).Dispatch .idle :=
  ⟨rfl, rfl, trivial, fun _ => rfl, fun _ => Nat.le_refl _, fun _ => rfl, fun _ _ => rfl,
    inOrder_nil⟩

/-- **The invariant of dispatch holds in every reachable state.** -/
theorem dispatch_reachable (hs : (orderedMachine P S).Reachable s) :
    s.Dispatch s.thread :=
  Machine.invariant (M := orderedMachine P S)
    (I := fun s => s.Dispatch s.thread) dispatch_init
    (fun _ _ _ h hstep => dispatch_step h hstep) hs

/-! ## What a record is for good

The event of a record and its receivers are written once, by the publish. -/

/-- What no step changes in a record that is enqueued. -/
def identity (s : ControlManager) (r : ℕ) : CommonEventRecord CellId CellId × List Receiver :=
  ((s.records r).toCommonEventRecord, (s.records r).receivers)

/-- A write to one record that keeps its event and its receivers. -/
theorem identity_update {t : ControlManager} {r : ℕ} {record : OrderedEventRecord}
    (ht : t.records = Function.update s.records r record)
    (hevent : record.toCommonEventRecord = (s.records r).toCommonEventRecord)
    (hreceivers : record.receivers = (s.records r).receivers) (r' : ℕ) :
    t.identity r' = s.identity r' := by
  unfold identity
  rw [ht, Function.update_apply]
  split
  next h => rw [h, hevent, hreceivers]
  next h => rfl

/-- The loop under the queue's lock changes no record for good, and enqueues
none. -/
theorem identity_processOrderedEventQueueLocked {u : ControlManager} {removed : List ℕ}
    {sp : Option ℕ} (hrun : s.processOrderedEventQueueLocked = some (u, removed, sp)) :
    (∀ r, u.identity r = s.identity r) ∧ u.nextRecord = s.nextRecord
      ∧ u.cells = s.cells ∧ u.nextCell = s.nextCell := by
  have hcheck : ∀ {s : ControlManager} {sp : ℕ} {u : ControlManager} {forced : Bool},
      s.checkTimeoutForceReceive sp = (u, forced) → ∀ r, u.identity r = s.identity r := by
    intro s sp u forced h r
    rcases s.checkTimeoutForceReceive_cases sp with ⟨-, heq⟩ | ⟨-, heq⟩
    · rw [heq] at h
      cases h
      have hid : ∀ r, (s.handleTimeoutReceiver sp s.now).identity r = s.identity r :=
        identity_update rfl rfl rfl
      exact hid r
    · rw [heq] at h
      cases h
      rfl
  refine DoWhile.doWhile_rule (f := processOrderedEventQueuePass) (s := (s, []))
    (fun loop => (∀ r, loop.1.identity r = s.identity r) ∧ loop.1.nextRecord = s.nextRecord
      ∧ loop.1.cells = s.cells ∧ loop.1.nextCell = s.nextCell)
    (fun result => (∀ r, result.1.identity r = s.identity r)
      ∧ result.1.nextRecord = s.nextRecord ∧ result.1.cells = s.cells
      ∧ result.1.nextCell = s.nextCell) ?_ ?_
    ⟨fun _ => rfl, rfl, rfl, rfl⟩ hrun
  · rintro ⟨s', removed⟩ loop' ⟨hid, hnext, hcells, hcell⟩ heq'
    rcases processOrderedEventQueuePass_cases (s := s') removed with ⟨-, heq⟩ |
      ⟨sp, rest, u, forced, -, hc, ⟨-, heq⟩ | ⟨-, -, heq⟩ | ⟨-, -, -, -, heq⟩⟩
    all_goals
      rw [heq] at heq'
      cases heq'
    obtain ⟨-, -, -, hn, -, -, -, -, hcl, hnc⟩ := checkTimeoutForceReceive_frame hc
    obtain ⟨pending, timers, hcancel⟩ := u.cancelTimeout_eq
    rw [hcancel]
    exact ⟨fun r => (hcheck hc r).trans (hid r), hn.trans hnext, hcl.trans hcells,
      hnc.trans hcell⟩
  · rintro ⟨s', removed⟩ result ⟨hid, hnext, hcells, hcell⟩ heq'
    rcases processOrderedEventQueuePass_cases (s := s') removed with ⟨-, heq⟩ |
      ⟨sp, rest, u, forced, -, hc, ⟨-, heq⟩ | ⟨-, -, heq⟩ | ⟨-, -, -, -, heq⟩⟩
    all_goals
      rw [heq] at heq'
      cases heq'
    · exact ⟨hid, hnext, hcells, hcell⟩
    all_goals
      obtain ⟨-, -, -, hn, -, -, -, -, hcl, hnc⟩ := checkTimeoutForceReceive_frame hc
      exact ⟨fun r => (hcheck hc r).trans (hid r), hn.trans hnext, hcl.trans hcells,
      hnc.trans hcell⟩

/-- A step of the serial queue changes no record for good, and no data. -/
theorem identity_stepThread {t : ControlManager} {answer : Answer}
    (hstep : s.stepThread answer = some t) :
    (∀ r, t.identity r = s.identity r) ∧ t.nextRecord = s.nextRecord
      ∧ t.cells = s.cells ∧ t.nextCell = s.nextCell := by
  have hcase := threadStep_of_stepThread hstep
  generalize s.thread = th at hcase
  -- every write is to a field that the identity leaves out
  cases hcase with
  | queueSection u removed sp hrun =>
    have hid := identity_processOrderedEventQueueLocked hrun
    exact hid
  | finalSubscriber removed rest sp =>
    unfold ControlManager.handleFinalSubscriber
    dsimp only
    split
    · exact ⟨fun _ => rfl, rfl, rfl, rfl⟩
    · exact ⟨identity_update rfl rfl rfl, rfl, rfl, rfl⟩
  | setTimeout sp i =>
    obtain ⟨pending, handler, next, timers, heq⟩ := s.setTimeout_eq
    rw [heq]
    exact ⟨fun _ => rfl, rfl, rfl, rfl⟩
  | handleResult sp i isOk =>
    refine ⟨identity_update rfl ?_ ?_, rfl, rfl, rfl⟩
    · split <;> rfl
    · split <;> rfl
  | reschedule =>
    obtain ⟨scheduled, queue, heq⟩ := s.scheduleOrderedCommonEvent_eq
    rw [heq]
    exact ⟨fun _ => rfl, rfl, rfl, rfl⟩
  | timeoutEarly sp hearly =>
    obtain ⟨pending, handler, next, timers, heq⟩ := s.setTimeout_eq
    rw [heq]
    exact ⟨fun _ => rfl, rfl, rfl, rfl⟩
  | prepareNext sp | frozen sp i | prepareNotify sp i hproxy | invalidProxy sp i hproxy
  | storeIdle sp | timeoutHandle sp nowSysTime =>
    exact ⟨identity_update rfl rfl rfl, rfl, rfl, rfl⟩
  | _ => exact ⟨fun _ => rfl, rfl, rfl, rfl⟩

theorem identity_stepOp (i : ℕ) (op : ServiceOp) :
    (∀ r, (s.stepOp i op).identity r = s.identity r)
      ∧ (s.stepOp i op).nextRecord = s.nextRecord
      ∧ (s.stepOp i op).nextCell = s.nextCell := by
  cases op with
  | schedule =>
    obtain ⟨scheduled, queue, heq⟩ :=
      { s with ops := s.ops.eraseIdx i }.scheduleOrderedCommonEvent_eq
    unfold ControlManager.stepOp
    rw [heq]
    exact ⟨fun _ => rfl, rfl, rfl⟩
  | readResult sp receiver => exact ⟨fun _ => rfl, rfl, rfl⟩
  | finishLoad call => exact ⟨fun _ => rfl, rfl, rfl⟩
  | finishUpdate call state =>
    unfold ControlManager.stepOp
    dsimp only
    split
    · exact ⟨identity_update rfl rfl rfl, rfl, rfl⟩
    · exact ⟨identity_update rfl rfl rfl, rfl, rfl⟩

/-- **A step changes no record that is enqueued for good**, and only a
publish enqueues one. -/
theorem identity_step {t : ControlManager} {l : ControlLabel} (hstep : s.step P S l = some t) :
    (∃ request, l = .publish request ∧ t = s.processOrderedEvent P S request) ∨
    ((∀ request, l ≠ .publish request) ∧ (∀ r, t.identity r = s.identity r)
      ∧ t.nextRecord = s.nextRecord ∧ s.nextCell ≤ t.nextCell) := by
  cases l with
  | tick duration =>
    cases hstep
    exact Or.inr ⟨by simp, fun _ => rfl, rfl, Nat.le_refl _⟩
  | makeCells data info =>
    cases hstep
    exact Or.inr ⟨by simp, fun _ => rfl, rfl, Nat.le_succ _⟩
  | setUnordered cell =>
    cases hstep
    exact Or.inr ⟨by simp, fun _ => rfl, rfl, Nat.le_refl _⟩
  | publish request =>
    cases hstep
    exact Or.inl ⟨request, rfl, rfl⟩
  | finishReceiver reply =>
    cases hstep
    refine Or.inr ⟨by simp, ?_⟩
    unfold ControlManager.finishReceiver
    split <;> exact ⟨fun _ => rfl, rfl, Nat.le_refl _⟩
  | unsubscribeCommonEvent listener =>
    cases hstep
    refine Or.inr ⟨by simp, ?_⟩
    unfold ControlManager.unsubscribeCommonEvent
    split
    · exact ⟨fun _ => rfl, rfl, Nat.le_refl _⟩
    · split <;> exact ⟨fun _ => rfl, rfl, Nat.le_refl _⟩
  | op i =>
    obtain ⟨op, -, rfl⟩ := Option.map_eq_some_iff.mp hstep
    obtain ⟨hid, hnext, hcell⟩ := identity_stepOp (s := s) i op
    exact Or.inr ⟨by simp, hid, hnext, hcell.ge⟩
  | processNextOrderedEvent =>
    unfold ControlManager.step at hstep
    dsimp only at hstep
    split at hstep
    · cases hstep
      exact Or.inr ⟨by simp, fun _ => rfl, rfl, Nat.le_refl _⟩
    · cases hstep
  | timeout handler =>
    unfold ControlManager.step at hstep
    dsimp only at hstep
    split at hstep
    · cases hstep
      exact Or.inr ⟨by simp, fun _ => rfl, rfl, Nat.le_refl _⟩
    · cases hstep
  | thread answer =>
    obtain ⟨hid, hnext, -, hcell⟩ := identity_stepThread hstep
    exact Or.inr ⟨by simp, hid, hnext, hcell.ge⟩

/-- **Where a record comes from**: the publish that found as many records
enqueued as there are before it. -/
theorem published {ls : List ControlLabel} (hs : (orderedMachine P S).run ls = some s) :
    ∀ r < s.nextRecord, ∃ pre request post s₀, ls = pre ++ .publish request :: post
      ∧ (orderedMachine P S).run pre = some s₀ ∧ s₀.nextRecord = r
      ∧ (s.records r).receivers = sortedReceivers P S request
      ∧ (s.records r).commonEventData = s₀.nextCell := by
  refine Machine.run_induction (M := orderedMachine P S)
    (R := fun ls s => ∀ r < s.nextRecord, ∃ pre request post s₀,
      ls = pre ++ .publish request :: post
      ∧ (orderedMachine P S).run pre = some s₀ ∧ s₀.nextRecord = r
      ∧ (s.records r).receivers = sortedReceivers P S request
      ∧ (s.records r).commonEventData = s₀.nextCell) ?_ ?_ hs
  · intro r hr
    exact absurd hr (Nat.not_lt_zero r)
  · -- a publish adds the last record, and no step writes an older one again
    intro ls l s t hls ih hstep r hr
    rcases identity_step hstep with ⟨request, rfl, rfl⟩ | ⟨-, hid, hnext, -⟩
    · rcases Nat.lt_succ_iff_lt_or_eq.mp hr with hr | rfl
      · obtain ⟨pre, request', post, s₀, rfl, hpre, hs₀, hrec, hcell⟩ := ih r hr
        have hold : (s.processOrderedEvent P S request).records r = s.records r :=
          Function.update_of_ne (Nat.ne_of_lt hr) _ _
        refine ⟨pre, request', post ++ [.publish request], s₀, by simp, hpre, hs₀, ?_, ?_⟩
        · rw [hold, hrec]
        · rw [hold, hcell]
      · have hnew : ∀ record, (s.processOrderedEvent P S request).records s.nextRecord = record
            → record.receivers = sortedReceivers P S request
              ∧ record.commonEventData = s.nextCell := by
          rintro record rfl
          rw [processOrderedEvent]
          simp [makeCells]
        exact ⟨ls, request, [], s, rfl, hls, rfl, hnew _ rfl⟩
    · obtain ⟨pre, request', post, s₀, rfl, hpre, hs₀, hrec, hcell⟩ := ih r (hnext ▸ hr)
      have hid' := hid r
      unfold identity at hid'
      refine ⟨pre, request', post ++ [l], s₀, by simp, hpre, hs₀, ?_, ?_⟩
      · rw [(Prod.mk.inj hid').2, hrec]
      · rw [(Prod.mk.inj hid').1, hcell]

/-- Later records have later cells, so no two records share one. -/
theorem commonEventData_lt (hs : (orderedMachine P S).Reachable s) :
    (∀ r < s.nextRecord, (s.records r).commonEventData < s.nextCell)
      ∧ ∀ r r', r < r' → r' < s.nextRecord →
        (s.records r).commonEventData < (s.records r').commonEventData := by
  refine Machine.invariant (M := orderedMachine P S)
    (I := fun s => (∀ r < s.nextRecord, (s.records r).commonEventData < s.nextCell)
      ∧ ∀ r r', r < r' → r' < s.nextRecord →
        (s.records r).commonEventData < (s.records r').commonEventData)
    ⟨nofun, nofun⟩ ?_ hs
  intro s l t ⟨hlt, hmono⟩ hstep
  rcases identity_step hstep with ⟨request, -, rfl⟩ | ⟨-, hid, hnext, hcell⟩
  · -- the new record is the last, and its cell the newest
    have hold : ∀ r < s.nextRecord,
        (s.processOrderedEvent P S request).records r = s.records r :=
      fun r hr => Function.update_of_ne (Nat.ne_of_lt hr) _ _
    have hnew : ((s.processOrderedEvent P S request).records s.nextRecord).commonEventData
        = s.nextCell := by
      rw [processOrderedEvent]
      simp [makeCells]
    refine ⟨fun r hr => ?_, fun r r' hr hr' => ?_⟩
    · have hr' : r < s.nextRecord + 1 := hr
      show _ < s.nextCell + 1
      rcases Nat.lt_succ_iff_lt_or_eq.mp hr' with hr | rfl
      · rw [hold r hr]
        exact Nat.lt_succ_of_lt (hlt r hr)
      · rw [hnew]
        exact Nat.lt_succ_self _
    · have hr'' : r' < s.nextRecord + 1 := hr'
      rcases Nat.lt_succ_iff_lt_or_eq.mp hr'' with hr' | rfl
      · rw [hold r (hr.trans hr'), hold r' hr']
        exact hmono r r' hr hr'
      · rw [hold r hr, hnew]
        exact hlt r hr
  · have hcell' : ∀ r, (t.records r).commonEventData = (s.records r).commonEventData :=
      fun r => congrArg (fun x => x.1.commonEventData) (hid r)
    refine ⟨fun r hr => ?_, fun r r' hr hr' => ?_⟩
    · rw [hcell']
      exact Nat.lt_of_lt_of_le (hlt r (hnext ▸ hr)) hcell
    · rw [hcell', hcell']
      exact hmono r r' hr (hnext ▸ hr')

/-- The receivers of a record are the subscribers the manager selects, each
once, greatest priority first. -/
theorem sortedReceivers_spec (request : PublishRequest) :
    ((sortedReceivers P S request).map (·.record)).Perm
        (request.manager.getSubscriberRecords P request.event).1
      ∧ ((sortedReceivers P S request).map (·.record)).Pairwise (fun a b =>
        ((request.manager.getSubscriberRecords P request.event).2.heap
            b).eventSubscribeInfo.priority
          ≤ ((request.manager.getSubscriberRecords P request.event).2.heap
            a).eventSubscribeInfo.priority) := by
  unfold sortedReceivers
  generalize request.manager.getSubscriberRecords P request.event = found
  obtain ⟨subscribers, manager⟩ := found
  dsimp only
  rw [List.map_map, show ((fun receiver : Receiver => receiver.record) ∘
      fun record => (⟨record, manager.listenerOf record⟩ : Receiver)) = id from rfl,
    List.map_id]
  exact ⟨S.perm _ _, S.sort_pairwise_key
    (fun record => (manager.heap record).eventSubscribeInfo.priority) subscribers⟩

/-- **The order of dispatch.** In every run: a record is notified with the
indices from the first on, none left out and none twice, and its receivers
are those the manager selected when it was published, in non-increasing
priority; no receiver of a record is notified before every earlier record
has been removed; and the next receiver and the index in hand are within the
receivers and the delivery states. -/
theorem ordered_dispatch_order {ls : List ControlLabel}
    (hs : (orderedMachine P S).run ls = some s) :
    (∀ r, notifiedOf s.trace r
      = List.range ((s.records r).nextReceiver
          - if s.thread.unnotified = some r then 1 else 0))
    ∧ (∀ r < s.nextRecord, ∃ pre request post s₀, ls = pre ++ .publish request :: post
        ∧ (orderedMachine P S).run pre = some s₀ ∧ s₀.nextRecord = r
        ∧ ((s.records r).receivers.map (·.record)).Perm
            (request.manager.getSubscriberRecords P request.event).1
        ∧ ((s.records r).receivers.map (·.record)).Pairwise (fun a b =>
          ((request.manager.getSubscriberRecords P request.event).2.heap
              b).eventSubscribeInfo.priority
            ≤ ((request.manager.getSubscriberRecords P request.event).2.heap
              a).eventSubscribeInfo.priority))
    ∧ (∀ pre r i post, s.trace = pre ++ .notified r i :: post →
        ∀ r' < r, .removed r' ∈ pre)
    ∧ (∀ r, (s.records r).nextReceiver ≤ (s.records r).receivers.length
        ∧ (s.records r).receivers.length = (s.records r).deliveryState.length)
    ∧ (∀ pre r i post, s.trace = pre ++ .notified r i :: post →
        i < (s.records r).receivers.length ∧ i < (s.records r).deliveryState.length) := by
  have h := dispatch_reachable ⟨ls, hs⟩
  refine ⟨h.notified, ?_, ?_, ?_, ?_⟩
  · intro r hr
    obtain ⟨pre, request, post, s₀, hls, hpre, hs₀, hrec, -⟩ := published hs r hr
    refine ⟨pre, request, post, s₀, hls, hpre, hs₀, ?_⟩
    rw [hrec]
    exact sortedReceivers_spec request
  · intro pre r i post htrace r' hr'
    obtain ⟨e, he, heq⟩ := List.mem_filterMap.mp (h.inOrder pre r i post htrace r' hr').1
    cases e with
    | removed r'' =>
      obtain rfl : r'' = r' := Option.some.inj heq
      exact he
    | final r'' d => cases heq
    | notified r'' j => cases heq
  · exact fun r => ⟨h.nextReceiver_le r, (h.length_deliveryState r).symm⟩
  · intro pre r i post htrace
    -- an index notified is one of those handed over
    have hmem : i ∈ notifiedOf s.trace r := by
      refine List.mem_filterMap.mpr ⟨.notified r i, ?_, by simp [TraceEvent.notified?]⟩
      rw [htrace]
      simp
    rw [h.notified r] at hmem
    have hlt : i < (s.records r).receivers.length :=
      Nat.lt_of_lt_of_le (List.mem_range.mp hmem)
        ((Nat.sub_le _ _).trans (h.nextReceiver_le r))
    exact ⟨hlt, (h.length_deliveryState r).symm ▸ hlt⟩

/-- A manager with one listener of one event. -/
def oneListener : SubscriberManager (Buffered CellId) CellId :=
  (({} : SubscriberManager (Buffered CellId) CellId).insertSubscriber .insertion 5000
    (some { matchingSkills := { events := ["e"] }, userId := ALL_USER }) (some ⟨1⟩) {}).2

/-- An ordered publish of that event. -/
def publishE : ControlLabel :=
  .publish { manager := oneListener, event := { commonEventData := { want := { action := "e" } }
                                                publishInfo := { ordered := true } }
             resultTo := none }

/-- A publish, up to the notification of its one receiver. -/
def untilNotified : List ControlLabel :=
  [publishE, .op 0, .processNextOrderedEvent] ++ List.replicate 5 (.thread {})

/-- After `untilNotified` the record has been notified with its first
index. -/
theorem ordered_dispatch_order_untilNotified :
    ∃ s, (orderedMachine {} .insertion).run untilNotified = some s
      ∧ notifiedOf s.trace 0 = [0] := by
  obtain ⟨s, hs, hnext⟩ := Option.map_eq_some_iff.mp
    (show ((orderedMachine {} .insertion).run untilNotified).map (fun s =>
      ((s.records 0).nextReceiver, s.thread.unnotified)) = some (1, none) by decide)
  obtain ⟨hnext, hun⟩ := Prod.mk.inj hnext
  refine ⟨s, hs, ?_⟩
  rw [(ordered_dispatch_order hs).1 0, hnext, hun]
  rfl

end ControlManager

end CommonEventService

import CommonEventService.DeliveryLedger
import CommonEventService.Completion

/-!
# The deliveries of the ordered pipeline

What a step of the pipeline does to the deliveries of its records, and that it
is a move of one of them, or of none – or of two: a call that was matched for a
receiver finishes that one, and cuts off another that is at work meanwhile.
-/

namespace CommonEventService

/-- **A delivery**: a receiver, by its index, of a record. -/
structure Delivery where
  kind : RecordKind
  record : ℕ
  index : ℕ
  deriving DecidableEq, Repr

namespace OrderedEventRecord

variable (record : OrderedEventRecord)

/-- What a delivery goes by in its record. -/
def progress : ℕ × Option Remote × List DeliveryState :=
  (record.nextReceiver, record.curReceiver, record.deliveryState)

/-- The delivery state of a receiver. -/
def stateAt (i : ℕ) : DeliveryState := record.deliveryState.getD i .PENDING

variable {record}

theorem stateAt_of_eq_set {record' : OrderedEventRecord} {i : ℕ} {state : DeliveryState}
    (h : record'.deliveryState = record.deliveryState.set i state) (j : ℕ) :
    record'.stateAt j
      = if i = j ∧ i < record.deliveryState.length then state else record.stateAt j := by
  unfold stateAt
  rw [h, List.getD_eq_getElem?_getD, List.getElem?_set, List.getD_eq_getElem?_getD]
  by_cases hij : i = j
  · subst hij
    by_cases hlt : i < record.deliveryState.length
    · rw [if_pos rfl, if_pos hlt, if_pos ⟨rfl, hlt⟩]
      rfl
    · rw [if_pos rfl, if_neg hlt, if_neg fun h => hlt h.2,
        List.getElem?_eq_none (Nat.le_of_not_lt hlt)]
  · rw [if_neg hij, if_neg fun h => hij h.1]

/-- A ledger that is new. -/
theorem stateAt_pending (h : record.deliveryState = record.receivers.map (fun _ => .PENDING))
    (i : ℕ) : record.stateAt i = .PENDING := by
  unfold stateAt
  rw [h, List.getD_eq_getElem?_getD, List.getElem?_map]
  cases record.receivers[i]? <;> rfl

/-- What `HandleTimeoutReceiver` leaves of a record. -/
def giveUp (record : OrderedEventRecord) (nowSysTime : ℕ) : OrderedEventRecord :=
  { record with
    receiverTime := nowSysTime
    deliveryState :=
      if record.nextReceiver > 0
      then record.deliveryState.set (record.nextReceiver - 1) .TIMEOUT
      else record.deliveryState
    state := .IDLE
    curReceiver := none }

theorem deliveryState_giveUp {nowSysTime i : ℕ} (hnext : record.nextReceiver = i + 1) :
    (record.giveUp nowSysTime).deliveryState = record.deliveryState.set i .TIMEOUT := by
  unfold giveUp
  dsimp only
  rw [hnext, if_pos (Nat.succ_pos i), Nat.add_sub_cancel]

end OrderedEventRecord

namespace ControlManager

variable (s : ControlManager)

/-- The report of `HandleTimeoutReceiver`. -/
def timeoutReport (sp : ℕ) : List (Delivery × DeliveryEvent) :=
  if (s.records sp).nextReceiver > 0
  then [(⟨.ordered, sp, (s.records sp).nextReceiver - 1⟩, .timedOut)]
  else []

/-- The report of `CheckTimeoutForceReceive`, for the front record. -/
def forcedReport : List (Delivery × DeliveryEvent) :=
  match s.front with
  | some sp => if s.isOverdue sp then s.timeoutReport sp else []
  | none => []

/-- What a step of the serial queue does to the deliveries, at a program
counter. -/
def threadEvents (answer : Answer) : OrderedThread → List (Delivery × DeliveryEvent)
  | .frozen sp recIdx => [(⟨.ordered, sp, recIdx⟩, .frozen)]
  | .prepareNotify sp recIdx =>
    [(⟨.ordered, sp, recIdx⟩, if answer.hasProxy then .notified else .invalidProxy)]
  | .handleResult sp recIdx isOk =>
    [(⟨.ordered, sp, recIdx⟩, if isOk then .accepted else .failed)]
  | .timeoutHandle sp _ => s.timeoutReport sp
  | .queueSection =>
    (DoWhile.passes processOrderedEventQueuePass (s.orderedEventQueue.length + 1)
      (s, [])).flatMap (fun loop => loop.1.forcedReport)
  | _ => []

/-- What the update of `FinishReceiver` does to the deliveries: it finishes the
one the call was matched for, whatever has become of it meanwhile; and if
another one is at work by now, that one is not the current one any more. -/
def finishEvents (call : FinishCall) : List (Delivery × DeliveryEvent) :=
  match call.receiver, (s.records call.record).currentIndex with
  | none, none => []
  | none, some j => [(⟨.ordered, call.record, j⟩, .cutOff)]
  | some i, none => [(⟨.ordered, call.record, i⟩, .finished)]
  | some i, some j =>
    if i = j then [(⟨.ordered, call.record, i⟩, .finished)]
    else [(⟨.ordered, call.record, i⟩, .finished), (⟨.ordered, call.record, j⟩, .cutOff)]

/-- **What a step of the pipeline does to the deliveries.** -/
def deliveryEvents : ControlLabel → List (Delivery × DeliveryEvent)
  | .op i =>
    match s.ops[i]? with
    | some (.finishUpdate call _) => s.finishEvents call
    | _ => []
  | .thread answer => s.threadEvents answer s.thread
  | _ => []

/-- **A timeout of a record may be handled**: no receiver was handed over yet,
there is one at work, or the last one owes an answer. -/
def MayTimeOut (history : Delivery → List DeliveryEvent) (sp : ℕ) : Prop :=
  (s.records sp).nextReceiver = 0 ∨ (s.records sp).curReceiver ≠ none
    ∨ OwesAnswer ((s.records sp).stateAt ((s.records sp).nextReceiver - 1))
      (history ⟨.ordered, sp, (s.records sp).nextReceiver - 1⟩)

instance (history : Delivery → List DeliveryEvent) (sp : ℕ) :
    Decidable (s.MayTimeOut history sp) := inferInstanceAs (Decidable (_ ∨ _ ∨ _))

/-- A step of the serial queue whose deliveries are told, at a program
counter. -/
def ThreadTold (history : Delivery → List DeliveryEvent) (answer : Answer) :
    OrderedThread → Prop
  | .prepareNotify _ _ => answer.hasProxy = true
  | .handleResult _ _ isOk => isOk = true
  | .timeoutHandle sp _ => s.MayTimeOut history sp
  | .queueSection => ∀ sp ∈ s.front, s.isOverdue sp = true → s.MayTimeOut history sp
  | _ => True

instance ThreadTold.decidable (history : Delivery → List DeliveryEvent) (answer : Answer) :
    ∀ th : OrderedThread, Decidable (s.ThreadTold history answer th)
  | .prepareNotify _ _ => inferInstanceAs (Decidable (answer.hasProxy = true))
  | .handleResult _ _ isOk => inferInstanceAs (Decidable (isOk = true))
  | .timeoutHandle sp _ => inferInstanceAs (Decidable (s.MayTimeOut history sp))
  | .queueSection => inferInstanceAs
      (Decidable (∀ sp ∈ s.front, s.isOverdue sp = true → s.MayTimeOut history sp))
  | .idle | .finals _ _ | .prepareNext _ | .setTimeout _ _ | .notify _ _ | .frozen _ _ | .call _ _
  | .inCall _ _ | .finalTest _ | .storeIdle _ | .reschedule | .timeoutFront | .timeoutCheck _ =>
    .isTrue trivial

/-- **The steps of the pipeline whose deliveries are told.** -/
def LedgerOk (history : Delivery → List DeliveryEvent) : ControlLabel → Prop
  | .thread answer => s.ThreadTold history answer s.thread
  | _ => True

instance LedgerOk.decidable (history : Delivery → List DeliveryEvent) :
    ∀ l : ControlLabel, Decidable (s.LedgerOk history l)
  | .thread answer => inferInstanceAs (Decidable (s.ThreadTold history answer s.thread))
  | .tick _ | .makeCells _ _ | .setUnordered _ | .publish _ | .finishReceiver _
  | .unsubscribeCommonEvent _ | .op _ | .processNextOrderedEvent | .timeout _ => .isTrue trivial

/-! ## Where the deliveries stand -/

end ControlManager

namespace OrderedThread

/-- The receiver that the serial queue is on its way to. -/
def onTheWay : OrderedThread → Option (ℕ × ℕ)
  | .setTimeout sp recIdx => some (sp, recIdx)
  | .notify sp recIdx => some (sp, recIdx)
  | .frozen sp recIdx => some (sp, recIdx)
  | .prepareNotify sp recIdx => some (sp, recIdx)
  | _ => none

/-- The receiver whose `NotifyEvent` the serial queue is in. -/
def calling : OrderedThread → Option (ℕ × ℕ)
  | .call sp recIdx => some (sp, recIdx)
  | .inCall sp recIdx => some (sp, recIdx)
  | .handleResult sp recIdx _ => some (sp, recIdx)
  | _ => none

/-- The program counter speaks of no delivery but one. -/
def OnlyAt (th : OrderedThread) (p : ℕ × ℕ) : Prop :=
  (∀ q, th.onTheWay = some q → q = p) ∧ ∀ q, th.calling = some q → q = p

end OrderedThread

namespace ControlManager

variable {P : Platform} {S : StdSort} {s t u : ControlManager} {th th' : OrderedThread} {r i : ℕ}
  {history : Delivery → List DeliveryEvent}

/-- Where a delivery stands, with the program counter at `th`. -/
def stage (s : ControlManager) (th : OrderedThread) (r i : ℕ) : Stage :=
  if (s.records r).nextReceiver ≤ i ∨ th.onTheWay = some (r, i) then .ahead
  else if th.calling = some (r, i) then .inCall (s.records r).curReceiver.isSome
  else if (s.records r).curReceiver ≠ none ∧ (s.records r).nextReceiver = i + 1 then .active
  else .ended

/-- Where a delivery stands, and what is written down of it. -/
def view (s : ControlManager) (th : OrderedThread) (r i : ℕ) : Stage × DeliveryState :=
  (s.stage th r i, (s.records r).stateAt i)

/-- The frame rule of one delivery. -/
theorem view_congr (hrec : (t.records r).progress = (s.records r).progress)
    (hway : th'.onTheWay = some (r, i) ↔ th.onTheWay = some (r, i))
    (hcalling : th'.calling = some (r, i) ↔ th.calling = some (r, i)) :
    t.view th' r i = s.view th r i := by
  have hnext : (t.records r).nextReceiver = (s.records r).nextReceiver :=
    congrArg Prod.fst hrec
  have hcur : (t.records r).curReceiver = (s.records r).curReceiver :=
    congrArg (fun progress => progress.2.1) hrec
  have hstate : (t.records r).deliveryState = (s.records r).deliveryState :=
    congrArg (fun progress => progress.2.2) hrec
  unfold view stage OrderedEventRecord.stateAt
  rw [hnext, hcur, hstate]
  simp only [hway, hcalling]

/-- Off the delivery that the program counter speaks of, and off the last one
of a record, there is nothing but what was handed over and what was not. -/
theorem stage_of_ne (hnext : (s.records r).nextReceiver ≠ i + 1)
    (hway : th.onTheWay ≠ some (r, i)) (hcalling : th.calling ≠ some (r, i)) :
    s.stage th r i = if (s.records r).nextReceiver ≤ i then .ahead else .ended := by
  unfold stage
  simp only [hway, hcalling, hnext, or_false, and_false, if_false]

/-- The last delivery of a record, off the program counter. -/
theorem stage_last (hnext : (s.records r).nextReceiver = i + 1)
    (hway : th.onTheWay ≠ some (r, i)) (hcalling : th.calling ≠ some (r, i)) :
    s.stage th r i = if (s.records r).curReceiver ≠ none then .active else .ended := by
  unfold stage
  rw [if_neg (not_or.mpr ⟨by omega, hway⟩), if_neg hcalling]
  simp only [hnext, and_true]

theorem stage_onTheWay (hway : th.onTheWay = some (r, i)) : s.stage th r i = .ahead :=
  if_pos (.inr hway)

theorem stage_calling (hnext : (s.records r).nextReceiver = i + 1)
    (hway : th.onTheWay ≠ some (r, i)) (hcalling : th.calling = some (r, i)) :
    s.stage th r i = .inCall (s.records r).curReceiver.isSome := by
  unfold stage
  rw [if_neg (not_or.mpr ⟨by omega, hway⟩), if_pos hcalling]

/-- Nobody is at work: what was handed over is over, or in its call. -/
theorem stage_released (hcur : (s.records r).curReceiver = none)
    (hahead : s.stage th r i ≠ .ahead) :
    s.stage th r i = .inCall false ∨ s.stage th r i = .ended := by
  unfold stage at hahead ⊢
  rw [hcur] at hahead ⊢
  split at hahead
  next => exact absurd rfl hahead
  next h =>
    rw [if_neg h]
    split
    · exact .inl rfl
    · exact .inr (if_neg fun hc => hc.1 rfl)

theorem mayTimeOut_iff (h : (s.records r).nextReceiver = i + 1) :
    s.MayTimeOut history r ↔ (s.records r).curReceiver ≠ none
      ∨ OwesAnswer ((s.records r).stateAt i) (history ⟨.ordered, r, i⟩) := by
  unfold MayTimeOut
  rw [h, Nat.add_sub_cancel, or_iff_right (Nat.succ_ne_zero i)]

/-- **What a call was matched for has been handed over.** -/
def Matched (s : ControlManager) : Prop :=
  ∀ op ∈ s.ops, ∀ r i, op.matched? = some (r, i) → s.stage s.thread r i ≠ .ahead

/-! ## What a step can do -/

/-- **No delivery moves**, but those that are not handed over yet may be
written down so. -/
def Quiet (s t : ControlManager) (th th' : OrderedThread) : Prop :=
  ∀ r i, t.view th' r i = s.view th r i
    ∨ (s.view th r i).1 = .ahead ∧ t.view th' r i = (.ahead, .PENDING)

/-- **One delivery moves**, and no other. -/
structure MovesOne (s t : ControlManager) (th th' : OrderedThread) (r i : ℕ)
    (e : DeliveryEvent) : Prop where
  moves : ∀ events, Moves .ordered ⟨(s.view th r i).1, (s.view th r i).2, events⟩ e
    ⟨(t.view th' r i).1, (t.view th' r i).2, events ++ [e]⟩
  other : ∀ r' i', (r', i') ≠ (r, i) → t.view th' r' i' = s.view th r' i'

/-- **What a step does to the deliveries**: it moves none and is told; or it
moves one and is told where the move is; or it finishes one that is over, cuts
off another, and is told. -/
inductive Effect (s t : ControlManager) (history : Delivery → List DeliveryEvent)
    (l : ControlLabel) : Prop
  | quiet (hevents : s.deliveryEvents l = []) (hquiet : Quiet s t s.thread t.thread)
      (hok : s.LedgerOk history l)
  | moves (r i : ℕ) (e : DeliveryEvent)
      (hevents : s.deliveryEvents l = [(⟨.ordered, r, i⟩, e)])
      (hmoves : MovesOne s t s.thread t.thread r i e)
      (hok : s.LedgerOk history l ↔ Told .ordered
        ⟨(s.view s.thread r i).1, (s.view s.thread r i).2, history ⟨.ordered, r, i⟩⟩ e)
  | replaces (r i j : ℕ) (hne : i ≠ j)
      (hevents : s.deliveryEvents l = [(⟨.ordered, r, i⟩, .finished), (⟨.ordered, r, j⟩, .cutOff)])
      (hover : s.stage s.thread r i = .ended)
      (hmoves : MovesOne s t s.thread t.thread r j .cutOff) (hok : s.LedgerOk history l)

/-- What has been handed over stays so. -/
theorem Effect.stage_ne_ahead {l : ControlLabel} (h : Effect s t history l)
    (hahead : s.stage s.thread r i ≠ .ahead) : t.stage t.thread r i ≠ .ahead := by
  have hmoved : ∀ r' i' e, MovesOne s t s.thread t.thread r' i' e →
      t.stage t.thread r i ≠ .ahead := by
    intro r' i' e hmoves
    by_cases hself : (r, i) = (r', i')
    · obtain ⟨rfl, rfl⟩ := Prod.mk.inj hself
      exact (hmoves.moves []).stage_ne_ahead
    · rw [show t.stage t.thread r i = s.stage s.thread r i from
        congrArg Prod.fst (hmoves.other r i hself)]
      exact hahead
  cases h with
  | quiet hevents hquiet hok =>
    rcases hquiet r i with hview | ⟨hstage, -⟩
    · rw [show t.stage t.thread r i = s.stage s.thread r i from congrArg Prod.fst hview]
      exact hahead
    · exact absurd hstage hahead
  | moves r' i' e hevents hmoves hok => exact hmoved r' i' e hmoves
  | replaces r' i' j hne hevents hover hmoves hok => exact hmoved r' j .cutOff hmoves

/-- **The frame rule.** -/
theorem Quiet.of_progress (hrec : ∀ r, (t.records r).progress = (s.records r).progress)
    (hway : th'.onTheWay = th.onTheWay) (hcalling : th'.calling = th.calling) :
    Quiet s t th th' := by
  intro r i
  refine .inl (view_congr (hrec r) ?_ ?_)
  · rw [hway]
  · rw [hcalling]

/-- **The rule for a write to the last delivery of one record.** -/
theorem MovesOne.of_update {record : OrderedEventRecord} {e : DeliveryEvent}
    (ht : t.records = Function.update s.records r record)
    (hlast : (s.records r).nextReceiver = i + 1) (hnext : record.nextReceiver = i + 1)
    (hstate : ∀ j ≠ i, record.stateAt j = (s.records r).stateAt j)
    (hth : th.OnlyAt (r, i)) (hth' : th'.OnlyAt (r, i))
    (hmoves : ∀ events, Moves .ordered ⟨s.stage th r i, (s.records r).stateAt i, events⟩ e
      ⟨t.stage th' r i, record.stateAt i, events ++ [e]⟩) : MovesOne s t th th' r i e := by
  have hself : t.records r = record := by rw [ht, Function.update_self]
  refine ⟨?_, ?_⟩
  · intro events
    unfold view
    rw [hself]
    exact hmoves events
  · intro r' i' hne
    have hway : th.onTheWay ≠ some (r', i') := fun h => hne (hth.1 _ h)
    have hcalling : th.calling ≠ some (r', i') := fun h => hne (hth.2 _ h)
    have hway' : th'.onTheWay ≠ some (r', i') := fun h => hne (hth'.1 _ h)
    have hcalling' : th'.calling ≠ some (r', i') := fun h => hne (hth'.2 _ h)
    by_cases hr : r' = r
    · subst hr
      have hi : i' ≠ i := fun h => hne (by rw [h])
      unfold view
      rw [stage_of_ne (by rw [hself, hnext]; omega) hway' hcalling',
        stage_of_ne (by rw [hlast]; omega) hway hcalling, hself, hnext, hlast, hstate i' hi]
    · refine view_congr ?_ (iff_of_false hway' hway) (iff_of_false hcalling' hcalling)
      rw [ht, Function.update_of_ne hr]

/-- The rule for a write to the ledger of one record. -/
theorem MovesOne.of_set {record : OrderedEventRecord} {e : DeliveryEvent} {state : DeliveryState}
    (ht : t.records = Function.update s.records r record)
    (hlast : (s.records r).nextReceiver = i + 1) (hnext : record.nextReceiver = i + 1)
    (hset : record.deliveryState = (s.records r).deliveryState.set i state)
    (hlt : i < (s.records r).deliveryState.length)
    (hth : th.OnlyAt (r, i)) (hth' : th'.OnlyAt (r, i))
    (hmoves : ∀ events, Moves .ordered ⟨s.stage th r i, (s.records r).stateAt i, events⟩ e
      ⟨t.stage th' r i, state, events ++ [e]⟩) : MovesOne s t th th' r i e := by
  refine MovesOne.of_update ht hlast hnext (fun j hj => ?_) hth hth' fun events => ?_
  · rw [OrderedEventRecord.stateAt_of_eq_set hset, if_neg fun h => hj h.1.symm]
  · rw [OrderedEventRecord.stateAt_of_eq_set hset, if_pos ⟨rfl, hlt⟩]
    exact hmoves events

/-! ## The program counter and the last delivery -/

theorem quiet_of_onTheWay (h : th.onTheWay = some (r, i)) : th.quiet = some r := by
  cases th with
  | setTimeout sp recIdx | notify sp recIdx | frozen sp recIdx | prepareNotify sp recIdx =>
    cases h
    rfl
  | _ => cases h

/-- The program counter speaks of the last delivery of the front record. -/
theorem onlyAt_of_front (hok : s.ThreadOk th) (hfront : s.front = some r)
    (hnext : (s.records r).nextReceiver = i + 1) : th.OnlyAt (r, i) := by
  have hsame : ∀ sp recIdx, s.front = some sp ∧ (s.records sp).nextReceiver = recIdx + 1 →
      (sp, recIdx) = (r, i) := by
    rintro sp recIdx ⟨hsp, hidx⟩
    obtain rfl : r = sp := Option.some.inj (hfront.symm.trans hsp)
    rw [show recIdx = i by omega]
  refine ⟨?_, ?_⟩
  · intro q hq
    cases th with
    | setTimeout sp recIdx | notify sp recIdx | frozen sp recIdx | prepareNotify sp recIdx =>
      cases hq
      exact hsame sp recIdx hok
    | _ => cases hq
  · intro q hq
    cases th with
    | call sp recIdx | inCall sp recIdx | handleResult sp recIdx isOk =>
      cases hq
      exact hsame sp recIdx hok
    | _ => cases hq

/-- The last delivery of a record is within its ledger. -/
theorem index_lt (hd : s.Dispatch th) (hnext : (s.records r).nextReceiver = i + 1) :
    i < (s.records r).deliveryState.length := by
  have hle := hd.nextReceiver_le r
  rw [hd.length_deliveryState]
  omega

/-- Where the program counter speaks of no delivery, it is off every one. -/
theorem onlyAt_of_none {p : ℕ × ℕ} (hway : th.onTheWay = none) (hcalling : th.calling = none) :
    th.OnlyAt p := by
  refine ⟨fun q hq => ?_, fun q hq => ?_⟩
  · rw [hway] at hq
    cases hq
  · rw [hcalling] at hq
    cases hq

/-! ## The steps -/

/-- A publish. -/
theorem quiet_processOrderedEvent (hd : s.Dispatch th) (request : PublishRequest) :
    Quiet s (s.processOrderedEvent P S request) th th := by
  intro r i
  by_cases hr : r = s.nextRecord
  · subst hr
    refine .inr ⟨?_, ?_⟩
    · have hfresh : (s.records s.nextRecord).nextReceiver ≤ i := by
        rw [hd.fresh _ (Nat.le_refl _)]
        exact Nat.zero_le i
      exact if_pos (.inl hfresh)
    · have hself : (s.processOrderedEvent P S request).records s.nextRecord
          = { commonEventData := s.nextCell
              publishInfo := s.nextCell
              recordTime := request.event.recordTime
              userId := request.event.userId
              eventRecordInfo := request.event.eventRecordInfo
              resultTo := request.resultTo
              receivers := sortedReceivers P S request
              deliveryState := (sortedReceivers P S request).map (fun _ => .PENDING) } :=
        Function.update_self _ _ _
      unfold view stage
      rw [hself, if_pos (.inl (Nat.zero_le i)), OrderedEventRecord.stateAt_pending rfl]
  · refine .inl (view_congr ?_ Iff.rfl Iff.rfl)
    rw [show (s.processOrderedEvent P S request).records r = s.records r from
      Function.update_of_ne hr _ _]

/-- **The update of a reply or an unsubscription** takes the receiver that is at
work out of it, whoever it is. -/
theorem movesOne_finishUpdate (hd : s.Dispatch s.thread) (ha : s.Activity s.thread) {n : ℕ}
    {call : FinishCall} {state : EventState} {listener : Remote}
    (hcur : (s.records call.record).curReceiver = some listener)
    (hnext : (s.records call.record).nextReceiver = i + 1) {e : DeliveryEvent}
    (he : e = .finished ∨ e = .cutOff) :
    MovesOne s (s.stepOp n (.finishUpdate call state)) s.thread s.thread call.record i e := by
  have hrecords : (s.stepOp n (.finishUpdate call state)).records
      = Function.update s.records call.record
        { s.records call.record with
          state := .IDLE
          curReceiver := none
          resultAbort := call.abortEvent.getD (s.records call.record).resultAbort } := by
    rw [stepOp_finishUpdate]
    rfl
  obtain ⟨hfront, -, -⟩ := ha.active call.record listener hcur
  have honly := onlyAt_of_front hd.threadOk hfront hnext
  have hway : s.thread.onTheWay ≠ some (call.record, i) := fun hway => by
    have hnone := ha.quiet _ (quiet_of_onTheWay hway)
    rw [hcur] at hnone
    cases hnone
  refine MovesOne.of_update hrecords hnext hnext (fun _ _ => rfl) honly honly fun events => ?_
  have hself := congrFun hrecords call.record
  rw [Function.update_self] at hself
  have hnext' : ((s.stepOp n (.finishUpdate call state)).records call.record).nextReceiver
      = i + 1 := by
    rw [hself]
    exact hnext
  by_cases hcalling : s.thread.calling = some (call.record, i)
  · rw [stage_calling hnext hway hcalling, stage_calling hnext' hway hcalling, hcur, hself]
    rcases he with rfl | rfl
    · exact .finishedInCall true _ events
    · exact .cutOffInCall _ events
  · rw [stage_last hnext hway hcalling, stage_last hnext' hway hcalling, hcur, hself]
    rcases he with rfl | rfl
    · exact .finished .active _ events (.inl rfl)
    · exact .cutOff _ events

/-- **What the update finishes** is what the call was matched for. -/
theorem effect_finishUpdate (hd : s.Dispatch s.thread) (ha : s.Activity s.thread)
    (hm : s.Matched) {n : ℕ} {call : FinishCall} {state : EventState}
    (hn : s.ops[n]? = some (.finishUpdate call state)) :
    Effect s (s.stepOp n (.finishUpdate call state)) history (.op n) := by
  have hevents : s.deliveryEvents (.op n) = s.finishEvents call := by
    unfold deliveryEvents
    dsimp only
    rw [hn]
  have hahead : ∀ i, call.receiver = some i → s.stage s.thread call.record i ≠ .ahead := by
    intro i hi
    refine hm _ (List.mem_of_getElem? hn) call.record i ?_
    show call.receiver.map _ = _
    rw [hi]
    rfl
  have hthread : (s.stepOp n (.finishUpdate call state)).thread = s.thread := stepOp_thread _ _
  unfold finishEvents OrderedEventRecord.currentIndex at hevents
  cases hcur : (s.records call.record).curReceiver with
  | none =>
    -- nobody is at work, and what was handed over stands where it stood
    have hview : ∀ r i, (s.stepOp n (.finishUpdate call state)).view s.thread r i
        = s.view s.thread r i := by
      intro r i
      refine view_congr ?_ Iff.rfl Iff.rfl
      rw [stepOp_finishUpdate]
      show (Function.update s.records call.record _ r).progress = _
      rw [Function.update_apply]
      split
      next hr =>
        unfold OrderedEventRecord.progress
        rw [hr, hcur]
      next => rfl
    rw [hcur] at hevents
    cases hreceiver : call.receiver with
    | none =>
      rw [hreceiver] at hevents
      refine .quiet hevents (fun r i => .inl ?_) trivial
      rw [hthread]
      exact hview r i
    | some i =>
      rw [hreceiver] at hevents
      refine .moves call.record i .finished hevents ?_ (iff_of_true trivial trivial)
      rw [hthread]
      refine ⟨fun events => ?_, fun r' i' _ => hview r' i'⟩
      rw [hview]
      unfold view
      rcases stage_released hcur (hahead i hreceiver) with hstage | hstage
      · rw [hstage]
        exact .finishedInCall false _ events
      · rw [hstage]
        exact .finished .ended _ events (.inr rfl)
  | some listener =>
    obtain ⟨hfront, -, j, receiver, hnext, -, -⟩ := ha.active call.record listener hcur
    have hmoves : ∀ e, e = .finished ∨ e = .cutOff → MovesOne s
        (s.stepOp n (.finishUpdate call state)) s.thread
        (s.stepOp n (.finishUpdate call state)).thread call.record j e := by
      intro e he
      rw [hthread]
      exact movesOne_finishUpdate hd ha hcur hnext he
    rw [hcur, hnext, Option.map_some, Nat.add_sub_cancel] at hevents
    cases hreceiver : call.receiver with
    | none =>
      rw [hreceiver] at hevents
      exact .moves call.record j .cutOff hevents (hmoves _ (.inr rfl)) (iff_of_true trivial trivial)
    | some i =>
      rw [hreceiver] at hevents
      dsimp only at hevents
      by_cases hij : i = j
      · subst hij
        rw [if_pos rfl] at hevents
        exact .moves call.record i .finished hevents (hmoves _ (.inl rfl))
          (iff_of_true trivial trivial)
      · -- another receiver was handed over since the call was matched
        rw [if_neg hij] at hevents
        refine .replaces call.record i j hij hevents ?_ (hmoves _ (.inr rfl)) trivial
        have honly := onlyAt_of_front hd.threadOk hfront hnext
        have hne : (call.record, i) ≠ (call.record, j) := fun h => hij (Prod.mk.inj h).2
        have hstage := stage_of_ne (i := i) (by rw [hnext]; omega) (fun h => hne (honly.1 _ h))
          (fun h => hne (honly.2 _ h))
        have hnot := hahead i hreceiver
        rw [hstage] at hnot ⊢
        split at hnot
        next => exact absurd rfl hnot
        next h => exact if_neg h

/-- `PrepareNextReceiverRecord`: the receiver that is next is on the way. -/
theorem quiet_prepareNextReceiverRecord (hd : s.Dispatch (.prepareNext r))
    (ha : s.Activity (.prepareNext r)) :
    Quiet s (s.prepareNextReceiverRecord r) (.prepareNext r)
      (.setTimeout r (s.records r).nextReceiver) := by
  intro r' i
  refine .inl ?_
  unfold prepareNextReceiverRecord
  by_cases hr : r' = r
  · subst hr
    have hcur : (s.records r').curReceiver = none := ha.quiet r' rfl
    unfold view stage OrderedEventRecord.stateAt
    rw [modify_records, if_pos rfl]
    -- the receivers before it are done with, as nobody is at work
    rcases Nat.lt_trichotomy i (s.records r').nextReceiver with hlt | rfl | hlt
    · have hne : (s.records r').nextReceiver ≠ i := by omega
      simp [OrderedThread.onTheWay, OrderedThread.calling, hcur, hne, Nat.not_le.mpr hlt,
        Nat.not_le.mpr (Nat.lt_succ_of_lt hlt)]
    · simp [OrderedThread.onTheWay]
    · simp [Nat.le_of_lt hlt, Nat.succ_le_of_lt hlt]
  · refine view_congr ?_ (iff_of_false ?_ nofun) (iff_of_false nofun nofun)
    · rw [modify_records, if_neg hr]
    · intro hway
      exact hr (Prod.mk.inj (Option.some.inj hway)).1.symm

/-! ### Timeouts -/

/-- A record that has not been begun has nobody at work. -/
theorem curReceiver_of_unbegun (ha : s.Activity th) (h : (s.records r).nextReceiver = 0) :
    (s.records r).curReceiver = none := by
  cases hcur : (s.records r).curReceiver with
  | none => rfl
  | some listener =>
    obtain ⟨-, -, i, -, hnext, -, -⟩ := ha.active r listener hcur
    rw [h] at hnext
    cases hnext

theorem handleTimeoutReceiver_records (sp now : ℕ) :
    (s.handleTimeoutReceiver sp now).records
      = Function.update s.records sp ((s.records sp).giveUp now) := rfl

/-- A timeout of a record that has not been begun writes nothing down. -/
theorem progress_handleTimeoutReceiver {sp now : ℕ} (h : (s.records sp).nextReceiver = 0)
    (hcur : (s.records sp).curReceiver = none) (r : ℕ) :
    ((s.handleTimeoutReceiver sp now).records r).progress = (s.records r).progress := by
  rw [handleTimeoutReceiver_records, Function.update_apply]
  split
  next hr =>
    subst hr
    unfold OrderedEventRecord.progress OrderedEventRecord.giveUp
    rw [h, hcur, if_neg (Nat.lt_irrefl 0)]
  next => rfl

/-- **A timeout ends the last delivery of its record.** -/
theorem movesOne_handleTimeoutReceiver (hd : s.Dispatch th) {sp now : ℕ}
    (hnext : (s.records sp).nextReceiver = i + 1) (hway : th.onTheWay = none)
    (hcalling : th.calling = none) :
    MovesOne s (s.handleTimeoutReceiver sp now) th th sp i .timedOut := by
  have honly : th.OnlyAt (sp, i) := onlyAt_of_none hway hcalling
  have hway' : th.onTheWay ≠ some (sp, i) := by
    rw [hway]
    exact nofun
  have hcalling' : th.calling ≠ some (sp, i) := by
    rw [hcalling]
    exact nofun
  refine MovesOne.of_set (handleTimeoutReceiver_records sp now) hnext hnext
    (OrderedEventRecord.deliveryState_giveUp hnext) (index_lt hd hnext) honly honly
    fun events => ?_
  have hself : (s.handleTimeoutReceiver sp now).records sp = (s.records sp).giveUp now := by
    rw [handleTimeoutReceiver_records, Function.update_self]
  have hover : (s.handleTimeoutReceiver sp now).stage th sp i = .ended := by
    rw [stage_last (by rw [hself]; exact hnext) hway' hcalling', hself]
    rfl
  rw [hover]
  refine .timedOut _ _ events ?_
  rw [stage_last hnext hway' hcalling']
  split
  next => exact .inl rfl
  next => exact .inr rfl

theorem Quiet.congr (h : Quiet s u th th') {th'' : OrderedThread}
    (hview : ∀ r i, t.view th'' r i = u.view th' r i) : Quiet s t th th'' := by
  intro r i
  rw [hview]
  exact h r i

theorem MovesOne.congr {e : DeliveryEvent} (h : MovesOne s u th th' r i e) {th'' : OrderedThread}
    (hview : ∀ r i, t.view th'' r i = u.view th' r i) : MovesOne s t th th'' r i e := by
  refine ⟨fun events => ?_, fun r' i' hne => ?_⟩
  · rw [hview]
    exact h.moves events
  · rw [hview]
    exact h.other r' i' hne

/-- **A step that handles one timeout**, as far as the deliveries go. -/
theorem effect_handleTimeoutReceiver (hd : s.Dispatch s.thread) (ha : s.Activity s.thread)
    {l : ControlLabel} {sp now : ℕ} (hevents : s.deliveryEvents l = s.timeoutReport sp)
    (hok : s.LedgerOk history l ↔ s.MayTimeOut history sp)
    (hprogress : ∀ r, (t.records r).progress
      = ((s.handleTimeoutReceiver sp now).records r).progress)
    (hway : s.thread.onTheWay = none) (hcalling : s.thread.calling = none)
    (hway' : t.thread.onTheWay = none) (hcalling' : t.thread.calling = none) :
    Effect s t history l := by
  have hview : ∀ r i, t.view t.thread r i
      = (s.handleTimeoutReceiver sp now).view s.thread r i := by
    intro r i
    refine view_congr (hprogress r) ?_ ?_
    · rw [hway, hway']
    · rw [hcalling, hcalling']
  unfold timeoutReport at hevents
  cases hnext : (s.records sp).nextReceiver with
  | zero =>
    rw [hnext, if_neg (Nat.lt_irrefl 0)] at hevents
    have hquiet : Quiet s (s.handleTimeoutReceiver sp now) s.thread s.thread :=
      Quiet.of_progress (progress_handleTimeoutReceiver hnext (curReceiver_of_unbegun ha hnext))
        rfl rfl
    exact .quiet hevents (hquiet.congr hview) (hok.mpr (.inl hnext))
  | succ i =>
    rw [hnext, if_pos (Nat.succ_pos i), Nat.add_sub_cancel] at hevents
    refine .moves sp i .timedOut hevents
      ((movesOne_handleTimeoutReceiver hd hnext hway hcalling).congr hview) ?_
    rw [hok, mayTimeOut_iff hnext]
    unfold Told view
    dsimp only
    rw [stage_last hnext (by rw [hway]; exact nofun) (by rw [hcalling]; exact nofun)]
    refine or_congr_left ?_
    by_cases hcur : (s.records sp).curReceiver = none
    · rw [if_neg (not_not_intro hcur)]
      exact iff_of_false (not_not_intro hcur) nofun
    · rw [if_pos hcur]
      exact iff_of_true hcur rfl

/-! ### The section under the queue's lock -/

/-- The records behind the front have not been begun. -/
theorem nextReceiver_of_mem_tail (hd : s.Dispatch th) {sp : ℕ} {rest : List ℕ}
    (hq : s.orderedEventQueue = sp :: rest) (hr : r ∈ rest) : (s.records r).nextReceiver = 0 := by
  have hfront : s.front = some sp := by
    rw [front, hq]
    rfl
  have hsorted : (removedOf s.trace ++ s.orderedEventQueue).Pairwise (· < ·) := by
    rw [hd.queue]
    exact List.pairwise_lt_range
  rw [hq, List.pairwise_append, List.pairwise_cons] at hsorted
  obtain ⟨-, ⟨hlt, -⟩, hremoved⟩ := hsorted
  have hfirst : sp < r := hlt r hr
  by_contra hne
  have hun : th.unnotified ≠ some r := by
    intro hun
    have hsp : s.front = some r := by
      have hok := hd.threadOk
      cases th with
      | setTimeout sp' recIdx | notify sp' recIdx =>
        cases hun
        exact hok.1
      | _ => cases hun
    rw [hfront] at hsp
    exact absurd (Option.some.inj hsp) (Nat.ne_of_lt hfirst)
  -- its first receiver was notified, and so the front record was removed before
  have hnotified : 0 ∈ notifiedOf s.trace r := by
    rw [hd.notified r, if_neg hun, Nat.sub_zero]
    exact List.mem_range.mpr (Nat.pos_of_ne_zero hne)
  obtain ⟨e, he, hindex⟩ := List.mem_filterMap.mp hnotified
  have hevent : e = .notified r 0 := by
    cases e with
    | notified r' index =>
      unfold TraceEvent.notified? at hindex
      dsimp only at hindex
      split at hindex
      next h =>
        cases hindex
        rw [h]
      next => cases hindex
    | _ => cases hindex
  obtain ⟨pre, post, htrace⟩ := List.append_of_mem he
  rw [hevent] at htrace
  have hmem := (hd.inOrder pre r 0 post htrace sp hfirst).1
  have hin : sp ∈ removedOf s.trace := by
    rw [htrace]
    unfold removedOf at hmem ⊢
    rw [List.filterMap_append]
    exact List.mem_append_left _ hmem
  exact absurd (hremoved sp hin sp List.mem_cons_self) (Nat.lt_irrefl sp)

/-- No record of the queue has been begun. -/
def Unbegun (s : ControlManager) : Prop :=
  ∀ r ∈ s.orderedEventQueue, (s.records r).nextReceiver = 0 ∧ (s.records r).curReceiver = none

theorem progress_checkTimeoutForceReceive {sp : ℕ} {forced : Bool}
    (h : (s.records sp).nextReceiver = 0) (hcur : (s.records sp).curReceiver = none)
    (hcheck : s.checkTimeoutForceReceive sp = (u, forced)) (r : ℕ) :
    (u.records r).progress = (s.records r).progress := by
  rcases s.checkTimeoutForceReceive_cases sp with ⟨-, heq⟩ | ⟨-, heq⟩
  · rw [heq] at hcheck
    cases hcheck
    exact progress_handleTimeoutReceiver h hcur r
  · rw [heq] at hcheck
    cases hcheck
    rfl

/-- A pass of the loop over records that have not been begun. -/
theorem unbegun_pass {removed : List ℕ} (h : s.Unbegun) :
    (∀ loop', processOrderedEventQueuePass (s, removed) = .inl loop' →
      loop'.1.Unbegun ∧ ∀ r, (loop'.1.records r).progress = (s.records r).progress)
    ∧ ∀ result, processOrderedEventQueuePass (s, removed) = .inr result →
      ∀ r, (result.1.records r).progress = (s.records r).progress := by
  rcases processOrderedEventQueuePass_cases (s := s) removed with ⟨-, heq⟩ |
    ⟨sp, rest, u, forced, hq, hcheck, hcases⟩
  · rw [heq]
    refine ⟨nofun, fun result hresult r => ?_⟩
    cases hresult
    rfl
  · have hfront := h sp (by rw [hq]; exact List.mem_cons_self)
    have hprogress := progress_checkTimeoutForceReceive hfront.1 hfront.2 hcheck
    rcases hcases with ⟨-, heq⟩ | ⟨-, -, heq⟩ | ⟨-, -, -, -, heq⟩
    · rw [heq]
      refine ⟨nofun, fun result hresult r => ?_⟩
      cases hresult
      exact hprogress r
    · rw [heq]
      obtain ⟨pending, timers, hcancel⟩ := u.cancelTimeout_eq
      refine ⟨fun loop' hloop' => ?_, nofun⟩
      cases hloop'
      rw [hcancel]
      refine ⟨fun r hr => ?_, hprogress⟩
      have hunbegun := h r (by rw [hq]; exact List.mem_cons_of_mem _ hr)
      have hnext : (u.records r).nextReceiver = (s.records r).nextReceiver :=
        congrArg Prod.fst (hprogress r)
      have hcur : (u.records r).curReceiver = (s.records r).curReceiver :=
        congrArg (fun progress => progress.2.1) (hprogress r)
      show (u.records r).nextReceiver = 0 ∧ (u.records r).curReceiver = none
      rw [hnext, hcur]
      exact hunbegun
    · rw [heq]
      refine ⟨nofun, fun result hresult r => ?_⟩
      cases hresult
      exact hprogress r

/-- **The loop over records that have not been begun** writes nothing down. -/
theorem unbegun_loop {n : ℕ} {removed : List ℕ} (h : s.Unbegun) {result}
    (hrun : doWhile processOrderedEventQueuePass n (s, removed) = some result) (r : ℕ) :
    (result.1.records r).progress = (s.records r).progress := by
  refine DoWhile.doWhile_rule (f := processOrderedEventQueuePass) (s := (s, removed))
    (fun loop => loop.1.Unbegun ∧ (loop.1.records r).progress = (s.records r).progress)
    (fun result => (result.1.records r).progress = (s.records r).progress) ?_ ?_ ⟨h, rfl⟩ hrun
  · rintro ⟨s', removed'⟩ loop' ⟨h', heq⟩ hpass
    obtain ⟨hunbegun, hprogress⟩ := (unbegun_pass h').1 loop' hpass
    exact ⟨hunbegun, (hprogress r).trans heq⟩
  · rintro ⟨s', removed'⟩ result' ⟨h', heq⟩ hpass
    exact ((unbegun_pass h').2 result' hpass r).trans heq

theorem forcedReport_of_unbegun (h : s.Unbegun) : s.forcedReport = [] := by
  unfold forcedReport
  split
  next sp hfront =>
    have hunbegun := h sp (List.mem_of_mem_head? hfront)
    unfold timeoutReport
    rw [hunbegun.1, if_neg (Nat.lt_irrefl 0), ite_self]
  next => rfl

/-- ... and reports nothing. -/
theorem unbegun_passes {n : ℕ} {removed : List ℕ} (h : s.Unbegun) :
    (DoWhile.passes processOrderedEventQueuePass n (s, removed)).flatMap
      (fun loop => loop.1.forcedReport) = [] := by
  have hall : ∀ loop ∈ DoWhile.passes processOrderedEventQueuePass n (s, removed),
      loop.1.Unbegun := by
    refine DoWhile.passes_rule (fun loop : ControlManager × List ℕ => loop.1.Unbegun) ?_ h
    rintro ⟨s', removed'⟩ loop' h' hpass
    exact ((unbegun_pass h').1 loop' hpass).1
  exact List.flatMap_eq_nil_iff.mpr fun loop hloop => forcedReport_of_unbegun (hall loop hloop)

/-- **Only the front record can be given up on** in the section under the queue's
lock. -/
theorem section_front (hd : s.Dispatch th) (ha : s.Activity th) {removed : List ℕ}
    {sp : Option ℕ} (hrun : s.processOrderedEventQueueLocked = some (u, removed, sp)) :
    (DoWhile.passes processOrderedEventQueuePass (s.orderedEventQueue.length + 1)
      (s, [])).flatMap (fun loop => loop.1.forcedReport) = s.forcedReport
    ∧ (s.front = none ∧ u.records = s.records
      ∨ ∃ first v forced, s.front = some first ∧ s.checkTimeoutForceReceive first = (v, forced)
        ∧ ∀ r, (u.records r).progress = (v.records r).progress) := by
  unfold processOrderedEventQueueLocked at hrun
  rw [doWhile] at hrun
  rw [DoWhile.passes, List.flatMap_cons]
  rcases processOrderedEventQueuePass_cases (s := s) [] with ⟨hq, heq⟩ |
    ⟨first, rest, v, forced, hq, hcheck, hcases⟩
  · rw [heq] at hrun ⊢
    cases hrun
    refine ⟨List.append_nil _, .inl ⟨?_, rfl⟩⟩
    rw [front, hq]
    rfl
  · have hfront : s.front = some first := by
      rw [front, hq]
      rfl
    rcases hcases with ⟨-, heq⟩ | ⟨-, -, heq⟩ | ⟨-, -, -, -, heq⟩
    · rw [heq] at hrun ⊢
      cases hrun
      exact ⟨List.append_nil _, .inr ⟨first, _, forced, hfront, hcheck, fun _ => rfl⟩⟩
    · rw [heq] at hrun ⊢
      -- the front record goes, and those behind it have not been begun
      obtain ⟨pending, timers, hcancel⟩ := v.cancelTimeout_eq
      have hunbegun : Unbegun { v.cancelTimeout with
          orderedEventQueue := rest
          trace := v.trace ++ [.removed first] } := by
        intro r hr
        have hzero := nextReceiver_of_mem_tail hd hq hr
        have hne : r ≠ first := by
          rintro rfl
          have hnodup := (List.nodup_append.mp hd.nodup).2.1
          rw [hq] at hnodup
          exact (List.nodup_cons.mp hnodup).1 hr
        rw [hcancel]
        show (v.records r).nextReceiver = 0 ∧ (v.records r).curReceiver = none
        rw [(checkTimeoutForceReceive_records hcheck).1 r hne]
        exact ⟨hzero, curReceiver_of_unbegun ha hzero⟩
      refine ⟨?_, .inr ⟨first, v, forced, hfront, hcheck, fun r => ?_⟩⟩
      · show s.forcedReport ++ (DoWhile.passes _ _ _).flatMap _ = _
        rw [unbegun_passes hunbegun, List.append_nil]
      · have hloop := unbegun_loop hunbegun hrun r
        rw [hcancel] at hloop
        exact hloop
    · rw [heq] at hrun ⊢
      cases hrun
      exact ⟨List.append_nil _, .inr ⟨first, _, forced, hfront, hcheck, fun _ => rfl⟩⟩

/-- The section under the queue's lock. -/
theorem effect_queueSection (hd : s.Dispatch s.thread) (ha : s.Activity s.thread)
    (hth : s.thread = .queueSection) {answer : Answer} {removed : List ℕ} {sp : Option ℕ}
    (hrun : s.processOrderedEventQueueLocked = some (u, removed, sp)) :
    Effect s { u with thread := .finals removed sp } history (.thread answer) := by
  obtain ⟨hreport, hsection⟩ := section_front hd ha hrun
  have hevents : s.deliveryEvents (.thread answer) = s.forcedReport := by
    show s.threadEvents answer s.thread = _
    rw [hth]
    exact hreport
  have hway : s.thread.onTheWay = none := by
    rw [hth]
    rfl
  have hcalling : s.thread.calling = none := by
    rw [hth]
    rfl
  unfold forcedReport at hevents
  rcases hsection with ⟨hfront, hrecords⟩ | ⟨first, v, forced, hfront, hcheck, hprogress⟩
  · rw [hfront] at hevents
    refine .quiet hevents (Quiet.of_progress (fun r => ?_) hway.symm hcalling.symm) ?_
    · show (u.records r).progress = _
      rw [hrecords]
    · show s.ThreadTold history answer s.thread
      rw [hth]
      unfold ThreadTold
      rw [hfront]
      exact nofun
  · have hok : s.LedgerOk history (.thread answer) ↔
        (s.isOverdue first = true → s.MayTimeOut history first) := by
      show s.ThreadTold history answer s.thread ↔ _
      rw [hth]
      unfold ThreadTold
      rw [hfront]
      exact ⟨fun h => h first rfl, fun h sp hsp => by cases hsp; exact h⟩
    rw [hfront] at hevents
    dsimp only at hevents
    rcases s.checkTimeoutForceReceive_cases first with ⟨hdue, heq⟩ | ⟨hdue, heq⟩
    · rw [heq] at hcheck
      cases hcheck
      rw [hdue, if_pos rfl] at hevents
      rw [hdue, imp_iff_right rfl] at hok
      exact effect_handleTimeoutReceiver hd ha hevents hok hprogress hway hcalling rfl rfl
    · rw [heq] at hcheck
      cases hcheck
      rw [hdue, if_neg Bool.false_ne_true] at hevents
      refine .quiet hevents (Quiet.of_progress hprogress hway.symm hcalling.symm) (hok.mpr ?_)
      rw [hdue]
      exact nofun

/-! ### The serial queue -/

theorem stage_finalTest (hnext : (s.records r).nextReceiver = i + 1) :
    s.stage (.finalTest r) r i = if (s.records r).curReceiver ≠ none then .active else .ended :=
  stage_last hnext nofun nofun

/-- `NotifyFrozenSubscriber`. -/
theorem movesOne_notifyFrozenSubscriber (hd : s.Dispatch (.frozen r i)) :
    MovesOne s (s.notifyFrozenSubscriber r i) (.frozen r i) (.finalTest r) r i .frozen := by
  obtain ⟨-, hnext⟩ := hd.threadOk
  have hself : (s.notifyFrozenSubscriber r i).records r
      = { s.records r with
          deliveryState := (s.records r).deliveryState.set i .SKIPPED
          curReceiver := none } := Function.update_self _ _ _
  refine MovesOne.of_set rfl hnext hnext rfl (index_lt hd hnext)
    ⟨fun q hq => (Option.some.inj hq).symm, nofun⟩ (onlyAt_of_none rfl rfl) fun events => ?_
  rw [stage_onTheWay rfl, stage_finalTest (by rw [hself]; exact hnext), hself,
    if_neg (not_not_intro rfl)]
  exact .frozen _ events

/-- **`PrepareOrderedNotify`** writes before it looks at the proxy. -/
theorem movesOne_prepareOrderedNotify (hd : s.Dispatch (.prepareNotify r i)) (hasProxy : Bool) :
    MovesOne s (s.prepareOrderedNotify r i hasProxy) (.prepareNotify r i)
      (if hasProxy then .call r i else .finalTest r) r i
      (if hasProxy then .notified else .invalidProxy) := by
  obtain ⟨-, hnext⟩ := hd.threadOk
  have hlt := index_lt hd hnext
  have honly : (OrderedThread.prepareNotify r i).OnlyAt (r, i) :=
    ⟨fun q hq => (Option.some.inj hq).symm, nofun⟩
  have hself : (s.prepareOrderedNotify r i hasProxy).records r = _ := Function.update_self _ _ _
  cases hasProxy with
  | true =>
    refine MovesOne.of_set rfl hnext hnext rfl hlt honly
      ⟨nofun, fun q hq => (Option.some.inj hq).symm⟩ fun events => ?_
    have hisSome : ((s.records r).receivers[i]?.map (·.commonEventListener)).isSome = true := by
      rw [Option.isSome_map, isSome_getElem?, ← hd.length_deliveryState]
      exact hlt
    have hway : (OrderedThread.call r i).onTheWay ≠ some (r, i) := nofun
    have hcall : (s.prepareOrderedNotify r i true).stage (.call r i) r i = .inCall true := by
      rw [stage_calling (by rw [hself]; exact hnext) hway rfl, hself]
      exact congrArg Stage.inCall hisSome
    rw [stage_onTheWay rfl]
    show Moves _ _ _ ⟨(s.prepareOrderedNotify r i true).stage (.call r i) r i, _, _⟩
    rw [hcall]
    exact .notified _ events
  | false =>
    refine MovesOne.of_set rfl hnext hnext rfl hlt honly (onlyAt_of_none rfl rfl)
      fun events => ?_
    have hover : (s.prepareOrderedNotify r i false).stage (.finalTest r) r i = .ended := by
      rw [stage_finalTest (by rw [hself]; exact hnext), hself]
      rfl
    rw [stage_onTheWay rfl]
    show Moves _ _ _ ⟨(s.prepareOrderedNotify r i false).stage (.finalTest r) r i, _, _⟩
    rw [hover]
    exact .invalidProxy _ events

/-- `HandleOrderedNotifyResult`, which leaves the ledger as it is. -/
theorem movesOne_handleOrderedNotifyResult {isOk : Bool}
    (hd : s.Dispatch (.handleResult r i isOk)) :
    MovesOne s (s.handleOrderedNotifyResult r isOk) (.handleResult r i isOk) (.finalTest r) r i
      (if isOk then .accepted else .failed) := by
  obtain ⟨-, hnext⟩ := hd.threadOk
  have honly : (OrderedThread.handleResult r i isOk).OnlyAt (r, i) :=
    ⟨nofun, fun q hq => (Option.some.inj hq).symm⟩
  have hbefore : s.stage (.handleResult r i isOk) r i = .inCall (s.records r).curReceiver.isSome :=
    stage_calling hnext nofun rfl
  have hself : (s.handleOrderedNotifyResult r isOk).records r = _ := Function.update_self _ _ _
  cases isOk with
  | true =>
    refine MovesOne.of_update rfl hnext hnext (fun _ _ => rfl) honly (onlyAt_of_none rfl rfl)
      fun events => ?_
    rw [hbefore, stage_finalTest (by rw [hself]; exact hnext), hself]
    show Moves _ _ _ ⟨if (s.records r).curReceiver ≠ none then .active else .ended,
      (s.records r).stateAt i, _⟩
    cases hcur : (s.records r).curReceiver with
    | none => exact .accepted false _ events
    | some listener => exact .accepted true _ events
  | false =>
    refine MovesOne.of_update rfl hnext hnext (fun _ _ => rfl) honly (onlyAt_of_none rfl rfl)
      fun events => ?_
    rw [hbefore, stage_finalTest (by rw [hself]; exact hnext), hself]
    exact .failed _ _ events

/-- A step of the serial queue that moves no delivery. -/
theorem effect_quiet {l : ControlLabel} (hevents : s.deliveryEvents l = [])
    (hok : s.LedgerOk history l) (hrec : ∀ r, (t.records r).progress = (s.records r).progress)
    (hway : t.thread.onTheWay = s.thread.onTheWay)
    (hcalling : t.thread.calling = s.thread.calling) : Effect s t history l :=
  .quiet hevents (Quiet.of_progress hrec hway hcalling) hok

/-- A write to a field that no delivery goes by. -/
theorem progress_modify (sp : ℕ) {f : OrderedEventRecord → OrderedEventRecord}
    (hf : ∀ record, (f record).progress = record.progress) (r : ℕ) :
    ((s.modify sp f).records r).progress = (s.records r).progress := by
  rw [modify_records]
  split
  next hr => rw [hr, hf]
  next => rfl

/-- `HandleFinalSubscriber` writes to nothing a delivery goes by. -/
theorem progress_handleFinalSubscriber (sp : ℕ) (hasProxy : Bool) (r : ℕ) :
    ((s.handleFinalSubscriber sp hasProxy).records r).progress = (s.records r).progress := by
  unfold handleFinalSubscriber
  dsimp only
  split
  next => rfl
  next =>
    rw [progress_modify]
    exact fun _ => rfl

/-- **A step of the serial queue moves at most one delivery.** -/
theorem effect_stepThread (hd : s.Dispatch s.thread) (ha : s.Activity s.thread) {answer : Answer}
    (hstep : s.stepThread answer = some t) : Effect s t history (.thread answer) := by
  have hquiet : s.threadEvents answer s.thread = [] → s.ThreadTold history answer s.thread →
      (∀ r, (t.records r).progress = (s.records r).progress) →
      t.thread.onTheWay = s.thread.onTheWay → t.thread.calling = s.thread.calling →
      Effect s t history (.thread answer) := effect_quiet (l := .thread answer)
  have hmoves : ∀ r i e, s.threadEvents answer s.thread = [(⟨.ordered, r, i⟩, e)] →
      MovesOne s t s.thread t.thread r i e →
      (s.ThreadTold history answer s.thread ↔
        Told .ordered
          ⟨(s.view s.thread r i).1, (s.view s.thread r i).2, history ⟨.ordered, r, i⟩⟩ e) →
      Effect s t history (.thread answer) := Effect.moves (l := .thread answer)
  have hset : ∀ r, (s.setTimeout.records r).progress = (s.records r).progress := fun r => by
    rw [setTimeout_records.1]
  have hcase := threadStep_of_stepThread hstep
  generalize hth : s.thread = th at hcase hquiet hmoves
  cases hcase with
  | queueSection u removed sp hrun => exact effect_queueSection hd ha hth hrun
  | finalSubscriber removed rest sp =>
    exact hquiet rfl trivial (progress_handleFinalSubscriber removed answer.hasProxy) rfl rfl
  | finalsEnd => exact hquiet rfl trivial (fun _ => rfl) rfl rfl
  | finalsNext sp => exact hquiet rfl trivial (fun _ => rfl) rfl rfl
  | prepareNext sp =>
    rw [hth] at hd ha
    refine .quiet ?_ ?_ ?_
    · show s.threadEvents answer s.thread = []
      rw [hth]
      rfl
    · rw [hth]
      exact quiet_prepareNextReceiverRecord hd ha
    · show s.ThreadTold history answer s.thread
      rw [hth]
      exact trivial
  | setTimeout sp recIdx => exact hquiet rfl trivial hset rfl rfl
  | notifyInvalid sp recIdx hindex =>
    -- the index is within the receivers
    rw [hth] at hd
    have hle := hd.nextReceiver_le sp
    obtain ⟨-, hnext⟩ := hd.threadOk
    omega
  | notifyFrozen sp recIdx hindex hfreeze => exact hquiet rfl trivial (fun _ => rfl) rfl rfl
  | notifyReceiver sp recIdx hindex hfreeze => exact hquiet rfl trivial (fun _ => rfl) rfl rfl
  | frozen sp recIdx =>
    rw [hth] at hd
    exact hmoves sp recIdx .frozen rfl
      ((movesOne_notifyFrozenSubscriber hd).congr fun _ _ => rfl) (iff_of_true trivial trivial)
  | prepareNotify sp recIdx hproxy =>
    rw [hth] at hd
    refine hmoves sp recIdx .notified ?_
      ((movesOne_prepareOrderedNotify hd true).congr fun _ _ => rfl) (iff_of_true hproxy trivial)
    show [(_, if answer.hasProxy = true then _ else _)] = _
    rw [if_pos hproxy]
  | invalidProxy sp recIdx hproxy =>
    rw [hth] at hd
    have hnot : ¬ answer.hasProxy = true := Bool.eq_false_iff.mp hproxy
    refine hmoves sp recIdx .invalidProxy ?_
      ((movesOne_prepareOrderedNotify hd false).congr fun _ _ => rfl) (iff_of_false hnot nofun)
    show [(_, if answer.hasProxy = true then _ else _)] = _
    rw [if_neg hnot]
  | call sp recIdx => exact hquiet rfl trivial (fun _ => rfl) rfl rfl
  | inCall sp recIdx => exact hquiet rfl trivial (fun _ => rfl) rfl rfl
  | handleResult sp recIdx isOk =>
    rw [hth] at hd
    refine hmoves sp recIdx _ rfl
      ((movesOne_handleOrderedNotifyResult hd).congr fun _ _ => rfl) ?_
    show isOk = true ↔ _
    cases isOk with
    | true => exact iff_of_true rfl trivial
    | false => exact iff_of_false nofun nofun
  | finalTestNone sp hcur => exact hquiet rfl trivial (fun _ => rfl) rfl rfl
  | finalTestSome sp hcur => exact hquiet rfl trivial (fun _ => rfl) rfl rfl
  | storeIdle sp =>
    refine hquiet rfl trivial (fun r => ?_) rfl rfl
    show ((s.modify sp (fun record => { record with state := .IDLE })).records r).progress = _
    rw [progress_modify]
    exact fun _ => rfl
  | reschedule =>
    refine hquiet rfl trivial (fun r => ?_) rfl rfl
    show (s.scheduleOrderedCommonEvent.records r).progress = _
    rw [scheduleOrderedCommonEvent_records.1]
  | timeoutEmpty hfront => exact hquiet rfl trivial (fun _ => rfl) rfl rfl
  | timeoutFront sp hfront => exact hquiet rfl trivial (fun _ => rfl) rfl rfl
  | timeoutEarly sp hearly => exact hquiet rfl trivial hset rfl rfl
  | timeoutDue sp hdue => exact hquiet rfl trivial (fun _ => rfl) rfl rfl
  | timeoutHandle sp nowSysTime =>
    refine effect_handleTimeoutReceiver hd ha ?_ ?_ (fun _ => rfl) ?_ ?_ rfl rfl
    · show s.threadEvents answer s.thread = _
      rw [hth]
      rfl
    · show s.ThreadTold history answer s.thread ↔ _
      rw [hth]
      exact Iff.rfl
    · rw [hth]
      rfl
    · rw [hth]
      rfl

/-- **What a step of the pipeline does to the deliveries.** -/
theorem ledger_step {l : ControlLabel} (hd : s.Dispatch s.thread) (ha : s.Activity s.thread)
    (hm : s.Matched) (hstep : s.step P S l = some t) : Effect s t history l := by
  cases l with
  | tick duration =>
    cases hstep
    exact effect_quiet rfl trivial (fun _ => rfl) rfl rfl
  | makeCells data info =>
    cases hstep
    exact effect_quiet rfl trivial (fun _ => rfl) rfl rfl
  | setUnordered cell =>
    cases hstep
    exact effect_quiet rfl trivial (fun _ => rfl) rfl rfl
  | publish request =>
    cases hstep
    exact .quiet rfl (quiet_processOrderedEvent hd request) trivial
  | finishReceiver reply =>
    cases hstep
    unfold ControlManager.finishReceiver
    split <;> exact effect_quiet rfl trivial (fun _ => rfl) rfl rfl
  | unsubscribeCommonEvent listener =>
    cases hstep
    unfold ControlManager.unsubscribeCommonEvent
    split
    · exact effect_quiet rfl trivial (fun _ => rfl) rfl rfl
    · split <;> exact effect_quiet rfl trivial (fun _ => rfl) rfl rfl
  | op n =>
    obtain ⟨op, hn, rfl⟩ := Option.map_eq_some_iff.mp hstep
    have hevents : s.deliveryEvents (.op n) = match some op with
        | some (.finishUpdate call _) => s.finishEvents call
        | _ => [] := by
      rw [← hn]
      rfl
    cases op with
    | schedule =>
      refine effect_quiet hevents trivial (fun r => ?_) ?_ ?_
      · show ({ s with ops := s.ops.eraseIdx n }.scheduleOrderedCommonEvent.records r).progress = _
        rw [scheduleOrderedCommonEvent_records.1]
      · rw [stepOp_thread]
      · rw [stepOp_thread]
    | readResult sp receiver => exact effect_quiet hevents trivial (fun _ => rfl) rfl rfl
    | finishLoad call => exact effect_quiet hevents trivial (fun _ => rfl) rfl rfl
    | finishUpdate call state => exact effect_finishUpdate hd ha hm hn
  | processNextOrderedEvent =>
    unfold ControlManager.step at hstep
    dsimp only at hstep
    split at hstep
    next isSendMsg rest hth hq =>
      cases hstep
      refine effect_quiet rfl trivial (fun _ => rfl) ?_ ?_ <;> rw [hth] <;> rfl
    next => cases hstep
  | timeout handler =>
    unfold ControlManager.step at hstep
    dsimp only at hstep
    split at hstep
    next hc =>
      cases hstep
      refine effect_quiet rfl trivial (fun _ => rfl) ?_ ?_ <;> rw [hc.1] <;> rfl
    next => cases hstep
  | thread answer => exact effect_stepThread hd ha hstep

/-! ### What the calls in progress were matched for -/

/-- **The calls in progress after a step** were in progress before it, or have
been matched now, for the receiver that is at work. -/
theorem matched_of_step {l : ControlLabel} (hstep : s.step P S l = some t) {op : ServiceOp}
    (hop : op ∈ t.ops) (hmatched : op.matched? = some (r, i)) :
    (∃ op' ∈ s.ops, op'.matched? = some (r, i)) ∨ (s.records r).currentIndex = some i := by
  have hnew : ∀ sp, Option.map (fun i => (sp, i)) (s.records sp).currentIndex = some (r, i) →
      (s.records r).currentIndex = some i := by
    intro sp hsome
    obtain ⟨j, hj, heq⟩ := Option.map_eq_some_iff.mp hsome
    obtain ⟨rfl, rfl⟩ := Prod.mk.inj heq
    exact hj
  rcases ops_step hstep with hops | ⟨request, -, hops⟩ | ⟨reply, sp, -, -, hops⟩ |
    ⟨listener, sp, -, -, hops⟩ | ⟨j, op', -, hj, -, hops | ⟨op'', hops, -, hsame, -⟩⟩
  all_goals rw [hops] at hop
  · exact .inl ⟨op, hop, hmatched⟩
  · rcases List.mem_append.mp hop with hop | hop
    · exact .inl ⟨op, hop, hmatched⟩
    · obtain rfl := List.mem_singleton.mp hop
      cases hmatched
  · rcases List.mem_append.mp hop with hop | hop
    · exact .inl ⟨op, hop, hmatched⟩
    · obtain rfl := List.mem_singleton.mp hop
      exact .inr (hnew sp hmatched)
  · rcases List.mem_append.mp hop with hop | hop
    · exact .inl ⟨op, hop, hmatched⟩
    · obtain rfl := List.mem_singleton.mp hop
      exact .inr (hnew sp hmatched)
  · exact .inl ⟨op, List.mem_of_mem_eraseIdx hop, hmatched⟩
  · rcases List.mem_or_eq_of_mem_set hop with hop | rfl
    · exact .inl ⟨op, hop, hmatched⟩
    · exact .inl ⟨op', List.mem_of_getElem? hj, hsame.symm.trans hmatched⟩

/-- Whoever is at work has been handed the event. -/
theorem stage_of_currentIndex (ha : s.Activity s.thread)
    (h : (s.records r).currentIndex = some i) : s.stage s.thread r i ≠ .ahead := by
  obtain ⟨listener, hcur, heq⟩ := Option.map_eq_some_iff.mp h
  obtain ⟨-, -, j, -, hnext, -, -⟩ := ha.active r listener hcur
  have hlast : (s.records r).nextReceiver = i + 1 := by
    rw [← heq, hnext, Nat.add_sub_cancel]
  have hway : s.thread.onTheWay ≠ some (r, i) := fun hway => by
    have hnone := ha.quiet _ (quiet_of_onTheWay hway)
    rw [hcur] at hnone
    cases hnone
  by_cases hcalling : s.thread.calling = some (r, i)
  · rw [stage_calling hlast hway hcalling]
    exact nofun
  · rw [stage_last hlast hway hcalling, hcur, if_pos nofun]
    exact nofun

theorem matched_step {l : ControlLabel} (hd : s.Dispatch s.thread) (ha : s.Activity s.thread)
    (hm : s.Matched) (hstep : s.step P S l = some t) : t.Matched := by
  intro op hop r i hmatched
  have heffect : Effect s t (fun _ => []) l := ledger_step hd ha hm hstep
  rcases matched_of_step hstep hop hmatched with ⟨op', hop', hmatched'⟩ | hcur
  · exact heffect.stage_ne_ahead (hm op' hop' r i hmatched')
  · exact heffect.stage_ne_ahead (stage_of_currentIndex ha hcur)

theorem matched_reachable (hs : (orderedMachine P S).Reachable s) : s.Matched :=
  (Machine.invariant (M := orderedMachine P S)
    (I := fun s => (orderedMachine P S).Reachable s ∧ s.Matched)
    ⟨.init, fun _ hop => absurd hop List.not_mem_nil⟩
    (fun _ _ _ h hstep => ⟨h.1.step hstep, matched_step (dispatch_reachable h.1)
      (activity_reachable h.1) h.2 hstep⟩) hs).2

end ControlManager

end CommonEventService

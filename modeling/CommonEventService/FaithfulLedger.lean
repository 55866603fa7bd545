import CommonEventService.OrderedLedger
import CommonEventService.UnorderedDelivery

/-!
# The ledger over whole runs

Ordered and unordered deliveries side by side, with the history of each
delivery. The ordered ones are those of the pipeline; an unordered record has
a task of its own, which hands it over to one receiver after another.

A step moves at most one delivery, or finishes one and cuts off another, and
moves each as `Moves` allows. So the ledger is faithful throughout a run exactly
where no step of it makes a move that is not told.
-/

namespace CommonEventService

/-! ## Unordered records -/

namespace OrderedEventRecord

/-- `ProcessUnorderedEvent`, up to the task. -/
def processUnorderedEvent (eventRecord : CommonEventRecord CellId CellId)
    (receivers : List Receiver) : OrderedEventRecord :=
  { eventRecord.fillCommonEventRecord with
    receivers := receivers
    deliveryState := receivers.map (fun _ => .PENDING) }

variable (record : OrderedEventRecord)

/-- `HandleFrozenUnorderedSubscriber`, as far as the record goes. -/
def handleFrozenUnorderedSubscriber (index : ℕ) : OrderedEventRecord :=
  { record with deliveryState := record.deliveryState.set index .SKIPPED }

/-- `NotifySingleUnorderedSubscriber`, up to the call of `NotifyEvent`, if
there is one. -/
def notifySingleUnorderedSubscriber (index : ℕ) (answer : Answer) :
    OrderedEventRecord × DeliveryEvent :=
  if answer.isFreeze then (record.handleFrozenUnorderedSubscriber index, .frozen)
  else if !answer.hasProxy then
    ({ record with deliveryState := record.deliveryState.set index .SKIPPED }, .invalidProxy)
  else
    ({ record with
      deliveryState := record.deliveryState.set index .DELIVERED
      state := .RECEIVING }, .notified)

/-- `NotifySingleUnorderedSubscriber`, from the return of `NotifyEvent` on. -/
def handleUnorderedNotifyResult (isOk : Bool) : OrderedEventRecord × DeliveryEvent :=
  if isOk then ({ record with state := .RECEIVED }, .accepted)
  else ({ record with state := .SKIPPED }, .failed)

/-- **What the task does with its next receiver.** -/
theorem notifySingleUnorderedSubscriber_cases (index : ℕ) (answer : Answer) :
    ∃ record' e state, record.notifySingleUnorderedSubscriber index answer = (record', e)
      ∧ record'.nextReceiver = record.nextReceiver ∧ record'.receivers = record.receivers
      ∧ record'.deliveryState = record.deliveryState.set index state
      ∧ (e = .frozen ∧ state = .SKIPPED ∨ e = .invalidProxy ∧ state = .SKIPPED
        ∨ e = .notified ∧ state = .DELIVERED) := by
  unfold notifySingleUnorderedSubscriber
  split
  next => exact ⟨_, _, .SKIPPED, rfl, rfl, rfl, rfl, .inl ⟨rfl, rfl⟩⟩
  next =>
    split
    next => exact ⟨_, _, .SKIPPED, rfl, rfl, rfl, rfl, .inr (.inl ⟨rfl, rfl⟩)⟩
    next => exact ⟨_, _, .DELIVERED, rfl, rfl, rfl, rfl, .inr (.inr ⟨rfl, rfl⟩)⟩

end OrderedEventRecord

/-! ## Both kinds of records -/

/-- **The ledgers of all records**, and the history of each delivery. -/
structure DeliveryLedger where
  control : ControlManager := {}
  unorderedRecords : ℕ → OrderedEventRecord := fun _ => default
  /-- The receiver whose `NotifyEvent` the task of an unordered record is in. -/
  notifying : ℕ → Option ℕ := fun _ => none
  nextUnordered : ℕ := 0
  history : Delivery → List DeliveryEvent := fun _ => []

/-- The labels: those of the pipeline, an unordered publish, and the next step
of the task of an unordered record. -/
inductive LedgerLabel where
  | ordered (l : ControlLabel)
  | processUnorderedEvent (eventRecord : CommonEventRecord CellId CellId)
      (receivers : List Receiver)
  | notifyUnorderedEvent (record : ℕ) (answer : Answer)

namespace DeliveryLedger

variable (P : Platform) (S : StdSort) (s : DeliveryLedger)

/-- One more event of a delivery. -/
def log (history : Delivery → List DeliveryEvent) (entry : Delivery × DeliveryEvent) :
    Delivery → List DeliveryEvent :=
  Function.update history entry.1 (history entry.1 ++ [entry.2])

/-- The next step of the task of an unordered record: `NotifyUnorderedEventLocked`
takes its next receiver, or a call of `NotifyEvent` returns. -/
def notifyUnorderedEvent (r : ℕ) (answer : Answer) : Option DeliveryLedger :=
  match s.notifying r with
  | some index =>
    let (record, e) := (s.unorderedRecords r).handleUnorderedNotifyResult answer.isOk
    some { s with
      unorderedRecords := Function.update s.unorderedRecords r record
      notifying := Function.update s.notifying r none
      history := log s.history (⟨.unordered, r, index⟩, e) }
  | none =>
    let record := s.unorderedRecords r
    let index := record.nextReceiver
    if index < record.receivers.length then
      let (record, e) :=
        { record with nextReceiver := index + 1 }.notifySingleUnorderedSubscriber index answer
      some { s with
        unorderedRecords := Function.update s.unorderedRecords r record
        notifying := Function.update s.notifying r (if e = .notified then some index else none)
        history := log s.history (⟨.unordered, r, index⟩, e) }
    else none

/-- **One step.** -/
def step : LedgerLabel → Option DeliveryLedger
  | .ordered l =>
    (s.control.step P S l).map (fun control =>
      { s with
        control := control
        history := (s.control.deliveryEvents l).foldl log s.history })
  | .processUnorderedEvent eventRecord receivers =>
    some { s with
      unorderedRecords := Function.update s.unorderedRecords s.nextUnordered
        (.processUnorderedEvent eventRecord receivers)
      nextUnordered := s.nextUnordered + 1 }
  | .notifyUnorderedEvent r answer => s.notifyUnorderedEvent r answer

/-- The record of a delivery. -/
def recordOf (d : Delivery) : OrderedEventRecord :=
  match d.kind with
  | .ordered => s.control.records d.record
  | .unordered => s.unorderedRecords d.record

/-- **The ledger is faithful**: the delivery state of every receiver of every
record tells the history of its delivery. -/
def IsFaithful : Prop :=
  ∀ d : Delivery, d.index < (s.recordOf d).receivers.length →
    ∃ state, (s.recordOf d).deliveryState[d.index]? = some state ∧ Faithful state (s.history d)

/-- **The steps whose deliveries are told.** -/
def LedgerOk : LedgerLabel → Prop
  | .ordered l => s.control.LedgerOk s.history l
  | .processUnorderedEvent _ _ => True
  | .notifyUnorderedEvent r answer => s.notifying r ≠ none → answer.isOk = true

instance LedgerOk.decidable : ∀ l : LedgerLabel, Decidable (s.LedgerOk l)
  | .ordered l => inferInstanceAs (Decidable (s.control.LedgerOk s.history l))
  | .processUnorderedEvent _ _ => .isTrue trivial
  | .notifyUnorderedEvent r answer => inferInstanceAs
      (Decidable (s.notifying r ≠ none → answer.isOk = true))

end DeliveryLedger

/-- **The deliveries as a machine.** -/
def ledgerMachine (P : Platform) (S : StdSort) : Machine DeliveryLedger LedgerLabel where
  init := {}
  step := DeliveryLedger.step P S

namespace DeliveryLedger

variable {P : Platform} {S : StdSort} {s t : DeliveryLedger} {l : LedgerLabel} {d : Delivery}

/-! ## Where the deliveries stand -/

/-- Where a delivery of an unordered record stands, while the task of the record
is in the call of `next`. -/
def unorderedStage (record : OrderedEventRecord) (next : Option ℕ) (i : ℕ) : Stage :=
  if record.nextReceiver ≤ i then .ahead
  else if next = some i then .inCall true
  else .closed

/-- Where a delivery stands. -/
def stage (s : DeliveryLedger) (d : Delivery) : Stage :=
  match d.kind with
  | .ordered => s.control.stage s.control.thread d.record d.index
  | .unordered => unorderedStage (s.unorderedRecords d.record) (s.notifying d.record) d.index

/-- A delivery: where it stands, what is written down, and its history. -/
def standing (s : DeliveryLedger) (d : Delivery) : Standing :=
  ⟨s.stage d, (s.recordOf d).stateAt d.index, s.history d⟩

/-- **What a step does**: it moves no delivery and is told; or it moves one and
is told where the move is; or it finishes one, cuts off another, and is told. -/
inductive Effect (s t : DeliveryLedger) (l : LedgerLabel) : Prop
  | quiet (hquiet : ∀ d, t.standing d = s.standing d ∨ (s.standing d).stage = .ahead
      ∧ t.standing d = ⟨.ahead, .PENDING, (s.standing d).events⟩) (hok : s.LedgerOk l)
  | moves (d : Delivery) (e : DeliveryEvent)
      (hmove : Moves d.kind (s.standing d) e (t.standing d))
      (hother : ∀ d' ≠ d, t.standing d' = s.standing d')
      (hok : s.LedgerOk l ↔ Told d.kind (s.standing d) e)
  | replaces (d d' : Delivery)
      (hmove : Moves d.kind (s.standing d) .finished (t.standing d))
      (hmove' : Moves d'.kind (s.standing d') .cutOff (t.standing d'))
      (hother : ∀ d'' ≠ d, d'' ≠ d' → t.standing d'' = s.standing d'') (hok : s.LedgerOk l)

theorem standing_unordered (s : DeliveryLedger) (r i : ℕ) :
    s.standing ⟨.unordered, r, i⟩ = ⟨unorderedStage (s.unorderedRecords r) (s.notifying r) i,
      (s.unorderedRecords r).stateAt i, s.history ⟨.unordered, r, i⟩⟩ := rfl

theorem log_self (history : Delivery → List DeliveryEvent) (d : Delivery) (e : DeliveryEvent) :
    log history (d, e) d = history d ++ [e] := Function.update_self _ _ _

theorem log_of_ne {history : Delivery → List DeliveryEvent} {d d' : Delivery} {e : DeliveryEvent}
    (h : d' ≠ d) : log history (d, e) d' = history d' := Function.update_of_ne h _ _

theorem delivery_eq {r i : ℕ} (hkind : d.kind = .ordered) (h : (d.record, d.index) = (r, i)) :
    d = ⟨.ordered, r, i⟩ := by
  obtain ⟨kind, record, index⟩ := d
  obtain ⟨rfl, rfl⟩ := Prod.mk.inj h
  exact congrArg (fun kind => Delivery.mk kind record index) hkind

/-- A delivery that the pipeline leaves where it stands. -/
theorem standing_ordered_congr {control : ControlManager}
    {history : Delivery → List DeliveryEvent} {r i : ℕ}
    (hview : control.view control.thread r i = s.control.view s.control.thread r i)
    (hhistory : history ⟨.ordered, r, i⟩ = s.history ⟨.ordered, r, i⟩) :
    standing { s with control := control, history := history } ⟨.ordered, r, i⟩
      = s.standing ⟨.ordered, r, i⟩ := by
  obtain ⟨hstage, hstate⟩ := Prod.mk.inj hview
  show Standing.mk (control.stage control.thread r i) ((control.records r).stateAt i) (history _)
    = _
  rw [hstage, hstate, hhistory]
  rfl

/-- **A delivery that the pipeline does not move.** -/
theorem standing_of_not_moved {control : ControlManager}
    {history : Delivery → List DeliveryEvent} {d : Delivery}
    (hview : d.kind = .ordered → control.view control.thread d.record d.index
      = s.control.view s.control.thread d.record d.index)
    (hhistory : history d = s.history d) :
    standing { s with control := control, history := history } d = s.standing d := by
  obtain ⟨kind, record, index⟩ := d
  cases kind with
  | unordered => exact congrArg (Standing.mk _ _) hhistory
  | ordered => exact standing_ordered_congr (hview rfl) hhistory

/-- A step of the pipeline. -/
theorem Effect.ordered {l : ControlLabel} {control : ControlManager}
    (h : ControlManager.Effect s.control control s.history l) :
    Effect s { s with
      control := control
      history := (s.control.deliveryEvents l).foldl log s.history } (.ordered l) := by
  cases h with
  | quiet hevents hquiet hok =>
    rw [hevents]
    refine .quiet (fun d => ?_) hok
    obtain ⟨kind, record, index⟩ := d
    cases kind with
    | unordered => exact .inl rfl
    | ordered =>
      rcases hquiet record index with hview | ⟨hahead, hview⟩
      · exact .inl (standing_ordered_congr hview rfl)
      · refine .inr ⟨hahead, ?_⟩
        obtain ⟨hstage, hstate⟩ := Prod.mk.inj hview
        exact congrArg₂ (fun stage state => Standing.mk stage state (s.history _)) hstage hstate
  | moves r i e hevents hmoves hok =>
    rw [hevents]
    refine .moves ⟨.ordered, r, i⟩ e ?_ (fun d hd => ?_) hok
    · have hmove := hmoves.moves (s.history ⟨.ordered, r, i⟩)
      rw [← log_self] at hmove
      exact hmove
    · refine standing_of_not_moved (fun hkind => hmoves.other _ _ fun h => hd ?_) (log_of_ne hd)
      exact delivery_eq hkind h
  | replaces r i j hne hevents hover hmoves hok =>
    rw [hevents]
    have hij : (⟨.ordered, r, i⟩ : Delivery) ≠ ⟨.ordered, r, j⟩ := by simpa using hne
    have hpair : (r, i) ≠ (r, j) := by simpa using hne
    refine .replaces ⟨.ordered, r, i⟩ ⟨.ordered, r, j⟩ ?_ ?_ (fun d hd hd' => ?_) hok
    · -- the receiver that is finished was over, and stays where it stood
      have hlog : ([(⟨.ordered, r, i⟩, .finished), (⟨.ordered, r, j⟩, .cutOff)].foldl log s.history)
          ⟨.ordered, r, i⟩ = s.history ⟨.ordered, r, i⟩ ++ [.finished] :=
        (log_of_ne hij).trans (log_self _ _ _)
      obtain ⟨hstage, hstate⟩ := Prod.mk.inj (hmoves.other r i hpair)
      show Moves _ ⟨s.control.stage s.control.thread r i, (s.control.records r).stateAt i, _⟩ _
        ⟨control.stage control.thread r i, (control.records r).stateAt i, _⟩
      rw [hstage, hstate, hover]
      show Moves _ _ _ ⟨_, _, ([(⟨.ordered, r, i⟩, .finished),
        (⟨.ordered, r, j⟩, .cutOff)].foldl log s.history) ⟨.ordered, r, i⟩⟩
      rw [hlog]
      exact .finished .ended _ _ (.inr rfl)
    · have hmove := hmoves.moves (s.history ⟨.ordered, r, j⟩)
      have hlog : ([(⟨.ordered, r, i⟩, .finished), (⟨.ordered, r, j⟩, .cutOff)].foldl log s.history)
          ⟨.ordered, r, j⟩ = s.history ⟨.ordered, r, j⟩ ++ [.cutOff] := by
        refine (log_self _ _ _).trans ?_
        rw [log_of_ne hij.symm]
      rw [← hlog] at hmove
      exact hmove
    · refine standing_of_not_moved (fun hkind => hmoves.other _ _ fun h => hd' ?_)
        ((log_of_ne hd').trans (log_of_ne hd))
      exact delivery_eq hkind h

/-! ## Unordered deliveries -/

/-- What holds of the unordered records in every state. -/
structure UnorderedSound (s : DeliveryLedger) : Prop where
  length : ∀ r, (s.unorderedRecords r).deliveryState.length
    = (s.unorderedRecords r).receivers.length
  nextReceiver_le : ∀ r, (s.unorderedRecords r).nextReceiver
    ≤ (s.unorderedRecords r).receivers.length
  /-- The receiver being notified is the last one taken. -/
  notifying : ∀ r i, s.notifying r = some i → (s.unorderedRecords r).nextReceiver = i + 1
  fresh : ∀ r, s.nextUnordered ≤ r → (s.unorderedRecords r).receivers = []

theorem UnorderedSound.nextReceiver_of_fresh (h : s.UnorderedSound) {r : ℕ}
    (hr : s.nextUnordered ≤ r) : (s.unorderedRecords r).nextReceiver = 0 := by
  have hle := h.nextReceiver_le r
  rw [h.fresh r hr] at hle
  exact Nat.le_zero.mp hle

/-- An unordered publish. -/
theorem effect_processUnorderedEvent (h : s.UnorderedSound)
    (eventRecord : CommonEventRecord CellId CellId) (receivers : List Receiver) :
    Effect s { s with
      unorderedRecords := Function.update s.unorderedRecords s.nextUnordered
        (.processUnorderedEvent eventRecord receivers)
      nextUnordered := s.nextUnordered + 1 } (.processUnorderedEvent eventRecord receivers) := by
  refine .quiet (fun d => ?_) trivial
  obtain ⟨kind, record, index⟩ := d
  cases kind with
  | ordered => exact .inl rfl
  | unordered =>
    rw [standing_unordered, standing_unordered]
    dsimp only
    by_cases hr : record = s.nextUnordered
    · subst hr
      have hfresh : (s.unorderedRecords s.nextUnordered).nextReceiver ≤ index := by
        rw [h.nextReceiver_of_fresh (Nat.le_refl _)]
        exact Nat.zero_le index
      rw [Function.update_self, OrderedEventRecord.stateAt_pending rfl]
      refine .inr ⟨if_pos hfresh, ?_⟩
      have hahead : unorderedStage (.processUnorderedEvent eventRecord receivers)
          (s.notifying s.nextUnordered) index = .ahead := if_pos (Nat.zero_le index)
      rw [hahead]
    · rw [Function.update_of_ne hr]
      exact .inl rfl

/-- **The rule for a write to one delivery of an unordered record.** -/
theorem Effect.unordered {r i : ℕ} {record : OrderedEventRecord} {next : Option ℕ}
    {e : DeliveryEvent}
    (ht : t = { s with
      unorderedRecords := Function.update s.unorderedRecords r record
      notifying := Function.update s.notifying r next
      history := log s.history (⟨.unordered, r, i⟩, e) })
    (hnext : ∀ j ≠ i, record.nextReceiver ≤ j ↔ (s.unorderedRecords r).nextReceiver ≤ j)
    (hnotifying : ∀ j ≠ i, s.notifying r ≠ some j) (hnotifying' : ∀ j ≠ i, next ≠ some j)
    (hstate : ∀ j ≠ i, record.stateAt j = (s.unorderedRecords r).stateAt j)
    (hmove : ∀ events, Moves .unordered
      ⟨unorderedStage (s.unorderedRecords r) (s.notifying r) i,
        (s.unorderedRecords r).stateAt i, events⟩ e
      ⟨unorderedStage record next i, record.stateAt i, events ++ [e]⟩)
    (hok : s.LedgerOk l ↔
      Told .unordered (s.standing ⟨.unordered, r, i⟩) e) : Effect s t l := by
  subst ht
  refine .moves ⟨.unordered, r, i⟩ e ?_ (fun d hd => ?_) hok
  · have hm := hmove (s.history ⟨.unordered, r, i⟩)
    rw [← log_self] at hm
    rw [standing_unordered, standing_unordered]
    dsimp only
    rw [Function.update_self, Function.update_self]
    exact hm
  · obtain ⟨kind, record', index⟩ := d
    have hlog : log s.history (⟨.unordered, r, i⟩, e) ⟨kind, record', index⟩
        = s.history ⟨kind, record', index⟩ := log_of_ne hd
    cases kind with
    | ordered => exact congrArg (Standing.mk _ _) hlog
    | unordered =>
      rw [standing_unordered, standing_unordered]
      dsimp only
      rw [hlog]
      by_cases hr : record' = r
      · subst hr
        have hi : index ≠ i := fun h => hd (by rw [h])
        rw [Function.update_self, Function.update_self, hstate index hi]
        unfold unorderedStage
        simp only [hnext index hi, hnotifying index hi, hnotifying' index hi]
      · rw [Function.update_of_ne hr, Function.update_of_ne hr]

/-- The call in progress comes back: the delivery is accepted, or has failed. -/
theorem effect_handleUnorderedNotifyResult (h : s.UnorderedSound) {r index : ℕ} {answer : Answer}
    (hnotifying : s.notifying r = some index)
    (hstep : s.notifyUnorderedEvent r answer = some t) :
    Effect s t (.notifyUnorderedEvent r answer) := by
  have hok : s.LedgerOk (.notifyUnorderedEvent r answer)
      ↔ (s.notifying r ≠ none → answer.isOk = true) := Iff.rfl
  unfold notifyUnorderedEvent at hstep
  rw [hnotifying] at hstep hok
  have hnext := h.notifying r index hnotifying
  have hbefore : unorderedStage (s.unorderedRecords r) (some index) index = .inCall true := by
    unfold unorderedStage
    rw [if_neg (by omega), if_pos rfl]
  have hafter : ∀ state : EventState,
      unorderedStage { s.unorderedRecords r with state := state } none index = .closed := by
    intro state
    unfold unorderedStage
    rw [if_neg (by dsimp only; omega), if_neg nofun]
  have hother : ∀ j ≠ index, s.notifying r ≠ some j := by
    intro j hj hsome
    rw [hnotifying] at hsome
    exact hj (Option.some.inj hsome).symm
  unfold OrderedEventRecord.handleUnorderedNotifyResult at hstep
  cases hans : answer.isOk with
  | true =>
    rw [hans] at hstep hok
    cases hstep
    refine Effect.unordered rfl (fun _ _ => Iff.rfl) hother (fun _ _ => nofun)
      (fun _ _ => rfl) (fun events => ?_) (iff_of_true (hok.mpr fun _ => rfl) trivial)
    rw [hnotifying, hbefore, hafter]
    exact .accepted true _ events
  | false =>
    rw [hans] at hstep hok
    cases hstep
    refine Effect.unordered rfl (fun _ _ => Iff.rfl) hother (fun _ _ => nofun)
      (fun _ _ => rfl) (fun events => ?_)
      (iff_of_false (fun hc => Bool.false_ne_true (hok.mp hc nofun)) id)
    rw [hnotifying, hbefore, hafter]
    exact .failed true _ events

/-- The next receiver is taken: it is called, or is frozen, or has no proxy. -/
theorem effect_notifySingleUnorderedSubscriber (h : s.UnorderedSound) {r : ℕ} {answer : Answer}
    (hnotifying : s.notifying r = none)
    (hstep : s.notifyUnorderedEvent r answer = some t) :
    Effect s t (.notifyUnorderedEvent r answer) := by
  have hok : s.LedgerOk (.notifyUnorderedEvent r answer)
      ↔ (s.notifying r ≠ none → answer.isOk = true) := Iff.rfl
  unfold notifyUnorderedEvent at hstep
  rw [hnotifying] at hstep hok
  dsimp only at hstep
  split at hstep
  next hlt =>
    have htrue : s.LedgerOk (.notifyUnorderedEvent r answer) := hok.mpr fun h => absurd rfl h
    obtain ⟨record, e, state, heq, hnext, -, hset, hcases⟩ :=
      OrderedEventRecord.notifySingleUnorderedSubscriber_cases
        { s.unorderedRecords r with nextReceiver := (s.unorderedRecords r).nextReceiver + 1 }
        (s.unorderedRecords r).nextReceiver answer
    rw [heq] at hstep
    dsimp only at hstep hnext hset
    cases hstep
    have hlen : (s.unorderedRecords r).nextReceiver
        < (s.unorderedRecords r).deliveryState.length := by
      rw [h.length]
      exact hlt
    have hbefore : unorderedStage (s.unorderedRecords r) (s.notifying r)
        (s.unorderedRecords r).nextReceiver = .ahead := if_pos (Nat.le_refl _)
    have hafter : ¬ record.nextReceiver ≤ (s.unorderedRecords r).nextReceiver := by omega
    have hstate := OrderedEventRecord.stateAt_of_eq_set hset
    have hself : record.stateAt (s.unorderedRecords r).nextReceiver = state := by
      rw [hstate, if_pos ⟨rfl, hlen⟩]
    refine Effect.unordered rfl (fun j hj => by omega) (fun j _ => ?_) (fun j hj => ?_)
      (fun j hj => ?_) (fun events => ?_) (iff_of_true htrue ?_)
    · rw [hnotifying]
      exact nofun
    · split
      · exact fun hsome => hj (Option.some.inj hsome).symm
      · exact nofun
    · rw [hstate, if_neg fun h => hj h.1.symm]
    · rw [hbefore, hself]
      unfold unorderedStage
      rw [if_neg hafter]
      rcases hcases with ⟨rfl, rfl⟩ | ⟨rfl, rfl⟩ | ⟨rfl, rfl⟩
      · exact .frozen _ events
      · exact .invalidProxy _ events
      · rw [if_pos rfl, if_pos rfl]
        exact .notified _ events
    · rcases hcases with ⟨rfl, -⟩ | ⟨rfl, -⟩ | ⟨rfl, -⟩
      · trivial
      · rfl
      · trivial
  next => cases hstep

/-- **A step of the task of an unordered record.** -/
theorem effect_notifyUnorderedEvent (h : s.UnorderedSound) {r : ℕ} {answer : Answer}
    (hstep : s.notifyUnorderedEvent r answer = some t) :
    Effect s t (.notifyUnorderedEvent r answer) := by
  cases hnotifying : s.notifying r with
  | some index => exact effect_handleUnorderedNotifyResult h hnotifying hstep
  | none => exact effect_notifySingleUnorderedSubscriber h hnotifying hstep

/-! ## Every reachable state -/

/-- **What holds in every state**: the pipeline is in one it can reach, and the
history of each delivery is one of those that lead to where it stands. -/
structure Sound (P : Platform) (S : StdSort) (s : DeliveryLedger) : Prop where
  control : (orderedMachine P S).Reachable s.control
  unordered : s.UnorderedSound
  course : ∀ d, (s.standing d).stage.Course (s.standing d).events

theorem unorderedSound_processUnorderedEvent (h : s.UnorderedSound)
    (eventRecord : CommonEventRecord CellId CellId) (receivers : List Receiver) :
    UnorderedSound { s with
      unorderedRecords := Function.update s.unorderedRecords s.nextUnordered
        (.processUnorderedEvent eventRecord receivers)
      nextUnordered := s.nextUnordered + 1 } := by
  refine ⟨fun r => ?_, fun r => ?_, fun r i hr => ?_, fun r hr => ?_⟩
  · show (Function.update s.unorderedRecords _ _ r).deliveryState.length
      = (Function.update s.unorderedRecords _ _ r).receivers.length
    rw [Function.update_apply]
    split
    next => exact List.length_map _
    next => exact h.length r
  · show (Function.update s.unorderedRecords _ _ r).nextReceiver
      ≤ (Function.update s.unorderedRecords _ _ r).receivers.length
    rw [Function.update_apply]
    split
    next => exact Nat.zero_le _
    next => exact h.nextReceiver_le r
  · have hnext := h.notifying r i hr
    have hne : r ≠ s.nextUnordered := by
      rintro rfl
      rw [h.nextReceiver_of_fresh (Nat.le_refl _)] at hnext
      cases hnext
    show (Function.update s.unorderedRecords _ _ r).nextReceiver = i + 1
    rw [Function.update_of_ne hne]
    exact hnext
  · have hlt : s.nextUnordered < r := hr
    show (Function.update s.unorderedRecords _ _ r).receivers = []
    rw [Function.update_of_ne (Nat.ne_of_gt hlt)]
    exact h.fresh r (Nat.le_of_lt hlt)

/-- A write to one unordered record, and where its task goes. -/
theorem UnorderedSound.update (h : s.UnorderedSound) {r : ℕ} {record : OrderedEventRecord}
    {next : Option ℕ} {history : Delivery → List DeliveryEvent}
    (hreceivers : record.receivers = (s.unorderedRecords r).receivers)
    (hlength : record.deliveryState.length = (s.unorderedRecords r).deliveryState.length)
    (hle : record.nextReceiver ≤ record.receivers.length)
    (hnext : ∀ i, next = some i → record.nextReceiver = i + 1) :
    UnorderedSound { s with
      unorderedRecords := Function.update s.unorderedRecords r record
      notifying := Function.update s.notifying r next
      history := history } := by
  have hrecord : ∀ r', Function.update s.unorderedRecords r record r'
      = if r' = r then record else s.unorderedRecords r' :=
    fun r' => Function.update_apply _ _ _ _
  refine ⟨fun r' => ?_, fun r' => ?_, fun r' i hr' => ?_, fun r' hr' => ?_⟩
  · show (Function.update s.unorderedRecords r record r').deliveryState.length
      = (Function.update s.unorderedRecords r record r').receivers.length
    rw [hrecord]
    split
    next => rw [hlength, hreceivers, h.length]
    next => exact h.length r'
  · show (Function.update s.unorderedRecords r record r').nextReceiver
      ≤ (Function.update s.unorderedRecords r record r').receivers.length
    rw [hrecord]
    split
    next => exact hle
    next => exact h.nextReceiver_le r'
  · show (Function.update s.unorderedRecords r record r').nextReceiver = i + 1
    have hsome : Function.update s.notifying r next r' = some i := hr'
    rw [hrecord]
    rw [Function.update_apply] at hsome
    split at hsome
    next heq =>
      rw [if_pos heq]
      exact hnext i hsome
    next hne =>
      rw [if_neg hne]
      exact h.notifying r' i hsome
  · show (Function.update s.unorderedRecords r record r').receivers = []
    rw [hrecord]
    split
    next heq =>
      subst heq
      rw [hreceivers]
      exact h.fresh r' hr'
    next => exact h.fresh r' hr'

theorem UnorderedSound.notifyUnorderedEvent (h : s.UnorderedSound) {r : ℕ} {answer : Answer}
    (hstep : s.notifyUnorderedEvent r answer = some t) : t.UnorderedSound := by
  unfold DeliveryLedger.notifyUnorderedEvent at hstep
  cases hnotifying : s.notifying r with
  | some index =>
    rw [hnotifying] at hstep
    unfold OrderedEventRecord.handleUnorderedNotifyResult at hstep
    cases hans : answer.isOk with
    | true =>
      rw [hans] at hstep
      cases hstep
      exact h.update rfl rfl (h.nextReceiver_le r) nofun
    | false =>
      rw [hans] at hstep
      cases hstep
      exact h.update rfl rfl (h.nextReceiver_le r) nofun
  | none =>
    rw [hnotifying] at hstep
    dsimp only at hstep
    split at hstep
    next hlt =>
      obtain ⟨record, e, state, heq, hnext, hreceivers, hset, -⟩ :=
        OrderedEventRecord.notifySingleUnorderedSubscriber_cases
          { s.unorderedRecords r with nextReceiver := (s.unorderedRecords r).nextReceiver + 1 }
          (s.unorderedRecords r).nextReceiver answer
      rw [heq] at hstep
      dsimp only at hstep hnext hreceivers hset
      cases hstep
      refine h.update hreceivers (by rw [hset, List.length_set])
        (by rw [hnext, hreceivers]; exact hlt) fun i hi => ?_
      split at hi
      next =>
        cases hi
        exact hnext
      next => cases hi
    next => cases hstep

/-- The task of an unordered record leaves the pipeline. -/
theorem control_of_notifyUnorderedEvent {r : ℕ} {answer : Answer}
    (hstep : s.notifyUnorderedEvent r answer = some t) : t.control = s.control := by
  unfold notifyUnorderedEvent at hstep
  cases hnotifying : s.notifying r with
  | some index =>
    rw [hnotifying] at hstep
    cases hstep
    rfl
  | none =>
    rw [hnotifying] at hstep
    dsimp only at hstep
    split at hstep
    next =>
      cases hstep
      rfl
    next => cases hstep

/-- **What a step does to the deliveries.** -/
theorem effect_step (h : s.Sound P S) (hstep : s.step P S l = some t) : Effect s t l := by
  cases l with
  | ordered l =>
    obtain ⟨control, hcontrol, rfl⟩ := Option.map_eq_some_iff.mp hstep
    exact Effect.ordered (ControlManager.ledger_step
      (ControlManager.dispatch_reachable h.control) (ControlManager.activity_reachable h.control)
      (ControlManager.matched_reachable h.control) hcontrol)
  | processUnorderedEvent eventRecord receivers =>
    cases hstep
    exact effect_processUnorderedEvent h.unordered eventRecord receivers
  | notifyUnorderedEvent r answer => exact effect_notifyUnorderedEvent h.unordered hstep

theorem Sound.step (h : s.Sound P S) (hstep : s.step P S l = some t) : t.Sound P S := by
  have hcourse : ∀ d, (t.standing d).stage.Course (t.standing d).events := by
    intro d
    cases effect_step h hstep with
    | quiet hquiet hok =>
      rcases hquiet d with hsame | ⟨hahead, hnew⟩
      · rw [hsame]
        exact h.course d
      · have hd := h.course d
        rw [hahead] at hd
        rw [hnew]
        exact hd
    | moves d' e hmove hother hok =>
      by_cases hd : d = d'
      · rw [hd]
        exact hmove.course (h.course d')
      · rw [hother d hd]
        exact h.course d
    | replaces d' d'' hmove hmove' hother hok =>
      by_cases hd : d = d'
      · rw [hd]
        exact hmove.course (h.course d')
      · by_cases hd' : d = d''
        · rw [hd']
          exact hmove'.course (h.course d'')
        · rw [hother d hd hd']
          exact h.course d
  cases l with
  | ordered l =>
    obtain ⟨control, hcontrol, rfl⟩ := Option.map_eq_some_iff.mp hstep
    exact ⟨h.control.step hcontrol, ⟨h.unordered.length, h.unordered.nextReceiver_le,
      h.unordered.notifying, h.unordered.fresh⟩, hcourse⟩
  | processUnorderedEvent eventRecord receivers =>
    cases hstep
    exact ⟨h.control, unorderedSound_processUnorderedEvent h.unordered eventRecord receivers,
      hcourse⟩
  | notifyUnorderedEvent r answer =>
    refine ⟨?_, h.unordered.notifyUnorderedEvent hstep, hcourse⟩
    rw [control_of_notifyUnorderedEvent hstep]
    exact h.control

/-- Nothing has been published yet. -/
theorem sound_init : ({} : DeliveryLedger).Sound P S := by
  refine ⟨.init, ⟨fun _ => rfl, fun _ => Nat.le_refl _, nofun, fun _ _ => rfl⟩, fun d => ?_⟩
  obtain ⟨kind, record, index⟩ := d
  cases kind with
  | ordered => exact rfl
  | unordered => exact rfl

theorem sound_reachable (hs : (ledgerMachine P S).Reachable s) : s.Sound P S :=
  Machine.invariant (M := ledgerMachine P S) (I := Sound P S) sound_init
    (fun _ _ _ h hstep => h.step hstep) hs

/-! ## When the ledger is faithful -/

theorem stage_of_nextReceiver_le (h : (s.recordOf d).nextReceiver ≤ d.index) :
    s.stage d = .ahead := by
  obtain ⟨kind, record, index⟩ := d
  cases kind with
  | ordered => exact if_pos (.inl h)
  | unordered => exact if_pos h

/-- The ledger of a record has an entry for each of its receivers. -/
theorem Sound.length_recordOf (h : s.Sound P S) (d : Delivery) :
    (s.recordOf d).deliveryState.length = (s.recordOf d).receivers.length
      ∧ (s.recordOf d).nextReceiver ≤ (s.recordOf d).receivers.length := by
  obtain ⟨kind, record, index⟩ := d
  cases kind with
  | ordered =>
    have hd := ControlManager.dispatch_reachable h.control
    exact ⟨hd.length_deliveryState record, hd.nextReceiver_le record⟩
  | unordered => exact ⟨h.unordered.length record, h.unordered.nextReceiver_le record⟩

/-- The ledger is faithful where every delivery is told, also those that are
none. -/
theorem Sound.isFaithful_iff (h : s.Sound P S) :
    s.IsFaithful ↔ ∀ d, Faithful (s.standing d).state (s.standing d).events := by
  refine forall_congr' fun d => ?_
  obtain ⟨hlength, hle⟩ := h.length_recordOf d
  unfold standing OrderedEventRecord.stateAt
  rw [List.getD_eq_getElem?_getD]
  dsimp only
  by_cases hlt : d.index < (s.recordOf d).receivers.length
  · rw [imp_iff_right hlt, List.getElem?_eq_getElem (hlength ▸ hlt)]
    constructor
    · rintro ⟨state, hstate, hfaithful⟩
      cases hstate
      exact hfaithful
    · exact fun hfaithful => ⟨_, rfl, hfaithful⟩
  · have hover : (s.recordOf d).receivers.length ≤ d.index := Nat.le_of_not_lt hlt
    have hnil : s.history d = [] := by
      have hcourse := h.course d
      rw [show (s.standing d).stage = .ahead from
        stage_of_nextReceiver_le (Nat.le_trans hle hover)] at hcourse
      exact hcourse
    rw [List.getElem?_eq_none (hlength ▸ hover), hnil]
    exact iff_of_true (fun h => absurd h hlt) faithful_pending

/-- **A step from a faithful ledger leads to a faithful one exactly where it is
told.** -/
theorem isFaithful_step_iff (h : s.Sound P S) (hfaithful : s.IsFaithful)
    (hstep : s.step P S l = some t) : t.IsFaithful ↔ s.LedgerOk l := by
  rw [(h.step hstep).isFaithful_iff]
  rw [h.isFaithful_iff] at hfaithful
  cases effect_step h hstep with
  | quiet hquiet hok =>
    refine iff_of_true (fun d => ?_) hok
    rcases hquiet d with hsame | ⟨hahead, hnew⟩
    · rw [hsame]
      exact hfaithful d
    · have hd := h.course d
      rw [hahead] at hd
      have hnil : (s.standing d).events = [] := hd
      rw [hnew, hnil]
      exact faithful_pending
  | moves d e hmove hother hok =>
    rw [hok, ← hmove.faithful_iff (h.course d) (hfaithful d)]
    refine ⟨fun ht => ht d, fun ht d' => ?_⟩
    by_cases hd : d' = d
    · rw [hd]
      exact ht
    · rw [hother d' hd]
      exact hfaithful d'
  | replaces d d' hmove hmove' hother hok =>
    refine iff_of_true (fun d'' => ?_) hok
    by_cases hd : d'' = d
    · rw [hd]
      exact (hmove.faithful_iff (h.course d) (hfaithful d)).mpr trivial
    · by_cases hd' : d'' = d'
      · rw [hd']
        exact (hmove'.faithful_iff (h.course d') (hfaithful d')).mpr trivial
      · rw [hother d'' hd hd']
        exact hfaithful d''

/-- **The ledger is faithful throughout a run exactly where every step of it is
told**: no ordered receiver is found without a usable proxy, no `NotifyEvent`
returns an error, and a timeout is handled only for a record whose last receiver
is at work, or has been given up on or cut off and not been finished since. -/
theorem isFaithful_iff_told {ls : List LedgerLabel} (hs : (ledgerMachine P S).run ls = some s) :
    (∀ pre post t, ls = pre ++ post → (ledgerMachine P S).run pre = some t → t.IsFaithful)
      ↔ (ledgerMachine P S).Guarded LedgerOk ls := by
  refine Machine.forall_prefix_iff_guarded ?_ ?_ hs
  · intro d hd
    obtain ⟨kind, record, index⟩ := d
    cases kind with
    | ordered => exact absurd hd (Nat.not_lt_zero index)
    | unordered => exact absurd hd (Nat.not_lt_zero index)
  · exact fun s l t hs h hstep => isFaithful_step_iff (sound_reachable hs) h hstep

/-- An ordered event for a receiver that never answers. -/
def untilGivenUp : List ControlLabel :=
  [ControlManager.publishE, .op 0] ++ ControlManager.deliver ++ [.tick TIMEOUT, .timeout 0]
    ++ List.replicate 4 (.thread {})

/-- An unordered event for two receivers. -/
def publishToTwo : LedgerLabel :=
  .processUnorderedEvent { commonEventData := 0, publishInfo := 0 } [⟨0, ⟨1⟩⟩, ⟨1, ⟨2⟩⟩]

/-- The ordered event, and the unordered one, of whose receivers the first is
frozen. -/
def untilTimedOut : List LedgerLabel :=
  untilGivenUp.map .ordered
    ++ [publishToTwo, .notifyUnorderedEvent 0 { isFreeze := true }, .notifyUnorderedEvent 0 {},
      .notifyUnorderedEvent 0 {}]

/-- All three deliveries are told. -/
theorem isFaithful_untilTimedOut :
    ∃ s, (ledgerMachine {} .insertion).run untilTimedOut = some s
      ∧ (s.control.records 0).deliveryState = [.TIMEOUT]
      ∧ (s.unorderedRecords 0).deliveryState = [.SKIPPED, .DELIVERED] ∧ s.IsFaithful := by
  obtain ⟨s, hs, hstates⟩ := Option.map_eq_some_iff.mp
    (show ((ledgerMachine {} .insertion).run untilTimedOut).map (fun s =>
      ((s.control.records 0).deliveryState, (s.unorderedRecords 0).deliveryState))
      = some ([.TIMEOUT], [.SKIPPED, .DELIVERED]) by decide +kernel)
  obtain ⟨hordered, hunordered⟩ := Prod.mk.inj hstates
  have hguard : (ledgerMachine {} .insertion).Guarded LedgerOk untilTimedOut :=
    Machine.guarded_of_guardedFrom (by decide +kernel)
  exact ⟨s, hs, hordered, hunordered, (isFaithful_iff_told hs).mpr hguard untilTimedOut [] s
    (List.append_nil _).symm hs⟩

/-- **A receiver that returned an error is written down as delivered.** -/
theorem not_isFaithful_failed :
    ¬ ∀ ls s, (ledgerMachine {} .insertion).run ls = some s → s.IsFaithful := by
  intro h
  obtain ⟨s, hs, hview⟩ := Option.map_eq_some_iff.mp
    (show ((ledgerMachine {} .insertion).run [publishToTwo, .notifyUnorderedEvent 0 {},
      .notifyUnorderedEvent 0 { isOk := false }]).map (fun s =>
        ((s.unorderedRecords 0).deliveryState, (s.unorderedRecords 0).receivers.length,
          s.history ⟨.unordered, 0, 0⟩))
      = some ([.DELIVERED, .PENDING], 2, [.notified, .failed]) by decide +kernel)
  obtain ⟨hledger, hview⟩ := Prod.mk.inj hview
  obtain ⟨hlength, hhistory⟩ := Prod.mk.inj hview
  have hlt : 0 < (s.unorderedRecords 0).receivers.length := by
    rw [hlength]
    decide
  obtain ⟨state, hstate, hfaithful⟩ := h _ s hs ⟨.unordered, 0, 0⟩ hlt
  have hdelivered : (s.unorderedRecords 0).deliveryState[0]? = some state := hstate
  rw [hledger] at hdelivered
  obtain rfl : .DELIVERED = state := Option.some.inj hdelivered
  rw [hhistory] at hfaithful
  exact (hfaithful.delivered.mp rfl).2.1 (by decide)

end DeliveryLedger

end CommonEventService

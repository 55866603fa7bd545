import CommonEventService.OrderedPipeline

/-!
# The life of a delivery

A record keeps, for each of its receivers, a *delivery state*: what has become
of handing the event over to that receiver. It is what a dump and a report of a
fault go by, and no step of the delivery reads it.

A **delivery** is one receiver of one record, and its *history* is the list of
what has happened to it. `Faithful` says when a delivery state tells the
history. `Moves` is the life of a delivery as the code has it: where it stands,
what can happen to it there, and what is written down. A delivery whose history
has been told so far goes on being told exactly where its next move is none of
three: a proxy that is not usable in an ordered event, an error of
`NotifyEvent`, and a timeout of a receiver that is not at work – unless it only
is not since it was given up on before, or was cut off.

A call that finishes a receiver goes by the record it was matched for, and
makes that record's receiver idle whoever that is by then. So a delivery can be
**finished** when it has been given up on already, and again; and another one,
whose receiver has not finished, is **cut off** by the same call.
-/

namespace CommonEventService

/-- What happens to a delivery. -/
inductive DeliveryEvent where
  /-- The receiver was found frozen. -/
  | frozen
  /-- `iface_cast` gave no usable proxy. -/
  | invalidProxy
  /-- `NotifyEvent` was called. -/
  | notified
  /-- The call returned an error. -/
  | failed
  /-- The call returned `ERR_OK`. -/
  | accepted
  /-- A call was applied that was matched for this receiver: it finished, or was
  unsubscribed. -/
  | finished
  /-- A call was applied that was not matched for this receiver, and it is not
  the current one any more. -/
  | cutOff
  /-- A timeout was handled, and `ORDERED_EVENT_PROC_TIMEOUT` reported. -/
  | timedOut
  deriving DecidableEq, Repr

variable {state : DeliveryState} {events base : List DeliveryEvent} {e : DeliveryEvent}

/-! ## What the ledger is to say -/

/-- The receiver has been handed the event, or was found not to be reached. -/
def HandedOver (events : List DeliveryEvent) : Prop :=
  .frozen ∈ events ∨ .invalidProxy ∈ events ∨ .notified ∈ events

/-- The event did not get to the receiver. -/
def Unreached (events : List DeliveryEvent) : Prop :=
  .frozen ∈ events ∨ .invalidProxy ∈ events ∨ .failed ∈ events

/-- **Every timeout is one of a receiver that owes an answer**: it had accepted
the event, and neither it nor an unsubscription had finished the delivery. -/
def Justified (events : List DeliveryEvent) : Prop :=
  ∀ pre post, events = pre ++ .timedOut :: post → .accepted ∈ pre ∧ .finished ∉ pre

/-- **A delivery state tells the history of its delivery.** -/
structure Faithful (state : DeliveryState) (events : List DeliveryEvent) : Prop where
  pending : state = .PENDING ↔ ¬ HandedOver events
  skipped : state = .SKIPPED ↔ Unreached events
  timeout : state = .TIMEOUT → .timedOut ∈ events
  justified : Justified events
  delivered : state = .DELIVERED ↔
    .notified ∈ events ∧ .failed ∉ events ∧ .timedOut ∉ events

theorem justified_of_notMem (h : .timedOut ∉ events) : Justified events := by
  rintro pre post rfl
  exact absurd (List.mem_append_right _ List.mem_cons_self) h

/-- One more event adds to what is to be justified if it is a timeout. -/
theorem justified_concat : Justified (events ++ [e]) ↔
    Justified events ∧ (e = .timedOut → .accepted ∈ events ∧ .finished ∉ events) := by
  constructor
  · intro h
    refine ⟨?_, ?_⟩
    · rintro pre post rfl
      exact h pre (post ++ [e]) (by simp)
    · rintro rfl
      exact h events [] rfl
  · rintro ⟨h, hlast⟩ pre post heq
    rcases List.eq_nil_or_concat post with rfl | ⟨post, e', rfl⟩
    · obtain ⟨rfl, he⟩ := List.append_inj' heq rfl
      exact hlast (List.singleton_inj.mp he)
    · have hcat : events ++ [e] = (pre ++ .timedOut :: post) ++ [e'] := by
        rw [heq]
        simp
      exact h pre post (List.append_inj' hcat rfl).1

/-- Nothing has happened yet. -/
theorem faithful_pending : Faithful .PENDING [] where
  pending := by simp [HandedOver]
  skipped := by simp [Unreached]
  timeout := nofun
  justified := justified_of_notMem List.not_mem_nil
  delivered := by simp

theorem mem_concat_of_ne {e' : DeliveryEvent} (h : e' ≠ e) : e' ∈ events ++ [e] ↔ e' ∈ events := by
  rw [List.mem_append, or_iff_left]
  exact fun hlast => h (List.mem_singleton.mp hlast)

/-- What the ledger does not tell: whether the call has returned, and whether
the delivery is finished, or cut off. -/
theorem Faithful.concat (h : Faithful state events)
    (he : e = .accepted ∨ e = .finished ∨ e = .cutOff) : Faithful state (events ++ [e]) := by
  have hmem : ∀ e', e' ≠ .accepted → e' ≠ .finished → e' ≠ .cutOff →
      (e' ∈ events ++ [e] ↔ e' ∈ events) := by
    intro e' haccepted hfinished hcutOff
    refine mem_concat_of_ne ?_
    rcases he with rfl | rfl | rfl
    · exact haccepted
    · exact hfinished
    · exact hcutOff
  have hfrozen := hmem .frozen nofun nofun nofun
  have hinvalid := hmem .invalidProxy nofun nofun nofun
  have hnotified := hmem .notified nofun nofun nofun
  have hfailed := hmem .failed nofun nofun nofun
  have htimedOut := hmem .timedOut nofun nofun nofun
  refine ⟨?_, ?_, ?_, ?_, ?_⟩
  · rw [h.pending]
    unfold HandedOver
    rw [hfrozen, hinvalid, hnotified]
  · rw [h.skipped]
    unfold Unreached
    rw [hfrozen, hinvalid, hfailed]
  · rw [htimedOut]
    exact h.timeout
  · refine justified_concat.mpr ⟨h.justified, fun hlast => ?_⟩
    subst hlast
    rcases he with he | he | he <;> cases he
  · rw [h.delivered, hnotified, hfailed, htimedOut]

/-! ## Where a delivery stands -/

/-- The two kinds of records. -/
inductive RecordKind where
  | ordered
  | unordered
  deriving DecidableEq, Repr

/-- **Where a delivery stands**, as far as the code knows. -/
inductive Stage where
  /-- Not handed over yet. -/
  | ahead
  /-- `NotifyEvent` is being called; whether the receiver is still the current
  one of the record. -/
  | inCall (isCurrent : Bool)
  /-- The receiver is the current one of the record. -/
  | active
  /-- The receiver is not the current one any more, or has never been. -/
  | ended
  /-- Nothing more can happen. -/
  | closed
  deriving DecidableEq, Repr

/-- Where a delivery stands that is over. -/
def RecordKind.ending : RecordKind → Stage
  | .ordered => .ended
  | .unordered => .closed

/-- Where a delivery stands whose receiver has accepted the event. -/
def RecordKind.working : RecordKind → Stage
  | .ordered => .active
  | .unordered => .closed

/-- What is written down for a proxy that is not usable. -/
def RecordKind.invalidProxyState : RecordKind → DeliveryState
  -- written before the proxy is looked at
  | .ordered => .DELIVERED
  | .unordered => .SKIPPED

/-- A delivery: where it stands, what is written down, and its history. -/
structure Standing where
  stage : Stage
  state : DeliveryState
  events : List DeliveryEvent

/-- **The moves of a delivery.** -/
inductive Moves (k : RecordKind) : Standing → DeliveryEvent → Standing → Prop
  | frozen (state : DeliveryState) (events : List DeliveryEvent) :
      Moves k ⟨.ahead, state, events⟩ .frozen
      ⟨k.ending, .SKIPPED, events ++ [.frozen]⟩
  | invalidProxy (state : DeliveryState) (events : List DeliveryEvent) :
      Moves k ⟨.ahead, state, events⟩ .invalidProxy
      ⟨k.ending, k.invalidProxyState, events ++ [.invalidProxy]⟩
  | notified (state : DeliveryState) (events : List DeliveryEvent) :
      Moves k ⟨.ahead, state, events⟩ .notified
      ⟨.inCall true, .DELIVERED, events ++ [.notified]⟩
  | failed (isCurrent : Bool) (state : DeliveryState) (events : List DeliveryEvent) :
      Moves k ⟨.inCall isCurrent, state, events⟩ .failed
      ⟨k.ending, state, events ++ [.failed]⟩
  | accepted (isCurrent : Bool) (state : DeliveryState) (events : List DeliveryEvent) :
      Moves k ⟨.inCall isCurrent, state, events⟩ .accepted
      ⟨if isCurrent then k.working else .ended, state, events ++ [.accepted]⟩
  | finishedInCall (isCurrent : Bool) (state : DeliveryState) (events : List DeliveryEvent) :
      Moves k ⟨.inCall isCurrent, state, events⟩ .finished
      ⟨.inCall false, state, events ++ [.finished]⟩
  | finished (stage : Stage) (state : DeliveryState) (events : List DeliveryEvent)
      (h : stage = .active ∨ stage = .ended) :
      Moves k ⟨stage, state, events⟩ .finished ⟨.ended, state, events ++ [.finished]⟩
  | cutOffInCall (state : DeliveryState) (events : List DeliveryEvent) :
      Moves k ⟨.inCall true, state, events⟩ .cutOff
      ⟨.inCall false, state, events ++ [.cutOff]⟩
  | cutOff (state : DeliveryState) (events : List DeliveryEvent) :
      Moves k ⟨.active, state, events⟩ .cutOff ⟨.ended, state, events ++ [.cutOff]⟩
  | timedOut (stage : Stage) (state : DeliveryState) (events : List DeliveryEvent)
      (h : stage = .active ∨ stage = .ended) :
      Moves k ⟨stage, state, events⟩ .timedOut ⟨.ended, .TIMEOUT, events ++ [.timedOut]⟩

/-- The history of a delivery whose call has not returned, and whose receiver
is not the current one any more. -/
structure IsReleased (events : List DeliveryEvent) : Prop where
  notified : .notified ∈ events
  released : .finished ∈ events ∨ .cutOff ∈ events
  only : ∀ e ∈ events, e = .notified ∨ e = .finished ∨ e = .cutOff

/-- The history of a delivery that is over. -/
structure IsOver (events : List DeliveryEvent) : Prop where
  handedOver : HandedOver events
  reached : .accepted ∈ events → .notified ∈ events ∧ ¬ Unreached events
  released : .accepted ∈ events → .finished ∈ events ∨ .cutOff ∈ events ∨ .timedOut ∈ events

/-- **What the history is where a delivery stands.** -/
def Stage.Course : Stage → List DeliveryEvent → Prop
  | .ahead, events => events = []
  | .inCall true, events => events = [.notified]
  | .inCall false, events => IsReleased events
  | .active, events => events = [.notified, .accepted]
  | .ended, events => IsOver events
  | .closed, events => HandedOver events

theorem HandedOver.concat (h : HandedOver events) : HandedOver (events ++ [e]) :=
  h.imp (List.mem_append_left _) (Or.imp (List.mem_append_left _) (List.mem_append_left _))

theorem unreached_concat (hfrozen : e ≠ .frozen) (hinvalid : e ≠ .invalidProxy)
    (hfailed : e ≠ .failed) : Unreached (events ++ [e]) ↔ Unreached events := by
  unfold Unreached
  rw [mem_concat_of_ne hfrozen.symm, mem_concat_of_ne hinvalid.symm,
    mem_concat_of_ne hfailed.symm]

namespace IsReleased

theorem not_mem (h : IsReleased events) (hnotified : e ≠ .notified) (hfinished : e ≠ .finished)
    (hcutOff : e ≠ .cutOff) : e ∉ events := by
  intro he
  rcases h.only e he with rfl | rfl | rfl
  · exact hnotified rfl
  · exact hfinished rfl
  · exact hcutOff rfl

theorem finished (h : IsReleased events) : IsReleased (events ++ [.finished]) := by
  refine ⟨List.mem_append_left _ h.notified, h.released.imp (List.mem_append_left _)
    (List.mem_append_left _), fun e he => ?_⟩
  rcases List.mem_append.mp he with he | he
  · exact h.only e he
  · exact .inr (.inl (List.mem_singleton.mp he))

/-- The call returns an error. -/
theorem failed (h : IsReleased events) : IsOver (events ++ [.failed]) := by
  have haccepted : .accepted ∉ events ++ [.failed] := by
    rw [mem_concat_of_ne (by decide)]
    exact h.not_mem (by decide) (by decide) (by decide)
  exact ⟨.inr (.inr (List.mem_append_left _ h.notified)), fun he => absurd he haccepted,
    fun he => absurd he haccepted⟩

/-- The call returns `ERR_OK`. -/
theorem accepted (h : IsReleased events) : IsOver (events ++ [.accepted]) := by
  have hnotified := List.mem_append_left [.accepted] h.notified
  have hreached : ¬ Unreached (events ++ [.accepted]) := by
    rw [unreached_concat (by decide) (by decide) (by decide)]
    rintro (he | he | he)
    · exact h.not_mem (by decide) (by decide) (by decide) he
    · exact h.not_mem (by decide) (by decide) (by decide) he
    · exact h.not_mem (by decide) (by decide) (by decide) he
  exact ⟨.inr (.inr hnotified), fun _ => ⟨hnotified, hreached⟩,
    fun _ => h.released.imp (List.mem_append_left _)
      (fun hcutOff => .inl (List.mem_append_left _ hcutOff))⟩

end IsReleased

theorem isOver_of_notMem (h : HandedOver events) (haccepted : .accepted ∉ events) :
    IsOver events :=
  ⟨h, fun he => absurd he haccepted, fun he => absurd he haccepted⟩

/-- What comes after a delivery is over. -/
theorem IsOver.concat (h : IsOver events) (he : e = .finished ∨ e = .timedOut) :
    IsOver (events ++ [e]) := by
  have haccepted : .accepted ∈ events ++ [e] → .accepted ∈ events := by
    refine (mem_concat_of_ne ?_).mp
    rcases he with rfl | rfl
    · decide
    · decide
  have hreached : Unreached (events ++ [e]) ↔ Unreached events := by
    rcases he with rfl | rfl
    · exact unreached_concat (by decide) (by decide) (by decide)
    · exact unreached_concat (by decide) (by decide) (by decide)
  refine ⟨h.handedOver.concat, fun hmem => ?_, fun hmem => ?_⟩
  · obtain ⟨hnotified, hnot⟩ := h.reached (haccepted hmem)
    exact ⟨List.mem_append_left _ hnotified, hreached.not.mpr hnot⟩
  · exact (h.released (haccepted hmem)).imp (List.mem_append_left _)
      (Or.imp (List.mem_append_left _) (List.mem_append_left _))

/-- What has been accepted is over where it is finished, cut off or given up
on. -/
theorem isOver_accepted (he : e = .finished ∨ e = .cutOff ∨ e = .timedOut) :
    IsOver [.notified, .accepted, e] := by
  rcases he with rfl | rfl | rfl
  · exact ⟨by simp [HandedOver], by simp [Unreached], by simp⟩
  · exact ⟨by simp [HandedOver], by simp [Unreached], by simp⟩
  · exact ⟨by simp [HandedOver], by simp [Unreached], by simp⟩

/-- A delivery that ends as one of an ordered record is over, or closed. -/
theorem RecordKind.course_ending {k : RecordKind} (h : IsOver events) :
    k.ending.Course events := by
  cases k with
  | ordered => exact h
  | unordered => exact h.handedOver

/-- **The moves keep to the histories.** -/
theorem Moves.course {k : RecordKind} {a b : Standing} (hmove : Moves k a e b)
    (h : a.stage.Course a.events) : b.stage.Course b.events := by
  cases hmove with
  | frozen state events =>
    obtain rfl : events = [] := h
    have hover : IsOver [.frozen] := isOver_of_notMem (by simp [HandedOver]) (by decide)
    exact RecordKind.course_ending hover
  | invalidProxy state events =>
    obtain rfl : events = [] := h
    have hover : IsOver [.invalidProxy] := isOver_of_notMem (by simp [HandedOver]) (by decide)
    exact RecordKind.course_ending hover
  | notified state events =>
    obtain rfl : events = [] := h
    exact rfl
  | failed isCurrent state events =>
    cases isCurrent with
    | true =>
      obtain rfl : events = [.notified] := h
      have hover : IsOver [.notified, .failed] :=
        isOver_of_notMem (by simp [HandedOver]) (by decide)
      exact RecordKind.course_ending hover
    | false => exact RecordKind.course_ending (IsReleased.failed h)
  | accepted isCurrent state events =>
    cases isCurrent with
    | true =>
      obtain rfl : events = [.notified] := h
      cases k with
      | ordered => exact rfl
      | unordered => exact .inr (.inr List.mem_cons_self)
    | false => exact IsReleased.accepted h
  | finishedInCall isCurrent state events =>
    cases isCurrent with
    | true =>
      obtain rfl : events = [.notified] := h
      have hreleased : IsReleased [.notified, .finished] := ⟨by decide, by decide, by decide⟩
      exact hreleased
    | false => exact IsReleased.finished h
  | finished stage state events hstage =>
    rcases hstage with rfl | rfl
    · obtain rfl : events = [.notified, .accepted] := h
      exact isOver_accepted (.inl rfl)
    · exact IsOver.concat h (.inl rfl)
  | cutOffInCall state events =>
    obtain rfl : events = [.notified] := h
    have hreleased : IsReleased [.notified, .cutOff] := ⟨by decide, by decide, by decide⟩
    exact hreleased
  | cutOff state events =>
    obtain rfl : events = [.notified, .accepted] := h
    exact isOver_accepted (.inr (.inl rfl))
  | timedOut stage state events hstage =>
    rcases hstage with rfl | rfl
    · obtain rfl : events = [.notified, .accepted] := h
      exact isOver_accepted (.inr (.inr rfl))
    · exact IsOver.concat h (.inr rfl)

/-- **What has moved is not ahead.** -/
theorem Moves.stage_ne_ahead {k : RecordKind} {a b : Standing} (hmove : Moves k a e b) :
    b.stage ≠ .ahead := by
  cases hmove with
  | accepted isCurrent state events =>
    cases isCurrent with
    | true => cases k <;> nofun
    | false => nofun
  | frozen state events => cases k <;> nofun
  | invalidProxy state events => cases k <;> nofun
  | failed isCurrent state events => cases k <;> nofun
  | _ => nofun

/-! ## Which moves are told -/

/-- **A receiver that is not at work owes an answer**: it has been given up on
before, or was cut off when it had accepted the event, and nobody has finished
it since. -/
def OwesAnswer (state : DeliveryState) (events : List DeliveryEvent) : Prop :=
  .finished ∉ events ∧ (state = .TIMEOUT ∨ .accepted ∈ events ∧ .cutOff ∈ events)

instance : Decidable (OwesAnswer state events) := inferInstanceAs (Decidable (_ ∧ _))

/-- **The moves that are told**: the code writes down what happens. -/
def Told (k : RecordKind) (a : Standing) : DeliveryEvent → Prop
  | .invalidProxy => k = .unordered
  | .failed => False
  | .timedOut => a.stage = .active ∨ OwesAnswer a.state a.events
  | _ => True

/-- **Who owes an answer has accepted the event and has not finished**, as far
as the ledger is faithful. -/
theorem Faithful.owesAnswer_iff (h : Faithful state events) (hover : IsOver events) :
    .accepted ∈ events ∧ .finished ∉ events ↔ OwesAnswer state events := by
  constructor
  · rintro ⟨haccepted, hfinished⟩
    refine ⟨hfinished, ?_⟩
    obtain ⟨hnotified, hreached⟩ := hover.reached haccepted
    rcases hover.released haccepted with hfin | hcutOff | htimedOut
    · exact absurd hfin hfinished
    · exact .inr ⟨haccepted, hcutOff⟩
    · left
      cases state with
      | PENDING => exact absurd (.inr (.inr hnotified)) (h.pending.mp rfl)
      | DELIVERED => exact absurd htimedOut (h.delivered.mp rfl).2.2
      | SKIPPED => exact absurd (h.skipped.mp rfl) hreached
      | TIMEOUT => rfl
  · rintro ⟨hfinished, hstate | ⟨haccepted, -⟩⟩
    · -- whoever was given up on before had accepted the event by then
      obtain ⟨pre, post, rfl⟩ := List.append_of_mem (h.timeout hstate)
      exact ⟨List.mem_append_left _ (h.justified pre post rfl).1, hfinished⟩
    · exact ⟨haccepted, hfinished⟩

/-- A timeout is told where it is justified. -/
theorem Faithful.timedOut_iff (h : Faithful state events)
    (haccepted : .accepted ∈ events → .notified ∈ events ∧ ¬ Unreached events) :
    Faithful .TIMEOUT (events ++ [.timedOut]) ↔ .accepted ∈ events ∧ .finished ∉ events := by
  constructor
  · exact fun h' => (justified_concat.mp h'.justified).2 rfl
  · intro hwork
    obtain ⟨hnotified, hreached⟩ := haccepted hwork.1
    have hunreached : ¬ Unreached (events ++ [.timedOut]) := by
      simpa [Unreached] using hreached
    refine ⟨?_, ?_, fun _ => List.mem_append_right _ List.mem_cons_self,
      justified_concat.mpr ⟨h.justified, fun _ => hwork⟩, ?_⟩
    · exact iff_of_false nofun
        (not_not_intro (.inr (.inr (List.mem_append_left _ hnotified))))
    · exact iff_of_false nofun hunreached
    · exact iff_of_false nofun fun h => h.2.2 (List.mem_append_right _ List.mem_cons_self)

/-- **A delivery that has been told so far goes on being told exactly where its
next move is told.** -/
theorem Moves.faithful_iff {k : RecordKind} {a b : Standing} (hmove : Moves k a e b)
    (hcourse : a.stage.Course a.events) (h : Faithful a.state a.events) :
    Faithful b.state b.events ↔ Told k a e := by
  cases hmove with
  | frozen state events =>
    obtain rfl : events = [] := hcourse
    refine iff_of_true ⟨?_, ?_, nofun, justified_of_notMem (by simp), ?_⟩ trivial
    · simp [HandedOver]
    · simp [Unreached]
    · simp
  | invalidProxy state events =>
    obtain rfl : events = [] := hcourse
    cases k with
    | ordered =>
      refine iff_of_false (fun h' => ?_) nofun
      cases h'.skipped.mpr (.inr (.inl List.mem_cons_self))
    | unordered =>
      refine iff_of_true ⟨?_, ?_, nofun, justified_of_notMem (by decide), ?_⟩ rfl
      · simp [HandedOver, RecordKind.invalidProxyState]
      · simp [Unreached, RecordKind.invalidProxyState]
      · simp [RecordKind.invalidProxyState]
  | notified state events =>
    obtain rfl : events = [] := hcourse
    refine iff_of_true ⟨?_, ?_, nofun, justified_of_notMem (by decide), ?_⟩ trivial
    · simp [HandedOver]
    · simp [Unreached]
    · simp
  | failed isCurrent state events =>
    -- what was written before the call stays
    have hnotified : .notified ∈ events ∧ .failed ∉ events ∧ .timedOut ∉ events := by
      cases isCurrent with
      | true =>
        obtain rfl : events = [.notified] := hcourse
        decide
      | false =>
        have hreleased : IsReleased events := hcourse
        exact ⟨hreleased.notified, hreleased.not_mem (by decide) (by decide) (by decide),
          hreleased.not_mem (by decide) (by decide) (by decide)⟩
    obtain rfl := h.delivered.mpr hnotified
    refine iff_of_false (fun h' => ?_) nofun
    cases h'.skipped.mpr (.inr (.inr (List.mem_append_right _ List.mem_cons_self)))
  | accepted isCurrent state events => exact iff_of_true (h.concat (.inl rfl)) trivial
  | finishedInCall isCurrent state events =>
    exact iff_of_true (h.concat (.inr (.inl rfl))) trivial
  | finished stage state events hstage => exact iff_of_true (h.concat (.inr (.inl rfl))) trivial
  | cutOffInCall state events => exact iff_of_true (h.concat (.inr (.inr rfl))) trivial
  | cutOff state events => exact iff_of_true (h.concat (.inr (.inr rfl))) trivial
  | timedOut stage state events hstage =>
    rcases hstage with rfl | rfl
    · obtain rfl : events = [.notified, .accepted] := hcourse
      rw [h.timedOut_iff (by simp [Unreached])]
      exact iff_of_true (by simp) (.inl rfl)
    · rw [h.timedOut_iff (IsOver.reached hcourse), h.owesAnswer_iff hcourse]
      exact (or_iff_right nofun).symm

end CommonEventService

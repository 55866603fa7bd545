import CommonEventService.InnerCommonEventManager
import CommonEventService.OrderedDispatch
import CommonEventService.SubscriberRegistry

/-!
# What holds of the service in every run

The service drives the ordered pipeline and unordered delivery by steps of
their own machines, so what is reachable for it is reachable for them, and
their invariants are its invariants. Two more facts hold throughout: the
index of the subscriber manager lists nothing stale, and every sticky record
lies under the name of its event, with its data in a cell that has been made.
-/

namespace CommonEventService

/-! ## The cells under the ordered pipeline -/

namespace ControlManager

variable {P : Platform} {S : StdSort} {s t : ControlManager}

/-- **A step of the pipeline's own changes a cell only in the locked update of
`FinishReceiver`**, and makes none. -/
theorem cells_step {l : ControlLabel} (hl : l.isInternal) (hstep : s.step P S l = some t) :
    t.nextCell = s.nextCell ∧
      ((∃ i call state, l = .op i ∧ s.ops[i]? = some (.finishUpdate call state)
          ∧ t.cells = (s.finishUpdate call).cells)
        ∨ ((∀ i call state, l = .op i → s.ops[i]? ≠ some (.finishUpdate call state))
          ∧ t.cells = s.cells)) := by
  cases l with
  | tick duration =>
    cases hstep
    exact ⟨rfl, Or.inr ⟨(fun _ _ _ h => by cases h), rfl⟩⟩
  | op i =>
    obtain ⟨op, hop, rfl⟩ := Option.map_eq_some_iff.mp hstep
    refine ⟨(identity_stepOp i op).2.2, ?_⟩
    have hnot : (∀ call state, op ≠ .finishUpdate call state) →
        ∀ i' call state, ControlLabel.op i = .op i' →
          s.ops[i']? ≠ some (.finishUpdate call state) := by
      rintro hne i' call state hi hsome
      cases hi
      exact hne call state (Option.some.inj (hop.symm.trans hsome))
    cases op with
    | schedule =>
      refine Or.inr ⟨hnot (fun _ _ h => by cases h), ?_⟩
      obtain ⟨scheduled, queue, heq⟩ :=
        { s with ops := s.ops.eraseIdx i }.scheduleOrderedCommonEvent_eq
      unfold ControlManager.stepOp
      rw [heq]
    | readResult sp receiver => exact Or.inr ⟨hnot (fun _ _ h => by cases h), rfl⟩
    | finishLoad call => exact Or.inr ⟨hnot (fun _ _ h => by cases h), rfl⟩
    | finishUpdate call state =>
      refine Or.inl ⟨i, call, state, rfl, hop, ?_⟩
      unfold ControlManager.stepOp
      dsimp only
      split <;> rfl
  | processNextOrderedEvent =>
    unfold ControlManager.step at hstep
    dsimp only at hstep
    split at hstep
    · cases hstep
      exact ⟨rfl, Or.inr ⟨(fun _ _ _ h => by cases h), rfl⟩⟩
    · cases hstep
  | timeout handler =>
    unfold ControlManager.step at hstep
    dsimp only at hstep
    split at hstep
    · cases hstep
      exact ⟨rfl, Or.inr ⟨(fun _ _ _ h => by cases h), rfl⟩⟩
    · cases hstep
  | thread answer =>
    obtain ⟨-, -, hcells, hnext⟩ := identity_stepThread hstep
    exact ⟨hnext, Or.inr ⟨(fun _ _ _ h => by cases h), hcells⟩⟩
  | makeCells data info => cases hl
  | setUnordered cell => cases hl
  | publish request => cases hl
  | finishReceiver reply => cases hl
  | unsubscribeCommonEvent listener => cases hl

/-- The locked update of `FinishReceiver` changes the code and the data of an
event, and never its want. -/
theorem want_finishUpdate (s : ControlManager) (call : FinishCall) (cell : CellId) :
    ((s.finishUpdate call).cells cell).want = (s.cells cell).want := by
  unfold finishUpdate
  dsimp only
  by_cases hcell : cell = (s.records call.record).commonEventData
  · rw [hcell, Function.update_self]
  · rw [Function.update_of_ne hcell]

/-- A new cell is none of those made before. -/
theorem cells_makeCells (s : ControlManager) (data : CommonEventData)
    (info : CommonEventPublishInfo) {cell : CellId} (hcell : cell < s.nextCell) :
    (s.makeCells data info).cells cell = s.cells cell :=
  Function.update_of_ne (Nat.ne_of_lt hcell) _ _

/-- **What a step does to the cells that have been made**: it writes one in
the locked update of `FinishReceiver`, and none apart from that. -/
theorem made_step {l : ControlLabel} (hstep : s.step P S l = some t) :
    s.nextCell ≤ t.nextCell ∧
      ((∃ i call state, l = .op i ∧ s.ops[i]? = some (.finishUpdate call state)
          ∧ t.cells = (s.finishUpdate call).cells)
        ∨ ((∀ i call state, l = .op i → s.ops[i]? ≠ some (.finishUpdate call state))
          ∧ ∀ cell < s.nextCell, t.cells cell = s.cells cell)) := by
  by_cases hl : l.isInternal = true
  · obtain ⟨hnext, hcells⟩ := cells_step hl hstep
    exact ⟨hnext.ge, hcells.imp_right (And.imp_right fun heq cell _ => congrFun heq cell)⟩
  · have hcall : ∀ i call state, l = .op i → s.ops[i]? ≠ some (.finishUpdate call state) := by
      rintro i call state rfl
      exact absurd rfl hl
    suffices hmade : s.nextCell ≤ t.nextCell ∧ ∀ cell < s.nextCell, t.cells cell = s.cells cell from
      ⟨hmade.1, Or.inr ⟨hcall, hmade.2⟩⟩
    cases l with
    | makeCells data info =>
      cases hstep
      exact ⟨Nat.le_succ _, fun cell hcell => s.cells_makeCells data info hcell⟩
    | setUnordered cell =>
      cases hstep
      exact ⟨Nat.le_refl _, fun _ _ => rfl⟩
    | publish request =>
      cases hstep
      exact ⟨Nat.le_succ _, fun cell hcell => s.cells_makeCells request.event.commonEventData
        request.event.publishInfo hcell⟩
    | finishReceiver reply =>
      cases hstep
      unfold ControlManager.finishReceiver
      split <;> exact ⟨Nat.le_refl _, fun _ _ => rfl⟩
    | unsubscribeCommonEvent listener =>
      cases hstep
      unfold ControlManager.unsubscribeCommonEvent
      split
      · exact ⟨Nat.le_refl _, fun _ _ => rfl⟩
      · split <;> exact ⟨Nat.le_refl _, fun _ _ => rfl⟩
    | _ => exact absurd rfl hl

/-- Clearing the ordered flag of some infos leaves all else. -/
theorem foldl_setUnordered (s : ControlManager) (cells : List CellId) :
    (cells.foldl ControlManager.setUnordered s).records = s.records
      ∧ (cells.foldl ControlManager.setUnordered s).cells = s.cells
      ∧ (cells.foldl ControlManager.setUnordered s).nextCell = s.nextCell := by
  induction cells generalizing s with
  | nil => exact ⟨rfl, rfl, rfl⟩
  | cons cell cells ih => exact ih (s.setUnordered cell)

end ControlManager

/-! ## The calls on the service -/

namespace InnerCommonEventManager

variable {P : Platform} {S : StdSort} {C : Config} {s t : InnerCommonEventManager}

/-- **What a publish can come to.** -/
theorem publishCommonEvent_cases (s : InnerCommonEventManager) (args : PublishArgs)
    (env : StaticEnvironment) :
    (checkPublish P C args = none ∧ s.publishCommonEvent P S C args env = (false, s)) ∨
    ∃ comeFrom user, checkPublish P C args = some (comeFrom, user) ∧
      ((args.publishInfo.sticky && !isStickyAllowed P (publisherInfo args comeFrom)) = true ∧
          s.publishCommonEvent P S C args env = (false, s.publishStatic P C args user env) ∨
        ((args.publishInfo.sticky && !isStickyAllowed P (publisherInfo args comeFrom)) = false ∧
          ∃ u : InnerCommonEventManager,
            u = { s.publishStatic P C args user env with
              sticky :=
                if args.publishInfo.sticky then
                  s.sticky.updateStickyEvent args.data.want.action
                    (s.eventRecordOf P args comeFrom user)
                else s.sticky } ∧
            ((C.hasControl = false ∧ s.publishCommonEvent P S C args env
                = (false, { u with
                  control := s.control.makeCells args.data args.publishInfo })) ∨
              (C.hasControl = true ∧ s.publishCommonEvent P S C args env
                = (true, { u.controlPublishCommonEvent P S (s.eventRecordOf P args comeFrom user)
                    { s.eventRecordOf P args comeFrom user with
                      commonEventData := args.data
                      publishInfo := args.publishInfo } args.commonEventListener with
                  trace :=
                    if args.publishInfo.sticky
                    then s.trace ++ [.published args.data.want.action args.data args.uid]
                    else s.trace }))))) := by
  cases hcheck : checkPublish P C args with
  | none =>
    refine Or.inl ⟨rfl, ?_⟩
    unfold publishCommonEvent
    rw [hcheck]
  | some checked =>
    obtain ⟨comeFrom, user⟩ := checked
    refine Or.inr ⟨comeFrom, user, rfl, ?_⟩
    unfold publishCommonEvent
    rw [hcheck]
    dsimp only
    unfold publishRecord
    dsimp only
    cases hsticky : args.publishInfo.sticky && !isStickyAllowed P (publisherInfo args comeFrom) with
    | true => exact Or.inl ⟨rfl, if_pos hsticky⟩
    | false =>
      refine Or.inr ⟨rfl, _, rfl, ?_⟩
      have hpass : ¬(args.publishInfo.sticky && !isStickyAllowed P
          ((s.publishStatic P C args user env).eventRecordOf P args comeFrom
            user).eventRecordInfo) = true := by
        rw [show ((s.publishStatic P C args user env).eventRecordOf P args comeFrom
          user).eventRecordInfo = publisherInfo args comeFrom from rfl, hsticky]
        decide
      rw [if_neg hpass]
      cases hcontrol : C.hasControl with
      | false =>
        refine Or.inl ⟨rfl, ?_⟩
        cases args.publishInfo.sticky <;> rfl
      | true =>
        refine Or.inr ⟨rfl, ?_⟩
        cases args.publishInfo.sticky <;> rfl

/-- **What every round of the replay preserves, the replay preserves.** -/
theorem publishStickyEvents_induction {I : InnerCommonEventManager → Prop}
    {r : SubscriberRecordPtr} {records : List (CommonEventRecord CellId CellId)}
    (hunordered : ∀ s cell, I s → I { s with control := s.control.setUnordered cell })
    (hpublish : ∀ s, ∀ record ∈ records, I s → I (s.publishStickyCommonEvent P record r))
    (hs : I s) : I (publishStickyEvents P C r s records) := by
  induction records generalizing s with
  | nil => exact hs
  | cons record records ih =>
    have hpublish' : ∀ s, ∀ record ∈ records, I s → I (s.publishStickyCommonEvent P record r) :=
      fun s record' hmem => hpublish s record' (List.mem_cons_of_mem _ hmem)
    unfold publishStickyEvents
    split
    · exact ih hpublish' hs
    · dsimp only
      split
      · exact ih hpublish' (hpublish _ record List.mem_cons_self (hunordered s _ hs))
      · exact hunordered s _ hs

/-- The same, for the replay of a subscription. -/
theorem publishStickyEvent_induction {I : InnerCommonEventManager → Prop}
    {info : CommonEventSubscribeInfo} {record : Option SubscriberRecordPtr}
    (hunordered : ∀ s cell, I s → I { s with control := s.control.setUnordered cell })
    (hpublish : ∀ t r, record = some r → ∀ event ∈ s.sticky.findStickyEvents info, I t →
      I (t.publishStickyCommonEvent P event r))
    (hs : I s) : I (s.publishStickyEvent P C info record) := by
  unfold publishStickyEvent
  cases record with
  | none => exact hs
  | some r => exact publishStickyEvents_induction hunordered (fun t => hpublish t r rfl) hs

/-- **What a subscription does**: nothing, or the insertion and the replay. -/
theorem subscribeCommonEvent_induction {I : InnerCommonEventManager → Prop}
    {args : SubscribeArgs} (hinsert : ∀ info recordInfo,
      I (s.insertSubscriber S args info recordInfo).2)
    (hunordered : ∀ s cell, I s → I { s with control := s.control.setUnordered cell })
    (hpublish : ∀ t r info, ∀ event ∈ s.sticky.findStickyEvents info, I t →
      I (t.publishStickyCommonEvent P event r))
    (hs : I s) : I (s.subscribeCommonEvent P S C args) := by
  unfold subscribeCommonEvent
  cases checkSubscribe P C args with
  | none => exact hs
  | some checked =>
    exact publishStickyEvent_induction hunordered
      (fun t r _ => hpublish t r checked.1) (hinsert checked.1 checked.2)

theorem noteInsertion_control (s : InnerCommonEventManager)
    (insertion : FrozenInsertion CellId CellId) :
    (s.noteInsertion insertion).control = s.control := by
  unfold noteInsertion
  split <;> rfl

theorem noteInsertion_sticky (s : InnerCommonEventManager)
    (insertion : FrozenInsertion CellId CellId) :
    (s.noteInsertion insertion).sticky = s.sticky := by
  unfold noteInsertion
  split <;> rfl

theorem noteInsertion_trace (s : InnerCommonEventManager)
    (insertion : FrozenInsertion CellId CellId) :
    (s.noteInsertion insertion).trace = s.trace := by
  unfold noteInsertion
  split <;> rfl

theorem note_control (s : InnerCommonEventManager)
    (tasks : List (UnorderedTask CellId CellId)) : (s.note tasks).control = s.control := by
  unfold note
  split
  · exact s.noteInsertion_control _
  · rfl
  · rfl

theorem note_sticky (s : InnerCommonEventManager)
    (tasks : List (UnorderedTask CellId CellId)) : (s.note tasks).sticky = s.sticky := by
  unfold note
  split
  · exact s.noteInsertion_sticky _
  · rfl
  · rfl

theorem note_trace (s : InnerCommonEventManager)
    (tasks : List (UnorderedTask CellId CellId)) :
    (s.note tasks).trace = s.trace
      ∨ ∃ buffering data, (s.note tasks).trace = s.trace ++ [.redelivered buffering data] := by
  unfold note
  split
  · exact Or.inl (s.noteInsertion_trace _)
  · exact Or.inr ⟨_, _, rfl⟩
  · exact Or.inl rfl

/-- **What a step of the ordered pipeline is**: one of its machine, by which
the ordered queue may come to a receiver, or an insertion for one that is
frozen. -/
theorem controlStep_cases {l : ControlLabel} (hstep : s.step P S C (.control l) = some t) :
    (∃ l' control, l'.isInternal = true ∧ (∀ i, l = .op i ↔ l' = .op i)
        ∧ s.control.step P S l' = some control
        ∧ (t = { s with control := control } ∨
          ∃ sp, ∃ receiver ∈ (s.control.records sp).receivers, ∃ delivery,
            s.delivery.step P S (.notifyOrderedEvent (s.control.records sp).toCommonEventRecord
              receiver.record) = some delivery
              ∧ t = { s with
                control := control
                delivery := delivery }))
      ∨ ∃ answer insertion delivery, l = .thread answer
        ∧ s.delivery.ordered = some insertion
        ∧ s.delivery.step P S .notifyFrozenSubscriber = some delivery
        ∧ t = { s.noteInsertion insertion with delivery := delivery } := by
  have hinternal : ∀ l : ControlLabel, (∀ answer, l ≠ .thread answer) →
      (if l.isInternal then
        (s.control.step P S l).map (fun control => { s with control := control })
      else none) = some t →
      ∃ control, l.isInternal = true ∧ s.control.step P S l = some control
        ∧ t = { s with control := control } := by
    intro l _ h
    split at h
    next hl =>
      obtain ⟨control, hcontrol, rfl⟩ := Option.map_eq_some_iff.mp h
      exact ⟨control, hl, hcontrol, rfl⟩
    next => cases h
  by_cases hthread : ∃ answer, l = .thread answer
  · obtain ⟨answer, rfl⟩ := hthread
    have hplain : ∀ answer',
        (s.control.step P S (.thread answer')).map
          (fun control => { s with control := control }) = some t →
        ∃ l' control, l'.isInternal = true ∧ (∀ i, ControlLabel.thread answer = .op i ↔ l' = .op i)
          ∧ s.control.step P S l' = some control
          ∧ (t = { s with control := control } ∨
            ∃ sp, ∃ receiver ∈ (s.control.records sp).receivers, ∃ delivery,
              s.delivery.step P S (.notifyOrderedEvent
                (s.control.records sp).toCommonEventRecord receiver.record) = some delivery
                ∧ t = { s with
                  control := control
                  delivery := delivery }) := by
      intro answer' h
      obtain ⟨control, hcontrol, rfl⟩ := Option.map_eq_some_iff.mp h
      exact ⟨.thread answer', control, rfl, fun i => ⟨nofun, nofun⟩, hcontrol, Or.inl rfl⟩
    rw [step, stepThread] at hstep
    split at hstep
    · split at hstep
      next sp _ _ _ receiver hreceiver =>
        obtain ⟨control, hcontrol, hstep⟩ := Option.bind_eq_some_iff.mp hstep
        obtain ⟨delivery, hdelivery, rfl⟩ := Option.map_eq_some_iff.mp hstep
        exact Or.inl ⟨.thread _, control, rfl, fun i => ⟨nofun, nofun⟩, hcontrol,
          Or.inr ⟨sp, receiver, List.mem_of_getElem? hreceiver, delivery, hdelivery, rfl⟩⟩
      · exact Or.inl (hplain answer hstep)
    next insertion _ hordered =>
      obtain ⟨delivery, hdelivery, rfl⟩ := Option.map_eq_some_iff.mp hstep
      exact Or.inr ⟨answer, insertion, delivery, rfl, hordered, hdelivery, rfl⟩
    · exact Or.inl (hplain answer hstep)
  · have hl := not_exists.mp hthread
    have hcases : ∃ control, l.isInternal = true ∧ s.control.step P S l = some control
        ∧ t = { s with control := control } := by
      refine hinternal l hl ?_
      cases l with
      | thread answer => exact absurd rfl (hl answer)
      | _ => exact hstep
    obtain ⟨control, hinternal', hcontrol, rfl⟩ := hcases
    exact Or.inl ⟨l, control, hinternal', fun _ => Iff.rfl, hcontrol, Or.inl rfl⟩

/-! ## The parts are machines of their own -/

/-- **What a step of the service does to the ordered pipeline**: it clears the
ordered flag of some infos, or publishes what it has looked up, or makes
another step of the machine of the pipeline. -/
theorem control_cases {l : ServiceLabel} (hstep : s.step P S C l = some t) :
    (∃ cells : List CellId, t.control = cells.foldl ControlManager.setUnordered s.control
      ∧ ∀ i, l ≠ .control (.op i)) ∨
    (∃ request : PublishRequest, request.manager = s.delivery.manager
      ∧ t.control = s.control.processOrderedEvent P S request
      ∧ t.delivery.manager = (s.delivery.manager.getSubscriberRecords P request.event).2
      ∧ ∀ i, l ≠ .control (.op i)) ∨
    ∃ l', (∀ request, l' ≠ .publish request) ∧ (∀ i, l = .control (.op i) ↔ l' = .op i)
      ∧ s.control.step P S l' = some t.control := by
  by_cases hl : ∃ l', l = .control l'
  · obtain ⟨l, rfl⟩ := hl
    rcases controlStep_cases hstep with ⟨l', control, hl', hop, hcontrol, ht⟩ |
      ⟨answer, insertion, delivery, rfl, -, -, rfl⟩
    · have hcontrol' : t.control = control := by
        rcases ht with rfl | ⟨-, -, -, delivery, -, rfl⟩ <;> rfl
      refine Or.inr (Or.inr ⟨l', ?_, fun i => ?_, hcontrol' ▸ hcontrol⟩)
      · rintro request rfl
        cases hl'
      · rw [ServiceLabel.control.injEq]
        exact hop i
    · exact Or.inl ⟨[], s.noteInsertion_control insertion, by simp⟩
  have hl' : ∀ i, l ≠ .control (.op i) := fun i => not_exists.mp hl (.op i)
  -- a call changes the pipeline by a call on it, or not at all
  have hsame : ∀ {control}, control = s.control → ∃ cells : List CellId,
      control = cells.foldl ControlManager.setUnordered s.control
        ∧ ∀ i, l ≠ .control (.op i) := fun hcontrol => ⟨[], hcontrol, hl'⟩
  have hcall : ∀ {control} l', (∀ request, l' ≠ .publish request) → (∀ i, l' ≠ .op i) →
      s.control.step P S l' = some control →
      ∃ l', (∀ request, l' ≠ .publish request) ∧ (∀ i, l = .control (.op i) ↔ l' = .op i)
        ∧ s.control.step P S l' = some control :=
    fun l' hpublish hop hcontrol =>
      ⟨l', hpublish, fun i => iff_of_false (hl' i) (hop i), hcontrol⟩
  cases l with
  | publishCommonEvent args env =>
    cases hstep
    rcases publishCommonEvent_cases (P := P) (S := S) (C := C) s args env with ⟨-, heq⟩ |
      ⟨comeFrom, user, -, ⟨-, heq⟩ | ⟨-, u, rfl, ⟨-, heq⟩ | ⟨-, heq⟩⟩⟩
    · exact Or.inl (hsame (by rw [heq]))
    · exact Or.inl (hsame (by rw [heq]; rfl))
    · exact Or.inr (Or.inr (hcall (.makeCells args.data args.publishInfo) (by simp) (by simp)
        (by rw [heq]; rfl)))
    · rw [heq]
      unfold controlPublishCommonEvent
      split
      · exact Or.inr (Or.inl ⟨⟨s.delivery.manager, _, _⟩, rfl, rfl, rfl, hl'⟩)
      · exact Or.inr (Or.inr (hcall (.makeCells args.data args.publishInfo) (by simp) (by simp)
          rfl))
  | subscribeCommonEvent args =>
    cases hstep
    refine Or.inl ?_
    have hround : ∀ (t : InnerCommonEventManager) (cell : CellId),
        (∃ cells : List CellId, t.control = cells.foldl ControlManager.setUnordered s.control) →
        ∃ cells : List CellId,
          t.control.setUnordered cell = cells.foldl ControlManager.setUnordered s.control := by
      rintro t cell ⟨cells, hcells⟩
      exact ⟨cells ++ [cell], by rw [List.foldl_append, ← hcells]; rfl⟩
    -- each round of the replay clears one flag
    obtain ⟨cells, hcells⟩ := subscribeCommonEvent_induction (P := P) (S := S) (C := C)
      (I := fun t => ∃ cells : List CellId,
        t.control = cells.foldl ControlManager.setUnordered s.control)
      (fun _ _ => ⟨[], rfl⟩) hround (fun _ _ _ _ _ ht => ht) ⟨[], rfl⟩
    exact ⟨cells, hcells, hl'⟩
  | unsubscribeCommonEvent listener =>
    cases hstep
    unfold unsubscribeCommonEvent
    split
    · exact Or.inl (hsame rfl)
    · exact Or.inr (Or.inr (hcall (.unsubscribeCommonEvent listener) (by simp) (by simp) rfl))
  | finishReceiver reply =>
    cases hstep
    unfold finishReceiver
    split
    · exact Or.inr (Or.inr (hcall (.finishReceiver reply) (by simp) (by simp) rfl))
    · exact Or.inl (hsame rfl)
  | removeStickyCommonEvent event callerUid =>
    cases hstep
    exact Or.inl (hsame rfl)
  | setStaticSubscriberState callingUid bundleName events enable =>
    cases hstep
    refine Or.inl (hsame ?_)
    unfold setStaticSubscriberState
    split <;> rfl
  | freeze uid now =>
    cases hstep
    exact Or.inl (hsame rfl)
  | unfreeze uid =>
    cases hstep
    refine Or.inl (hsame ?_)
    unfold unfreeze release
    split <;> rfl
  | setFreezeStatus pidList isFreeze now =>
    cases hstep
    refine Or.inl (hsame ?_)
    unfold setFreezeStatus release
    split <;> rfl
  | unfreezeAll =>
    cases hstep
    refine Or.inl (hsame ?_)
    unfold unfreezeAll release
    split <;> rfl
  | onRemoteDied remote =>
    cases hstep
    exact Or.inl (hsame rfl)
  | control l => exact absurd ⟨l, rfl⟩ hl
  | unordered =>
    obtain ⟨delivery, -, rfl⟩ := Option.map_eq_some_iff.mp hstep
    exact Or.inl (hsame (s.note_control _))
  | unorderedImmediate =>
    obtain ⟨delivery, -, rfl⟩ := Option.map_eq_some_iff.mp hstep
    exact Or.inl (hsame (s.note_control _))
  | call i =>
    obtain ⟨delivery, -, rfl⟩ := Option.map_eq_some_iff.mp hstep
    exact Or.inl (hsame rfl)

/-- **The ordered pipeline inside the service makes the steps of its
machine.** -/
theorem control_step {l : ServiceLabel} (h : (orderedMachine P S).Reachable s.control)
    (hstep : s.step P S C l = some t) : (orderedMachine P S).Reachable t.control := by
  rcases control_cases hstep with ⟨cells, hcontrol, -⟩ | ⟨request, -, hcontrol, -, -⟩ |
    ⟨l', -, -, hcontrol⟩
  · rw [hcontrol]
    exact List.foldlRecOn cells _ h fun control hcells cell _ =>
      hcells.step (l := .setUnordered cell) rfl
  · rw [hcontrol]
    exact h.step (l := .publish request) rfl
  · exact h.step hcontrol

/-- **Unordered delivery inside the service makes the steps of its machine**,
as long as there is a control manager: without one, an unfreezing call is
left half-way. -/
theorem delivery_step (hC : C.hasControl = true) {l : ServiceLabel}
    (h : (deliveryMachine P S CellId CellId).Reachable s.delivery)
    (hstep : s.step P S C l = some t) :
    (deliveryMachine P S CellId CellId).Reachable t.delivery := by
  cases l with
  | publishCommonEvent args env =>
    cases hstep
    rcases publishCommonEvent_cases (P := P) (S := S) (C := C) s args env with ⟨-, heq⟩ |
      ⟨comeFrom, user, -, ⟨-, heq⟩ | ⟨-, u, rfl, ⟨-, heq⟩ | ⟨-, heq⟩⟩⟩
    all_goals rw [heq]
    · exact h
    · exact h
    · exact h
    · unfold controlPublishCommonEvent
      split
      · exact h.step (l := .getSubscriberRecords _) rfl
      · exact UnorderedDelivery.reachable_processUnorderedEvent h _ _ none (by simp)
  | subscribeCommonEvent args =>
    cases hstep
    unfold subscribeCommonEvent
    cases checkSubscribe P C args with
    | none => exact h
    | some checked =>
      obtain ⟨info, recordInfo⟩ := checked
      have hinserted : (deliveryMachine P S CellId CellId).Reachable
          (s.insertSubscriber S args info recordInfo).2.delivery :=
        h.step (l := .insertSubscriber args.maxSubscriberNum (some info)
          args.commonEventListener recordInfo) rfl
      refine (publishStickyEvent_induction
        (I := fun t => (deliveryMachine P S CellId CellId).Reachable t.delivery
          ∧ t.delivery.manager.nextAddr
            = (s.insertSubscriber S args info recordInfo).2.delivery.manager.nextAddr)
        (fun _ _ hs => hs) (fun t r hr event _ ht => ⟨?_, ht.2⟩) ⟨hinserted, rfl⟩).1
      -- the record is registered, and so it has been made
      have hrecord :
          r ∈ (s.insertSubscriber S args info recordInfo).2.delivery.manager.subscribers :=
        (SubscriberManager.insertSubscriber_some S (Prod.ext hr rfl)).1
      have halloc : r < t.delivery.manager.nextAddr := by
        rw [ht.2]
        exact (UnorderedDelivery.indexSound_reachable hinserted).allocated r hrecord
      exact UnorderedDelivery.reachable_processUnorderedEvent ht.1 event (t.view event)
        (some r) (by simpa using halloc)
  | unsubscribeCommonEvent listener =>
    cases hstep
    unfold unsubscribeCommonEvent
    split
    · exact h
    · exact h.step (l := .removeSubscriber listener) rfl
  | finishReceiver reply =>
    cases hstep
    unfold finishReceiver
    split <;> exact h
  | removeStickyCommonEvent event callerUid =>
    cases hstep
    exact h
  | setStaticSubscriberState callingUid bundleName events enable =>
    cases hstep
    unfold setStaticSubscriberState
    split <;> exact h
  | freeze uid now =>
    cases hstep
    exact h.step (l := .freeze uid now) rfl
  | unfreeze uid =>
    cases hstep
    unfold unfreeze release
    -- the unfreezing call is the one of the machine
    rw [if_pos hC]
    exact h.step (l := .unfreeze uid) rfl
  | setFreezeStatus pidList isFreeze now =>
    cases hstep
    unfold setFreezeStatus release
    rw [if_pos hC]
    exact h.step (l := .setFreezeStatus pidList isFreeze now) rfl
  | unfreezeAll =>
    cases hstep
    unfold unfreezeAll release
    rw [if_pos hC]
    exact h.step (l := .unfreezeAll) rfl
  | onRemoteDied remote =>
    cases hstep
    exact h.step (l := .removeSubscriber (some remote)) rfl
  | control l =>
    rcases controlStep_cases hstep with
      ⟨-, control, -, -, -, rfl | ⟨sp, receiver, -, delivery, hdelivery, rfl⟩⟩ |
      ⟨-, insertion, delivery, -, -, hdelivery, rfl⟩
    · exact h
    · exact h.step (l := .notifyOrderedEvent _ receiver.record) hdelivery
    · exact h.step (l := .notifyFrozenSubscriber) hdelivery
  | unordered =>
    obtain ⟨delivery, hdelivery, rfl⟩ := Option.map_eq_some_iff.mp hstep
    exact h.step (l := .unordered) hdelivery
  | unorderedImmediate =>
    obtain ⟨delivery, hdelivery, rfl⟩ := Option.map_eq_some_iff.mp hstep
    exact h.step (l := .unorderedImmediate) hdelivery
  | call i =>
    obtain ⟨delivery, hdelivery, rfl⟩ := Option.map_eq_some_iff.mp hstep
    exact h.step (l := .call i) hdelivery

/-- **What is reachable for the service is reachable for the ordered
pipeline.** -/
theorem control_reachable (hs : (serviceMachine P S C).Reachable s) :
    (orderedMachine P S).Reachable s.control :=
  Machine.invariant (M := serviceMachine P S C)
    (I := fun s => (orderedMachine P S).Reachable s.control) Machine.Reachable.init
    (fun _ _ _ h hstep => control_step h hstep) hs

/-- **What is reachable for the service is reachable for unordered
delivery.** -/
theorem delivery_reachable (hC : C.hasControl = true)
    (hs : (serviceMachine P S C).Reachable s) :
    (deliveryMachine P S CellId CellId).Reachable s.delivery :=
  Machine.invariant (M := serviceMachine P S C)
    (I := fun s => (deliveryMachine P S CellId CellId).Reachable s.delivery)
    Machine.Reachable.init (fun _ _ _ h hstep => delivery_step hC h hstep) hs

/-! ## The index, under the service -/

/-- Whether a step of unordered delivery is a call of `InsertSubscriber`. -/
def isSubscription : DeliveryLabel CellId CellId → Bool
  | .insertSubscriber _ _ _ _ => true
  | _ => false

/-- **What a step of the service does to the subscriber manager**: nothing, or
what a step of unordered delivery does, or the subscription of a call that
has passed its checks. -/
theorem manager_step_cases {l : ServiceLabel} (hstep : s.step P S C l = some t) :
    t.delivery.manager = s.delivery.manager ∨
    (∃ l' u, isSubscription l' = false ∧ s.delivery.step P S l' = some u
      ∧ t.delivery.manager = u.manager) ∨
    ∃ args info recordInfo, l = .subscribeCommonEvent args
      ∧ checkSubscribe P C args = some (info, recordInfo)
      ∧ t.delivery.manager = (s.delivery.manager.insertSubscriber S args.maxSubscriberNum
        (some info) args.commonEventListener recordInfo).2 := by
  cases l with
  | publishCommonEvent args env =>
    cases hstep
    rcases publishCommonEvent_cases (P := P) (S := S) (C := C) s args env with ⟨-, heq⟩ |
      ⟨comeFrom, user, -, ⟨-, heq⟩ | ⟨-, u, rfl, ⟨-, heq⟩ | ⟨-, heq⟩⟩⟩
    all_goals rw [heq]
    · exact Or.inl rfl
    · exact Or.inl rfl
    · exact Or.inl rfl
    · -- the receivers are looked up, whether the event is ordered or not
      refine Or.inr (Or.inl ⟨.getSubscriberRecords
        { s.eventRecordOf P args comeFrom user with
          commonEventData := args.data
          publishInfo := args.publishInfo }, _, rfl, rfl, ?_⟩)
      unfold controlPublishCommonEvent
      split <;> rfl
  | subscribeCommonEvent args =>
    cases hstep
    unfold subscribeCommonEvent
    cases hcheck : checkSubscribe P C args with
    | none => exact Or.inl rfl
    | some checked =>
      refine Or.inr (Or.inr ⟨args, checked.1, checked.2, rfl, hcheck, ?_⟩)
      exact publishStickyEvent_induction
        (I := fun t => t.delivery.manager = (s.delivery.manager.insertSubscriber S
          args.maxSubscriberNum (some checked.1) args.commonEventListener checked.2).2)
        (fun _ _ hs => hs) (fun _ _ _ _ _ ht => ht) rfl
  | unsubscribeCommonEvent listener =>
    cases hstep
    unfold unsubscribeCommonEvent
    split
    · exact Or.inl rfl
    · exact Or.inr (Or.inl ⟨.removeSubscriber listener, _, rfl, rfl, rfl⟩)
  | finishReceiver reply =>
    cases hstep
    unfold finishReceiver
    split <;> exact Or.inl rfl
  | removeStickyCommonEvent event callerUid =>
    cases hstep
    exact Or.inl rfl
  | setStaticSubscriberState callingUid bundleName events enable =>
    cases hstep
    unfold setStaticSubscriberState
    split <;> exact Or.inl rfl
  | freeze uid now =>
    cases hstep
    exact Or.inr (Or.inl ⟨.freeze uid now, _, rfl, rfl, rfl⟩)
  | unfreeze uid =>
    cases hstep
    refine Or.inr (Or.inl ⟨.unfreeze uid, _, rfl, rfl, ?_⟩)
    unfold unfreeze release
    split <;> rfl
  | setFreezeStatus pidList isFreeze now =>
    cases hstep
    refine Or.inr (Or.inl ⟨.setFreezeStatus pidList isFreeze now, _, rfl, rfl, ?_⟩)
    unfold setFreezeStatus release
    split <;> rfl
  | unfreezeAll =>
    cases hstep
    refine Or.inr (Or.inl ⟨.unfreezeAll, _, rfl, rfl, ?_⟩)
    unfold unfreezeAll release
    split <;> rfl
  | onRemoteDied remote =>
    cases hstep
    exact Or.inr (Or.inl ⟨.removeSubscriber (some remote), _, rfl, rfl, rfl⟩)
  | control l =>
    rcases controlStep_cases hstep with
      ⟨-, control, -, -, -, rfl | ⟨sp, receiver, -, delivery, hdelivery, rfl⟩⟩ |
      ⟨-, insertion, delivery, -, -, hdelivery, rfl⟩
    · exact Or.inl rfl
    · exact Or.inr (Or.inl ⟨_, delivery, rfl, hdelivery, rfl⟩)
    · exact Or.inr (Or.inl ⟨_, delivery, rfl, hdelivery, rfl⟩)
  | unordered =>
    obtain ⟨delivery, hdelivery, rfl⟩ := Option.map_eq_some_iff.mp hstep
    exact Or.inr (Or.inl ⟨_, delivery, rfl, hdelivery, rfl⟩)
  | unorderedImmediate =>
    obtain ⟨delivery, hdelivery, rfl⟩ := Option.map_eq_some_iff.mp hstep
    exact Or.inr (Or.inl ⟨_, delivery, rfl, hdelivery, rfl⟩)
  | call i =>
    obtain ⟨delivery, hdelivery, rfl⟩ := Option.map_eq_some_iff.mp hstep
    exact Or.inr (Or.inl ⟨_, delivery, rfl, hdelivery, rfl⟩)

/-- The index is kept as unordered delivery keeps it. -/
theorem manager_step {l : ServiceLabel} (hstep : s.step P S C l = some t) :
    SubscriberManager.ManagerStep S s.delivery.manager t.delivery.manager := by
  rcases manager_step_cases hstep with heq | ⟨l', u, -, hu, heq⟩ |
    ⟨args, info, recordInfo, -, -, heq⟩
  · rw [heq]
    exact .refl S _
  · rw [heq]
    exact UnorderedDelivery.manager_step hu
  · exact Or.inl ⟨.insertSubscriber args.maxSubscriberNum (some info) args.commonEventListener
      recordInfo, heq⟩

/-- **The index lists nothing stale**, whatever has been called. -/
theorem indexSound_reachable (hs : (serviceMachine P S C).Reachable s) :
    s.delivery.manager.IndexSound :=
  Machine.invariant (M := serviceMachine P S C) (I := fun s => s.delivery.manager.IndexSound)
    ⟨by simp [serviceMachine, subscribersOf], by simp [serviceMachine],
      fun r hr => absurd hr (List.not_mem_nil)⟩
    (fun _ _ _ h hstep => h.managerStep (manager_step hstep)) hs

/-! ## The receivers of ordered events -/

/-- **A step of the service writes receivers only in a publish**, which looks
them up. -/
theorem receivers_step {l : ServiceLabel} (hstep : s.step P S C l = some t) :
    (∀ r, (t.control.records r).receivers = (s.control.records r).receivers) ∨
    ∃ request : PublishRequest, request.manager = s.delivery.manager
      ∧ t.control = s.control.processOrderedEvent P S request
      ∧ t.delivery.manager = (s.delivery.manager.getSubscriberRecords P request.event).2 := by
  rcases control_cases hstep with ⟨cells, hcontrol, -⟩ |
    ⟨request, hrequest, hcontrol, hmanager, -⟩ | ⟨l', hl', -, hcontrol⟩
  · refine Or.inl fun r => ?_
    rw [hcontrol, (s.control.foldl_setUnordered cells).1]
  · exact Or.inr ⟨request, hrequest, hcontrol, hmanager⟩
  · rcases ControlManager.identity_step hcontrol with ⟨request, rfl, -⟩ | ⟨-, hid, -⟩
    · exact absurd rfl (hl' request)
    · exact Or.inl fun r => congrArg Prod.snd (hid r)

/-- **The receivers of every ordered event have been made**, so that unordered
delivery refuses none of them to the ordered queue. -/
theorem receivers_allocated (hs : (serviceMachine P S C).Reachable s) :
    ∀ r, ∀ receiver ∈ (s.control.records r).receivers,
      receiver.record < s.delivery.manager.nextAddr := by
  refine (Machine.invariant (M := serviceMachine P S C)
    (I := fun s => s.delivery.manager.IndexSound ∧ ∀ r, ∀ receiver ∈
      (s.control.records r).receivers, receiver.record < s.delivery.manager.nextAddr)
    ⟨indexSound_reachable Machine.Reachable.init, fun r _ h => absurd h List.not_mem_nil⟩
    ?_ hs).2
  rintro s l t ⟨hsound, hrecords⟩ hstep
  have hmanager := manager_step hstep
  have hsound' := hsound.managerStep hmanager
  have hle := hmanager.nextAddr_le hsound.allocated
  refine ⟨hsound', fun r receiver hreceiver => ?_⟩
  -- no address is ever given back
  rcases receivers_step hstep with hsame | ⟨request, hrequest, hcontrol, hmanager'⟩
  · rw [hsame r] at hreceiver
    exact Nat.lt_of_lt_of_le (hrecords r receiver hreceiver) hle
  · rw [hcontrol] at hreceiver
    by_cases hr : r = s.control.nextRecord
    · -- a receiver that is looked up is registered
      rw [hr] at hreceiver
      unfold ControlManager.processOrderedEvent at hreceiver
      dsimp only at hreceiver
      rw [show (s.control.makeCells _ _).nextRecord = s.control.nextRecord from rfl,
        Function.update_self] at hreceiver
      unfold ControlManager.sortedReceivers at hreceiver
      obtain ⟨record, hrecord, rfl⟩ := List.mem_map.mp hreceiver
      have hmem := (S.perm _ _).mem_iff.mp hrecord
      rw [hrequest] at hmem
      have hlisted : record ∈ subscribersOf t.delivery.manager.eventSubscribers
          request.event.commonEventData.want.action := by
        rw [hmanager']
        exact List.mem_of_mem_filter hmem
      exact hsound'.allocated _ (hsound'.mem_subscribersOf hlisted).1
    · have hold : ((s.control.processOrderedEvent P S request).records r).receivers
          = (s.control.records r).receivers :=
        congrArg OrderedEventRecord.receivers (Function.update_of_ne hr _ _)
      rw [hold] at hreceiver
      exact Nat.lt_of_lt_of_le (hrecords r receiver hreceiver) hle

/-! ## Cells and sticky records -/

/-- **Where a step of the service changes a cell that has been made**: in the
locked update of `FinishReceiver`, and nowhere else. -/
theorem cells_step {l : ServiceLabel} (hstep : s.step P S C l = some t) :
    s.control.nextCell ≤ t.control.nextCell ∧
      ((∃ i call state, l = .control (.op i)
          ∧ s.control.ops[i]? = some (.finishUpdate call state)
          ∧ t.control.cells = (s.control.finishUpdate call).cells)
        ∨ ((∀ i call state, l = .control (.op i) →
            s.control.ops[i]? ≠ some (.finishUpdate call state))
          ∧ ∀ cell < s.control.nextCell, t.control.cells cell = s.control.cells cell)) := by
  rcases control_cases hstep with ⟨cells, hcontrol, hl⟩ | ⟨request, -, hcontrol, -, hl⟩ |
    ⟨l', -, hop, hcontrol⟩
  · obtain ⟨-, hcells, hnext⟩ := s.control.foldl_setUnordered cells
    rw [hcontrol]
    exact ⟨hnext.ge, Or.inr ⟨fun i _ _ h => absurd h (hl i), fun cell _ => congrFun hcells cell⟩⟩
  · rw [hcontrol]
    exact ⟨Nat.le_succ _, Or.inr ⟨fun i _ _ h => absurd h (hl i),
      fun cell hcell => s.control.cells_makeCells request.event.commonEventData
        request.event.publishInfo hcell⟩⟩
  · obtain ⟨hnext, ⟨i, call, state, rfl, hsome, hcells⟩ | ⟨hnot, hcells⟩⟩ :=
      ControlManager.made_step hcontrol
    · exact ⟨hnext, Or.inl ⟨i, call, state, (hop i).mpr rfl, hsome, hcells⟩⟩
    · exact ⟨hnext, Or.inr ⟨fun i call state hi => hnot i call state ((hop i).mp hi), hcells⟩⟩

/-- No step changes the want in a cell that has been made. -/
theorem want_step {l : ServiceLabel} (hstep : s.step P S C l = some t) {cell : CellId}
    (hcell : cell < s.control.nextCell) :
    (t.control.cells cell).want = (s.control.cells cell).want := by
  rcases (cells_step hstep).2 with ⟨-, call, -, -, -, hcells⟩ | ⟨-, hcells⟩
  · rw [hcells]
    exact s.control.want_finishUpdate call cell
  · rw [hcells cell hcell]

/-- A publish that is not refused at once names its event. -/
theorem action_of_checkPublish {args : PublishArgs} {checked : EventComeFrom × Int}
    (h : checkPublish P C args = some checked) : args.data.want.action ≠ "" := by
  intro haction
  unfold checkPublish at h
  rw [if_pos haction] at h
  cases h

/-- Whether a step is a sticky publish that passes all its checks. -/
def AdmitsSticky (P : Platform) (C : Config) : ServiceLabel → Prop
  | .publishCommonEvent args _ => ∃ comeFrom user, checkPublish P C args = some (comeFrom, user)
      ∧ args.publishInfo.sticky = true ∧ isStickyAllowed P (publisherInfo args comeFrom) = true
  | _ => False

/-- **Where a step of the service changes the sticky store**: an admitted
sticky publish stores its record, whose data is in a new cell, and a removal
removes. Both are traced, a publish where it returns `true`. -/
theorem sticky_step {l : ServiceLabel} (hstep : s.step P S C l = some t) :
    (∃ args env comeFrom user, l = .publishCommonEvent args env
        ∧ checkPublish P C args = some (comeFrom, user) ∧ args.publishInfo.sticky = true
        ∧ isStickyAllowed P (publisherInfo args comeFrom) = true
        ∧ t.sticky = s.sticky.updateStickyEvent args.data.want.action
          (s.eventRecordOf P args comeFrom user)
        ∧ s.control.nextCell < t.control.nextCell
        ∧ t.control.cells s.control.nextCell = args.data
        ∧ t.trace = if C.hasControl
          then s.trace ++ [.published args.data.want.action args.data args.uid] else s.trace)
      ∨ (∃ event callerUid, l = .removeStickyCommonEvent event callerUid
        ∧ t.sticky = s.sticky.removeStickyCommonEvent event callerUid
        ∧ t.trace = s.trace ++ [.removed event callerUid])
      ∨ (t.sticky = s.sticky ∧ (t.trace = s.trace
          ∨ ∃ buffering data, t.trace = s.trace ++ [.redelivered buffering data])
        ∧ ¬ AdmitsSticky P C l) := by
  cases l with
  | publishCommonEvent args env =>
    cases hstep
    rcases publishCommonEvent_cases (P := P) (S := S) (C := C) s args env with ⟨hcheck, heq⟩ |
      ⟨comeFrom, user, hcheck, ⟨hrefused, heq⟩ | ⟨hsticky, u, rfl, hrest⟩⟩
    · refine Or.inr (Or.inr ?_)
      rw [heq]
      refine ⟨rfl, Or.inl rfl, fun ⟨comeFrom, user, hsome, _⟩ => ?_⟩
      rw [hcheck] at hsome
      cases hsome
    · refine Or.inr (Or.inr ?_)
      rw [heq]
      refine ⟨rfl, Or.inl rfl, fun ⟨comeFrom', user', hsome, _, hallowed⟩ => ?_⟩
      cases hcheck.symm.trans hsome
      rw [hallowed, Bool.not_true, Bool.and_false] at hrefused
      cases hrefused
    · cases hs : args.publishInfo.sticky with
      | false =>
        have hother : ¬ AdmitsSticky P C (.publishCommonEvent args env) := by
          rintro ⟨comeFrom', user', -, hsticky', -⟩
          rw [hs] at hsticky'
          cases hsticky'
        refine Or.inr (Or.inr ?_)
        rcases hrest with ⟨-, heq⟩ | ⟨-, heq⟩
        · rw [heq]
          exact ⟨if_neg (by simp [hs]), Or.inl rfl, hother⟩
        · rw [heq]
          unfold controlPublishCommonEvent
          split
          · exact ⟨if_neg (by simp [hs]), Or.inl (if_neg (by simp [hs])), hother⟩
          · exact ⟨if_neg (by simp [hs]), Or.inl (if_neg (by simp [hs])), hother⟩
      | true =>
        have hallowed : isStickyAllowed P (publisherInfo args comeFrom) = true := by
          simpa [hs] using hsticky
        refine Or.inl ⟨args, env, comeFrom, user, rfl, hcheck, hs, hallowed, ?_⟩
        rcases hrest with ⟨hC, heq⟩ | ⟨hC, heq⟩
        · rw [heq, hC]
          exact ⟨if_pos hs, Nat.lt_succ_self _, Function.update_self _ _ _, rfl⟩
        · rw [heq, hC]
          unfold controlPublishCommonEvent
          split
          all_goals exact ⟨rfl, Nat.lt_succ_self _, Function.update_self _ _ _, rfl⟩
  | subscribeCommonEvent args =>
    cases hstep
    obtain ⟨hsticky, htrace⟩ := subscribeCommonEvent_induction (P := P) (S := S) (C := C)
      (I := fun t => t.sticky = s.sticky ∧ t.trace = s.trace)
      (fun _ _ => ⟨rfl, rfl⟩) (fun _ _ hs => hs) (fun _ _ _ _ _ ht => ht) ⟨rfl, rfl⟩
    exact Or.inr (Or.inr ⟨hsticky, Or.inl htrace, not_false⟩)
  | removeStickyCommonEvent event callerUid =>
    cases hstep
    exact Or.inr (Or.inl ⟨event, callerUid, rfl, rfl, rfl⟩)
  | unsubscribeCommonEvent listener =>
    cases hstep
    refine Or.inr (Or.inr ?_)
    unfold unsubscribeCommonEvent
    split <;> exact ⟨rfl, Or.inl rfl, not_false⟩
  | finishReceiver reply =>
    cases hstep
    refine Or.inr (Or.inr ?_)
    unfold finishReceiver
    split <;> exact ⟨rfl, Or.inl rfl, not_false⟩
  | setStaticSubscriberState callingUid bundleName events enable =>
    cases hstep
    refine Or.inr (Or.inr ?_)
    unfold setStaticSubscriberState
    split <;> exact ⟨rfl, Or.inl rfl, not_false⟩
  | freeze uid now =>
    cases hstep
    exact Or.inr (Or.inr ⟨rfl, Or.inl rfl, not_false⟩)
  | unfreeze uid =>
    cases hstep
    refine Or.inr (Or.inr ?_)
    unfold unfreeze release
    split <;> exact ⟨rfl, Or.inl rfl, not_false⟩
  | setFreezeStatus pidList isFreeze now =>
    cases hstep
    refine Or.inr (Or.inr ?_)
    unfold setFreezeStatus release
    split <;> exact ⟨rfl, Or.inl rfl, not_false⟩
  | unfreezeAll =>
    cases hstep
    refine Or.inr (Or.inr ?_)
    unfold unfreezeAll release
    split <;> exact ⟨rfl, Or.inl rfl, not_false⟩
  | onRemoteDied remote =>
    cases hstep
    exact Or.inr (Or.inr ⟨rfl, Or.inl rfl, not_false⟩)
  | control l =>
    rcases controlStep_cases hstep with
      ⟨-, control, -, -, -, rfl | ⟨-, -, -, delivery, -, rfl⟩⟩ |
      ⟨-, insertion, delivery, -, -, -, rfl⟩
    · exact Or.inr (Or.inr ⟨rfl, Or.inl rfl, not_false⟩)
    · exact Or.inr (Or.inr ⟨rfl, Or.inl rfl, not_false⟩)
    · exact Or.inr (Or.inr ⟨s.noteInsertion_sticky insertion,
        Or.inl (s.noteInsertion_trace insertion), not_false⟩)
  | unordered =>
    obtain ⟨delivery, -, rfl⟩ := Option.map_eq_some_iff.mp hstep
    exact Or.inr (Or.inr ⟨s.note_sticky _, s.note_trace _, not_false⟩)
  | unorderedImmediate =>
    obtain ⟨delivery, -, rfl⟩ := Option.map_eq_some_iff.mp hstep
    exact Or.inr (Or.inr ⟨s.note_sticky _, s.note_trace _, not_false⟩)
  | call i =>
    obtain ⟨delivery, -, rfl⟩ := Option.map_eq_some_iff.mp hstep
    exact Or.inr (Or.inr ⟨rfl, Or.inl rfl, not_false⟩)

/-- **Every sticky record lies under the name of its event**, with its data in
a cell that has been made. -/
def StickyFiled (s : InnerCommonEventManager) : Prop :=
  ∀ event record, AList.lookup event s.sticky = some record →
    event ≠ "" ∧ record.commonEventData < s.control.nextCell
      ∧ (s.control.cells record.commonEventData).want.action = event

theorem stickyFiled_step {l : ServiceLabel} (h : s.StickyFiled)
    (hstep : s.step P S C l = some t) : t.StickyFiled := by
  have hnext := (cells_step hstep).1
  -- a record that was stored before is still filed
  have hold : ∀ event record, AList.lookup event s.sticky = some record →
      event ≠ "" ∧ record.commonEventData < t.control.nextCell
        ∧ (t.control.cells record.commonEventData).want.action = event := by
    intro event record hlookup
    obtain ⟨hevent, hlt, hwant⟩ := h event record hlookup
    exact ⟨hevent, Nat.lt_of_lt_of_le hlt hnext, by rw [want_step hstep hlt, hwant]⟩
  rcases sticky_step hstep with
    ⟨args, env, comeFrom, user, -, hcheck, -, -, hsticky, hlt, hdata, -⟩ |
    ⟨event', callerUid, -, hsticky, -⟩ | ⟨hsticky, -, -⟩
  · intro event record hlookup
    rw [hsticky, StickyManager.lookup_updateStickyEvent _ (action_of_checkPublish hcheck)]
      at hlookup
    split at hlookup
    next hevent =>
      cases hlookup
      refine ⟨hevent ▸ action_of_checkPublish hcheck, hlt, ?_⟩
      show (t.control.cells s.control.nextCell).want.action = event
      rw [hdata, hevent]
    next => exact hold event record hlookup
  · intro event record hlookup
    rw [hsticky, StickyManager.lookup_removeStickyCommonEvent] at hlookup
    split at hlookup
    · cases hlookup
    · exact hold event record hlookup
  · intro event record hlookup
    exact hold event record (hsticky ▸ hlookup)

theorem stickyFiled_reachable (hs : (serviceMachine P S C).Reachable s) : s.StickyFiled :=
  Machine.invariant (M := serviceMachine P S C) (I := StickyFiled)
    (fun _ _ h => absurd h (by simp [serviceMachine]))
    (fun _ _ _ h hstep => stickyFiled_step h hstep) hs

end InnerCommonEventManager

end CommonEventService

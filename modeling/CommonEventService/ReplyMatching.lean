import CommonEventService.OrderedActivity

/-!
# What a reply is matched to

A reply carries the listener that sends it, a code, data and an abort flag –
and nothing that says which delivery it answers. The service matches it to
the front record, if the listener is that record's current receiver, and
that is all the matching there is.

So a reply changes only a record that was waiting for its listener when the
reply was matched. It need not be the record the listener is answering: a
listener that took too long over one event, and is now processing another,
finishes the other one with its late reply.
-/

namespace CommonEventService

namespace ControlManager

variable {P : Platform} {S : StdSort} {s t : ControlManager}

/-- What a reply writes: the code and the data of the event, the abort flag,
the state and the current receiver. -/
def replyView (s : ControlManager) (r : ℕ) :
    Int × String × Bool × EventState × Option Remote :=
  ((s.cells (s.records r).commonEventData).code,
    (s.cells (s.records r).commonEventData).data,
    (s.records r).resultAbort, (s.records r).state, (s.records r).curReceiver)

/-- **A reply is honest**: it answers a notification that its listener was
given, by a listener that is not null. Labels that are no replies are
honest. -/
def Honest (s : ControlManager) : ControlLabel → Prop
  | .finishReceiver reply =>
    reply.proxy ≠ none
      ∧ TraceEvent.notified reply.delivery.1 reply.delivery.2 ∈ s.trace
      ∧ (s.records reply.delivery.1).receivers[reply.delivery.2]?.map
          (·.commonEventListener) = reply.proxy
  | _ => True

instance (s : ControlManager) : ∀ l, Decidable (s.Honest l)
  | .finishReceiver _ => inferInstanceAs (Decidable (_ ∧ _ ∧ _))
  | .tick _ => .isTrue trivial
  | .makeCells _ _ => .isTrue trivial
  | .setUnordered _ => .isTrue trivial
  | .publish _ => .isTrue trivial
  | .unsubscribeCommonEvent _ => .isTrue trivial
  | .op _ => .isTrue trivial
  | .processNextOrderedEvent => .isTrue trivial
  | .timeout _ => .isTrue trivial
  | .thread _ => .isTrue trivial

/-- **Replies are correlated with deliveries**: in every run of honest
replies, a reply changes a record only if it answers the delivery that is
active on that record. -/
def Correlated (P : Platform) (S : StdSort) : Prop :=
  ∀ ls, (orderedMachine P S).Guarded Honest ls → ∀ s, (orderedMachine P S).run ls = some s →
    ∀ i call state reply, s.ops[i]? = some (.finishUpdate call state) →
      call.reply = some reply → ∀ t, s.step P S (.op i) = some t →
        ∀ r < s.nextRecord, t.replyView r ≠ s.replyView r →
          (s.records r).curReceiver ≠ none
            ∧ reply.delivery = (r, (s.records r).nextReceiver - 1)

/-! ## Where a reply in progress comes from -/

/-- **A reply was matched**: at some point of the run the record was the
front of the queue and the reply's listener its current receiver. The
receivers of the record are those it has now. -/
def MatchedIn (P : Platform) (S : StdSort) (ls : List ControlLabel) (s : ControlManager)
    (r : ℕ) (reply : Reply) : Prop :=
  ∃ pre post s₀, ls = pre ++ .finishReceiver reply :: post
    ∧ (orderedMachine P S).run pre = some s₀ ∧ s₀.front = some r
    ∧ (s₀.records r).curReceiver = reply.proxy
    ∧ (s.records r).receivers = (s₀.records r).receivers

/-- A matched reply stays matched while the run goes on. -/
theorem MatchedIn.concat {ls : List ControlLabel} {l : ControlLabel} {r : ℕ} {reply : Reply}
    (h : MatchedIn P S ls s r reply)
    (hrec : (t.records r).receivers = (s.records r).receivers) :
    MatchedIn P S (ls ++ [l]) t r reply := by
  obtain ⟨pre, post, s₀, rfl, hpre, hfront, hcur, hreceivers⟩ := h
  exact ⟨pre, post ++ [l], s₀, by simp, hpre, hfront, hcur, hrec.trans hreceivers⟩

/-- **The calls in progress after a step** were in progress before it, or are
the call of the reply just matched. -/
theorem call_of_step {l : ControlLabel} (hstep : s.step P S l = some t) {op : ServiceOp}
    (hop : op ∈ t.ops) {call : FinishCall} (hcall : op.call? = some call) :
    (∃ op' ∈ s.ops, op'.call? = some call) ∨ call.reply = none ∨
      ∃ reply, l = .finishReceiver reply ∧ call.reply = some reply
        ∧ s.getMatchingOrderedReceiver reply.proxy = some call.record := by
  have hkeep : op ∈ s.ops → (∃ op' ∈ s.ops, op'.call? = some call) ∨ call.reply = none ∨
      ∃ reply, l = .finishReceiver reply ∧ call.reply = some reply
        ∧ s.getMatchingOrderedReceiver reply.proxy = some call.record :=
    fun hmem => Or.inl ⟨op, hmem, hcall⟩
  rcases ops_step hstep with hops | ⟨request, -, hops⟩ | ⟨reply, sp, hl, hmatch, hops⟩ |
    ⟨listener, sp, -, -, hops⟩ | ⟨i, op', -, hi, -, hops | ⟨op'', hops, -, -, hsame⟩⟩
  all_goals rw [hops] at hop
  · exact hkeep hop
  · rcases List.mem_append.mp hop with hop | hop
    · exact hkeep hop
    · obtain rfl := List.mem_singleton.mp hop
      cases hcall
  · rcases List.mem_append.mp hop with hop | hop
    · exact hkeep hop
    · obtain rfl := List.mem_singleton.mp hop
      cases hcall
      exact Or.inr (Or.inr ⟨reply, hl, rfl, hmatch⟩)
  · rcases List.mem_append.mp hop with hop | hop
    · exact hkeep hop
    · obtain rfl := List.mem_singleton.mp hop
      cases hcall
  · exact hkeep (List.mem_of_mem_eraseIdx hop)
  · rcases List.mem_or_eq_of_mem_set hop with hop | rfl
    · exact hkeep hop
    · rcases hsame call hcall with hcall' | hnone
      · exact Or.inl ⟨op', List.mem_of_getElem? hi, hcall'⟩
      · exact Or.inr (Or.inl hnone)

/-- **Every reply in progress was matched.** -/
theorem matchedIn {ls : List ControlLabel} (hs : (orderedMachine P S).run ls = some s) :
    ∀ op ∈ s.ops, ∀ call, op.call? = some call → ∀ reply, call.reply = some reply →
      call.record < s.nextRecord ∧ MatchedIn P S ls s call.record reply := by
  refine Machine.run_induction (M := orderedMachine P S)
    (R := fun ls s => ∀ op ∈ s.ops, ∀ call, op.call? = some call → ∀ reply,
      call.reply = some reply →
      call.record < s.nextRecord ∧ MatchedIn P S ls s call.record reply)
    (fun _ hop => absurd hop List.not_mem_nil) ?_ hs
  intro ls l s t hls ih hstep op hop call hcall reply hreply
  have hreceivers : ∀ r < s.nextRecord,
      (t.records r).receivers = (s.records r).receivers ∧ r < t.nextRecord := by
    intro r hr
    rcases identity_step hstep with ⟨request, -, rfl⟩ | ⟨-, hid, hnext, -⟩
    · refine ⟨?_, Nat.lt_succ_of_lt hr⟩
      rw [show (s.processOrderedEvent P S request).records r = s.records r from
        Function.update_of_ne (Nat.ne_of_lt hr) _ _]
    · exact ⟨congrArg Prod.snd (hid r), hnext ▸ hr⟩
  rcases call_of_step hstep hop hcall with ⟨op', hop', hcall'⟩ | hnone |
    ⟨reply', rfl, hreply', hmatch⟩
  · obtain ⟨hlt, hmatched⟩ := ih op' hop' call hcall' reply hreply
    exact ⟨(hreceivers _ hlt).2, hmatched.concat (hreceivers _ hlt).1⟩
  · rw [hnone] at hreply
    cases hreply
  · obtain rfl : reply' = reply := Option.some.inj (hreply'.symm.trans hreply)
    obtain ⟨hfront, hcur⟩ := getMatchingOrderedReceiver_some hmatch
    have hlt := (dispatch_reachable (P := P) (S := S) ⟨ls, hls⟩).front_lt hfront
    exact ⟨(hreceivers _ hlt).2, ls, [], s, rfl, hls, hfront, hcur, (hreceivers _ hlt).1⟩

/-- **The update of a reply writes to its own record only.** -/
theorem replyView_finishUpdate (hs : (orderedMachine P S).Reachable s) {i : ℕ}
    {call : FinishCall} {state : EventState} (hlt : call.record < s.nextRecord) {r : ℕ}
    (hr : r < s.nextRecord) (hne : r ≠ call.record) :
    (s.stepOp i (.finishUpdate call state)).replyView r = s.replyView r := by
  have hcell : (s.records r).commonEventData ≠ (s.records call.record).commonEventData := by
    rcases Nat.lt_or_gt_of_ne hne with h | h
    · exact Nat.ne_of_lt ((commonEventData_lt hs).2 r call.record h hlt)
    · exact Nat.ne_of_gt ((commonEventData_lt hs).2 call.record r h hr)
  have hrecords : (s.stepOp i (.finishUpdate call state)).records r = s.records r := by
    rw [stepOp_finishUpdate]
    exact Function.update_of_ne hne _ _
  have hcells : (s.stepOp i (.finishUpdate call state)).cells (s.records r).commonEventData
      = s.cells (s.records r).commonEventData := by
    rw [stepOp_finishUpdate]
    exact Function.update_of_ne hcell _ _
  unfold replyView
  rw [hrecords, hcells]

/-- **A reply changes only what it was matched to.** In every run, when a
reply changes a record, the reply was matched to that very record earlier in
the run: then the record was the front of the queue, not idle, and the
reply's listener was its current receiver and the last one handed over. A
reply whose listener is not the current receiver of the front record, when it
arrives, changes nothing at all. -/
theorem reply_changes_matched :
    (∀ ls s, (orderedMachine P S).run ls = some s →
      ∀ i call state reply listener, s.ops[i]? = some (.finishUpdate call state) →
        call.reply = some reply → reply.proxy = some listener →
        ∀ t, s.step P S (.op i) = some t →
          ∀ r < s.nextRecord, t.replyView r ≠ s.replyView r →
            ∃ pre post s₀, ls = pre ++ .finishReceiver reply :: post
              ∧ (orderedMachine P S).run pre = some s₀ ∧ s₀.front = some r
              ∧ (s₀.records r).curReceiver = some listener
              ∧ (s₀.records r).state ≠ .IDLE ∧ IsLast (s₀.records r) listener
              ∧ ((s.records r).nextReceiver = (s₀.records r).nextReceiver →
                IsLast (s.records r) listener))
    ∧ ∀ (s : ControlManager) reply,
        (∀ r, s.front = some r → (s.records r).curReceiver ≠ reply.proxy) →
        s.step P S (.finishReceiver reply) = some s := by
  refine ⟨?_, ?_⟩
  · intro ls s hs i call state reply listener hi hreply hproxy t hstep r hr hview
    have hop := List.mem_of_getElem? hi
    obtain ⟨hlt, pre, post, s₀, hls, hpre, hfront, hcur, hreceivers⟩ :=
      matchedIn hs _ hop call rfl reply hreply
    have hrecord : r = call.record := by
      by_contra hne
      have hstep' : some (s.stepOp i (.finishUpdate call state)) = some t := by
        rw [← hstep]
        show _ = s.ops[i]?.map (s.stepOp i)
        rw [hi]
        rfl
      obtain rfl := Option.some.inj hstep'
      exact hview (replyView_finishUpdate ⟨ls, hs⟩ hlt hr hne)
    subst hrecord
    rw [hproxy] at hcur
    obtain ⟨-, hstate, hlast⟩ :=
      (activity_reachable (P := P) (S := S) ⟨pre, hpre⟩).active call.record listener hcur
    refine ⟨pre, post, s₀, hls, hpre, hfront, hcur, hstate, hlast, fun hnext => ?_⟩
    obtain ⟨j, receiver, hj, hreceiver, hlistener⟩ := hlast
    exact ⟨j, receiver, hnext.trans hj, hreceivers ▸ hreceiver, hlistener⟩
  · intro s reply hnot
    show some (s.finishReceiver reply) = some s
    unfold finishReceiver getMatchingOrderedReceiver
    cases hfront : s.front with
    | none => rfl
    | some r =>
      dsimp only
      rw [if_neg (hnot r hfront)]

/-! ## A late reply -/

/-- A delivery to the one listener, up to the end of the task. -/
def deliver : List ControlLabel := .processNextOrderedEvent :: List.replicate 10 (.thread {})

/-- The late reply of the listener, to the first delivery. -/
def lateReply : Reply := ⟨some ⟨1⟩, 7, "late", true, (0, 0)⟩

/-- Two events for one listener. It lets the first delivery time out, is
given the second, and then answers the first. -/
def untilLateReply : List ControlLabel :=
  [publishE, .op 0, publishE, .op 0] ++ deliver
    ++ [.tick TIMEOUT, .timeout 0] ++ List.replicate 4 (.thread {}) ++ deliver
    ++ [.thread {}, .finishReceiver lateReply, .op 0]

/-- **A late reply aborts a later event**: replies are not correlated with
deliveries. -/
theorem not_correlated : ¬ Correlated {} .insertion := by
  intro h
  obtain ⟨s, hs, hview⟩ := Option.map_eq_some_iff.mp
    (show ((orderedMachine {} .insertion).run untilLateReply).map (fun s =>
      (s.ops, s.nextRecord, (s.records 1).curReceiver)) = some ([.finishUpdate
        ⟨1, 7, "late", some true, some lateReply, some 0⟩ .RECEIVED], 2, some ⟨1⟩) by decide)
  obtain ⟨hops, hview⟩ := Prod.mk.inj hview
  obtain ⟨hnext, hcur⟩ := Prod.mk.inj hview
  have hi : s.ops[0]? = some (.finishUpdate ⟨1, 7, "late", some true, some lateReply, some 0⟩
      .RECEIVED) := by rw [hops]; rfl
  have hguard : (orderedMachine {} .insertion).Guarded Honest untilLateReply :=
    Machine.guarded_of_guardedFrom (by decide)
  have hstep : s.step {} .insertion (.op 0) = some (s.stepOp 0 (.finishUpdate
      ⟨1, 7, "late", some true, some lateReply, some 0⟩ .RECEIVED)) := by
    show s.ops[0]?.map (s.stepOp 0) = _
    rw [hi]
    rfl
  have hchanged : (s.stepOp 0 (.finishUpdate ⟨1, 7, "late", some true, some lateReply, some 0⟩
      .RECEIVED)).replyView 1 ≠ s.replyView 1 := by
    intro heq
    have hnone : none = (s.records 1).curReceiver :=
      congrArg (fun view => view.2.2.2.2) heq
    rw [hcur] at hnone
    cases hnone
  obtain ⟨-, hdelivery⟩ := h untilLateReply hguard s hs 0 _ _ lateReply hi rfl _ hstep 1
    (by rw [hnext]; decide) hchanged
  cases hdelivery

end ControlManager

end CommonEventService

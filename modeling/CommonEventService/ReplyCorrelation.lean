import CommonEventService.OrderedProgress
import CommonEventService.OrderedProtocol

/-!
# When replies are correlated with deliveries

The service awaits an answer to the notification it has sent last, as long as
its receiver is the current one (`awaiting`). What the receiver, or the
messages on their way, still hold of it are the tokens of the protocol. A
service that is patient does not stop awaiting an answer while there is a
token left, and then the tokens never come to more than what is awaited.

`awaiting_step` says what a step of the service does to what is awaited:
nothing, unless it sends a notification, acts on an answer, or gives up.
-/

namespace CommonEventService

namespace OrderedThread

/-- Whether the serial queue has set the current receiver and not called it
yet. -/
def unsent : OrderedThread → Bool
  | .call _ _ => true
  | _ => false

end OrderedThread

namespace ControlManager

variable {P : Platform} {S : StdSort} {s t u : ControlManager} {th th' : OrderedThread} {r i : ℕ}

/-- **The delivery an answer is awaited to**, with the program counter at
`th`. -/
def awaiting (s : ControlManager) (th : OrderedThread) : Option (ℕ × ℕ) :=
  if th.unsent then none
  else s.front.bind (fun sp =>
    if (s.records sp).curReceiver = none then none
    else some (sp, (s.records sp).nextReceiver - 1))

/-- **A step of the service gives up** on the receiver at work: it is
unsubscribed, has had its time, or the call to it failed. -/
def givesUp (s : ControlManager) : ControlLabel → Bool
  | .op i =>
    match s.ops[i]? with
    | some (.finishUpdate call _) => call.reply.isNone
    | _ => false
  | .thread _ =>
    match s.thread with
    | .queueSection => s.front.any s.isOverdue
    | .handleResult _ _ isOk => !isOk
    | .timeoutHandle _ _ => true
    | _ => false
  | _ => false

/-! ## What is awaited -/

theorem awaiting_eq_some (h : s.Activity th) :
    s.awaiting th = some (r, i) ↔ th.unsent = false
      ∧ (s.records r).curReceiver ≠ none ∧ (s.records r).nextReceiver = i + 1 := by
  unfold awaiting
  cases hunsent : th.unsent with
  | true => simp
  | false =>
    rw [if_neg Bool.false_ne_true]
    constructor
    · intro heq
      obtain ⟨sp, -, heq⟩ := Option.bind_eq_some_iff.mp heq
      split at heq
      · cases heq
      next hcur =>
        obtain ⟨rfl, rfl⟩ := Prod.mk.inj (Option.some.inj heq)
        obtain ⟨listener, hlistener⟩ := Option.ne_none_iff_exists'.mp hcur
        obtain ⟨j, receiver, hnext, -, -⟩ := (h.active sp listener hlistener).2.2
        refine ⟨rfl, hcur, ?_⟩
        rw [hnext]
        rfl
    · rintro ⟨-, hcur, hnext⟩
      obtain ⟨listener, hlistener⟩ := Option.ne_none_iff_exists'.mp hcur
      rw [(h.active r listener hlistener).1, Option.bind_some, if_neg hcur, hnext]
      rfl

/-- What is awaited is the last receiver of the front record, and it is the
current one. -/
theorem receiver_of_awaiting (h : s.Activity th) (hawait : s.awaiting th = some (r, i)) :
    ∃ receiver, (s.records r).receivers[i]? = some receiver
      ∧ (s.records r).curReceiver = some receiver.commonEventListener
      ∧ s.front = some r ∧ (s.records r).nextReceiver = i + 1 := by
  obtain ⟨-, hcur, hnext⟩ := (awaiting_eq_some h).mp hawait
  obtain ⟨listener, hlistener⟩ := Option.ne_none_iff_exists'.mp hcur
  obtain ⟨hfront, -, j, receiver, hj, hreceiver, rfl⟩ := h.active r listener hlistener
  obtain rfl : j = i := by omega
  exact ⟨receiver, hreceiver, hlistener, hfront, hnext⟩

theorem awaiting_unsent (h : th.unsent = true) : s.awaiting th = none := if_pos h

/-- Nobody at work, nothing awaited. -/
theorem awaiting_nobody (h : ∀ sp, s.front = some sp → (s.records sp).curReceiver = none) :
    s.awaiting th = none := by
  unfold awaiting
  split
  · rfl
  · cases hfront : s.front with
    | none => rfl
    | some sp => rw [Option.bind_some, if_pos (h sp hfront)]

/-- What is awaited depends on the current receivers, and on how many
receivers were handed over of the record that has one. -/
theorem awaiting_congr (hs : s.Activity th) (ht : t.Activity th')
    (hcur : ∀ q, (t.records q).curReceiver = (s.records q).curReceiver)
    (hnext : ∀ q, (s.records q).curReceiver ≠ none →
      (t.records q).nextReceiver = (s.records q).nextReceiver)
    (hunsent : th'.unsent = th.unsent) : t.awaiting th' = s.awaiting th := by
  refine Option.ext fun d => ?_
  rw [awaiting_eq_some ht, awaiting_eq_some hs, hunsent, hcur]
  constructor
  · rintro ⟨hsent, hne, heq⟩
    exact ⟨hsent, hne, (hnext d.1 hne).symm.trans heq⟩
  · rintro ⟨hsent, hne, heq⟩
    exact ⟨hsent, hne, (hnext d.1 hne).trans heq⟩

/-- A write to one record that leaves its current receiver and what was
handed over. -/
theorem awaiting_update (sp : ℕ) {record : OrderedEventRecord} (hs : s.Activity th)
    (ht : t.Activity th') (hrec : t.records = Function.update s.records sp record)
    (hcur : record.curReceiver = (s.records sp).curReceiver)
    (hnext : record.curReceiver ≠ none → record.nextReceiver = (s.records sp).nextReceiver)
    (hunsent : th'.unsent = th.unsent) : t.awaiting th' = s.awaiting th := by
  refine awaiting_congr hs ht (fun q => ?_) (fun q hq => ?_) hunsent
  · rw [hrec, Function.update_apply]
    split
    next h => rw [h, hcur]
    next => rfl
  · rw [hrec, Function.update_apply]
    split
    next h =>
      rw [h]
      refine hnext ?_
      rw [hcur, ← h]
      exact hq
    next => rfl

/-- The section under the queue's lock takes nobody away from work, unless
the front record is overdue. -/
theorem curReceiver_processOrderedEventQueueLocked (ha : s.Activity .queueSection)
    {removed : List ℕ} {sp : Option ℕ}
    (hrun : s.processOrderedEventQueueLocked = some (u, removed, sp))
    (hover : s.front.any s.isOverdue = false) (q : ℕ) :
    (u.records q).curReceiver = (s.records q).curReceiver := by
  by_cases hnobody : ∀ q, (s.records q).curReceiver = none
  · -- there is nobody to take away, and nobody is put to work
    rw [hnobody q]
    have hcheck : ∀ {s u : ControlManager} {sp : ℕ} {forced : Bool},
        s.checkTimeoutForceReceive sp = (u, forced) →
          (s.records q).curReceiver = none → (u.records q).curReceiver = none := by
      intro s u sp forced hc hnone
      rcases s.checkTimeoutForceReceive_cases sp with ⟨-, heq⟩ | ⟨-, heq⟩
      · rw [heq] at hc
        cases hc
        rw [ControlManager.handleTimeoutReceiver, modify_records]
        split
        · rfl
        · exact hnone
      · rw [heq] at hc
        cases hc
        exact hnone
    refine DoWhile.doWhile_rule (f := processOrderedEventQueuePass) (s := (s, []))
      (fun loop => (loop.1.records q).curReceiver = none)
      (fun result => (result.1.records q).curReceiver = none) ?_ ?_ (hnobody q) hrun
    · rintro ⟨s', removed⟩ loop' hnone heq'
      rcases processOrderedEventQueuePass_cases (s := s') removed with ⟨-, heq⟩ |
        ⟨sp, rest, u, forced, -, hc, ⟨-, heq⟩ | ⟨-, -, heq⟩ | ⟨-, -, -, -, heq⟩⟩
      all_goals
        rw [heq] at heq'
        cases heq'
      obtain ⟨pending, timers, hcancel⟩ := u.cancelTimeout_eq
      have hnone' : (u.records q).curReceiver = none := hcheck hc hnone
      rw [hcancel]
      exact hnone'
    · rintro ⟨s', removed⟩ result hnone heq'
      rcases processOrderedEventQueuePass_cases (s := s') removed with ⟨-, heq⟩ |
        ⟨sp, rest, u, forced, -, hc, ⟨-, heq⟩ | ⟨-, -, heq⟩ | ⟨-, -, -, -, heq⟩⟩
      all_goals
        rw [heq] at heq'
        cases heq'
      · exact hnone
      all_goals exact hcheck hc hnone
  · -- the front record is at work, and the first pass leaves
    obtain ⟨r, hr⟩ := not_forall.mp hnobody
    obtain ⟨listener, hlistener⟩ := Option.ne_none_iff_exists'.mp hr
    obtain ⟨hfront, hstate, -⟩ := ha.active r listener hlistener
    rw [hfront, Option.any_some] at hover
    have hpass : processOrderedEventQueuePass (s, []) = .inr (s, [], none) := by
      rcases processOrderedEventQueuePass_cases (s := s) [] with ⟨-, heq⟩ |
        ⟨sp, rest, u, forced, hq, hc, hcases⟩
      · exact heq
      · rw [front, hq] at hfront
        obtain rfl : sp = r := Option.some.inj hfront
        obtain ⟨htrue, -⟩ | ⟨-, heq⟩ := s.checkTimeoutForceReceive_cases sp
        · rw [hover] at htrue
          cases htrue
        · rw [heq] at hc
          cases hc
          rcases hcases with ⟨-, heq⟩ | ⟨hidle, -⟩ | ⟨hidle, -⟩
          · exact heq
          · exact absurd hidle hstate
          · exact absurd hidle hstate
    unfold ControlManager.processOrderedEventQueueLocked at hrun
    rw [doWhile, hpass] at hrun
    cases hrun
    rfl

/-- **What a step of the serial queue does to what is awaited.** -/
theorem awaiting_stepThread (hd : s.Dispatch s.thread) (ha : s.Activity s.thread)
    {answer : Answer} (hgive : s.givesUp (.thread answer) = false)
    (hstep : s.stepThread answer = some t) :
    t.awaiting t.thread = s.awaiting s.thread
      ∨ ∃ sp i, s.thread = .call sp i ∧ t = { s with thread := .inCall sp i } := by
  have hat := Activity.stepThread hd ha hstep
  have hcase := threadStep_of_stepThread hstep
  unfold givesUp at hgive
  dsimp only at hgive
  generalize s.thread = th at hcase hd ha hgive ⊢
  have hgoto : t.records = s.records → t.thread.unsent = th.unsent →
      t.awaiting t.thread = s.awaiting th := by
    intro hrec hunsent
    exact awaiting_congr ha hat (fun q => by rw [hrec]) (fun q _ => by rw [hrec]) hunsent
  cases hcase with
  | queueSection u removed sp hrun =>
    have hcur := curReceiver_processOrderedEventQueueLocked ha hrun hgive
    refine Or.inl (awaiting_congr ha hat hcur (fun q _ => ?_) rfl)
    exact congrArg Prod.fst (skeleton_processOrderedEventQueueLocked hrun q)
  | finalSubscriber removed rest sp =>
    refine Or.inl ?_
    unfold ControlManager.handleFinalSubscriber at hat hgoto ⊢
    dsimp only at hat hgoto ⊢
    split at hat
    next hc =>
      rw [if_pos hc] at hgoto ⊢
      exact hgoto rfl rfl
    next hc =>
      rw [if_neg hc]
      exact awaiting_update removed ha hat rfl rfl (fun _ => rfl) rfl
  | prepareNext sp =>
    have hquiet := ha.quiet sp rfl
    exact Or.inl (awaiting_update sp ha hat rfl rfl
      (fun hne => absurd hquiet hne) rfl)
  | setTimeout sp i => exact Or.inl (hgoto setTimeout_records.1 rfl)
  | frozen sp i =>
    exact Or.inl (awaiting_update sp ha hat rfl (ha.quiet sp rfl).symm nofun rfl)
  | prepareNotify sp i hproxy =>
    -- nobody was at work, and the one who is now has not been called
    refine Or.inl ?_
    rw [awaiting_unsent rfl]
    refine (awaiting_nobody fun q hq => ?_).symm
    rw [front_of_quiet hd.threadOk rfl] at hq
    obtain rfl := Option.some.inj hq
    exact ha.quiet sp rfl
  | invalidProxy sp i hproxy =>
    exact Or.inl (awaiting_update sp ha hat rfl (ha.quiet sp rfl).symm nofun rfl)
  | call sp i => exact Or.inr ⟨sp, i, rfl, rfl⟩
  | handleResult sp i isOk =>
    cases isOk with
    | true => exact Or.inl (awaiting_update sp ha hat rfl rfl (fun _ => rfl) rfl)
    | false => cases hgive
  | storeIdle sp =>
    exact Or.inl (awaiting_update sp ha hat rfl rfl (fun _ => rfl) rfl)
  | reschedule => exact Or.inl (hgoto scheduleOrderedCommonEvent_records.1 rfl)
  | timeoutEarly sp hearly => exact Or.inl (hgoto setTimeout_records.1 rfl)
  | timeoutHandle sp nowSysTime => cases hgive
  | _ => exact Or.inl (hgoto rfl rfl)

/-- **What a step of the service does to what is awaited.** It leaves it,
unless it gives up, or calls the receiver, or acts on an answer. -/
theorem awaiting_step {l : ControlLabel} (hd : s.Dispatch s.thread) (ha : s.Activity s.thread)
    (hgive : s.givesUp l = false) (hstep : s.step P S l = some t) :
    t.awaiting t.thread = s.awaiting s.thread
      ∨ (∃ sp i answer, l = .thread answer ∧ s.thread = .call sp i
        ∧ t = { s with thread := .inCall sp i })
      ∨ ∃ i call state reply, l = .op i ∧ s.ops[i]? = some (.finishUpdate call state)
        ∧ call.reply = some reply := by
  have hat := activity_step hd ha hstep
  have hstay : t.records = s.records → t.thread.unsent = s.thread.unsent →
      t.awaiting t.thread = s.awaiting s.thread := by
    intro hrec hunsent
    exact awaiting_congr ha hat (fun q => by rw [hrec]) (fun q _ => by rw [hrec]) hunsent
  cases l with
  | publish request =>
    cases hstep
    have hfresh : (s.records s.nextRecord).curReceiver = none := by
      cases hcur : (s.records s.nextRecord).curReceiver with
      | none => rfl
      | some listener =>
        exact absurd (hd.front_lt (ha.active _ listener hcur).1) (Nat.lt_irrefl _)
    exact Or.inl (awaiting_update s.nextRecord ha hat rfl hfresh.symm nofun rfl)
  | finishReceiver reply =>
    cases hstep
    refine Or.inl ?_
    unfold ControlManager.finishReceiver at hstay ⊢
    split at hstay
    · exact hstay rfl rfl
    · rfl
  | unsubscribeCommonEvent listener =>
    cases hstep
    refine Or.inl ?_
    unfold ControlManager.unsubscribeCommonEvent at hstay ⊢
    split at hstay
    · rfl
    · split at hstay
      · exact hstay rfl rfl
      · rfl
  | op i =>
    obtain ⟨op, hi, rfl⟩ := Option.map_eq_some_iff.mp hstep
    rw [stepOp_thread] at hstay ⊢
    cases op with
    | schedule =>
      have hrec := scheduleOrderedCommonEvent_records (s := { s with ops := s.ops.eraseIdx i })
      exact Or.inl (hstay hrec.1 rfl)
    | readResult sp receiver => exact Or.inl (hstay rfl rfl)
    | finishLoad call => exact Or.inl (hstay rfl rfl)
    | finishUpdate call state =>
      unfold givesUp at hgive
      dsimp only at hgive
      rw [hi] at hgive
      obtain ⟨reply, hreply⟩ :=
        Option.isSome_iff_exists.mp (Option.isNone_eq_false_iff.mp hgive)
      exact Or.inr (Or.inr ⟨i, call, state, reply, rfl, hi, hreply⟩)
  | processNextOrderedEvent =>
    unfold ControlManager.step at hstep
    dsimp only at hstep
    split at hstep
    next hth _ =>
      cases hstep
      rw [hth] at hstay ⊢
      exact Or.inl (hstay rfl rfl)
    next => cases hstep
  | timeout handler =>
    unfold ControlManager.step at hstep
    dsimp only at hstep
    split at hstep
    next hc =>
      cases hstep
      rw [hc.1] at hstay ⊢
      exact Or.inl (hstay rfl rfl)
    next => cases hstep
  | thread answer =>
    rcases awaiting_stepThread hd ha hgive hstep with heq | ⟨sp, i, hth, ht⟩
    · exact Or.inl heq
    · exact Or.inr (Or.inl ⟨sp, i, answer, rfl, hth, ht⟩)
  | _ =>
    cases hstep
    exact Or.inl (hstay rfl rfl)

/-- The call itself begins the waiting. -/
theorem awaiting_call {sp i : ℕ} (hth : s.thread = .call sp i) (hd : s.Dispatch s.thread)
    (hcur : (s.records sp).curReceiver ≠ none) :
    s.awaiting s.thread = none ∧ s.awaiting (.inCall sp i) = some (sp, i) := by
  have hok := hd.threadOk
  rw [hth] at hok ⊢
  refine ⟨rfl, ?_⟩
  unfold awaiting
  rw [if_neg (show ¬ (OrderedThread.inCall sp i).unsent = true from nofun), hok.1,
    Option.bind_some, if_neg hcur, hok.2]
  rfl

end ControlManager

/-! ## Whose listener an item is at -/

/-- What holds of the items of a list and of another one holds where that is
written into the list. -/
theorem forall_mem_set {α : Type} {Q : α → Prop} {l : List α} {k : ℕ} {a : α}
    (h : ∀ x ∈ l, Q x) (ha : Q a) : ∀ x ∈ l.set k a, Q x := by
  intro x hx
  rcases List.mem_or_eq_of_mem_set hx with hx | rfl
  · exact h x hx
  · exact ha

namespace Receivers

variable {τ : Type} {s t : Receivers τ} {p : Remote → τ → Prop}

/-- What holds of the listener and the tag of every task, every result and
every answer. -/
structure All (s : Receivers τ) (p : Remote → τ → Prop) : Prop where
  posted : ∀ task ∈ s.posted, p task.notification.commonEventListener task.notification.tag
  results : ∀ result ∈ s.results, p result.token result.tag
  outbox : ∀ call ∈ s.outbox, p call.proxy call.tag

theorem All.mono {q : Remote → τ → Prop} (h : s.All p) (hpq : ∀ listener tag,
    p listener tag → q listener tag) : s.All q :=
  ⟨fun task hmem => hpq _ _ (h.posted task hmem),
    fun result hmem => hpq _ _ (h.results result hmem),
    fun call hmem => hpq _ _ (h.outbox call hmem)⟩

/-- **No item changes its listener or its tag.** -/
theorem all_step {l : ReceiversLabel τ} (h : s.All p)
    (hl : ∀ notification, l = .notifyEvent notification →
      p notification.commonEventListener notification.tag)
    (hstep : s.step l = some t) : t.All p := by
  cases moves_of_step hstep with
  | still hl' hposted hresults houtbox =>
    exact ⟨by rw [hposted]; exact h.posted, by rw [hresults]; exact h.results,
      by rw [houtbox]; exact h.outbox⟩
  | comesIn notification hl' hposted hresults houtbox =>
    refine ⟨?_, by rw [hresults]; exact h.results, by rw [houtbox]; exact h.outbox⟩
    rcases hposted with hposted | ⟨queue, hposted⟩
    · rw [hposted]
      exact h.posted
    · rw [hposted]
      intro task hmem
      rcases List.mem_append.mp hmem with hmem | hmem
      · exact h.posted task hmem
      · rw [List.mem_singleton.mp hmem]
        exact hl notification hl'
  | begins i task hl' htask hnext hposted hresults houtbox =>
    refine ⟨?_, ?_, by rw [houtbox]; exact h.outbox⟩
    · rw [hposted]
      exact fun task' hmem => h.posted task' (List.mem_of_mem_eraseIdx hmem)
    · rcases hresults with hresults | hresults
      · rw [hresults]
        exact h.results
      · rw [hresults]
        intro result hmem
        rcases List.mem_append.mp hmem with hmem | hmem
        · exact h.results result hmem
        · rw [List.mem_singleton.mp hmem]
          exact h.posted task (List.mem_of_getElem? htask)
  | sets k result call hl' hk hposted hresults houtbox =>
    refine ⟨by rw [hposted]; exact h.posted, ?_, by rw [houtbox]; exact h.outbox⟩
    rw [hresults]
    refine forall_mem_set h.results ?_
    obtain ⟨-, -, htoken, htag⟩ := call.apply_frame result
    rw [htoken, htag]
    exact h.results result (List.mem_of_getElem? hk)
  | finishes k result sent hl' hk hposted hresults houtbox =>
    have hresult := h.results result (List.mem_of_getElem? hk)
    rcases result.finishCommonEvent_cases with ⟨-, -, heq⟩ | ⟨-, heq⟩
    · rw [heq] at hresults houtbox
      refine ⟨by rw [hposted]; exact h.posted, ?_, ?_⟩
      · rw [hresults]
        exact forall_mem_set h.results hresult
      · rw [houtbox]
        intro call hmem
        rcases List.mem_append.mp hmem with hmem | hmem
        · exact h.outbox call hmem
        · split at hmem
          · rw [List.mem_singleton.mp hmem]
            exact hresult
          · cases hmem
    · rw [heq] at hresults houtbox
      refine ⟨by rw [hposted]; exact h.posted, ?_, ?_⟩
      · rw [hresults]
        exact forall_mem_set h.results hresult
      · rw [houtbox, show (none : Option (FinishReceiverCall τ)).toList = [] from rfl, ite_self,
          List.append_nil]
        exact h.outbox

end Receivers

/-! ## The tokens of the protocol -/

/-- The token of a notification on its way. -/
def Notification.tokens {τ : Type} (notification : Notification τ) : Multiset τ :=
  if notification.ordered then {notification.tag} else 0

/-- The answer that a call in progress acts on. -/
def ServiceOp.reply? (op : ServiceOp) : Option Reply := op.call?.bind (·.reply)

/-- The token of an answer that the service acts on. -/
def ServiceOp.tokens (op : ServiceOp) : Multiset (ℕ × ℕ) :=
  op.reply?.elim 0 (fun reply => {reply.delivery})

/-- The tags among the tokens. -/
def tagged (tokens : Multiset DeliveryTag) : Multiset (ℕ × ℕ) := tokens.filterMap id

theorem tagged_mono {a b : Multiset DeliveryTag} (h : a ≤ b) : tagged a ≤ tagged b :=
  Multiset.filterMap_le_filterMap id h

namespace OrderedProtocol

variable {P : Platform} {S : StdSort} {s t : OrderedProtocol}

/-- The notifications that are not answered, and the answers on their way. -/
def abroad (s : OrderedProtocol) : Multiset DeliveryTag :=
  (s.inFlight.map Notification.tokens).sum + s.receivers.tokens

/-- The answers that the service acts on. -/
def arrived (control : ControlManager) : Multiset (ℕ × ℕ) :=
  (control.ops.map ServiceOp.tokens).sum

/-- **The tokens of the protocol**: the deliveries that can still be
answered, and the answers to deliveries that are not acted on yet. -/
def tokens (s : OrderedProtocol) : Multiset (ℕ × ℕ) := tagged s.abroad + arrived s.control

/-- What is awaited, as tokens. -/
def awaited (control : ControlManager) : Multiset (ℕ × ℕ) :=
  (control.awaiting control.thread).elim 0 ({·})

/-- The token that a step sends out. -/
def sent (s : OrderedProtocol) : ProtocolLabel → Multiset (ℕ × ℕ)
  | .control (.thread _) true =>
    match s.control.thread with
    | .call sp recIdx => {(sp, recIdx)}
    | _ => 0
  | _ => 0

/-- Whether the next step of the serial queue calls a receiver that is no
longer the current one. -/
def callsNobody (s : OrderedProtocol) : Bool :=
  match s.control.thread with
  | .call sp _ => (s.control.records sp).curReceiver.isNone
  | _ => false

/-- **The service is patient**: it gives up on a receiver only when no token
is left, it does not call a receiver that was unsubscribed, and no final
receiver's answer comes while the same listener is at work. -/
def Patient (s : OrderedProtocol) : ProtocolLabel → Prop
  | .control l sent =>
    (s.control.givesUp l = true → s.tokens = 0) ∧ (s.callsNobody = true → sent = false)
  | .finishReceiver i =>
    ∀ call ∈ s.receivers.outbox[i]?, call.tag = none →
      s.control.getMatchingOrderedReceiver (some call.proxy) = none
  | _ => True

instance (s : OrderedProtocol) : ∀ l, Decidable (s.Patient l)
  | .control _ _ => inferInstanceAs (Decidable (_ ∧ _))
  | .finishReceiver i => inferInstanceAs (Decidable (∀ call ∈ s.receivers.outbox[i]?, _ → _))
  | .notifyUnordered _ => .isTrue trivial
  | .notifyEvent _ => .isTrue trivial
  | .lose _ => .isTrue trivial
  | .receivers _ => .isTrue trivial

/-- A step that is no answer coming in starts to act on none. -/
theorem arrived_step {c d : ControlManager} {l : ControlLabel}
    (hl : ∀ reply, l ≠ .finishReceiver reply) (hstep : c.step P S l = some d) :
    arrived d ≤ arrived c := by
  have happend : ∀ op, d.ops = c.ops ++ [op] → op.tokens = 0 → arrived d ≤ arrived c := by
    intro op hops hop
    rw [arrived, hops, List.map_append, List.sum_append, List.map_singleton, List.sum_singleton,
      hop, add_zero]
    exact le_rfl
  rcases ControlManager.ops_step hstep with hops | ⟨request, -, hops⟩ | ⟨reply, sp, heq, -, -⟩ |
    ⟨listener, sp, -, -, hops⟩ | ⟨i, op, -, hi, -, hops | ⟨op', hops, -, -, hsame⟩⟩
  · rw [arrived, hops]
    exact le_rfl
  · exact happend _ hops rfl
  · exact absurd heq (hl reply)
  · exact happend _ hops rfl
  · rw [arrived, hops, arrived, ← sum_map_eraseIdx ServiceOp.tokens hi]
    exact Multiset.le_add_right _ _
  · -- the call goes on with the answer it acts on, or has none
    have hle : op'.tokens ≤ op.tokens := by
      unfold ServiceOp.tokens ServiceOp.reply?
      cases hcall : op'.call? with
      | none => exact Multiset.zero_le _
      | some call =>
        rcases hsame call hcall with hcall' | hnone
        · rw [hcall']
        · rw [Option.bind_some, hnone]
          exact Multiset.zero_le _
    have hset := sum_map_set ServiceOp.tokens op' hi
    rw [arrived, hops, arrived]
    refine le_of_add_le_add_right (a := op.tokens) ?_
    rw [hset]
    exact add_le_add_right hle _

/-- An answer that has been acted on is gone. -/
theorem arrived_finishUpdate {c : ControlManager} {i : ℕ} {call : FinishCall}
    {state : EventState} {reply : Reply} (hi : c.ops[i]? = some (.finishUpdate call state))
    (hreply : call.reply = some reply) :
    arrived (c.stepOp i (.finishUpdate call state)) + {reply.delivery} = arrived c := by
  have hsum := sum_map_eraseIdx ServiceOp.tokens hi
  have htokens : (ServiceOp.finishUpdate call state).tokens = {reply.delivery} := by
    unfold ServiceOp.tokens ServiceOp.reply?
    rw [show (ServiceOp.finishUpdate call state).call? = some call from rfl, Option.bind_some,
      hreply]
    rfl
  rw [htokens] at hsum
  rw [ControlManager.stepOp_finishUpdate]
  exact hsum

/-- What the service sends is the one delivery, or has no tag. -/
theorem tagged_sends (l : ControlLabel) (isSent : Bool) :
    tagged ((s.sends l isSent).map Notification.tokens).sum ≤ s.sent (.control l isSent) := by
  unfold sends
  cases l with
  | thread answer =>
    dsimp only
    cases isSent with
    | false => exact le_rfl
    | true =>
      rw [if_pos rfl]
      unfold ControlManager.notification sent
      cases s.control.thread with
      | call sp recIdx =>
        dsimp only
        cases (s.control.records sp).receivers[recIdx]? with
        | none => exact Multiset.zero_le _
        | some receiver => exact le_rfl
      | finals removed sp =>
        -- a final receiver's notification has no tag
        cases removed with
        | nil => exact le_rfl
        | cons removed rest =>
          dsimp only
          split
          · cases (s.control.records removed).resultTo with
            | none => exact le_rfl
            | some resultTo => exact le_rfl
          · exact le_rfl
      | _ => exact le_rfl
  | _ => exact Multiset.zero_le _

theorem control_of_step {l : ControlLabel} {isSent : Bool}
    (hstep : s.step P S (.control l isSent) = some t) :
    (∀ reply, l ≠ .finishReceiver reply) ∧ ∃ control, s.control.step P S l = some control
      ∧ t = { s with control := control, inFlight := s.inFlight ++ s.sends l isSent } := by
  cases l with
  | finishReceiver reply => cases hstep
  | _ =>
    unfold step at hstep
    obtain ⟨control, hcontrol, rfl⟩ := Option.map_eq_some_iff.mp hstep
    exact ⟨nofun, control, hcontrol, rfl⟩

theorem receivers_of_step {l : ReceiversLabel DeliveryTag}
    (hstep : s.step P S (.receivers l) = some t) :
    (∀ notification, l ≠ .notifyEvent notification)
      ∧ ∃ receivers, s.receivers.step l = some receivers
        ∧ t = { s with receivers := receivers } := by
  cases l with
  | notifyEvent notification => cases hstep
  | _ =>
    unfold step at hstep
    obtain ⟨receivers, hreceivers, rfl⟩ := Option.map_eq_some_iff.mp hstep
    exact ⟨nofun, receivers, hreceivers, rfl⟩

/-- A step of the messages and the receiving end. -/
theorem tokens_mono (habroad : t.abroad ≤ s.abroad) (hcontrol : t.control = s.control)
    (more : Multiset (ℕ × ℕ)) : t.tokens ≤ s.tokens + more := by
  refine le_trans ?_ (Multiset.le_add_right _ _)
  rw [tokens, tokens, hcontrol]
  exact add_le_add_left (tagged_mono habroad) _

/-- An answer that comes in is acted on at most once. -/
theorem arrived_finishReceiver (c : ControlManager) (reply : Reply) :
    arrived (c.finishReceiver reply) ≤ arrived c + {reply.delivery} := by
  unfold ControlManager.finishReceiver
  split
  · refine le_of_eq ?_
    unfold arrived
    dsimp only
    rw [List.map_append, List.sum_append]
    rfl
  · exact Multiset.le_add_right _ _

/-- **No token is made**, but for the one that a step sends out. -/
theorem tokens_step {l : ProtocolLabel} (hok : s.Patient l) (hstep : s.step P S l = some t) :
    t.tokens ≤ s.tokens + s.sent l := by
  cases l with
  | control l isSent =>
    obtain ⟨hl, control, hcontrol, rfl⟩ := control_of_step hstep
    have habroad : abroad { s with control := control, inFlight := s.inFlight ++ s.sends l isSent }
        = s.abroad + ((s.sends l isSent).map Notification.tokens).sum := by
      unfold abroad
      dsimp only
      rw [List.map_append, List.sum_append]
      exact add_right_comm _ _ _
    unfold tokens
    rw [habroad, tagged, Multiset.filterMap_add, add_assoc, add_assoc,
      add_comm _ (arrived control)]
    exact add_le_add_right (add_le_add (arrived_step hl hcontrol) (tagged_sends l isSent)) _
  | notifyUnordered notification =>
    unfold step at hstep
    dsimp only at hstep
    split at hstep
    next hc =>
      cases hstep
      obtain ⟨hordered, -⟩ := Bool.and_eq_true_iff.mp hc
      have hnone : notification.tokens = 0 := if_neg (by simpa using hordered)
      refine tokens_mono (le_of_eq ?_) (by rfl) _
      unfold abroad
      dsimp only
      rw [List.map_append, List.sum_append, List.map_singleton, List.sum_singleton, hnone,
        add_zero]
    next => cases hstep
  | notifyEvent i =>
    obtain ⟨notification, hi, rfl⟩ := Option.map_eq_some_iff.mp hstep
    refine tokens_mono ?_ (by rfl) _
    have hreceivers := Receivers.tokens_step (s := s.receivers)
      (l := .notifyEvent notification) rfl
    unfold abroad
    dsimp only
    rw [← sum_map_eraseIdx Notification.tokens hi, add_assoc]
    exact add_le_add_right hreceivers _
  | lose i =>
    obtain ⟨notification, hi, rfl⟩ := Option.map_eq_some_iff.mp hstep
    refine tokens_mono ?_ (by rfl) _
    unfold abroad
    dsimp only
    rw [← sum_map_eraseIdx Notification.tokens hi]
    exact add_le_add_left (Multiset.le_add_right _ _) _
  | receivers l =>
    obtain ⟨hl, receivers, hreceivers, rfl⟩ := receivers_of_step hstep
    refine tokens_mono ?_ (by rfl) _
    have htokens := Receivers.tokens_step hreceivers
    rw [Receivers.tokens_label hl, zero_add] at htokens
    exact add_le_add_right htokens _
  | finishReceiver i =>
    obtain ⟨call, hi, rfl⟩ := Option.map_eq_some_iff.mp hstep
    have hsum := sum_map_eraseIdx FinishReceiverCall.tokens hi
    set receivers := { s.receivers with outbox := s.receivers.outbox.eraseIdx i } with hreceivers
    have htokens : s.receivers.tokens = receivers.tokens + {call.tag} := by
      rw [Receivers.tokens, ← hsum, ← add_assoc]
      rfl
    cases htag : call.tag with
    | none =>
      -- a final receiver's answer is not acted on
      have hnone := hok call hi htag
      have hcontrol : s.control.finishReceiver (reply call) = s.control := by
        unfold ControlManager.finishReceiver
        rw [show (reply call).proxy = some call.proxy from rfl, hnone]
      rw [hcontrol]
      refine tokens_mono ?_ (by rfl) _
      unfold abroad
      dsimp only
      rw [htokens]
      exact add_le_add_right (Multiset.le_add_right _ _) _
    | some d =>
      refine le_trans ?_ (Multiset.le_add_right _ _)
      have harrived := arrived_finishReceiver s.control (reply call)
      rw [show (reply call).delivery = d by rw [reply, htag]; rfl] at harrived
      have habroad : tagged s.abroad
          = tagged ((s.inFlight.map Notification.tokens).sum + receivers.tokens) + {d} := by
        rw [abroad, htokens, htag, ← add_assoc, tagged, Multiset.filterMap_add]
        rfl
      show tagged ((s.inFlight.map Notification.tokens).sum + receivers.tokens) + _
        ≤ tagged s.abroad + arrived s.control
      rw [habroad, add_assoc, add_comm ({d} : Multiset (ℕ × ℕ))]
      exact add_le_add_right harrived _

/-! ## In step -/

/-- What the service does in a step is a step of the ordered pipeline. -/
theorem control_step {l : ProtocolLabel} (hstep : s.step P S l = some t) :
    t.control = s.control ∨ ∃ l, s.control.step P S l = some t.control := by
  cases l with
  | control l isSent =>
    obtain ⟨-, control, hcontrol, rfl⟩ := control_of_step hstep
    exact Or.inr ⟨l, hcontrol⟩
  | notifyUnordered notification =>
    unfold step at hstep
    dsimp only at hstep
    split at hstep
    · cases hstep
      exact Or.inl rfl
    · cases hstep
  | notifyEvent i | lose i =>
    obtain ⟨notification, -, rfl⟩ := Option.map_eq_some_iff.mp hstep
    exact Or.inl rfl
  | receivers l =>
    obtain ⟨-, receivers, -, rfl⟩ := receivers_of_step hstep
    exact Or.inl rfl
  | finishReceiver i =>
    obtain ⟨call, -, rfl⟩ := Option.map_eq_some_iff.mp hstep
    exact Or.inr ⟨.finishReceiver (reply call), rfl⟩

/-- At most one answer is awaited. -/
theorem card_awaited (control : ControlManager) : (awaited control).card ≤ 1 := by
  unfold awaited
  cases control.awaiting control.thread with
  | none => exact Nat.zero_le 1
  | some d => exact le_of_eq (Multiset.card_singleton d)

/-- **The tokens never come to more than what is awaited.** -/
theorem awaited_step {l : ProtocolLabel} (hs : (orderedMachine P S).Reachable s.control)
    (h : s.tokens ≤ awaited s.control) (hok : s.Patient l) (hstep : s.step P S l = some t) :
    t.tokens ≤ awaited t.control := by
  have htokens := tokens_step hok hstep
  have hd := ControlManager.dispatch_reachable hs
  have ha := ControlManager.activity_reachable hs
  have hstay : t.control = s.control → s.sent l = 0 → t.tokens ≤ awaited t.control := by
    intro hcontrol hsent
    rw [hsent, add_zero] at htokens
    rw [hcontrol]
    exact le_trans htokens h
  cases l with
  | control l isSent =>
    obtain ⟨-, control, hcontrol, rfl⟩ := control_of_step hstep
    by_cases hcalls : ∃ answer sp i, l = .thread answer ∧ s.control.thread = .call sp i
    · -- nothing was awaited, and what is sent is awaited now
      obtain ⟨answer, sp, i, rfl, hth⟩ := hcalls
      have hnone : s.tokens = 0 := by
        rw [awaited, hth] at h
        exact Multiset.le_zero.mp h
      rw [hnone, zero_add] at htokens
      refine le_trans htokens ?_
      cases isSent with
      | false => exact Multiset.zero_le _
      | true =>
        have hcur : (s.control.records sp).curReceiver ≠ none := by
          intro hcur
          refine absurd (hok.2 ?_) (by decide)
          rw [callsNobody, hth]
          dsimp only
          rw [hcur]
          rfl
        obtain rfl : control = { s.control with thread := .inCall sp i } := by
          have hthread : s.control.stepThread answer = some control := hcontrol
          unfold ControlManager.stepThread at hthread
          rw [hth] at hthread
          exact (Option.some.inj hthread).symm
        have hawait := (ControlManager.awaiting_call hth hd hcur).2
        refine le_of_eq ?_
        rw [sent, hth]
        show _ = (s.control.awaiting (.inCall sp i)).elim 0 ({·})
        rw [hawait]
        rfl
    · have hsent : s.sent (.control l isSent) = 0 := by
        unfold sent
        cases l with
        | thread answer =>
          cases isSent with
          | false => rfl
          | true =>
            dsimp only
            cases hth : s.control.thread with
            | call sp i => exact absurd ⟨answer, sp, i, rfl, hth⟩ hcalls
            | _ => rfl
        | _ => rfl
      rw [hsent, add_zero] at htokens
      cases hgive : s.control.givesUp l with
      | true =>
        rw [hok.1 hgive] at htokens
        exact le_trans htokens (Multiset.zero_le _)
      | false =>
        rcases ControlManager.awaiting_step hd ha hgive hcontrol with heq |
          ⟨sp, i, answer, rfl, hth, -⟩ | ⟨i, call, state, answer, rfl, hi, hanswer⟩
        · unfold awaited
          rw [heq]
          exact le_trans htokens h
        · exact absurd ⟨answer, sp, i, rfl, hth⟩ hcalls
        · -- the answer acted on was the only token
          obtain rfl : s.control.stepOp i (.finishUpdate call state) = control := by
            have hop : s.control.ops[i]?.map (s.control.stepOp i) = some control := hcontrol
            rw [hi] at hop
            exact Option.some.inj hop
          have heq : tokens { s with
                control := s.control.stepOp i (.finishUpdate call state)
                inFlight := s.inFlight ++ [] } + {answer.delivery} = s.tokens := by
            rw [List.append_nil]
            show tagged s.abroad + _ + _ = tagged s.abroad + arrived s.control
            rw [add_assoc, arrived_finishUpdate hi hanswer]
          have hcard := Multiset.card_le_card (le_of_eq_of_le heq h)
          rw [Multiset.card_add, Multiset.card_singleton] at hcard
          have hzero := Multiset.card_eq_zero.mp
            (Nat.le_zero.mp (Nat.le_of_succ_le_succ (le_trans hcard (card_awaited _))))
          rw [show s.sends (.op i) isSent = [] from rfl, hzero]
          exact Multiset.zero_le _
  | notifyUnordered notification =>
    refine hstay ?_ rfl
    unfold step at hstep
    dsimp only at hstep
    split at hstep
    · cases hstep
      rfl
    · cases hstep
  | notifyEvent i | lose i =>
    obtain ⟨notification, -, rfl⟩ := Option.map_eq_some_iff.mp hstep
    exact hstay rfl rfl
  | receivers l =>
    obtain ⟨-, receivers, -, rfl⟩ := receivers_of_step hstep
    exact hstay rfl rfl
  | finishReceiver i =>
    obtain ⟨call, -, rfl⟩ := Option.map_eq_some_iff.mp hstep
    refine le_trans htokens ?_
    rw [show s.sent (.finishReceiver i) = 0 from rfl, add_zero]
    refine le_trans h (le_of_eq ?_)
    unfold awaited
    dsimp only
    unfold ControlManager.finishReceiver
    split <;> rfl

end OrderedProtocol

/-- A tag says whose listener an item is at. -/
def ControlManager.Addressed (s : ControlManager) (listener : Remote) (tag : DeliveryTag) :
    Prop :=
  ∀ d, tag = some d → d.1 < s.nextRecord
    ∧ (s.records d.1).receivers[d.2]?.map (·.commonEventListener) = some listener

/-- The receivers of a record are what they are. -/
theorem ControlManager.Addressed.step {P : Platform} {S : StdSort} {s t : ControlManager}
    {listener : Remote} {tag : DeliveryTag} (h : s.Addressed listener tag) {l : ControlLabel}
    (hstep : s.step P S l = some t) : t.Addressed listener tag := by
  intro d hd
  obtain ⟨hlt, hlistener⟩ := h d hd
  rcases identity_step hstep with ⟨request, -, rfl⟩ | ⟨-, hid, hnext, -⟩
  · refine ⟨Nat.lt_succ_of_lt hlt, ?_⟩
    rw [show (s.processOrderedEvent P S request).records d.1 = s.records d.1 from
      Function.update_of_ne (Nat.ne_of_lt hlt) _ _]
    exact hlistener
  · have hreceivers : (t.records d.1).receivers = (s.records d.1).receivers :=
      congrArg Prod.snd (hid d.1)
    rw [hnext, hreceivers]
    exact ⟨hlt, hlistener⟩

/-- What the pipeline sends goes to the listener of the receiver. -/
theorem ControlManager.addressed_notification {s : ControlManager} (hd : s.Dispatch s.thread)
    {answer : Answer} {notification : Notification DeliveryTag}
    (h : s.notification answer = some notification) :
    s.Addressed notification.commonEventListener notification.tag := by
  unfold ControlManager.notification at h
  have hok := hd.threadOk
  cases hth : s.thread with
  | call sp recIdx =>
    rw [hth] at h hok
    obtain ⟨receiver, hreceiver, rfl⟩ := Option.map_eq_some_iff.mp h
    intro d hd'
    obtain rfl := Option.some.inj hd'
    exact ⟨hd.front_lt hok.1, congrArg (Option.map (·.commonEventListener)) hreceiver⟩
  | finals removed sp =>
    rw [hth] at h
    cases removed with
    | nil => cases h
    | cons removed rest =>
      dsimp only at h
      split at h
      · obtain ⟨resultTo, -, rfl⟩ := Option.map_eq_some_iff.mp h
        exact nofun
      · cases h
  | _ =>
    rw [hth] at h
    cases h

namespace OrderedProtocol

variable {P : Platform} {S : StdSort} {s t : OrderedProtocol}

/-- **A call acts on an answer where it belongs**: at the record the answer
is to, and it is the receiver's own. -/
def ActsOn (control : ControlManager) (call : FinishCall) (answer : Reply) : Prop :=
  call.record = answer.delivery.1 ∧ ∃ listener, answer.proxy = some listener
    ∧ control.Addressed listener (some answer.delivery)

/-- **The two ends are in step.** The tokens are no more than what is
awaited, each item is at the listener its tag is of, and the service acts on
an answer at the record it is to. -/
structure InStep (P : Platform) (S : StdSort) (s : OrderedProtocol) : Prop where
  control : (orderedMachine P S).Reachable s.control
  awaited : s.tokens ≤ awaited s.control
  inFlight : ∀ notification ∈ s.inFlight,
    s.control.Addressed notification.commonEventListener notification.tag
  receivers : s.receivers.All s.control.Addressed
  replies : ∀ op ∈ s.control.ops, ∀ call, op.call? = some call → ∀ answer,
    call.reply = some answer → ActsOn s.control call answer

theorem le_sum_map {α β : Type} (f : α → Multiset β) {l : List α} {a : α} (h : a ∈ l) :
    f a ≤ (l.map f).sum := by
  obtain ⟨k, hk⟩ := List.mem_iff_getElem?.mp h
  rw [← sum_map_eraseIdx f hk]
  exact Multiset.le_add_left _ _

theorem mem_awaited {control : ControlManager} {d : ℕ × ℕ} :
    d ∈ OrderedProtocol.awaited control ↔ control.awaiting control.thread = some d := by
  unfold OrderedProtocol.awaited
  cases control.awaiting control.thread with
  | none => simp
  | some d' => simp [eq_comm]

/-- An answer on its way is a token. -/
theorem mem_tokens_of_outbox {call : FinishReceiverCall DeliveryTag}
    (hcall : call ∈ s.receivers.outbox) {d : ℕ × ℕ} (htag : call.tag = some d) :
    d ∈ s.tokens := by
  have hle := le_sum_map FinishReceiverCall.tokens hcall
  have habroad : FinishReceiverCall.tokens call ≤ s.abroad :=
    le_trans hle (le_trans (Multiset.le_add_left _ _) (Multiset.le_add_left _ _))
  have htagged := tagged_mono habroad
  rw [FinishReceiverCall.tokens, htag] at htagged
  have hd : d ∈ tagged ({some d} : Multiset DeliveryTag) := Multiset.mem_singleton_self d
  exact Multiset.mem_add.mpr (Or.inl (Multiset.mem_of_le htagged hd))

/-- An answer that the service acts on is a token. -/
theorem mem_tokens_of_op {op : ServiceOp} (hop : op ∈ s.control.ops) {call : FinishCall}
    (hcall : op.call? = some call) {answer : Reply} (hanswer : call.reply = some answer) :
    answer.delivery ∈ s.tokens := by
  have hle := le_sum_map ServiceOp.tokens hop
  have htokens : op.tokens = {answer.delivery} := by
    unfold ServiceOp.tokens ServiceOp.reply?
    rw [hcall, Option.bind_some, hanswer]
    rfl
  rw [htokens] at hle
  exact Multiset.mem_add.mpr (Or.inr (Multiset.mem_of_le hle (Multiset.mem_singleton_self _)))

/-- An item stays at the listener its tag is of. -/
theorem addressed_step {l : ProtocolLabel} (hstep : s.step P S l = some t) {listener : Remote}
    {tag : DeliveryTag} (h : s.control.Addressed listener tag) :
    t.control.Addressed listener tag := by
  rcases control_step hstep with heq | ⟨l, hl⟩
  · rw [heq]
    exact h
  · exact h.step hl

theorem inFlight_step {l : ProtocolLabel} (h : s.InStep P S) (hstep : s.step P S l = some t) :
    ∀ notification ∈ t.inFlight,
      t.control.Addressed notification.commonEventListener notification.tag := by
  have hkept : ∀ notification ∈ s.inFlight,
      t.control.Addressed notification.commonEventListener notification.tag :=
    fun notification hmem => addressed_step hstep (h.inFlight notification hmem)
  cases l with
  | control l isSent =>
    have haddressed : ∀ {listener tag}, _ := @addressed_step _ _ _ _ _ hstep
    obtain ⟨-, control, -, rfl⟩ := control_of_step hstep
    intro notification hmem
    rcases List.mem_append.mp hmem with hmem | hmem
    · exact hkept notification hmem
    · unfold sends at hmem
      split at hmem
      next answer =>
        split at hmem
        · exact haddressed (ControlManager.addressed_notification
            (ControlManager.dispatch_reachable h.control) (Option.mem_toList.mp hmem))
        · cases hmem
      next => cases hmem
  | notifyUnordered notification =>
    unfold step at hstep
    dsimp only at hstep
    split at hstep
    next hc =>
      cases hstep
      intro notification' hmem
      rcases List.mem_append.mp hmem with hmem | hmem
      · exact hkept notification' hmem
      · rw [List.mem_singleton.mp hmem]
        obtain ⟨-, htag⟩ := Bool.and_eq_true_iff.mp hc
        rw [Option.isNone_iff_eq_none.mp htag]
        exact nofun
    next => cases hstep
  | notifyEvent i | lose i =>
    obtain ⟨notification, -, rfl⟩ := Option.map_eq_some_iff.mp hstep
    exact fun notification' hmem => hkept notification' (List.mem_of_mem_eraseIdx hmem)
  | receivers l =>
    obtain ⟨-, receivers, -, rfl⟩ := receivers_of_step hstep
    exact hkept
  | finishReceiver i =>
    obtain ⟨call, -, rfl⟩ := Option.map_eq_some_iff.mp hstep
    exact hkept

theorem receivers_step {l : ProtocolLabel} (h : s.InStep P S) (hstep : s.step P S l = some t) :
    t.receivers.All t.control.Addressed := by
  have hkept : s.receivers.All t.control.Addressed :=
    h.receivers.mono fun listener tag haddressed => addressed_step hstep haddressed
  cases l with
  | control l isSent =>
    obtain ⟨-, control, -, rfl⟩ := control_of_step hstep
    exact hkept
  | notifyUnordered notification =>
    unfold step at hstep
    dsimp only at hstep
    split at hstep
    · cases hstep
      exact hkept
    · cases hstep
  | notifyEvent i =>
    obtain ⟨notification, hi, rfl⟩ := Option.map_eq_some_iff.mp hstep
    refine Receivers.all_step (l := .notifyEvent notification) hkept ?_ rfl
    intro notification' heq
    cases heq
    exact h.inFlight notification (List.mem_of_getElem? hi)
  | lose i =>
    obtain ⟨notification, -, rfl⟩ := Option.map_eq_some_iff.mp hstep
    exact hkept
  | receivers l =>
    obtain ⟨hl, receivers, hreceivers, rfl⟩ := receivers_of_step hstep
    exact Receivers.all_step hkept (fun notification heq => absurd heq (hl notification))
      hreceivers
  | finishReceiver i =>
    obtain ⟨call, -, rfl⟩ := Option.map_eq_some_iff.mp hstep
    exact ⟨hkept.posted, hkept.results,
      fun call hmem => hkept.outbox call (List.mem_of_mem_eraseIdx hmem)⟩

theorem replies_step {l : ProtocolLabel} (h : s.InStep P S) (hok : s.Patient l)
    (hstep : s.step P S l = some t) :
    ∀ op ∈ t.control.ops, ∀ call, op.call? = some call → ∀ answer, call.reply = some answer →
      ActsOn t.control call answer := by
  have hkept : ∀ call answer, ActsOn s.control call answer → ActsOn t.control call answer := by
    rintro call answer ⟨hrecord, listener, hproxy, haddressed⟩
    exact ⟨hrecord, listener, hproxy, addressed_step hstep haddressed⟩
  -- what the service acts on it was acting on before, or it has just come in
  have hof : ∀ l, s.control.step P S l = some t.control →
      (∀ reply, l = .finishReceiver reply → ∀ sp,
        s.control.getMatchingOrderedReceiver reply.proxy = some sp → ∀ call : FinishCall,
          call.record = sp → ActsOn s.control call reply) →
      ∀ op ∈ t.control.ops, ∀ call, op.call? = some call → ∀ answer, call.reply = some answer →
        ActsOn t.control call answer := by
    intro l hl hnew op hop call hcall answer hanswer
    refine hkept call answer ?_
    rcases ControlManager.call_of_step hl hop hcall with ⟨op', hop', hcall'⟩ | hnone |
      ⟨reply, hreply, hanswer', hmatch⟩
    · exact h.replies op' hop' call hcall' answer hanswer
    · rw [hnone] at hanswer
      cases hanswer
    · obtain rfl := Option.some.inj (hanswer'.symm.trans hanswer)
      exact hnew reply hreply _ hmatch call rfl
  cases l with
  | control l isSent =>
    obtain ⟨hl, control, hcontrol, rfl⟩ := control_of_step hstep
    exact hof l hcontrol (fun reply heq => absurd heq (hl reply))
  | finishReceiver i =>
    obtain ⟨call, hi, rfl⟩ := Option.map_eq_some_iff.mp hstep
    refine hof (.finishReceiver (reply call)) rfl ?_
    intro answer heq sp hmatch finish hrecord
    cases heq
    have hmem := List.mem_of_getElem? hi
    cases htag : call.tag with
    | none =>
      have hnone := hok call hi htag
      cases hmatch.symm.trans hnone
    | some d =>
      have hawait := mem_awaited.mp
        (Multiset.mem_of_le h.awaited (mem_tokens_of_outbox hmem htag))
      obtain ⟨-, -, -, hfront, -⟩ := ControlManager.receiver_of_awaiting
        (ControlManager.activity_reachable h.control) hawait
      obtain ⟨hfront', -⟩ := ControlManager.getMatchingOrderedReceiver_some hmatch
      have hdelivery : (reply call).delivery = d := by
        rw [reply, htag]
        rfl
      refine ⟨?_, call.proxy, rfl, ?_⟩
      · rw [hrecord, hdelivery]
        exact Option.some.inj (hfront'.symm.trans hfront)
      · rw [hdelivery, ← htag]
        exact h.receivers.outbox call hmem
  | notifyUnordered notification =>
    unfold step at hstep
    dsimp only at hstep
    split at hstep
    · cases hstep
      exact h.replies
    · cases hstep
  | notifyEvent i | lose i =>
    obtain ⟨notification, -, rfl⟩ := Option.map_eq_some_iff.mp hstep
    exact h.replies
  | receivers l =>
    obtain ⟨-, receivers, -, rfl⟩ := receivers_of_step hstep
    exact h.replies

/-- **Every step of a patient service keeps the two ends in step.** -/
theorem inStep_step {l : ProtocolLabel} (h : s.InStep P S) (hok : s.Patient l)
    (hstep : s.step P S l = some t) : t.InStep P S := by
  refine ⟨?_, awaited_step h.control h.awaited hok hstep, inFlight_step h hstep,
    receivers_step h hstep, replies_step h hok hstep⟩
  rcases control_step hstep with heq | ⟨l, hl⟩
  · rw [heq]
    exact h.control
  · exact h.control.step hl

/-- What answers what is awaited is matched to it. -/
theorem InStep.matching (h : s.InStep P S) {listener : Remote} {d : ℕ × ℕ} (hd : d ∈ s.tokens)
    (haddressed : s.control.Addressed listener (some d)) :
    s.control.getMatchingOrderedReceiver (some listener) = some d.1
      ∧ (s.control.records d.1).nextReceiver = d.2 + 1 := by
  have hawait := mem_awaited.mp (Multiset.mem_of_le h.awaited hd)
  obtain ⟨receiver, hreceiver, hcur, hfront, hnext⟩ := ControlManager.receiver_of_awaiting
    (ControlManager.activity_reachable h.control) hawait
  have hlistener := (haddressed d rfl).2
  rw [hreceiver] at hlistener
  refine ⟨?_, hnext⟩
  unfold ControlManager.getMatchingOrderedReceiver
  rw [hfront]
  dsimp only
  rw [hcur, ← Option.some.inj hlistener, if_pos rfl]

theorem inStep_init : ({} : OrderedProtocol).InStep P S :=
  ⟨.init, le_rfl, nofun, ⟨nofun, nofun, nofun⟩, nofun⟩

/-- **A patient service acts on every answer where it belongs.** In every run
in which the service gives up on a receiver only when nothing of the
receiver's notification is left, at most one delivery can be answered at any
time, or has been and is not acted on; an answer on its way, when it comes in,
is matched to the very delivery it answers; and what the service acts on it
acts on at that delivery. -/
theorem replies_correlated {ls : List ProtocolLabel}
    (hok : (orderedProtocol P S).Guarded Patient ls) (hs : (orderedProtocol P S).run ls = some s) :
    s.tokens.card ≤ 1
      ∧ (∀ call ∈ s.receivers.outbox, ∀ d, call.tag = some d →
        s.control.getMatchingOrderedReceiver (some call.proxy) = some d.1
          ∧ (s.control.records d.1).nextReceiver = d.2 + 1)
      ∧ ∀ op ∈ s.control.ops, ∀ call, op.call? = some call → ∀ answer,
        call.reply = some answer → call.record = answer.delivery.1
          ∧ s.control.getMatchingOrderedReceiver answer.proxy = some answer.delivery.1
          ∧ (s.control.records answer.delivery.1).nextReceiver = answer.delivery.2 + 1 := by
  have h : s.InStep P S := Machine.guarded_invariant (M := orderedProtocol P S)
    (I := InStep P S) inStep_init (fun _ _ _ h hl hstep => inStep_step h hl hstep) hok hs
  refine ⟨?_, ?_, ?_⟩
  · exact le_trans (Multiset.card_le_card h.awaited) (card_awaited s.control)
  · intro call hcall d htag
    refine h.matching (mem_tokens_of_outbox hcall htag) ?_
    rw [← htag]
    exact h.receivers.outbox call hcall
  · intro op hop call hcall answer hanswer
    obtain ⟨hrecord, listener, hproxy, haddressed⟩ := h.replies op hop call hcall answer hanswer
    rw [hproxy]
    exact ⟨hrecord, h.matching (mem_tokens_of_op hop hcall hanswer) haddressed⟩

/-- One event to the one listener, which receives it and answers. -/
def untilAnswered : List ProtocolLabel :=
  [.receivers (.construct ⟨1⟩ (some 0) .HANDLER true),
    .control ControlManager.publishE true, .control (.op 0) true,
    .control .processNextOrderedEvent true]
    ++ List.replicate 10 (.control (.thread {}) true)
    ++ [.notifyEvent 0, .receivers (.onReceiveEvent 0 true),
      .receivers (.setAsyncCommonEventResult 0), .receivers (.subscriberCall 0 (.setCode 5)),
      .receivers (.returned 0), .receivers (.finish 0 true), .finishReceiver 0]

/-- The answer of the one listener is acted on at its delivery. -/
theorem replies_correlated_untilAnswered :
    ∃ s, (orderedProtocol {} .insertion).run untilAnswered = some s
      ∧ s.control.getMatchingOrderedReceiver (some ⟨1⟩) = some 0
      ∧ (s.control.records 0).nextReceiver = 1 := by
  obtain ⟨s, hs, hops⟩ := Option.map_eq_some_iff.mp
    (show ((orderedProtocol {} .insertion).run untilAnswered).map (fun s => s.control.ops)
      = some [.finishLoad ⟨0, 5, "", some false, some ⟨some ⟨1⟩, 5, "", false, (0, 0)⟩, some 0⟩] by
      decide +kernel)
  obtain ⟨-, -, hreplies⟩ := replies_correlated
    (Machine.guarded_of_guardedFrom (by decide +kernel)) hs
  have hmem : ServiceOp.finishLoad
      ⟨0, 5, "", some false, some ⟨some ⟨1⟩, 5, "", false, (0, 0)⟩, some 0⟩ ∈ s.control.ops := by
    rw [hops]
    exact List.mem_singleton_self _
  obtain ⟨-, hmatch, hnext⟩ := hreplies _ hmem _ rfl _ rfl
  exact ⟨s, hs, hmatch, hnext⟩

end OrderedProtocol

end CommonEventService

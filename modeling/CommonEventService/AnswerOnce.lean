import CommonEventService.CommonEventListener
import Mathlib.Algebra.BigOperators.Group.List.Basic
import Mathlib.Algebra.Order.Group.Multiset
import Mathlib.Tactic.Abel

/-!
# Answers of the receiving end

An ordered notification is answered at most once, and an unordered one never.
The proof counts *tokens*: a token is an ordered notification that waits in a
task, the result of one that is not finished, or a call of `FinishReceiver`
that was made. A step moves a token on or drops it; only a notification that
comes in adds one.

It is answered at least once, by the time its callback has returned, unless
the subscriber has gone asynchronous – provided that the listeners of one
subscriber do not call it back at the same time. Where they do, the second
one replaces the result of the first, and the first one finishes the result
of the second.
-/

namespace CommonEventService

variable {τ : Type}

/-! ## Sums over lists -/

/-- A sum without one of its terms. -/
theorem sum_map_eraseIdx {α M : Type} [AddCommMonoid M] (f : α → M) {l : List α} {k : ℕ} {a : α}
    (h : l[k]? = some a) : ((l.eraseIdx k).map f).sum + f a = (l.map f).sum := by
  obtain ⟨hk, rfl⟩ := List.getElem?_eq_some_iff.mp h
  have hperm := (List.getElem_cons_eraseIdx_perm hk).map f
  rw [← hperm.sum_eq, List.map_cons, List.sum_cons, add_comm]

/-- A sum with another term in place of one. -/
theorem sum_map_set {α M : Type} [AddCommMonoid M] (f : α → M) {l : List α} {k : ℕ} {a : α}
    (b : α) (h : l[k]? = some a) : ((l.set k b).map f).sum + f a = (l.map f).sum + f b := by
  have hk : k < l.length := (List.getElem?_eq_some_iff.mp h).1
  have hset : (l.set k b)[k]? = some b := List.getElem?_set_self hk
  rw [← sum_map_eraseIdx f h, ← sum_map_eraseIdx f hset, List.eraseIdx_set_eq]
  exact add_right_comm _ _ _

/-! ## Tokens -/

/-- The token of a task that waits. -/
def PostedTask.tokens (task : PostedTask τ) : Multiset τ :=
  if task.notification.ordered then {task.notification.tag} else 0

/-- The token of a result. -/
def AsyncCommonEventResult.tokens (result : AsyncCommonEventResult τ) : Multiset τ :=
  if result.ordered && !result.finished then {result.tag} else 0

/-- The token of an answer. -/
def FinishReceiverCall.tokens (call : FinishReceiverCall τ) : Multiset τ := {call.tag}

/-- The token that comes in with a step. -/
def ReceiversLabel.tokens : ReceiversLabel τ → Multiset τ
  | .notifyEvent notification => if notification.ordered then {notification.tag} else 0
  | _ => 0

/-- A setter leaves what a result is for. -/
theorem AsyncCommonEventResult.whenSynchronous_frame (result : AsyncCommonEventResult τ)
    {write : AsyncCommonEventResult τ → AsyncCommonEventResult τ}
    (hordered : (write result).ordered = result.ordered)
    (hfinished : (write result).finished = result.finished)
    (htoken : (write result).token = result.token) (htag : (write result).tag = result.tag) :
    (result.whenSynchronous write).2.ordered = result.ordered
      ∧ (result.whenSynchronous write).2.finished = result.finished
      ∧ (result.whenSynchronous write).2.token = result.token
      ∧ (result.whenSynchronous write).2.tag = result.tag := by
  unfold AsyncCommonEventResult.whenSynchronous
  split
  · exact ⟨hordered, hfinished, htoken, htag⟩
  · exact ⟨rfl, rfl, rfl, rfl⟩

/-- No call that sets a result finishes it, or changes what it is for. -/
theorem ResultCall.apply_frame (call : ResultCall) (result : AsyncCommonEventResult τ) :
    (call.apply result).ordered = result.ordered
      ∧ (call.apply result).finished = result.finished
      ∧ (call.apply result).token = result.token ∧ (call.apply result).tag = result.tag := by
  cases call with
  | _ => exact result.whenSynchronous_frame rfl rfl rfl rfl

theorem ResultCall.tokens_apply (call : ResultCall) (result : AsyncCommonEventResult τ) :
    (call.apply result).tokens = result.tokens := by
  obtain ⟨hordered, hfinished, -, htag⟩ := call.apply_frame result
  rw [AsyncCommonEventResult.tokens, AsyncCommonEventResult.tokens, hordered, hfinished, htag]

namespace AsyncCommonEventResult

variable (result : AsyncCommonEventResult τ)

/-- **`FinishCommonEvent`** answers an ordered event that is not finished, with
what was set last, and finishes it; otherwise it does nothing. -/
theorem finishCommonEvent_cases :
    (result.ordered = true ∧ result.finished = false ∧ result.finishCommonEvent
        = (some ⟨result.token, result.resultCode, result.resultData, result.abortEvent,
            result.tag⟩, { result with finished := true }))
      ∨ ((result.ordered = false ∨ result.finished = true)
        ∧ result.finishCommonEvent = (none, result)) := by
  unfold finishCommonEvent checkSynchronous
  cases result.ordered with
  | false => exact Or.inr ⟨Or.inl rfl, rfl⟩
  | true =>
    cases result.finished with
    | true => exact Or.inr ⟨Or.inr rfl, rfl⟩
    | false => exact Or.inl ⟨rfl, rfl, rfl⟩

/-- The token of a result passes to the answer. -/
theorem tokens_finishCommonEvent :
    result.finishCommonEvent.2.tokens
      + (result.finishCommonEvent.1.toList.map FinishReceiverCall.tokens).sum
      = result.tokens := by
  rcases result.finishCommonEvent_cases with ⟨hordered, hfinished, heq⟩ | ⟨-, heq⟩
  · rw [heq]
    simp [tokens, FinishReceiverCall.tokens, hordered, hfinished]
  · rw [heq]
    simp

/-- An ordered result is finished after `FinishCommonEvent`. -/
theorem finishCommonEvent_finished :
    result.finishCommonEvent.2.ordered = result.ordered
      ∧ (result.finished = true → result.finishCommonEvent.2.finished = true)
      ∧ (result.ordered = true → result.finishCommonEvent.2.finished = true) := by
  rcases result.finishCommonEvent_cases with ⟨-, -, heq⟩ | ⟨hor, heq⟩
  · rw [heq]
    exact ⟨rfl, fun _ => rfl, fun _ => rfl⟩
  · rw [heq]
    exact ⟨rfl, id, fun hord => hor.resolve_left (by rw [hord]; exact nofun)⟩

end AsyncCommonEventResult

namespace Receivers

variable {s t : Receivers τ}

/-- **The tokens of a state**: the notifications that can still be answered,
and the answers given. -/
def tokens (s : Receivers τ) : Multiset τ :=
  (s.posted.map PostedTask.tokens).sum
    + (s.results.map AsyncCommonEventResult.tokens).sum
    + (s.outbox.map FinishReceiverCall.tokens).sum

/-- A result may be written to as long as its token stays. -/
theorem tokens_setResult {k : ℕ} {result result' : AsyncCommonEventResult τ}
    (hk : s.results[k]? = some result) (htokens : result'.tokens = result.tokens) :
    (s.setResult k result').tokens = s.tokens := by
  have hsum := sum_map_set AsyncCommonEventResult.tokens result' hk
  rw [htokens] at hsum
  show (s.posted.map PostedTask.tokens).sum
      + ((s.results.set k result').map AsyncCommonEventResult.tokens).sum
      + (s.outbox.map FinishReceiverCall.tokens).sum = _
  rw [add_right_cancel hsum]
  rfl

/-- **`FinishCommonEvent` gives no answer twice.** -/
theorem tokens_finishCommonEvent {k : ℕ} {result : AsyncCommonEventResult τ}
    (hk : s.results[k]? = some result) (sent : Bool) :
    (s.finishCommonEvent k sent result).tokens ≤ s.tokens := by
  have hmove := result.tokens_finishCommonEvent
  have hset := sum_map_set AsyncCommonEventResult.tokens result.finishCommonEvent.2 hk
  have hsent : ((if sent then result.finishCommonEvent.1.toList else []).map
        FinishReceiverCall.tokens).sum
      ≤ (result.finishCommonEvent.1.toList.map FinishReceiverCall.tokens).sum := by
    cases sent with
    | true => exact le_rfl
    | false => exact Multiset.zero_le _
  show (s.posted.map PostedTask.tokens).sum
      + ((s.results.set k result.finishCommonEvent.2).map AsyncCommonEventResult.tokens).sum
      + ((s.outbox ++ if sent then result.finishCommonEvent.1.toList else []).map
        FinishReceiverCall.tokens).sum
    ≤ (s.posted.map PostedTask.tokens).sum
      + (s.results.map AsyncCommonEventResult.tokens).sum
      + (s.outbox.map FinishReceiverCall.tokens).sum
  rw [List.map_append, List.sum_append]
  rw [← hmove] at hset
  generalize (s.posted.map PostedTask.tokens).sum = posted at *
  generalize (s.results.map AsyncCommonEventResult.tokens).sum = results at *
  generalize ((s.results.set k result.finishCommonEvent.2).map
    AsyncCommonEventResult.tokens).sum = results' at *
  generalize (s.outbox.map FinishReceiverCall.tokens).sum = outbox at *
  generalize result.finishCommonEvent.2.tokens = kept at *
  generalize (result.finishCommonEvent.1.toList.map FinishReceiverCall.tokens).sum = moved at *
  have hresults : results' + moved = results := by
    refine add_right_cancel (b := kept) ?_
    rw [← hset]
    abel
  rw [← hresults]
  refine le_trans (add_le_add_right (add_le_add_right hsent outbox) (posted + results')) ?_
  exact le_of_eq (by abel)

/-- The result of a notification, as it is made. -/
def made (notification : Notification τ) : AsyncCommonEventResult τ where
  resultCode := notification.commonEventData.code
  resultData := notification.commonEventData.data
  ordered := notification.ordered
  sticky := notification.sticky
  token := notification.commonEventListener
  tag := notification.tag

/-- **What a step does to the tasks posted, the results and the answers.** It
leaves them; or a notification comes in, and is posted or not; or the first
task of a queue becomes a result, or comes to nothing; or a result is set; or
a result is finished, and its answer sent or not. -/
inductive Moves (s : Receivers τ) (l : ReceiversLabel τ) (t : Receivers τ) : Prop
  | still (hl : ∀ notification, l ≠ .notifyEvent notification) (hposted : t.posted = s.posted)
      (hresults : t.results = s.results) (houtbox : t.outbox = s.outbox)
  | comesIn (notification : Notification τ) (hl : l = .notifyEvent notification)
      (hposted : t.posted = s.posted
        ∨ ∃ queue, t.posted = s.posted ++ [⟨queue, notification⟩])
      (hresults : t.results = s.results) (houtbox : t.outbox = s.outbox)
  | begins (i : ℕ) (task : PostedTask τ) (hl : ∀ notification, l ≠ .notifyEvent notification)
      (htask : s.posted[i]? = some task) (hnext : s.isNext i task = true)
      (hposted : t.posted = s.posted.eraseIdx i)
      (hresults : t.results = s.results
        ∨ t.results = s.results ++ [made task.notification])
      (houtbox : t.outbox = s.outbox)
  | sets (k : ℕ) (result : AsyncCommonEventResult τ) (call : ResultCall)
      (hl : ∀ notification, l ≠ .notifyEvent notification)
      (hk : s.results[k]? = some result) (hposted : t.posted = s.posted)
      (hresults : t.results = s.results.set k (call.apply result))
      (houtbox : t.outbox = s.outbox)
  | finishes (k : ℕ) (result : AsyncCommonEventResult τ) (sent : Bool)
      (hl : ∀ notification, l ≠ .notifyEvent notification)
      (hk : s.results[k]? = some result) (hposted : t.posted = s.posted)
      (hresults : t.results = s.results.set k result.finishCommonEvent.2)
      (houtbox : t.outbox = s.outbox
        ++ if sent then result.finishCommonEvent.1.toList else [])

/-- A listener posts a notification once, for it has one place to post to. -/
theorem posted_notifyEvent (s : Receivers τ) (notification : Notification τ) :
    (s.notifyEvent notification).posted = s.posted
      ∨ ∃ listener queue, s.listeners notification.commonEventListener = some listener
        ∧ (listener.handler = true → queue = none)
        ∧ (listener.listenerQueue = true → queue = some notification.commonEventListener)
        ∧ (listener.handler = true ∨ listener.listenerQueue = true)
        ∧ (s.notifyEvent notification).posted = s.posted ++ [⟨queue, notification⟩] := by
  unfold Receivers.notifyEvent
  cases hlistener : s.listeners notification.commonEventListener with
  | none => exact Or.inl rfl
  | some listener =>
    dsimp only
    split
    · exact Or.inl rfl
    have hone := listener.one
    cases hhandler : listener.handler with
    | true =>
      rw [hhandler, Bool.true_and] at hone
      rw [hone, if_pos rfl, if_neg Bool.false_ne_true, List.append_nil]
      exact Or.inr ⟨listener, none, rfl, fun _ => rfl, by rw [hone]; exact nofun,
        Or.inl hhandler, rfl⟩
    | false =>
      rw [if_neg Bool.false_ne_true, List.append_nil]
      cases hown : listener.listenerQueue with
      | true =>
        exact Or.inr ⟨listener, _, rfl, by rw [hhandler]; exact nofun, fun _ => rfl,
          Or.inr hown, rfl⟩
      | false =>
        refine Or.inl ?_
        rw [if_neg Bool.false_ne_true, List.append_nil]

theorem notifyEvent_frame (s : Receivers τ) (notification : Notification τ) :
    (s.notifyEvent notification).results = s.results
      ∧ (s.notifyEvent notification).outbox = s.outbox
      ∧ (s.notifyEvent notification).listeners = s.listeners
      ∧ (s.notifyEvent notification).receiving = s.receiving
      ∧ (s.notifyEvent notification).result_ = s.result_
      ∧ (s.notifyEvent notification).handedOut = s.handedOut := by
  unfold Receivers.notifyEvent
  split
  · exact ⟨rfl, rfl, rfl, rfl, rfl, rfl⟩
  · split <;> exact ⟨rfl, rfl, rfl, rfl, rfl, rfl⟩

/-- **Every step makes one of these moves.** -/
theorem moves_of_step {l : ReceiversLabel τ} (hstep : s.step l = some t) : s.Moves l t := by
  cases l with
  | construct listener subscriber threadMode created =>
    unfold Receivers.step at hstep
    dsimp only at hstep
    split at hstep
    · cases hstep
      exact .still nofun rfl rfl rfl
    · cases hstep
  | notifyEvent notification =>
    cases hstep
    obtain ⟨hresults, houtbox, -⟩ := s.notifyEvent_frame notification
    refine .comesIn notification rfl ?_ hresults houtbox
    rcases s.posted_notifyEvent notification with hposted | ⟨-, queue, -, -, -, -, hposted⟩
    · exact Or.inl hposted
    · exact Or.inr ⟨queue, hposted⟩
  | onReceiveEvent i alive =>
    obtain ⟨task, htask, hstep⟩ := Option.bind_eq_some_iff.mp hstep
    split at hstep
    next hnext =>
      cases hstep
      unfold Receivers.onReceiveEvent
      dsimp only
      split
      · exact .begins i task nofun htask hnext rfl (Or.inl rfl) rfl
      · split
        · exact .begins i task nofun htask hnext rfl (Or.inl rfl) rfl
        · exact .begins i task nofun htask hnext rfl (Or.inr rfl) rfl
    next => cases hstep
  | setAsyncCommonEventResult i =>
    obtain ⟨running, -, hstep⟩ := Option.bind_eq_some_iff.mp hstep
    split at hstep
    · cases hstep
      exact .still nofun rfl rfl rfl
    · cases hstep
  | returned i =>
    obtain ⟨running, -, hstep⟩ := Option.bind_eq_some_iff.mp hstep
    split at hstep
    · split at hstep
      all_goals
        cases hstep
        exact .still nofun rfl rfl rfl
    · cases hstep
  | finish i sent =>
    obtain ⟨running, -, hstep⟩ := Option.bind_eq_some_iff.mp hstep
    split at hstep
    · obtain ⟨k, -, hstep⟩ := Option.bind_eq_some_iff.mp hstep
      obtain ⟨result, hresult, rfl⟩ := Option.map_eq_some_iff.mp hstep
      exact .finishes k result sent nofun hresult rfl rfl rfl
    · cases hstep
  | subscriberCall subscriber call =>
    unfold Receivers.step at hstep
    dsimp only at hstep
    split at hstep
    · cases hstep
      exact .still nofun rfl rfl rfl
    · obtain ⟨result, hresult, rfl⟩ := Option.map_eq_some_iff.mp hstep
      exact .sets _ result call nofun hresult rfl rfl rfl
  | goAsyncCommonEvent subscriber =>
    unfold Receivers.step at hstep
    dsimp only at hstep
    split at hstep
    all_goals
      cases hstep
      exact .still nofun rfl rfl rfl
  | resultCall k call =>
    unfold Receivers.step at hstep
    dsimp only at hstep
    split at hstep
    · obtain ⟨result, hresult, rfl⟩ := Option.map_eq_some_iff.mp hstep
      exact .sets k result call nofun hresult rfl rfl rfl
    · cases hstep
  | finishCommonEvent k sent =>
    unfold Receivers.step at hstep
    dsimp only at hstep
    split at hstep
    · obtain ⟨result, hresult, rfl⟩ := Option.map_eq_some_iff.mp hstep
      exact .finishes k result sent nofun hresult rfl rfl rfl
    · cases hstep
  | stop listener =>
    cases hstep
    exact .still nofun rfl rfl rfl

theorem tokens_label {l : ReceiversLabel τ} (hl : ∀ notification, l ≠ .notifyEvent notification) :
    l.tokens = 0 := by
  cases l with
  | notifyEvent notification => exact absurd rfl (hl notification)
  | _ => rfl

/-- **No step makes a token**, but for the notification that comes in. -/
theorem tokens_step {l : ReceiversLabel τ} (hstep : s.step l = some t) :
    t.tokens ≤ l.tokens + s.tokens := by
  cases moves_of_step hstep with
  | still hl hposted hresults houtbox =>
    rw [tokens_label hl, zero_add, tokens, tokens, hposted, hresults, houtbox]
  | comesIn notification hl hposted hresults houtbox =>
    rw [hl]
    unfold tokens
    rw [hresults, houtbox]
    rcases hposted with hposted | ⟨queue, hposted⟩
    · rw [hposted]
      exact Multiset.le_add_left _ _
    · refine le_of_eq ?_
      rw [hposted]
      simp only [List.map_append, List.sum_append, List.map_singleton, List.sum_singleton,
        PostedTask.tokens, ReceiversLabel.tokens]
      abel
  | begins i task hl htask hnext hposted hresults houtbox =>
    have hsum := sum_map_eraseIdx PostedTask.tokens htask
    rw [tokens_label hl, zero_add]
    unfold tokens
    rw [hposted, houtbox, ← hsum]
    rcases hresults with hresults | hresults
    · rw [hresults]
      exact add_le_add_left (add_le_add_left (Multiset.le_add_right _ _) _) _
    · -- the token passes from the task to the result
      refine le_of_eq ?_
      rw [hresults, List.map_append, List.sum_append, List.map_singleton, List.sum_singleton]
      simp only [AsyncCommonEventResult.tokens, made, PostedTask.tokens, Bool.not_false,
        Bool.and_true]
      abel
  | sets k result call hl hk hposted hresults houtbox =>
    have hset := tokens_setResult hk (call.tokens_apply result)
    rw [tokens_label hl, zero_add, ← hset, tokens, hposted, hresults, houtbox]
    exact le_rfl
  | finishes k result sent hl hk hposted hresults houtbox =>
    have hfinish := tokens_finishCommonEvent hk sent
    rw [tokens_label hl, zero_add, tokens, hposted, hresults, houtbox]
    exact hfinish

/-- What came in is all there is to answer. -/
theorem tokens_run {ls : List (ReceiversLabel τ)} (hs : (receiversMachine τ).run ls = some s) :
    s.tokens ≤ (ls.map ReceiversLabel.tokens).sum := by
  refine Machine.run_induction (M := receiversMachine τ)
    (R := fun ls s => s.tokens ≤ (ls.map ReceiversLabel.tokens).sum) le_rfl ?_ hs
  intro ls l s t _ ih hstep
  rw [List.map_append, List.sum_append, List.map_singleton, List.sum_singleton, add_comm]
  exact le_trans (tokens_step hstep) (add_le_add_right ih _)

/-! ## At most once -/

/-- Whether a step is the coming in of an ordered notification with this
tag. -/
def notifies [DecidableEq τ] (tag : τ) : ReceiversLabel τ → Bool
  | .notifyEvent notification => notification.ordered && notification.tag = tag
  | _ => false

theorem count_tokens [DecidableEq τ] (tag : τ) (ls : List (ReceiversLabel τ)) :
    (ls.map ReceiversLabel.tokens).sum.count tag = ls.countP (notifies tag) := by
  induction ls with
  | nil => rfl
  | cons l ls ih =>
    rw [List.map_cons, List.sum_cons, Multiset.count_add, ih, List.countP_cons, add_comm]
    congr 1
    cases l with
    | notifyEvent notification =>
      unfold ReceiversLabel.tokens notifies
      cases hordered : notification.ordered with
      | false => simp [hordered]
      | true =>
        by_cases htag : notification.tag = tag
        · simp [hordered, htag]
        · simp [hordered, htag, Ne.symm htag]
    | _ => rfl

/-- **No notification is answered twice.** In every run, the answers with a
tag are no more than the ordered notifications with this tag that came in;
an unordered notification is never answered. -/
theorem answers_le_notifications [DecidableEq τ] {ls : List (ReceiversLabel τ)}
    (hs : (receiversMachine τ).run ls = some s) (tag : τ) :
    (s.outbox.map (·.tag)).count tag ≤ ls.countP (notifies tag) := by
  rw [← count_tokens]
  refine le_trans ?_ (Multiset.count_le_of_le tag (tokens_run hs))
  have hsum : (s.outbox.map FinishReceiverCall.tokens).sum
      = ((s.outbox.map (·.tag) : List τ) : Multiset τ) := by
    induction s.outbox with
    | nil => rfl
    | cons call calls ih =>
      rw [List.map_cons, List.sum_cons, ih]
      rfl
  rw [tokens, hsum, Multiset.count_add, Multiset.coe_count]
  exact Nat.le_add_left _ _

/-- A listener with a queue of its own, told of one ordered event. -/
def untilMade : List (ReceiversLabel ℕ) :=
  [.construct ⟨1⟩ (some 0) Wire.ThreadMode.ASYNC true,
    .notifyEvent ⟨⟨1⟩, { want := { action := "usual.event.SCREEN_ON" } }, true, false, 7⟩,
    .onReceiveEvent 0 true, .setAsyncCommonEventResult 0]

/-- The callback sets the code and returns, and the event is answered. -/
def untilAnswered : List (ReceiversLabel ℕ) :=
  untilMade ++ [.subscriberCall 0 (.setCode 3), .returned 0, .finish 0 true]

/-- The one notification is answered once. -/
theorem answers_le_notifications_untilAnswered :
    ∃ s, (receiversMachine ℕ).run untilAnswered = some s
      ∧ s.outbox = [⟨⟨1⟩, 3, "", false, 7⟩] ∧ (s.outbox.map (·.tag)).count 7 ≤ 1 := by
  obtain ⟨s, hs, hout⟩ := Option.map_eq_some_iff.mp
    (show ((receiversMachine ℕ).run untilAnswered).map (fun s => s.outbox)
      = some [⟨⟨1⟩, 3, "", false, 7⟩] by decide +kernel)
  exact ⟨s, hs, hout, answers_le_notifications hs 7⟩

/-! ## In order -/

/-- The tag of a result, where it is one of this listener's. -/
def tagOf (listener : Remote) (result : AsyncCommonEventResult τ) : Option τ :=
  if result.token = listener then some result.tag else none

/-- The tag of a task, where it is one of this listener's. -/
def postedTag (listener : Remote) (task : PostedTask τ) : Option τ :=
  if task.notification.commonEventListener = listener then some task.notification.tag else none

/-- The tag of a notification that comes in to this listener. -/
def comesIn (listener : Remote) : ReceiversLabel τ → Option τ
  | .notifyEvent notification =>
    if notification.commonEventListener = listener then some notification.tag else none
  | _ => none

/-- **What a listener has begun to receive, and then what waits for it.** -/
def course (s : Receivers τ) (listener : Remote) : List τ :=
  s.results.filterMap (tagOf listener) ++ s.posted.filterMap (postedTag listener)

/-- **The tasks of a listener are in one queue**, the one it posts to. -/
structure Queued (s : Receivers τ) : Prop where
  same : ∀ task ∈ s.posted, ∀ other ∈ s.posted,
    other.notification.commonEventListener = task.notification.commonEventListener →
      other.queue = task.queue
  posts : ∀ task ∈ s.posted, ∃ listener,
    s.listeners task.notification.commonEventListener = some listener
      ∧ (listener.handler = true → task.queue = none)
      ∧ (listener.listenerQueue = true →
        task.queue = some task.notification.commonEventListener)

theorem Queued.frame (h : s.Queued) (hposted : ∀ task ∈ t.posted, task ∈ s.posted)
    (hlisteners : t.listeners = s.listeners) : t.Queued := by
  refine ⟨fun task ht other ho => h.same task (hposted task ht) other (hposted other ho), ?_⟩
  rw [hlisteners]
  exact fun task ht => h.posts task (hposted task ht)

theorem filterMap_set_of_eq {α β : Type} (f : α → Option β) {l : List α} {k : ℕ} {a b : α}
    (h : l[k]? = some a) (hf : f b = f a) : (l.set k b).filterMap f = l.filterMap f := by
  have hmap : (l.set k b).map f = l.map f := by
    rw [List.map_set, hf]
    obtain ⟨hk, rfl⟩ := List.getElem?_eq_some_iff.mp h
    have hlen : k < (l.map f).length := by rwa [List.length_map]
    rw [← List.getElem_map f (h := hlen), List.set_getElem_self]
  have hid : ∀ l : List α, l.filterMap f = (l.map f).filterMap id := fun l => by
    rw [List.filterMap_map]
    rfl
  rw [hid, hid, hmap]

/-- A write to a result that leaves what it is for leaves the course. -/
theorem course_set {k : ℕ} {result result' : AsyncCommonEventResult τ}
    (hk : s.results[k]? = some result) (htoken : result'.token = result.token)
    (htag : result'.tag = result.tag) (hresults : t.results = s.results.set k result')
    (hposted : t.posted = s.posted) (listener : Remote) :
    t.course listener = s.course listener := by
  rw [course, course, hresults, hposted, filterMap_set_of_eq _ hk]
  rw [tagOf, tagOf, htoken, htag]

theorem finishCommonEvent_frame (result : AsyncCommonEventResult τ) :
    result.finishCommonEvent.2.token = result.token
      ∧ result.finishCommonEvent.2.tag = result.tag := by
  rcases result.finishCommonEvent_cases with ⟨-, -, heq⟩ | ⟨-, heq⟩
  all_goals
    rw [heq]
    exact ⟨rfl, rfl⟩

/-- The task that may begin is the first of its listener. -/
theorem filterMap_posted_of_isNext (h : s.Queued) {i : ℕ} {task : PostedTask τ}
    (htask : s.posted[i]? = some task) (hnext : s.isNext i task = true) (listener : Remote) :
    s.posted.filterMap (postedTag listener)
      = (postedTag listener task).toList
        ++ (s.posted.eraseIdx i).filterMap (postedTag listener) := by
  obtain ⟨hi, hget⟩ := List.getElem?_eq_some_iff.mp htask
  have hmem : task ∈ s.posted := List.mem_of_getElem? htask
  have hsplit : s.posted = s.posted.take i ++ task :: s.posted.drop (i + 1) := by
    rw [← hget, List.getElem_cons_drop, List.take_append_drop]
  have herase : s.posted.eraseIdx i = s.posted.take i ++ s.posted.drop (i + 1) :=
    List.eraseIdx_eq_take_drop_succ ..
  rw [herase, List.filterMap_append]
  conv_lhs => rw [hsplit]
  rw [List.filterMap_append, List.filterMap_cons]
  cases htag : postedTag listener task with
  | none => rfl
  | some tag =>
    have hlistener : task.notification.commonEventListener = listener := by
      by_contra hne
      rw [postedTag, if_neg hne] at htag
      cases htag
    -- what is before it in the list is in other queues, so of other listeners
    have hbefore : (s.posted.take i).filterMap (postedTag listener) = [] := by
      refine List.filterMap_eq_nil_iff.mpr fun other hother => ?_
      have hne : other.queue ≠ task.queue := by
        have hall := (Bool.and_eq_true_iff.mp hnext).1
        simpa using (List.all_eq_true.mp hall) other hother
      rw [postedTag, if_neg]
      intro heq
      exact hne (h.same task hmem other (List.mem_of_mem_take hother) (heq.trans hlistener.symm))
    rw [hbefore]
    rfl

/-- A listener posts to the queue its tasks are in. -/
theorem queued_notifyEvent (h : s.Queued) (notification : Notification τ) :
    (s.notifyEvent notification).Queued := by
  obtain ⟨-, -, hlisteners, -⟩ := s.notifyEvent_frame notification
  rcases s.posted_notifyEvent notification with hposted |
    ⟨listener, queue, hlistener, hhandler, hown, hready, hposted⟩
  · exact h.frame (fun task ht => by rwa [hposted] at ht) hlisteners
  have hold : ∀ task ∈ s.posted,
      task.notification.commonEventListener = notification.commonEventListener →
        task.queue = queue := by
    intro task ht heq
    obtain ⟨listener', hlistener', hh, ho⟩ := h.posts task ht
    rw [heq, hlistener] at hlistener'
    obtain rfl := Option.some.inj hlistener'
    rcases hready with hready | hready
    · rw [hh hready, hhandler hready]
    · rw [ho hready, hown hready, heq]
  refine ⟨?_, ?_⟩
  · intro task ht other ho heq
    rw [hposted] at ht ho
    rcases List.mem_append.mp ht with ht | ht <;> rcases List.mem_append.mp ho with ho | ho
    · exact h.same task ht other ho heq
    · obtain rfl := List.mem_singleton.mp ho
      exact (hold task ht heq.symm).symm
    · obtain rfl := List.mem_singleton.mp ht
      exact hold other ho heq
    · rw [List.mem_singleton.mp ht, List.mem_singleton.mp ho]
  · intro task ht
    rw [hposted] at ht
    rw [hlisteners]
    rcases List.mem_append.mp ht with ht | ht
    · exact h.posts task ht
    · obtain rfl := List.mem_singleton.mp ht
      exact ⟨listener, hlistener, hhandler, hown⟩

/-- **A step keeps the tasks of each listener in one queue.** -/
theorem queued_step {l : ReceiversLabel τ} (h : s.Queued) (hstep : s.step l = some t) :
    t.Queued := by
  cases l with
  | construct listener subscriber threadMode created =>
    unfold Receivers.step at hstep
    dsimp only at hstep
    split at hstep
    next hnone =>
      cases hstep
      refine ⟨h.same, fun task ht => ?_⟩
      obtain ⟨listener', hlistener', hposts⟩ := h.posts task ht
      refine ⟨listener', ?_, hposts⟩
      dsimp only
      rw [if_neg]
      · exact hlistener'
      · intro heq
        rw [heq, hnone] at hlistener'
        cases hlistener'
    next => cases hstep
  | notifyEvent notification =>
    cases hstep
    exact queued_notifyEvent h notification
  | onReceiveEvent i alive =>
    obtain ⟨task, -, hstep⟩ := Option.bind_eq_some_iff.mp hstep
    split at hstep
    · cases hstep
      unfold Receivers.onReceiveEvent
      dsimp only
      split
      · exact h.frame (fun _ => List.mem_of_mem_eraseIdx) rfl
      · split
        all_goals exact h.frame (fun _ => List.mem_of_mem_eraseIdx) rfl
    · cases hstep
  | setAsyncCommonEventResult i =>
    obtain ⟨running, -, hstep⟩ := Option.bind_eq_some_iff.mp hstep
    split at hstep
    · cases hstep
      exact h.frame (fun _ => id) rfl
    · cases hstep
  | returned i =>
    obtain ⟨running, -, hstep⟩ := Option.bind_eq_some_iff.mp hstep
    split at hstep
    · split at hstep
      all_goals
        cases hstep
        exact h.frame (fun _ => id) rfl
    · cases hstep
  | finish i sent =>
    obtain ⟨running, -, hstep⟩ := Option.bind_eq_some_iff.mp hstep
    split at hstep
    · obtain ⟨k, -, hstep⟩ := Option.bind_eq_some_iff.mp hstep
      obtain ⟨result, -, rfl⟩ := Option.map_eq_some_iff.mp hstep
      exact h.frame (fun _ => id) rfl
    · cases hstep
  | subscriberCall subscriber call =>
    unfold Receivers.step at hstep
    dsimp only at hstep
    split at hstep
    · cases hstep
      exact h
    · obtain ⟨result, -, rfl⟩ := Option.map_eq_some_iff.mp hstep
      exact h.frame (fun _ => id) rfl
  | goAsyncCommonEvent subscriber =>
    unfold Receivers.step at hstep
    dsimp only at hstep
    split at hstep
    all_goals
      cases hstep
      exact h.frame (fun _ => id) rfl
  | resultCall k call =>
    unfold Receivers.step at hstep
    dsimp only at hstep
    split at hstep
    · obtain ⟨result, -, rfl⟩ := Option.map_eq_some_iff.mp hstep
      exact h.frame (fun _ => id) rfl
    · cases hstep
  | finishCommonEvent k sent =>
    unfold Receivers.step at hstep
    dsimp only at hstep
    split at hstep
    · obtain ⟨result, -, rfl⟩ := Option.map_eq_some_iff.mp hstep
      exact h.frame (fun _ => id) rfl
    · cases hstep
  | stop listener =>
    cases hstep
    refine ⟨h.same, fun task ht => ?_⟩
    obtain ⟨listener', hlistener', hposts⟩ := h.posts task ht
    show ∃ x, (if task.notification.commonEventListener = listener
      then (s.listeners listener).map (fun _ => ({} : CommonEventListener))
      else s.listeners task.notification.commonEventListener) = some x ∧ _
    split
    next heq =>
      -- a listener that was stopped posts nowhere
      rw [← heq, hlistener']
      exact ⟨{}, rfl, nofun, nofun⟩
    next => exact ⟨listener', hlistener', hposts⟩

theorem comesIn_label {l : ReceiversLabel τ}
    (hl : ∀ notification, l ≠ .notifyEvent notification) (listener : Remote) :
    comesIn listener l = none := by
  cases l with
  | notifyEvent notification => exact absurd rfl (hl notification)
  | _ => rfl

/-- **What a listener receives is what came in, in order**, one step on. -/
theorem course_step {l : ReceiversLabel τ} (h : s.Queued) (hstep : s.step l = some t)
    (listener : Remote) :
    (t.course listener).Sublist (s.course listener ++ (comesIn listener l).toList) := by
  cases moves_of_step hstep with
  | still hl hposted hresults houtbox =>
    rw [course, course, hposted, hresults]
    exact List.sublist_append_left _ _
  | comesIn notification hl hposted hresults houtbox =>
    rw [hl, course, course, hresults]
    rcases hposted with hposted | ⟨queue, hposted⟩
    · rw [hposted]
      exact List.sublist_append_left _ _
    · rw [hposted, List.filterMap_append, ← List.append_assoc]
      exact List.Sublist.refl _
  | begins i task hl htask hnext hposted hresults houtbox =>
    have hsplit := filterMap_posted_of_isNext h htask hnext listener
    rw [comesIn_label hl, Option.toList_none, List.append_nil, course, course, hposted, hsplit]
    rcases hresults with hresults | hresults
    · rw [hresults]
      exact (List.Sublist.refl _).append (List.sublist_append_right _ _)
    · -- the task has become a result
      rw [hresults, List.filterMap_append, ← List.append_assoc]
      exact List.Sublist.refl _
  | sets k result call hl hk hposted hresults houtbox =>
    obtain ⟨-, -, htoken, htag⟩ := call.apply_frame result
    rw [course_set hk htoken htag hresults hposted]
    exact List.sublist_append_left _ _
  | finishes k result sent hl hk hposted hresults houtbox =>
    obtain ⟨htoken, htag⟩ := finishCommonEvent_frame result
    rw [course_set hk htoken htag hresults hposted]
    exact List.sublist_append_left _ _

/-- **A listener receives its notifications in the order they came in**, each
at most once, whichever it misses: the callbacks begun, and then the tasks
that wait, are a sublist of what came in. -/
theorem received_in_order {ls : List (ReceiversLabel τ)}
    (hs : (receiversMachine τ).run ls = some s) (listener : Remote) :
    (s.results.filterMap (tagOf listener) ++ s.posted.filterMap (postedTag listener)).Sublist
      (ls.filterMap (comesIn listener)) := by
  have hboth : s.Queued ∧ (s.course listener).Sublist (ls.filterMap (comesIn listener)) := by
    refine Machine.run_induction (M := receiversMachine τ)
      (R := fun ls s => s.Queued
        ∧ (s.course listener).Sublist (ls.filterMap (comesIn listener)))
      ⟨⟨nofun, nofun⟩, List.Sublist.refl _⟩ ?_ hs
    rintro ls l s t - ⟨hqueued, hsub⟩ hstep
    refine ⟨queued_step hqueued hstep, ?_⟩
    refine (course_step hqueued hstep listener).trans ?_
    rw [List.filterMap_append]
    refine hsub.append ?_
    rw [List.filterMap_cons]
    cases comesIn listener l <;> exact List.Sublist.refl _
  exact hboth.2

/-- The one notification is the one received. -/
theorem received_in_order_untilAnswered :
    ∃ s, (receiversMachine ℕ).run untilAnswered = some s
      ∧ (s.results.filterMap (tagOf ⟨1⟩) ++ s.posted.filterMap (postedTag ⟨1⟩)).Sublist [7] := by
  obtain ⟨s, hs, -⟩ := Option.map_eq_some_iff.mp
    (show ((receiversMachine ℕ).run untilAnswered).map (fun s => s.outbox)
      = some [⟨⟨1⟩, 3, "", false, 7⟩] by decide +kernel)
  exact ⟨s, hs, received_in_order hs ⟨1⟩⟩

/-! ## At least once -/

/-- **No two callbacks of one subscriber at the same time**: a subscriber is
given a result only when no other task is calling it back. -/
def Alone (s : Receivers τ) : ReceiversLabel τ → Prop
  | .setAsyncCommonEventResult i =>
    ∀ running ∈ s.receiving[i]?, ∀ other ∈ s.receiving,
      other.place ≠ .made → other.subscriber ≠ running.subscriber
  | _ => True

instance (s : Receivers τ) : ∀ l, Decidable (s.Alone l)
  | .setAsyncCommonEventResult _ => inferInstanceAs (Decidable (∀ running ∈ s.receiving[_]?, _))
  | .construct _ _ _ _ => .isTrue trivial
  | .notifyEvent _ => .isTrue trivial
  | .onReceiveEvent _ _ => .isTrue trivial
  | .returned _ => .isTrue trivial
  | .finish _ _ => .isTrue trivial
  | .subscriberCall _ _ => .isTrue trivial
  | .goAsyncCommonEvent _ => .isTrue trivial
  | .resultCall _ _ => .isTrue trivial
  | .finishCommonEvent _ _ => .isTrue trivial
  | .stop _ => .isTrue trivial

/-- **Whose business an unfinished result is**: a task that is running, or
somebody it was handed out to. -/
structure Owed (s : Receivers τ) : Prop where
  owed : ∀ k result, s.results[k]? = some result → result.ordered = true →
    result.finished = true ∨ k ∈ s.handedOut ∨ ∃ running ∈ s.receiving, running.result = k
  made : ∀ running ∈ s.receiving, ∃ result, s.results[running.result]? = some result
    ∧ result.ordered = running.ordered
  /-- A subscriber that is called back has its result, or has handed it out. -/
  has : ∀ running ∈ s.receiving, running.place ≠ .made →
    s.result_ running.subscriber = some running.result
      ∨ (s.result_ running.subscriber = none ∧ running.result ∈ s.handedOut)

/-- A write to a result that does not make it unfinished leaves whose business
it is. -/
theorem Owed.write (h : s.Owed) {k : ℕ} {result result' : AsyncCommonEventResult τ}
    (hk : s.results[k]? = some result) (hordered : result'.ordered = result.ordered)
    (hfinished : result.finished = true → result'.finished = true)
    (hresults : t.results = s.results.set k result') (hreceiving : t.receiving = s.receiving)
    (hhas : t.result_ = s.result_) (hout : t.handedOut = s.handedOut) : t.Owed := by
  have hlen : k < s.results.length := (List.getElem?_eq_some_iff.mp hk).1
  refine ⟨?_, ?_, by rw [hreceiving, hhas, hout]; exact h.has⟩
  · intro j found hj hord
    rw [hreceiving, hout]
    rw [hresults] at hj
    by_cases hjk : j = k
    · subst hjk
      rw [List.getElem?_set_self hlen] at hj
      obtain rfl := Option.some.inj hj
      exact (h.owed j result hk (hordered ▸ hord)).imp_left hfinished
    · rw [List.getElem?_set_ne (Ne.symm hjk)] at hj
      exact h.owed j found hj hord
  · intro running hrunning
    rw [hreceiving] at hrunning
    obtain ⟨found, hfound, hord⟩ := h.made running hrunning
    rw [hresults]
    by_cases hjk : running.result = k
    · rw [hjk] at hfound ⊢
      obtain rfl := Option.some.inj (hfound.symm.trans hk)
      exact ⟨result', List.getElem?_set_self hlen, hordered.trans hord⟩
    · exact ⟨found, by rw [List.getElem?_set_ne (Ne.symm hjk)]; exact hfound, hord⟩

/-- A task that is over, and the others. -/
theorem mem_eraseIdx_or_eq {α : Type} {l : List α} {i : ℕ} {a b : α} (hi : l[i]? = some a)
    (hb : b ∈ l) : b ∈ l.eraseIdx i ∨ b = a := by
  obtain ⟨j, hj⟩ := List.mem_iff_getElem?.mp hb
  by_cases hji : j = i
  · rw [hji, hi] at hj
    exact Or.inr (Option.some.inj hj).symm
  · exact Or.inl (List.mem_eraseIdx_iff_getElem?.mpr ⟨j, hji, hj⟩)

/-- A task may end once its result is somebody else's business. -/
theorem Owed.erase (h : s.Owed) {i : ℕ} {running : Receiving}
    (hi : s.receiving[i]? = some running)
    (hdone : ∀ result, s.results[running.result]? = some result → result.ordered = true →
      result.finished = true ∨ running.result ∈ s.handedOut) :
    Owed { s with receiving := s.receiving.eraseIdx i } := by
  refine ⟨?_, fun other hother => h.made other (List.mem_of_mem_eraseIdx hother),
    fun other hother => h.has other (List.mem_of_mem_eraseIdx hother)⟩
  intro k result hk hord
  rcases h.owed k result hk hord with hfin | hout | ⟨other, hother, hresult⟩
  · exact Or.inl hfin
  · exact Or.inr (Or.inl hout)
  · rcases mem_eraseIdx_or_eq hi hother with hother | rfl
    · exact Or.inr (Or.inr ⟨other, hother, hresult⟩)
    · subst hresult
      exact (hdone result hk hord).imp_right Or.inl

/-- A task that goes on stays with its result and its subscriber. -/
theorem Owed.goOn (h : s.Owed) {i : ℕ} {running : Receiving} (running' : Receiving)
    (hi : s.receiving[i]? = some running) (hresult : running'.result = running.result)
    (hordered : running'.ordered = running.ordered)
    (hreceiving : t.receiving = s.receiving.set i running')
    (hresults : t.results = s.results) (hout : t.handedOut = s.handedOut)
    (hhas : ∀ other ∈ s.receiving.set i running', other.place ≠ .made →
      t.result_ other.subscriber = some other.result
        ∨ (t.result_ other.subscriber = none ∧ other.result ∈ s.handedOut)) : t.Owed := by
  refine ⟨?_, ?_, ?_⟩
  · intro k result hk hord
    rw [hresults] at hk
    rw [hreceiving, hout]
    rcases h.owed k result hk hord with hfin | hmem | ⟨other, hother, hk'⟩
    · exact Or.inl hfin
    · exact Or.inr (Or.inl hmem)
    · refine Or.inr (Or.inr ?_)
      rcases mem_eraseIdx_or_eq hi hother with hother | rfl
      · obtain ⟨j, hne, hj⟩ := List.mem_eraseIdx_iff_getElem?.mp hother
        refine ⟨other, List.mem_iff_getElem?.mpr ⟨j, ?_⟩, hk'⟩
        rw [List.getElem?_set_ne hne.symm]
        exact hj
      · refine ⟨running', List.mem_iff_getElem?.mpr ⟨i, ?_⟩, hresult.trans hk'⟩
        exact List.getElem?_set_self (List.getElem?_eq_some_iff.mp hi).1
  · intro other hother
    rw [hreceiving] at hother
    rw [hresults]
    rcases List.mem_or_eq_of_mem_set hother with hother | rfl
    · exact h.made other hother
    · rw [hresult, hordered]
      exact h.made running (List.mem_of_getElem? hi)
  · rw [hreceiving, hout]
    exact hhas

/-- **A step keeps unfinished results somebody's business.** -/
theorem owed_step {l : ReceiversLabel τ} (h : s.Owed) (hok : s.Alone l)
    (hstep : s.step l = some t) : t.Owed := by
  cases l with
  | construct listener subscriber threadMode created =>
    unfold Receivers.step at hstep
    dsimp only at hstep
    split at hstep
    · cases hstep
      exact ⟨h.owed, h.made, h.has⟩
    · cases hstep
  | notifyEvent notification =>
    cases hstep
    obtain ⟨hresults, -, -, hreceiving, hhas, hout⟩ := s.notifyEvent_frame notification
    refine ⟨?_, ?_, ?_⟩
    · rw [hresults, hreceiving, hout]
      exact h.owed
    · rw [hresults, hreceiving]
      exact h.made
    · rw [hreceiving, hhas, hout]
      exact h.has
  | onReceiveEvent i alive =>
    obtain ⟨task, -, hstep⟩ := Option.bind_eq_some_iff.mp hstep
    split at hstep
    · cases hstep
      unfold Receivers.onReceiveEvent
      dsimp only
      split
      · exact ⟨h.owed, h.made, h.has⟩
      · split
        · exact ⟨h.owed, h.made, h.has⟩
        next subscriber _ =>
          -- the new result is the business of the new task
          refine ⟨?_, ?_, ?_⟩
          · intro k result hk hord
            dsimp only at hk ⊢
            by_cases hlt : k < s.results.length
            · rw [List.getElem?_append_left hlt] at hk
              rcases h.owed k result hk hord with hfin | hout | ⟨other, hother, hresult⟩
              · exact Or.inl hfin
              · exact Or.inr (Or.inl hout)
              · exact Or.inr (Or.inr ⟨other, List.mem_append_left _ hother, hresult⟩)
            · have hle : k < s.results.length + 1 := by
                have hlen := (List.getElem?_eq_some_iff.mp hk).1
                simpa using hlen
              refine Or.inr (Or.inr ⟨_, List.mem_append_right _ (List.mem_singleton_self _), ?_⟩)
              show s.results.length = k
              omega
          · intro running hrunning
            dsimp only at hrunning ⊢
            rcases List.mem_append.mp hrunning with hold | hnew
            · obtain ⟨result, hresult, hord⟩ := h.made running hold
              have hlt := (List.getElem?_eq_some_iff.mp hresult).1
              exact ⟨result, by rw [List.getElem?_append_left hlt]; exact hresult, hord⟩
            · obtain rfl := List.mem_singleton.mp hnew
              refine ⟨_, List.getElem?_concat_length, rfl⟩
          · intro running hrunning hplace
            rcases List.mem_append.mp hrunning with hold | hnew
            · exact h.has running hold hplace
            · obtain rfl := List.mem_singleton.mp hnew
              exact absurd rfl hplace
    · cases hstep
  | setAsyncCommonEventResult i =>
    obtain ⟨running, hi, hstep⟩ := Option.bind_eq_some_iff.mp hstep
    split at hstep
    · cases hstep
      refine h.goOn { running with place := .onReceiveEvent } hi rfl rfl rfl rfl rfl ?_
      intro other hother hplace
      dsimp only
      rcases List.mem_or_eq_of_mem_set hother with hother | rfl
      · -- nobody else is calling this subscriber back
        have hne := hok running hi other hother hplace
        rw [Function.update_of_ne hne]
        exact h.has other hother hplace
      · exact Or.inl (Function.update_self _ _ _)
    · cases hstep
  | returned i =>
    obtain ⟨running, hi, hstep⟩ := Option.bind_eq_some_iff.mp hstep
    have hmem := List.mem_of_getElem? hi
    split at hstep
    next hplace =>
      have hhas := h.has running hmem (by rw [hplace]; exact nofun)
      split at hstep
      · cases hstep
        refine h.goOn { running with place := .finishing } hi rfl rfl rfl rfl rfl ?_
        intro other hother hplace'
        rcases List.mem_or_eq_of_mem_set hother with hother | rfl
        · exact h.has other hother hplace'
        · exact hhas
      next hnot =>
        cases hstep
        refine h.erase hi fun result hresult hord => ?_
        obtain ⟨result', hresult', hord'⟩ := h.made running hmem
        obtain rfl := Option.some.inj (hresult.symm.trans hresult')
        rcases hhas with hsome | ⟨-, hout⟩
        · -- an ordered task with a result to finish does not end here
          rw [← hord', hord, hsome] at hnot
          exact absurd rfl hnot
        · exact Or.inr hout
    next => cases hstep
  | finish i sent =>
    obtain ⟨running, hi, hstep⟩ := Option.bind_eq_some_iff.mp hstep
    have hmem := List.mem_of_getElem? hi
    split at hstep
    next hplace =>
      obtain ⟨k, hk, hstep⟩ := Option.bind_eq_some_iff.mp hstep
      obtain ⟨result, hresult, rfl⟩ := Option.map_eq_some_iff.mp hstep
      -- what the subscriber has is the result of this task
      have hkrun : k = running.result := by
        rcases h.has running hmem (by rw [hplace]; exact nofun) with hsome | ⟨hnone, -⟩
        · exact Option.some.inj (hk.symm.trans hsome)
        · rw [hnone] at hk
          cases hk
      have hfinish := result.finishCommonEvent_finished
      have hwritten : (s.finishCommonEvent k sent result).Owed :=
        h.write hresult hfinish.1 hfinish.2.1 rfl rfl rfl rfl
      refine hwritten.erase hi fun found hfound hord => Or.inl ?_
      have hset : (s.results.set k result.finishCommonEvent.2)[running.result]? = some found :=
        hfound
      rw [← hkrun, List.getElem?_set_self (List.getElem?_eq_some_iff.mp hresult).1] at hset
      obtain rfl := Option.some.inj hset
      exact hfinish.2.2 (hfinish.1 ▸ hord)
    next => cases hstep
  | subscriberCall subscriber call =>
    unfold Receivers.step at hstep
    dsimp only at hstep
    split at hstep
    · cases hstep
      exact h
    · obtain ⟨result, hresult, rfl⟩ := Option.map_eq_some_iff.mp hstep
      obtain ⟨hordered, hfinished, -, -⟩ := call.apply_frame result
      exact h.write hresult hordered (by rw [hfinished]; exact id) rfl rfl rfl rfl
  | goAsyncCommonEvent subscriber =>
    unfold Receivers.step at hstep
    dsimp only at hstep
    split at hstep
    · cases hstep
      exact h
    next k hk =>
      cases hstep
      refine ⟨?_, h.made, ?_⟩
      · intro j result hj hord
        exact (h.owed j result hj hord).imp_right
          (Or.imp_left fun hout => List.mem_append_left _ hout)
      · intro running hrunning hplace
        dsimp only
        rcases h.has running hrunning hplace with hsome | ⟨hnone, hout⟩
        · by_cases hsub : running.subscriber = subscriber
          · rw [hsub] at hsome ⊢
            obtain rfl := Option.some.inj (hk.symm.trans hsome)
            exact Or.inr ⟨Function.update_self _ _ _,
              List.mem_append_right _ (List.mem_singleton_self _)⟩
          · rw [Function.update_of_ne hsub]
            exact Or.inl hsome
        · refine Or.inr ⟨?_, List.mem_append_left _ hout⟩
          rw [Function.update_apply]
          split
          · rfl
          · exact hnone
  | resultCall k call =>
    unfold Receivers.step at hstep
    dsimp only at hstep
    split at hstep
    · obtain ⟨result, hresult, rfl⟩ := Option.map_eq_some_iff.mp hstep
      obtain ⟨hordered, hfinished, -, -⟩ := call.apply_frame result
      exact h.write hresult hordered (by rw [hfinished]; exact id) rfl rfl rfl rfl
    · cases hstep
  | finishCommonEvent k sent =>
    unfold Receivers.step at hstep
    dsimp only at hstep
    split at hstep
    · obtain ⟨result, hresult, rfl⟩ := Option.map_eq_some_iff.mp hstep
      obtain ⟨hordered, hfinished, -⟩ := result.finishCommonEvent_finished
      exact h.write hresult hordered hfinished rfl rfl rfl rfl
    · cases hstep
  | stop listener =>
    cases hstep
    exact ⟨h.owed, h.made, h.has⟩

/-- **An ordered notification is answered by the time its callback has
returned**, or it has gone asynchronous. In every run in which no subscriber
is called back twice at the same time, an ordered result that is not finished
belongs to a task that is running, or was handed out by
`GoAsyncCommonEvent`. -/
theorem answered_on_return {ls : List (ReceiversLabel τ)}
    (hok : (receiversMachine τ).Guarded Alone ls) (hs : (receiversMachine τ).run ls = some s)
    {k : ℕ} {result : AsyncCommonEventResult τ} (hk : s.results[k]? = some result)
    (hordered : result.ordered = true) (hfinished : result.finished = false) :
    k ∈ s.handedOut ∨ ∃ running ∈ s.receiving, running.result = k := by
  have howed : s.Owed := Machine.guarded_invariant (M := receiversMachine τ) (I := Owed)
    ⟨fun k result hk => (by cases hk), nofun, nofun⟩
    (fun _ _ _ h hl hstep => owed_step h hl hstep) hok hs
  refine (howed.owed k result hk hordered).resolve_left ?_
  rw [hfinished]
  exact nofun

/-- The subscriber goes asynchronous in its callback: the result is not
finished, and it was handed out. -/
theorem answered_on_return_goAsync :
    ∃ s, (receiversMachine ℕ).run (untilMade ++ [.goAsyncCommonEvent 0, .returned 0]) = some s
      ∧ s.receiving = [] ∧ 0 ∈ s.handedOut := by
  obtain ⟨s, hs, hstate⟩ := Option.map_eq_some_iff.mp
    (show ((receiversMachine ℕ).run
      (untilMade ++ [.goAsyncCommonEvent 0, .returned 0])).map
        (fun s => (s.results[0]?.map (fun result => (result.ordered, result.finished)),
          s.receiving)) = some (some (true, false), []) by decide +kernel)
  obtain ⟨hresult, hreceiving⟩ := Prod.mk.inj hstate
  obtain ⟨result, hresult, hflags⟩ := Option.map_eq_some_iff.mp hresult
  obtain ⟨hordered, hfinished⟩ := Prod.mk.inj hflags
  refine ⟨s, hs, hreceiving, ?_⟩
  rcases answered_on_return (Machine.guarded_of_guardedFrom (by decide +kernel)) hs hresult
    hordered hfinished with hout | ⟨running, hrunning, -⟩
  · exact hout
  · rw [hreceiving] at hrunning
    cases hrunning

end Receivers

end CommonEventService

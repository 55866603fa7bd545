import CommonEventService.OrderedActivity

/-!
# The timeout watchdog

One delayed task watches over the whole queue of ordered events. It is armed
once for a batch, found armed by every receiver after the first, armed again
by its own callback when it comes too early, and cancelled with the removal
of a record. `Watchdog` is what these four leave true: the tasks that have
not started are the one the flag speaks of, and none besides; and whoever is
at work on an ordered event is watched, by that task or by its callback.

A callback starts with its first statement, which clears the flag. Taking
the task off the queue is a step before that, so a task that is taken but
whose callback has not got there counts as not started.
-/

namespace CommonEventService

namespace OrderedThread

/-- Whether the callback of a timeout task is running, up to its last call,
which touches no timer. -/
def inTimeout : OrderedThread → Bool
  | .timeoutFront => true
  | .timeoutCheck _ => true
  | .timeoutHandle _ _ => true
  | _ => false

/-- The record a callback is about to give up on, or to leave more time. -/
def handling : OrderedThread → Option ℕ
  | .timeoutCheck sp => some sp
  | .timeoutHandle sp _ => some sp
  | _ => none

/-- Between `SetTimeout` and the current receiver it is set for. -/
def armed : OrderedThread → Bool
  | .notify _ _ => true
  | .prepareNotify _ _ => true
  | _ => false

theorem handling_eq_none {th : OrderedThread} (h : th.inTimeout = false) :
    th.handling = none := by
  cases th with
  | timeoutCheck sp => cases h
  | timeoutHandle sp now => cases h
  | _ => rfl

end OrderedThread

namespace ControlManager

variable {P : Platform} {S : StdSort} {s t : ControlManager} {th th' : OrderedThread}

/-- The timeout tasks whose callback has not started, by handle. -/
def unstarted (s : ControlManager) (th : OrderedThread) : List ℕ :=
  s.timers.map Prod.fst ++ if th = .timeoutFront then [s.orderedHandler] else []

/-- **The invariant of the watchdog**, with the program counter at `th`. -/
structure Watchdog (s : ControlManager) (th : OrderedThread) : Prop where
  /-- The flag speaks of one task, the one whose handle is kept, and there is
  no other. -/
  unstarted : s.unstarted th = if s.pendingTimeoutMessage then [s.orderedHandler] else []
  handling : th.handling ≠ none → s.pendingTimeoutMessage = false
  armed : th.armed = true → s.pendingTimeoutMessage = true
  /-- Who is at work is watched. -/
  active : ∀ r listener, (s.records r).curReceiver = some listener →
    s.pendingTimeoutMessage = true ∨ th.handling = some r

/-- The timers of two states agree, and what the control manager keeps of
them. -/
structure SameTimers (s t : ControlManager) : Prop where
  timers : t.timers = s.timers
  pendingTimeoutMessage : t.pendingTimeoutMessage = s.pendingTimeoutMessage
  orderedHandler : t.orderedHandler = s.orderedHandler

theorem SameTimers.refl (s : ControlManager) : SameTimers s s := ⟨rfl, rfl, rfl⟩

theorem SameTimers.scheduleOrderedCommonEvent (h : SameTimers s t) :
    SameTimers s t.scheduleOrderedCommonEvent := by
  obtain ⟨scheduled, queue, heq⟩ := t.scheduleOrderedCommonEvent_eq
  rw [heq]
  exact ⟨h.timers, h.pendingTimeoutMessage, h.orderedHandler⟩

namespace Watchdog

/-- **The frame rule**: where the timers stay, nobody is put to work, and the
program counter neither enters nor leaves a callback, the invariant stays. -/
theorem frame (h : s.Watchdog th) (hsame : SameTimers s t)
    (hcur : ∀ r listener, (t.records r).curReceiver = some listener →
      (s.records r).curReceiver = some listener)
    (hfrom : th.inTimeout = false) (hto : th'.inTimeout = false)
    (harmed : th'.armed = true → th.armed = true) : t.Watchdog th' := by
  have hne : ∀ {th : OrderedThread}, th.inTimeout = false → th ≠ .timeoutFront := by
    rintro th hin rfl
    cases hin
  have hpending : ∀ r listener, (s.records r).curReceiver = some listener →
      s.pendingTimeoutMessage = true := fun r listener hr =>
    (h.active r listener hr).resolve_right
      (by rw [OrderedThread.handling_eq_none hfrom]; exact nofun)
  refine ⟨?_, ?_, ?_, ?_⟩
  · have heq := h.unstarted
    rw [ControlManager.unstarted, if_neg (hne hfrom)] at heq
    rw [ControlManager.unstarted, if_neg (hne hto), hsame.timers, hsame.pendingTimeoutMessage,
      hsame.orderedHandler]
    exact heq
  · intro hhandling
    exact absurd (OrderedThread.handling_eq_none hto) hhandling
  · intro hth'
    rw [hsame.pendingTimeoutMessage]
    exact h.armed (harmed hth')
  · intro r listener hr
    rw [hsame.pendingTimeoutMessage]
    exact Or.inl (hpending r listener (hcur r listener hr))

/-- The frame rule where the program counter stays. -/
theorem stay (h : s.Watchdog th) (hsame : SameTimers s t)
    (hcur : ∀ r listener, (t.records r).curReceiver = some listener →
      (s.records r).curReceiver = some listener) : t.Watchdog th := by
  refine ⟨?_, ?_, ?_, ?_⟩
  · rw [ControlManager.unstarted, hsame.timers, hsame.pendingTimeoutMessage,
      hsame.orderedHandler]
    exact h.unstarted
  · rw [hsame.pendingTimeoutMessage]
    exact h.handling
  · rw [hsame.pendingTimeoutMessage]
    exact h.armed
  · intro r listener hr
    rw [hsame.pendingTimeoutMessage]
    exact h.active r listener (hcur r listener hr)

/-- Outside a callback the timers are what the flag says. -/
theorem timers_map (h : s.Watchdog th) (hth : th ≠ .timeoutFront) :
    s.timers.map Prod.fst = if s.pendingTimeoutMessage then [s.orderedHandler] else [] := by
  have heq := h.unstarted
  rw [ControlManager.unstarted, if_neg hth, List.append_nil] at heq
  exact heq

/-- Without the flag there is no timer. -/
theorem timers_eq_nil (h : s.Watchdog th) (hpending : s.pendingTimeoutMessage = false) :
    s.timers = [] := by
  have heq := h.unstarted
  rw [hpending] at heq
  exact List.map_eq_nil_iff.mp (List.append_eq_nil_iff.mp heq).1

/-- A timer that waits is the one the flag speaks of. -/
theorem mem_timers (h : s.Watchdog th) (hth : th ≠ .timeoutFront) {timer : ℕ × ℕ}
    (htimer : timer ∈ s.timers) :
    timer.1 = s.orderedHandler ∧ s.pendingTimeoutMessage = true := by
  have hmem : timer.1 ∈ s.timers.map Prod.fst := List.mem_map_of_mem htimer
  rw [h.timers_map hth] at hmem
  split at hmem
  next hpending => exact ⟨List.mem_singleton.mp hmem, hpending⟩
  next => cases hmem

/-- No timer is left once the one with the handle kept is gone. -/
theorem filter_timers (h : s.Watchdog th) (hth : th ≠ .timeoutFront) :
    s.timers.filter (fun timer => timer.1 ≠ s.orderedHandler) = [] :=
  List.filter_eq_nil_iff.mpr
    (fun _ htimer => by simpa using (h.mem_timers hth htimer).1)

/-- The task whose callback is at its first statement was the only one. -/
theorem timers_of_timeoutFront (h : s.Watchdog .timeoutFront) : s.timers = [] := by
  have hlen := congrArg List.length h.unstarted
  rw [ControlManager.unstarted, if_pos rfl, List.length_append, List.length_map,
    List.length_singleton] at hlen
  have hle : (if s.pendingTimeoutMessage then [s.orderedHandler] else []).length ≤ 1 := by
    split <;> simp
  exact List.eq_nil_of_length_eq_zero (by omega)

/-- **`SetTimeout` arms the one task**, or finds it armed. -/
theorem setTimeout (h : s.Watchdog th) (hth : th ≠ .timeoutFront)
    (hto : th'.inTimeout = false) : s.setTimeout.Watchdog th' := by
  have hmap := h.timers_map hth
  have hset : s.setTimeout.pendingTimeoutMessage = true
      ∧ s.setTimeout.timers.map Prod.fst = [s.setTimeout.orderedHandler] := by
    unfold ControlManager.setTimeout
    cases hpending : s.pendingTimeoutMessage with
    | true =>
      rw [hpending] at hmap
      exact ⟨hpending, hmap⟩
    | false =>
      refine ⟨rfl, ?_⟩
      show (s.timers ++ [(s.nextHandler, s.now + TIMEOUT)]).map Prod.fst = [s.nextHandler]
      rw [h.timers_eq_nil hpending]
      rfl
  have hne : th' ≠ .timeoutFront := by
    rintro rfl
    cases hto
  refine ⟨?_, ?_, fun _ => hset.1, fun _ _ _ => Or.inl hset.1⟩
  · rw [ControlManager.unstarted, if_neg hne, hset.1, hset.2]
    rfl
  · intro hhandling
    exact absurd (OrderedThread.handling_eq_none hto) hhandling

/-- **`CancelTimeout` takes the one task away**, once nobody is at work. -/
theorem cancelTimeout (h : s.Watchdog .queueSection)
    (hnone : ∀ r, (s.records r).curReceiver = none) :
    s.cancelTimeout.Watchdog .queueSection := by
  unfold ControlManager.cancelTimeout
  cases hpending : s.pendingTimeoutMessage with
  | false => exact h
  | true =>
    refine ⟨?_, fun _ => rfl, nofun, ?_⟩
    · show (s.timers.filter (fun timer => timer.1 ≠ s.orderedHandler)).map Prod.fst ++ [] = []
      rw [h.filter_timers nofun]
      rfl
    · intro r listener hr
      have hnone := hnone r
      rw [show (s.records r).curReceiver = some listener from hr] at hnone
      cases hnone

end Watchdog

/-! ## What each operation does to the current receivers -/

/-- A write to one record that puts nobody to work. -/
theorem curReceiver_of_update {r : ℕ} {record : OrderedEventRecord}
    (ht : t.records = Function.update s.records r record)
    (hrecord : record.curReceiver = none ∨ record.curReceiver = (s.records r).curReceiver)
    (r' : ℕ) (listener : Remote) (hcur : (t.records r').curReceiver = some listener) :
    (s.records r').curReceiver = some listener := by
  rw [ht, Function.update_apply] at hcur
  split at hcur
  next hr =>
    subst hr
    rcases hrecord with hnone | hsame
    · rw [hnone] at hcur
      cases hcur
    · rw [hsame] at hcur
      exact hcur
  next => exact hcur

theorem Watchdog.checkTimeoutForceReceive (h : s.Watchdog th) {sp : ℕ} {u : ControlManager}
    {forced : Bool} (hcheck : s.checkTimeoutForceReceive sp = (u, forced)) : u.Watchdog th := by
  rcases s.checkTimeoutForceReceive_cases sp with ⟨-, heq⟩ | ⟨-, heq⟩
  · rw [heq] at hcheck
    cases hcheck
    exact h.stay ⟨rfl, rfl, rfl⟩ (curReceiver_of_update rfl (Or.inl rfl))
  · rw [heq] at hcheck
    cases hcheck
    exact h

/-- **The section under the queue's lock** keeps the watchdog: it removes
idle records only, and then nobody is left to be watched. -/
theorem Watchdog.processOrderedEventQueueLocked (ha : s.Activity .queueSection)
    (h : s.Watchdog .queueSection) {u : ControlManager} {removed : List ℕ} {sp : Option ℕ}
    (hrun : s.processOrderedEventQueueLocked = some (u, removed, sp)) :
    u.Watchdog .queueSection := by
  refine DoWhile.doWhile_rule (f := processOrderedEventQueuePass) (s := (s, []))
    (fun loop => loop.1.Activity .queueSection ∧ loop.1.Watchdog .queueSection)
    (fun result => result.1.Watchdog .queueSection) ?_ ?_ ⟨ha, h⟩ hrun
  · rintro ⟨s', removed⟩ loop' ⟨ha, hw⟩ heq'
    rcases processOrderedEventQueuePass_cases (s := s') removed with ⟨-, heq⟩ |
      ⟨sp, rest, u, forced, hq, hc, ⟨-, heq⟩ | ⟨hst, -, heq⟩ | ⟨-, -, -, -, heq⟩⟩
    all_goals
      rw [heq] at heq'
      cases heq'
    have huq := (checkTimeoutForceReceive_frame hc).1
    have hua := ha.checkTimeoutForceReceive hc
    have hnone := hua.curReceiver_of_idle_front (huq.trans hq) hst
    have huw := (hw.checkTimeoutForceReceive hc).cancelTimeout hnone
    refine ⟨?_, huw.stay ⟨rfl, rfl, rfl⟩ (fun _ _ hr => hr)⟩
    obtain ⟨pending, timers, hcancel⟩ := u.cancelTimeout_eq
    rw [hcancel]
    exact hua.removeFront (huq.trans hq) hst rfl hua.scheduled
  · rintro ⟨s', removed⟩ result ⟨-, hw⟩ heq'
    rcases processOrderedEventQueuePass_cases (s := s') removed with ⟨-, heq⟩ |
      ⟨sp, rest, u, forced, -, hc, ⟨-, heq⟩ | ⟨-, -, heq⟩ | ⟨-, -, -, -, heq⟩⟩
    all_goals
      rw [heq] at heq'
      cases heq'
    · exact hw
    all_goals exact hw.checkTimeoutForceReceive hc

/-- A service call leaves the timers, and puts nobody to work. -/
theorem Watchdog.stepOp (h : s.Watchdog th) (i : ℕ) (op : ServiceOp) :
    (s.stepOp i op).Watchdog th := by
  cases op with
  | schedule =>
    have hsame : SameTimers s { s with ops := s.ops.eraseIdx i }.scheduleOrderedCommonEvent :=
      SameTimers.scheduleOrderedCommonEvent ⟨rfl, rfl, rfl⟩
    refine h.stay hsame ?_
    intro r listener hr
    unfold ControlManager.stepOp at hr
    rw [scheduleOrderedCommonEvent_records.1] at hr
    exact hr
  | readResult sp receiver => exact h.stay ⟨rfl, rfl, rfl⟩ (fun _ _ hr => hr)
  | finishLoad call => exact h.stay ⟨rfl, rfl, rfl⟩ (fun _ _ hr => hr)
  | finishUpdate call state =>
    rw [stepOp_finishUpdate]
    exact h.stay ⟨rfl, rfl, rfl⟩ (curReceiver_of_update rfl (Or.inl rfl))

/-! ## The steps -/

/-- The message came: no timer is left, and the front record, if any, is handled next. -/
theorem Watchdog.timeoutFront (ha : s.Activity .timeoutFront) (h : s.Watchdog .timeoutFront)
    (hne : th' ≠ .timeoutFront) (harmed : th'.armed = false)
    (hfront : ∀ r, s.front = some r → th'.handling = some r) :
    Watchdog { s with pendingTimeoutMessage := false, thread := th' } th' := by
  refine ⟨?_, fun _ => rfl, ?_, ?_⟩
  · show s.timers.map Prod.fst ++ (if th' = .timeoutFront then [s.orderedHandler] else []) = []
    rw [h.timers_of_timeoutFront, if_neg hne]
    rfl
  · intro harmed'
    rw [harmed] at harmed'
    cases harmed'
  · intro r listener hr
    exact Or.inr (hfront r (ha.active r listener hr).1)

/-- **A step of the serial queue keeps the watchdog.** -/
theorem Watchdog.stepThread (ha : s.Activity s.thread) (h : s.Watchdog s.thread)
    {answer : Answer} (hstep : s.stepThread answer = some t) : t.Watchdog t.thread := by
  have hcase := threadStep_of_stepThread hstep
  generalize s.thread = th at hcase h ha
  cases hcase with
  | queueSection u removed sp hrun =>
    exact (h.processOrderedEventQueueLocked ha hrun).frame ⟨rfl, rfl, rfl⟩
      (fun _ _ hr => hr) rfl rfl nofun
  | finalSubscriber removed rest sp =>
    refine h.frame ?_ ?_ rfl rfl nofun
    · unfold ControlManager.handleFinalSubscriber
      dsimp only
      split <;> exact ⟨rfl, rfl, rfl⟩
    · intro r listener hr
      rw [← ((handleFinalSubscriber_records removed answer.hasProxy).1 r).2]
      exact hr
  | finalsEnd => exact h.frame ⟨rfl, rfl, rfl⟩ (fun _ _ hr => hr) rfl rfl nofun
  | finalsNext sp => exact h.frame ⟨rfl, rfl, rfl⟩ (fun _ _ hr => hr) rfl rfl nofun
  | prepareNext sp =>
    exact h.frame ⟨rfl, rfl, rfl⟩ (curReceiver_of_update rfl (Or.inr rfl)) rfl rfl nofun
  | setTimeout sp i =>
    have hset : s.setTimeout.Watchdog (.notify sp i) := h.setTimeout nofun rfl
    exact ⟨hset.unstarted, hset.handling, hset.armed, hset.active⟩
  | notifyInvalid sp i hindex =>
    exact h.frame ⟨rfl, rfl, rfl⟩ (fun _ _ hr => hr) rfl rfl (fun _ => rfl)
  | notifyFrozen sp i hindex hfreeze =>
    exact h.frame ⟨rfl, rfl, rfl⟩ (fun _ _ hr => hr) rfl rfl (fun _ => rfl)
  | notifyReceiver sp i hindex hfreeze =>
    exact h.frame ⟨rfl, rfl, rfl⟩ (fun _ _ hr => hr) rfl rfl (fun _ => rfl)
  | frozen sp i =>
    exact h.frame ⟨rfl, rfl, rfl⟩ (curReceiver_of_update rfl (Or.inl rfl)) rfl rfl nofun
  | prepareNotify sp i hproxy =>
    -- the one step that puts somebody to work finds the timer armed
    have hpending := h.armed rfl
    have hnext : s.Watchdog (.call sp i) :=
      h.frame (.refl s) (fun _ _ hr => hr) rfl rfl nofun
    exact ⟨hnext.unstarted, nofun, nofun, fun _ _ _ => Or.inl hpending⟩
  | invalidProxy sp i hproxy =>
    exact h.frame ⟨rfl, rfl, rfl⟩ (curReceiver_of_update rfl (Or.inl rfl)) rfl rfl nofun
  | call sp i => exact h.frame ⟨rfl, rfl, rfl⟩ (fun _ _ hr => hr) rfl rfl nofun
  | inCall sp i => exact h.frame ⟨rfl, rfl, rfl⟩ (fun _ _ hr => hr) rfl rfl nofun
  | handleResult sp i isOk =>
    refine h.frame ⟨rfl, rfl, rfl⟩ (curReceiver_of_update rfl ?_) rfl rfl nofun
    cases isOk with
    | true => exact Or.inr rfl
    | false => exact Or.inl rfl
  | finalTestNone sp hcur => exact h.frame ⟨rfl, rfl, rfl⟩ (fun _ _ hr => hr) rfl rfl nofun
  | finalTestSome sp hcur => exact h.frame ⟨rfl, rfl, rfl⟩ (fun _ _ hr => hr) rfl rfl nofun
  | storeIdle sp =>
    exact h.frame ⟨rfl, rfl, rfl⟩ (curReceiver_of_update rfl (Or.inr rfl)) rfl rfl nofun
  | reschedule =>
    have hsame := (SameTimers.refl s).scheduleOrderedCommonEvent
    refine h.frame ⟨hsame.timers, hsame.pendingTimeoutMessage, hsame.orderedHandler⟩ ?_
      rfl rfl nofun
    intro r listener hr
    rw [← scheduleOrderedCommonEvent_records.1]
    exact hr
  | timeoutEmpty hfront =>
    exact h.timeoutFront ha nofun rfl (by rw [hfront]; exact nofun)
  | timeoutFront sp hfront =>
    exact h.timeoutFront ha nofun rfl (by rw [hfront]; exact fun _ hr => hr)
  | timeoutEarly sp hearly =>
    have hset : s.setTimeout.Watchdog .idle := h.setTimeout nofun rfl
    exact ⟨hset.unstarted, hset.handling, hset.armed, hset.active⟩
  | timeoutDue sp hdue => exact ⟨h.unstarted, h.handling, nofun, h.active⟩
  | timeoutHandle sp nowSysTime =>
    have hpending := h.handling nofun
    have hnone : ∀ r, ((s.handleTimeoutReceiver sp nowSysTime).records r).curReceiver = none := by
      intro r
      cases hcur : ((s.handleTimeoutReceiver sp nowSysTime).records r).curReceiver with
      | none => rfl
      | some listener =>
        exfalso
        have hold := curReceiver_of_update (s := s) rfl (Or.inl rfl) r listener hcur
        rcases h.active r listener hold with htrue | hsp
        · rw [hpending] at htrue
          cases htrue
        · obtain rfl : sp = r := Option.some.inj hsp
          rw [handleTimeoutReceiver, modify_records, if_pos rfl] at hcur
          cases hcur
    refine ⟨h.unstarted, nofun, nofun, ?_⟩
    intro r listener hr
    rw [show _ = none from hnone r] at hr
    cases hr

/-- **Every step keeps the watchdog.** -/
theorem watchdog_step {l : ControlLabel} (ha : s.Activity s.thread) (h : s.Watchdog s.thread)
    (hstep : s.step P S l = some t) : t.Watchdog t.thread := by
  cases l with
  | tick duration =>
    cases hstep
    exact h.stay ⟨rfl, rfl, rfl⟩ (fun _ _ hr => hr)
  | makeCells data info =>
    cases hstep
    exact h.stay ⟨rfl, rfl, rfl⟩ (fun _ _ hr => hr)
  | setUnordered cell =>
    cases hstep
    exact h.stay ⟨rfl, rfl, rfl⟩ (fun _ _ hr => hr)
  | publish request =>
    cases hstep
    exact h.stay ⟨rfl, rfl, rfl⟩ (curReceiver_of_update rfl (Or.inl rfl))
  | finishReceiver reply =>
    cases hstep
    unfold ControlManager.finishReceiver
    split
    · exact h.stay ⟨rfl, rfl, rfl⟩ (fun _ _ hr => hr)
    · exact h
  | unsubscribeCommonEvent listener =>
    cases hstep
    unfold ControlManager.unsubscribeCommonEvent
    split
    · exact h
    · split
      · exact h.stay ⟨rfl, rfl, rfl⟩ (fun _ _ hr => hr)
      · exact h
  | op i =>
    obtain ⟨op, -, rfl⟩ := Option.map_eq_some_iff.mp hstep
    rw [stepOp_thread]
    exact h.stepOp i op
  | processNextOrderedEvent =>
    unfold ControlManager.step at hstep
    dsimp only at hstep
    split at hstep
    next isSendMsg rest hth hq =>
      cases hstep
      rw [hth] at h
      exact h.frame ⟨rfl, rfl, rfl⟩ (fun _ _ hr => hr) rfl rfl nofun
    next => cases hstep
  | timeout handler =>
    unfold ControlManager.step at hstep
    dsimp only at hstep
    split at hstep
    next hc =>
      obtain ⟨hth, hdue⟩ := hc
      cases hstep
      rw [hth] at h
      -- the task that is due is the one task there is
      obtain ⟨timer, htimer, hhandler⟩ := List.any_eq_true.mp hdue
      obtain ⟨hkept, hpending⟩ := h.mem_timers nofun htimer
      obtain rfl : timer.1 = handler := by simpa using (Bool.and_eq_true_iff.mp hhandler).1
      refine ⟨?_, nofun, nofun, fun _ _ _ => Or.inl hpending⟩
      show (s.timers.filter (fun other => other.1 ≠ timer.1)).map Prod.fst
        ++ [s.orderedHandler] = if s.pendingTimeoutMessage then [s.orderedHandler] else []
      rw [hkept, h.filter_timers nofun, hpending]
      rfl
    next => cases hstep
  | thread answer => exact h.stepThread ha hstep

theorem watchdog_init : ({} : ControlManager).Watchdog .idle :=
  ⟨rfl, nofun, nofun, nofun⟩

/-- **The invariant of the watchdog holds in every reachable state.** -/
theorem watchdog_reachable (hs : (orderedMachine P S).Reachable s) :
    s.Watchdog s.thread := by
  obtain ⟨ls, hls⟩ := hs
  exact Machine.run_induction (M := orderedMachine P S) (R := fun _ s => s.Watchdog s.thread)
    watchdog_init
    (fun ls _ _ _ hs h hstep => watchdog_step (activity_reachable ⟨ls, hs⟩) h hstep) hls

/-- The records behind the front have nobody at work. -/
theorem curReceiver_of_mem_tail (hs : (orderedMachine P S).Reachable s) {r : ℕ}
    (hr : r ∈ s.orderedEventQueue.tail) : (s.records r).curReceiver = none := by
  cases hcur : (s.records r).curReceiver with
  | none => rfl
  | some listener =>
    exfalso
    have hfront := ((activity_reachable hs).active r listener hcur).1
    obtain ⟨rest, hq⟩ := List.head?_eq_some_iff.mp hfront
    rw [hq] at hr
    have hnodup : (removedOf s.trace ++ s.orderedEventQueue).Nodup := by
      rw [(dispatch_reachable hs).queue]
      exact List.nodup_range
    rw [hq] at hnodup
    exact (List.nodup_cons.mp (List.nodup_append.mp hnodup).2.1).1 hr

/-- The timeout tasks that are outstanding: those that wait, and the one
whose callback is running. -/
def outstanding (s : ControlManager) : ℕ :=
  s.timers.length + if s.thread.inTimeout then 1 else 0

theorem Watchdog.outstanding_le (h : s.Watchdog s.thread) : s.outstanding ≤ 1 := by
  rw [outstanding]
  cases hin : s.thread.inTimeout with
  | false =>
    have hne : s.thread ≠ .timeoutFront := by
      intro hth
      rw [hth] at hin
      cases hin
    have hlen := congrArg List.length (h.timers_map hne)
    rw [List.length_map] at hlen
    rw [hlen]
    split <;> simp
  | true =>
    have hnil : s.timers = [] := by
      cases hth : s.thread with
      | timeoutFront =>
        rw [hth] at h
        exact h.timers_of_timeoutFront
      | timeoutCheck sp => exact h.timers_eq_nil (h.handling (by rw [hth]; exact nofun))
      | timeoutHandle sp now => exact h.timers_eq_nil (h.handling (by rw [hth]; exact nofun))
      | _ =>
        rw [hth] at hin
        cases hin
    rw [hnil]
    rfl

theorem Watchdog.pending_iff (h : s.Watchdog th) :
    s.pendingTimeoutMessage = true ↔ (s.unstarted th).length = 1 := by
  rw [h.unstarted]
  cases s.pendingTimeoutMessage with
  | true => simp
  | false => simp

/-- Where somebody is at work, a timeout task waits or its callback runs. -/
theorem Watchdog.covered (h : s.Watchdog th) {r : ℕ} (hcur : (s.records r).curReceiver ≠ none) :
    s.timers ≠ [] ∨ th.inTimeout = true := by
  obtain ⟨listener, hlistener⟩ := Option.ne_none_iff_exists'.mp hcur
  rcases h.active r listener hlistener with hpending | hhandling
  · have hlen := h.pending_iff.mp hpending
    rw [ControlManager.unstarted] at hlen
    by_cases hth : th = .timeoutFront
    · rw [hth]
      exact Or.inr rfl
    · rw [if_neg hth, List.append_nil, List.length_map] at hlen
      refine Or.inl ?_
      intro hnil
      rw [hnil] at hlen
      cases hlen
  · cases hin : th.inTimeout with
    | true => exact Or.inr rfl
    | false =>
      rw [OrderedThread.handling_eq_none hin] at hhandling
      cases hhandling

/-- **The timeout watchdog covers every active receiver.** In every reachable
state: at most one timeout task is outstanding; the flag is set exactly when
there is one whose callback has not started; a front record with a current
receiver has a timeout task that waits, or the callback of one running; and
no record behind the front has a current receiver. -/
theorem timeout_watchdog (hs : (orderedMachine P S).Reachable s) :
    s.outstanding ≤ 1
    ∧ (s.pendingTimeoutMessage = true ↔ (s.unstarted s.thread).length = 1)
    ∧ (∀ r, s.front = some r → (s.records r).curReceiver ≠ none →
        s.timers ≠ [] ∨ s.thread.inTimeout = true)
    ∧ ∀ r ∈ s.orderedEventQueue.tail, (s.records r).curReceiver = none := by
  have h := watchdog_reachable hs
  exact ⟨h.outstanding_le, h.pending_iff, fun _ _ hcur => h.covered hcur,
    fun _ hr => curReceiver_of_mem_tail hs hr⟩

/-- While the one receiver of a publish is called, the timer runs. -/
theorem timeout_watchdog_called :
    ∃ s, (orderedMachine {} .insertion).run (untilNotified ++ [.thread {}, .thread {}]) = some s
      ∧ s.timers.length = 1 := by
  obtain ⟨s, hs, hstate⟩ := Option.map_eq_some_iff.mp
    (show ((orderedMachine {} .insertion).run (untilNotified ++ [.thread {}, .thread {}])).map
      (fun s => (s.front, (s.records 0).curReceiver, s.thread.inTimeout))
        = some (some 0, some ⟨1⟩, false) by decide)
  obtain ⟨hfront, hrest⟩ := Prod.mk.inj hstate
  obtain ⟨hcur, hin⟩ := Prod.mk.inj hrest
  obtain ⟨hle, -, hcovered, -⟩ := timeout_watchdog ⟨_, hs⟩
  refine ⟨s, hs, ?_⟩
  have hne := (hcovered 0 hfront (by rw [hcur]; exact nofun)).resolve_right
    (by rw [hin]; exact nofun)
  have hpos := List.length_pos_iff.mpr hne
  rw [outstanding] at hle
  omega

end ControlManager

end CommonEventService

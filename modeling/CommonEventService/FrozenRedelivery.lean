import CommonEventService.UnorderedDelivery
import Mathlib.Data.List.Perm.Subperm

/-!
# The redelivery of frozen events

An event kept for a frozen subscriber is kept twice, and three kinds of
unfreeze read the buffers: by uid, which takes what it reads out of the one;
by pid, which takes it out of the other; and of all subscribers, which reads
both and takes out nothing. So whether an event comes back more than once is
a matter of how unfreezes of different kinds follow each other, and `UnfreezeOk`
says exactly which ones do no harm.

The invariant is `Kept`: within either buffer a keeping occurs once, and what
an unfreeze by uid or by pid has read is no longer in its buffer.
-/

namespace CommonEventService

namespace UnorderedTask

variable {δ π : Type}

/-- The keeping whose second insertion is still to come. -/
def pending? : UnorderedTask δ π → Option ℕ
  | .notifyUnorderedEvent _ _ _ => none
  | .handleFrozenUnorderedSubscriber _ insertion _ => insertion.buffering
  | .notifyFreezeEvents _ _ => none

end UnorderedTask

/-- The kind of a call. -/
def UnfreezeCall.kind : UnfreezeCall → UnfreezeKind
  | .getFrozenEvents _ => .uid
  | .getFrozenEventsMapByPid _ => .pid
  | .getAllFrozenEvents => .all
  | .getAllFrozenEventsMap => .all

namespace UnorderedDelivery

open FrozenBuffer

variable {δ π : Type} {P : Platform} {S : StdSort} {s t : UnorderedDelivery δ π}

/-- The keepings whose second insertion is still to come, by the unordered
tasks. -/
def pendingTasks (s : UnorderedDelivery δ π) : List ℕ :=
  (s.unorderedQueue ++ s.unorderedImmediateQueue).filterMap UnorderedTask.pending?

/-- The same, by the ordered queue too. -/
def pending (s : UnorderedDelivery δ π) : List ℕ :=
  (s.ordered.bind FrozenInsertion.buffering).toList ++ s.pendingTasks

/-- **The invariant of the two buffers**: `uid` are the keepings in the buffer
by uid, `pid` those in the buffer by pid or about to come into it. -/
structure Numbers (uid pid : List ℕ) (nextBuffering : ℕ)
    (submitted : List (UnfreezeKind × ℕ)) : Prop where
  uidNodup : uid.Nodup
  pidNodup : pid.Nodup
  uidLt : ∀ k ∈ uid, k < nextBuffering
  pidLt : ∀ k ∈ pid, k < nextBuffering
  submittedLt : ∀ task ∈ submitted, task.2 < nextBuffering
  /-- What an unfreeze by uid has read is not in the buffer by uid. -/
  uidCleared : ∀ k ∈ uid, (.uid, k) ∉ submitted
  /-- What an unfreeze by pid has read is not in the buffer by pid. -/
  pidCleared : ∀ k ∈ pid, (.pid, k) ∉ submitted

/-- The invariant of the buffers, in a state. -/
def Kept (s : UnorderedDelivery δ π) : Prop :=
  Numbers (bufferings s.manager.frozenEvents.events)
    (s.pending ++ bufferings s.manager.frozenEventsMap.events) s.nextBuffering s.submitted

/-- **Every keeping leads to at most one task.** -/
def AtMostOnce (s : UnorderedDelivery δ π) : Prop := (s.submitted.map Prod.snd).Nodup

/-- The keepings a call finds at its next step. -/
def found (s : UnorderedDelivery δ π) : UnfreezeCall → List ℕ
  | .getFrozenEvents uid => bufferings (frozenRecordEvents (s.manager.frozenEvents.get uid))
  | .getFrozenEventsMapByPid [] => []
  | .getFrozenEventsMapByPid (pid :: _) =>
    bufferings (frozenRecordEvents (s.manager.frozenEventsMap.get pid))
  | .getAllFrozenEvents => bufferings s.manager.frozenEvents.events
  | .getAllFrozenEventsMap => bufferings s.manager.frozenEventsMap.events

/-- **The condition on a step**: an unfreeze finds no event that an unfreeze of
another kind has found before, or one of all subscribers. -/
def UnfreezeOk (s : UnorderedDelivery δ π) : DeliveryLabel δ π → Prop
  | .call i => ∀ call ∈ s.calls[i]?, ∀ task ∈ s.submitted, task.2 ∈ s.found call →
      task.1 = call.kind ∧ task.1 ≠ .all
  | _ => True

instance : ∀ l, Decidable (s.UnfreezeOk l)
  | .call i => inferInstanceAs (Decidable (∀ call ∈ s.calls[i]?, ∀ task ∈ s.submitted,
      task.2 ∈ s.found call → task.1 = call.kind ∧ task.1 ≠ .all))
  | .insertSubscriber _ _ _ _ => .isTrue trivial
  | .removeSubscriber _ => .isTrue trivial
  | .getSubscriberRecords _ => .isTrue trivial
  | .processUnorderedEvent _ _ _ => .isTrue trivial
  | .unordered => .isTrue trivial
  | .unorderedImmediate => .isTrue trivial
  | .notifyOrderedEvent _ _ => .isTrue trivial
  | .notifyFrozenSubscriber => .isTrue trivial
  | .freeze _ _ => .isTrue trivial
  | .unfreeze _ => .isTrue trivial
  | .setFreezeStatus _ _ _ => .isTrue trivial
  | .unfreezeAll => .isTrue trivial

/-! ## The rules of the invariant -/

namespace Numbers

variable {uid pid uid' pid' found : List ℕ} {n : ℕ} {submitted : List (UnfreezeKind × ℕ)}

/-- Keepings may go. -/
theorem mono (h : Numbers uid pid n submitted) (huid : uid'.Subperm uid)
    (hpid : pid'.Subperm pid) : Numbers uid' pid' n submitted where
  uidNodup := Dict.nodup_of_subperm huid h.uidNodup
  pidNodup := Dict.nodup_of_subperm hpid h.pidNodup
  uidLt k hk := h.uidLt k (huid.subset hk)
  pidLt k hk := h.pidLt k (hpid.subset hk)
  submittedLt := h.submittedLt
  uidCleared k hk := h.uidCleared k (huid.subset hk)
  pidCleared k hk := h.pidCleared k (hpid.subset hk)

/-- A new keeping has a new number. -/
theorem keep (h : Numbers uid pid n submitted) :
    Numbers (n :: uid) (n :: pid) (n + 1) submitted := by
  have hnew : ∀ kind, (kind, n) ∉ submitted := fun kind hmem =>
    Nat.lt_irrefl n (h.submittedLt _ hmem)
  have hlt : ∀ {l : List ℕ}, (∀ k ∈ l, k < n) → ∀ k ∈ n :: l, k < n + 1 := by
    intro l hl
    exact List.forall_mem_cons.mpr ⟨Nat.lt_succ_self n, fun k hk => Nat.lt_succ_of_lt (hl k hk)⟩
  exact
    { uidNodup := List.nodup_cons.mpr ⟨fun hmem => Nat.lt_irrefl n (h.uidLt n hmem), h.uidNodup⟩
      pidNodup := List.nodup_cons.mpr ⟨fun hmem => Nat.lt_irrefl n (h.pidLt n hmem), h.pidNodup⟩
      uidLt := hlt h.uidLt
      pidLt := hlt h.pidLt
      submittedLt := fun task htask => Nat.lt_succ_of_lt (h.submittedLt task htask)
      uidCleared := List.forall_mem_cons.mpr ⟨hnew .uid, h.uidCleared⟩
      pidCleared := List.forall_mem_cons.mpr ⟨hnew .pid, h.pidCleared⟩ }

/-- What a kind of unfreeze has submitted, after one more. -/
theorem mem_submit {kind kind' : UnfreezeKind} {k : ℕ} :
    (kind', k) ∈ submitted ++ found.map (fun k => (kind, k))
      ↔ (kind', k) ∈ submitted ∨ kind' = kind ∧ k ∈ found := by
  rw [List.mem_append, List.mem_map]
  refine or_congr Iff.rfl ⟨?_, ?_⟩
  · rintro ⟨k', hk', heq⟩
    cases heq
    exact ⟨rfl, hk'⟩
  · rintro ⟨rfl, hk⟩
    exact ⟨k, hk, rfl⟩

/-- An unfreeze that leaves everything in the buffers. -/
theorem submitAll (h : Numbers uid pid n submitted) (hlt : ∀ k ∈ found, k < n) :
    Numbers uid pid n (submitted ++ found.map (fun k => (.all, k))) :=
  { h with
    submittedLt := by
      rintro ⟨kind, k⟩ htask
      rcases mem_submit.mp htask with hmem | ⟨-, hk⟩
      · exact h.submittedLt _ hmem
      · exact hlt k hk
    uidCleared := fun k hk hmem =>
      h.uidCleared k hk ((mem_submit.mp hmem).resolve_right fun hc => nomatch hc.1)
    pidCleared := fun k hk hmem =>
      h.pidCleared k hk ((mem_submit.mp hmem).resolve_right fun hc => nomatch hc.1) }

/-- An unfreeze by uid takes what it finds out of the buffer by uid. -/
theorem submitUid (h : Numbers (found ++ uid) pid n submitted) :
    Numbers uid pid n (submitted ++ found.map (fun k => (.uid, k))) where
  uidNodup := (List.nodup_append.mp h.uidNodup).2.1
  pidNodup := h.pidNodup
  uidLt k hk := h.uidLt k (List.mem_append_right _ hk)
  pidLt := h.pidLt
  submittedLt := by
    rintro ⟨kind, k⟩ htask
    rcases mem_submit.mp htask with hmem | ⟨-, hk⟩
    · exact h.submittedLt _ hmem
    · exact h.uidLt k (List.mem_append_left _ hk)
  uidCleared := by
    intro k hk hmem
    rcases mem_submit.mp hmem with hmem | ⟨-, hfound⟩
    · exact h.uidCleared k (List.mem_append_right _ hk) hmem
    · exact (List.nodup_append.mp h.uidNodup).2.2 k hfound k hk rfl
  pidCleared k hk hmem :=
    h.pidCleared k hk ((mem_submit.mp hmem).resolve_right fun hc => nomatch hc.1)

/-- An unfreeze by pid takes what it finds out of the buffer by pid. -/
theorem submitPid (h : Numbers uid (found ++ pid) n submitted) :
    Numbers uid pid n (submitted ++ found.map (fun k => (.pid, k))) where
  uidNodup := h.uidNodup
  pidNodup := (List.nodup_append.mp h.pidNodup).2.1
  uidLt := h.uidLt
  pidLt k hk := h.pidLt k (List.mem_append_right _ hk)
  submittedLt := by
    rintro ⟨kind, k⟩ htask
    rcases mem_submit.mp htask with hmem | ⟨-, hk⟩
    · exact h.submittedLt _ hmem
    · exact h.pidLt k (List.mem_append_left _ hk)
  uidCleared k hk hmem :=
    h.uidCleared k hk ((mem_submit.mp hmem).resolve_right fun hc => nomatch hc.1)
  pidCleared := by
    intro k hk hmem
    rcases mem_submit.mp hmem with hmem | ⟨-, hfound⟩
    · exact h.pidCleared k (List.mem_append_right _ hk) hmem
    · exact (List.nodup_append.mp h.pidNodup).2.2 k hfound k hk rfl

end Numbers

/-! ## The steps -/

/-- **An insertion keeps the invariant**; `rest` are the keepings that others
are about to insert. -/
theorem Numbers.stepInsertion {rest : List ℕ} (insertion : FrozenInsertion δ π)
    (h : Numbers (bufferings s.manager.frozenEvents.events)
      (insertion.buffering.toList ++ rest ++ bufferings s.manager.frozenEventsMap.events)
      s.nextBuffering s.submitted) :
    Numbers (bufferings (s.stepInsertion insertion).1.manager.frozenEvents.events)
      (((s.stepInsertion insertion).2.bind FrozenInsertion.buffering).toList ++ rest
        ++ bufferings (s.stepInsertion insertion).1.manager.frozenEventsMap.events)
      (s.stepInsertion insertion).1.nextBuffering (s.stepInsertion insertion).1.submitted := by
  obtain ⟨eventRecord, vec, buffering⟩ := insertion
  cases buffering with
  | none =>
    refine h.keep.mono ?_ (List.Subperm.refl _)
    exact Dict.subperm_map _ (FrozenBuffer.events_insert _ _ _ _)
  | some buffering =>
    refine h.mono (List.Subperm.refl _) ?_
    have hinsert := Dict.subperm_map (fun record => record.commonEventData.buffering)
      (s.manager.frozenEventsMap.events_insert (s.manager.heap vec).eventRecordInfo.pid
        (s.manager.heap vec) (eventRecord.buffered buffering))
    refine (List.Subperm.append (List.Subperm.refl rest) hinsert).trans (List.Perm.subperm ?_)
    exact List.perm_middle

/-- A task that inserts is, of the keepings, what its insertion is. -/
theorem pending_stepTask (record : ℕ) (insertion : FrozenInsertion δ π)
    (receivers : List SubscriberRecordPtr) :
    ((s.stepTask (.handleFrozenUnorderedSubscriber record insertion receivers)).2.bind
        UnorderedTask.pending?)
      = (s.stepInsertion insertion).2.bind FrozenInsertion.buffering := by
  rw [UnorderedDelivery.stepTask]
  dsimp only
  cases (s.stepInsertion insertion).2 <;> rfl

/-- **A step of a task keeps the invariant.** -/
theorem Numbers.stepTask {rest : List ℕ} (task : UnorderedTask δ π)
    (h : Numbers (bufferings s.manager.frozenEvents.events)
      (task.pending?.toList ++ rest ++ bufferings s.manager.frozenEventsMap.events)
      s.nextBuffering s.submitted) :
    Numbers (bufferings (s.stepTask task).1.manager.frozenEvents.events)
      (((s.stepTask task).2.bind UnorderedTask.pending?).toList ++ rest
        ++ bufferings (s.stepTask task).1.manager.frozenEventsMap.events)
      (s.stepTask task).1.nextBuffering (s.stepTask task).1.submitted := by
  cases task with
  | notifyUnorderedEvent record eventRecord receivers =>
    cases receivers with
    | nil => exact h
    | cons vec receivers =>
      rw [UnorderedDelivery.stepTask]
      split <;> exact h
  | handleFrozenUnorderedSubscriber record insertion receivers =>
    rw [pending_stepTask]
    exact h.stepInsertion insertion
  | notifyFreezeEvents subscriberRecord eventRecord => exact h

/-- What `PublishFrozenEventsInner` submits. -/
theorem publishFrozenEventsInner_eq (kind : UnfreezeKind)
    (frozenRecords : FrozenRecords (Buffered δ) π) :
    (s.publishFrozenEventsInner kind frozenRecords).submitted
        = s.submitted ++ (bufferings (frozenRecordEvents frozenRecords)).map (fun k => (kind, k))
      ∧ (s.publishFrozenEventsInner kind frozenRecords).pending = s.pending
      ∧ (s.publishFrozenEventsInner kind frozenRecords).manager = s.manager
      ∧ (s.publishFrozenEventsInner kind frozenRecords).nextBuffering = s.nextBuffering := by
  refine ⟨?_, ?_, rfl, rfl⟩
  · show _ ++ _ = _
    rw [← frozenTasks_map_snd, FrozenBuffer.bufferings, List.map_map, List.map_map]
    rfl
  · refine congrArg (List.append _) ?_
    unfold pendingTasks
    show (s.unorderedQueue ++ (s.unorderedImmediateQueue ++ _)).filterMap _ = _
    rw [← List.append_assoc, List.filterMap_append]
    have hnone : ((frozenTasks frozenRecords).map (fun task =>
        (UnorderedTask.notifyFreezeEvents task.1 task.2 : UnorderedTask δ π))).filterMap
          UnorderedTask.pending? = [] := by
      rw [List.filterMap_map]
      exact List.filterMap_eq_nil_iff.mpr fun _ _ => rfl
    rw [hnone, List.append_nil]

/-- What the loop of `PublishAllFreezeCommonEvents` over a buffer submits. -/
theorem publishAllFrozenEvents_eq {κ : Type} [DecidableEq κ]
    (buffer : FrozenBuffer κ (Buffered δ) π) :
    (s.publishAllFrozenEvents buffer).submitted
        = s.submitted ++ (bufferings buffer.events).map (fun k => (.all, k))
      ∧ (s.publishAllFrozenEvents buffer).pending = s.pending
      ∧ (s.publishAllFrozenEvents buffer).manager = s.manager
      ∧ (s.publishAllFrozenEvents buffer).nextBuffering = s.nextBuffering := by
  unfold publishAllFrozenEvents FrozenBuffer.events Dict.flatMap
  generalize buffer.entries = entries
  induction entries generalizing s with
  | nil => exact ⟨(List.append_nil _).symm, rfl, rfl, rfl⟩
  | cons entry entries ih =>
    obtain ⟨hsub, hpend, hman, hnext⟩ := s.publishFrozenEventsInner_eq .all entry.2
    obtain ⟨hsub', hpend', hman', hnext'⟩ := ih (s := s.publishFrozenEventsInner .all entry.2)
    rw [List.foldl_cons]
    refine ⟨?_, hpend'.trans hpend, hman'.trans hman, hnext'.trans hnext⟩
    rw [hsub', hsub, List.flatMap_cons, FrozenBuffer.bufferings, FrozenBuffer.bufferings,
      FrozenBuffer.bufferings, List.map_append, List.map_append, List.append_assoc]

theorem kept_of_numbers {m : SubscriberManager (Buffered δ) π} {pending : List ℕ} {n : ℕ}
    {submitted : List (UnfreezeKind × ℕ)} (hman : t.manager = m) (hpend : t.pending = pending)
    (hnext : t.nextBuffering = n) (hsub : t.submitted = submitted)
    (h : Numbers (bufferings m.frozenEvents.events)
      (pending ++ bufferings m.frozenEventsMap.events) n submitted) : t.Kept := by
  unfold Kept
  rw [hman, hpend, hnext, hsub]
  exact h

/-- **A step of a task**, where `l` is pending besides. -/
theorem Kept.stepTask (h : s.Kept) (task : UnorderedTask δ π) {l : List ℕ}
    (hbefore : s.pending.Perm (task.pending?.toList ++ l))
    (hman : t.manager = (s.stepTask task).1.manager)
    (hnext : t.nextBuffering = (s.stepTask task).1.nextBuffering)
    (hsub : t.submitted = (s.stepTask task).1.submitted)
    (hafter : t.pending.Perm
      (((s.stepTask task).2.bind UnorderedTask.pending?).toList ++ l)) : t.Kept := by
  have hkept := h.mono (List.Subperm.refl _) (hbefore.symm.append_right _).subperm
  exact kept_of_numbers hman rfl hnext hsub
    ((hkept.stepTask task).mono (List.Subperm.refl _) (hafter.append_right _).subperm)

/-- **A step of an unfreezing call** submits a task for every keeping it finds,
and keeps the invariant. -/
theorem Kept.stepCall (h : s.Kept) (i : ℕ) (call : UnfreezeCall) :
    (s.stepCall i call).Kept
      ∧ (s.stepCall i call).submitted
        = s.submitted ++ (s.found call).map (fun k => (call.kind, k)) := by
  cases call with
  | getFrozenEvents uid =>
    obtain ⟨hsub, hpend, hman, hnext⟩ := publishFrozenEventsInner_eq
      (s := { s with
        manager := (s.manager.getFrozenEvents uid).2
        calls := s.calls.eraseIdx i }) .uid (s.manager.getFrozenEvents uid).1
    refine ⟨kept_of_numbers hman hpend hnext hsub ?_, hsub⟩
    refine Numbers.submitUid (h.mono (List.Perm.subperm ?_) (List.Subperm.refl _))
    unfold bufferings
    rw [← List.map_append]
    exact ((FrozenBuffer.events_perm_remove s.manager.frozenEvents uid).map _).symm
  | getFrozenEventsMapByPid pidList =>
    cases pidList with
    | nil => exact ⟨h, (List.append_nil _).symm⟩
    | cons pid pidList =>
      obtain ⟨hsub, hpend, hman, hnext⟩ := publishFrozenEventsInner_eq
        (s := { s with
          manager := (s.manager.getFrozenEventsMapByPid pid).2
          calls := s.calls.set i (.getFrozenEventsMapByPid pidList) }) .pid
        (s.manager.getFrozenEventsMapByPid pid).1
      refine ⟨kept_of_numbers hman hpend hnext hsub ?_, hsub⟩
      refine Numbers.submitPid (h.mono (List.Subperm.refl _) (List.Perm.subperm ?_))
      have hremove : (bufferings (frozenRecordEvents (s.manager.frozenEventsMap.get pid))
          ++ bufferings (s.manager.frozenEventsMap.remove pid).events).Perm
            (bufferings s.manager.frozenEventsMap.events) := by
        unfold bufferings
        rw [← List.map_append]
        exact ((FrozenBuffer.events_perm_remove s.manager.frozenEventsMap pid).map _).symm
      refine List.Perm.trans ?_ (hremove.append_left s.pending)
      rw [← List.append_assoc, ← List.append_assoc]
      exact List.perm_append_comm.append_right _
  | getAllFrozenEvents =>
    obtain ⟨hsub, hpend, hman, hnext⟩ := publishAllFrozenEvents_eq
      (s := { s with calls := s.calls.set i .getAllFrozenEventsMap }) s.manager.frozenEvents
    refine ⟨kept_of_numbers hman hpend hnext hsub ?_, hsub⟩
    exact h.submitAll h.uidLt
  | getAllFrozenEventsMap =>
    obtain ⟨hsub, hpend, hman, hnext⟩ := publishAllFrozenEvents_eq
      (s := { s with calls := s.calls.eraseIdx i }) s.manager.frozenEventsMap
    refine ⟨kept_of_numbers hman hpend hnext hsub ?_, hsub⟩
    exact h.submitAll fun k hk => h.pidLt k (List.mem_append_right _ hk)

theorem filterMap_pending_cons (task : UnorderedTask δ π) (rest : List (UnorderedTask δ π)) :
    (task :: rest).filterMap UnorderedTask.pending?
      = task.pending?.toList ++ rest.filterMap UnorderedTask.pending? := by
  rw [List.filterMap_cons]
  cases task.pending? <;> rfl

theorem filterMap_pending_toList (task : Option (UnorderedTask δ π)) :
    task.toList.filterMap UnorderedTask.pending?
      = (task.bind UnorderedTask.pending?).toList := by
  cases task with
  | none => rfl
  | some task =>
    rw [Option.toList_some, filterMap_pending_cons]
    exact List.append_nil _

/-- **Every step keeps the invariant**; only a step of an unfreezing call
submits anything. -/
theorem kept_step {l : DeliveryLabel δ π} (h : s.Kept) (hstep : s.step P S l = some t) :
    t.Kept ∧ ((∀ i, l ≠ .call i) → t.submitted = s.submitted) := by
  -- a step that leaves the buffers and the tasks
  have hstay : ∀ t : UnorderedDelivery δ π,
      t.manager.frozenEvents = s.manager.frozenEvents →
      t.manager.frozenEventsMap = s.manager.frozenEventsMap → t.pending = s.pending →
      t.nextBuffering = s.nextBuffering → t.submitted = s.submitted → t.Kept := by
    intro t huid hpid hpend hnext hsub
    unfold Kept
    rw [huid, hpid, hpend, hnext, hsub]
    exact h
  cases l with
  | insertSubscriber maxSubscriberNum info listener recordInfo =>
    cases hstep
    obtain ⟨huid, hpid⟩ :=
      s.manager.frozen_insertSubscriber S maxSubscriberNum info listener recordInfo
    exact ⟨hstay _ huid hpid rfl rfl rfl, fun _ => rfl⟩
  | removeSubscriber listener =>
    cases hstep
    obtain ⟨huid, hpid⟩ := s.manager.frozen_removeSubscriber listener
    refine ⟨kept_of_numbers rfl rfl rfl rfl (h.mono (Dict.subperm_map _ huid) ?_), fun _ => rfl⟩
    exact List.Subperm.append (List.Subperm.refl _) (Dict.subperm_map _ hpid)
  | getSubscriberRecords view =>
    cases hstep
    obtain ⟨huid, hpid⟩ := s.manager.frozen_getSubscriberRecords P view
    exact ⟨hstay _ huid hpid rfl rfl rfl, fun _ => rfl⟩
  | processUnorderedEvent eventRecord view subscriberRecord =>
    obtain ⟨-, rfl⟩ := processUnorderedEvent_cases hstep
    refine ⟨hstay _ ?_ ?_ ?_ rfl rfl, fun _ => rfl⟩
    · unfold UnorderedDelivery.processUnorderedEvent
      cases subscriberRecord with
      | some subscriberRecord => rfl
      | none => exact (s.manager.frozen_getSubscriberRecords P view).1
    · unfold UnorderedDelivery.processUnorderedEvent
      cases subscriberRecord with
      | some subscriberRecord => rfl
      | none => exact (s.manager.frozen_getSubscriberRecords P view).2
    · refine congrArg (List.append _) ?_
      unfold UnorderedDelivery.processUnorderedEvent pendingTasks
      dsimp only
      cases eventRecord.isSystemEvent with
      | true =>
        show (s.unorderedQueue ++ (s.unorderedImmediateQueue ++ [_])).filterMap _ = _
        rw [← List.append_assoc, List.filterMap_append]
        exact List.append_nil _
      | false =>
        show ((s.unorderedQueue ++ [_]) ++ s.unorderedImmediateQueue).filterMap _ = _
        rw [List.append_assoc, List.filterMap_append, List.filterMap_append,
          List.filterMap_append]
        rfl
  | unordered =>
    obtain ⟨task, rest, hq, rfl⟩ := unordered_cases hstep
    obtain ⟨huq, hiq, hord, hsub⟩ := stepTask_frame (s := s) task
    refine ⟨h.stepTask task (l := (s.ordered.bind FrozenInsertion.buffering).toList
      ++ (rest ++ s.unorderedImmediateQueue).filterMap UnorderedTask.pending?) ?_ rfl rfl rfl ?_,
      fun _ => hsub⟩
    · unfold pending pendingTasks
      rw [hq, List.cons_append, filterMap_pending_cons, ← List.append_assoc,
        ← List.append_assoc]
      exact List.perm_append_comm.append_right _
    · unfold pending pendingTasks
      dsimp only
      rw [hiq, hord, List.append_assoc, List.filterMap_append, filterMap_pending_toList,
        ← List.append_assoc, ← List.append_assoc]
      exact List.perm_append_comm.append_right _
  | unorderedImmediate =>
    obtain ⟨task, rest, hq, rfl⟩ := unorderedImmediate_cases hstep
    obtain ⟨huq, hiq, hord, hsub⟩ := stepTask_frame (s := s) task
    refine ⟨h.stepTask task (l := (s.ordered.bind FrozenInsertion.buffering).toList
      ++ (s.unorderedQueue ++ rest).filterMap UnorderedTask.pending?) ?_ rfl rfl rfl ?_,
      fun _ => hsub⟩
    · unfold pending pendingTasks
      rw [hq]
      refine ((List.perm_middle.filterMap _).append_left _).trans ?_
      rw [filterMap_pending_cons, ← List.append_assoc, ← List.append_assoc]
      exact List.perm_append_comm.append_right _
    · unfold pending pendingTasks
      dsimp only
      rw [huq, hord, ← filterMap_pending_toList]
      have hmove : (s.unorderedQueue ++ ((s.stepTask task).2.toList ++ rest)).Perm
          ((s.stepTask task).2.toList ++ (s.unorderedQueue ++ rest)) := by
        rw [← List.append_assoc, ← List.append_assoc]
        exact List.perm_append_comm.append_right _
      refine ((hmove.filterMap _).append_left _).trans ?_
      rw [List.filterMap_append, ← List.append_assoc, ← List.append_assoc]
      exact List.perm_append_comm.append_right _
  | notifyOrderedEvent eventRecord subscriber =>
    obtain ⟨hnone, -, rfl⟩ := notifyOrderedEvent_cases hstep
    refine ⟨hstay _ rfl rfl ?_ rfl rfl, fun _ => rfl⟩
    unfold pending UnorderedDelivery.notifyOrderedEvent
    rw [hnone]
    dsimp only
    split <;> rfl
  | notifyFrozenSubscriber =>
    obtain ⟨insertion, hord, rfl⟩ := notifyFrozenSubscriber_cases hstep
    obtain ⟨huq, hiq, -, hsub⟩ := stepInsertion_frame (s := s) insertion
    refine ⟨?_, fun _ => hsub⟩
    have hkept : Numbers _ _ _ _ := h
    unfold pending at hkept
    rw [hord] at hkept
    have hnext := hkept.stepInsertion insertion
    refine kept_of_numbers rfl ?_ rfl rfl hnext
    unfold pending pendingTasks
    dsimp only
    rw [huq, hiq]
  | freeze uid now =>
    cases hstep
    exact ⟨hstay _ rfl rfl rfl rfl rfl, fun _ => rfl⟩
  | unfreeze uid =>
    cases hstep
    exact ⟨hstay _ rfl rfl rfl rfl rfl, fun _ => rfl⟩
  | setFreezeStatus pidList isFreeze now =>
    cases hstep
    exact ⟨hstay _ rfl rfl rfl rfl rfl, fun _ => rfl⟩
  | unfreezeAll =>
    cases hstep
    exact ⟨hstay _ rfl rfl rfl rfl rfl, fun _ => rfl⟩
  | call i =>
    obtain ⟨call, -, rfl⟩ := Option.map_eq_some_iff.mp hstep
    exact ⟨(h.stepCall i call).1, fun hne => absurd rfl (hne i)⟩

/-! ## At most once -/

/-- What a call finds, it finds once. -/
theorem Kept.nodup_found (h : s.Kept) (call : UnfreezeCall) : (s.found call).Nodup := by
  have hpid : (bufferings s.manager.frozenEventsMap.events).Nodup :=
    (List.nodup_append.mp h.pidNodup).2.1
  cases call with
  | getFrozenEvents uid =>
    have hperm := (FrozenBuffer.events_perm_remove s.manager.frozenEvents uid).map
      (fun record => record.commonEventData.buffering)
    rw [List.map_append] at hperm
    exact (List.nodup_append.mp (hperm.nodup_iff.mp h.uidNodup)).1
  | getFrozenEventsMapByPid pidList =>
    cases pidList with
    | nil => exact List.nodup_nil
    | cons pid pidList =>
      have hperm := (FrozenBuffer.events_perm_remove s.manager.frozenEventsMap pid).map
        (fun record => record.commonEventData.buffering)
      rw [List.map_append] at hperm
      exact (List.nodup_append.mp (hperm.nodup_iff.mp hpid)).1
  | getAllFrozenEvents => exact h.uidNodup
  | getAllFrozenEventsMap => exact hpid

/-- What a call finds has not been read by an earlier call of its kind, unless
the kind takes nothing out. -/
theorem Kept.not_submitted_of_found (h : s.Kept) {call : UnfreezeCall} {k : ℕ}
    (hk : k ∈ s.found call) (hkind : call.kind ≠ .all) : (call.kind, k) ∉ s.submitted := by
  cases call with
  | getFrozenEvents uid =>
    have hperm := (FrozenBuffer.events_perm_remove s.manager.frozenEvents uid).map
      (fun record => record.commonEventData.buffering)
    rw [List.map_append] at hperm
    exact h.uidCleared k (hperm.symm.subset (List.mem_append_left _ hk))
  | getFrozenEventsMapByPid pidList =>
    cases pidList with
    | nil => cases hk
    | cons pid pidList =>
      have hperm := (FrozenBuffer.events_perm_remove s.manager.frozenEventsMap pid).map
        (fun record => record.commonEventData.buffering)
      rw [List.map_append] at hperm
      exact h.pidCleared k (List.mem_append_right _
        (hperm.symm.subset (List.mem_append_left _ hk)))
  | getAllFrozenEvents => exact absurd rfl hkind
  | getAllFrozenEventsMap => exact absurd rfl hkind

/-- **One step submits nothing twice exactly when it meets its condition.** -/
theorem atMostOnce_step_iff {l : DeliveryLabel δ π} (hkept : s.Kept) (h : s.AtMostOnce)
    (hstep : s.step P S l = some t) : t.AtMostOnce ↔ s.UnfreezeOk l := by
  cases l with
  | call i =>
    obtain ⟨call, hcall, rfl⟩ := Option.map_eq_some_iff.mp hstep
    unfold AtMostOnce
    rw [(hkept.stepCall i call).2, List.map_append, List.map_map]
    have hmap : (s.found call).map (Prod.snd ∘ fun k => (call.kind, k)) = s.found call :=
      List.map_id _
    rw [hmap]
    constructor
    · intro hnodup call' hcall' task hmem hk
      obtain rfl : call = call' := Option.some.inj (hcall.symm.trans hcall')
      exact absurd rfl
        ((List.nodup_append.mp hnodup).2.2 task.2 (List.mem_map_of_mem hmem) task.2 hk)
    · intro hok
      refine List.nodup_append.mpr ⟨h, hkept.nodup_found call, ?_⟩
      rintro k hmem k' hk rfl
      obtain ⟨⟨kind, k⟩, hsubmitted, rfl⟩ := List.mem_map.mp hmem
      obtain ⟨rfl, hkind⟩ := hok call hcall _ hsubmitted hk
      exact hkept.not_submitted_of_found hk hkind hsubmitted
  | _ =>
    unfold AtMostOnce
    rw [(kept_step hkept hstep).2 (fun i => nofun)]
    exact ⟨fun _ => trivial, fun _ => h⟩

theorem kept_init : Kept ({} : UnorderedDelivery δ π) where
  uidNodup := List.nodup_nil
  pidNodup := List.nodup_nil
  uidLt := nofun
  pidLt := nofun
  submittedLt := nofun
  uidCleared := nofun
  pidCleared := nofun

theorem kept_reachable (hs : (deliveryMachine P S δ π).Reachable s) : s.Kept :=
  Machine.invariant (M := deliveryMachine P S δ π) (I := Kept) kept_init
    (fun _ _ _ h hstep => (kept_step h hstep).1) hs

/-- **No keeping is redelivered twice in the runs whose every unfreeze meets its
condition**, and in no others. -/
theorem redelivered_once_iff_unfreezeOk {ls : List (DeliveryLabel δ π)}
    (hs : (deliveryMachine P S δ π).run ls = some s) :
    (∀ pre post t, ls = pre ++ post → (deliveryMachine P S δ π).run pre = some t →
        t.AtMostOnce)
      ↔ (deliveryMachine P S δ π).Guarded UnfreezeOk ls :=
  Machine.forall_prefix_iff_guarded (M := deliveryMachine P S δ π) List.nodup_nil
    (fun _ _ _ hreach h hstep => atMostOnce_step_iff (kept_reachable hreach) h hstep) hs

/-- A subscriber is frozen, and an event is kept for it. -/
def untilKept : List (DeliveryLabel CommonEventData CommonEventPublishInfo) :=
  [.insertSubscriber 5000 (some { matchingSkills := { events := ["e"] }, userId := ALL_USER })
      (some ⟨1⟩) { pid := 7, uid := 100 },
    .freeze 100 0,
    .processUnorderedEvent
      { commonEventData := { want := { action := "e" } }, publishInfo := {} }
      { commonEventData := { want := { action := "e" } }, publishInfo := {} } none,
    .unordered, .unordered, .unordered, .unordered]

/-- The subscriber is released twice over by its uid. -/
theorem redelivered_once_iff_unfreezeOk_byUid :
    ∃ s, (deliveryMachine {} .insertion _ _).run
        (untilKept ++ [DeliveryLabel.unfreeze 100, .call 0, .unfreeze 100, .call 0]) = some s
      ∧ s.submitted = [(.uid, 0)]
      ∧ ∀ pre post t,
        untilKept ++ [DeliveryLabel.unfreeze 100, .call 0, .unfreeze 100, .call 0] = pre ++ post →
        (deliveryMachine {} .insertion _ _).run pre = some t → t.AtMostOnce := by
  obtain ⟨s, hs, hsubmitted⟩ := Option.map_eq_some_iff.mp
    (show ((deliveryMachine {} .insertion _ _).run
      (untilKept ++ [DeliveryLabel.unfreeze 100, .call 0, .unfreeze 100, .call 0])).map
        UnorderedDelivery.submitted = some [(.uid, 0)] by decide)
  exact ⟨s, hs, hsubmitted,
    (redelivered_once_iff_unfreezeOk hs).mpr (Machine.guarded_of_guardedFrom (by decide))⟩

/-- **An event can be redelivered twice**: once when its subscriber is released
by uid, and again when it is released by pid. -/
theorem redelivered_twice :
    ¬ ∀ ls s, (deliveryMachine {} .insertion CommonEventData CommonEventPublishInfo).run ls
      = some s → s.AtMostOnce := by
  intro h
  obtain ⟨s, hs, hsubmitted⟩ := Option.map_eq_some_iff.mp
    (show ((deliveryMachine {} .insertion _ _).run
      (untilKept ++
        [DeliveryLabel.unfreeze 100, .call 0, .setFreezeStatus [7] false 0, .call 0])).map
        UnorderedDelivery.submitted = some [(.uid, 0), (.pid, 0)] by decide)
  have honce := h _ s hs
  unfold AtMostOnce at honce
  rw [hsubmitted] at honce
  exact absurd honce (by decide)

end UnorderedDelivery

end CommonEventService

import CommonEventService.Basic
import CommonEventService.Lib.Dict
import CommonEventService.Lib.RetentionWindow

/-!
# Flood control

`PublishManager` refuses an application that publishes too often. Of each uid
it keeps the times of the calls, refused ones included, and at each call it
lets go of those that are too old, from the front and up to the first that is
not. While the clock does not go back, what it keeps of a uid is the window of
that uid's calls, so the answer is read off the history of the uid alone.
-/

namespace CommonEventService

open RetentionWindow

/-- Frequency of decision. -/
def FLOOD_ATTACK_NUMBER_MAX : ℕ := 20

/-- Period of decision, in milliseconds. -/
def FLOOD_ATTACK_INTERVAL_MAX : Int := 5

/-- `PublishManager`. -/
structure PublishManager where
  floodAttackAppStatistics : Dict Pid (List Int) := ∅

namespace PublishManager

/-- The loop that removes the expired records. -/
def removeExpired (now : Int) : List Int → List Int
  | [] => []
  | time :: times =>
    if now - time > FLOOD_ATTACK_INTERVAL_MAX then removeExpired now times
    else time :: times

variable (m : PublishManager)

/-- `CheckIsFloodAttack`, at the time `now`. -/
def checkIsFloodAttack (appUid : Pid) (now : Int) : PublishManager × Bool :=
  match m.floodAttackAppStatistics.lookup appUid with
  | none =>
    ({ m with floodAttackAppStatistics := m.floodAttackAppStatistics.insert appUid [now] }, false)
  | some times =>
    let fresh := removeExpired now times
    ({ m with
        floodAttackAppStatistics :=
          m.floodAttackAppStatistics.insert appUid (fresh ++ [now]) },
      decide (fresh.length + 1 > FLOOD_ATTACK_NUMBER_MAX))

/-- What is kept of a uid. -/
def keptOf (appUid : Pid) : List Int := Dict.getD m.floodAttackAppStatistics appUid []

/-- The loop lets go of what is out of the window. -/
theorem removeExpired_eq_dropWhile (now : Int) (times : List Int) :
    removeExpired now times = times.dropWhile (expired id FLOOD_ATTACK_INTERVAL_MAX now) := by
  induction times with
  | nil => rfl
  | cons time times ih =>
    rw [removeExpired, List.dropWhile_cons, ih]
    unfold expired
    simp only [id_eq, decide_eq_true_eq]

/-- **A call keeps its time and what is not too old for it**; of the other uids
what is kept stays. -/
theorem keptOf_checkIsFloodAttack (appUid : Pid) (now : Int) (uid : Pid) :
    (m.checkIsFloodAttack appUid now).1.keptOf uid
      = if uid = appUid
        then pushTrimmingAll id FLOOD_ATTACK_INTERVAL_MAX (m.keptOf appUid) now
        else m.keptOf uid := by
  unfold keptOf Dict.getD checkIsFloodAttack pushTrimmingAll
  cases hlookup : m.floodAttackAppStatistics.lookup appUid with
  | none =>
    show ((m.floodAttackAppStatistics.insert appUid _).lookup uid).getD [] = _
    rw [Dict.lookup_insert_ite]
    split
    next => rfl
    next => rfl
  | some times =>
    show ((m.floodAttackAppStatistics.insert appUid _).lookup uid).getD [] = _
    rw [Dict.lookup_insert_ite, removeExpired_eq_dropWhile]
    split
    next => rfl
    next => rfl

/-- **The answer to a call** is how many calls it is still to be counted
with. -/
theorem answer_checkIsFloodAttack (appUid : Pid) (now : Int) :
    (m.checkIsFloodAttack appUid now).2 = true
      ↔ FLOOD_ATTACK_NUMBER_MAX ≤ (removeExpired now (m.keptOf appUid)).length := by
  unfold keptOf Dict.getD checkIsFloodAttack
  cases m.floodAttackAppStatistics.lookup appUid with
  | none =>
    show false = true ↔ 20 ≤ 0
    simp
  | some times =>
    show decide _ = true ↔ _
    rw [decide_eq_true_iff, gt_iff_lt, Nat.lt_succ_iff]
    rfl

end PublishManager

/-! ## A sequence of calls -/

/-- A call of `CheckIsFloodAttack`, and the time it reads. -/
structure FloodCall where
  appUid : Pid
  now : Int
  deriving DecidableEq, Repr

/-- The clock does not go back from a call to the next. -/
def NonDecreasing (calls : List FloodCall) : Prop :=
  calls.Pairwise (fun earlier later => earlier.now ≤ later.now)

/-- The times of the calls by a uid. -/
def timesOf (uid : Pid) (calls : List FloodCall) : List Int :=
  (calls.filter (fun call => call.appUid = uid)).map (·.now)

theorem timesOf_concat (uid : Pid) (calls : List FloodCall) (call : FloodCall) :
    timesOf uid (calls ++ [call])
      = if uid = call.appUid then timesOf uid calls ++ [call.now] else timesOf uid calls := by
  unfold timesOf
  rw [List.filter_append, List.map_append]
  split
  next h => simp [h]
  next h => simpa using Ne.symm h

/-- The times of a uid's calls come in their order. -/
theorem NonDecreasing.timesOf {calls : List FloodCall} (h : NonDecreasing calls) (uid : Pid) :
    Chronological id (timesOf uid calls) :=
  List.pairwise_map.mpr (List.Pairwise.sublist List.filter_sublist h)

namespace PublishManager

/-- The manager after a sequence of calls. -/
def afterCalls (calls : List FloodCall) : PublishManager :=
  calls.foldl (fun m call => (m.checkIsFloodAttack call.appUid call.now).1) {}

theorem afterCalls_concat (calls : List FloodCall) (call : FloodCall) :
    afterCalls (calls ++ [call])
      = ((afterCalls calls).checkIsFloodAttack call.appUid call.now).1 := by
  unfold afterCalls
  rw [List.foldl_append]
  rfl

/-- **What is kept of a uid is the window of its calls.** -/
theorem keptOf_afterCalls {calls : List FloodCall} (h : NonDecreasing calls) (uid : Pid) :
    (afterCalls calls).keptOf uid
      = window id FLOOD_ATTACK_INTERVAL_MAX (timesOf uid calls) := by
  induction calls using List.reverseRecOn with
  | nil => rfl
  | append_singleton calls call ih =>
    have htimes := h.timesOf uid
    rw [timesOf_concat] at htimes
    rw [afterCalls_concat, keptOf_checkIsFloodAttack, timesOf_concat]
    have hcalls : NonDecreasing calls := h.sublist (List.sublist_append_left calls [call])
    split
    next huid =>
      rw [if_pos huid] at htimes
      rw [← huid, ih hcalls]
      exact pushTrimmingAll_window (by decide) htimes
    next => exact ih hcalls

/-- What is left to be counted with a call: the calls of its uid that are not
older than the period of decision. -/
theorem removeExpired_keptOf {calls : List FloodCall} {call : FloodCall}
    (h : NonDecreasing (calls ++ [call])) :
    removeExpired call.now ((afterCalls calls).keptOf call.appUid)
      = (timesOf call.appUid calls).filter
          (fun time => call.now - time ≤ FLOOD_ATTACK_INTERVAL_MAX) := by
  obtain ⟨hcalls, -, hnow⟩ := List.pairwise_append.mp h
  have htimes := NonDecreasing.timesOf hcalls call.appUid
  have hle : ∀ time ∈ timesOf call.appUid calls, id time ≤ id call.now := by
    intro time htime
    obtain ⟨earlier, hearlier, rfl⟩ := List.mem_map.mp htime
    exact hnow earlier (List.mem_of_mem_filter hearlier) call List.mem_cons_self
  rw [removeExpired_eq_dropWhile, keptOf_afterCalls hcalls,
    dropWhile_expired (htimes.sublist (window_sublist _)), filter_window hle]
  refine List.filter_congr fun time _ => ?_
  unfold expired
  rw [← decide_not, id_eq, id_eq, decide_eq_decide, gt_iff_lt, not_lt]

/-- The earlier calls that count against a call. -/
def countedWith (pre : List FloodCall) (call : FloodCall) : List FloodCall :=
  pre.filter (fun earlier => earlier.appUid = call.appUid
    ∧ call.now - earlier.now ≤ FLOOD_ATTACK_INTERVAL_MAX)

/-- The answer to a call after a sequence of calls. -/
theorem answer_afterCalls {calls : List FloodCall} {call : FloodCall}
    (h : NonDecreasing (calls ++ [call])) :
    ((afterCalls calls).checkIsFloodAttack call.appUid call.now).2 = true
      ↔ FLOOD_ATTACK_NUMBER_MAX ≤ (countedWith calls call).length := by
  rw [answer_checkIsFloodAttack, removeExpired_keptOf h]
  unfold timesOf countedWith
  rw [List.filter_map, List.length_map, List.filter_filter]
  simp only [Function.comp_apply, Bool.decide_and, Bool.and_comm]

/-- **Flood control is its window**: a call is refused exactly where twenty
earlier calls of its uid came within the period of decision, and the calls of
other uids have no part in it. -/
theorem checkIsFloodAttack_iff_window {calls : List FloodCall} (h : NonDecreasing calls) :
    ∀ pre call post, calls = pre ++ call :: post →
      (((afterCalls pre).checkIsFloodAttack call.appUid call.now).2 = true
        ↔ FLOOD_ATTACK_NUMBER_MAX ≤ (countedWith pre call).length)
      ∧ ((afterCalls pre).checkIsFloodAttack call.appUid call.now).2
        = ((afterCalls (pre.filter (fun earlier => earlier.appUid = call.appUid))).checkIsFloodAttack
            call.appUid call.now).2 := by
  intro pre call post hcalls
  have hpre : NonDecreasing (pre ++ [call]) := by
    rw [hcalls, ← List.singleton_append, ← List.append_assoc] at h
    exact h.sublist (List.sublist_append_left _ post)
  have hown : NonDecreasing
      (pre.filter (fun earlier => earlier.appUid = call.appUid) ++ [call]) :=
    hpre.sublist (List.filter_sublist.append_right [call])
  have hcounted : countedWith (pre.filter (fun earlier => earlier.appUid = call.appUid)) call
      = countedWith pre call := by
    unfold countedWith
    rw [List.filter_filter]
    refine List.filter_congr fun earlier _ => ?_
    rw [Bool.decide_and, Bool.and_right_comm, Bool.and_self]
  refine ⟨answer_afterCalls hpre, ?_⟩
  rw [Bool.eq_iff_iff, answer_afterCalls hpre, answer_afterCalls hown, hcounted]

/-- Twenty calls in one millisecond and a twenty-first, which is refused; the
call of another uid between them is not counted. -/
theorem checkIsFloodAttack_iff_window_run :
    ((afterCalls (List.replicate 20 ⟨1, 0⟩ ++ [⟨2, 3⟩])).checkIsFloodAttack 1 5).2 = true
    ∧ (countedWith (List.replicate 20 ⟨1, 0⟩ ++ [⟨2, 3⟩]) ⟨1, 5⟩).length = 20 := by
  have hdecide : NonDecreasing (List.replicate 20 ⟨1, 0⟩ ++ [⟨2, 3⟩] ++ [⟨1, 5⟩]) := by
    unfold NonDecreasing
    decide
  have hlength : (countedWith (List.replicate 20 ⟨1, 0⟩ ++ [⟨2, 3⟩]) ⟨1, 5⟩).length = 20 := by
    decide
  refine ⟨?_, hlength⟩
  refine (checkIsFloodAttack_iff_window hdecide _ ⟨1, 5⟩ [] rfl).1.mpr ?_
  rw [hlength]
  exact le_refl 20

end PublishManager

end CommonEventService

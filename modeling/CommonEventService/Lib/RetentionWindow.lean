import Mathlib.Algebra.Order.Group.Int
import Mathlib.Algebra.Order.Group.Unbundled.Basic
import Mathlib.Data.List.Infix

/-!
# Windows over a sequence of events

Of the events that came, in the order of their times, those are to be kept
that came within some time of the newest: the **window**. `pushTrimmingOne`
keeps an event and lets go of one that is too old, the oldest, where a loop
would let go of all. The two agree on a sequence just where no event finds two
events of the window before it too old. `pushTrimmingAll` is the loop, and always
keeps the window.
-/

namespace RetentionWindow

variable {α τ : Type} [AddCommGroup τ] [LinearOrder τ]
  (time : α → τ) (width : τ)

/-- An event is out of the window of a newer one. -/
def expired (newest old : α) : Bool := time newest - time old > width

/-- **The window**: the events that are in the window of the last one. -/
def window (events : List α) : List α :=
  match events.getLast? with
  | none => []
  | some newest => events.filter (fun old => !expired time width newest old)

/-- One more event is kept, and the oldest one goes if it is too old. -/
def pushTrimmingOne (kept : List α) (newest : α) : List α :=
  if (kept ++ [newest]).head?.any (expired time width newest) then (kept ++ [newest]).tail
  else kept ++ [newest]

/-- One more event is kept, and from the front go all that are too old, up to
the first that is not. -/
def pushTrimmingAll (kept : List α) (newest : α) : List α :=
  kept.dropWhile (expired time width newest) ++ [newest]

/-- What is kept of a sequence of events. -/
def keepAll (events : List α) : List α := events.foldl (pushTrimmingOne time width) []

/-- The events come in the order of their times. -/
def Chronological (events : List α) : Prop := events.Pairwise (fun old new => time old ≤ time new)

variable {time width}

theorem window_sublist (events : List α) : (window time width events).Sublist events := by
  unfold window
  split
  · exact List.nil_sublist _
  · exact List.filter_sublist

theorem expired_self (hwidth : 0 ≤ width) (newest : α) :
    expired time width newest newest = false := by
  unfold expired
  rw [sub_self]
  exact decide_eq_false (not_lt.mpr hwidth)

/-- An event is in its own window. -/
theorem filter_newest (hwidth : 0 ≤ width) (newest : α) :
    [newest].filter (fun old => !expired time width newest old) = [newest] := by
  rw [List.filter_cons_of_pos (by rw [expired_self hwidth]; rfl), List.filter_nil]

theorem keepAll_concat (events : List α) (newest : α) :
    keepAll time width (events ++ [newest])
      = pushTrimmingOne time width (keepAll time width events) newest := by
  unfold keepAll
  rw [List.foldl_append]
  rfl

variable [IsOrderedAddMonoid τ]

/-- What is too old for an event is too old for a later one. -/
theorem expired_of_le {newest newest' old : α} (h : time newest ≤ time newest')
    (hold : expired time width newest old = true) : expired time width newest' old = true := by
  unfold expired at hold ⊢
  rw [decide_eq_true_iff] at hold ⊢
  exact lt_of_lt_of_le hold (sub_le_sub_right h _)

/-- What of the window before is in the window of an event is what of all that
came before is in it. -/
theorem filter_window {events : List α} {newest : α}
    (h : ∀ old ∈ events, time old ≤ time newest) :
    (window time width events).filter (fun old => !expired time width newest old)
      = events.filter (fun old => !expired time width newest old) := by
  unfold window
  cases hlast : events.getLast? with
  | none =>
    rw [List.getLast?_eq_none_iff.mp hlast]
  | some last =>
    dsimp only
    rw [List.filter_filter]
    refine List.filter_congr fun old _ => ?_
    -- the window of the newest event is no larger than the one before
    have hle := h last (List.mem_of_getLast? hlast)
    cases hold : expired time width last old with
    | false => simp
    | true => simp [expired_of_le hle hold]

omit [IsOrderedAddMonoid τ] in
/-- The window after one more event, of all that came before. -/
theorem window_concat_eq_filter (hwidth : 0 ≤ width) (events : List α) (newest : α) :
    window time width (events ++ [newest])
      = events.filter (fun old => !expired time width newest old) ++ [newest] := by
  unfold window
  rw [List.getLast?_concat]
  dsimp only
  rw [List.filter_append, filter_newest hwidth]

/-- **The window after one more event**: what of the window before is in the
window of the event, and the event. -/
theorem window_concat (hwidth : 0 ≤ width) {events : List α} {newest : α}
    (h : ∀ old ∈ events, time old ≤ time newest) :
    window time width (events ++ [newest])
      = (window time width events).filter (fun old => !expired time width newest old)
        ++ [newest] := by
  rw [window_concat_eq_filter hwidth, filter_window h]

/-- Where the oldest event is not too old, none is. -/
theorem expired_of_first {first newest : α} {kept : List α}
    (hfirst : ∀ old ∈ kept, time first ≤ time old)
    (hexpired : expired time width newest first = false) :
    ∀ old ∈ first :: kept, expired time width newest old = false := by
  intro old hold
  obtain rfl | hold := List.mem_cons.mp hold
  · exact hexpired
  · unfold expired at hexpired ⊢
    rw [decide_eq_false_iff_not, gt_iff_lt, not_lt] at hexpired ⊢
    exact le_trans (sub_le_sub_left (hfirst old hold) _) hexpired

/-- In the order of their times the events that are too old are in front. -/
theorem dropWhile_expired {kept : List α} {newest : α} (horder : Chronological time kept) :
    kept.dropWhile (expired time width newest)
      = kept.filter (fun old => !expired time width newest old) := by
  induction kept with
  | nil => rfl
  | cons first kept ih =>
    obtain ⟨hfirst, hkept⟩ := List.pairwise_cons.mp horder
    cases hexpired : expired time width newest first with
    | true =>
      rw [List.dropWhile_cons_of_pos hexpired, ih hkept,
        List.filter_cons_of_neg (by rw [hexpired]; exact Bool.false_ne_true)]
    | false =>
      -- the first event that is not too old has no older one behind it
      have hnone : ∀ old ∈ first :: kept, (!expired time width newest old) = true := by
        intro old hold
        rw [expired_of_first hfirst hexpired old hold]
        rfl
      rw [List.dropWhile_cons_of_neg (by rw [hexpired]; exact Bool.false_ne_true),
        List.filter_eq_self.mpr hnone]

/-- **Letting go of all that are too old keeps the window.** -/
theorem pushTrimmingAll_window (hwidth : 0 ≤ width) {events : List α} {newest : α}
    (horder : Chronological time (events ++ [newest])) :
    pushTrimmingAll time width (window time width events) newest
      = window time width (events ++ [newest]) := by
  obtain ⟨hevents, -, hnewest⟩ := List.pairwise_append.mp horder
  unfold pushTrimmingAll
  rw [dropWhile_expired (hevents.sublist (window_sublist events)),
    window_concat hwidth fun old hold => hnewest old hold newest List.mem_cons_self]

/-- **Letting go of one event is enough exactly where** not more than one is
too old. -/
theorem pushTrimmingOne_eq_iff (hwidth : 0 ≤ width) {kept : List α} {newest : α}
    (horder : Chronological time kept) :
    pushTrimmingOne time width kept newest
        = kept.filter (fun old => !expired time width newest old) ++ [newest]
      ↔ (kept.filter (expired time width newest)).length ≤ 1 := by
  unfold pushTrimmingOne
  cases kept with
  | nil =>
    simp [expired_self hwidth]
  | cons first kept =>
    have hfirst := (List.pairwise_cons.mp horder).1
    rw [List.cons_append, List.head?_cons, Option.any_some, List.tail_cons]
    cases hexpired : expired time width newest first with
    | true =>
      rw [if_pos rfl, List.filter_cons_of_neg (by rw [hexpired]; exact Bool.false_ne_true),
        List.filter_cons_of_pos hexpired, List.length_cons, List.append_left_inj, eq_comm,
        List.filter_eq_self, Nat.succ_le_succ_iff, Nat.le_zero, List.length_eq_zero_iff,
        List.filter_eq_nil_iff]
      refine forall₂_congr fun old _ => ?_
      rw [Bool.not_eq_true', Bool.not_eq_true]
    | false =>
      have hnone := expired_of_first hfirst hexpired
      rw [if_neg Bool.false_ne_true]
      refine iff_of_true ?_ ?_
      · rw [← List.cons_append, List.append_left_inj, eq_comm, List.filter_eq_self]
        intro old hold
        rw [hnone old hold]
        rfl
      · have hempty : (first :: kept).filter (expired time width newest) = [] :=
          List.filter_eq_nil_iff.mpr fun old hold => Bool.not_eq_true _ ▸ hnone old hold
        rw [hempty]
        exact Nat.zero_le 1

/-- One more event keeps the window exactly where it finds at most one event of
it too old. -/
theorem keepAll_concat_eq_window_iff (hwidth : 0 ≤ width) {events : List α} {newest : α}
    (horder : Chronological time (events ++ [newest]))
    (hkept : keepAll time width events = window time width events) :
    keepAll time width (events ++ [newest]) = window time width (events ++ [newest])
      ↔ ((window time width events).filter (expired time width newest)).length ≤ 1 := by
  obtain ⟨hevents, -, hnewest⟩ := List.pairwise_append.mp horder
  rw [keepAll_concat, hkept,
    window_concat hwidth fun old hold => hnewest old hold newest List.mem_cons_self]
  exact pushTrimmingOne_eq_iff hwidth (hevents.sublist (window_sublist events))

/-- **What is kept is the window throughout exactly where** no event finds two
events of the window before it too old. -/
theorem keepAll_eq_window_iff (hwidth : 0 ≤ width) {events : List α}
    (horder : Chronological time events) :
    (∀ pre, pre <+: events → keepAll time width pre = window time width pre)
      ↔ ∀ pre newest, pre ++ [newest] <+: events →
        ((window time width pre).filter (expired time width newest)).length ≤ 1 := by
  constructor
  · intro h pre newest hpre
    have hkept := h pre ((List.prefix_append pre [newest]).trans hpre)
    exact (keepAll_concat_eq_window_iff hwidth (horder.sublist hpre.sublist) hkept).mp
      (h (pre ++ [newest]) hpre)
  · intro h pre
    induction pre using List.reverseRecOn with
    | nil => exact fun _ => rfl
    | append_singleton pre newest ih =>
      intro hpre
      have hkept := ih ((List.prefix_append pre [newest]).trans hpre)
      exact (keepAll_concat_eq_window_iff hwidth (horder.sublist hpre.sublist) hkept).mpr
        (h pre newest hpre)

/-! ## A component that keeps events

Each call of the component brings an event or none, and `kept` is what the
component keeps after a sequence of calls. -/

section Component

variable {γ : Type} (kept : List γ → List α) {inserted : γ → Option α}

omit [IsOrderedAddMonoid τ] in
/-- What the component keeps is the trimming of what was inserted. -/
theorem kept_eq_keepAll (hnothing : kept [] = [])
    (hcall : ∀ calls call, kept (calls ++ [call])
      = (inserted call).elim (kept calls) (pushTrimmingOne time width (kept calls)))
    (calls : List γ) : kept calls = keepAll time width (calls.filterMap inserted) := by
  induction calls using List.reverseRecOn with
  | nil => exact hnothing
  | append_singleton calls call ih =>
    rw [hcall, ih, List.filterMap_append]
    cases hinserted : inserted call with
    | none =>
      rw [List.filterMap_cons_none hinserted, List.filterMap_nil, List.append_nil]
      rfl
    | some newest =>
      rw [List.filterMap_cons_some hinserted, List.filterMap_nil, keepAll_concat]
      rfl

/-- **The component keeps the window throughout exactly where** no event that
is inserted finds two events of the window before it too old. -/
theorem kept_eq_window_iff (hwidth : 0 ≤ width) (hnothing : kept [] = [])
    (hcall : ∀ calls call, kept (calls ++ [call])
      = (inserted call).elim (kept calls) (pushTrimmingOne time width (kept calls)))
    {calls : List γ} (horder : Chronological time (calls.filterMap inserted)) :
    (∀ pre, pre <+: calls → kept pre = window time width (pre.filterMap inserted))
      ↔ ∀ pre newest, pre ++ [newest] <+: calls.filterMap inserted →
        ((window time width pre).filter (expired time width newest)).length ≤ 1 := by
  rw [← keepAll_eq_window_iff hwidth horder]
  constructor
  · intro h pre hpre
    obtain ⟨calls', hcalls', rfl⟩ := List.prefix_filterMap_iff.mp hpre
    rw [← kept_eq_keepAll kept hnothing hcall]
    exact h calls' hcalls'
  · intro h pre hpre
    rw [kept_eq_keepAll kept hnothing hcall]
    exact h _ (hpre.filterMap inserted)

end Component

end RetentionWindow

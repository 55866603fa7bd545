import CommonEventService.Lib.EndlessRun
import CommonEventService.Lib.Observation

/-!
# A queue that is served

The law of queues says of a run what has gone out and what waits. That what
waits goes out is a property of runs without an end, and needs that the queue
is served: as long as something waits, sooner or later somebody turns to it.

Who turns to a queue need not take its first thing out at once; it may have to
finish with what went out before. So the steps to come until the next thing
goes out are counted by a rank: to serve the queue makes it smaller or takes
something out, and nothing else makes it larger while something waits.

What waits then goes out, and in the order in which it came in (`goes_out`).
-/

namespace Machine

variable {σ ℓ α : Type}

namespace EndlessRun

variable {M : Machine σ ℓ} (ρ : M.EndlessRun)

/-- The labels of the steps before time `n`. -/
def labels (n : ℕ) : List ℓ := (List.range n).map ρ.label

theorem labels_succ (n : ℕ) : ρ.labels (n + 1) = ρ.labels n ++ [ρ.label n] := by
  unfold labels
  rw [List.range_succ, List.map_append, List.map_singleton]

theorem run_labels (n : ℕ) : M.run (ρ.labels n) = some (ρ.state n) := by
  induction n with
  | zero => exact congrArg some ρ.init.symm
  | succ n ih => rw [labels_succ, M.run_concat]; exact ⟨_, ih, ρ.step n⟩

theorem outputs_labels_succ (out : σ → ℓ → List α) (n : ℕ) :
    M.outputs out (ρ.labels (n + 1))
      = M.outputs out (ρ.labels n) ++ out (ρ.state n) (ρ.label n) := by
  rw [labels_succ, M.outputs_concat out (ρ.run_labels n)]

/-- What is put out later is put out after it. -/
theorem outputs_labels (out : σ → ℓ → List α) {n m : ℕ} (hle : n ≤ m) :
    ∃ between, M.outputs out (ρ.labels m) = M.outputs out (ρ.labels n) ++ between
      ∧ ∀ a ∈ between, ∃ k, n ≤ k ∧ k < m ∧ a ∈ out (ρ.state k) (ρ.label k) := by
  induction m, hle using Nat.le_induction with
  | base => exact ⟨[], by simp, List.forall_mem_nil _⟩
  | succ m hm ih =>
    obtain ⟨between, heq, hbetween⟩ := ih
    refine ⟨between ++ out (ρ.state m) (ρ.label m), ?_, fun a ha => ?_⟩
    · rw [outputs_labels_succ, heq, List.append_assoc]
    · rcases List.mem_append.mp ha with ha | ha
      · obtain ⟨k, hk, hlt, hout⟩ := hbetween a ha
        exact ⟨k, hk, Nat.lt_succ_of_lt hlt, hout⟩
      · exact ⟨m, hm, Nat.lt_succ_self m, ha⟩

theorem outputs_labels_prefix (out : σ → ℓ → List α) {n m : ℕ} (hle : n ≤ m) :
    M.outputs out (ρ.labels n) <+: M.outputs out (ρ.labels m) := by
  obtain ⟨between, heq, -⟩ := ρ.outputs_labels out hle
  exact ⟨between, heq.symm⟩

end EndlessRun

/-- **A first-in first-out queue** of a machine: it is empty at first, what
comes in at a step goes to its end and what goes out is taken from its
front. -/
structure FifoQueue (M : Machine σ ℓ) (queue : σ → List α) (comesIn goesOut : σ → ℓ → List α) :
    Prop where
  init : queue M.init = []
  step : ∀ s l t, M.step s l = some t → goesOut s l ++ queue t = queue s ++ comesIn s l

/-- **What serves a queue**, by its rank: the steps to come until the next
thing goes out. -/
structure Serves (M : Machine σ ℓ) (queue : σ → List α) (goesOut : σ → ℓ → List α)
    (rank : σ → ℕ) (serves : ℓ → Prop) : Prop where
  step : ∀ s l t, M.step s l = some t → queue s ≠ [] →
    goesOut s l ≠ [] ∨ (rank t ≤ rank s ∧ (serves l → rank t < rank s))

/-- **The debt of a scheduler**: as long as something waits, the queue is
served sooner or later. -/
def EndlessRun.IsServed {M : Machine σ ℓ} (ρ : M.EndlessRun) (queue : σ → List α)
    (serves : ℓ → Prop) : Prop :=
  ∀ n, queue (ρ.state n) ≠ [] → Later (fun m => serves (ρ.label m)) n

/-- Who serves a queue serves any other that is empty when it is. -/
theorem EndlessRun.IsServed.of_empty {β : Type} {M : Machine σ ℓ} {ρ : M.EndlessRun}
    {queue : σ → List α} {queue' : σ → List β} {serves : ℓ → Prop} (h : ρ.IsServed queue serves)
    (hempty : ∀ s, queue s = [] → queue' s = []) : ρ.IsServed queue' serves :=
  fun n hn => h n fun hnone => hn (hempty _ hnone)

/-- A queue that is emptied again and again is served, if nothing else empties
it. -/
theorem EndlessRun.isServed_of_empties {M : Machine σ ℓ} {ρ : M.EndlessRun} {queue : σ → List α}
    {serves : ℓ → Prop}
    (hstep : ∀ s l t, M.step s l = some t → ¬ serves l → queue s ≠ [] → queue t ≠ [])
    (hempties : ∀ n, Later (fun m => queue (ρ.state m) = []) n) : ρ.IsServed queue serves := by
  intro n hwaits
  refine ρ.later_of_leaves (I := fun s => queue s ≠ []) ?_ hwaits ?_
  · exact fun m _ hqueue hnot => hstep _ _ _ (ρ.step m) hnot hqueue
  · exact (hempties n).trans fun m _ hempty => .now (not_not.mpr hempty)

namespace FifoQueue

variable {M : Machine σ ℓ} {ρ : M.EndlessRun} {queue : σ → List α}
  {comesIn goesOut : σ → ℓ → List α} {rank : σ → ℕ} {serves : ℓ → Prop}

/-- The law, along an endless run. -/
theorem law (h : M.FifoQueue queue comesIn goesOut) (n : ℕ) :
    M.outputs goesOut (ρ.labels n) ++ queue (ρ.state n) = M.outputs comesIn (ρ.labels n) :=
  M.queue_law queue h.init h.step (ρ.run_labels n)

/-- Something waits as long as less has gone out than had come in. -/
theorem waits (h : M.FifoQueue queue comesIn goesOut) {n m : ℕ} (hle : n ≤ m)
    (hlt : (M.outputs goesOut (ρ.labels m)).length < (M.outputs comesIn (ρ.labels n)).length) :
    queue (ρ.state m) ≠ [] := by
  intro hempty
  have hlaw := h.law (ρ := ρ) m
  rw [hempty, List.append_nil] at hlaw
  have hin := (ρ.outputs_labels_prefix comesIn hle).length_le
  rw [← hlaw] at hin
  exact Nat.not_lt.mpr hin hlt

/-- **As long as something waits, something goes out.** -/
theorem advances (h : M.FifoQueue queue comesIn goesOut)
    (hserves : M.Serves queue goesOut rank serves) (hserved : ρ.IsServed queue serves) {n : ℕ}
    (hwaits : queue (ρ.state n) ≠ []) :
    Later (fun m => (M.outputs goesOut (ρ.labels n)).length
      < (M.outputs goesOut (ρ.labels m)).length) n := by
  have hbehind : (M.outputs goesOut (ρ.labels n)).length
      < (M.outputs comesIn (ρ.labels n)).length := by
    rw [← h.law n, List.length_append]
    exact Nat.lt_add_of_pos_right (List.length_pos_iff.mpr hwaits)
  have hmore : ∀ k, goesOut (ρ.state k) (ρ.label k) ≠ [] →
      (M.outputs goesOut (ρ.labels k)).length < (M.outputs goesOut (ρ.labels (k + 1))).length := by
    intro k hout
    rw [ρ.outputs_labels_succ, List.length_append]
    exact Nat.lt_add_of_pos_right (List.length_pos_iff.mpr hout)
  have hstep : ∀ k, n ≤ k →
      ¬ (M.outputs goesOut (ρ.labels n)).length < (M.outputs goesOut (ρ.labels k)).length →
      (M.outputs goesOut (ρ.labels n)).length < (M.outputs goesOut (ρ.labels (k + 1))).length
        ∨ (rank (ρ.state (k + 1)) ≤ rank (ρ.state k)
          ∧ (serves (ρ.label k) → rank (ρ.state (k + 1)) < rank (ρ.state k))) := by
    intro k hk hnot
    have hle := (ρ.outputs_labels_prefix goesOut hk).length_le
    have hwaits' := h.waits hk (Nat.lt_of_le_of_lt (Nat.not_lt.mp hnot) hbehind)
    rcases hserves.step _ _ _ (ρ.step k) hwaits' with hout | hrank
    · exact Or.inl (Nat.lt_of_le_of_lt hle (hmore k hout))
    · exact Or.inr hrank
  refine later_of_decreasing (fun k => rank (ρ.state k)) fun m hm hnot => ?_
  obtain ⟨j, hj, hserve⟩ := hserved m
    (h.waits hm (Nat.lt_of_le_of_lt (Nat.not_lt.mp hnot) hbehind))
  -- up to the next time the queue is served the rank does not grow
  have hkept : (M.outputs goesOut (ρ.labels n)).length < (M.outputs goesOut (ρ.labels j)).length
      ∨ rank (ρ.state j) ≤ rank (ρ.state m) := by
    clear hserve
    induction j, hj using Nat.le_induction with
    | base => exact Or.inr (Nat.le_refl _)
    | succ k hk ih =>
      by_cases hmoved : (M.outputs goesOut (ρ.labels n)).length
          < (M.outputs goesOut (ρ.labels k)).length
      · exact Or.inl (Nat.lt_of_lt_of_le hmoved
          (ρ.outputs_labels_prefix goesOut (Nat.le_succ k)).length_le)
      · rcases hstep k (Nat.le_trans hm hk) hmoved with hout | ⟨hrank, -⟩
        · exact Or.inl hout
        · exact Or.inr (Nat.le_trans hrank (ih.resolve_left hmoved))
  by_cases hmoved : (M.outputs goesOut (ρ.labels n)).length
      < (M.outputs goesOut (ρ.labels j)).length
  · exact ⟨j, hj, Or.inl hmoved⟩
  · refine ⟨j + 1, Nat.le_succ_of_le hj, ?_⟩
    rcases hstep j (Nat.le_trans hm hj) hmoved with hout | ⟨-, hrank⟩
    · exact Or.inl hout
    · exact Or.inr (Nat.lt_of_lt_of_le (hrank hserve) (hkept.resolve_left hmoved))

/-- **What has come in goes out, in order**, where the queue is served. -/
theorem goes_out (h : M.FifoQueue queue comesIn goesOut)
    (hserves : M.Serves queue goesOut rank serves) (hserved : ρ.IsServed queue serves) (n : ℕ) :
    Later (fun m => M.outputs comesIn (ρ.labels n) <+: M.outputs goesOut (ρ.labels m)) n := by
  have hcount : Later (fun m => (M.outputs comesIn (ρ.labels n)).length
      ≤ (M.outputs goesOut (ρ.labels m)).length) n := by
    refine later_of_decreasing (fun m => (M.outputs comesIn (ρ.labels n)).length
      - (M.outputs goesOut (ρ.labels m)).length) fun m hm hnot => ?_
    have hbehind := Nat.not_le.mp hnot
    obtain ⟨k, hk, hmore⟩ := h.advances hserves hserved (h.waits hm hbehind)
    exact ⟨k, hk, Or.inr (Nat.sub_lt_sub_left hbehind hmore)⟩
  refine hcount.trans fun m hm hle => .now ?_
  have hout : M.outputs goesOut (ρ.labels m) <+: M.outputs comesIn (ρ.labels m) :=
    ⟨_, h.law m⟩
  exact List.prefix_of_prefix_length_le (ρ.outputs_labels_prefix comesIn hm) hout hle

/-- What comes in at a step goes out at a step from then on. -/
theorem goes_out_later (h : M.FifoQueue queue comesIn goesOut)
    (hserves : M.Serves queue goesOut rank serves) (hserved : ρ.IsServed queue serves) {n : ℕ}
    {a : α} (ha : a ∈ comesIn (ρ.state n) (ρ.label n)) :
    Later (fun m => a ∈ goesOut (ρ.state m) (ρ.label m)) n := by
  obtain ⟨m, hm, hgone⟩ := h.goes_out hserves hserved (n + 1)
  obtain ⟨between, heq, hbetween⟩ := ρ.outputs_labels goesOut (Nat.le_of_succ_le hm)
  -- what had gone out before is a part of what had come in
  rw [ρ.outputs_labels_succ, ← h.law n, List.append_assoc, heq,
    List.prefix_append_right_inj] at hgone
  obtain ⟨k, hk, -, hout⟩ := hbetween a (hgone.subset (List.mem_append_right _ ha))
  exact ⟨k, hk, hout⟩

end FifoQueue

end Machine

import CommonEventService.Lib.Machine
import Mathlib.Data.List.GetD
import Mathlib.Data.Nat.Find

/-!
# Runs without an end

What a machine does *sooner or later* is a property of runs that never end:
of a finite run one can only say that the rest has not happened yet. Nothing
says that a run is fair; what it owes to its parties is a hypothesis, stated
for the machine at hand, and the rules here turn such debts into progress.

A few rules are used. What every step keeps *until* something happens is
there when it happens (`until_first`); what lies later than later lies later
(`Later.trans`); and where a number can be made smaller as long as the goal
is not reached, the goal is reached (`later_of_decreasing`, and `later_zero`
and `later_spent` where the goal is that nothing is left).
-/

namespace Machine

variable {σ ℓ : Type}

/-- **A run without an end**: the states it goes through, and the labels of
its steps. -/
structure EndlessRun (M : Machine σ ℓ) where
  state : ℕ → σ
  label : ℕ → ℓ
  init : state 0 = M.init
  step : ∀ n, M.step (state n) (label n) = some (state (n + 1))

/-- At time `n` or later. -/
def Later (Q : ℕ → Prop) (n : ℕ) : Prop := ∃ m, n ≤ m ∧ Q m

namespace Later

variable {Q R : ℕ → Prop} {n m : ℕ}

theorem now (h : Q n) : Later Q n := ⟨n, Nat.le_refl n, h⟩

/-- What lies later than `m` lies later than all before it. -/
theorem of_le (hle : n ≤ m) (h : Later Q m) : Later Q n := by
  obtain ⟨k, hk, hQ⟩ := h
  exact ⟨k, Nat.le_trans hle hk, hQ⟩

theorem trans (h : Later Q n) (hnext : ∀ m, n ≤ m → Q m → Later R m) : Later R n := by
  obtain ⟨m, hm, hQ⟩ := h
  exact (hnext m hm hQ).of_le hm

/-- **The first time** something happens. -/
theorem first (h : Later Q n) : ∃ m, n ≤ m ∧ Q m ∧ ∀ k, n ≤ k → k < m → ¬ Q k := by
  classical
  refine ⟨Nat.find h, (Nat.find_spec h).1, (Nat.find_spec h).2, fun k hk hlt hQ => ?_⟩
  exact Nat.find_min h hlt ⟨hk, hQ⟩

end Later

/-- **Progress by a measure**: where, as long as the goal is not reached, it
is reached later or the measure is smaller later, the goal is reached. -/
theorem later_of_decreasing {Q : ℕ → Prop} {n : ℕ} (μ : ℕ → ℕ)
    (h : ∀ m, n ≤ m → ¬ Q m → Later (fun k => Q k ∨ μ k < μ m) m) : Later Q n := by
  obtain ⟨x, hx⟩ : ∃ x, μ n = x := ⟨_, rfl⟩
  induction x using Nat.strong_induction_on generalizing n with
  | _ x ih =>
    by_cases hQ : Q n
    · exact .now hQ
    · refine (h n (Nat.le_refl n) hQ).trans fun m hm hor => ?_
      rcases hor with hQ | hlt
      · exact .now hQ
      · exact ih (μ m) (hx ▸ hlt) (fun k hk => h k (Nat.le_trans hm hk)) rfl

namespace EndlessRun

variable {M : Machine σ ℓ} (ρ : M.EndlessRun)

/-- Every state an endless run goes through is reachable. -/
theorem reachable (n : ℕ) : M.Reachable (ρ.state n) := by
  induction n with
  | zero => exact ⟨[], by rw [run_nil, ρ.init]⟩
  | succ n ih => exact ih.step (ρ.step n)

/-- **What every step keeps stays.** -/
theorem stays {I : σ → Prop} {n : ℕ}
    (hstep : ∀ m, n ≤ m → I (ρ.state m) → I (ρ.state (m + 1))) (h : I (ρ.state n)) :
    ∀ m, n ≤ m → I (ρ.state m) := by
  intro m hm
  induction m, hm using Nat.le_induction with
  | base => exact h
  | succ m hm ih => exact hstep m hm ih

/-- What stays until something happens, and does not stay for ever, shows that
it happens. -/
theorem later_of_leaves {I : σ → Prop} {Q : ℕ → Prop} {n : ℕ}
    (hstep : ∀ m, n ≤ m → I (ρ.state m) → ¬ Q m → I (ρ.state (m + 1)))
    (h : I (ρ.state n)) (hleaves : Later (fun m => ¬ I (ρ.state m)) n) : Later Q n := by
  by_contra hnever
  obtain ⟨m, hm, hnot⟩ := hleaves
  exact hnot (ρ.stays (fun k hk hI => hstep k hk hI fun hQ => hnever ⟨k, hk, hQ⟩) h m hm)

/-- **What is worked off again and again is done with**, where nothing is
added. -/
theorem later_zero (μ : σ → ℕ) {P : ℕ → Prop} {n : ℕ}
    (hstep : ∀ m, n ≤ m → μ (ρ.state (m + 1)) ≤ μ (ρ.state m))
    (hworks : ∀ m, n ≤ m → P m → μ (ρ.state m) ≠ 0 → μ (ρ.state (m + 1)) < μ (ρ.state m))
    (hlater : ∀ m, n ≤ m → μ (ρ.state m) ≠ 0 → Later P m) :
    Later (fun m => μ (ρ.state m) = 0) n := by
  refine later_of_decreasing (fun m => μ (ρ.state m)) fun m hm hleft => ?_
  have hbound : ∀ k, m ≤ k → μ (ρ.state k) ≤ μ (ρ.state m) := fun k hk =>
    ρ.stays (I := fun s => μ s ≤ μ (ρ.state m))
      (fun j hj hle => Nat.le_trans (hstep j (Nat.le_trans hm hj)) hle) (Nat.le_refl _) k hk
  obtain ⟨k, hk, hP⟩ := hlater m hm hleft
  by_cases hdone : μ (ρ.state k) = 0
  · exact ⟨k, hk, Or.inl hdone⟩
  · exact ⟨k + 1, Nat.le_succ_of_le hk,
      Or.inr (Nat.lt_of_lt_of_le (hworks k (Nat.le_trans hm hk) hP hdone) (hbound k hk))⟩

/-- **What is spent, one at a time, is spent in the end**, and stays so. -/
theorem later_spent (μ : σ → ℕ) (spends : ℓ → Bool) {n : ℕ}
    (hstep : ∀ m, n ≤ m → μ (ρ.state (m + 1)) + (spends (ρ.label m)).toNat = μ (ρ.state m))
    (hlater : ∀ m, n ≤ m → μ (ρ.state m) ≠ 0 → Later (fun k => spends (ρ.label k) = true) m) :
    Later (fun m => ∀ k, m ≤ k → μ (ρ.state k) = 0) n := by
  refine (ρ.later_zero μ (fun m hm => ?_) (fun m hm hspends _ => ?_) hlater).trans
    fun m hm hzero => .now ?_
  · exact Nat.le.intro (hstep m hm)
  · have heq := hstep m hm
    rw [hspends] at heq
    exact Nat.lt_of_succ_le (Nat.le_of_eq heq)
  · refine ρ.stays (I := fun s => μ s = 0) (fun k hk hnone => ?_) hzero
    have heq := hstep k (Nat.le_trans hm hk)
    rw [hnone] at heq
    exact Nat.eq_zero_of_add_eq_zero_right heq

/-- **What every step keeps until something happens is there when it
happens.** -/
theorem until_first {I : σ → Prop} {Q : ℕ → Prop} {n : ℕ}
    (hstep : ∀ m, n ≤ m → I (ρ.state m) → ¬ Q m → I (ρ.state (m + 1)))
    (h : I (ρ.state n)) (hQ : Later Q n) : Later (fun m => Q m ∧ I (ρ.state m)) n := by
  obtain ⟨m, hm, hQm, hbefore⟩ := hQ.first
  refine ⟨m, hm, hQm, ?_⟩
  have hkeep : ∀ k, n ≤ k → k ≤ m → I (ρ.state k) := by
    intro k hk
    induction k, hk using Nat.le_induction with
    | base => exact fun _ => h
    | succ k hk ih =>
      exact fun hlt => hstep k hk (ih (Nat.le_of_succ_le hlt)) (hbefore k hk hlt)
  exact hkeep m hm (Nat.le_refl m)

/-- **A run that comes to rest**: where a label leaves a state as it is, the
run to that state goes on for ever with it. -/
def ofRest (M : Machine σ ℓ) (ls : List ℓ) (l : ℓ) {s : σ} (hs : M.run ls = some s)
    (hl : M.step s l = some s) : M.EndlessRun where
  state n := (M.run (ls.take n)).getD s
  label n := ls.getD n l
  init := rfl
  step n := by
    by_cases hn : n < ls.length
    · -- the run is not over
      have htake : ls.take (n + 1) = ls.take n ++ [ls[n]] := by
        rw [List.take_add_one, List.getElem?_eq_getElem hn]
        rfl
      have hrun := hs
      rw [← List.take_append_drop (n + 1) ls, run_append] at hrun
      obtain ⟨u, hu, -⟩ := Option.bind_eq_some_iff.mp hrun
      have hstep := hu
      rw [htake] at hstep
      obtain ⟨v, hv, hvu⟩ := M.run_concat.mp hstep
      rw [hv, hu, List.getD_eq_getElem _ _ hn]
      exact hvu
    · have hge := Nat.le_of_not_lt hn
      rw [List.take_of_length_le hge, List.take_of_length_le (Nat.le_succ_of_le hge), hs,
        List.getD_eq_default _ _ hge]
      exact hl

/-- At its end such a run is at rest. -/
theorem state_ofRest {ls : List ℓ} {l : ℓ} {s : σ} (hs : M.run ls = some s)
    (hl : M.step s l = some s) {n : ℕ} (hn : ls.length ≤ n) :
    (ofRest M ls l hs hl).state n = s := by
  show (M.run (ls.take n)).getD s = s
  rw [List.take_of_length_le hn, hs]
  rfl

/-- Up to there it is the run that was given. -/
theorem run_take_ofRest {ls : List ℓ} {l : ℓ} {s : σ} (hs : M.run ls = some s)
    (hl : M.step s l = some s) (n : ℕ) :
    M.run (ls.take n) = some ((ofRest M ls l hs hl).state n) := by
  have hrun := hs
  rw [← List.take_append_drop n ls, run_append] at hrun
  obtain ⟨u, hu, -⟩ := Option.bind_eq_some_iff.mp hrun
  show M.run (ls.take n) = some ((M.run (ls.take n)).getD s)
  rw [hu, Option.getD_some]

/-- **What every step is up to the first at rest**, every step is. -/
theorem all_ofRest {ls : List ℓ} {l : ℓ} {s : σ} (hs : M.run ls = some s)
    (hl : M.step s l = some s) (p : σ → ℓ → Bool)
    (h : ∀ n < ls.length + 1, (M.run (ls.take n)).all (fun u => p u (ls.getD n l)) = true)
    (n : ℕ) : p ((ofRest M ls l hs hl).state n) ((ofRest M ls l hs hl).label n) = true := by
  have hlabel : ∀ k, (ofRest M ls l hs hl).label k = ls.getD k l := fun _ => rfl
  have hrun : ∀ k ≤ ls.length,
      p ((ofRest M ls l hs hl).state k) ((ofRest M ls l hs hl).label k) = true := by
    intro k hk
    have hp := h k (Nat.lt_succ_of_le hk)
    rw [run_take_ofRest hs hl, Option.all_some] at hp
    exact hp
  rcases Nat.le_total n ls.length with hn | hn
  · exact hrun n hn
  · -- all steps at rest are the same
    have hrest := hrun ls.length (Nat.le_refl _)
    rw [state_ofRest hs hl (Nat.le_refl _), hlabel, List.getD_eq_default _ _ (Nat.le_refl _)]
      at hrest
    rw [state_ofRest hs hl hn, hlabel, List.getD_eq_default _ _ hn]
    exact hrest

end EndlessRun

end Machine

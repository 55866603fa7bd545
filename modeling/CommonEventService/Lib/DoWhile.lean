import Mathlib.Data.Nat.Notation

/-!
# The do-while loop

A loop whose test follows its body is a function that either asks for
another pass, with a new loop state, or leaves with a result. Running it
takes fuel; a measure that every further pass makes smaller says how much is
enough, and an invariant of the passes says what the result is like. What the
passes do on the side is read off the list of the states they start from.
-/

variable {σ ρ : Type}

/-- **A do-while loop**, run for at most `n` passes: `none` is a loop that
was still asking for another pass when the fuel ran out. -/
def doWhile (f : σ → σ ⊕ ρ) : ℕ → σ → Option ρ
  | 0, _ => none
  | n + 1, s =>
    match f s with
    | .inl t => doWhile f n t
    | .inr r => some r

namespace DoWhile

/-- The loop states that the passes of a loop start from. -/
def passes (f : σ → σ ⊕ ρ) : ℕ → σ → List σ
  | 0, _ => []
  | n + 1, s =>
    s :: match f s with
      | .inl t => passes f n t
      | .inr _ => []

variable {f : σ → σ ⊕ ρ}

/-- **The measure rule**: a loop whose every further pass makes a measure
smaller leaves, with fuel for one more pass than the measure. -/
theorem doWhile_terminates (μ : σ → ℕ) (hμ : ∀ s t, f s = .inl t → μ t < μ s)
    {n : ℕ} {s : σ} (hn : μ s < n) : ∃ r, doWhile f n s = some r := by
  induction n generalizing s with
  | zero => exact absurd hn (Nat.not_lt_zero _)
  | succ n ih =>
    rw [doWhile]
    cases hb : f s with
    | inl t => exact ih (Nat.lt_of_lt_of_le (hμ s t hb) (Nat.le_of_lt_succ hn))
    | inr r => exact ⟨r, rfl⟩

/-- **The invariant rule**: what holds before the loop, and is kept by every
further pass, holds before the pass that leaves. -/
theorem doWhile_rule (I : σ → Prop) (Q : ρ → Prop)
    (hpass : ∀ s t, I s → f s = .inl t → I t)
    (hexit : ∀ s r, I s → f s = .inr r → Q r) {n : ℕ} {s : σ} {r : ρ}
    (hs : I s) (h : doWhile f n s = some r) : Q r := by
  induction n generalizing s with
  | zero => exact absurd h (by simp [doWhile])
  | succ n ih =>
    rw [doWhile] at h
    cases hb : f s with
    | inl t =>
      rw [hb] at h
      exact ih (hpass s t hs hb) h
    | inr r' =>
      rw [hb] at h
      obtain rfl : r' = r := Option.some.inj h
      exact hexit s r' hs hb

/-- **The invariant rule, of every pass**: what holds before the loop, and is
kept by every further pass, holds where each pass starts. -/
theorem passes_rule (I : σ → Prop) (hpass : ∀ s t, I s → f s = .inl t → I t) {n : ℕ} {s : σ}
    (hs : I s) : ∀ x ∈ passes f n s, I x := by
  induction n generalizing s with
  | zero => exact fun x hx => absurd hx List.not_mem_nil
  | succ n ih =>
    intro x hx
    rw [passes] at hx
    rcases List.mem_cons.mp hx with rfl | hx
    · exact hs
    · cases hb : f s with
      | inl t =>
        rw [hb] at hx
        exact ih (hpass s t hs hb) x hx
      | inr r =>
        rw [hb] at hx
        exact absurd hx List.not_mem_nil

end DoWhile

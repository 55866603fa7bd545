import Mathlib.Data.List.Basic

/-!
# Loops over a container

A range-based `for` takes the two ends of a container once and moves an iterator
from one to the other. The container may be part of the state that the body of
the loop changes. While the body leaves the container as it is, the loop is a
fold over what was there at the start; a body that modifies the container leaves
the loop with iterators that are invalid, and nothing is known of what it does
with them.
-/

variable {σ α : Type} [DecidableEq α]

/-- **What a loop has done**: the state it leaves, and the elements it ran its
body for. -/
structure RangeForRun (σ α : Type) where
  state : σ
  passes : List α

/-- A loop with `rest` still to come; `none` is a loop that goes on with an
iterator that is invalid. -/
def rangeForFrom (container : σ → List α) (body : σ → α → σ) :
    List α → RangeForRun σ α → Option (RangeForRun σ α)
  | [], run => some run
  | a :: rest, run =>
    let s := body run.state a
    if container s = container run.state then
      rangeForFrom container body rest ⟨s, run.passes ++ [a]⟩
    else none

/-- **A range-based `for` loop** over a container in the state. -/
def rangeFor (container : σ → List α) (body : σ → α → σ) (s : σ) :
    Option (RangeForRun σ α) :=
  rangeForFrom container body (container s) ⟨s, []⟩

namespace RangeFor

variable {container : σ → List α} {body : σ → α → σ}

theorem rangeForFrom_eq_some_iff {rest : List α} {run run' : RangeForRun σ α} :
    rangeForFrom container body rest run = some run'
      ↔ (∀ pre a post, rest = pre ++ a :: post →
          container (body (pre.foldl body run.state) a) = container (pre.foldl body run.state))
        ∧ run' = ⟨rest.foldl body run.state, run.passes ++ rest⟩ := by
  induction rest generalizing run with
  | nil =>
    rw [rangeForFrom, Option.some_inj, List.foldl_nil, List.append_nil]
    refine ⟨fun h => ⟨fun pre a post hpre => absurd hpre.symm (by simp), h.symm⟩, ?_⟩
    rintro ⟨-, rfl⟩
    rfl
  | cons first rest ih =>
    rw [rangeForFrom]
    split
    next hfirst =>
      rw [ih, List.append_assoc, List.singleton_append, List.foldl_cons]
      refine and_congr_left fun _ => ⟨fun h pre a post hpre => ?_, fun h pre a post hpre => ?_⟩
      · cases pre with
        | nil =>
          obtain ⟨rfl, -⟩ := List.cons.inj hpre
          exact hfirst
        | cons b pre =>
          obtain ⟨rfl, hrest⟩ := List.cons.inj hpre
          exact h pre a post hrest
      · exact h (first :: pre) a post (by rw [hpre, List.cons_append])
    next hfirst =>
      exact iff_of_false (by simp) fun h => hfirst (h.1 [] first rest rfl)

/-- **A loop comes to its end exactly where** no pass modifies the container,
and then it has run once for each element that was there, in their order. -/
theorem rangeFor_eq_some_iff {s : σ} {run : RangeForRun σ α} :
    rangeFor container body s = some run
      ↔ (∀ pre a post, container s = pre ++ a :: post →
          container (body (pre.foldl body s) a) = container (pre.foldl body s))
        ∧ run = ⟨(container s).foldl body s, container s⟩ :=
  rangeForFrom_eq_some_iff

/-- A body that keeps to an invariant under which it leaves the container. -/
theorem rangeFor_of_invariant (I : σ → Prop) {s : σ} (hs : I s)
    (hbody : ∀ s a, I s → I (body s a) ∧ container (body s a) = container s) :
    rangeFor container body s = some ⟨(container s).foldl body s, container s⟩ := by
  refine rangeFor_eq_some_iff.mpr ⟨fun pre a post _ => ?_, rfl⟩
  have hpre : I (pre.foldl body s) :=
    List.foldlRecOn pre body hs fun t ht a _ => (hbody t a ht).1
  exact (hbody _ a hpre).2

/-- A loop over nothing. -/
theorem rangeFor_of_empty {s : σ} (hs : container s = []) :
    rangeFor container body s = some ⟨s, []⟩ := by
  unfold rangeFor
  rw [hs, rangeForFrom]

/-- A loop whose first pass modifies the container does not come to its end. -/
theorem rangeFor_eq_none {s : σ} {a : α} {rest : List α} (hs : container s = a :: rest)
    (hbody : container (body s a) ≠ container s) : rangeFor container body s = none := by
  unfold rangeFor
  rw [hs, rangeForFrom]
  exact if_neg hbody

end RangeFor

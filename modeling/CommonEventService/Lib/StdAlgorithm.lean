import Mathlib.Data.List.Sort
import Mathlib.Order.Basic

/-!
# Standard algorithms

What a program may rely on when it calls its standard library: a sort returns
*some* sorted permutation – which one, among elements that compare equal, is
left open – and a set difference of two sorted ranges walks the two of them
in step and drops, for each element of the second range, one equal element of
the first.
-/

/-- **A sort that need not be stable**: for every comparison a sorted
permutation, when the comparison is a strict weak order. -/
structure StdSort where
  /-- The sorted range. -/
  sort : {α : Type} → (α → α → Bool) → List α → List α
  /-- Nothing is lost and nothing is added. -/
  perm : ∀ {α : Type} (less : α → α → Bool) (l : List α), (sort less l).Perm l
  /-- No element compares less than one before it. -/
  sorted : ∀ {α : Type} (less : α → α → Bool) (l : List α),
    (∀ a, less a a = false) →
    (∀ a b c, less b a = false → less c b = false → less c a = false) →
    (∀ a b, less a b = true → less b a = false) →
    (sort less l).Pairwise (fun a b => less b a = false)

namespace StdSort

/-- Insertion sort is such a sort. -/
def insertion : StdSort where
  sort less l := l.insertionSort (fun a b => less b a = false)
  perm less l := List.perm_insertionSort _ l
  sorted less l _ htrans hasymm := by
    have : Std.Total (fun a b => less b a = false) := by
      refine ⟨fun a b => ?_⟩
      cases h : less b a with
      | false => exact Or.inl rfl
      | true => exact Or.inr (hasymm b a h)
    have : IsTrans _ (fun a b => less b a = false) := ⟨fun a b c => htrans a b c⟩
    exact List.pairwise_insertionSort _ l

variable (S : StdSort) {α : Type}

@[simp] theorem mem_sort {less : α → α → Bool} {l : List α} {a : α} :
    a ∈ S.sort less l ↔ a ∈ l := (S.perm less l).mem_iff

@[simp] theorem length_sort {less : α → α → Bool} {l : List α} :
    (S.sort less l).length = l.length := (S.perm less l).length_eq

@[simp] theorem count_sort [DecidableEq α] {less : α → α → Bool} {l : List α} {a : α} :
    (S.sort less l).count a = l.count a := (S.perm less l).count_eq a

/-- Sorting by a linear order gives an ascending list. -/
theorem sort_pairwise_le [LinearOrder α] (l : List α) :
    (S.sort (fun a b => decide (a < b)) l).Pairwise (· ≤ ·) := by
  refine (S.sorted _ l ?_ ?_ ?_).imp fun {a b} h => ?_
  · simp
  · intro a b c hab hbc
    simp only [decide_eq_false_iff_not, not_lt] at *
    exact hab.trans hbc
  · intro a b hab
    simp only [decide_eq_true_eq, decide_eq_false_iff_not, not_lt] at *
    exact hab.le
  · simpa using h

/-- Sorting by a key, greatest first, gives keys in non-increasing order. -/
theorem sort_pairwise_key {β : Type} [LinearOrder β] (key : α → β) (l : List α) :
    (S.sort (fun a b => decide (key a > key b)) l).Pairwise
      (fun a b => key b ≤ key a) := by
  refine (S.sorted _ l ?_ ?_ ?_).imp fun {a b} h => ?_
  · simp
  · intro a b c hab hbc
    simp only [decide_eq_false_iff_not, not_lt] at *
    exact hbc.trans hab
  · intro a b hab
    simp only [decide_eq_true_eq, decide_eq_false_iff_not, not_lt] at *
    exact hab.le
  · simpa using h

end StdSort

/-! ## The difference of two sorted ranges -/

section SetDifference

variable {α : Type} [LinearOrder α]

/-- The walk through the second range for one element `a` of the first;
`rest` is the difference of what follows `a`. -/
def setDifferenceFrom (a : α) (as : List α) (rest : List α → List α) :
    List α → List α
  | [] => a :: as
  | b :: bs =>
    if a < b then a :: rest (b :: bs)
    else if b < a then setDifferenceFrom a as rest bs
    else rest bs

/-- **The difference of two sorted ranges**, element by element. -/
def setDifference : List α → List α → List α
  | [], _ => []
  | a :: as, bs => setDifferenceFrom a as (setDifference as) bs

/-- **Multiset difference**: between ascending ranges, an element occurs in
the difference as often as it occurs in the first range more than in the
second. -/
theorem count_setDifference {as bs : List α} (has : as.Pairwise (· ≤ ·))
    (hbs : bs.Pairwise (· ≤ ·)) (x : α) :
    (setDifference as bs).count x = as.count x - bs.count x := by
  induction as generalizing bs with
  | nil => simp [setDifference]
  | cons a as iha =>
    obtain ⟨ha, has'⟩ := List.pairwise_cons.mp has
    rw [setDifference]
    induction bs with
    | nil => simp [setDifferenceFrom]
    | cons b bs ihb =>
      obtain ⟨hb, hbs'⟩ := List.pairwise_cons.mp hbs
      rw [setDifferenceFrom]
      rcases lt_trichotomy a b with hab | rfl | hab
      · -- `a` is below all of the second range
        rw [if_pos hab, List.count_cons (l := setDifference as (b :: bs)),
          iha has' hbs, List.count_cons (l := as)]
        by_cases hxa : x = a
        · have hx : (b :: bs).count x = 0 := by
            refine List.count_eq_zero.mpr fun hmem => ?_
            subst hxa
            rcases List.mem_cons.mp hmem with rfl | hmem
            · exact lt_irrefl _ hab
            · exact absurd (hb x hmem) (not_le.mpr hab)
          rw [hx]
          simp
        · have hax : (a == x) = false := by simpa using fun h => hxa h.symm
          simp [hax]
      · rw [if_neg (lt_irrefl a), if_neg (lt_irrefl a), iha has' hbs',
          List.count_cons, List.count_cons]
        omega
      · -- `b` is below all of the first range
        rw [if_neg hab.asymm, if_pos hab, ihb hbs', List.count_cons (l := bs)]
        by_cases hxb : x = b
        · have hx : (a :: as).count x = 0 := by
            refine List.count_eq_zero.mpr fun hmem => ?_
            subst hxb
            rcases List.mem_cons.mp hmem with rfl | hmem
            · exact lt_irrefl _ hab
            · exact absurd (ha x hmem) (not_le.mpr hab)
          rw [hx]
          simp
        · have hbx : (b == x) = false := by simpa using fun h => hxb h.symm
          simp [hbx]

end SetDifference

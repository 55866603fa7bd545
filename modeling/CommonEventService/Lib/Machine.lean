import Mathlib.Data.List.Infix

/-!
# Machines and their runs

A concurrent program is read here as a **machine**: a state, and a partial
step function that a label drives. The label carries everything the program
does not decide – which thread moves, what a remote call answers, what a
caller asks for – so a run is a list of labels, and quantifying over runs is
quantifying over lists.

Two rules are all the later developments use. `Machine.invariant` is
induction over the steps of a run. `Machine.guarded_invariant` is the same
for runs whose every step meets a condition on the state it leaves; and where
that condition is *exact*, in that a step from a good state ends in a good
state only under it, `Machine.forall_prefix_iff_guarded` says that the runs
that stay good are the guarded ones and no others.
-/

/-- **A machine driven by labels.** -/
structure Machine (σ ℓ : Type) where
  /-- The state every run starts from. -/
  init : σ
  /-- The step a label makes, where it makes one. -/
  step : σ → ℓ → Option σ

namespace Machine

variable {σ ℓ : Type} (M : Machine σ ℓ)

/-- The state a list of labels leads to from `s`. -/
def runFrom : σ → List ℓ → Option σ
  | s, [] => some s
  | s, l :: ls => (M.step s l).bind (fun t => runFrom t ls)

/-- The state a run leads to. -/
def run (ls : List ℓ) : Option σ := M.runFrom M.init ls

/-- **A state some run leads to.** -/
def Reachable (s : σ) : Prop := ∃ ls, M.run ls = some s

/-- **A guarded run**: every step it makes meets `ok` in the state the step
leaves. -/
def Guarded (ok : σ → ℓ → Prop) (ls : List ℓ) : Prop :=
  ∀ pre l post, ls = pre ++ l :: post → ∀ s, M.run pre = some s → ok s l

@[simp] theorem runFrom_nil (s : σ) : M.runFrom s [] = some s := rfl

@[simp] theorem runFrom_cons (s : σ) (l : ℓ) (ls : List ℓ) :
    M.runFrom s (l :: ls) = (M.step s l).bind (fun t => M.runFrom t ls) := rfl

@[simp] theorem run_nil : M.run [] = some M.init := rfl

/-- A run in two parts is the second part from where the first leads. -/
theorem runFrom_append (s : σ) (ls₁ ls₂ : List ℓ) :
    M.runFrom s (ls₁ ++ ls₂)
      = (M.runFrom s ls₁).bind (fun t => M.runFrom t ls₂) := by
  induction ls₁ generalizing s with
  | nil => rfl
  | cons l ls ih =>
    simp only [List.cons_append, runFrom_cons]
    cases M.step s l with
    | none => rfl
    | some t => exact ih t

theorem run_append (ls₁ ls₂ : List ℓ) :
    M.run (ls₁ ++ ls₂) = (M.run ls₁).bind (fun t => M.runFrom t ls₂) :=
  M.runFrom_append M.init ls₁ ls₂

/-- **The last step of a run.** -/
theorem run_concat {ls : List ℓ} {l : ℓ} {t : σ} :
    M.run (ls ++ [l]) = some t ↔ ∃ s, M.run ls = some s ∧ M.step s l = some t := by
  rw [run_append]
  cases M.run ls with
  | none => simp
  | some s => cases h : M.step s l <;> simp [h]

/-- Where every label makes a step, every list of labels is a run. -/
theorem run_total (htotal : ∀ s l, ∃ t, M.step s l = some t) (ls : List ℓ) :
    ∃ s, M.run ls = some s := by
  induction ls using List.reverseRecOn with
  | nil => exact ⟨M.init, rfl⟩
  | append_singleton ls l ih =>
    obtain ⟨s, hs⟩ := ih
    obtain ⟨t, ht⟩ := htotal s l
    exact ⟨t, (M.run_concat).mpr ⟨s, hs, ht⟩⟩

variable {M}

theorem Reachable.init : M.Reachable M.init := ⟨[], rfl⟩

theorem Reachable.step {s t : σ} {l : ℓ} (hs : M.Reachable s)
    (h : M.step s l = some t) : M.Reachable t := by
  obtain ⟨ls, hls⟩ := hs
  exact ⟨ls ++ [l], (M.run_concat).mpr ⟨s, hls, h⟩⟩

/-- **Induction over a run, last step first**: `R` may speak of the whole
list of labels that led to the state. -/
theorem run_induction {R : List ℓ → σ → Prop} (hinit : R [] M.init)
    (hstep : ∀ ls l s t, M.run ls = some s → R ls s → M.step s l = some t →
      R (ls ++ [l]) t) :
    ∀ {ls : List ℓ} {s : σ}, M.run ls = some s → R ls s := by
  intro ls
  induction ls using List.reverseRecOn with
  | nil =>
    intro s h
    cases h
    exact hinit
  | append_singleton ls l ih =>
    intro t h
    obtain ⟨s, hs, hst⟩ := (M.run_concat).mp h
    exact hstep ls l s t hs (ih hs) hst

/-- **What every step preserves, every run preserves.** -/
theorem invariant {I : σ → Prop} (hinit : I M.init)
    (hstep : ∀ s l t, I s → M.step s l = some t → I t) {s : σ}
    (hs : M.Reachable s) : I s := by
  obtain ⟨ls, hls⟩ := hs
  exact run_induction (R := fun _ s => I s) hinit
    (fun _ l s t _ hI h => hstep s l t hI h) hls

/-- **What the steps of some labels preserve stays through a list of such
labels**: once it holds, it holds from then on. -/
theorem runFrom_invariant {I : σ → Prop} {ok : ℓ → Prop}
    (hstep : ∀ s l t, I s → ok l → M.step s l = some t → I t) {ls : List ℓ} {s t : σ}
    (hs : I s) (hok : ∀ l ∈ ls, ok l) (hrun : M.runFrom s ls = some t) : I t := by
  induction ls generalizing s with
  | nil =>
    cases hrun
    exact hs
  | cons l ls ih =>
    rw [runFrom_cons] at hrun
    obtain ⟨u, hu, hrun⟩ := Option.bind_eq_some_iff.mp hrun
    rw [List.forall_mem_cons] at hok
    exact ih (hstep s l u hs hok.1 hu) hok.2 hrun

/-- A part of a guarded run is guarded. -/
theorem Guarded.of_append {ok : σ → ℓ → Prop} {ls₁ ls₂ : List ℓ}
    (h : M.Guarded ok (ls₁ ++ ls₂)) : M.Guarded ok ls₁ := by
  intro pre l post hls s hs
  exact h pre l (post ++ ls₂) (by rw [hls]; simp) s hs

theorem guarded_nil {ok : σ → ℓ → Prop} : M.Guarded ok [] := by
  intro pre l post h
  exact absurd h.symm (by simp)

/-- One more step keeps a run guarded exactly when it meets the guard. -/
theorem guarded_concat {ok : σ → ℓ → Prop} {ls : List ℓ} {l : ℓ} {s : σ}
    (hs : M.run ls = some s) :
    M.Guarded ok (ls ++ [l]) ↔ M.Guarded ok ls ∧ ok s l := by
  constructor
  · intro h
    exact ⟨h.of_append, h ls l [] rfl s hs⟩
  · rintro ⟨h, hl⟩ pre l' post hls s' hs'
    rcases List.eq_nil_or_concat post with rfl | ⟨post, x, rfl⟩
    · -- the step is the last one
      obtain ⟨rfl, hl'⟩ := List.append_inj' hls rfl
      cases hl'
      rw [hs] at hs'
      cases hs'
      exact hl
    · refine h pre l' post ?_ s' hs'
      have hcat : ls ++ [l] = (pre ++ l' :: post) ++ [x] := by rw [hls]; simp
      exact (List.append_inj' hcat rfl).1

/-- **What every guarded step preserves, every guarded run preserves.** -/
theorem guarded_invariant {I : σ → Prop} {ok : σ → ℓ → Prop} (hinit : I M.init)
    (hstep : ∀ s l t, I s → ok s l → M.step s l = some t → I t)
    {ls : List ℓ} {s : σ} (hg : M.Guarded ok ls) (hs : M.run ls = some s) : I s := by
  refine run_induction (M := M) (R := fun ls s => M.Guarded ok ls → I s)
    (fun _ => hinit) ?_ hs hg
  intro ls l s t hs ih hst hg
  obtain ⟨hg', hl⟩ := (guarded_concat hs).mp hg
  exact hstep s l t (ih hg') hl hst

/-- **An exact guard.** Where a step from a good state leads to a good state
exactly when it meets `ok`, the runs every state of which is good are the
guarded runs. -/
theorem forall_prefix_iff_guarded {I : σ → Prop} {ok : σ → ℓ → Prop}
    (hinit : I M.init)
    (hstep : ∀ s l t, M.Reachable s → I s → M.step s l = some t → (I t ↔ ok s l))
    {ls : List ℓ} {s : σ} (hs : M.run ls = some s) :
    (∀ pre post t, ls = pre ++ post → M.run pre = some t → I t) ↔ M.Guarded ok ls := by
  refine run_induction (M := M)
    (R := fun ls _ => (∀ pre post t, ls = pre ++ post → M.run pre = some t → I t)
      ↔ M.Guarded ok ls) ?_ ?_ hs
  · refine ⟨fun _ => guarded_nil, fun _ pre post t hpre ht => ?_⟩
    obtain ⟨rfl, rfl⟩ := List.append_eq_nil_iff.mp hpre.symm
    cases ht
    exact hinit
  · intro ls l s t hs ih hst
    rw [guarded_concat hs, ← ih]
    constructor
    · intro h
      have hI : I s := h ls [l] s rfl hs
      refine ⟨fun pre post t' hpre ht' => ?_, ?_⟩
      · exact h pre (post ++ [l]) t' (by rw [hpre]; simp) ht'
      · exact (hstep s l t ⟨ls, hs⟩ hI hst).mp
          (h (ls ++ [l]) [] t (by simp) ((M.run_concat).mpr ⟨s, hs, hst⟩))
    · rintro ⟨h, hl⟩ pre post t' hpre ht'
      rcases List.eq_nil_or_concat post with rfl | ⟨post, x, rfl⟩
      · -- the whole run
        rw [List.append_nil] at hpre
        subst hpre
        obtain ⟨s', hs', hst'⟩ := (M.run_concat).mp ht'
        rw [hs] at hs'
        cases hs'
        exact (hstep s l t' ⟨ls, hs⟩ (h ls [] s (by simp) hs) hst').mpr hl
      · refine h pre post t' ?_ ht'
        have hcat : ls ++ [l] = (pre ++ post) ++ [x] := by rw [hpre]; simp
        exact (List.append_inj' hcat rfl).1

/-! ## Checking a guard on a given run -/

/-- A guard, step by step from a state. -/
def GuardedFrom (M : Machine σ ℓ) (ok : σ → ℓ → Prop) : σ → List ℓ → Prop
  | _, [] => True
  | s, l :: ls =>
    ok s l ∧ match M.step s l with
      | none => True
      | some t => GuardedFrom M ok t ls

instance GuardedFrom.decidable (M : Machine σ ℓ) {ok : σ → ℓ → Prop}
    [∀ s l, Decidable (ok s l)] : ∀ s ls, Decidable (M.GuardedFrom ok s ls)
  | _, [] => .isTrue trivial
  | s, l :: ls =>
    match h : M.step s l with
    | none => decidable_of_iff (ok s l) (by simp [GuardedFrom, h])
    | some t =>
      have : Decidable (M.GuardedFrom ok t ls) := GuardedFrom.decidable M t ls
      decidable_of_iff (ok s l ∧ M.GuardedFrom ok t ls) (by simp [GuardedFrom, h])

/-- **A guard checked step by step is a guard.** -/
theorem guarded_of_guardedFrom {ok : σ → ℓ → Prop} {ls : List ℓ}
    (h : M.GuardedFrom ok M.init ls) : M.Guarded ok ls := by
  have hfrom : ∀ (ls : List ℓ) (s : σ), M.GuardedFrom ok s ls →
      ∀ pre l post, ls = pre ++ l :: post → ∀ t, M.runFrom s pre = some t → ok t l := by
    intro ls
    induction ls with
    | nil => exact fun s _ pre l post hls => absurd hls.symm (by simp)
    | cons first ls ih =>
      intro s hs pre l post hls t ht
      cases pre with
      | nil =>
        obtain ⟨rfl, -⟩ := List.cons.inj hls
        cases ht
        exact hs.1
      | cons first' pre =>
        obtain ⟨rfl, hls'⟩ := List.cons.inj hls
        rw [runFrom_cons] at ht
        obtain ⟨u, hu, ht⟩ := Option.bind_eq_some_iff.mp ht
        have hrest := hs.2
        rw [hu] at hrest
        exact ih u hrest pre l post hls' t ht
  exact hfrom ls M.init h

/-! ## Two runs side by side -/

/-- Two steps are made both or neither, and lead to related states. -/
theorem rel_iff {R : σ → σ → Prop} {x y : Option σ} :
    Option.Rel R x y ↔ (x = none ∧ y = none) ∨ ∃ u v, x = some u ∧ y = some v ∧ R u v := by
  constructor
  · intro h
    cases h with
    | none => exact .inl ⟨rfl, rfl⟩
    | some h => exact .inr ⟨_, _, rfl, rfl, h⟩
  · rintro (⟨rfl, rfl⟩ | ⟨u, v, rfl, rfl, h⟩)
    · exact .none
    · exact .some h

/-- **Two runs of the same labels.** Where related states make a step that
meets the guard both or neither, and come to related states by it, guarded
runs of the same labels lead to related states, or both nowhere. -/
theorem runFrom_lockstep {R : σ → σ → Prop} {ok : σ → ℓ → Prop}
    (hstep : ∀ s t l, R s t → ok s l → ok t l → Option.Rel R (M.step s l) (M.step t l))
    {ls : List ℓ} {s t : σ} (h : R s t) (hs : M.GuardedFrom ok s ls)
    (ht : M.GuardedFrom ok t ls) : Option.Rel R (M.runFrom s ls) (M.runFrom t ls) := by
  induction ls generalizing s t with
  | nil => exact .some h
  | cons l ls ih =>
    rw [runFrom_cons, runFrom_cons]
    have hrest := hs.2
    have hrest' := ht.2
    obtain ⟨hnone, hnone'⟩ | ⟨u, v, hsome, hsome', huv⟩ := rel_iff.mp (hstep s t l h hs.1 ht.1)
    · rw [hnone, hnone']
      exact .none
    · rw [hsome] at hrest ⊢
      rw [hsome'] at hrest' ⊢
      exact ih huv hrest hrest'

end Machine

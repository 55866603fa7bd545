import CommonEventService.Lib.Machine

/-!
# What a run puts out

A step may be observed: it accepts something, hands something on, answers.
What a step puts out is a list, read off the state it leaves and its label,
and a run puts out what its steps do, one after the other (`outputs`). The
machine itself knows nothing of it.

Two rules make it useful. A queue that every step treats first in, first out
is, over a run, what went in without what went out (`queue_law`). And where
what a step puts out are the labels of another machine that lead it from one
abstract state to the next, what a run puts out is a run of that machine
(`run_outputs`), so that its invariants carry over.
-/

namespace Machine

variable {σ ℓ α : Type} (M : Machine σ ℓ)

/-- What a list of labels puts out from `s`. -/
def outputsFrom (out : σ → ℓ → List α) : σ → List ℓ → List α
  | _, [] => []
  | s, l :: ls => out s l ++ (M.step s l).elim [] (fun t => outputsFrom out t ls)

/-- **What a run puts out.** -/
def outputs (out : σ → ℓ → List α) (ls : List ℓ) : List α := M.outputsFrom out M.init ls

@[simp] theorem outputs_nil (out : σ → ℓ → List α) : M.outputs out [] = [] := rfl

/-- What the last step of a run puts out. -/
theorem outputsFrom_concat (out : σ → ℓ → List α) {ls : List ℓ} {l : ℓ} {r s : σ}
    (hs : M.runFrom r ls = some s) :
    M.outputsFrom out r (ls ++ [l]) = M.outputsFrom out r ls ++ out s l := by
  induction ls generalizing r with
  | nil =>
    cases hs
    show out s l ++ (M.step s l).elim [] (fun _ => []) = [] ++ out s l
    cases M.step s l <;> simp
  | cons first ls ih =>
    rw [runFrom_cons] at hs
    obtain ⟨t, ht, hs⟩ := Option.bind_eq_some_iff.mp hs
    rw [List.cons_append]
    unfold outputsFrom
    rw [ht, Option.elim_some, Option.elim_some, ih hs, List.append_assoc]

theorem outputs_concat (out : σ → ℓ → List α) {ls : List ℓ} {l : ℓ} {s : σ}
    (hs : M.run ls = some s) :
    M.outputs out (ls ++ [l]) = M.outputs out ls ++ out s l :=
  M.outputsFrom_concat out hs

/-- To filter and map what a run puts out is to do so step by step. -/
theorem filterMap_outputs {β : Type} (f : α → Option β) (out : σ → ℓ → List α) (ls : List ℓ) :
    (M.outputs out ls).filterMap f = M.outputs (fun s l => (out s l).filterMap f) ls := by
  have hfrom : ∀ s, (M.outputsFrom out s ls).filterMap f
      = M.outputsFrom (fun s l => (out s l).filterMap f) s ls := by
    induction ls with
    | nil => exact fun _ => rfl
    | cons l ls ih =>
      intro s
      unfold outputsFrom
      rw [List.filterMap_append]
      cases M.step s l with
      | none => rfl
      | some t => rw [Option.elim_some, Option.elim_some, ih t]
  exact hfrom M.init

/-- **Whether some step of a run did something**, in the state it found. -/
def Did (B : σ → ℓ → Prop) (ls : List ℓ) : Prop :=
  ∃ pre l post s, ls = pre ++ l :: post ∧ M.run pre = some s ∧ B s l

variable {M}

theorem Did.append {B : σ → ℓ → Prop} {ls : List ℓ} {l : ℓ} (h : M.Did B ls) :
    M.Did B (ls ++ [l]) := by
  obtain ⟨pre, l', post, s, rfl, hs, hB⟩ := h
  exact ⟨pre, l', post ++ [l], s, by simp, hs, hB⟩

theorem Did.last {B : σ → ℓ → Prop} {ls : List ℓ} {l : ℓ} {s : σ} (hs : M.run ls = some s)
    (hB : B s l) : M.Did B (ls ++ [l]) :=
  ⟨ls, l, [], s, rfl, hs, hB⟩

/-- What a run puts out, some step of it does. -/
theorem mem_outputs {out : σ → ℓ → List α} {a : α} {ls : List ℓ} {s : σ}
    (hs : M.run ls = some s) (ha : a ∈ M.outputs out ls) :
    M.Did (fun t l => a ∈ out t l) ls := by
  refine run_induction (M := M) (R := fun ls _ => a ∈ M.outputs out ls →
    M.Did (fun t l => a ∈ out t l) ls) ?_ ?_ hs ha
  · intro ha
    cases ha
  · intro ls l s t hs ih _ ha
    rw [outputs_concat M out hs] at ha
    rcases List.mem_append.mp ha with ha | ha
    · exact (ih ha).append
    · exact .last hs ha

/-- **The law of queues.** Where what comes in at a step goes to the end of a
queue and what goes out is taken from its front, what has gone out and what
waits is, in order, what has come in. -/
theorem queue_law (queue : σ → List α) {comesIn goesOut : σ → ℓ → List α}
    (hinit : queue M.init = [])
    (hstep : ∀ s l t, M.step s l = some t → goesOut s l ++ queue t = queue s ++ comesIn s l)
    {ls : List ℓ} {s : σ} (hs : M.run ls = some s) :
    M.outputs goesOut ls ++ queue s = M.outputs comesIn ls := by
  refine run_induction (M := M)
    (R := fun ls s => M.outputs goesOut ls ++ queue s = M.outputs comesIn ls) hinit ?_ hs
  intro ls l s t hs ih hst
  rw [outputs_concat M goesOut hs, outputs_concat M comesIn hs, List.append_assoc,
    hstep s l t hst, ← List.append_assoc, ih]

/-- **A refinement by what is put out.** Where every step puts out labels that
lead another machine from the abstraction of one state to that of the next,
what a run puts out is a run of the other machine. -/
theorem run_outputs {σ' ℓ' : Type} {M' : Machine σ' ℓ'} {out : σ → ℓ → List ℓ'}
    (abstract : σ → σ') (hinit : abstract M.init = M'.init)
    (hstep : ∀ s l t, M.step s l = some t →
      M'.runFrom (abstract s) (out s l) = some (abstract t))
    {ls : List ℓ} {s : σ} (hs : M.run ls = some s) :
    M'.run (M.outputs out ls) = some (abstract s) := by
  refine run_induction (M := M)
    (R := fun ls s => M'.run (M.outputs out ls) = some (abstract s)) ?_ ?_ hs
  · rw [outputs_nil, run_nil, hinit]
  · intro ls l s t hs ih hst
    rw [outputs_concat M out hs, run_append, ih, Option.bind_some]
    exact hstep s l t hst

end Machine

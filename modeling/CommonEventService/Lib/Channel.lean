import Mathlib.Data.List.Basic

/-!
# Writing to a channel and reading from it

A channel holds what was written to it and not yet read. A writer **conveys**
a value to a reader if the reader, wherever what was written comes next in a
channel, gives the value and takes what was written, and no more. What is
written one after the other is then read one after the other, whatever stands
behind it.

Either side can fail. Nothing is said of a write that fails.
-/

namespace Channel

variable {ρ ι α β κ : Type}

/-- A read that gives a value in any case. -/
def value (read : ρ → α × ρ) : StateT ρ Option α := fun channel => some (read channel)

/-- A write puts its items behind what is unread, if it succeeds. -/
def Writes (unread : ρ → List ι) (write : StateT ρ Option Unit) (items : List ι) : Prop :=
  ∀ channel channel', write.run channel = some ((), channel') →
    unread channel' = unread channel ++ items

/-- A read takes its items, where they come next, and gives its value. -/
def Reads (unread : ρ → List ι) (read : StateT ρ Option α) (items : List ι) (a : α) : Prop :=
  ∀ channel rest, unread channel = items ++ rest →
    ∃ channel', read.run channel = some (a, channel') ∧ unread channel' = rest

/-- **A writer conveys a value to a reader.** -/
def Conveys (unread : ρ → List ι) (write : StateT ρ Option Unit) (read : StateT ρ Option α)
    (a : α) : Prop :=
  ∃ items, Writes unread write items ∧ Reads unread read items a

variable {unread : ρ → List ι}

/-! ## One step after the other -/

theorem Writes.done : Writes unread (pure ()) [] := by
  intro channel channel' hwrite
  cases hwrite
  exact (List.append_nil _).symm

theorem Writes.andThen {write write' : StateT ρ Option Unit} {items items' : List ι}
    (h : Writes unread write items) (h' : Writes unread write' items') :
    Writes unread (write >>= fun _ => write') (items ++ items') := by
  intro channel channel'' hwrite
  rw [StateT.run_bind] at hwrite
  obtain ⟨⟨⟨⟩, channel'⟩, hfirst, hthen⟩ := Option.bind_eq_some_iff.mp hwrite
  rw [h' channel' channel'' hthen, h channel channel' hfirst, List.append_assoc]

theorem Reads.done (a : α) : Reads unread (pure a) [] a :=
  fun channel _ hunread => ⟨channel, rfl, hunread⟩

theorem Reads.andThen {read : StateT ρ Option α} {read' : α → StateT ρ Option β}
    {items items' : List ι} {a : α} {b : β} (h : Reads unread read items a)
    (h' : Reads unread (read' a) items' b) :
    Reads unread (read >>= read') (items ++ items') b := by
  intro channel rest hunread
  rw [List.append_assoc] at hunread
  obtain ⟨channel', hread, hunread'⟩ := h channel _ hunread
  obtain ⟨channel'', hread', hrest⟩ := h' channel' rest hunread'
  refine ⟨channel'', ?_, hrest⟩
  rw [StateT.run_bind, hread]
  exact hread'

/-- A value that is at hand. -/
theorem Reads.lift (a : α) : Reads unread (StateT.lift (some a)) [] a :=
  Reads.done a

/-- Nothing is conveyed by nothing. -/
theorem Conveys.done (a : α) : Conveys unread (pure ()) (pure a) a :=
  ⟨[], Writes.done, Reads.done a⟩

/-- **What is written one after the other is read one after the other.** -/
theorem Conveys.andThen {write write' : StateT ρ Option Unit} {read : StateT ρ Option α}
    {read' : α → StateT ρ Option β} {a : α} {b : β} (h : Conveys unread write read a)
    (h' : Conveys unread write' (read' a) b) :
    Conveys unread (write >>= fun _ => write') (read >>= read') b := by
  obtain ⟨items, hwrite, hread⟩ := h
  obtain ⟨items', hwrite', hread'⟩ := h'
  exact ⟨items ++ items', hwrite.andThen hwrite', hread.andThen hread'⟩

/-- The reader goes on without reading. -/
theorem Conveys.andReads {write : StateT ρ Option Unit} {read : StateT ρ Option α}
    {read' : α → StateT ρ Option β} {a : α} {b : β} (h : Conveys unread write read a)
    (h' : Reads unread (read' a) [] b) : Conveys unread write (read >>= read') b := by
  obtain ⟨items, hwrite, hread⟩ := h
  have hboth := hread.andThen h'
  rw [List.append_nil] at hboth
  exact ⟨items, hwrite, hboth⟩

/-- The reader does something before, without reading. -/
theorem Conveys.afterReads {write : StateT ρ Option Unit} {read : StateT ρ Option α}
    {read' : α → StateT ρ Option β} {a : α} {b : β} (h' : Conveys unread write (read' a) b)
    (h : Reads unread read [] a) : Conveys unread write (read >>= read') b := by
  obtain ⟨items, hwrite, hread⟩ := h'
  exact ⟨items, hwrite, h.andThen hread⟩

theorem Conveys.andPure {write : StateT ρ Option Unit} {read : StateT ρ Option α} {a : α}
    (h : Conveys unread write read a) (f : α → β) :
    Conveys unread write (read >>= fun a => pure (f a)) (f a) :=
  h.andReads (Reads.done (f a))

theorem Conveys.map {write : StateT ρ Option Unit} {read : StateT ρ Option α} {a : α}
    (h : Conveys unread write read a) (f : α → β) :
    Conveys unread write (f <$> read) (f a) := by
  rw [← bind_pure_comp]
  exact h.andPure f

/-! ## A sequence of values -/

/-- **A sequence of values**, of several kinds, is read as it was written, where
the reader knows the kinds. -/
theorem Conveys.sequence {kind : β → κ} {write : β → StateT ρ Option Unit}
    {read : κ → StateT ρ Option β} {values : List β}
    (h : ∀ b ∈ values, Conveys unread (write b) (read (kind b)) b) :
    Conveys unread (values.forM write) ((values.map kind).mapM read) values := by
  induction values with
  | nil =>
    exact Conveys.done []
  | cons b values ih =>
    rw [List.map_cons, List.mapM_cons]
    have hrest := ih fun b hb => h b (List.mem_cons_of_mem _ hb)
    exact (h b List.mem_cons_self).andThen (hrest.andPure (fun values => b :: values))

end Channel

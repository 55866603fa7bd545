import Mathlib.Data.List.AList

/-!
# Dictionaries

A finite map with unordered keys: an association list in which no key occurs
twice. The lookups after an insertion and after a removal are stated as one
case distinction each, which is the form in which a proof over a program with
several maps wants them.
-/

/-- **A finite map.** -/
abbrev Dict (κ α : Type) := AList (fun _ : κ => α)

namespace Dict

variable {κ α : Type} [DecidableEq κ]

/-- What a key is mapped to after an insertion. -/
theorem lookup_insert_ite (d : Dict κ α) (k k' : κ) (v : α) :
    (d.insert k v).lookup k' = if k' = k then some v else d.lookup k' := by
  split
  next h => rw [h, AList.lookup_insert]
  next h => rw [AList.lookup_insert_ne h]

/-- What a key is mapped to after a removal. -/
theorem lookup_erase_ite (d : Dict κ α) (k k' : κ) :
    (d.erase k).lookup k' = if k' = k then none else d.lookup k' := by
  split
  next h => rw [h, AList.lookup_erase]
  next h => rw [AList.lookup_erase_ne h]

/-- What a key is mapped to, or a default where it is mapped to nothing. -/
def getD (d : Dict κ α) (k : κ) (default : α) : α := (d.lookup k).getD default

/-- An insertion that leaves what is there. -/
def emplace (d : Dict κ α) (k : κ) (v : α) : Dict κ α :=
  if (d.lookup k).isSome then d else AList.insert k v d

/-- What a key is mapped to after an insertion that leaves what is there. -/
theorem lookup_emplace (d : Dict κ α) (k k' : κ) (v : α) :
    (emplace d k v).lookup k' = (d.lookup k').or (if k' = k then some v else none) := by
  unfold emplace
  split
  next h =>
    obtain ⟨v', hv'⟩ := Option.isSome_iff_exists.mp h
    split
    next hk => rw [hk, hv', Option.some_or]
    next => rw [Option.or_none]
  next h =>
    rw [lookup_insert_ite]
    split
    next hk =>
      have hnone : d.lookup k = none := by simpa using h
      rw [hk, hnone, Option.none_or]
    next => rw [Option.or_none]

/-- What a key is mapped to in a union, where the first map prevails. -/
theorem lookup_union (d d' : Dict κ α) (k : κ) :
    (d ∪ d').lookup k = (d.lookup k).or (d'.lookup k) := by
  by_cases h : k ∈ d
  · rw [AList.lookup_union_left h]
    obtain ⟨v, hv⟩ := Option.isSome_iff_exists.mp (AList.lookup_isSome.mpr h)
    rw [hv, Option.some_or]
  · rw [AList.lookup_union_right h, AList.lookup_eq_none.mpr h, Option.none_or]

/-- Insertions one after the other, each of which leaves what is there. -/
def emplaceAll (d : Dict κ α) (l : List (κ × α)) : Dict κ α :=
  l.foldl (fun d entry => emplace d entry.1 entry.2) d

/-- Of several insertions that leave what is there the first one counts. -/
theorem lookup_emplaceAll (l : List (κ × α)) (d : Dict κ α) (k : κ) :
    (emplaceAll d l).lookup k = (d.lookup k).or (l.lookup k) := by
  induction l generalizing d with
  | nil => exact (Option.or_none).symm
  | cons entry l ih =>
    show (emplaceAll (emplace d entry.1 entry.2) l).lookup k = _
    rw [ih, lookup_emplace, Option.or_assoc, List.lookup_cons]
    by_cases hk : k = entry.1
    · simp [hk]
    · rw [if_neg hk, Option.none_or, beq_false_of_ne hk]

/-- Insertions one after the other, each of which replaces what is there. -/
def insertAll (d : Dict κ α) (l : List (κ × α)) : Dict κ α :=
  l.foldl (fun d entry => AList.insert entry.1 entry.2 d) d

/-- Of several insertions that replace what is there the last one counts. -/
theorem lookup_insertAll (l : List (κ × α)) (d : Dict κ α) (k : κ) :
    (insertAll d l).lookup k = (l.reverse.lookup k).or (d.lookup k) := by
  induction l generalizing d with
  | nil => rfl
  | cons entry l ih =>
    obtain ⟨k', v⟩ := entry
    show (insertAll (AList.insert k' v d) l).lookup k = _
    rw [ih, lookup_insert_ite, List.reverse_cons, List.lookup_append, Option.or_assoc,
      List.lookup_cons, List.lookup_nil]
    by_cases hk : k = k'
    · rw [if_pos hk, beq_iff_eq.mpr hk, Option.some_or]
    · rw [if_neg hk, beq_false_of_ne hk, Option.none_or]

/-- In a list without repeated keys, what a key is paired with is what it is
looked up as. -/
theorem lookup_eq_some_iff {l : List (κ × α)} (hnodup : (l.map Prod.fst).Nodup) {k : κ} {v : α} :
    l.lookup k = some v ↔ (k, v) ∈ l := by
  induction l with
  | nil => simp
  | cons entry l ih =>
    obtain ⟨k', v'⟩ := entry
    rw [List.map_cons, List.nodup_cons] at hnodup
    rw [List.lookup_cons]
    by_cases hk : k = k'
    · subst hk
      have hnotin : (k, v) ∉ l := by
        intro hmem
        exact hnodup.1 (List.mem_map.mpr ⟨(k, v), hmem, rfl⟩)
      simp [hnotin, eq_comm]
    · rw [beq_false_of_ne hk, List.mem_cons]
      simp [ih hnodup.2, hk]

omit [DecidableEq κ] in
/-- A selection of the entries keeps the order of the keys. -/
theorem sublist_keys_filterMap {β : Type} {f : κ × α → Option (κ × β)}
    (hf : ∀ entry entry', f entry = some entry' → entry'.1 = entry.1) (l : List (κ × α)) :
    ((l.filterMap f).map Prod.fst).Sublist (l.map Prod.fst) := by
  induction l with
  | nil => exact .slnil
  | cons entry l ih =>
    cases h : f entry with
    | none =>
      rw [List.filterMap_cons_none h]
      exact ih.cons _
    | some entry' =>
      rw [List.filterMap_cons_some h, List.map_cons, List.map_cons, hf entry entry' h]
      exact ih.cons_cons _

/-- What a key is mapped to after several removals. -/
theorem lookup_foldl_erase (ks : List κ) (d : Dict κ α) (k : κ) :
    (ks.foldl (fun d k => AList.erase k d) d).lookup k
      = if k ∈ ks then none else d.lookup k := by
  induction ks generalizing d with
  | nil => simp
  | cons k' ks ih =>
    rw [List.foldl_cons, ih, lookup_erase_ite]
    by_cases hk : k = k'
    · simp [hk]
    · simp [hk]

/-- Two maps that agree on every key stand for the same map. -/
def Agree (d d' : Dict κ α) : Prop := ∀ k, d.lookup k = d'.lookup k

/-! ## Listings -/

/-- **A listing of a map**: every entry once, in some order. -/
structure IsListing (l : List (κ × α)) (d : Dict κ α) : Prop where
  nodup : (l.map Prod.fst).Nodup
  mem : ∀ k v, (k, v) ∈ l ↔ d.lookup k = some v

/-- The listing by the order of the entries. -/
def toList (d : Dict κ α) : List (κ × α) := d.entries.map (fun entry => (entry.1, entry.2))

theorem isListing_toList (d : Dict κ α) : IsListing (toList d) d := by
  refine ⟨?_, ?_⟩
  · show ((d.entries.map (fun entry => (entry.1, entry.2))).map Prod.fst).Nodup
    rw [List.map_map]
    exact d.nodupKeys
  · intro k v
    refine Iff.trans ?_ (AList.mem_lookup_iff (s := d)).symm
    show (k, v) ∈ d.entries.map (fun entry => (entry.1, entry.2)) ↔ _
    rw [List.mem_map]
    constructor
    · rintro ⟨⟨k', v'⟩, hmem, heq⟩
      cases heq
      exact hmem
    · exact fun hmem => ⟨⟨k, v⟩, hmem, rfl⟩

/-- A listing in another order is a listing. -/
theorem IsListing.perm {l l' : List (κ × α)} {d : Dict κ α} (h : IsListing l d)
    (hperm : l'.Perm l) : IsListing l' d :=
  ⟨((hperm.map Prod.fst).nodup_iff).mpr h.nodup,
    fun k v => (hperm.mem_iff).trans (h.mem k v)⟩

/-- A key is looked up in a listing as in the map. -/
theorem IsListing.lookup_eq {l : List (κ × α)} {d : Dict κ α} (h : IsListing l d) (k : κ) :
    l.lookup k = d.lookup k := by
  refine Option.ext fun v => ?_
  rw [lookup_eq_some_iff h.nodup]
  exact h.mem k v

/-! ## Running over the entries

What a loop over a map collects, key by key. The order is that of the
entries, which no program may rely on, so the results are up to permutation. -/

variable {β : Type} {f : κ → α → List β}

/-- What is collected from all entries. -/
def flatMap (d : Dict κ α) (f : κ → α → List β) : List β :=
  d.entries.flatMap (fun entry => f entry.1 entry.2)

theorem mem_flatMap {d : Dict κ α} {x : β} :
    x ∈ flatMap d f ↔ ∃ k v, d.lookup k = some v ∧ x ∈ f k v := by
  unfold flatMap
  rw [List.mem_flatMap]
  constructor
  · rintro ⟨⟨k, v⟩, hmem, hx⟩
    exact ⟨k, v, AList.mem_lookup_iff.mpr hmem, hx⟩
  · rintro ⟨k, v, hl, hx⟩
    exact ⟨⟨k, v⟩, AList.mem_lookup_iff.mp hl, hx⟩

/-- The entry of a key, and the others. -/
theorem entries_perm {d : Dict κ α} {k : κ} {v : α} (h : d.lookup k = some v) :
    d.entries.Perm (⟨k, v⟩ :: (d.erase k).entries) := by
  have hmem : k ∈ d.entries.keys := AList.lookup_isSome.mp (by rw [h]; rfl)
  obtain ⟨v', pre, post, hpre, hentries, herase⟩ := List.exists_of_kerase hmem
  have hv : v' = v := by
    have hin : (⟨k, v'⟩ : (_ : κ) × α) ∈ d.entries := by rw [hentries]; simp
    exact Option.some.inj ((AList.mem_lookup_iff.mpr hin).symm.trans h)
  subst hv
  show d.entries.Perm (⟨k, v'⟩ :: d.entries.kerase k)
  rw [herase, hentries]
  exact List.perm_middle

/-- What is collected is what the entry of a key gives, and the rest. -/
theorem flatMap_perm {d : Dict κ α} {k : κ} {v : α} (h : d.lookup k = some v) :
    (flatMap d f).Perm (f k v ++ flatMap (d.erase k) f) :=
  (entries_perm h).flatMap_right _

theorem flatMap_insert (d : Dict κ α) (k : κ) (v : α) :
    flatMap (AList.insert k v d) f = f k v ++ flatMap (d.erase k) f := rfl

/-- What is collected in part is collected in part also after a map. -/
theorem subperm_map {l l' : List α} (g : α → β) (h : l.Subperm l') :
    (l.map g).Subperm (l'.map g) := by
  obtain ⟨l'', hperm, hsub⟩ := h
  exact ⟨l''.map g, hperm.map g, hsub.map g⟩

/-- Part of what is collected without repetition has no repetition. -/
theorem nodup_of_subperm {l l' : List α} (h : l.Subperm l') (hnodup : l'.Nodup) :
    l.Nodup := by
  obtain ⟨l'', hperm, hsub⟩ := h
  exact hperm.nodup_iff.mp (hnodup.sublist hsub)

/-- A removal undoes an insertion. -/
theorem erase_insert (d : Dict κ α) (k : κ) (v : α) : (AList.insert k v d).erase k = d.erase k := by
  refine AList.ext ?_
  show ((AList.insert k v d).entries).kerase k = d.entries.kerase k
  rw [AList.entries_insert, List.kerase_cons_eq (show k = (⟨k, v⟩ : (_ : κ) × α).1 from rfl)]

/-- A key that is not mapped need not be removed. -/
theorem erase_of_lookup_none {d : Dict κ α} {k : κ} (h : d.lookup k = none) :
    d.erase k = d := by
  refine AList.ext ?_
  exact List.kerase_of_notMem_keys (AList.lookup_eq_none.mp h)

end Dict

import WorkloadIdentity.StringMap

namespace WorkloadIdentity

section
variable {α : Type}

theorem lookup_cons_ite (name k : String) (v : α) (rest : List (String × α)) :
    List.lookup name ((k, v) :: rest) = if name = k then some v else List.lookup name rest := by
  by_cases h : name = k
  · simp [h]
  · simp [List.lookup_cons, beq_false_of_ne h, h]

theorem lookup_append (name : String) (xs ys : List (String × α)) :
    List.lookup name (xs ++ ys) = (List.lookup name xs).or (List.lookup name ys) := by
  induction xs with
  | nil => simp
  | cons head rest ih =>
    obtain ⟨k, v⟩ := head
    rw [List.cons_append, lookup_cons_ite, lookup_cons_ite, ih]
    split <;> rfl

/-- Keeping entries by their names keeps or loses a lookup as a whole. -/
theorem lookup_filter (keep : String → Bool) (name : String) (entries : List (String × α)) :
    List.lookup name (entries.filter (fun e => keep e.1)) =
      if keep name then List.lookup name entries else none := by
  induction entries with
  | nil => simp
  | cons head rest ih =>
    obtain ⟨k, v⟩ := head
    rw [List.filter_cons]
    by_cases e : name = k
    · subst e
      cases h : keep name <;> simp [h, ih]
    · cases keep k <;> simp [ih, lookup_cons_ite, e]

theorem lookup_insertEntry (name other : String) (value : α) (entries : List (String × α)) :
    List.lookup other (insertEntry name value entries) =
      if other = name then some value else List.lookup other entries := by
  induction entries with
  | nil => rw [insertEntry, lookup_cons_ite]
  | cons head rest ih =>
    obtain ⟨k, v⟩ := head
    simp only [insertEntry]
    split
    · rw [lookup_cons_ite]
    · rename_i notBelow
      split
      · rename_i above
        have ne : k ≠ name := fun e => String.lt_irrefl name (e ▸ above)
        rw [lookup_cons_ite, lookup_cons_ite, ih]
        by_cases h : other = k
        · subst h; simp [ne]
        · simp [h]
      · rename_i notAbove
        have same : k = name :=
          String.le_antisymm (String.not_lt.1 notBelow) (String.not_lt.1 notAbove)
        rw [lookup_cons_ite, lookup_cons_ite, same]
        split <;> rfl

theorem lookup_eq_none_of_lt {name : String} {entries : List (String × α)}
    (h : ∀ e ∈ entries, name < e.1) : List.lookup name entries = none := by
  induction entries with
  | nil => rfl
  | cons head rest ih =>
    have ne : name ≠ head.1 := fun e => String.lt_irrefl _ (e ▸ h head List.mem_cons_self)
    rw [lookup_cons_ite, if_neg ne]
    exact ih (fun e he => h e (List.mem_cons_of_mem _ he))

theorem lookup_eq_some_of_mem {entries : List (String × α)} (sorted : SortedEntries entries)
    {name : String} {value : α} (h : (name, value) ∈ entries) :
    List.lookup name entries = some value := by
  induction entries with
  | nil => simp at h
  | cons head rest ih =>
    obtain ⟨k, v⟩ := head
    obtain ⟨below, sorted⟩ := List.pairwise_cons.1 sorted
    rw [lookup_cons_ite]
    rcases List.mem_cons.1 h with h | h
    · cases h; rw [if_pos rfl]
    · have ne : name ≠ k := fun e => String.lt_irrefl k (e ▸ below _ h)
      rw [if_neg ne]
      exact ih sorted h

theorem mem_of_lookup_eq_some {entries : List (String × α)} {name : String} {value : α}
    (h : List.lookup name entries = some value) : (name, value) ∈ entries := by
  induction entries with
  | nil => simp at h
  | cons head rest ih =>
    obtain ⟨k, v⟩ := head
    rw [lookup_cons_ite] at h
    split at h
    · rename_i e
      cases h; rw [e]; exact List.mem_cons_self
    · exact List.mem_cons_of_mem _ (ih h)

/-- Sorted lists with the same lookups are equal. -/
theorem eq_of_lookup_eq {xs ys : List (String × α)} (hx : SortedEntries xs) (hy : SortedEntries ys)
    (h : ∀ name, List.lookup name xs = List.lookup name ys) : xs = ys := by
  induction xs generalizing ys with
  | nil =>
    cases ys with
    | nil => rfl
    | cons y ys =>
      obtain ⟨l, w⟩ := y
      have := h l
      simp at this
  | cons x xs ih =>
    obtain ⟨k, v⟩ := x
    cases ys with
    | nil =>
      have := h k
      simp at this
    | cons y ys =>
      obtain ⟨l, w⟩ := y
      obtain ⟨belowX, sortedX⟩ := List.pairwise_cons.1 hx
      obtain ⟨belowY, sortedY⟩ := List.pairwise_cons.1 hy
      have inY : (k, v) ∈ (l, w) :: ys := mem_of_lookup_eq_some (by rw [← h k]; simp)
      have inX : (l, w) ∈ (k, v) :: xs := mem_of_lookup_eq_some (by rw [h l]; simp)
      have heads : (k, v) = (l, w) := by
        rcases List.mem_cons.1 inY with e | later
        · exact e
        · rcases List.mem_cons.1 inX with e | later'
          · exact e.symm
          · exact absurd (String.lt_trans (belowX _ later') (belowY _ later)) (String.lt_irrefl k)
      cases heads
      congr 1
      apply ih sortedX sortedY
      intro name
      by_cases e : name = k
      · subst e
        rw [lookup_eq_none_of_lt belowX, lookup_eq_none_of_lt belowY]
      · have := h name
        rwa [lookup_cons_ite, lookup_cons_ite, if_neg e, if_neg e] at this

end

namespace StringMap

variable {α : Type}

@[simp]
theorem get?_empty (name : String) : (∅ : StringMap α).get? name = none := rfl

theorem get?_insert (m : StringMap α) (name other : String) (value : α) :
    (m.insert name value).get? other = if other = name then some value else m.get? other :=
  lookup_insertEntry name other value m.entries

theorem get?_erase (m : StringMap α) (name other : String) :
    (m.erase name).get? other = if other = name then none else m.get? other := by
  have h := lookup_filter (fun k => decide (k ≠ name)) other m.entries
  by_cases e : other = name
  · simpa [get?, erase, e] using h
  · simpa [get?, erase, e] using h

theorem ext_get? {m n : StringMap α} (h : ∀ name, m.get? name = n.get? name) : m = n :=
  ext_entries (eq_of_lookup_eq m.sorted n.sorted h)

theorem get?_eq_some_of_mem {m : StringMap α} {name : String} {value : α}
    (h : (name, value) ∈ m.entries) : m.get? name = some value :=
  lookup_eq_some_of_mem m.sorted h

theorem mem_keys_iff {m : StringMap α} {name : String} :
    name ∈ m.keys ↔ (m.get? name).isSome = true := by
  rw [keys, List.mem_map, Option.isSome_iff_exists]
  constructor
  · rintro ⟨e, mem, rfl⟩
    exact ⟨e.2, get?_eq_some_of_mem mem⟩
  · rintro ⟨value, found⟩
    exact ⟨(name, value), mem_of_lookup_eq_some found, rfl⟩

/-- Entries with different names, laid one by one over a map. -/
theorem get?_foldl_insert {entries : List (String × α)} (sorted : SortedEntries entries)
    (m : StringMap α) (name : String) :
    (entries.foldl (fun m e => m.insert e.1 e.2) m).get? name =
      (List.lookup name entries).or (m.get? name) := by
  induction entries generalizing m with
  | nil => simp
  | cons head rest ih =>
    obtain ⟨k, v⟩ := head
    obtain ⟨below, sorted⟩ := List.pairwise_cons.1 sorted
    rw [List.foldl_cons, ih sorted, get?_insert, lookup_cons_ite]
    by_cases e : name = k
    · subst e; simp [lookup_eq_none_of_lt below]
    · simp [e]

/-- Entries of other names do not count. -/
theorem get?_foldl_of_notMem {entries : List (String × α)} {name : String}
    (h : name ∉ entries.map Prod.fst) (m : StringMap α) :
    (entries.foldl (fun m e => m.insert e.1 e.2) m).get? name = m.get? name := by
  induction entries generalizing m with
  | nil => rfl
  | cons e rest ih =>
    rw [List.map_cons, List.mem_cons, not_or] at h
    rw [List.foldl_cons, ih h.2, get?_insert, if_neg h.1]

/-- An entry of a list in which no name stands twice. -/
theorem get?_ofList_of_mem {entries : List (String × α)} {e : String × α}
    (once : (entries.map Prod.fst).Nodup) (mem : e ∈ entries) :
    (ofList entries).get? e.1 = some e.2 := by
  obtain ⟨before, after, rfl⟩ := List.append_of_mem mem
  rw [List.map_append, List.map_cons] at once
  have last : e.1 ∉ after.map Prod.fst := (List.nodup_cons.1 (List.nodup_append.1 once).2.1).1
  rw [ofList, List.foldl_append, List.foldl_cons, get?_foldl_of_notMem last, get?_insert,
    if_pos rfl]

theorem get?_merge (lower upper : StringMap α) (name : String) :
    (lower.merge upper).get? name = (upper.get? name).or (lower.get? name) :=
  get?_foldl_insert upper.sorted lower name

/-- Values are changed before or after the entries are put in order. -/
theorem entries_ofList_map {β : Type} (f : α → β) (entries : List (String × α)) :
    (ofList (entries.map fun e => (e.1, f e.2))).entries =
      (ofList entries).entries.map fun e => (e.1, f e.2) := by
  have inserted (name : String) (value : α) (sorted : List (String × α)) :
      insertEntry name (f value) (sorted.map fun e => (e.1, f e.2)) =
        (insertEntry name value sorted).map fun e => (e.1, f e.2) := by
    induction sorted with
    | nil => rfl
    | cons head rest ih =>
      obtain ⟨k, v⟩ := head
      simp only [List.map_cons, insertEntry, ih]
      split
      · rfl
      · split <;> rfl
  have folded (m : StringMap α) (n : StringMap β)
      (same : n.entries = m.entries.map fun e => (e.1, f e.2)) :
      ((entries.map fun e => (e.1, f e.2)).foldl (fun n e => n.insert e.1 e.2) n).entries =
        (entries.foldl (fun m e => m.insert e.1 e.2) m).entries.map fun e => (e.1, f e.2) := by
    induction entries generalizing m n with
    | nil => exact same
    | cons head rest ih =>
      refine ih (m.insert head.1 head.2) (n.insert head.1 (f head.2)) ?_
      simp only [insert, same, inserted]
  exact folded empty empty rfl

/-- A map is rebuilt from its entries. -/
theorem ofList_entries (m : StringMap α) : ofList m.entries = m := by
  apply ext_get?
  intro name
  rw [ofList, get?_foldl_insert m.sorted]
  exact Option.or_none

end StringMap

end WorkloadIdentity

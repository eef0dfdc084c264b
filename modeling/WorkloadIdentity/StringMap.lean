/-! A map keeps its entries in the order of their names, so that two maps with the same entries are
equal. -/

namespace WorkloadIdentity

/-- Writes an entry into a list sorted by name. -/
def insertEntry {α : Type} (name : String) (value : α) : List (String × α) → List (String × α)
  | [] => [(name, value)]
  | (k, v) :: rest =>
    if name < k then (name, value) :: (k, v) :: rest
    else if k < name then (k, v) :: insertEntry name value rest
    else (name, value) :: rest

/-- Entries in strictly increasing order of names. -/
def SortedEntries {α : Type} (entries : List (String × α)) : Prop :=
  entries.Pairwise (fun a b => a.1 < b.1)

theorem mem_insertEntry {α : Type} {name : String} {value : α} {entries : List (String × α)}
    {e : String × α} (h : e ∈ insertEntry name value entries) :
    e = (name, value) ∨ e ∈ entries := by
  induction entries with
  | nil => simpa [insertEntry] using h
  | cons head rest ih =>
    obtain ⟨k, v⟩ := head
    simp only [insertEntry] at h
    split at h
    · simpa using h
    · split at h
      · rcases List.mem_cons.1 h with h | h
        · simp [h]
        · rcases ih h with h | h <;> simp [h]
      · rcases List.mem_cons.1 h with h | h <;> simp [h]

theorem sorted_insertEntry {α : Type} {name : String} {value : α} {entries : List (String × α)}
    (h : SortedEntries entries) : SortedEntries (insertEntry name value entries) := by
  induction entries with
  | nil => simp [insertEntry, SortedEntries]
  | cons head rest ih =>
    obtain ⟨k, v⟩ := head
    unfold SortedEntries at h ih ⊢
    rw [List.pairwise_cons] at h
    simp only [insertEntry]
    split
    · rename_i hlt
      rw [List.pairwise_cons, List.pairwise_cons]
      refine ⟨?_, h.1, h.2⟩
      intro e he
      rcases List.mem_cons.1 he with he | he
      · rw [he]; exact hlt
      · exact String.lt_trans hlt (h.1 e he)
    · rename_i hnlt
      split
      · rename_i hlt
        rw [List.pairwise_cons]
        refine ⟨?_, ih h.2⟩
        intro e he
        rcases mem_insertEntry he with he | he
        · rw [he]; exact hlt
        · exact h.1 e he
      · rename_i hngt
        have heq : k = name := String.le_antisymm (String.not_lt.1 hnlt) (String.not_lt.1 hngt)
        rw [List.pairwise_cons]
        refine ⟨?_, h.2⟩
        intro e he
        rw [← heq]; exact h.1 e he

structure StringMap (α : Type) where
  entries : List (String × α)
  sorted : SortedEntries entries

namespace StringMap

variable {α β : Type}

theorem ext_entries {m n : StringMap α} (h : m.entries = n.entries) : m = n := by
  cases m; cases n; simp_all

instance [DecidableEq α] : DecidableEq (StringMap α) := fun m n =>
  if h : m.entries = n.entries then isTrue (ext_entries h)
  else isFalse (fun e => h (e ▸ rfl))

instance [Repr α] : Repr (StringMap α) := ⟨fun m p => reprPrec m.entries p⟩

def empty : StringMap α := ⟨[], List.Pairwise.nil⟩

instance : Inhabited (StringMap α) := ⟨empty⟩

instance : EmptyCollection (StringMap α) := ⟨empty⟩

def isEmpty (m : StringMap α) : Bool := m.entries.isEmpty

def get? (m : StringMap α) (name : String) : Option α := List.lookup name m.entries

def insert (m : StringMap α) (name : String) (value : α) : StringMap α :=
  ⟨insertEntry name value m.entries, sorted_insertEntry m.sorted⟩

/-- The map of a list of entries, the last value of a repeated name winning. -/
def ofList (entries : List (String × α)) : StringMap α :=
  entries.foldl (fun m e => m.insert e.1 e.2) empty

def keys (m : StringMap α) : List String := m.entries.map (·.1)

/-- The entries of `upper` laid over those of `lower`. -/
def merge (lower upper : StringMap α) : StringMap α :=
  upper.entries.foldl (fun m e => m.insert e.1 e.2) lower

def erase (m : StringMap α) (name : String) : StringMap α :=
  ⟨m.entries.filter (fun e => e.1 ≠ name), m.sorted.sublist List.filter_sublist⟩

end StringMap

end WorkloadIdentity

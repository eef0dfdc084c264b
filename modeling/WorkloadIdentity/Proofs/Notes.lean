import WorkloadIdentity.Reconcile.Recorder

namespace WorkloadIdentity

/-- A condition as a pass words it. -/
structure Note where
  type : String
  status : ConditionStatus
  reason : String
  message : String
deriving DecidableEq, Repr

namespace Condition

variable {type : String} {old new : Condition} {conditions : List Condition}

theorem type_succeed (old new : Condition) : (succeed old new).type = new.type := by
  unfold succeed
  split <;> rfl

/-- A condition that says what the new one says, times apart, is kept as it is. -/
theorem succeed_of_not_differs (same : old.type = new.type) (h : differs old new = false) :
    succeed old new = old := by
  obtain ⟨type, status, reason, message, since, generation⟩ := old
  simp only [differs, ne_eq, Bool.or_eq_false_iff, decide_eq_false_iff_not, Decidable.not_not] at h
  obtain ⟨⟨⟨status, reason⟩, message⟩, generation⟩ := h
  obtain ⟨type', status', reason', message', now, generation'⟩ := new
  simp_all [succeed]

theorem find?_nil : find? type [] = none := rfl

theorem find?_cons (c : Condition) (rest : List Condition) :
    find? type (c :: rest) = if c.type = type then some c else find? type rest := by
  simp only [find?, List.find?_cons]
  split <;> simp_all

/-- What is found after a condition has been written. -/
theorem find?_upsert : find? type (upsert new conditions) =
    if new.type = type then some (((find? type conditions).map (succeed · new)).getD new)
    else find? type conditions := by
  induction conditions with
  | nil => simp [upsert, find?_cons, find?_nil]
  | cons c rest ih =>
    rw [upsert]
    by_cases here : c.type = new.type
    · rw [if_pos here, find?_cons, find?_cons, type_succeed, here]
      split <;> simp
    · rw [if_neg here, find?_cons, find?_cons, ih]
      by_cases e : new.type = type
      · have other : c.type ≠ type := fun e' => here (e'.trans e.symm)
        simp [e, other]
      · simp [e]

/-- Writing a condition keeps the types, or adds one. -/
theorem types_upsert (new : Condition) (conditions : List Condition) :
    (upsert new conditions).map (·.type) =
      if new.type ∈ conditions.map (·.type) then conditions.map (·.type)
      else conditions.map (·.type) ++ [new.type] := by
  induction conditions with
  | nil => simp [upsert]
  | cons c rest ih =>
    rw [upsert]
    by_cases here : c.type = new.type
    · simp [here, type_succeed]
    · rw [if_neg here, List.map_cons, ih]
      by_cases later : new.type ∈ rest.map (·.type)
      · simp [later]
      · simp [later, Ne.symm here]

/-- Types that stand once stay so. -/
theorem nodup_types_upsert (new : Condition) (once : (conditions.map (·.type)).Nodup) :
    ((upsert new conditions).map (·.type)).Nodup := by
  rw [types_upsert]
  split
  · exact once
  · rename_i absent
    exact List.nodup_append.2 ⟨once, List.pairwise_singleton _ _, by grind⟩

theorem upsert_of_not_changes (h : changes new conditions = false) :
    upsert new conditions = conditions := by
  induction conditions with
  | nil => cases h
  | cons c rest ih =>
    unfold changes at h
    rw [find?_cons] at h
    rw [upsert]
    by_cases here : c.type = new.type
    · rw [if_pos here] at h ⊢
      rw [succeed_of_not_differs here h]
    · rw [if_neg here] at h ⊢
      rw [ih h]

/-- The conditions of a type are the same, at the same places. -/
def InPlace (type : String) (before after : List Condition) : Prop :=
  ∀ (i : Nat) (c : Condition), c.type = type → (after[i]? = some c ↔ before[i]? = some c)

theorem InPlace.trans {first second third : List Condition} (h : InPlace type first second)
    (h' : InPlace type second third) : InPlace type first third :=
  fun i c here => (h' i c here).trans (h i c here)

/-- Conditions of other types than the one that is written stay in place. -/
theorem inPlace_upsert (other : new.type ≠ type) :
    InPlace type conditions (upsert new conditions) := by
  -- The new condition, at whatever place it is, is not one of the type.
  have apart {d c : Condition} (written : d.type = new.type) (here : c.type = type) : d ≠ c :=
    fun e => other (written.symm.trans (e ▸ here))
  induction conditions with
  | nil =>
    intro i c here
    cases i with
    | zero => simp [upsert, apart rfl here]
    | succ i => simp [upsert]
  | cons d rest ih =>
    intro i c here
    rw [upsert]
    split
    next same =>
      cases i with
      | zero => simp [apart (type_succeed d new) here, apart same here]
      | succ i => rfl
    next =>
      cases i with
      | zero => rfl
      | succ i => exact ih i c here

/-- The conditions say, of a generation of the resource, what a note says. -/
def Says (conditions : List Condition) (generation : Option Int) (n : Note) : Prop :=
  ∃ c, find? n.type conditions = some c ∧ c.status = n.status ∧ c.reason = n.reason ∧
    c.message = n.message ∧ c.observedGeneration = generation

end Condition

namespace Recorder

/-- Writes a note. -/
def put (now : String) (r : Recorder) (n : Note) : Recorder :=
  r.set now n.type n.status n.reason n.message

/-- Writes the notes of a pass. -/
def write (r : Recorder) (now : String) (notes : List Note) : Recorder := notes.foldl (put now) r

/-- The conditions say what a note says. -/
def Holds (r : Recorder) (n : Note) : Prop :=
  ∃ c, Condition.find? n.type r.conditions = some c ∧ c.status = n.status ∧ c.reason = n.reason ∧
    c.message = n.message ∧ c.observedGeneration = r.generation

variable {now : String} {r : Recorder} {n : Note} {notes : List Note}

theorem put_of_holds (h : r.Holds n) : r.put now n = r := by
  obtain ⟨c, found, status, reason, message, generation⟩ := h
  have same : Condition.changes
      (.new now n.type n.status n.reason n.message r.generation) r.conditions = false := by
    simp [Condition.changes, found, Condition.differs, Condition.new, status, reason, message,
      generation]
  obtain ⟨conditions, generation, changed⟩ := r
  simp only [put, set, same, Bool.or_false, Condition.upsert_of_not_changes same]

theorem holds_put : (r.put now n).Holds n := by
  refine ⟨_, Condition.find?_upsert.trans (if_pos rfl), ?_⟩
  cases Condition.find? n.type r.conditions with
  | none => exact ⟨rfl, rfl, rfl, rfl⟩
  | some old =>
    simp only [Option.map_some, Option.getD_some, Condition.succeed]
    split <;> exact ⟨rfl, rfl, rfl, rfl⟩

theorem Holds.put {m : Note} (h : r.Holds m) (other : m.type ≠ n.type) : (r.put now n).Holds m := by
  obtain ⟨c, found, agrees⟩ := h
  exact ⟨c, (Condition.find?_upsert.trans (if_neg other.symm)).trans found, agrees⟩

theorem Holds.write {m : Note} (h : r.Holds m) (other : m.type ∉ notes.map (·.type)) :
    (r.write now notes).Holds m := by
  induction notes generalizing r with
  | nil => exact h
  | cons n rest ih =>
    rw [List.map_cons, List.mem_cons, not_or] at other
    exact ih (h.put other.1) other.2

/-- Notes of different types are all said afterwards. -/
theorem holds_write (once : (notes.map (·.type)).Nodup) :
    ∀ n ∈ notes, (r.write now notes).Holds n := by
  induction notes generalizing r with
  | nil => simp
  | cons n rest ih =>
    obtain ⟨notIn, once⟩ := List.nodup_cons.1 once
    intro m hm
    rcases List.mem_cons.1 hm with rfl | hm
    · exact holds_put.write notIn
    · exact ih once m hm

theorem write_of_holds (h : ∀ n ∈ notes, r.Holds n) : r.write now notes = r := by
  induction notes with
  | nil => rfl
  | cons n rest ih =>
    have here : r.put now n = r := put_of_holds (h n List.mem_cons_self)
    change (r.put now n).write now rest = r
    rw [here]
    exact ih fun m hm => h m (List.mem_cons_of_mem _ hm)

theorem generation_write (r : Recorder) (now : String) (notes : List Note) :
    (r.write now notes).generation = r.generation := by
  induction notes generalizing r with
  | nil => rfl
  | cons n rest ih => exact ih (r.put now n)

/-- A recorder that remembers no change has made none. -/
theorem eq_of_not_changed (h : (r.write now notes).changed = false) : r.write now notes = r := by
  induction notes generalizing r with
  | nil => rfl
  | cons n rest ih =>
    change (r.put now n).write now rest = r
    have later : (r.put now n).write now rest = r.put now n := ih h
    have unchanged : (r.put now n).changed = false := by
      rw [← later]
      exact h
    obtain ⟨conditions, generation, changed⟩ := r
    obtain ⟨rfl, same⟩ := Bool.or_eq_false_iff.1 unchanged
    rw [later]
    simp only [put, set, same, Bool.or_false, Condition.upsert_of_not_changes same]

/-- What is said after notes of different types have been written. -/
theorem says_write (once : (notes.map (·.type)).Nodup) (hn : n ∈ notes) :
    Condition.Says (r.write now notes).conditions r.generation n := by
  have said : (r.write now notes).Holds n := holds_write once n hn
  rw [Holds, generation_write] at said
  exact said

/-- **Conditions settle.** A pass that starts with the conditions that another one has written, and
writes the same notes for the same generation, changes none of them. -/
theorem write_again (once : (notes.map (·.type)).Nodup) (later : String) :
    (start (r.write now notes).conditions r.generation).write later notes =
      start (r.write now notes).conditions r.generation := by
  apply write_of_holds
  exact fun n hn => says_write once hn

/-- Conditions of which no note is written stay in place. -/
theorem inPlace_write {type : String} (other : type ∉ notes.map (·.type)) :
    Condition.InPlace type r.conditions (r.write now notes).conditions := by
  induction notes generalizing r with
  | nil => exact fun _ _ _ => Iff.rfl
  | cons n rest ih =>
    rw [List.map_cons, List.mem_cons, not_or] at other
    have first : Condition.InPlace type r.conditions (r.put now n).conditions :=
      Condition.inPlace_upsert (Ne.symm other.1)
    exact first.trans (ih other.2)

/-- **A recorder remembers a change exactly if the conditions differ.** With one note for each type,
nothing that is changed is changed back. -/
theorem changed_write_iff (once : (notes.map (·.type)).Nodup) (fresh : r.changed = false) :
    (r.write now notes).changed = true ↔ (r.write now notes).conditions ≠ r.conditions := by
  constructor
  · intro changed same
    have held : ∀ n ∈ notes, r.Holds n := by
      intro n hn
      have said : Condition.Says (r.write now notes).conditions r.generation n := says_write once hn
      rw [same] at said
      exact said
    rw [write_of_holds held, fresh] at changed
    cases changed
  · intro differ
    refine eq_true_of_ne_false fun unchanged => differ ?_
    exact congrArg conditions (eq_of_not_changed unchanged)

theorem write_append (now : String) (r : Recorder) (first second : List Note) :
    r.write now (first ++ second) = (r.write now first).write now second :=
  List.foldl_append ..

end Recorder

end WorkloadIdentity

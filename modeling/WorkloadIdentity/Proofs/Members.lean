import WorkloadIdentity.Api.Server
import WorkloadIdentity.Object.Meta
import WorkloadIdentity.Proofs.Maps

namespace WorkloadIdentity

/-- None of the names is used. -/
def Members.Avoid (names : List String) (members : Members) : Prop :=
  ∀ m ∈ members, m.1 ∉ names

namespace Members

variable {names : List String}

@[simp]
theorem avoid_nil (names : List String) : Avoid names [] := nofun

@[simp]
theorem avoid_cons (m : String × Json) (rest : Members) :
    Avoid names (m :: rest) ↔ m.1 ∉ names ∧ Avoid names rest :=
  List.forall_mem_cons

@[simp]
theorem avoid_append (xs ys : Members) :
    Avoid names (xs ++ ys) ↔ Avoid names xs ∧ Avoid names ys :=
  List.forall_mem_append

theorem avoid_optional {name : String} (other : name ∉ names) (v : Option Json) :
    Avoid names (Json.optional name v) := by
  cases v <;> simp [Json.optional, other]

/-- A member that is there has been read from something. -/
theorem exists_of_optional {α : Type} {members : Members} {name : String}
    {read : Json → Option α} {a : α} (h : members.optional name read = some (some a)) :
    ∃ v, Json.lookup name members = some v ∧ read v = some a := by
  unfold optional at h
  split at h
  · cases h
  · cases h
  · rename_i v _ here
    obtain ⟨b, read, e⟩ := Option.map_eq_some_iff.1 h
    injection e with e
    exact ⟨v, here, e ▸ read⟩

/-- What has been read, or stands for what is missing, is a value. -/
theorem value_of_withDefault {α : Type} {members : Members} {name : String} {a default : α}
    {read : Json → Option α} {IsValue : α → Prop}
    (h : members.withDefault name default read = some a) (fits : IsValue default)
    (value : ∀ v a, read v = some a → IsValue a) : IsValue a := by
  unfold withDefault at h
  split at h
  · exact value _ _ h
  · cases h
    exact fits

end Members

namespace Json

variable {name : String}

@[simp]
theorem lookup_nil (name : String) : lookup name [] = none := rfl

@[simp]
theorem lookup_cons_ite (name k : String) (v : Json) (rest : Members) :
    lookup name ((k, v) :: rest) = if name = k then some v else lookup name rest :=
  WorkloadIdentity.lookup_cons_ite name k v rest

@[simp]
theorem lookup_append (name : String) (xs ys : Members) :
    lookup name (xs ++ ys) = (lookup name xs).or (lookup name ys) :=
  WorkloadIdentity.lookup_append name xs ys

@[simp]
theorem lookup_optional (name k : String) (v : Option Json) :
    lookup name (optional k v) = if name = k then v else none := by
  cases v with
  | none => simp [optional, lookup_nil]
  | some v => simp [optional, lookup_cons_ite, lookup_nil]

section
variable (name k : String)

@[simp]
theorem lookup_optionalText (v : Option String) :
    lookup name (optionalText k v) = if name = k then v.map str else none :=
  lookup_optional name k _

@[simp]
theorem lookup_optionalFlag (v : Option Bool) :
    lookup name (optionalFlag k v) = if name = k then v.map bool else none :=
  lookup_optional name k _

@[simp]
theorem lookup_optionalInt (v : Option Int) :
    lookup name (optionalInt k v) = if name = k then v.map int else none :=
  lookup_optional name k _

@[simp]
theorem lookup_optionalMap (v : Option Labels) :
    lookup name (optionalMap k v) = if name = k then v.map ofStrings else none :=
  lookup_optional name k _

@[simp]
theorem lookup_optionalTexts (v : Option (List String)) :
    lookup name (optionalTexts k v) = if name = k then v.map strings else none :=
  lookup_optional name k _

@[simp]
theorem lookup_optionalItems (v : Option (List Json)) :
    lookup name (optionalItems k v) = if name = k then v.map arr else none :=
  lookup_optional name k _

end

theorem lookup_of_avoid {names : List String} {members : Members} (h : members.Avoid names)
    (used : name ∈ names) : lookup name members = none := by
  induction members with
  | nil => rfl
  | cons head rest ih =>
    obtain ⟨k, v⟩ := head
    have ne : name ≠ k := fun e => h (k, v) List.mem_cons_self (e ▸ used)
    rw [lookup_cons_ite, if_neg ne]
    exact ih fun m hm => h m (List.mem_cons_of_mem _ hm)

theorem lookup_insertMember (name k : String) (v : Json) (members : Members) :
    lookup name (insertMember k v members) = if name = k then some v else lookup name members := by
  induction members with
  | nil => rw [insertMember, lookup_cons_ite]
  | cons head rest ih =>
    obtain ⟨l, w⟩ := head
    rw [insertMember]
    split
    · rename_i same
      rw [lookup_cons_ite, lookup_cons_ite, same]
      split <;> rfl
    · rename_i other
      rw [lookup_cons_ite, lookup_cons_ite, ih]
      by_cases e : name = l
      · simp [e, other]
      · simp [e]

theorem lookup_eraseMember (name k : String) (members : Members) :
    lookup name (eraseMember k members) = if name = k then none else lookup name members := by
  have kept := lookup_filter (fun n => decide (n ≠ k)) name members
  simp only [decide_not, Bool.not_eq_true', decide_eq_false_iff_not] at kept
  unfold lookup eraseMember
  simp only [ne_eq, decide_not, kept]
  by_cases e : name = k <;> simp [e]

theorem lookup_without {names : List String} (other : name ∉ names) (v : Json) :
    lookup name (v.without names) = v.get? name := by
  cases v with
  | obj members =>
    have kept := lookup_filter (fun n => !names.contains n) name members
    simp only [Bool.not_eq_true', List.contains_eq_mem, decide_eq_false_iff_not] at kept
    unfold lookup without
    simp only [List.contains_eq_mem, kept]
    exact if_pos other
  | _ => rfl

theorem bind_map_of_inverse {α : Type} {write : α → Json} {look : Json → Option α}
    (inverse : ∀ a, look (write a) = some a) (o : Option α) : (o.map write).bind look = o := by
  cases o with
  | none => rfl
  | some a => exact inverse a

@[simp]
theorem str?_str (s : String) : (str s).str? = some s := rfl

@[simp]
theorem int?_int (i : Int) : (int i).int? = some i := rfl

@[simp]
theorem bind_map_str (o : Option String) : (o.map str).bind str? = o := by
  cases o <;> rfl

@[simp]
theorem bind_map_bool (o : Option Bool) : (o.map bool).bind bool? = o := by
  cases o <;> rfl

@[simp]
theorem bind_map_int (o : Option Int) : (o.map int).bind int? = o := by
  cases o <;> rfl

@[simp]
theorem map?_ofStrings (m : StringMap String) : map? str? (ofStrings m) = some m := by
  have texts (entries : List (String × String)) :
      (entries.map fun e => (e.1, str e.2)).mapM (fun m => (str? m.2).map fun v => (m.1, v)) =
        some entries := by
    induction entries with
    | nil => rfl
    | cons head rest ih =>
      rw [List.map_cons, List.mapM_cons, ih]
      rfl
  simp [ofStrings, ofMap, map?, texts, StringMap.ofList_entries]

@[simp]
theorem bind_map_ofStrings (o : Option Labels) : (o.map ofStrings).bind (map? str?) = o :=
  bind_map_of_inverse map?_ofStrings o

/-- Values that are read again one by one are read again as a list. -/
theorem list?_map {α : Type} {write : α → Json} {look : Json → Option α} {items : List α}
    (inverse : ∀ a ∈ items, look (write a) = some a) :
    list? look (arr (items.map write)) = some items := by
  induction items with
  | nil => rfl
  | cons item rest ih =>
    obtain ⟨here, later⟩ := List.forall_mem_cons.1 inverse
    have rest := ih later
    simp only [list?, List.map_cons, List.mapM_cons] at rest ⊢
    rw [here, rest]
    rfl

@[simp]
theorem list?_strings (items : List String) : list? str? (strings items) = some items :=
  list?_map fun item _ => str?_str item

@[simp]
theorem bind_map_strings (o : Option (List String)) : (o.map strings).bind (list? str?) = o :=
  bind_map_of_inverse list?_strings o

@[simp]
theorem list?_arr (items : List Json) : list? some (arr items) = some items := by
  have again : list? some (arr (items.map id)) = some items := list?_map fun _ _ => rfl
  rwa [List.map_id] at again

/-- A number between two bounds that is read is between them when it is written. -/
theorem intIn?_again {low high i : Int} {v : Json} (h : intIn? low high v = some i) :
    intIn? low high (.int i) = some i := by
  cases v with
  | int j =>
    have inside := h
    simp only [intIn?] at inside
    split at inside
    · cases inside
      exact h
    · cases inside
  | _ => cases h

section
variable {α β γ : Type}

theorem map_getD_nil (items : Option (List α)) (seen : α → β) :
    (items.getD []).map seen = (items.map (·.map seen)).getD [] := by
  cases items <;> rfl

theorem map_getD_map (items : Option (List α)) (look : α → β) (seen : β → γ) :
    ((items.map (·.map look)).getD []).map seen =
      (items.map (·.map fun a => seen (look a))).getD [] := by
  cases items with
  | none => rfl
  | some items => exact List.map_map

end

@[simp]
theorem get?_obj (name : String) (members : Members) :
    (obj members).get? name = lookup name members := rfl

/-- Writing one member leaves the others as they are. -/
theorem get?_insert_of_ne {k : String} (ne : name ≠ k) (target v : Json) :
    (target.insert k v).get? name = target.get? name := by
  cases target <;> simp [insert, get?, lookup_insertMember, ne]

theorem get?_insert_self (name : String) (members : Members) (v : Json) :
    ((obj members).insert name v).get? name = some v := by
  simp [insert, lookup_insertMember]

theorem lookup_mergeMembers_of_absent {changes : Members} (absent : ∀ m ∈ changes, m.1 ≠ name)
    (members : Members) : lookup name (mergeMembers members changes) = lookup name members := by
  induction changes generalizing members with
  | nil => rw [mergeMembers]
  | cons head rest ih =>
    obtain ⟨k, change⟩ := head
    have ne : name ≠ k := fun e => absent (k, change) List.mem_cons_self e.symm
    have rest := ih fun m hm => absent m (List.mem_cons_of_mem _ hm)
    cases change <;> simp [mergeMembers, rest, lookup_eraseMember, lookup_insertMember, ne]

end Json

namespace Server

variable {name : String}

theorem get?_versioned_of_ne (ne : name ≠ "metadata") (object : Json) (version : Nat) :
    (versioned object version).get? name = object.get? name := by
  rw [versioned]
  exact Json.get?_insert_of_ne ne _ _

theorem get?_metadata_versioned {object m : Json} (h : object.get? "metadata" = some m)
    (version : Nat) : (versioned object version).get? "metadata" =
      some (m.insert "resourceVersion" (.str (toString version))) := by
  cases object with
  | obj members =>
    rw [versioned, h]
    exact Json.get?_insert_self _ _ _
  | _ => cases h

theorem get?_keepStatus (ne : name ≠ "status") (stored object : Json) :
    (keepStatus stored object).get? name = object.get? name := by
  unfold keepStatus
  split
  · exact Json.get?_insert_of_ne ne _ _
  · rfl

end Server

end WorkloadIdentity

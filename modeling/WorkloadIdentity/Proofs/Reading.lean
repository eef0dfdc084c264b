import WorkloadIdentity.Proofs.Members

namespace WorkloadIdentity.Shape

/-- The members of a record: their names, whether they are always written, and their shapes. -/
abbrev Fields := List (String × Bool × Shape)

/-- What stands for a missing member. -/
def filler (always : Bool) (shape : Shape) : Option Json := if always then some shape.zero else none

/-- What becomes of one member of a record, `none` where the member does not fit. -/
def readMember (always : Bool) (shape : Shape) : Option Json → Option (Option Json)
  | none => some (filler always shape)
  | some v =>
    if v.isNull && nullMeansMissing shape then some (filler always shape)
    else (read shape v).map some

variable {fields : Fields} {name : String} {always : Bool} {shape : Shape} {v w : Json}

theorem readMembers_cons (members : Members) :
    readMembers ((name, always, shape) :: fields) members =
      (readMembers fields members).bind fun others =>
        (readMember always shape (Json.lookup name members)).map fun here =>
          Json.optional name here ++ others := by
  rw [readMembers]
  cases readMembers fields members with
  | none => rfl
  | some others =>
    cases Json.lookup name members with
    | none => cases always <;> rfl
    | some v =>
      simp only [readMember, Option.bind_some]
      split
      · cases always <;> rfl
      · cases shape.read v <;> rfl

theorem lookup_readMembers_of_unknown {members found : Members}
    (h : readMembers fields members = some found) (unknown : name ∉ fields.map Prod.fst) :
    Json.lookup name found = none := by
  induction fields generalizing found with
  | nil =>
    rw [readMembers] at h
    cases h
    rfl
  | cons head rest ih =>
    obtain ⟨k, always, shape⟩ := head
    rw [readMembers_cons] at h
    obtain ⟨others, later, h⟩ := Option.bind_eq_some_iff.1 h
    obtain ⟨here, -, rfl⟩ := Option.map_eq_some_iff.1 h
    have ne : name ≠ k := fun e => unknown (e ▸ List.mem_cons_self)
    rw [Json.lookup_append, Json.lookup_optional, if_neg ne]
    exact ih later fun mem => unknown (List.mem_cons_of_mem _ mem)

theorem readMember_lookup (once : (fields.map Prod.fst).Nodup) {members found : Members}
    (h : readMembers fields members = some found)
    (known : List.lookup name fields = some (always, shape)) :
    readMember always shape (Json.lookup name members) = some (Json.lookup name found) := by
  induction fields generalizing found with
  | nil => cases known
  | cons head rest ih =>
    obtain ⟨k, always', shape'⟩ := head
    obtain ⟨notIn, once⟩ := List.nodup_cons.1 once
    rw [readMembers_cons] at h
    obtain ⟨others, later, h⟩ := Option.bind_eq_some_iff.1 h
    obtain ⟨here, read, rfl⟩ := Option.map_eq_some_iff.1 h
    rw [WorkloadIdentity.lookup_cons_ite] at known
    rw [Json.lookup_append, Json.lookup_optional]
    by_cases e : name = k
    · subst e
      rw [if_pos rfl] at known ⊢
      cases known
      rw [read, lookup_readMembers_of_unknown later notIn, Option.or_none]
    · rw [if_neg e] at known ⊢
      exact ih once later known

/-- A member that does not fit makes the record unreadable. -/
theorem readMembers_eq_none {members : Members} (known : (name, always, shape) ∈ fields)
    (unfit : readMember always shape (Json.lookup name members) = none) :
    readMembers fields members = none := by
  induction fields with
  | nil => cases known
  | cons head rest ih =>
    obtain ⟨k, always', shape'⟩ := head
    rw [readMembers_cons]
    rcases List.mem_cons.1 known with here | known
    · cases here
      rw [unfit]
      cases readMembers rest members <;> rfl
    · rw [ih known]
      rfl

theorem read_record_eq_some (h : (record fields).read v = some w) :
    ∃ members found, v = .obj members ∧ w = .obj found ∧
      readMembers fields members = some found := by
  cases v with
  | obj members =>
    rw [read] at h
    obtain ⟨found, read, rfl⟩ := Option.map_eq_some_iff.1 h
    exact ⟨members, found, rfl, rfl, read⟩
  | _ => simp [read] at h

section
variable (once : (fields.map Prod.fst).Nodup) (h : (record fields).read v = some w)

include once h

/-- What is found in a record that has been read. -/
theorem readMember_get? (known : List.lookup name fields = some (always, shape)) :
    readMember always shape (v.get? name) = some (w.get? name) := by
  obtain ⟨members, found, rfl, rfl, read⟩ := read_record_eq_some h
  exact readMember_lookup once read known

theorem get?_read_of_none (known : List.lookup name fields = some (always, shape))
    (here : v.get? name = none) : w.get? name = filler always shape := by
  have read := readMember_get? once h known
  rw [here] at read
  injection read with read
  exact read.symm

theorem get?_read_of_some (known : List.lookup name fields = some (always, shape)) {x : Json}
    (here : v.get? name = some x) (notNull : x.isNull = false) :
    ∃ y, shape.read x = some y ∧ w.get? name = some y := by
  have read := readMember_get? once h known
  rw [here] at read
  simp only [readMember, notNull, Bool.false_and, Bool.false_eq_true, if_false,
    Option.map_eq_some_iff] at read
  obtain ⟨y, read, e⟩ := read
  exact ⟨y, read, e.symm⟩

/-- A way to look at a member that may be missing and that reading does not affect sees the same
before and after. -/
theorem bind_get?_read {α : Type} {look : Json → Option α}
    (known : List.lookup name fields = some (false, shape))
    (clear : ∀ x y, shape.read x = some y → look y = look x) (null : look .null = none) :
    (w.get? name).bind look = (v.get? name).bind look := by
  have read := readMember_get? once h known
  cases here : v.get? name with
  | none =>
    rw [here] at read
    injection read with read
    rw [← read]
    rfl
  | some x =>
    rw [here, readMember] at read
    split at read
    · rename_i isNull
      injection read with read
      have e : x = .null := by cases x <;> simp_all [Json.isNull]
      rw [← read, e]
      exact null.symm
    · obtain ⟨y, read, e⟩ := Option.map_eq_some_iff.1 read
      rw [← e]
      exact clear x y read

end

/-- Whether values of a shape are kept as they are. -/
def isExact : Shape → Bool
  | time => false
  | list item => item.isExact
  | map _ => false
  | record _ => false
  | _ => true

theorem mapM_cons_eq_some {α β : Type} {f : α → Option β} {x : α} {xs : List α} {ys : List β}
    (h : (x :: xs).mapM f = some ys) :
    ∃ y rest, f x = some y ∧ xs.mapM f = some rest ∧ ys = y :: rest := by
  rw [List.mapM_cons] at h
  obtain ⟨y, here, h⟩ := Option.bind_eq_some_iff.1 h
  obtain ⟨rest, later, h⟩ := Option.bind_eq_some_iff.1 h
  injection h with h
  exact ⟨y, rest, here, later, h.symm⟩

theorem eq_of_mapM {α : Type} {f : α → Option α} (keeps : ∀ x y, f x = some y → y = x)
    {xs ys : List α} (h : xs.mapM f = some ys) : ys = xs := by
  induction xs generalizing ys with
  | nil => simpa using h.symm
  | cons x xs ih =>
    obtain ⟨y, rest, here, later, rfl⟩ := mapM_cons_eq_some h
    rw [keeps x y here, ih later]

theorem eq_of_intIn? {low high : Int} (h : (Json.intIn? low high v).map Json.int = some w) :
    w = v := by
  obtain ⟨i, inside, rfl⟩ := Option.map_eq_some_iff.1 h
  cases v <;> simp only [Json.intIn?, reduceCtorEq] at inside
  split at inside
  · injection inside with inside
    rw [inside]
  · cases inside

theorem eq_of_readLeaf (h : readLeaf shape v = some w) (notTime : shape ≠ time) : w = v := by
  unfold readLeaf at h
  split at h
  · injection h with h; exact h.symm
  · injection h with h; exact h.symm
  · injection h with h; exact h.symm
  · exact eq_of_intIn? h
  · exact eq_of_intIn? h
  · injection h with h; exact h.symm
  · exact eq_of_intIn? h
  · exact absurd rfl notTime
  · split at h
    · injection h with h; exact h.symm
    · cases h
  · split at h
    · injection h with h; exact h.symm
    · cases h
  · cases h

theorem read_list_eq_some {item : Shape} (h : (list item).read v = some w) :
    ∃ items found, v = .arr items ∧ w = .arr found ∧ items.mapM item.read = some found := by
  cases v with
  | arr items =>
    rw [read] at h
    obtain ⟨found, read, rfl⟩ := Option.map_eq_some_iff.1 h
    exact ⟨items, found, rfl, rfl, read⟩
  | _ => simp [read] at h

theorem eq_of_read : ∀ {shape : Shape}, shape.isExact = true → ∀ {v w : Json},
    shape.read v = some w → w = v
  | list item, exact, v, w, h => by
    rw [isExact] at exact
    obtain ⟨items, found, rfl, rfl, read⟩ := read_list_eq_some h
    rw [eq_of_mapM (fun x y => eq_of_read exact) read]
  | any, _, v, w, h => by rw [read] at h; exact eq_of_readLeaf h nofun
  | text, _, v, w, h => by rw [read] at h; exact eq_of_readLeaf h nofun
  | flag, _, v, w, h => by rw [read] at h; exact eq_of_readLeaf h nofun
  | int32, _, v, w, h => by rw [read] at h; exact eq_of_readLeaf h nofun
  | int64, _, v, w, h => by rw [read] at h; exact eq_of_readLeaf h nofun
  | intOrText, _, v, w, h => by rw [read] at h; exact eq_of_readLeaf h nofun
  | base64, _, v, w, h => by rw [read] at h; exact eq_of_readLeaf h nofun
  | constant _, _, v, w, h => by rw [read] at h; exact eq_of_readLeaf h nofun

theorem entries_of_mapM_text {members found : Members}
    (h : members.mapM (fun m => (text.read m.2).map fun w => (m.1, w)) = some found) :
    ∃ entries : List (String × String), found = entries.map (fun e => (e.1, Json.str e.2)) ∧
      members.mapM (fun m => (Json.str? m.2).map fun v => (m.1, v)) = some entries := by
  induction members generalizing found with
  | nil => exact ⟨[], by simpa using h.symm, rfl⟩
  | cons head rest ih =>
    obtain ⟨y, others, here, later, rfl⟩ := mapM_cons_eq_some h
    obtain ⟨w, leaf, rfl⟩ := Option.map_eq_some_iff.1 here
    obtain ⟨entries, rfl, looked⟩ := ih later
    obtain ⟨s, isText⟩ : ∃ s, head.2 = .str s := by
      cases e : head.2 <;> simp [e, Shape.read, readLeaf] at leaf ⊢
    have same := eq_of_read rfl leaf
    refine ⟨(head.1, s) :: entries, by rw [same, isText]; rfl, ?_⟩
    rw [List.mapM_cons, looked, isText]
    rfl

/-- A map of texts is read into the form in which it is written. -/
theorem read_textMap (h : textMap.read v = some w) :
    ∃ m, Json.map? Json.str? v = some m ∧ w = Json.ofStrings m := by
  cases v with
  | obj members =>
    rw [textMap, read] at h
    obtain ⟨found, read, rfl⟩ := Option.map_eq_some_iff.1 h
    obtain ⟨entries, rfl, looked⟩ := entries_of_mapM_text read
    refine ⟨StringMap.ofList entries, ?_, ?_⟩
    · simp only [Json.map?, looked, Option.map_some]
    · rw [StringMap.entries_ofList_map]
      rfl
  | _ => simp [textMap, read] at h

/-- What is seen of each item of a list that has been written and read. -/
theorem items_again {α β : Type} {item : Shape} {write : α → Json} {look : Json → β} {seen : α → β}
    {items : List α} (each : ∀ a ∈ items, ∀ y, item.read (write a) = some y → look y = seen a)
    (h : (list item).read (.arr (items.map write)) = some w) :
    ∃ found, w = .arr found ∧ found.map look = items.map seen := by
  obtain ⟨written, found, e, rfl, read⟩ := read_list_eq_some h
  injection e with e
  subst e
  clear h
  refine ⟨found, rfl, ?_⟩
  induction items generalizing found with
  | nil =>
    obtain rfl : [] = found := by simpa using read
    rfl
  | cons a rest ih =>
    obtain ⟨y, others, here, later, rfl⟩ := mapM_cons_eq_some read
    rw [List.map_cons, List.map_cons, each a List.mem_cons_self y here,
      ih (fun b hb => each b (List.mem_cons_of_mem _ hb)) others later]

section
variable (once : (fields.map Prod.fst).Nodup) (h : (record fields).read v = some w)

include once h

theorem bind_get?_read_of_exact {α : Type} {look : Json → Option α} (exact : shape.isExact = true)
    (known : List.lookup name fields = some (false, shape)) (null : look .null = none) :
    (w.get? name).bind look = (v.get? name).bind look := by
  refine bind_get?_read once h known (fun x y read => ?_) null
  rw [eq_of_read exact read]

/-- The same for a member that is always written, and that says by default what its absence says. -/
theorem getD_get?_read {α : Type} {look : Json → Option α} {default : α}
    (known : List.lookup name fields = some (true, shape))
    (clear : ∀ x y, shape.read x = some y → look y = look x) (null : look .null = none)
    (zero : look shape.zero = some default) :
    ((w.get? name).bind look).getD default = ((v.get? name).bind look).getD default := by
  have read := readMember_get? once h known
  cases here : v.get? name with
  | none =>
    rw [here] at read
    injection read with read
    rw [← read, filler, if_pos rfl, Option.bind_some, zero]
    rfl
  | some x =>
    rw [here, readMember] at read
    split at read
    · rename_i isNull
      injection read with read
      have e : x = .null := by cases x <;> simp_all [Json.isNull]
      rw [← read, filler, if_pos rfl, Option.bind_some, Option.bind_some, zero, e, null]
      rfl
    · obtain ⟨y, read, e⟩ := Option.map_eq_some_iff.1 read
      rw [← e, Option.bind_some, Option.bind_some, clear x y read]

theorem textAt_read (known : List.lookup name fields = some (false, text)) :
    w.textAt name = v.textAt name :=
  bind_get?_read_of_exact once h rfl known rfl

theorem flagAt_read (known : List.lookup name fields = some (false, flag)) :
    w.flagAt name = v.flagAt name :=
  bind_get?_read_of_exact once h rfl known rfl

theorem intAt_read (exact : shape.isExact = true)
    (known : List.lookup name fields = some (false, shape)) : w.intAt name = v.intAt name :=
  bind_get?_read_of_exact once h exact known rfl

theorem textsAt_read (known : List.lookup name fields = some (false, texts)) :
    w.textsAt name = v.textsAt name :=
  bind_get?_read_of_exact once h rfl known rfl

theorem mapAt_read (known : List.lookup name fields = some (false, textMap)) :
    w.mapAt name = v.mapAt name := by
  refine bind_get?_read once h known (fun x y read => ?_) rfl
  obtain ⟨m, looked, rfl⟩ := read_textMap read
  rw [looked, Json.map?_ofStrings]

theorem getD_textAt_read (known : List.lookup name fields = some (true, text)) :
    (w.textAt name).getD "" = (v.textAt name).getD "" :=
  getD_get?_read once h known (fun x y read => by rw [eq_of_read rfl read]) rfl rfl

theorem getD_intAt_read (known : List.lookup name fields = some (true, int32)) :
    (w.intAt name).getD 0 = (v.intAt name).getD 0 :=
  getD_get?_read once h known (fun x y read => by rw [eq_of_read rfl read]) rfl rfl

theorem getD_textsAt_read (known : List.lookup name fields = some (true, texts)) :
    (w.textsAt name).getD [] = (v.textsAt name).getD [] :=
  getD_get?_read once h known (fun x y read => by rw [eq_of_read rfl read]) rfl rfl

section
variable {α β : Type} {item : Shape} {write : α → Json} {look : Json → β} {seen : α → β}

/-- What is seen of the items of a member that has been written. -/
theorem itemsAt_again_of_some {items : List α}
    (known : List.lookup name fields = some (always, list item))
    (written : v.get? name = some (.arr (items.map write)))
    (each : ∀ a ∈ items, ∀ y, item.read (write a) = some y → look y = seen a) :
    (w.itemsAt name).map (·.map look) = some (items.map seen) := by
  obtain ⟨y, read, here⟩ := get?_read_of_some once h known written rfl
  obtain ⟨found, rfl, same⟩ := items_again each read
  rw [Json.itemsAt, here, Option.bind_some, Json.list?_arr, Option.map_some, same]

theorem itemsAt_again {items : Option (List α)}
    (known : List.lookup name fields = some (false, list item))
    (written : v.get? name = (items.map (·.map write)).map Json.arr)
    (each : ∀ a ∈ items.getD [], ∀ y, item.read (write a) = some y → look y = seen a) :
    (w.itemsAt name).map (·.map look) = items.map (·.map seen) := by
  cases items with
  | none => rw [Json.itemsAt, get?_read_of_none once h known written]; rfl
  | some items => exact itemsAt_again_of_some once h known written each

end

end

end WorkloadIdentity.Shape

import WorkloadIdentity.Proofs.Reading

/-! What has been read by a shape is in normal form: reading it again changes nothing. Shapes with
points in time are left out. -/

namespace WorkloadIdentity.Shape

mutual

/-- Whether no member stands twice in a record, and nothing is a point in time. -/
def isTidy : Shape → Bool
  | time => false
  | list item => item.isTidy
  | map text => true
  | map _ => false
  | record fields => decide (fields.map Prod.fst).Nodup && areTidy fields
  | _ => true

def areTidy : List (String × Bool × Shape) → Bool
  | [] => true
  | (_, _, shape) :: rest => shape.isTidy && areTidy rest

end

variable {fields : Fields} {name : String} {always : Bool} {shape : Shape} {v w : Json}

/-- Only the members with known names count. -/
theorem readMembers_congr {members others : Members}
    (same : ∀ name ∈ fields.map Prod.fst, Json.lookup name members = Json.lookup name others) :
    readMembers fields members = readMembers fields others := by
  induction fields with
  | nil => simp only [readMembers]
  | cons head rest ih =>
    obtain ⟨name, always, shape⟩ := head
    have rest := ih fun k hk => same k (List.mem_cons_of_mem _ hk)
    rw [readMembers_cons, readMembers_cons, rest, same name List.mem_cons_self]

theorem readMembers_nil (fields : Fields) : readMembers fields [] = some (zeroMembers fields) := by
  induction fields with
  | nil => simp only [readMembers, zeroMembers]
  | cons head rest ih =>
    obtain ⟨name, always, shape⟩ := head
    rw [readMembers_cons, ih, zeroMembers]
    cases always <;> rfl

/-- A value that has been read is `null` only if it was so before, and then any value is read. -/
theorem isNull_of_read (h : shape.read v = some w) (null : w.isNull = true) :
    v.isNull = true ∧ nullMeansMissing shape = true := by
  cases shape with
  | list item =>
    obtain ⟨items, found, rfl, rfl, -⟩ := read_list_eq_some h
    cases null
  | map value =>
    cases v with
    | obj members =>
      rw [read] at h
      obtain ⟨found, -, rfl⟩ := Option.map_eq_some_iff.1 h
      cases null
    | _ => simp [read] at h
  | record fields =>
    obtain ⟨members, found, rfl, rfl, -⟩ := read_record_eq_some h
    cases null
  | time =>
    cases v with
    | str s =>
      simp only [read, readLeaf, Option.map_eq_some_iff] at h
      obtain ⟨t, -, rfl⟩ := h
      cases null
    | _ => simp [read, readLeaf] at h
  | constant text =>
    have e := eq_of_read rfl h
    subst e
    cases w <;> simp_all [Json.isNull, read, readLeaf]
  | _ =>
    have e := eq_of_read rfl h
    subst e
    exact ⟨null, rfl⟩

theorem read_ofStrings (m : StringMap String) :
    (map text).read (Json.ofStrings m) = some (Json.ofStrings m) := by
  have texts (entries : List (String × String)) :
      (entries.map fun e => (e.1, Json.str e.2)).mapM
        (fun m => (text.read m.2).map fun w => (m.1, w)) =
        some (entries.map fun e => (e.1, Json.str e.2)) := by
    induction entries with
    | nil => rfl
    | cons head rest ih =>
      rw [List.map_cons, List.mapM_cons, ih]
      rfl
  rw [Json.ofStrings, Json.ofMap, read, texts, Option.map_some, StringMap.entries_ofList_map,
    StringMap.ofList_entries]

theorem mapM_again {α : Type} {f : α → Option α} (again : ∀ x y, f x = some y → f y = some y)
    {xs ys : List α} (h : xs.mapM f = some ys) : ys.mapM f = some ys := by
  induction xs generalizing ys with
  | nil =>
    obtain rfl : [] = ys := by simpa using h
    rfl
  | cons x xs ih =>
    obtain ⟨y, rest, here, later, rfl⟩ := mapM_cons_eq_some h
    rw [List.mapM_cons, again x y here, ih later]
    rfl

theorem readMember_again {m here : Option Json} (zero : shape.read shape.zero = some shape.zero)
    (again : ∀ v w, shape.read v = some w → shape.read w = some w)
    (fits : readMember always shape m = some here) : readMember always shape here = some here := by
  have filled : readMember always shape (filler always shape) = some (filler always shape) := by
    cases always with
    | false => rfl
    | true =>
      change (if shape.zero.isNull && nullMeansMissing shape then _ else _) = _
      split
      · rfl
      · rw [zero]
        rfl
  cases m with
  | none =>
    cases fits
    exact filled
  | some v =>
    rw [readMember] at fits
    split at fits
    · cases fits
      exact filled
    · rename_i notMissing
      obtain ⟨w, read, rfl⟩ := Option.map_eq_some_iff.1 fits
      have kept : ¬ (w.isNull && nullMeansMissing shape) = true := by
        intro missing
        obtain ⟨null, -⟩ := Bool.and_eq_true_iff.1 missing
        obtain ⟨null, means⟩ := isNull_of_read read null
        exact notMissing (by rw [null, means]; rfl)
      rw [readMember, if_neg kept, again v w read]
      rfl

mutual

theorem read_zero : ∀ {shape : Shape}, shape.isTidy = true → shape.read shape.zero = some shape.zero
  | list item, _ => by simp [zero, read]
  | map text, _ => by simp only [zero]; exact read_ofStrings ∅
  | record fields, tidy => by
    simp only [isTidy, Bool.and_eq_true, decide_eq_true_eq] at tidy
    simp only [zero, read, readMembers_again tidy.1 tidy.2 (readMembers_nil fields),
      Option.map_some]
  | any, _ => by simp only [zero, read, readLeaf]
  | text, _ => by simp only [zero, read, readLeaf]
  | flag, _ => by simp only [zero, read, readLeaf]
  | int32, _ => by simp only [zero, read]; rfl
  | int64, _ => by simp only [zero, read]; rfl
  | intOrText, _ => by simp only [zero, read]; rfl
  | base64, _ => by simp only [zero, read]; rfl
  | constant t, _ => by simp [zero, read, readLeaf]

/-- A value that has been read is read as itself. -/
theorem read_read : ∀ {shape : Shape}, shape.isTidy = true → ∀ {v w : Json},
    shape.read v = some w → shape.read w = some w
  | list item, tidy, v, w, h => by
    rw [isTidy] at tidy
    obtain ⟨items, found, rfl, rfl, each⟩ := read_list_eq_some h
    rw [read, mapM_again (fun x y => read_read tidy) each]
    rfl
  | map text, _, v, w, h => by
    obtain ⟨m, -, rfl⟩ := read_textMap h
    exact read_ofStrings m
  | record fields, tidy, v, w, h => by
    simp only [isTidy, Bool.and_eq_true, decide_eq_true_eq] at tidy
    obtain ⟨members, found, rfl, rfl, each⟩ := read_record_eq_some h
    simp only [read, readMembers_again tidy.1 tidy.2 each, Option.map_some]
  | any, _, v, w, h => by
    have e := eq_of_read rfl h
    subst e
    exact h
  | text, _, v, w, h => by
    have e := eq_of_read rfl h
    subst e
    exact h
  | flag, _, v, w, h => by
    have e := eq_of_read rfl h
    subst e
    exact h
  | int32, _, v, w, h => by
    have e := eq_of_read rfl h
    subst e
    exact h
  | int64, _, v, w, h => by
    have e := eq_of_read rfl h
    subst e
    exact h
  | intOrText, _, v, w, h => by
    have e := eq_of_read rfl h
    subst e
    exact h
  | base64, _, v, w, h => by
    have e := eq_of_read rfl h
    subst e
    exact h
  | constant t, _, v, w, h => by
    have e := eq_of_read rfl h
    subst e
    exact h

theorem readMembers_again : ∀ {fields : Fields}, (fields.map Prod.fst).Nodup →
    areTidy fields = true → ∀ {members found : Members},
    readMembers fields members = some found → readMembers fields found = some found
  | [], _, _, _, _, h => by
    simp only [readMembers, Option.some.injEq] at h ⊢
    exact h
  | (name, always, shape) :: rest, once, tidy, members, found, h => by
    obtain ⟨notIn, once⟩ := List.nodup_cons.1 once
    simp only [areTidy, Bool.and_eq_true] at tidy
    rw [readMembers_cons] at h
    obtain ⟨others, later, h⟩ := Option.bind_eq_some_iff.1 h
    obtain ⟨here, fits, rfl⟩ := Option.map_eq_some_iff.1 h
    have atRest : readMembers rest (Json.optional name here ++ others) = some others := by
      rw [← readMembers_again once tidy.2 later]
      refine readMembers_congr fun k hk => ?_
      have ne : k ≠ name := fun e => notIn (e ▸ hk)
      rw [Json.lookup_append, Json.lookup_optional, if_neg ne, Option.none_or]
    have atName : Json.lookup name (Json.optional name here ++ others) = here := by
      rw [Json.lookup_append, Json.lookup_optional, if_pos rfl,
        lookup_readMembers_of_unknown later notIn, Option.or_none]
    rw [readMembers_cons, atRest, atName, Option.bind_some,
      readMember_again (read_zero tidy.1) (fun v w => read_read tidy.1) fits]
    rfl

end

/-- What the items of a list have been read as is read as itself. -/
theorem forall_of_list? {items : List Json} (tidy : shape.isTidy = true)
    (h : Json.list? shape.read v = some items) : ∀ x ∈ items, shape.read x = some x := by
  cases v with
  | arr found =>
    change found.mapM shape.read = some items at h
    induction found generalizing items with
    | nil =>
      obtain rfl : [] = items := by simpa using h
      exact List.forall_mem_nil _
    | cons x rest ih =>
      obtain ⟨y, others, here, later, rfl⟩ := mapM_cons_eq_some h
      exact List.forall_mem_cons.2 ⟨read_read tidy here, ih later⟩
  | _ => cases h

end WorkloadIdentity.Shape

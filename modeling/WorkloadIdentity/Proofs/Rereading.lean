import WorkloadIdentity.Proofs.Normal
import WorkloadIdentity.Proofs.Timestamps

/-! Not all that has been read by a shape can be read again: a point in time may lie in a year that
is written with more than four digits. But what can be read again is read as itself. -/

namespace WorkloadIdentity.Shape

mutual

/-- Whether no member stands twice in a record. -/
def isPlain : Shape → Bool
  | list item => item.isPlain
  | map value => value.isPlain
  | record fields => decide (fields.map Prod.fst).Nodup && arePlain fields
  | _ => true

def arePlain : List (String × Bool × Shape) → Bool
  | [] => true
  | (_, _, shape) :: rest => shape.isPlain && arePlain rest

end

variable {fields : Fields} {name : String} {always : Bool} {shape value : Shape} {v w x : Json}

theorem exists_of_mem_mapM {α β : Type} {f : α → Option β} {xs : List α} {ys : List β}
    (h : xs.mapM f = some ys) : ∀ y ∈ ys, ∃ x, f x = some y := by
  induction xs generalizing ys with
  | nil =>
    obtain rfl : [] = ys := by simpa using h
    exact List.forall_mem_nil _
  | cons x xs ih =>
    obtain ⟨y, rest, here, later, rfl⟩ := mapM_cons_eq_some h
    exact List.forall_mem_cons.2 ⟨⟨x, here⟩, ih later⟩

theorem eq_of_mapM_of_mem {α : Type} {f : α → Option α} {xs ys : List α}
    (keeps : ∀ x ∈ xs, ∀ y, f x = some y → y = x) (h : xs.mapM f = some ys) : ys = xs := by
  induction xs generalizing ys with
  | nil => simpa using h.symm
  | cons x xs ih =>
    obtain ⟨y, rest, here, later, rfl⟩ := mapM_cons_eq_some h
    obtain ⟨keepsHere, keepsLater⟩ := List.forall_mem_cons.1 keeps
    rw [keepsHere y here, ih keepsLater later]

theorem mem_of_mem_ofList {α : Type} {entries : List (String × α)} {e : String × α}
    (h : e ∈ (StringMap.ofList entries).entries) : e ∈ entries := by
  have written (m : StringMap α) (given : List (String × α))
      (h : e ∈ (given.foldl (fun m e => m.insert e.1 e.2) m).entries) :
      e ∈ given ∨ e ∈ m.entries := by
    induction given generalizing m with
    | nil => exact .inr h
    | cons head rest ih =>
      rcases ih (m.insert head.1 head.2) h with later | here
      · exact .inl (List.mem_cons_of_mem _ later)
      · rcases mem_insertEntry here with rfl | before
        · exact .inl List.mem_cons_self
        · exact .inr before
  exact (written .empty entries h).resolve_right List.not_mem_nil

theorem eq_of_read_time {t : Int} (h : time.read (.str (Timestamp.text t)) = some x) :
    x = .str (Timestamp.text t) := by
  simp only [read, readLeaf, Option.map_eq_some_iff] at h
  obtain ⟨u, again, rfl⟩ := h
  rw [Timestamp.text_of_parse?_text again]

theorem eq_of_reread_time (first : time.read v = some w) (second : time.read w = some x) :
    x = w := by
  cases v with
  | str s =>
    simp only [read, readLeaf, Option.map_eq_some_iff] at first
    obtain ⟨t, -, rfl⟩ := first
    exact eq_of_read_time second
  | _ => simp [read, readLeaf] at first

theorem eq_of_reread_map
    (again : ∀ v w x, value.read v = some w → value.read w = some x → x = w)
    (first : (map value).read v = some w) (second : (map value).read w = some x) : x = w := by
  cases v with
  | obj members =>
    rw [read] at first
    obtain ⟨found, each, rfl⟩ := Option.map_eq_some_iff.1 first
    rw [read] at second
    obtain ⟨others, each', rfl⟩ := Option.map_eq_some_iff.1 second
    have same : others = (StringMap.ofList found).entries := by
      refine eq_of_mapM_of_mem (fun e mem e' here => ?_) each'
      obtain ⟨m, was⟩ := exists_of_mem_mapM each e (mem_of_mem_ofList mem)
      obtain ⟨y, readOnce, rfl⟩ := Option.map_eq_some_iff.1 was
      obtain ⟨z, readAgain, rfl⟩ := Option.map_eq_some_iff.1 here
      rw [again m.2 y z readOnce readAgain]
    rw [same, StringMap.ofList_entries]
  | _ => simp [read] at first

/-- What a member has been read as says the same when it is read again. -/
theorem eq_of_reread_member {m here next : Option Json}
    (zero : ∀ w, shape.read shape.zero = some w → w = shape.zero)
    (again : ∀ v w x, shape.read v = some w → shape.read w = some x → x = w)
    (first : readMember always shape m = some here)
    (second : readMember always shape here = some next) : next = here := by
  have filled (h : readMember always shape (filler always shape) = some next) :
      next = filler always shape := by
    cases always with
    | false =>
      injection h with h
      exact h.symm
    | true =>
      change (if shape.zero.isNull && nullMeansMissing shape then _ else _) = _ at h
      split at h
      · injection h with h
        exact h.symm
      · obtain ⟨w, read, rfl⟩ := Option.map_eq_some_iff.1 h
        rw [zero w read]
        rfl
  cases m with
  | none =>
    injection first with first
    subst first
    exact filled second
  | some v =>
    rw [readMember] at first
    split at first
    · injection first with first
      subst first
      exact filled second
    · rename_i notMissing
      obtain ⟨w, read, rfl⟩ := Option.map_eq_some_iff.1 first
      have kept : ¬ (w.isNull && nullMeansMissing shape) = true := by
        intro missing
        obtain ⟨null, -⟩ := Bool.and_eq_true_iff.1 missing
        obtain ⟨null, means⟩ := isNull_of_read read null
        exact notMissing (by rw [null, means]; rfl)
      rw [readMember, if_neg kept] at second
      obtain ⟨x, reread, rfl⟩ := Option.map_eq_some_iff.1 second
      rw [again v w x read reread]

mutual

theorem eq_zero_of_read : ∀ {shape : Shape}, shape.isPlain = true → ∀ {w : Json},
    shape.read shape.zero = some w → w = shape.zero
  | list item, _, w, h => by simpa [zero, read] using h.symm
  | map value, _, w, h => by
    simp only [zero, read, List.mapM_nil] at h
    injection h with h
    exact h.symm
  | record fields, plain, w, h => by
    simp only [isPlain, Bool.and_eq_true, decide_eq_true_eq] at plain
    simp only [zero, read] at h
    obtain ⟨found, reread, rfl⟩ := Option.map_eq_some_iff.1 h
    rw [zero, eq_of_reread_members plain.1 plain.2 (readMembers_nil fields) reread]
  | time, _, w, h => by
    rw [zero] at h ⊢
    exact eq_of_read_time h
  | any, _, w, h => eq_of_read rfl h
  | text, _, w, h => eq_of_read rfl h
  | flag, _, w, h => eq_of_read rfl h
  | int32, _, w, h => eq_of_read rfl h
  | int64, _, w, h => eq_of_read rfl h
  | intOrText, _, w, h => eq_of_read rfl h
  | base64, _, w, h => eq_of_read rfl h
  | constant t, _, w, h => eq_of_read rfl h

/-- **A value that has been read stays as it is when it is read again.** -/
theorem eq_of_reread : ∀ {shape : Shape}, shape.isPlain = true → ∀ {v w x : Json},
    shape.read v = some w → shape.read w = some x → x = w
  | list item, plain, v, w, x, first, second => by
    rw [isPlain] at plain
    obtain ⟨items, found, rfl, rfl, each⟩ := read_list_eq_some first
    obtain ⟨_, others, e, rfl, each'⟩ := read_list_eq_some second
    injection e with e
    subst e
    rw [eq_of_mapM_of_mem (fun y mem z reread => ?_) each']
    obtain ⟨a, read⟩ := exists_of_mem_mapM each y mem
    exact eq_of_reread plain read reread
  | map value, plain, v, w, x, first, second => by
    rw [isPlain] at plain
    exact eq_of_reread_map (fun _ _ _ => eq_of_reread plain) first second
  | record fields, plain, v, w, x, first, second => by
    simp only [isPlain, Bool.and_eq_true, decide_eq_true_eq] at plain
    obtain ⟨members, found, rfl, rfl, each⟩ := read_record_eq_some first
    obtain ⟨_, others, e, rfl, each'⟩ := read_record_eq_some second
    injection e with e
    subst e
    rw [eq_of_reread_members plain.1 plain.2 each each']
  | time, _, v, w, x, first, second => eq_of_reread_time first second
  | any, _, v, w, x, _, second => eq_of_read rfl second
  | text, _, v, w, x, _, second => eq_of_read rfl second
  | flag, _, v, w, x, _, second => eq_of_read rfl second
  | int32, _, v, w, x, _, second => eq_of_read rfl second
  | int64, _, v, w, x, _, second => eq_of_read rfl second
  | intOrText, _, v, w, x, _, second => eq_of_read rfl second
  | base64, _, v, w, x, _, second => eq_of_read rfl second
  | constant t, _, v, w, x, _, second => eq_of_read rfl second

theorem eq_of_reread_members : ∀ {fields : Fields}, (fields.map Prod.fst).Nodup →
    arePlain fields = true → ∀ {members found next : Members},
    readMembers fields members = some found → readMembers fields found = some next →
      next = found
  | [], _, _, _, _, _, first, second => by
    simp only [readMembers, Option.some.injEq] at first second
    exact second.symm.trans first
  | (name, always, shape) :: rest, once, plain, members, found, next, first, second => by
    obtain ⟨notIn, once⟩ := List.nodup_cons.1 once
    simp only [arePlain, Bool.and_eq_true] at plain
    rw [readMembers_cons] at first
    obtain ⟨others, later, first⟩ := Option.bind_eq_some_iff.1 first
    obtain ⟨here, fits, rfl⟩ := Option.map_eq_some_iff.1 first
    rw [readMembers_cons] at second
    obtain ⟨others', later', second⟩ := Option.bind_eq_some_iff.1 second
    obtain ⟨here', fits', rfl⟩ := Option.map_eq_some_iff.1 second
    have atRest : readMembers rest (Json.optional name here ++ others) =
        readMembers rest others := by
      refine readMembers_congr fun k hk => ?_
      have ne : k ≠ name := fun e => notIn (e ▸ hk)
      rw [Json.lookup_append, Json.lookup_optional, if_neg ne, Option.none_or]
    have atName : Json.lookup name (Json.optional name here ++ others) = here := by
      rw [Json.lookup_append, Json.lookup_optional, if_pos rfl,
        lookup_readMembers_of_unknown later notIn, Option.or_none]
    rw [atRest] at later'
    rw [atName] at fits'
    rw [eq_of_reread_members once plain.2 later later',
      eq_of_reread_member (fun _ => eq_zero_of_read plain.1) (fun _ _ _ => eq_of_reread plain.1)
        fits fits']

end

/-- What a member says: the form in which it is read, or the member as it is if it does not fit. -/
def seen (shape : Shape) (m : Option Json) : Option Json := (readMember false shape m).getD m

theorem seen_of_fits {m here : Option Json} (fits : readMember false shape m = some here) :
    shape.seen m = here := by
  rw [seen, fits]
  rfl

/-- The form in which a member is read says what the member has said. -/
theorem seen_seen (plain : shape.isPlain = true) (m : Option Json) :
    shape.seen (shape.seen m) = shape.seen m := by
  cases fits : readMember false shape m with
  | none => simp only [seen, fits, Option.getD_none]
  | some here =>
    rw [seen_of_fits fits, seen]
    cases again : readMember false shape here with
    | none => rfl
    | some next =>
      exact eq_of_reread_member (fun _ => eq_zero_of_read plain) (fun _ _ _ => eq_of_reread plain)
        fits again

/-- A record that has been read says openly what its members have said. -/
theorem get?_read_eq_seen (once : (fields.map Prod.fst).Nodup)
    (h : (record fields).read v = some w) (known : List.lookup name fields = some (false, shape)) :
    w.get? name = shape.seen (v.get? name) :=
  (seen_of_fits (readMember_get? once h known)).symm

end WorkloadIdentity.Shape

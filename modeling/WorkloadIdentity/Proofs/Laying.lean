import WorkloadIdentity.Proofs.Layers

/-! The members of a source have no order of their own. It makes no difference in which one they are
laid over the values so far, unless two of them lead to one place, or one of them leads into the
place of another: the values hold the same under the same names, and the same settings are read. -/

namespace WorkloadIdentity

namespace Json

/-- Values that hold the same under the same names, in whatever order the names come. -/
inductive SameContent : Json → Json → Prop
  | refl (v : Json) : SameContent v v
  | fields {a b : Members} (names : ∀ k, (lookup k a).isSome = (lookup k b).isSome)
      (inside : ∀ k v w, lookup k a = some v → lookup k b = some w → SameContent v w) :
      SameContent (.obj a) (.obj b)
  | items {a b : List Json} (places : ∀ i : Nat, a[i]?.isSome = b[i]?.isSome)
      (inside : ∀ (i : Nat) v w, a[i]? = some v → b[i]? = some w → SameContent v w) :
      SameContent (.arr a) (.arr b)

/-- Both are missing, or both are there with the same content. -/
def SameIfAny (x y : Option Json) : Prop :=
  x.isSome = y.isSome ∧ ∀ v w, x = some v → y = some w → SameContent v w

variable {t u v w : Json} {x y : Option Json} {a b : Members}

theorem SameIfAny.refl (x : Option Json) : SameIfAny x x :=
  ⟨rfl, fun _ _ hv hw => Option.some.inj (hv.symm.trans hw) ▸ .refl _⟩

theorem SameContent.some (same : SameContent v w) : SameIfAny (some v) (some w) :=
  ⟨rfl, fun _ _ hv hw => Option.some.inj hv ▸ Option.some.inj hw ▸ same⟩

/-- Nothing on both sides, or the same content. -/
theorem SameIfAny.missing_or (same : SameIfAny x y) :
    (x = none ∧ y = none) ∨ ∃ v w, x = Option.some v ∧ y = Option.some w ∧ SameContent v w := by
  cases x with
  | none =>
    cases y with
    | none => exact .inl ⟨rfl, rfl⟩
    | some w => cases same.1
  | some v =>
    cases y with
    | none => cases same.1
    | some w => exact .inr ⟨v, w, rfl, rfl, same.2 v w rfl rfl⟩

theorem SameIfAny.getD (same : SameIfAny x y) (u : Json) : SameContent (x.getD u) (y.getD u) := by
  obtain ⟨rfl, rfl⟩ | ⟨v, w, rfl, rfl, inside⟩ := same.missing_or
  · exact .refl u
  · exact inside

theorem SameIfAny.or (same : SameIfAny x y) (z : Option Json) : SameIfAny (x.or z) (y.or z) := by
  obtain ⟨rfl, rfl⟩ | ⟨v, w, rfl, rfl, -⟩ := same.missing_or
  · exact .refl z
  · exact same

/-- What does not tell values with the same content apart does not tell them apart if any. -/
theorem SameIfAny.bind_eq {α : Type} {f : Json → Option α} (same : SameIfAny x y)
    (alike : ∀ {v w}, SameContent v w → f v = f w) : x.bind f = y.bind f := by
  obtain ⟨rfl, rfl⟩ | ⟨v, w, rfl, rfl, inside⟩ := same.missing_or
  · rfl
  · exact alike inside

theorem sameContent_obj (same : ∀ k, SameIfAny (lookup k a) (lookup k b)) :
    SameContent (.obj a) (.obj b) :=
  .fields (fun k => (same k).1) fun k => (same k).2

theorem sameContent_arr {a b : List Json} (same : ∀ i : Nat, SameIfAny a[i]? b[i]?) :
    SameContent (.arr a) (.arr b) :=
  .items (fun i => (same i).1) fun i => (same i).2

theorem length_eq_of_isSome {a b : List Json} (places : ∀ i : Nat, a[i]?.isSome = b[i]?.isSome) :
    a.length = b.length := by
  have ends (i : Nat) : i < a.length ↔ i < b.length := by
    simpa using Bool.eq_iff_iff.1 (places i)
  exact Nat.le_antisymm (Nat.not_lt.1 fun h => Nat.lt_irrefl _ ((ends _).1 h))
    (Nat.not_lt.1 fun h => Nat.lt_irrefl _ ((ends _).2 h))

theorem SameContent.trans (first : SameContent u v) (second : SameContent v w) :
    SameContent u w := by
  induction first generalizing w with
  | refl => exact second
  | fields names inside ih =>
    cases second with
    | refl => exact .fields names inside
    | fields names' inside' =>
      refine .fields (fun k => (names k).trans (names' k)) fun k x z hx hz => ?_
      obtain ⟨y, hy⟩ := Option.isSome_iff_exists.1 ((names k).symm.trans (by rw [hx]; rfl))
      exact ih k x y hx hy (inside' k y z hy hz)
  | items places inside ih =>
    cases second with
    | refl => exact .items places inside
    | items places' inside' =>
      refine .items (fun i => (places i).trans (places' i)) fun i x z hx hz => ?_
      obtain ⟨y, hy⟩ := Option.isSome_iff_exists.1 ((places i).symm.trans (by rw [hx]; rfl))
      exact ih i x y hx hy (inside' i y z hy hz)

theorem SameContent.symm (same : SameContent u v) : SameContent v u := by
  induction same with
  | refl v => exact .refl v
  | fields names _ ih => exact .fields (fun k => (names k).symm) fun k x y hx hy => ih k y x hy hx
  | items places _ ih => exact .items (fun i => (places i).symm) fun i x y hx hy => ih i y x hy hx

theorem SameContent.get? (same : SameContent t u) (k : String) :
    SameIfAny (t.get? k) (u.get? k) := by
  cases same with
  | refl => exact .refl _
  | fields names inside => exact ⟨names k, inside k⟩
  | items => exact .refl _

end Json

namespace Layer

open Json (SameContent SameIfAny sameContent_obj sameContent_arr)

variable {t u value : Json} {p q : List Step} {name : String}

theorem sameIfAny_itemsOf (same : SameContent t u) (i : Nat) :
    SameIfAny (itemsOf t)[i]? (itemsOf u)[i]? := by
  cases same with
  | refl => exact .refl _
  | fields => exact .refl _
  | items places inside => exact ⟨places i, inside i⟩

theorem sameContent_insert {v w : Json} (inside : SameContent v w) (same : SameContent t u) :
    SameContent (.obj (Json.insertMember name v (membersOf t)))
      (.obj (Json.insertMember name w (membersOf u))) := by
  refine sameContent_obj fun k => ?_
  rw [Json.lookup_insertMember, Json.lookup_insertMember, lookup_membersOf, lookup_membersOf]
  split
  · exact inside.some
  · exact same.get? k

mutual

theorem put_congr : ∀ (value : Json) (name : String) {t u : Json}, SameContent t u →
    SameContent (put name t value) (put name u value)
  | .obj incoming, name, t, u, same => by
    rw [put, put, lookup_membersOf, lookup_membersOf]
    exact sameContent_insert (putAll_congr incoming ((same.get? name).getD _)) same
  | .null, _, _, _, same => sameContent_insert (.refl _) same
  | .bool _, _, _, _, same => sameContent_insert (.refl _) same
  | .int _, _, _, _, same => sameContent_insert (.refl _) same
  | .double _, _, _, _, same => sameContent_insert (.refl _) same
  | .str _, _, _, _, same => sameContent_insert (.refl _) same
  | .arr _, _, _, _, same => sameContent_insert (.refl _) same

theorem putAll_congr : ∀ (incoming : List (String × Json)) {t u : Json}, SameContent t u →
    SameContent (putAll t incoming) (putAll u incoming)
  | [], _, _, same => same
  | (name, value) :: rest, _, _, same => putAll_congr rest (put_congr value name same)

end

/-- What a path leads to inside of a member. -/
def within (value : Json) (old : Option Json) : List Step → Json
  | [] =>
    match value with
    | .obj incoming => putAll (old.getD (.obj [])) incoming
    | value => value
  | step :: rest => setPath value (old.getD .null) (step :: rest)

theorem setPath_cons_field (value t : Json) (name : String) (p : List Step) :
    setPath value t (.field name :: p) =
      .obj (Json.insertMember name (within value (t.get? name) p) (membersOf t)) := by
  cases p with
  | nil =>
    rw [setPath]
    cases value with
    | obj incoming => rw [put, lookup_membersOf]; rfl
    | _ => rfl
  | cons step rest =>
    rw [setPath, lookup_membersOf]
    · rfl
    · exact List.cons_ne_nil step rest

theorem getElem?_stretch (items : List Json) (place i : Nat) :
    (stretch items place)[i]? = items[i]?.or (if i ≤ place then some .null else none) := by
  rw [stretch, List.getElem?_append]
  by_cases inside : i < items.length
  · rw [if_pos inside, List.getElem?_eq_getElem inside]
    rfl
  · rw [if_neg inside, List.getElem?_eq_none (Nat.le_of_not_lt inside), List.getElem?_replicate]
    exact if_congr (by omega) rfl rfl

/-- A list with a value laid over one of its places. -/
def laidAt (items : List Json) (place : Nat) (v : Json) : List Json :=
  (stretch items place).set place v

theorem getElem?_laidAt (items : List Json) (place : Nat) (v : Json) (i : Nat) :
    (laidAt items place v)[i]? =
      if i = place then some v else items[i]?.or (if i < place then some .null else none) := by
  have long : place < (stretch items place).length := by
    simp only [stretch, List.length_append, List.length_replicate]
    omega
  rw [laidAt, List.getElem?_set, getElem?_stretch]
  by_cases here : place = i
  · rw [if_pos here, if_pos (here ▸ long), if_pos here.symm]
  · rw [if_neg here, if_neg (Ne.symm here)]
    exact congrArg _ (if_congr (by omega) rfl rfl)

theorem setPath_cons_item (value t : Json) (index : Int) (p : List Step) :
    setPath value t (.item index :: p) =
      .arr (laidAt (itemsOf t) (placeOf index (itemsOf t).length) (setPath value
        ((itemsOf t)[placeOf index (itemsOf t).length]?.getD .null) p)) := by
  have there (items : List Json) (place : Nat) :
      (stretch items place).getD place .null = items[place]?.getD .null := by
    rw [List.getD_eq_getElem?_getD, getElem?_stretch, if_pos (Nat.le_refl _)]
    cases items[place]? <;> rfl
  rw [setPath, there]
  rfl

/-- Paths of which neither leads into the place of the other. The place of a negative index depends
on the length of the list. -/
def Apart : List Step → List Step → Prop
  | .field a :: p, .field b :: q => a ≠ b ∨ Apart p q
  | .item i :: p, .item j :: q => 0 ≤ i ∧ 0 ≤ j ∧ (i ≠ j ∨ Apart p q)
  | _, _ => False

instance decidableApart : (p q : List Step) → Decidable (Apart p q)
  | .field a :: p, .field b :: q =>
    have := decidableApart p q
    inferInstanceAs (Decidable (a ≠ b ∨ Apart p q))
  | .item i :: p, .item j :: q =>
    have := decidableApart p q
    inferInstanceAs (Decidable (0 ≤ i ∧ 0 ≤ j ∧ (i ≠ j ∨ Apart p q)))
  | [], _ => isFalse nofun
  | .field _ :: _, [] => isFalse nofun
  | .item _ :: _, [] => isFalse nofun
  | .field _ :: _, .item _ :: _ => isFalse nofun
  | .item _ :: _, .field _ :: _ => isFalse nofun

theorem Apart.symm {p q : List Step} (h : Apart p q) : Apart q p := by
  induction p generalizing q with
  | nil => cases h
  | cons step p ih =>
    cases q with
    | nil => cases step <;> cases h
    | cons other q =>
      cases step <;> cases other
      · exact h.imp Ne.symm ih
      · cases h
      · cases h
      · exact ⟨h.2.1, h.1, h.2.2.imp Ne.symm ih⟩

theorem within_congr (value : Json) {old new : Option Json} (same : SameIfAny old new)
    (p : List Step) (inside : ∀ {t u}, SameContent t u → p ≠ [] →
      SameContent (setPath value t p) (setPath value u p)) :
    SameContent (within value old p) (within value new p) := by
  cases p with
  | nil =>
    cases value with
    | obj incoming => exact putAll_congr incoming (same.getD _)
    | _ => exact .refl _
  | cons step rest => exact inside (same.getD _) nofun

/-- What a value is laid over may have its names in any order. -/
theorem setPath_congr (value : Json) (p : List Step) (same : SameContent t u) :
    SameContent (setPath value t p) (setPath value u p) := by
  induction p generalizing t u with
  | nil => exact .refl value
  | cons step p ih =>
    cases step with
    | field name =>
      rw [setPath_cons_field, setPath_cons_field]
      exact sameContent_insert (within_congr value (same.get? name) p fun h _ => ih h) same
    | item index =>
      have places := sameIfAny_itemsOf same
      have length := Json.length_eq_of_isSome fun i => (places i).1
      rw [setPath_cons_item, setPath_cons_item, length]
      refine sameContent_arr fun i => ?_
      rw [getElem?_laidAt, getElem?_laidAt]
      split
      · exact (ih ((places _).getD _)).some
      · exact (places i).or _

theorem get?_setPath_cons_field (value t : Json) (name : String) (p : List Step) (k : String) :
    (setPath value t (.field name :: p)).get? k =
      if k = name then some (within value (t.get? name) p) else t.get? k := by
  rw [setPath_cons_field, Json.get?_obj, Json.lookup_insertMember, lookup_membersOf]

theorem getElem?_setPath_cons_item {index : Int} (counted : 0 ≤ index) (value t : Json)
    (p : List Step) (i : Nat) : (itemsOf (setPath value t (.item index :: p)))[i]? =
      if i = index.toNat then
        some (setPath value ((itemsOf t)[index.toNat]?.getD .null) p)
      else (itemsOf t)[i]?.or (if i < index.toNat then some .null else none) := by
  rw [setPath_cons_item, placeOf, if_pos counted]
  exact getElem?_laidAt _ _ _ i

theorem sameContent_of_get? {v w : Json} {a b : String}
    (same : ∀ k, SameIfAny ((setPath v t (.field a :: p)).get? k)
      ((setPath w u (.field b :: q)).get? k)) :
    SameContent (setPath v t (.field a :: p)) (setPath w u (.field b :: q)) := by
  rw [setPath_cons_field v, setPath_cons_field w] at same ⊢
  exact sameContent_obj same

theorem sameContent_of_itemsOf {v w : Json} {i j : Int}
    (same : ∀ n : Nat, SameIfAny (itemsOf (setPath v t (.item i :: p)))[n]?
      (itemsOf (setPath w u (.item j :: q)))[n]?) :
    SameContent (setPath v t (.item i :: p)) (setPath w u (.item j :: q)) := by
  rw [setPath_cons_item v, setPath_cons_item w] at same ⊢
  exact sameContent_arr same

theorem getD_or_null (x : Option Json) (c : Prop) [Decidable c] :
    (x.or (if c then some .null else none)).getD .null = x.getD .null := by
  cases x
  · split <;> rfl
  · rfl

theorem or_null_comm (c d : Prop) [Decidable c] [Decidable d] :
    (if c then some Json.null else none).or (if d then some .null else none) =
      (if d then some .null else none).or (if c then some .null else none) := by
  split <;> split <;> rfl

section
variable {v w : Json} (deeper : Apart p q → ∀ t,
  SameContent (setPath v (setPath w t q) p) (setPath w (setPath v t p) q))
include deeper

theorem within_comm (apart : Apart p q) (old : Option Json) :
    SameContent (within v (some (within w old q)) p) (within w (some (within v old p)) q) := by
  cases p with
  | nil => cases apart
  | cons step p =>
    cases q with
    | nil => cases step <;> cases apart
    | cons other q => exact deeper apart _

theorem setPath_comm_field {a b : String} (apart : a ≠ b ∨ Apart p q) (t : Json) :
    SameContent (setPath v (setPath w t (.field b :: q)) (.field a :: p))
      (setPath w (setPath v t (.field a :: p)) (.field b :: q)) := by
  refine sameContent_of_get? fun k => ?_
  simp only [get?_setPath_cons_field]
  by_cases names : a = b
  · subst names
    rw [if_pos rfl, if_pos rfl]
    split
    · exact (within_comm deeper (apart.resolve_left (absurd rfl)) _).some
    · exact .refl _
  · rw [if_neg names, if_neg (Ne.symm names)]
    by_cases first : k = a
    · rw [if_pos first, if_neg (first ▸ names), if_pos first]
      exact .refl _
    · rw [if_neg first, if_neg first]
      exact .refl _

theorem setPath_comm_item {i j : Int} (hi : 0 ≤ i) (hj : 0 ≤ j) (apart : i ≠ j ∨ Apart p q)
    (t : Json) :
    SameContent (setPath v (setPath w t (.item j :: q)) (.item i :: p))
      (setPath w (setPath v t (.item i :: p)) (.item j :: q)) := by
  refine sameContent_of_itemsOf fun n => ?_
  simp only [getElem?_setPath_cons_item hi, getElem?_setPath_cons_item hj]
  by_cases places : i = j
  · subst places
    rw [if_pos rfl, if_pos rfl]
    split
    · exact (deeper (apart.resolve_left (absurd rfl)) _).some
    · exact .refl _
  · have places : i.toNat ≠ j.toNat := by omega
    rw [if_neg places, if_neg places.symm, getD_or_null, getD_or_null]
    by_cases first : n = i.toNat
    · rw [if_pos first, if_neg (first ▸ places), if_pos first]
      exact .refl _
    · rw [if_neg first, if_neg first]
      split
      · exact .refl _
      · -- Both have stretched the list, one after the other.
        rw [Option.or_assoc, Option.or_assoc, or_null_comm]
        exact .refl _

end

/-- **It makes no difference which of two values is laid first** if their paths lead apart. -/
theorem setPath_comm {p q : List Step} (apart : Apart p q) (t v w : Json) :
    SameContent (setPath v (setPath w t q) p) (setPath w (setPath v t p) q) := by
  induction p generalizing q t with
  | nil => cases apart
  | cons step p ih =>
    cases q with
    | nil => cases step <;> cases apart
    | cons other q =>
      cases step <;> cases other
      case field.field => exact setPath_comm_field (fun deeper t => ih deeper t) apart t
      case item.item =>
        exact setPath_comm_item (fun deeper t => ih deeper t) apart.1 apart.2.1 apart.2.2 t
      case field.item => cases apart
      case item.field => cases apart

/-- The members of a source lead apart, each from each other. -/
def LeadApart (members : Members) : Prop :=
  members.Pairwise fun m n => Apart (place m.1) (place n.1)

instance (members : Members) : Decidable (LeadApart members) :=
  inferInstanceAs (Decidable (members.Pairwise _))

theorem LeadApart.perm {xs ys : Members} (apart : LeadApart xs) (perm : xs.Perm ys) :
    LeadApart ys :=
  (perm.pairwise_iff fun h => h.symm).1 apart

theorem overlay_congr (members : Members) (same : SameContent t u) :
    SameContent (overlay t members) (overlay u members) := by
  induction members generalizing t u with
  | nil => exact same
  | cons m rest ih =>
    rw [overlay_cons, overlay_cons, set_eq, set_eq]
    exact ih (setPath_congr m.2 _ same)

/-- **The members of a source may be laid in any order** if they lead apart. -/
theorem overlay_perm {xs ys : Members} (perm : xs.Perm ys) (apart : LeadApart xs)
    (same : SameContent t u) : SameContent (overlay t xs) (overlay u ys) := by
  induction perm generalizing t u with
  | nil => exact same
  | cons m _ ih =>
    rw [overlay_cons, overlay_cons, set_eq, set_eq]
    exact ih (List.Pairwise.of_cons apart) (setPath_congr m.2 _ same)
  | swap m n rest =>
    obtain ⟨first, -⟩ := List.pairwise_cons.1 apart
    simp only [overlay_cons, set_eq]
    refine overlay_congr rest (.trans ?_ (setPath_congr n.2 _ (setPath_congr m.2 _ same)))
    exact setPath_comm (first m List.mem_cons_self).symm t m.2 n.2
  | trans one _ ih ih' => exact (ih apart same).trans (ih' (apart.perm one) (.refl u))

end Layer

namespace Settings

open Json (SameContent)

variable {t u : Json}

theorem textOf?_congr (same : SameContent t u) : textOf? t = textOf? u := by
  cases same <;> rfl

theorem flagOf?_congr (same : SameContent t u) : flagOf? t = flagOf? u := by
  cases same <;> rfl

theorem countOf?_congr (same : SameContent t u) : countOf? t = countOf? u := by
  cases same <;> rfl

theorem imagesOf?_congr (same : SameContent t u) : imagesOf? t = imagesOf? u := by
  have whole := same
  cases same with
  | refl => rfl
  | @fields a b names inside =>
    have each (i : Image) :
        (Json.lookup i.key a).bind textOf? = (Json.lookup i.key b).bind textOf? :=
      (whole.get? i.key).bind_eq textOf?_congr
    simp only [imagesOf?, each]
  | @items a b places inside =>
    have each : a.map textOf? = b.map textOf? := by
      refine List.ext_getElem? fun i => ?_
      rw [List.getElem?_map, List.getElem?_map, Option.map_eq_bind, Option.map_eq_bind]
      exact Json.SameIfAny.bind_eq ⟨places i, inside i⟩ fun h => congrArg some (textOf?_congr h)
    have taken (items : List Json) : (items.take Image.all.length).mapM textOf? =
        ((items.map textOf?).take Image.all.length).mapM id := by
      rw [← List.map_take, List.mapM_map]
      rfl
    simp only [imagesOf?, taken, each]

/-- Settings are read by names. -/
theorem ofLayers?_congr (same : SameContent t u) : ofLayers? t = ofLayers? u := by
  unfold ofLayers?
  rw [(same.get? "operand_namespace").bind_eq textOf?_congr,
    (same.get? "create_only_mode").bind_eq flagOf?_congr,
    (same.get? "reconcile_interval_seconds").bind_eq countOf?_congr,
    (same.get? "images").bind_eq imagesOf?_congr]

end Settings

end WorkloadIdentity

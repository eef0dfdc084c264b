import WorkloadIdentity.Proofs.Depths
import WorkloadIdentity.Proofs.Members
import WorkloadIdentity.Settings.Load

/-! A scalar that is laid over the values so far is found where its name leads to. What was found
elsewhere is still found, unless a table or a list on the way has been replaced; then nothing is. -/

namespace WorkloadIdentity

namespace Layer

variable {t value x : Json} {name k : String} {p : List Step} {q : List String}

theorem lookup_membersOf (name : String) (t : Json) :
    Json.lookup name (membersOf t) = t.get? name := by
  cases t <;> rfl

theorem get?_of_isScalar (scalar : value.isScalar = true) (name : String) :
    value.get? name = none := by
  cases value with
  | obj members => cases scalar
  | _ => rfl

/-- What a path leads into becomes a table with the rest of the path inside. -/
theorem setPath_field (scalar : value.isScalar = true) (t : Json) (name : String) (p : List Step) :
    setPath value t (.field name :: p) =
      .obj (Json.insertMember name (setPath value ((t.get? name).getD .null) p) (membersOf t)) := by
  cases p with
  | nil =>
    rw [setPath, setPath]
    cases value with
    | obj members => cases scalar
    | _ => rfl
  | cons step rest =>
    rw [setPath, lookup_membersOf]
    exact nofun

theorem get?_setPath_field (scalar : value.isScalar = true) (t : Json) (name : String)
    (p : List Step) (k : String) : (setPath value t (.field name :: p)).get? k =
      if k = name then some (setPath value ((t.get? name).getD .null) p) else t.get? k := by
  rw [setPath_field scalar, Json.get?_obj, Json.lookup_insertMember, lookup_membersOf]

theorem at?_member (t : Json) (k : String) (q : List String) :
    t.at? ((k :: q).map .member) = (t.get? k).bind (·.at? (q.map .member)) := by
  cases t <;> rfl

theorem at?_setPath_self (scalar : value.isScalar = true) (t : Json) (q : List String) :
    (setPath value t (q.map .field)).at? (q.map .member) = some value := by
  induction q generalizing t with
  | nil => rfl
  | cons k q ih =>
    rw [List.map_cons, at?_member, get?_setPath_field scalar, if_pos rfl]
    exact ih _

/-- A scalar that is found by names after a scalar has been laid over is this one, if the path
leads there, or was found before. -/
theorem at?_setPath (scalar : value.isScalar = true)
    (found : (setPath value t p).at? (q.map .member) = some x) (still : x.isScalar = true) :
    p = q.map .field ∨ t.at? (q.map .member) = some x := by
  induction p generalizing t q with
  | nil =>
    cases q with
    | nil => exact .inl rfl
    | cons k q =>
      rw [setPath, at?_member, get?_of_isScalar scalar] at found
      cases found
  | cons step p ih =>
    cases step with
    | item index =>
      rw [setPath] at found
      cases q with
      | nil => cases found; cases still
      | cons k q => cases found
    | field name =>
      cases q with
      | nil =>
        rw [setPath_field scalar] at found
        cases found
        cases still
      | cons k q =>
        rw [at?_member, get?_setPath_field scalar] at found
        by_cases same : k = name
        · subst same
          rw [if_pos rfl, Option.bind_some] at found
          rcases ih found with rfl | before
          · exact .inl rfl
          · refine .inr ?_
            rw [at?_member]
            cases inner : t.get? k with
            | some u => rwa [inner] at before
            | none =>
              -- Nothing scalar was found in the empty place that the path led into.
              rw [inner] at before
              cases q with
              | nil => cases before; cases still
              | cons l q => cases before
        · rw [if_neg same] at found
          exact .inr (by rwa [at?_member])

/-- The place that a name leads to. -/
def place (name : String) : List Step := .field (pathOf name).1 :: (pathOf name).2

theorem set_eq (t : Json) (name : String) (value : Json) :
    set t name value = setPath value t (place name) := rfl

theorem get?_set (scalar : value.isScalar = true) (t : Json) (name k : String) :
    (set t name value).get? k =
      if k = (pathOf name).1 then
        some (setPath value ((t.get? (pathOf name).1).getD .null) (pathOf name).2)
      else t.get? k := by
  rw [set_eq, place, get?_setPath_field scalar]

theorem overlay_cons (t : Json) (m : String × Json) (layer : List (String × Json)) :
    overlay t (m :: layer) = overlay (set t m.1 m.2) layer := rfl

theorem overlay_append (t : Json) (lower upper : List (String × Json)) :
    overlay t (lower ++ upper) = overlay (overlay t lower) upper :=
  List.foldl_append

variable {layer : List (String × Json)} {items : List Json}

/-- A scalar that is found by names after a layer of scalars comes from a member that leads there,
or there is none and it was found before. -/
theorem at?_overlay (scalars : ∀ m ∈ layer, m.2.isScalar = true)
    (found : (overlay t layer).at? (q.map .member) = some x) (still : x.isScalar = true) :
    (∃ m ∈ layer, place m.1 = q.map .field ∧ m.2 = x) ∨
      (∀ m ∈ layer, place m.1 ≠ q.map .field) ∧ t.at? (q.map .member) = some x := by
  induction layer generalizing t with
  | nil => exact .inr ⟨nofun, found⟩
  | cons m rest ih =>
    obtain ⟨scalar, scalars⟩ := List.forall_mem_cons.1 scalars
    rw [overlay_cons] at found
    rcases ih scalars found with ⟨n, mem, here⟩ | ⟨elsewhere, before⟩
    · exact .inl ⟨n, List.mem_cons_of_mem m mem, here⟩
    · by_cases leads : place m.1 = q.map .field
      · rw [set_eq, leads, at?_setPath_self scalar] at before
        exact .inl ⟨m, List.mem_cons_self, leads, Option.some.inj before⟩
      · exact .inr ⟨List.forall_mem_cons.2 ⟨leads, elsewhere⟩,
          (at?_setPath scalar before still).resolve_left leads⟩

/-- A list that is found after a layer of scalars, none of which has a place in it by number, was
there before, and no member leads to it or into it. -/
theorem get?_overlay_list (scalars : ∀ m ∈ layer, m.2.isScalar = true)
    (named : ∀ m ∈ layer, ∀ index rest, place m.1 ≠ .field k :: .item index :: rest)
    (listed : (overlay t layer).get? k = some (.arr items)) :
    (∀ m ∈ layer, (pathOf m.1).1 ≠ k) ∧ t.get? k = some (.arr items) := by
  induction layer generalizing t with
  | nil => exact ⟨nofun, listed⟩
  | cons m rest ih =>
    obtain ⟨scalar, scalars⟩ := List.forall_mem_cons.1 scalars
    obtain ⟨name, named⟩ := List.forall_mem_cons.1 named
    rw [overlay_cons] at listed
    obtain ⟨elsewhere, before⟩ := ih scalars named listed
    by_cases here : k = (pathOf m.1).1
    · subst here
      rw [get?_set scalar, if_pos rfl] at before
      rw [place] at name
      cases steps : (pathOf m.1).2 with
      | nil =>
        rw [steps, setPath] at before
        rw [Option.some.inj before] at scalar
        cases scalar
      | cons step later =>
        cases step with
        | field other =>
          rw [steps, setPath_field scalar] at before
          cases before
        | item index => exact absurd (congrArg _ steps) (name index later)
    · rw [get?_set scalar, if_neg here] at before
      exact ⟨List.forall_mem_cons.2 ⟨Ne.symm here, elsewhere⟩, before⟩

theorem get?_overlay_of_ne (scalars : ∀ m ∈ layer, m.2.isScalar = true)
    (others : ∀ m ∈ layer, (pathOf m.1).1 ≠ k) (t : Json) :
    (overlay t layer).get? k = t.get? k := by
  induction layer generalizing t with
  | nil => rfl
  | cons m rest ih =>
    obtain ⟨scalar, scalars⟩ := List.forall_mem_cons.1 scalars
    obtain ⟨other, others⟩ := List.forall_mem_cons.1 others
    rw [overlay_cons, ih scalars others, get?_set scalar, if_neg (Ne.symm other)]

end Layer

namespace Settings

variable {values : Json} {s : Settings} {images : Images} {members : List (String × Json)}

/-- Only scalars are written as texts. -/
theorem isScalar_of_textOf? {x : Json} {text : String} (written : textOf? x = some text) :
    x.isScalar = true := by
  cases x with
  | null | arr _ | obj _ => cases written
  | _ => rfl

/-- Every image is read by its name. -/
theorem imagesOf?_obj_eq_some_iff : imagesOf? (.obj members) = some images ↔
    ∀ i, (Json.lookup i.key members).bind textOf? = some (images.get i) := by
  let text (i : Image) : Option String := (Json.lookup i.key members).bind textOf?
  change (Image.all.mapM text >>= imagesOf?.ofTexts?) = some images ↔
    ∀ i, text i = some (images.get i)
  constructor
  · intro read
    simp only [Image.all, List.mapM_cons, List.mapM_nil, Option.bind_eq_bind, Option.pure_def,
      Option.bind_assoc, Option.bind_some, Option.bind_eq_some_iff, imagesOf?.ofTexts?] at read
    obtain ⟨_, server, _, agent, _, driver, _, discovery, _, manager, _, registrar, _, init,
      read⟩ := read
    cases read
    intro i
    cases i <;> assumption
  · intro each
    simp [Image.all, each, imagesOf?.ofTexts?, Images.get]

theorem ofLayers?_eq_some_iff : ofLayers? values = some s ↔
    (values.get? "operand_namespace").bind textOf? = some s.operandNamespace ∧
    (values.get? "create_only_mode").bind flagOf? = some s.createOnly ∧
    (values.get? "reconcile_interval_seconds").bind countOf? = some s.intervalSeconds ∧
    (values.get? "images").bind imagesOf? = some s.images := by
  unfold ofLayers?
  constructor
  · intro read
    obtain ⟨space, hspace, read⟩ := Option.bind_eq_some_iff.1 read
    obtain ⟨flag, hflag, read⟩ := Option.bind_eq_some_iff.1 read
    obtain ⟨interval, hinterval, read⟩ := Option.bind_eq_some_iff.1 read
    obtain ⟨images, himages, read⟩ := Option.bind_eq_some_iff.1 read
    cases read
    exact ⟨hspace, hflag, hinterval, himages⟩
  · rintro ⟨space, flag, interval, images⟩
    rw [space, flag, interval, images]
    rfl

variable {file : Option File} {environment : List (String × String)} {layer : Members}

/-- Settings are made up if every setting has a value of its kind and no rule is broken. -/
theorem assemble_eq_ok_iff : assemble layer environment = .ok s ↔
    ofLayers? (layers layer environment) = some s ∧ s.flaw? = none := by
  have checked (t : Settings) :
      t.check.mapError LoadFault.rule = .ok s ↔ t = s ∧ s.flaw? = none := by
    unfold check
    cases broken : t.flaw? with
    | none =>
      constructor
      · intro same
        cases same
        exact ⟨rfl, broken⟩
      · rintro ⟨rfl, -⟩
        rfl
    | some flaw =>
      refine ⟨nofun, ?_⟩
      rintro ⟨rfl, sound⟩
      cases broken.symm.trans sound
  unfold assemble
  cases ofLayers? (layers layer environment) with
  | none => exact ⟨nofun, fun ⟨e, _⟩ => nomatch e⟩
  | some t => exact (checked t).trans (and_congr_left' (Option.some.injEq t s).symm.to_iff)

theorem load_eq_ok_iff : load file environment = .ok s ↔
    ∃ layer, fileMembers file = .ok layer ∧ assemble layer environment = .ok s := by
  unfold load
  cases fileMembers file with
  | error fault => exact ⟨nofun, fun ⟨_, e, _⟩ => nomatch e⟩
  | ok layer =>
    refine ⟨fun loaded => ⟨layer, rfl, loaded⟩, ?_⟩
    rintro ⟨_, same, made⟩
    cases same
    exact made

end Settings

end WorkloadIdentity

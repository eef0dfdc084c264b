import WorkloadIdentity.Proofs.Numerals
import WorkloadIdentity.Proofs.Overrides

/-! What a variable of the environment holds is guessed to be a truth value, an integer or a decimal
number before anything is known about the setting, and a setting that is a text gets the guess
written out again. So a text is kept if and only if it is how its own guess is written. -/

namespace WorkloadIdentity.Settings

open Layer

/-- A truth value in lower case, an integer without a plus sign and without leading zeros, any
other number as its nearest double is written, or a text that is none of these. -/
structure IsOwnSpelling (text : String) : Prop where
  word : ∀ w ∈ ["true", "false"], lowerAscii text = w → text = w
  integer : ∀ i, Yaml.intText? text.toList 10 = some i → IsPlainInteger text.toList
  decimal : ∀ d, Yaml.intText? text.toList 10 = none → Binary64.ofText? text = some d →
    text = d.text

theorem toString_eq_iff {text : String} {i : Int} (read : Yaml.intText? text.toList 10 = some i) :
    toString i = text ↔ IsPlainInteger text.toList := by
  rw [← intChars_eq_iff read, ← Json.toList_toString_int, String.toList_inj]

theorem isOwnSpelling_true : IsOwnSpelling "true" where
  word := by decide
  integer i read := absurd (read.symm.trans (by decide : _ = none)) nofun
  decimal d _ read := absurd (read.symm.trans (by decide : _ = none)) nofun

theorem isOwnSpelling_false : IsOwnSpelling "false" where
  word := by decide
  integer i read := absurd (read.symm.trans (by decide : _ = none)) nofun
  decimal d _ read := absurd (read.symm.trans (by decide : _ = none)) nofun

/-- A text is written as it was read if and only if it is its own spelling. -/
theorem textOf?_environmentValue_iff (text : String) :
    textOf? (environmentValue text) = some text ↔ IsOwnSpelling text := by
  by_cases affirms : lowerAscii text = "true"
  · have value : environmentValue text = .bool true := if_pos affirms
    rw [value]
    constructor
    · intro same
      cases same
      exact isOwnSpelling_true
    · exact fun own => congrArg some (own.word "true" (by decide) affirms).symm
  by_cases denies : lowerAscii text = "false"
  · have value : environmentValue text = .bool false := (if_neg affirms).trans (if_pos denies)
    rw [value]
    constructor
    · intro same
      cases same
      exact isOwnSpelling_false
    · exact fun own => congrArg some (own.word "false" (by decide) denies).symm
  have word : ∀ w ∈ ["true", "false"], lowerAscii text = w → text = w := by
    simp [affirms, denies]
  cases integer : Yaml.intText? text.toList 10 with
  | some i =>
    have value : environmentValue text = .int i := by
      simp [environmentValue, affirms, denies, integer]
    rw [value, textOf?, Option.some.injEq, toString_eq_iff integer]
    constructor
    · intro plain
      exact ⟨word, fun _ _ => plain, fun _ unread _ => nomatch integer.symm.trans unread⟩
    · exact fun own => own.integer i integer
  | none =>
    cases decimal : Binary64.ofText? text with
    | some d =>
      have value : environmentValue text = .double d := by
        simp [environmentValue, affirms, denies, integer, decimal]
      rw [value, textOf?, Option.some.injEq]
      constructor
      · intro same
        refine ⟨word, ?_, ?_⟩
        · exact fun _ read => nomatch integer.symm.trans read
        · intro e _ read
          cases decimal.symm.trans read
          exact same.symm
      · exact fun own => (own.decimal d integer decimal).symm
    | none =>
      have value : environmentValue text = .str text := by
        simp [environmentValue, affirms, denies, integer, decimal]
      rw [value]
      refine ⟨fun _ => ⟨word, ?_, ?_⟩, fun _ => rfl⟩
      · exact fun _ read => nomatch integer.symm.trans read
      · exact fun _ _ read => nomatch decimal.symm.trans read

/-- The place that a variable leads to, if it is one of a setting. -/
def environmentPlace? (name : String) : Option (List Layer.Step) :=
  (environmentName? name).map place

/-- A variable has a value, and no other one leads to the same place. -/
structure Sets (environment : List (String × String)) (name value : String) : Prop where
  mem : (name, value) ∈ environment
  only : ∀ e ∈ environment, environmentPlace? e.1 = environmentPlace? name → e = (name, value)

/-- No image is set by its number in a list. -/
def NamesImages (environment : List (String × String)) : Prop :=
  ∀ e ∈ environment, ∀ index rest,
    environmentPlace? e.1 ≠ some (.field "images" :: .item index :: rest)

def namespaceVariable : String := "ZTWIM__OPERAND_NAMESPACE"

/-- The variable of the setting of an image. -/
def imageSetting (i : Image) : String :=
  "ZTWIM__IMAGES__" ++ String.ofList (i.key.toList.map Char.toUpper)

theorem environmentPlace?_namespaceVariable :
    environmentPlace? namespaceVariable = some (["operand_namespace"].map .field) := by decide

theorem environmentPlace?_imageSetting (i : Image) :
    environmentPlace? (imageSetting i) = some (["images", i.key].map .field) := by
  cases i <;> decide +kernel

variable {environment : List (String × String)} {fromFile : Members} {name value : String}
  {q : List String} {t x : Json} {m : String × Json} {i : Image}

theorem isScalar_environmentValue (text : String) : (environmentValue text).isScalar = true := by
  unfold environmentValue
  dsimp only
  repeat' split
  all_goals rfl

theorem mem_environmentMembers : m ∈ environmentMembers environment ↔
    ∃ e ∈ environment, ∃ key, environmentName? e.1 = some key ∧
      (key, environmentValue e.2) = m := by
  simp only [environmentMembers, List.mem_filterMap, Option.map_eq_some_iff]

theorem isScalar_of_mem_environmentMembers (mem : m ∈ environmentMembers environment) :
    m.2.isScalar = true := by
  obtain ⟨e, -, key, -, rfl⟩ := mem_environmentMembers.1 mem
  exact isScalar_environmentValue e.2

theorem environmentPlace?_of_name {key : String} (named : environmentName? name = some key) :
    environmentPlace? name = some (place key) := by
  rw [environmentPlace?, named]
  rfl

/-- A variable with a place is among the members of the environment. -/
theorem Sets.exists_member {p : List Layer.Step} (sets : Sets environment name value)
    (leads : environmentPlace? name = some p) :
    ∃ m ∈ environmentMembers environment, place m.1 = p := by
  obtain ⟨key, named, placed⟩ := Option.map_eq_some_iff.1 leads
  exact ⟨(key, environmentValue value),
    mem_environmentMembers.2 ⟨_, sets.mem, key, named, rfl⟩, placed⟩

/-- What is found where only one variable leads to is the value of this variable. -/
theorem eq_environmentValue_of_sets (sets : Sets environment name value)
    (leads : environmentPlace? name = some (q.map .field))
    (found : (overlay t (environmentMembers environment)).at? (q.map .member) = some x)
    (still : x.isScalar = true) : x = environmentValue value := by
  rcases at?_overlay (fun m => isScalar_of_mem_environmentMembers) found still with
    ⟨m, mem, placed, rfl⟩ | ⟨elsewhere, -⟩
  · obtain ⟨e, listed, key, named, rfl⟩ := mem_environmentMembers.1 mem
    have same : environmentPlace? e.1 = environmentPlace? name := by
      rw [leads, environmentPlace?_of_name named, placed]
    rw [sets.only e listed same]
  · obtain ⟨m, mem, placed⟩ := sets.exists_member leads
    exact absurd placed (elsewhere m mem)

theorem mem_overrides (mem : m ∈ overrides environment) :
    (∃ i text, imageOverride? environment i = some text ∧ ("images." ++ i.key, .str text) = m) ∨
      ∃ b, ("create_only_mode", .bool b) = m := by
  rcases List.mem_append.1 mem with image | mode
  · exact .inl (mem_imageLayer image)
  · obtain ⟨b, -, made⟩ := Option.map_eq_some_iff.1 (Option.mem_toList.1 mode)
    exact .inr ⟨b, made⟩

theorem isScalar_of_mem_overrides (mem : m ∈ overrides environment) : m.2.isScalar = true := by
  obtain ⟨i, text, -, rfl⟩ | ⟨b, rfl⟩ := mem_overrides mem
  · rfl
  · rfl

theorem place_image (i : Image) : place ("images." ++ i.key) = ["images", i.key].map .field := by
  rw [place, pathOf_image]
  rfl

theorem place_createOnly : place "create_only_mode" = ["create_only_mode"].map .field := by decide

/-- The namespace is not among the settings of the installer, and neither is an image that the
installer does not name. -/
theorem at?_ground_of_layers
    (free : ∀ i, imageOverride? environment i ≠ none → q ≠ ["images", i.key])
    (others : q ≠ ["create_only_mode"])
    (found : (layers fromFile environment).at? (q.map .member) = some x)
    (still : x.isScalar = true) :
    (ground fromFile environment).at? (q.map .member) = some x := by
  have inj {p q : List String} (same : p.map Layer.Step.field = q.map Layer.Step.field) : p = q :=
    (List.map_inj_right fun _ _ => Layer.Step.field.inj).1 same
  rcases at?_overlay (fun m => isScalar_of_mem_overrides) found still with
    ⟨m, mem, placed, -⟩ | ⟨-, before⟩
  · obtain ⟨i, text, named, rfl⟩ | ⟨b, rfl⟩ := mem_overrides mem
    · rw [place_image] at placed
      exact absurd (inj placed).symm (free i (by simp [named]))
    · rw [place_createOnly] at placed
      exact absurd (inj placed).symm others
  · exact before

/-- Images that are set by name are no list. -/
theorem get?_images_ne_list (sets : Sets environment (imageSetting i) value)
    (names : NamesImages environment) (items : List Json) :
    (layers fromFile environment).get? "images" ≠ some (.arr items) := by
  intro listed
  have byName : ∀ m ∈ overrides environment, ∀ index rest,
      place m.1 ≠ .field "images" :: .item index :: rest := by
    intro m mem index rest placed
    obtain ⟨j, text, -, rfl⟩ | ⟨b, rfl⟩ := mem_overrides mem
    · rw [place_image] at placed
      cases placed
    · rw [place_createOnly] at placed
      cases (List.cons.inj placed).2
  obtain ⟨-, listed⟩ := get?_overlay_list (fun m => isScalar_of_mem_overrides) byName listed
  have numbered : ∀ m ∈ environmentMembers environment, ∀ index rest,
      place m.1 ≠ .field "images" :: .item index :: rest := by
    intro m mem index rest placed
    obtain ⟨e, listed, key, named, rfl⟩ := mem_environmentMembers.1 mem
    exact names e listed index rest (by rw [environmentPlace?_of_name named, placed])
  obtain ⟨elsewhere, -⟩ :=
    get?_overlay_list (fun m => isScalar_of_mem_environmentMembers) numbered listed
  obtain ⟨m, mem, placed⟩ := sets.exists_member (environmentPlace?_imageSetting i)
  exact elsewhere m mem (Layer.Step.field.inj (List.cons.inj placed).1)

variable {file : Option File} {s : Settings}

theorem textOf?_of_namespace (loaded : load file environment = .ok s)
    (sets : Sets environment namespaceVariable value) :
    textOf? (environmentValue value) = some s.operandNamespace := by
  obtain ⟨members, -, made⟩ := load_eq_ok_iff.1 loaded
  obtain ⟨read, -⟩ := assemble_eq_ok_iff.1 made
  obtain ⟨x, found, written⟩ := Option.bind_eq_some_iff.1 (ofLayers?_eq_some_iff.1 read).1
  have still : x.isScalar = true := isScalar_of_textOf? written
  have found : (layers members environment).at? (["operand_namespace"].map .member) = some x := by
    rw [at?_member, found]
    rfl
  rw [← eq_environmentValue_of_sets sets environmentPlace?_namespaceVariable
    (at?_ground_of_layers (by simp) (by decide) found still) still, written]

theorem textOf?_of_image (loaded : load file environment = .ok s)
    (sets : Sets environment (imageSetting i) value) (names : NamesImages environment)
    (free : imageOverride? environment i = none) :
    textOf? (environmentValue value) = some (s.images.get i) := by
  obtain ⟨members, -, made⟩ := load_eq_ok_iff.1 loaded
  obtain ⟨read, -⟩ := assemble_eq_ok_iff.1 made
  obtain ⟨v, found, images⟩ := Option.bind_eq_some_iff.1 (ofLayers?_eq_some_iff.1 read).2.2.2
  cases v with
  | obj table =>
    obtain ⟨x, inside, written⟩ := Option.bind_eq_some_iff.1 (imagesOf?_obj_eq_some_iff.1 images i)
    have still : x.isScalar = true := isScalar_of_textOf? written
    have found : (layers members environment).at? (["images", i.key].map .member) = some x := by
      rw [at?_member, found, Option.bind_some, at?_member, Json.get?_obj, inside]
      rfl
    have free (j : Image) (named : imageOverride? environment j ≠ none) :
        ["images", i.key] ≠ ["images", j.key] := by
      intro same
      obtain rfl := key_inj (List.cons.inj (List.cons.inj same).2).1
      exact named free
    rw [← eq_environmentValue_of_sets sets (environmentPlace?_imageSetting i)
      (at?_ground_of_layers free (by simp) found still) still, written]
  | arr items => exact absurd found (get?_images_ne_list sets names items)
  | _ => cases images

/-- **A text from the environment is kept if and only if it is its own spelling.** The namespace and
each image are what the value of their variable is guessed to be, written out, and this is the value
itself for no other texts. -/
theorem own_spellings_are_kept (loaded : load file environment = .ok s) :
    (∀ value, Sets environment namespaceVariable value →
      textOf? (environmentValue value) = some s.operandNamespace ∧
        (s.operandNamespace = value ↔ IsOwnSpelling value)) ∧
    ∀ i value, Sets environment (imageSetting i) value → NamesImages environment →
      imageOverride? environment i = none →
        textOf? (environmentValue value) = some (s.images.get i) ∧
          (s.images.get i = value ↔ IsOwnSpelling value) := by
  have kept {value text : String} (written : textOf? (environmentValue value) = some text) :
      text = value ↔ IsOwnSpelling value := by
    rw [← textOf?_environmentValue_iff, written, Option.some.injEq]
  refine ⟨fun value sets => ?_, fun i value sets names free => ?_⟩
  · have written := textOf?_of_namespace loaded sets
    exact ⟨written, kept written⟩
  · have written := textOf?_of_image loaded sets names free
    exact ⟨written, kept written⟩

theorem plain_namespace_is_kept :
    load none [(namespaceVariable, "spire-system")] = .ok { operandNamespace := "spire-system" } ∧
      IsOwnSpelling "spire-system" := by
  have loaded : load none [(namespaceVariable, "spire-system")] =
      .ok { operandNamespace := "spire-system" } := by
    decide +kernel
  have sets : Sets [(namespaceVariable, "spire-system")] namespaceVariable "spire-system" :=
    ⟨List.mem_singleton_self _, fun e mem _ => List.mem_singleton.1 mem⟩
  exact ⟨loaded, ((own_spellings_are_kept loaded).1 _ sets).2.1 rfl⟩

/-- The zeros in front of a namespace that is made of digits are lost. -/
theorem leading_zeros_are_lost :
    Sets [(namespaceVariable, "007")] namespaceVariable "007" ∧
      load none [(namespaceVariable, "007")] = .ok { operandNamespace := "7" } ∧
      load none [(namespaceVariable, "007")] ≠ .ok { operandNamespace := "007" } := by
  refine ⟨⟨List.mem_singleton_self _, fun e mem _ => List.mem_singleton.1 mem⟩, ?_⟩
  decide +kernel

end WorkloadIdentity.Settings

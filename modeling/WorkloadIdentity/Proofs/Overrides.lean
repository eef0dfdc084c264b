import Mathlib.Control.Monad.Basic
import Mathlib.Data.List.Induction
import WorkloadIdentity.Proofs.Layers

/-! On top of all other layers lie the variables that the installer of the operator sets, one for
each image and one for the create-only mode. -/

namespace WorkloadIdentity

theorem Image.mem_all (i : Image) : i ∈ Image.all := by cases i <;> decide

/-- The images with another one in one place. -/
def Images.replace (images : Images) (i : Image) (name : String) : Images :=
  .ofFunction fun j => if j = i then name else images.get j

namespace Settings

open Layer

/-- The environment without a variable. -/
def unset (name : String) (environment : List (String × String)) : List (String × String) :=
  environment.filter fun e => decide (e.1 ≠ name)

/-- The environment with a value of a variable. -/
def assign (name value : String) (environment : List (String × String)) : List (String × String) :=
  (name, value) :: unset name environment

variable {environment : List (String × String)} {name value : String}

theorem lookup_unset_self (name : String) (environment : List (String × String)) :
    List.lookup name (unset name environment) = none := by
  have kept := lookup_filter (fun n => decide (n ≠ name)) name environment
  simpa [unset] using kept

theorem lookup_assign (other name value : String) (environment : List (String × String)) :
    List.lookup other (assign name value environment) =
      if other = name then some value else List.lookup other (unset name environment) :=
  lookup_cons_ite other name value _

theorem environmentMembers_assign (foreign : environmentName? name = none) :
    environmentMembers (assign name value environment) =
      environmentMembers (unset name environment) := by
  simp [environmentMembers, assign, foreign]

theorem environmentName?_imageVariable (i : Image) : environmentName? (imageVariable i) = none := by
  cases i <;> decide

theorem environmentName?_createOnlyVariable : environmentName? createOnlyVariable = none := by
  decide

theorem imageVariable_inj {i j : Image} (same : imageVariable i = imageVariable j) : i = j := by
  have each : ∀ i ∈ Image.all, ∀ j ∈ Image.all, imageVariable i = imageVariable j → i = j := by
    decide
  exact each i i.mem_all j j.mem_all same

theorem createOnlyVariable_ne (i : Image) : createOnlyVariable ≠ imageVariable i := by
  cases i <;> decide

section
variable {i j : Image}

theorem imageOverride?_unset_self (i : Image) (environment : List (String × String)) :
    imageOverride? (unset (imageVariable i) environment) i = none := by
  rw [imageOverride?, lookup_unset_self]
  rfl

theorem imageOverride?_assign_empty (i : Image) (environment : List (String × String)) :
    imageOverride? (assign (imageVariable i) "" environment) i = none := by
  rw [imageOverride?, lookup_assign, if_pos rfl]
  rfl

theorem imageOverride?_assign_self (nonempty : value ≠ "") :
    imageOverride? (assign (imageVariable i) value environment) i = some value := by
  rw [imageOverride?, lookup_assign, if_pos rfl]
  exact Option.filter_some_pos (decide_eq_true nonempty)

theorem imageOverride?_assign_of_ne (other : imageVariable j ≠ name) :
    imageOverride? (assign name value environment) j =
      imageOverride? (unset name environment) j := by
  rw [imageOverride?, lookup_assign, if_neg other]
  rfl

theorem createOnlyOverride?_assign_self (value : String) (environment : List (String × String)) :
    createOnlyOverride? (assign createOnlyVariable value environment) =
      some (decide (lowerAscii (trimBlanks value) = "true")) := by
  rw [createOnlyOverride?, lookup_assign, if_pos rfl, Option.map_some]

theorem createOnlyOverride?_assign_of_ne (other : createOnlyVariable ≠ name) :
    createOnlyOverride? (assign name value environment) =
      createOnlyOverride? (unset name environment) := by
  rw [createOnlyOverride?, lookup_assign, if_neg other]
  rfl

end

/-- The layers below the installer's variables. -/
def ground (fromFile : Members) (environment : List (String × String)) : Json :=
  overlay (overlay (Settings.toJson {}) fromFile) (environmentMembers environment)

/-- The layer of some images. -/
def imageLayer (name? : Image → Option String) (list : List Image) : Members :=
  list.filterMap fun i => (name? i).map fun text => ("images." ++ i.key, Json.str text)

/-- The layer of the create-only mode. -/
def modeLayer (flag? : Option Bool) : Members :=
  (flag?.map fun b => ("create_only_mode", Json.bool b)).toList

/-- The members of the table of images; none if the images are no table. -/
def imagesIn (t : Json) : Members := membersOf ((t.get? "images").getD .null)

variable {fromFile : Members} {t : Json} {k : String} {name? : Image → Option String}
  {list : List Image}

theorem layers_eq (fromFile : Members) (environment : List (String × String)) :
    layers fromFile environment = overlay (overlay (ground fromFile environment)
      (imageLayer (imageOverride? environment) Image.all))
      (modeLayer (createOnlyOverride? environment)) :=
  overlay_append _ _ _

theorem pathOf_image (i : Image) : pathOf ("images." ++ i.key) = ("images", [.field i.key]) := by
  cases i <;> decide

theorem pathOf_createOnly : pathOf "create_only_mode" = ("create_only_mode", []) := by decide

theorem key_inj {i j : Image} (same : i.key = j.key) : i = j := by
  have each : ∀ i ∈ Image.all, ∀ j ∈ Image.all, i.key = j.key → i = j := by decide
  exact each i i.mem_all j j.mem_all same

theorem lookup_insertMember_key (i j : Image) (v : Json) (members : Members) :
    Json.lookup i.key (Json.insertMember j.key v members) =
      if i = j then some v else Json.lookup i.key members := by
  rw [Json.lookup_insertMember]
  exact if_congr ⟨key_inj, congrArg _⟩ rfl rfl

theorem mem_imageLayer {m : String × Json} (mem : m ∈ imageLayer name? list) :
    ∃ i text, name? i = some text ∧ ("images." ++ i.key, .str text) = m := by
  obtain ⟨i, -, made⟩ := List.mem_filterMap.1 mem
  obtain ⟨text, named, made⟩ := Option.map_eq_some_iff.1 made
  exact ⟨i, text, named, made⟩

theorem get?_imageLayer_of_ne (other : k ≠ "images") (t : Json) :
    (overlay t (imageLayer name? list)).get? k = t.get? k := by
  refine get?_overlay_of_ne (fun m mem => ?_) (fun m mem => ?_) t
  · obtain ⟨i, text, -, rfl⟩ := mem_imageLayer mem
    rfl
  · obtain ⟨i, text, -, rfl⟩ := mem_imageLayer mem
    rw [pathOf_image]
    exact Ne.symm other

theorem get?_modeLayer (flag? : Option Bool) (t : Json) : (overlay t (modeLayer flag?)).get? k =
    if k = "create_only_mode" then (flag?.map .bool).or (t.get? k) else t.get? k := by
  cases flag? with
  | none => simp [modeLayer, overlay]
  | some b =>
    have upper : overlay t (modeLayer (some b)) = set t "create_only_mode" (.bool b) := by
      simp [modeLayer, overlay]
    rw [upper, get?_set rfl, pathOf_createOnly]
    rfl

theorem get?_set_image (t : Json) (i : Image) (text : String) :
    (set t ("images." ++ i.key) (.str text)).get? "images" =
      some (.obj (Json.insertMember i.key (.str text) (imagesIn t))) := by
  rw [get?_set rfl, pathOf_image, if_pos rfl, setPath_field rfl]
  rfl

theorem lookup_imagesIn_set (t : Json) (i j : Image) (text : String) :
    Json.lookup i.key (imagesIn (set t ("images." ++ j.key) (.str text))) =
      if i = j then some (.str text) else Json.lookup i.key (imagesIn t) := by
  rw [imagesIn, get?_set_image]
  exact lookup_insertMember_key i j _ _

theorem imageLayer_cons (i : Image) (list : List Image) : imageLayer name? (i :: list) =
    ((name? i).map fun text => ("images." ++ i.key, Json.str text)).toList ++
      imageLayer name? list := by
  cases named : name? i <;> simp [imageLayer, named]

theorem imageLayer_eq_nil (unnamed : ∀ i ∈ list, name? i = none) : imageLayer name? list = [] :=
  List.filterMap_eq_nil_iff.2 fun i mem => by rw [unnamed i mem]; rfl

/-- An image that is named lies on top of the one below. -/
theorem lookup_imageLayer (t : Json) (i : Image) :
    Json.lookup i.key (imagesIn (overlay t (imageLayer name? list))) =
      ((if i ∈ list then name? i else none).map .str).or (Json.lookup i.key (imagesIn t)) := by
  induction list generalizing t with
  | nil => rfl
  | cons j rest ih =>
    rw [imageLayer_cons, overlay_append, ih]
    by_cases here : i = j
    · subst here
      cases named : name? i with
      | none => simp [overlay]
      | some text => by_cases mem : i ∈ rest <;> simp [mem, overlay, lookup_imagesIn_set]
    · cases name? j with
      | none => simp [here, overlay]
      | some text => simp [here, overlay, lookup_imagesIn_set]

/-- As soon as an image is named, the images are a table. -/
theorem exists_table (mem : i ∈ list) (named : name? i = some value) (t : Json) :
    ∃ table, (overlay t (imageLayer name? list)).get? "images" = some (.obj table) := by
  induction list using List.reverseRecOn with
  | nil => cases mem
  | append_singleton rest j ih =>
    -- The last image that is named makes a table, whatever lies below it.
    have parts : imageLayer name? (rest ++ [j]) = imageLayer name? rest ++ imageLayer name? [j] :=
      List.filterMap_append
    rw [parts, overlay_append, imageLayer_cons]
    cases last : name? j with
    | some text => exact ⟨_, get?_set_image _ j text⟩
    | none =>
      refine ih ((List.mem_append.1 mem).resolve_right fun here => ?_)
      obtain rfl := List.mem_singleton.1 here
      cases named.symm.trans last

theorem get?_images_layers (fromFile : Members) (environment : List (String × String)) :
    (layers fromFile environment).get? "images" =
      (overlay (ground fromFile environment)
        (imageLayer (imageOverride? environment) Image.all)).get? "images" := by
  rw [layers_eq, get?_modeLayer, if_neg (by decide)]

theorem get?_layers_of_ne (notImages : k ≠ "images") (notMode : k ≠ "create_only_mode") :
    (layers fromFile environment).get? k = (ground fromFile environment).get? k := by
  rw [layers_eq, get?_modeLayer, if_neg notMode, get?_imageLayer_of_ne notImages]

theorem get?_createOnly_layers (fromFile : Members) (environment : List (String × String)) :
    (layers fromFile environment).get? "create_only_mode" =
      ((createOnlyOverride? environment).map .bool).or
        ((ground fromFile environment).get? "create_only_mode") := by
  rw [layers_eq, get?_modeLayer, if_pos rfl, get?_imageLayer_of_ne (by decide)]

/-- An image that the installer names turns the images into a table. -/
theorem exists_named {i : Image} (named : imageOverride? environment i = some value)
    (fromFile : Members) :
    ∃ table, (layers fromFile environment).get? "images" = some (.obj table) := by
  rw [get?_images_layers]
  exact exists_table i.mem_all named _

/-- If the images are a list, the installer names none of them. -/
theorem unnamed_of_list {items : List Json}
    (listed : (layers fromFile environment).get? "images" = some (.arr items)) (i : Image) :
    imageOverride? environment i = none := by
  cases named : imageOverride? environment i with
  | none => rfl
  | some text =>
    obtain ⟨table, tabled⟩ := exists_named named fromFile
    cases tabled.symm.trans listed

theorem imagesIn_of_get? {v : Json} (found : t.get? "images" = some v) :
    imagesIn t = membersOf v := by
  rw [imagesIn, found]
  rfl

/-- A list of images lies below the variables of all images. -/
theorem imagesIn_ground_of_list {items : List Json}
    (listed : (layers fromFile environment).get? "images" = some (.arr items)) :
    imagesIn (ground fromFile environment) = [] := by
  have unnamed := unnamed_of_list listed
  rw [get?_images_layers, imageLayer_eq_nil fun i _ => unnamed i] at listed
  exact imagesIn_of_get? listed

/-- In a table of images, those that the installer names lie on top. -/
theorem lookup_of_named {table : Members}
    (named : (layers fromFile environment).get? "images" = some (.obj table)) (i : Image) :
    Json.lookup i.key table = ((imageOverride? environment i).map .str).or
      (Json.lookup i.key (imagesIn (ground fromFile environment))) := by
  rw [get?_images_layers] at named
  have upper : imagesIn _ = table := imagesIn_of_get? named
  rw [← upper, lookup_imageLayer, if_pos i.mem_all]

/-- The images are a list instead of a table. -/
def ListsImages (values : Json) : Prop := ∃ items, values.get? "images" = some (.arr items)

variable {s : Settings} {i : Image}

theorem ground_assign (foreign : environmentName? name = none) (fromFile : Members) :
    ground fromFile (assign name value environment) = ground fromFile (unset name environment) := by
  rw [ground, environmentMembers_assign foreign, ground]

theorem layers_congr {environment' : List (String × String)}
    (below : environmentMembers environment = environmentMembers environment')
    (images : ∀ j, imageOverride? environment j = imageOverride? environment' j)
    (mode : createOnlyOverride? environment = createOnlyOverride? environment')
    (fromFile : Members) : layers fromFile environment = layers fromFile environment' := by
  simp only [layers, overrides, below, images, mode]

/-- An empty name of an image is none. -/
theorem layers_assign_empty (fromFile : Members) (i : Image)
    (environment : List (String × String)) :
    layers fromFile (assign (imageVariable i) "" environment) =
      layers fromFile (unset (imageVariable i) environment) := by
  refine layers_congr (environmentMembers_assign (environmentName?_imageVariable i)) (fun j => ?_)
    (createOnlyOverride?_assign_of_ne (createOnlyVariable_ne i)) fromFile
  by_cases same : j = i
  · subst same
    rw [imageOverride?_assign_empty, imageOverride?_unset_self]
  · exact imageOverride?_assign_of_ne (mt imageVariable_inj same)

theorem get?_createOnly_assign_image (fromFile : Members) :
    (layers fromFile (assign (imageVariable i) value environment)).get? "create_only_mode" =
      (layers fromFile (unset (imageVariable i) environment)).get? "create_only_mode" := by
  rw [get?_createOnly_layers, get?_createOnly_layers,
    ground_assign (environmentName?_imageVariable i),
    createOnlyOverride?_assign_of_ne (createOnlyVariable_ne i)]

theorem get?_assign_of_ne (foreign : environmentName? name = none) (notImages : k ≠ "images")
    (notMode : k ≠ "create_only_mode") (fromFile : Members) :
    (layers fromFile (assign name value environment)).get? k =
      (layers fromFile (unset name environment)).get? k := by
  rw [get?_layers_of_ne notImages notMode, get?_layers_of_ne notImages notMode,
    ground_assign foreign]

theorem get?_images_assign_createOnly (fromFile : Members) :
    (layers fromFile (assign createOnlyVariable value environment)).get? "images" =
      (layers fromFile (unset createOnlyVariable environment)).get? "images" := by
  have same : imageOverride? (assign createOnlyVariable value environment) =
      imageOverride? (unset createOnlyVariable environment) :=
    funext fun j => imageOverride?_assign_of_ne (createOnlyVariable_ne j).symm
  rw [get?_images_layers, get?_images_layers, ground_assign environmentName?_createOnlyVariable,
    same]

/-- In a table of images, the one that the installer names changes, and no other. -/
theorem imagesOf?_assign {table upper : Members} {images : Images} (nonempty : value ≠ "")
    (before : (layers fromFile (unset (imageVariable i) environment)).get? "images" =
      some (.obj table))
    (after : (layers fromFile (assign (imageVariable i) value environment)).get? "images" =
      some (.obj upper))
    (read : imagesOf? (.obj table) = some images) :
    imagesOf? (.obj upper) = some (images.replace i value) := by
  rw [imagesOf?_obj_eq_some_iff] at read ⊢
  intro j
  rw [lookup_of_named after, ground_assign (environmentName?_imageVariable i), Images.replace,
    Images.get_ofFunction]
  by_cases same : j = i
  · subst same
    rw [imageOverride?_assign_self nonempty, if_pos rfl]
    rfl
  · rw [imageOverride?_assign_of_ne (mt imageVariable_inj same), if_neg same, ← read j,
      lookup_of_named before]

theorem assemble_assign_image (nonempty : value ≠ "")
    (made : assemble fromFile (unset (imageVariable i) environment) = .ok s)
    (tabled : ¬ ListsImages (layers fromFile (unset (imageVariable i) environment))) :
    assemble fromFile (assign (imageVariable i) value environment) =
      .ok { s with images := s.images.replace i value } := by
  have foreign := environmentName?_imageVariable i
  obtain ⟨read, sound⟩ := assemble_eq_ok_iff.1 made
  obtain ⟨space, mode, interval, images⟩ := ofLayers?_eq_some_iff.1 read
  have named : imageOverride? (assign (imageVariable i) value environment) i = some value :=
    imageOverride?_assign_self nonempty
  obtain ⟨upper, after⟩ := exists_named named fromFile
  refine assemble_eq_ok_iff.2 ⟨ofLayers?_eq_some_iff.2 ⟨?_, ?_, ?_, ?_⟩, sound⟩
  · rw [get?_assign_of_ne foreign (by decide) (by decide)]
    exact space
  · rw [get?_createOnly_assign_image]
    exact mode
  · rw [get?_assign_of_ne foreign (by decide) (by decide)]
    exact interval
  · obtain ⟨below, before, images⟩ := Option.bind_eq_some_iff.1 images
    rw [after]
    cases below with
    | obj table => exact imagesOf?_assign nonempty before after images
    | arr items => exact absurd ⟨items, before⟩ tabled
    | _ => cases images

/-- A list of images is lost under the name of one of them: there is none for the other images. -/
theorem assemble_assign_image_of_list (nonempty : value ≠ "")
    (listed : ListsImages (layers fromFile (unset (imageVariable i) environment))) :
    assemble fromFile (assign (imageVariable i) value environment) = .error .unreadable := by
  obtain ⟨items, before⟩ := listed
  have named : imageOverride? (assign (imageVariable i) value environment) i = some value :=
    imageOverride?_assign_self nonempty
  obtain ⟨upper, after⟩ := exists_named named fromFile
  have unread :
      ofLayers? (layers fromFile (assign (imageVariable i) value environment)) = none := by
    refine Option.eq_none_iff_forall_ne_some.2 fun t read => ?_
    obtain ⟨-, -, -, images⟩ := ofLayers?_eq_some_iff.1 read
    rw [after, Option.bind_some, imagesOf?_obj_eq_some_iff] at images
    obtain ⟨j, other⟩ : ∃ j : Image, j ≠ i :=
      ⟨if i = .server then .agent else .server, by cases i <;> decide⟩
    have missing := images j
    rw [lookup_of_named after, imageOverride?_assign_of_ne (mt imageVariable_inj other),
      unnamed_of_list before, ground_assign (environmentName?_imageVariable i),
      imagesIn_ground_of_list before] at missing
    cases missing
  rw [assemble, unread]

theorem assemble_assign_createOnly
    (made : assemble fromFile (unset createOnlyVariable environment) = .ok s) (value : String) :
    assemble fromFile (assign createOnlyVariable value environment) =
      .ok { s with createOnly := decide (lowerAscii (trimBlanks value) = "true") } := by
  have foreign := environmentName?_createOnlyVariable
  obtain ⟨read, sound⟩ := assemble_eq_ok_iff.1 made
  obtain ⟨space, -, interval, images⟩ := ofLayers?_eq_some_iff.1 read
  generalize flag : decide (lowerAscii (trimBlanks value) = "true") = b
  refine assemble_eq_ok_iff.2 ⟨ofLayers?_eq_some_iff.2 ⟨?_, ?_, ?_, ?_⟩, sound⟩
  · rw [get?_assign_of_ne foreign (by decide) (by decide)]
    exact space
  · rw [get?_createOnly_layers, createOnlyOverride?_assign_self, flag]
    rfl
  · rw [get?_assign_of_ne foreign (by decide) (by decide)]
    exact interval
  · rw [get?_images_assign_createOnly]
    exact images

theorem sound_of_assemble (made : assemble fromFile environment = .ok s) :
    s.operandNamespace ≠ "" ∧ 1 ≤ s.intervalSeconds := by
  obtain ⟨-, sound⟩ := assemble_eq_ok_iff.1 made
  unfold flaw? at sound
  split at sound
  · cases sound
  · split at sound
    · cases sound
    · exact ⟨‹_›, Nat.one_le_iff_ne_zero.2 ‹_›⟩

end Settings

end WorkloadIdentity

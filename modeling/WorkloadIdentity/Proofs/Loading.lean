import WorkloadIdentity.Proofs.Laying
import WorkloadIdentity.Proofs.Overrides

/-! A load comes upon the members of its file and the variables of the environment in some order,
which may be another one with each load. So a law about two loads speaks of all results that they
can have. -/

namespace WorkloadIdentity.Settings

open Json (SameContent)
open Layer

variable {file : Option File} {environment order : List (String × String)} {name value : String}
  {fromFile inOrder : Members} {result : Except LoadFault Settings} {s : Settings}

/-- A result that loading can have, with the members of the file and the variables in some order. -/
inductive Loads (file : Option File) (environment : List (String × String))
    (result : Except LoadFault Settings) : Prop
  | unread (fault : LoadFault) (read : fileMembers file = .error fault)
      (failed : result = .error fault)
  | laid (fromFile inOrder : Members) (order : List (String × String))
      (read : fileMembers file = .ok fromFile) (ofFile : inOrder.Perm fromFile)
      (ofEnvironment : order.Perm environment) (made : assemble inOrder order = result)

/-- The one result that loading has, in whatever order. -/
def Gives (file : Option File) (environment : List (String × String))
    (result : Except LoadFault Settings) : Prop :=
  ∀ other, Loads file environment other ↔ other = result

theorem load_of_error {fault : LoadFault} (read : fileMembers file = .error fault) :
    load file environment = .error fault := by
  rw [load, read]
  rfl

theorem load_of_ok (read : fileMembers file = .ok fromFile) :
    load file environment = assemble fromFile environment := by
  rw [load, read]
  rfl

theorem loads_load (file : Option File) (environment : List (String × String)) :
    Loads file environment (load file environment) := by
  cases read : fileMembers file with
  | error fault => exact .unread fault read (load_of_error read)
  | ok fromFile =>
    exact .laid fromFile fromFile environment read (.refl _) (.refl _) (load_of_ok read).symm

theorem gives_of_forall (only : ∀ other, Loads file environment other → other = result) :
    Gives file environment result := by
  refine fun other => ⟨only other, ?_⟩
  rintro rfl
  have loads := loads_load file environment
  rwa [only _ loads] at loads

theorem lookup_eq_some_of_only {α : Type} {entries : List (String × α)} {v : α}
    (mem : (name, v) ∈ entries) (only : ∀ e ∈ entries, e.1 = name → e = (name, v)) :
    List.lookup name entries = some v := by
  induction entries with
  | nil => cases mem
  | cons head rest ih =>
    obtain ⟨k, w⟩ := head
    rw [lookup_cons_ite]
    split
    · rename_i same
      cases only _ List.mem_cons_self same.symm
      rfl
    · rename_i other
      refine ih ((List.mem_cons.1 mem).resolve_left fun here => other (congrArg Prod.fst here)) ?_
      exact fun e he => only e (List.mem_cons_of_mem _ he)

/-- What is found under a name does not depend on the order if each name is there once. -/
theorem lookup_eq_of_perm {α : Type} {xs ys : List (String × α)} (perm : xs.Perm ys)
    (once : (xs.map Prod.fst).Nodup) (name : String) :
    List.lookup name xs = List.lookup name ys := by
  induction perm with
  | nil => rfl
  | cons head _ ih =>
    obtain ⟨k, v⟩ := head
    rw [lookup_cons_ite, lookup_cons_ite, ih (List.nodup_cons.1 once).2]
  | swap first second rest =>
    obtain ⟨k, v⟩ := first
    obtain ⟨l, w⟩ := second
    have ne : l ≠ k := fun e => (List.nodup_cons.1 once).1 (e ▸ List.mem_cons_self)
    simp only [lookup_cons_ite]
    by_cases here : name = l
    · rw [if_pos here, if_neg (here ▸ ne), if_pos here]
    · rw [if_neg here, if_neg here]
  | trans one _ ih ih' => exact (ih once).trans (ih' ((one.map _).nodup once))

theorem unset_of_perm (perm : order.Perm (unset name environment)) : unset name order = order :=
  List.filter_eq_self.2 fun _ mem => (List.mem_filter.1 (perm.mem_iff.1 mem)).2

theorem unset_assign (name value : String) (environment : List (String × String)) :
    unset name (assign name value environment) = unset name environment := by
  simp [assign, unset]

theorem environmentMembers_unset (foreign : environmentName? name = none) :
    environmentMembers (unset name environment) = environmentMembers environment := by
  unfold environmentMembers unset
  rw [List.filterMap_filter]
  refine congrArg (List.filterMap · environment) (funext fun e => ?_)
  by_cases here : e.1 = name
  · simp [here, foreign]
  · simp [here]

/-- It makes no difference where among the others a variable of the installer comes. -/
theorem layers_of_perm_assign (foreign : environmentName? name = none)
    (perm : order.Perm (assign name value environment)) (fromFile : Members) :
    layers fromFile order = layers fromFile (assign name value order) := by
  have here : List.lookup name order = some value := by
    refine lookup_eq_some_of_only (perm.mem_iff.2 List.mem_cons_self) fun e mem named => ?_
    refine (List.mem_cons.1 (perm.mem_iff.1 mem)).resolve_right fun other => ?_
    exact of_decide_eq_true (List.mem_filter.1 other).2 named
  have found (other : String) :
      List.lookup other (assign name value order) = List.lookup other order := by
    have elsewhere := lookup_filter (fun n => decide (n ≠ name)) other order
    rw [lookup_assign]
    by_cases same : other = name
    · rw [if_pos same, same, here]
    · rw [if_neg same, unset, elsewhere, if_pos (decide_eq_true same)]
  refine layers_congr ?_ (fun j => ?_) ?_ fromFile
  · rw [environmentMembers_assign foreign, environmentMembers_unset foreign]
  · rw [imageOverride?, imageOverride?, found]
  · rw [createOnlyOverride?, createOnlyOverride?, found]

/-- What loading can give in one environment it can give, with a change, in another one, and what it
always gives it always gives with this change. -/
structure CarriesOver (file : Option File) (bare full : List (String × String))
    (change : Settings → Settings) : Prop where
  possible : ∀ s, Loads file bare (.ok s) → Loads file full (.ok (change s))
  certain : ∀ s, Gives file bare (.ok s) → Gives file full (.ok (change s))

/-- A load with a variable of the installer has an order of the variables without it. -/
theorem Loads.of_assign (foreign : environmentName? name = none)
    (loads : Loads file (assign name value environment) result) :
    (∃ fault, fileMembers file = .error fault ∧ result = .error fault) ∨
    ∃ fromFile inOrder order, fileMembers file = .ok fromFile ∧ inOrder.Perm fromFile ∧
      order.Perm (unset name environment) ∧ assemble inOrder (assign name value order) = result := by
  cases loads with
  | unread fault read failed => exact .inl ⟨fault, read, failed⟩
  | laid fromFile inOrder order read ofFile ofEnvironment made =>
    have perm : (unset name order).Perm (unset name environment) := by
      rw [← unset_assign name value environment]
      exact ofEnvironment.filter _
    refine .inr ⟨fromFile, inOrder, unset name order, read, ofFile, perm, ?_⟩
    have same : assign name value (unset name order) = assign name value order := by
      rw [assign, assign, unset_of_perm perm]
    rw [same, ← made, assemble, assemble, layers_of_perm_assign foreign ofEnvironment]

theorem assign_perm (value : String) (perm : order.Perm (unset name environment)) :
    (assign name value order).Perm (assign name value environment) := by
  rw [assign, assign, unset_of_perm perm]
  exact perm.cons _

/-- What holds for each order by itself carries over. -/
theorem carriesOver_of_assemble {change : Settings → Settings}
    (foreign : environmentName? name = none)
    (each : ∀ fromFile inOrder order s, fileMembers file = .ok fromFile → inOrder.Perm fromFile →
      order.Perm (unset name environment) → assemble inOrder (unset name order) = .ok s →
      assemble inOrder (assign name value order) = .ok (change s)) :
    CarriesOver file (unset name environment) (assign name value environment) change where
  possible s loads := by
    cases loads with
    | unread fault read failed => cases failed
    | laid fromFile inOrder order read ofFile ofEnvironment made =>
      rw [← unset_of_perm ofEnvironment] at made
      exact .laid fromFile inOrder _ read ofFile (assign_perm value ofEnvironment)
        (each fromFile inOrder order s read ofFile ofEnvironment made)
  certain s gives := by
    refine gives_of_forall fun other loads => ?_
    rcases loads.of_assign foreign with ⟨fault, read, -⟩ |
      ⟨fromFile, inOrder, order, read, ofFile, ofEnvironment, made⟩
    · cases (gives _).1 (.unread fault read rfl)
    · have made' := (gives _).1 (.laid fromFile inOrder order read ofFile ofEnvironment rfl)
      rw [← unset_of_perm ofEnvironment] at made'
      rw [← made, each fromFile inOrder order s read ofFile ofEnvironment made']

/-- Each variable is there once, and no two members of the file and no two variables lead to one
place or one of them into the place of the other. -/
structure IsClear (file : Option File) (environment : List (String × String)) : Prop where
  once : (environment.map Prod.fst).Nodup
  ofFile : ∀ fromFile, fileMembers file = .ok fromFile → LeadApart fromFile
  ofEnvironment : LeadApart (environmentMembers environment)

theorem isClear_unset (clear : IsClear file environment) (name : String) :
    IsClear file (unset name environment) where
  once := List.Nodup.sublist (List.filter_sublist.map _) clear.once
  ofFile := clear.ofFile
  ofEnvironment := List.Pairwise.sublist (List.filter_sublist.filterMap _) clear.ofEnvironment

section
variable (clear : IsClear file environment) (read : fileMembers file = .ok fromFile)
  (ofFile : inOrder.Perm fromFile) (ofEnvironment : order.Perm environment)

include clear read ofFile ofEnvironment

theorem IsClear.sameContent_layers :
    SameContent (layers inOrder order) (layers fromFile environment) := by
  have once : (order.map Prod.fst).Nodup := (ofEnvironment.map _).nodup_iff.2 clear.once
  have found (name : String) := lookup_eq_of_perm ofEnvironment once name
  have top : overrides order = overrides environment := by
    simp only [overrides, imageOverride?, createOnlyOverride?, found]
  rw [layers, layers, top]
  have ofFileApart : LeadApart inOrder := (clear.ofFile fromFile read).perm ofFile.symm
  refine overlay_congr _ (overlay_perm (ofEnvironment.filterMap _) ?_ ?_)
  · exact clear.ofEnvironment.perm (ofEnvironment.filterMap _).symm
  · exact overlay_perm ofFile ofFileApart (.refl _)

theorem IsClear.assemble_eq : assemble inOrder order = assemble fromFile environment := by
  rw [assemble, assemble,
    ofLayers?_congr (clear.sameContent_layers read ofFile ofEnvironment)]

end

/-- **Loading has one result** where members and variables lead apart. -/
theorem IsClear.gives (clear : IsClear file environment) :
    Gives file environment (load file environment) := by
  refine gives_of_forall fun other loads => ?_
  cases loads with
  | unread fault read failed => rw [failed, load_of_error read]
  | laid fromFile inOrder order read ofFile ofEnvironment made =>
    rw [← made, load_of_ok read, clear.assemble_eq read ofFile ofEnvironment]

/-- Two spellings of one name. -/
def spelledTwice : List (String × String) :=
  [("ZTWIM__OPERAND_NAMESPACE", "a"), ("ztwim__operand_namespace", "b")]

/-- Of two variables that lead to one place, either one can come last. -/
theorem either_spelling_can_win : Loads none spelledTwice (.ok { operandNamespace := "a" }) ∧
    Loads none spelledTwice (.ok { operandNamespace := "b" }) :=
  ⟨.laid [] [] spelledTwice.reverse rfl (.refl _) (List.reverse_perm _) (by decide +kernel),
    .laid [] [] spelledTwice rfl (.refl _) (.refl _) (by decide +kernel)⟩

/-- The images can be a list instead of a table. -/
def CanListImages (file : Option File) (environment : List (String × String)) : Prop :=
  ∃ fromFile inOrder order, fileMembers file = .ok fromFile ∧ inOrder.Perm fromFile ∧
    order.Perm environment ∧ ListsImages (layers inOrder order)

theorem listsImages_congr {t u : Json} (same : SameContent t u) (listed : ListsImages t) :
    ListsImages u := by
  obtain ⟨items, here⟩ := listed
  have images := same.get? "images"
  rw [here] at images
  cases found : u.get? "images" with
  | none => cases found ▸ images.1
  | some v =>
    cases images.2 _ v rfl found with
    | refl => exact ⟨items, found⟩
    | items => exact ⟨_, found⟩

theorem gives_of_list {i : Image} (clear : IsClear file environment) (nonempty : value ≠ "")
    (listed : CanListImages file (unset (imageVariable i) environment)) :
    Gives file (assign (imageVariable i) value environment) (.error .unreadable) := by
  obtain ⟨fromFile, inOrder, order, read, ofFile, ofEnvironment, listed⟩ := listed
  have clear := isClear_unset clear (imageVariable i)
  have listed := listsImages_congr (clear.sameContent_layers read ofFile ofEnvironment) listed
  refine gives_of_forall fun other loads => ?_
  rcases loads.of_assign (environmentName?_imageVariable i) with ⟨fault, unread, -⟩ |
    ⟨_, inOrder', order', again, ofFile', ofEnvironment', made⟩
  · cases read.symm.trans unread
  · cases read.symm.trans again
    rw [← made]
    refine assemble_assign_image_of_list nonempty ?_
    rw [unset_of_perm ofEnvironment']
    exact listsImages_congr (clear.sameContent_layers read ofFile' ofEnvironment').symm listed

/-- A variable of the installer changes its own setting and no other one. An empty name of an image
is none; with any other one this image is named so, whatever lies below, if the images are a table.
If they are a list, no settings are loaded. What is loaded is sound in any case. -/
theorem overrides_change_their_own_setting (file : Option File)
    (environment : List (String × String)) :
    (∀ i result, Loads file (assign (imageVariable i) "" environment) result ↔
      Loads file (unset (imageVariable i) environment) result) ∧
    (∀ i value, value ≠ "" → ¬ CanListImages file (unset (imageVariable i) environment) →
      CarriesOver file (unset (imageVariable i) environment)
        (assign (imageVariable i) value environment)
        fun s => { s with images := s.images.replace i value }) ∧
    (∀ i value, value ≠ "" → CanListImages file (unset (imageVariable i) environment) →
      Loads file (assign (imageVariable i) value environment) (.error .unreadable) ∧
        (IsClear file environment →
          Gives file (assign (imageVariable i) value environment) (.error .unreadable))) ∧
    (∀ value, CarriesOver file (unset createOnlyVariable environment)
      (assign createOnlyVariable value environment)
      fun s => { s with createOnly := decide (lowerAscii (trimBlanks value) = "true") }) ∧
    (∀ s, Loads file environment (.ok s) → s.operandNamespace ≠ "" ∧ 1 ≤ s.intervalSeconds) ∧
    (IsClear file environment → ∃ result, Gives file environment result) := by
  refine ⟨fun i result => ⟨fun loads => ?empty, fun loads => ?bare⟩,
    fun i value nonempty tabled => ?named,
    fun i value nonempty listed => ⟨?lost, fun clear => gives_of_list clear nonempty listed⟩,
    fun value => ?mode, fun s loads => ?sound, fun clear => ⟨_, clear.gives⟩⟩
  case empty =>
    rcases loads.of_assign (environmentName?_imageVariable i) with ⟨fault, read, failed⟩ |
      ⟨fromFile, inOrder, order, read, ofFile, ofEnvironment, made⟩
    · exact .unread fault read failed
    · rw [assemble, layers_assign_empty, unset_of_perm ofEnvironment] at made
      exact .laid fromFile inOrder order read ofFile ofEnvironment made
  case bare =>
    cases loads with
    | unread fault read failed => exact .unread fault read failed
    | laid fromFile inOrder order read ofFile ofEnvironment made =>
      refine .laid fromFile inOrder _ read ofFile (assign_perm "" ofEnvironment) ?_
      rw [assemble, layers_assign_empty, unset_of_perm ofEnvironment]
      exact made
  case named =>
    refine carriesOver_of_assemble (environmentName?_imageVariable i) ?_
    intro fromFile inOrder order s read ofFile ofEnvironment made
    refine assemble_assign_image nonempty made fun listed => tabled ?_
    rw [unset_of_perm ofEnvironment] at listed
    exact ⟨fromFile, inOrder, order, read, ofFile, ofEnvironment, listed⟩
  case lost =>
    obtain ⟨fromFile, inOrder, order, read, ofFile, ofEnvironment, listed⟩ := listed
    rw [← unset_of_perm ofEnvironment] at listed
    exact .laid fromFile inOrder _ read ofFile (assign_perm value ofEnvironment)
      (assemble_assign_image_of_list nonempty listed)
  case mode =>
    refine carriesOver_of_assemble environmentName?_createOnlyVariable ?_
    intro fromFile inOrder order s _ _ _ made
    exact assemble_assign_createOnly made value
  case sound =>
    cases loads with
    | unread fault read failed => cases failed
    | laid fromFile inOrder order read ofFile ofEnvironment made => exact sound_of_assemble made

/-- An environment with a namespace, and with the name of an image below that of the installer. -/
def spelledOnce : List (String × String) :=
  [("ZTWIM__OPERAND_NAMESPACE", "spire"), ("ZTWIM__IMAGES__SPIRE_AGENT", "below")]

theorem named_agent_is_overridden :
    Gives none (unset (imageVariable .agent) spelledOnce)
        (.ok { operandNamespace := "spire", images := Images.replace {} .agent "below" }) ∧
      Gives none (assign (imageVariable .agent) "v" spelledOnce)
        (.ok { operandNamespace := "spire", images := Images.replace {} .agent "v" }) := by
  have clear : IsClear none (unset (imageVariable .agent) spelledOnce) :=
    ⟨by decide, fun fromFile read => by cases read; exact List.Pairwise.nil, by decide +kernel⟩
  have bare : load none (unset (imageVariable .agent) spelledOnce) =
      .ok { operandNamespace := "spire", images := Images.replace {} .agent "below" } := by
    decide +kernel
  have gives := bare ▸ clear.gives
  have tabled : ¬ CanListImages none (unset (imageVariable .agent) spelledOnce) := by
    rintro ⟨fromFile, inOrder, order, ⟨⟩, ofFile, ofEnvironment, listed⟩
    obtain ⟨items, listed⟩ :=
      listsImages_congr (clear.sameContent_layers rfl ofFile ofEnvironment) listed
    have named : (layers [] (unset (imageVariable .agent) spelledOnce)).get? "images" =
        some (Images.toJson (Images.replace {} .agent "below")) := by
      decide +kernel
    cases named.symm.trans listed
  obtain ⟨-, named, -⟩ := overrides_change_their_own_setting none spelledOnce
  exact ⟨gives, (named .agent "v" (by decide) tabled).certain _ gives⟩

/-- A file with the images in a list. -/
def listing : File :=
  ⟨"a.json", some "\x7b\"images\": [\"a\", \"b\", \"c\", \"d\", \"e\", \"f\", \"g\"]\x7d"⟩

/-- Images in a list are lost as soon as the installer names one of them. -/
theorem listed_images_are_not_overridden :
    load (some listing) (unset (imageVariable .server) []) =
        .ok { images := ⟨"a", "b", "c", "d", "e", "f", "g"⟩ } ∧
      load (some listing) (assign (imageVariable .server) "v" []) ≠
        .ok { images := ⟨"v", "b", "c", "d", "e", "f", "g"⟩ } := by
  decide +kernel

end WorkloadIdentity.Settings

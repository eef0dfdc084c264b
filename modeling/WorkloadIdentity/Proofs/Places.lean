import WorkloadIdentity.Proofs.Sequences

/-! The objects of an operand live at paths that are told apart by their groups, or by their names.
A name of a namespace that is no part of a path cuts all the paths behind it. -/

namespace WorkloadIdentity

namespace Address

/-- A path starts with a text. -/
def Starts (start path : String) : Prop := start.toList <+: path.toList

instance (start path : String) : Decidable (Starts start path) :=
  decidable_of_iff (start.toList.isPrefixOf path.toList = true) List.isPrefixOf_iff_prefix

theorem starts_append (a b : String) : Starts a (a ++ b) := by
  simp [Starts]

theorem starts_of_path? {a b path : String} (plain : IsPlain a) (h : path? (a ++ b) = some path) :
    Starts a path := by
  rw [path?_append_of_isPlain plain, Option.map_eq_some_iff] at h
  obtain ⟨rest, -, rfl⟩ := h
  exact starts_append a rest

/-- A text of characters that may stand behind a question mark. -/
def IsQueryText (text : String) : Prop := ∀ c ∈ text.toList, isQueryChar c = true

instance (text : String) : Decidable (IsQueryText text) :=
  decidable_of_iff (text.toList.all isQueryChar = true) List.all_eq_true

theorem isQuery_append {xs ys zs : List Char} (h : isQuery (xs ++ ys) = true)
    (query : ∀ c ∈ zs, isQueryChar c = true) : isQuery (xs ++ zs) = true := by
  unfold isQuery at h ⊢
  induction xs with
  | nil =>
    rw [List.nil_append, List.all_eq_true]
    exact fun c hc => query c (List.takeWhile_prefix _ |>.subset hc)
  | cons c rest ih =>
    by_cases fragment : c = '#'
    · simp [fragment]
    · simp only [List.cons_append, List.takeWhile_cons, ne_eq, fragment, not_false_eq_true,
        decide_true, if_true, List.all_cons, Bool.and_eq_true] at h ⊢
      exact ⟨h.1, ih h.2⟩

/-- Where a text ends the path, it ends it in the same way before any query. -/
theorem pathChars?_append_again {xs ys zs path : List Char}
    (cut : ¬ ∀ c ∈ xs, isPathChar c = true) (h : pathChars? (xs ++ ys) = some path)
    (query : ∀ c ∈ zs, isQueryChar c = true) : pathChars? (xs ++ zs) = some path := by
  induction xs generalizing path with
  | nil => exact absurd nofun cut
  | cons c rest ih =>
    simp only [List.cons_append, pathChars?] at h ⊢
    split
    · rwa [if_pos ‹_›] at h
    · rw [if_neg ‹_›] at h
      split
      · rw [if_pos ‹_›] at h
        split at h
        · rw [if_pos (isQuery_append ‹_› query)]
          exact h
        · cases h
      · rw [if_neg ‹_›] at h
        split
        · rename_i plain
          rw [if_pos plain, Option.map_eq_some_iff] at h
          obtain ⟨tail, found, rfl⟩ := h
          have later : ¬ ∀ c ∈ rest, isPathChar c = true := fun all => cut fun d hd =>
            (List.mem_cons.1 hd).elim (fun e => e ▸ plain) (all d)
          rw [ih later found]
          rfl
        · rw [if_neg ‹_›] at h
          cases h

/-- A text ends every path that a query could follow, and `kept` is left of it. -/
def Cut (text kept : String) : Prop :=
  ∀ rest, IsQueryText rest → path? (text ++ rest) = some kept

theorem cut_of_path? {text rest kept : String} (notPlain : ¬ IsPlain text)
    (h : path? (text ++ rest) = some kept) : Cut text kept := by
  intro other query
  rw [path?_eq_some_iff, String.toList_append] at h ⊢
  exact pathChars?_append_again notPlain h query

end Address

namespace Collection

/-- The start of all paths of a group in a version. -/
def startOf (group version : String) : String :=
  (if group = "" then "/api/" ++ version else "/apis/" ++ group ++ "/" ++ version) ++ "/"

def start (c : Collection) : String := startOf c.group c.version

/-- What follows the start in the path of a collection. -/
def rest (c : Collection) : String :=
  match c.namespaceName with
  | some name => "namespaces/" ++ name ++ "/" ++ c.plural
  | none => c.plural

theorem path_eq (c : Collection) : c.path = c.start ++ c.rest := by
  have slash : "/namespaces/" = "/" ++ "namespaces/" := by decide
  unfold path start startOf rest groupPath
  cases c.namespaceName with
  | none => simp only [String.append_assoc, String.empty_append]
  | some name =>
    dsimp only
    rw [slash]
    simp only [String.append_assoc]

/-- The groups of the objects of the operands, with their versions. -/
def groups : List (String × String) :=
  [("", "v1"), ("apps", "v1"), ("rbac.authorization.k8s.io", "v1"), ("storage.k8s.io", "v1"),
    ("security.openshift.io", "v1"), ("spire.spiffe.io", "v1alpha1"),
    ("route.openshift.io", "v1")]

/-- Whether the group of a collection is one of these. -/
def isKnown (c : Collection) : Bool := groups.contains (c.group, c.version)

/-- The groups of the collections that can be listed, with their versions. -/
def listedGroups : List (String × String) :=
  [(customGroup, customVersion), ("", "v1"), ("apps", "v1")]

/-- Whether the group of a collection is known, and none of its collections can be listed. -/
def isUnlisted (c : Collection) : Bool :=
  c.isKnown && !listedGroups.contains (c.group, c.version)

theorem isPlain_startOf : ∀ g ∈ groups, Address.IsPlain (startOf g.1 g.2) := by decide

/-- No group lives inside another one. -/
theorem eq_of_starts_startOf : ∀ g ∈ groups, ∀ h ∈ groups,
    Address.Starts (startOf g.1 g.2) (startOf h.1 h.2) → g = h := by decide

theorem not_starts_customGroup : ∀ g ∈ groups,
    ¬ Address.Starts (startOf g.1 g.2) (startOf customGroup customVersion) ∧
    ¬ Address.Starts (startOf customGroup customVersion) (startOf g.1 g.2) := by decide

theorem not_starts_listed : ∀ g ∈ groups, g ∉ listedGroups → ∀ h ∈ listedGroups,
    ¬ Address.Starts (startOf g.1 g.2) (startOf h.1 h.2) ∧
    ¬ Address.Starts (startOf h.1 h.2) (startOf g.1 g.2) := by decide

variable {c d : Collection}

theorem mem_listedGroups {space : String} (listed : c ∈ Server.listable space) :
    (c.group, c.version) ∈ listedGroups := by
  have each : ∀ g ∈ (Server.listable "").map fun c => (c.group, c.version), g ∈ listedGroups := by
    decide
  -- The groups are the same in all namespaces.
  have mem := List.mem_map_of_mem (f := fun c : Collection => (c.group, c.version)) listed
  exact each _ mem

/-- What lies in a group without listed collections is no collection that can be listed. -/
theorem isCollection_eq_false {path : String} (unlisted : c.isUnlisted = true)
    (inside : Address.Starts c.start path) : Server.isCollection path = false := by
  rw [isUnlisted, Bool.and_eq_true, Bool.not_eq_true', ← Bool.not_eq_true,
    List.contains_iff_mem] at unlisted
  rw [← Bool.not_eq_true, Server.isCollection_iff]
  rintro ⟨space, -, d, listed, rfl⟩
  have around : Address.Starts d.start d.path := by
    rw [path_eq]
    exact Address.starts_append _ _
  obtain ⟨outside, beyond⟩ := not_starts_listed _ (List.contains_iff_mem.1 unlisted.1) unlisted.2
    _ (mem_listedGroups listed)
  exact (List.prefix_or_prefix_of_prefix inside around).elim outside beyond

theorem isPlain_start (known : c.isKnown = true) : Address.IsPlain c.start :=
  isPlain_startOf (c.group, c.version) (List.contains_iff_mem.1 known)

theorem eq_of_starts (hc : c.isKnown = true) (hd : d.isKnown = true)
    (h : Address.Starts c.start d.start) : c.group = d.group ∧ c.version = d.version :=
  Prod.mk.inj (eq_of_starts_startOf _ (List.contains_iff_mem.1 hc) _ (List.contains_iff_mem.1 hd) h)

end Collection

theorem CustomKind.starts_path (kind : CustomKind) :
    Address.Starts (Collection.startOf customGroup customVersion) kind.path := by
  rcases kind with _ | kind
  · decide
  · cases kind <;> decide

namespace Wanted

open Address

variable {u w : Wanted} {path name space kept : String}

theorem target_eq (w : Wanted) (name : String) :
    Api.targetOf w.collection name = w.collection.start ++ (w.collection.rest ++ "/" ++ name) := by
  simp [Api.targetOf, Collection.path_eq, String.append_assoc]

/-- The paths of an object start with the path of its group. -/
theorem starts (known : w.collection.isKnown = true)
    (here : w.address? = some path ∨ w.birth? = some path) : Starts w.collection.start path := by
  have plain := Collection.isPlain_start known
  rcases here with address | born
  · obtain ⟨name, -, found⟩ := address?_eq_some_iff.1 address
    rw [target_eq] at found
    exact starts_of_path? plain found
  · obtain ⟨place, posted, rfl⟩ := Option.map_eq_some_iff.1 born
    rw [Collection.path_eq, String.append_assoc] at posted
    refine (starts_of_path? plain posted).trans ?_
    rw [String.append_assoc]
    exact starts_append place _

/-- An object of a kind that is more than a name is told from a collection by its kind, and one of
another group by its path. -/
theorem tellsLists_of_typed (typed : w.kind ≠ .untyped) : w.TellsLists := fun path _ =>
  ManagedKind.readsNoList (ManagedKind.typeName?_kindName typed w.object) path

theorem tellsLists_of_isUnlisted (unlisted : w.collection.isUnlisted = true) : w.TellsLists := by
  intro path address listed
  have known : w.collection.isKnown = true := (Bool.and_eq_true_iff.1 unlisted).1
  rw [Collection.isCollection_eq_false unlisted (starts known (.inl address))] at listed
  cases listed

/-- Objects of two groups live at different paths. -/
theorem places_of_group_ne (hu : u.collection.isKnown = true) (hw : w.collection.isKnown = true)
    (ne : u.collection.group ≠ w.collection.group) :
    ∀ path, u.address? = some path → w.address? ≠ some path ∧ w.birth? ≠ some path := by
  intro path address
  have apart (here : w.address? = some path ∨ w.birth? = some path) : False := by
    rcases List.prefix_or_prefix_of_prefix (starts hu (.inl address)) (starts hw here) with
      inside | inside
    · exact ne (Collection.eq_of_starts hu hw inside).1
    · exact ne (Collection.eq_of_starts hw hu inside).1.symm
  exact ⟨fun h => apart (.inl h), fun h => apart (.inr h)⟩

/-- No object of an operand lives where a resource of a user lives. -/
theorem ne_customPath (known : w.collection.isKnown = true) (kind : CustomKind) :
    w.address? ≠ some kind.path ∧ w.birth? ≠ some kind.path := by
  obtain ⟨outside, around⟩ := Collection.not_starts_customGroup _ (List.contains_iff_mem.1 known)
  have apart (here : w.address? = some kind.path ∨ w.birth? = some kind.path) : False :=
    (List.prefix_or_prefix_of_prefix (starts known here) kind.starts_path).elim outside around
  exact ⟨fun h => apart (.inl h), fun h => apart (.inr h)⟩

section
variable (named : w.metadata.name = some name) (plain : IsPlain w.collection.path)

include named plain

theorem address?_of_isPlain (plainName : IsPlain name) :
    w.address? = some (Api.targetOf w.collection name) := by
  rw [address?, named]
  exact path?_of_isPlain ((plain.append (by decide)).append plainName)

theorem birth?_of_isPlain : w.birth? = some (Api.targetOf w.collection name) := by
  have mark : Address.path? "?" = some "" := by decide
  rw [birth?, path?_append_of_isPlain plain, mark, named]
  simp [Api.targetOf]

end

/-- Objects of different plain names in a plain collection live at different paths. -/
theorem places_of_name_ne {other : String} (same : u.collection = w.collection)
    (plain : IsPlain w.collection.path) (hu : u.metadata.name = some name)
    (hw : w.metadata.name = some other) (plainU : IsPlain name) (plainW : IsPlain other)
    (ne : name ≠ other) :
    ∀ path, u.address? = some path → w.address? ≠ some path ∧ w.birth? ≠ some path := by
  intro path address
  rw [address?_of_isPlain hu (same ▸ plain) plainU, same] at address
  rw [address?_of_isPlain hw plain plainW, birth?_of_isPlain hw plain, ← address]
  have apart : Api.targetOf w.collection other ≠ Api.targetOf w.collection name := fun e =>
    ne (by simpa [Api.targetOf] using e.symm)
  simp [apart]

/-- The start of all paths in the namespaces of the group. -/
def spaces (w : Wanted) : String := w.collection.start ++ "namespaces/"

theorem isPlain_spaces (known : w.collection.isKnown = true) : IsPlain w.spaces :=
  (Collection.isPlain_start known).append (by decide)

section
variable (known : w.collection.isKnown = true)
  (inside : w.collection.namespaceName = some space)

include inside

theorem target_eq_spaces (name : String) : Api.targetOf w.collection name =
    w.spaces ++ (space ++ ("/" ++ w.collection.plural ++ "/" ++ name)) := by
  rw [target_eq, Collection.rest, inside]
  simp [spaces, String.append_assoc]

include known

theorem exists_cut (notPlain : ¬ IsPlain space) (address : w.address? = some path) :
    ∃ kept, Cut space kept ∧ path = w.spaces ++ kept := by
  obtain ⟨name, -, found⟩ := address?_eq_some_iff.1 address
  rw [target_eq_spaces inside, path?_append_of_isPlain (isPlain_spaces known),
    Option.map_eq_some_iff] at found
  obtain ⟨kept, found, rfl⟩ := found
  exact ⟨kept, cut_of_path? notPlain found, rfl⟩

theorem address?_of_cut (cut : Cut space kept) (named : w.metadata.name = some name)
    (query : IsQueryText ("/" ++ w.collection.plural ++ "/" ++ name)) :
    w.address? = some (w.spaces ++ kept) := by
  rw [address?, named, Option.bind_some, target_eq_spaces inside,
    path?_append_of_isPlain (isPlain_spaces known), cut _ query]
  rfl

theorem birth?_of_cut (cut : Cut space kept) (named : w.metadata.name = some name)
    (query : IsQueryText ("/" ++ w.collection.plural ++ "?")) :
    w.birth? = some (w.spaces ++ kept ++ "/" ++ name) := by
  have posted : w.collection.path ++ "?" =
      w.spaces ++ (space ++ ("/" ++ w.collection.plural ++ "?")) := by
    rw [Collection.path_eq, Collection.rest, inside]
    simp [spaces, String.append_assoc]
  rw [birth?, posted, path?_append_of_isPlain (isPlain_spaces known), cut _ query, named]
  rfl

end

theorem isPlain_path (known : w.collection.isKnown = true)
    (inside : w.collection.namespaceName = some space) (plain : IsPlain space)
    (plainPlural : IsPlain w.collection.plural) : IsPlain w.collection.path := by
  have parts : w.collection.path = w.spaces ++ (space ++ ("/" ++ w.collection.plural)) := by
    rw [Collection.path_eq, Collection.rest, inside]
    simp [spaces, String.append_assoc]
  rw [parts]
  exact (isPlain_spaces known).append (plain.append (IsPlain.append (by decide) plainPlural))

/-- Where the name of the namespace cuts the path, objects of the namespace live behind the first
one of it. -/
theorem aside_of_cut {v : Wanted} {first : String} (notPlain : ¬ IsPlain space)
    (insideV : v.collection.namespaceName = some space)
    (insideU : u.collection.namespaceName = some space)
    (insideW : w.collection.namespaceName = some space)
    (knownV : v.collection.isKnown = true) (knownU : u.collection.isKnown = true)
    (knownW : w.collection.isKnown = true)
    (startU : u.collection.start = v.collection.start)
    (startW : w.collection.start = v.collection.start)
    (namedV : v.metadata.name = some first)
    (queryV : IsQueryText ("/" ++ v.collection.plural ++ "/" ++ first))
    (namedW : w.metadata.name = some name)
    (queryW : IsQueryText ("/" ++ w.collection.plural ++ "?")) {kind : String}
    (typed : v.kind.typeName? = some kind) (other : w.kindName ≠ kind) : Aside [v] u w := by
  cases address : u.address? with
  | none => exact .places fun path here => by cases address.symm.trans here
  | some path =>
    obtain ⟨kept, cut, rfl⟩ := exists_cut knownU insideU notPlain address
    have spacesU : u.spaces = v.spaces := by rw [spaces, startU, spaces]
    have spacesW : w.spaces = v.spaces := by rw [spaces, startW, spaces]
    refine .behind v List.mem_cons_self kind typed other ?_ ?_
    · rw [address?_of_cut knownV insideV cut namedV queryV, address, spacesU]
    · rw [birth?_of_cut knownW insideW cut namedW queryW, address, spacesU, spacesW]
      intro e
      have e := congrArg (fun s => s.toList.length) (Option.some.inj e)
      simp at e

end Wanted

end WorkloadIdentity

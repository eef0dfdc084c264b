import WorkloadIdentity.Api.Client
import WorkloadIdentity.Api.Server
import WorkloadIdentity.Operator.Resource

/-! A target is a path as long as it is made of path characters; the first other character ends the
path, whatever follows it, or makes the target no address at all. -/

namespace WorkloadIdentity

namespace Address

/-- A text of path characters only. -/
def IsPlain (text : String) : Prop := ∀ c ∈ text.toList, isPathChar c = true

instance (text : String) : Decidable (IsPlain text) :=
  decidable_of_iff (text.toList.all isPathChar = true) List.all_eq_true

theorem IsPlain.append {a b : String} (ha : IsPlain a) (hb : IsPlain b) : IsPlain (a ++ b) := by
  intro c hc
  rw [String.toList_append, List.mem_append] at hc
  exact hc.elim (ha c) (hb c)

/-- A character of a path neither ends it nor starts a fragment. -/
theorem ne_of_isPathChar {c : Char} (h : isPathChar c = true) : c ≠ '#' ∧ c ≠ '?' := by
  constructor <;> rintro rfl <;> exact absurd h (by decide)

theorem pathChars?_append_of_plain {xs : List Char} (plain : ∀ c ∈ xs, isPathChar c = true)
    (ys : List Char) : pathChars? (xs ++ ys) = (pathChars? ys).map (xs ++ ·) := by
  induction xs with
  | nil => simp
  | cons c rest ih =>
    have here := plain c List.mem_cons_self
    obtain ⟨noFragment, noQuery⟩ := ne_of_isPathChar here
    have ih := ih (fun d hd => plain d (List.mem_cons_of_mem _ hd))
    simp [pathChars?, noFragment, noQuery, here, ih, Function.comp_def]

theorem isQuery_append_mark {xs : List Char} (h : isQuery xs = true) :
    isQuery (xs ++ ['?']) = true := by
  unfold isQuery at h ⊢
  induction xs with
  | nil => decide
  | cons c rest ih =>
    by_cases fragment : c = '#'
    · simp [fragment]
    · simp only [List.takeWhile_cons, List.cons_append, ne_eq, fragment, not_false_eq_true,
        decide_true, if_true, List.all_cons, Bool.and_eq_true] at h ⊢
      exact ⟨h.1, ih h.2⟩

theorem pathChars?_mark {xs path : List Char} (h : pathChars? xs = some path) :
    pathChars? (xs ++ ['?']) = some path := by
  induction xs generalizing path with
  | nil => exact h
  | cons c rest ih =>
    simp only [List.cons_append, pathChars?] at h ⊢
    split
    · rwa [if_pos ‹_›] at h
    · rw [if_neg ‹_›] at h
      split
      · rw [if_pos ‹_›] at h
        split at h
        · rename_i query
          rw [if_pos (isQuery_append_mark query)]
          exact h
        · cases h
      · rw [if_neg ‹_›] at h
        split
        · rw [if_pos ‹_›, Option.map_eq_some_iff] at h
          obtain ⟨tail, found, rfl⟩ := h
          rw [ih found]
          rfl
        · rw [if_neg ‹_›] at h
          cases h

theorem path?_eq_some_iff {target path : String} :
    path? target = some path ↔ pathChars? target.toList = some path.toList := by
  simp only [path?, Option.map_eq_some_iff]
  constructor
  · rintro ⟨chars, found, rfl⟩
    simpa using found
  · intro found
    exact ⟨_, found, by simp⟩

/-- A question mark at the end of a target changes nothing. -/
theorem path?_mark {target path : String} (h : path? target = some path) :
    path? (target ++ "?") = some path := by
  rw [path?_eq_some_iff] at h ⊢
  simpa using pathChars?_mark h

/-- A plain text stands in a path as it is. -/
theorem path?_append_of_isPlain {a : String} (plain : IsPlain a) (b : String) :
    path? (a ++ b) = (path? b).map (a ++ ·) := by
  simp only [path?, String.toList_append, pathChars?_append_of_plain plain, Option.map_map]
  congr 1
  funext chars
  simp

theorem path?_of_isPlain {a : String} (plain : IsPlain a) : path? a = some a := by
  have here := path?_append_of_isPlain plain ""
  simpa [path?, pathChars?] using here

end Address

namespace Server

theorem spaceOf_append {space plural : String} (start : String) (noSlash : '/' ∉ space.toList)
    (last : '/' ∉ plural.toList) : spaceOf (start ++ "/" ++ space ++ "/" ++ plural) = space := by
  have segment {text : String} (h : '/' ∉ text.toList) :
      ∀ c ∈ text.toList.reverse, decide (c ≠ '/') = true := fun c mem =>
    decide_eq_true fun e => h (e ▸ List.mem_reverse.1 mem)
  have slash : "/".toList = ['/'] := rfl
  unfold spaceOf
  simp only [String.toList_append, slash, List.reverse_append, List.reverse_singleton,
    List.singleton_append]
  rw [List.dropWhile_append_of_pos (segment last), List.dropWhile_cons_of_neg (by simp),
    List.drop_one, List.tail_cons, List.takeWhile_append_of_pos (segment noSlash),
    List.takeWhile_cons_of_neg (by simp)]
  simp

theorem slash_notMem_spaceOf (path : String) : '/' ∉ (spaceOf path).toList := by
  intro mem
  simp only [spaceOf, String.toList_ofList, List.mem_reverse] at mem
  simpa using List.all_eq_true.1 List.all_takeWhile _ mem

/-- A collection that can be listed is one of the whole cluster, or has its namespace before the
last segment of its path. -/
theorem mem_listable {c : Collection} {space : String} (listed : c ∈ listable space) :
    (∀ other, c ∈ listable other) ∨ ('/' ∉ space.toList → spaceOf c.path = space) := by
  rcases List.mem_append.1 listed with wide | inside
  · exact .inl fun _ => List.mem_append_left _ wide
  · refine .inr fun noSlash => ?_
    have each : ∀ c ∈ [Collection.configMaps space, .services space, .serviceAccounts space,
        .daemonSets space, .statefulSets space, .deployments space],
        c.namespaceName = some space ∧ '/' ∉ c.plural.toList := by
      simp [Collection.configMaps, Collection.services, Collection.serviceAccounts,
        Collection.daemonSets, Collection.statefulSets, Collection.deployments]
    obtain ⟨named, last⟩ := each c inside
    have parts : c.path = c.groupPath ++ "/namespaces" ++ "/" ++ space ++ "/" ++ c.plural := by
      simp [Collection.path, named, String.append_assoc]
    rw [parts, spaceOf_append _ noSlash last]

/-- The paths of collections are those of the collections that can be listed, in any namespace that
is one segment. -/
theorem isCollection_iff {path : String} : isCollection path = true ↔
    ∃ space, '/' ∉ space.toList ∧ ∃ c ∈ listable space, c.path = path := by
  simp only [isCollection, List.any_eq_true, decide_eq_true_eq]
  constructor
  · rintro ⟨c, listed, here⟩
    exact ⟨spaceOf path, slash_notMem_spaceOf path, c, listed, here⟩
  · rintro ⟨space, noSlash, c, listed, rfl⟩
    rcases mem_listable listed with everywhere | inside
    · exact ⟨c, everywhere _, rfl⟩
    · exact ⟨c, (inside noSlash).symm ▸ listed, rfl⟩

/-- The path of the status of an object leads to the object. -/
theorem objectPath_status (path : String) : objectPath (path ++ "/status") = path := by
  have ends : (path ++ "/status").endsWith "/status" = true := by
    simp [← String.endsWith_toSlice]
  have long : "/status".length = 7 := rfl
  unfold objectPath
  rw [if_pos ends]
  apply String.toList_injective
  change ((path ++ "/status").dropEnd "/status".length).copy.toList = path.toList
  rw [String.toList_copy_dropEnd, long]
  simp

end Server

namespace CustomKind

/-- The path of the one resource of a kind. -/
def path (kind : CustomKind) : String := Api.targetOf kind.collection singletonName

/-- The paths of the resources that users write. -/
def paths : List String := all.map path

theorem path_mem_paths (kind : CustomKind) : kind.path ∈ paths := List.mem_map_of_mem (mem_all kind)

theorem isPlain_path (kind : CustomKind) : Address.IsPlain kind.path := by
  have each : ∀ kind ∈ all, Address.IsPlain kind.path := by decide
  exact each kind kind.mem_all

/-- The status of a resource is patched below the path of the resource. -/
theorem path?_status (kind : CustomKind) :
    Address.path? (kind.path ++ "/status?") = some (kind.path ++ "/status") := by
  have tail : Address.path? "/status?" = some "/status" := by decide
  rw [Address.path?_append_of_isPlain kind.isPlain_path, tail]
  rfl

end CustomKind

end WorkloadIdentity

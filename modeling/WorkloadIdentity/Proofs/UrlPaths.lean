import Mathlib.Data.List.Basic
import WorkloadIdentity.Proofs.Segments

/-! The path of a URL is rewritten when it is read: characters are encoded, and relative segments
are resolved. What comes out is plain, and what is plain already comes out as it was. -/

namespace WorkloadIdentity.Url

/-- The characters that a path keeps as they are. -/
def IsPathChar (c : Char) : Prop :=
  33 ≤ c.toNat ∧ c.toNat ≤ 126 ∧ c ∉ ['"', '#', '<', '>', '?', '`', '\x7b', '\x7d']

instance (c : Char) : Decidable (IsPathChar c) := inferInstanceAs (Decidable (_ ∧ _ ∧ _))

theorem isPathEncoded_eq_false_iff {c : Char} : Percent.isPathEncoded c = false ↔ IsPathChar c := by
  have blank : c = ' ' ↔ c.toNat = 32 := by
    rw [← Char.toNat_inj]
    rfl
  simp only [Percent.isPathEncoded, Percent.isControl, IsPathChar, Bool.or_eq_false_iff,
    decide_eq_false_iff_not, blank, List.mem_cons, List.not_mem_nil, or_false, not_or]
  constructor
  · grind
  · grind

theorem encode_of_forall {encoded : Char → Bool} {cs : List Char}
    (kept : ∀ c ∈ cs, encoded c = false) : Percent.encode encoded cs = cs := by
  unfold Percent.encode
  induction cs with
  | nil => rfl
  | cons c rest ih =>
    rw [List.forall_mem_cons] at kept
    rw [List.flatMap_cons, ih kept.2, kept.1]
    rfl

theorem isPathChar_of_mem_encodeChar {c d : Char} (mem : d ∈ Percent.encodeChar c) :
    IsPathChar d ∧ d ≠ '/' := by
  have digit : ∀ n < 16, IsPathChar (Percent.upperHex n) ∧ Percent.upperHex n ≠ '/' := by decide
  obtain ⟨b, -, mem⟩ := List.mem_flatMap.1 mem
  have small : b.toNat < 256 := b.toNat_lt
  simp only [Percent.encodeByte, List.mem_cons, List.not_mem_nil, or_false] at mem
  rcases mem with rfl | rfl | rfl
  · decide
  · exact digit _ (by omega)
  · exact digit _ (by omega)

/-- Encoding leaves path characters only, and no slash that was not there. -/
theorem isPathChar_of_mem_encode {cs : List Char} {d : Char}
    (mem : d ∈ Percent.encode Percent.isPathEncoded cs) :
    IsPathChar d ∧ (d = '/' → '/' ∈ cs) := by
  obtain ⟨c, here, mem⟩ := List.mem_flatMap.1 mem
  split at mem
  · obtain ⟨kept, noSlash⟩ := isPathChar_of_mem_encodeChar mem
    exact ⟨kept, fun slash => absurd slash noSlash⟩
  case isFalse kept =>
    rw [List.mem_singleton] at mem
    subst mem
    exact ⟨isPathEncoded_eq_false_iff.1 (Bool.eq_false_iff.2 kept), fun slash => slash ▸ here⟩

def writtenDots : List (List Char) := [['.'], ['%', '2', 'e'], ['%', '2', 'E']]

/-- One dot or two, each of which may be encoded. -/
def IsRelative (segment : List Char) : Prop :=
  segment ∈ writtenDots ++ writtenDots.flatMap fun dot => writtenDots.map (dot ++ ·)

instance (segment : List Char) : Decidable (IsRelative segment) :=
  inferInstanceAs (Decidable (_ ∈ _))

theorem isRelative_toList_iff {s : String} :
    IsRelative s.toList ↔ isSingleDot s = true ∨ isDoubleDot s = true := by
  have texts : (writtenDots ++ writtenDots.flatMap fun dot => writtenDots.map (dot ++ ·)).Perm
      (([".", "%2e", "%2E"] ++ ["..", "%2e%2e", "%2e%2E", "%2E%2e", "%2E%2E", "%2e.", "%2E.",
        ".%2e", ".%2E"]).map String.toList) := by decide
  rw [IsRelative, texts.mem_iff, List.mem_map_of_injective fun _ _ => String.toList_injective,
    List.mem_append]
  simp only [isSingleDot, isDoubleDot, decide_eq_true_eq]

/-- What a segment makes of those before it, last one first. -/
def follow (s : String) (done : List String) : List String :=
  if isDoubleDot s then
    match done with
    | [] => []
    | last :: before => if isDriveLetter last then last :: before else before
  else if isSingleDot s then done
  else s :: done

theorem resolve_singleton (s : String) (done : List String) :
    resolve [s] done = if isDoubleDot s || isSingleDot s then ("" :: follow s done).reverse
      else (follow s done).reverse := rfl

theorem resolve_cons_cons (s t : String) (rest done : List String) :
    resolve (s :: t :: rest) done = resolve (t :: rest) (follow s done) := rfl

theorem follow_of_not_isRelative {s : String} (plain : ¬ IsRelative s.toList)
    (done : List String) : follow s done = s :: done := by
  rw [isRelative_toList_iff, not_or] at plain
  unfold follow
  rw [if_neg plain.2, if_neg plain.1]

theorem resolve_of_forall {segments done : List String}
    (plain : ∀ s ∈ segments, ¬ IsRelative s.toList) :
    resolve segments done = done.reverse ++ segments := by
  induction segments generalizing done with
  | nil => simp [resolve]
  | cons s rest ih =>
    rw [List.forall_mem_cons] at plain
    have follows := follow_of_not_isRelative plain.1 done
    cases rest with
    | nil =>
      have dots := plain.1
      rw [isRelative_toList_iff, not_or, Bool.not_eq_true, Bool.not_eq_true] at dots
      simp [resolve_singleton, follows, dots]
    | cons => simp [resolve_cons_cons, follows, ih plain.2]

theorem follow_subset_of_isRelative {s : String} (relative : IsRelative s.toList)
    (done : List String) : follow s done ⊆ done := by
  unfold follow
  split
  · cases done with
    | nil => exact List.Subset.refl []
    | cons last before =>
      dsimp only
      split
      · exact List.Subset.refl _
      · exact List.subset_cons_self last before
  case isFalse double =>
    rw [if_pos ((isRelative_toList_iff.1 relative).resolve_right double)]
    exact List.Subset.refl done

section
variable {p : String → Prop} {done : List String}

theorem forall_mem_follow {s : String} (kept : ¬ IsRelative s.toList → p s)
    (before : ∀ t ∈ done, p t) : ∀ t ∈ follow s done, p t := by
  by_cases relative : IsRelative s.toList
  · exact fun t mem => before t (follow_subset_of_isRelative relative done mem)
  · rw [follow_of_not_isRelative relative, List.forall_mem_cons]
    exact ⟨kept relative, before⟩

/-- What holds of the segments that are not relative holds of the resolved ones. A relative segment
at the end leaves an empty one. -/
theorem forall_mem_resolve {segments : List String} (empty : p "")
    (kept : ∀ s ∈ segments, ¬ IsRelative s.toList → p s) (before : ∀ s ∈ done, p s) :
    ∀ s ∈ resolve segments done, p s := by
  induction segments generalizing done with
  | nil => simpa [resolve] using before
  | cons s rest ih =>
    rw [List.forall_mem_cons] at kept
    have followed := forall_mem_follow kept.1 before
    cases rest with
    | nil =>
      rw [resolve_singleton]
      split
      · intro t mem
        rcases List.mem_cons.1 (List.mem_reverse.1 mem) with rfl | mem
        · exact empty
        · exact followed t mem
      · exact fun t mem => followed t (List.mem_reverse.1 mem)
    | cons t others =>
      rw [resolve_cons_cons]
      exact ih kept.2 followed

end

/-- A path with nothing to encode and nothing to resolve. -/
structure IsPlainPath (path : List Char) : Prop where
  characters : ∀ c ∈ path, IsPathChar c
  segments : ∀ segment ∈ path.splitOn '/', ¬ IsRelative segment

theorem splitSegments_false (cs : List Char) : splitSegments false cs = cs.splitOn '/' := by
  rw [← SpiffeId.splitSlash_eq_splitOn]
  unfold splitSegments SpiffeId.splitSlash
  refine congrArg (cs.foldr · [[]]) (funext fun c => funext fun parts => ?_)
  cases parts with
  | nil => simp
  | cons => simp

/-- A segment with nothing to encode, and not relative. -/
structure IsPlainSegment (segment : List Char) : Prop where
  characters : ∀ c ∈ segment, IsPathChar c
  noSlash : '/' ∉ segment
  notRelative : ¬ IsRelative segment

theorem isPlainSegment_nil : IsPlainSegment [] :=
  ⟨List.forall_mem_nil _, List.not_mem_nil, by decide⟩

theorem isPlainPath_iff {path : List Char} :
    IsPlainPath path ↔ ∀ segment ∈ path.splitOn '/', IsPlainSegment segment := by
  constructor
  · intro plain segment mem
    refine ⟨fun c here => ?_, SpiffeId.noSlash_of_mem_splitOn mem, plain.segments segment mem⟩
    have inside : c ∈ '/' :: path := by
      rw [SpiffeId.slash_cons_eq_flatMap]
      exact List.mem_flatMap.2 ⟨segment, mem, List.mem_cons_of_mem '/' here⟩
    rcases List.mem_cons.1 inside with rfl | inside
    · decide
    · exact plain.characters c inside
  · intro each
    refine ⟨fun c inside => ?_, fun segment mem => (each segment mem).notRelative⟩
    have inside := List.mem_cons_of_mem '/' inside
    rw [SpiffeId.slash_cons_eq_flatMap] at inside
    obtain ⟨segment, mem, here⟩ := List.mem_flatMap.1 inside
    rcases List.mem_cons.1 here with rfl | here
    · decide
    · exact (each segment mem).characters c here

theorem isPlainPath_nil : IsPlainPath [] := isPlainPath_iff.2 (by simpa using isPlainSegment_nil)

theorem isPlainPath_slash_iff {rest : List Char} :
    IsPlainPath ('/' :: rest) ↔ IsPlainPath rest := by
  have split : ('/' :: rest).splitOn '/' = [] :: rest.splitOn '/' :=
    List.splitOn_append_cons_self_of_not_mem List.not_mem_nil rest
  rw [isPlainPath_iff, isPlainPath_iff, split, List.forall_mem_cons,
    and_iff_right isPlainSegment_nil]

theorem isPlainPath_join {segments : List (List Char)}
    (each : ∀ segment ∈ segments, IsPlainSegment segment) :
    IsPlainPath (['/'].intercalate segments) := by
  by_cases some : segments = []
  · subst some
    exact isPlainPath_nil
  · rwa [isPlainPath_iff,
      List.splitOn_intercalate '/' (fun segment mem => (each segment mem).noSlash) some]

/-- The segments of a text as they are written in a path. -/
def encodedSegments (cs : List Char) : List String :=
  (cs.splitOn '/').map fun segment =>
    String.ofList (Percent.encode Percent.isPathEncoded segment)

theorem toList_readPath (cs : List Char) : (readPath false cs).toList =
    '/' :: ['/'].intercalate ((resolve (encodedSegments cs) []).map String.toList) := by
  rw [readPath, splitSegments_false, String.toList_append, String.toList_intercalate]
  rfl

/-- Encoding keeps the segments apart, and resolving takes out the relative ones. -/
theorem isPlainPath_readPath (cs : List Char) : IsPlainPath (readPath false cs).toList := by
  have encoded : ∀ s ∈ encodedSegments cs, ¬ IsRelative s.toList → IsPlainSegment s.toList := by
    intro s mem plain
    obtain ⟨segment, split, rfl⟩ := List.mem_map.1 mem
    have noSlash := SpiffeId.noSlash_of_mem_splitOn split
    rw [String.toList_ofList] at plain ⊢
    exact ⟨fun c here => (isPathChar_of_mem_encode here).1,
      fun slash => noSlash ((isPathChar_of_mem_encode slash).2 rfl), plain⟩
  have resolved : ∀ s ∈ resolve (encodedSegments cs) [], IsPlainSegment s.toList :=
    forall_mem_resolve isPlainSegment_nil encoded (List.forall_mem_nil _)
  rw [toList_readPath, isPlainPath_slash_iff]
  exact isPlainPath_join (by simpa using resolved)

theorem readPath_of_isPlainPath {rest : List Char} (plain : IsPlainPath rest) :
    readPath false rest = String.ofList ('/' :: rest) := by
  have each := isPlainPath_iff.1 plain
  have encoded : encodedSegments rest = (rest.splitOn '/').map String.ofList :=
    List.map_congr_left fun segment mem => by
      rw [encode_of_forall fun c here =>
        isPathEncoded_eq_false_iff.2 ((each segment mem).characters c here)]
  have resolved : resolve (encodedSegments rest) [] = (rest.splitOn '/').map String.ofList := by
    rw [encoded]
    refine resolve_of_forall fun s mem => ?_
    obtain ⟨segment, split, rfl⟩ := List.mem_map.1 mem
    rw [String.toList_ofList]
    exact (each segment split).notRelative
  have texts : String.toList ∘ String.ofList = id := funext fun cs => String.toList_ofList
  rw [← String.toList_inj, toList_readPath, resolved, List.map_map, texts, List.map_id,
    List.intercalate_splitOn, String.toList_ofList]

theorem isPlainPath_readPathAfterHost (cs : List Char) :
    IsPlainPath (readPathAfterHost false cs).toList := by
  cases cs with
  | nil => exact isPlainPath_nil
  | cons c rest =>
    unfold readPathAfterHost
    dsimp only
    split
    · exact isPlainPath_readPath rest
    · exact isPlainPath_readPath (c :: rest)

theorem readPathAfterHost_of_isPlainPath {path : List Char} (rooted : SpiffeId.IsRooted path)
    (plain : IsPlainPath path) : readPathAfterHost false path = String.ofList path := by
  cases path with
  | nil => rfl
  | cons c rest =>
    obtain rfl := rooted c rfl
    exact readPath_of_isPlainPath (isPlainPath_slash_iff.1 plain)

end WorkloadIdentity.Url

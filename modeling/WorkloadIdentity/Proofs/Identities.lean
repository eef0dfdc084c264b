import Mathlib.Data.Bool.AllAny
import WorkloadIdentity.Proofs.Segments

/-!
# Identities and their written forms

An identity is made of any two texts that follow the grammar of trust domains and of paths, and of
no others. As no trust domain has a slash and a path begins with one, the written form can be taken
apart again.

* `TrustDomain.IsWellFormed` and `SpiffeId.IsPath` are the grammar.
* `identities_follow_the_grammar`: what is accepted, and which fault is told otherwise.
* `uri_inj`: no two identities are written alike.
* `accounts_have_identities_of_their_own`: nor are those of two service accounts.
-/

namespace WorkloadIdentity

namespace TrustDomain

/-- One to 255 bytes, each a lower case letter, a digit, a dot, an underscore or a dash. -/
structure IsWellFormed (domain : String) : Prop where
  nonempty : 1 ≤ domain.utf8ByteSize
  short : domain.utf8ByteSize ≤ 255
  characters : ∀ c ∈ domain.toList, c.isLower ∨ c.isDigit ∨ c ∈ ['.', '_', '-']

theorem isLower_iff {c : Char} : c.isLower = true ↔ 'a' ≤ c ∧ c ≤ 'z' := by
  change (decide ('a' ≤ c) && decide (c ≤ 'z')) = true ↔ _
  rw [Bool.and_eq_true, decide_eq_true_eq, decide_eq_true_eq]

theorem isDigit_iff {c : Char} : c.isDigit = true ↔ '0' ≤ c ∧ c ≤ '9' := by
  change (decide ('0' ≤ c) && decide (c ≤ '9')) = true ↔ _
  rw [Bool.and_eq_true, decide_eq_true_eq, decide_eq_true_eq]

theorem isAllowed_iff {c : Char} :
    isAllowed c = true ↔ c.isLower ∨ c.isDigit ∨ c ∈ ['.', '_', '-'] := by
  simp only [isAllowed, isLower_iff, isDigit_iff, Bool.or_eq_true, Bool.and_eq_true,
    decide_eq_true_eq, List.mem_cons, List.not_mem_nil, or_false, or_assoc]

theorem IsWellFormed.notMem {domain : String} {c : Char} (sound : IsWellFormed domain)
    (other : ¬ (c.isLower ∨ c.isDigit ∨ c ∈ ['.', '_', '-'])) : c ∉ domain.toList :=
  mt (sound.characters c) other

theorem IsWellFormed.noSlash {domain : String} (sound : IsWellFormed domain) :
    '/' ∉ domain.toList :=
  sound.notMem (by decide)

theorem hasScheme_of_noSlash {cs : List Char} (noSlash : '/' ∉ cs) : hasScheme cs = false := by
  induction cs with
  | nil => rfl
  | cons c rest ih =>
    have here : [':', '/', '/'].isPrefixOf (c :: rest) = false := by
      rw [← Bool.not_eq_true, List.isPrefixOf_iff_prefix]
      exact fun starts => noSlash (starts.subset (by decide))
    rw [hasScheme, here, ih fun mem => noSlash (List.mem_cons_of_mem c mem)]
    rfl

/-- Schemes and paths are told apart by their messages only: either has a slash, which is no
character of a trust domain. -/
theorem flaw?_eq_none_iff {domain : String} : flaw? domain = none ↔ IsWellFormed domain := by
  have flawless : flaw? domain = none ↔ domain.isEmpty = false ∧
      ¬ maxBytes < domain.utf8ByteSize ∧ hasScheme domain.toList = false ∧
      '/' ∉ domain.toList ∧ domain.toList.all isAllowed = true := by
    grind [flaw?]
  have nonempty : domain.isEmpty = false ↔ 1 ≤ domain.utf8ByteSize := by
    unfold String.isEmpty
    rw [beq_eq_false_iff_ne, Nat.one_le_iff_ne_zero]
  rw [flawless, nonempty, Nat.not_lt, List.all_eq_true]
  simp only [isAllowed_iff]
  constructor
  · rintro ⟨nonempty, short, -, -, characters⟩
    exact ⟨nonempty, short, characters⟩
  · intro sound
    exact ⟨sound.nonempty, sound.short, hasScheme_of_noSlash sound.noSlash, sound.noSlash,
      sound.characters⟩

theorem check_eq_ok_iff {domain : String} : check domain = .ok () ↔ IsWellFormed domain := by
  rw [← flaw?_eq_none_iff]
  unfold check
  cases flaw? domain <;> simp

end TrustDomain

namespace SpiffeId

open TrustDomain

/-- What may stand behind one slash and before the next. -/
structure IsSegment (cs : List Char) : Prop where
  nonempty : cs ≠ []
  noSlash : '/' ∉ cs
  noDot : cs ≠ ['.']
  noDots : cs ≠ ['.', '.']

/-- Segments one after the other, with a slash before each; there may be none. -/
def IsPath (path : String) : Prop :=
  ∃ segments : List (List Char),
    path.toList = segments.flatMap ('/' :: ·) ∧ ∀ segment ∈ segments, IsSegment segment

theorem isSegment_of_mem_splitOn {cs : List Char} (sound : HasSoundSegments cs) :
    ∀ segment ∈ cs.splitOn '/', IsSegment segment := by
  intro segment mem
  obtain ⟨nonempty, noDot, noDots⟩ := sound segment mem
  exact ⟨nonempty, noSlash_of_mem_splitOn mem, noDot, noDots⟩

theorem isPath_iff_of_slash {path : String} {rest : List Char} (slash : path.toList = '/' :: rest) :
    IsPath path ↔ HasSoundSegments rest := by
  constructor
  · rintro ⟨segments, joined, each⟩
    have some : segments ≠ [] := by
      rintro rfl
      cases slash.symm.trans joined
    rw [slash, flatMap_slash some, List.cons.injEq] at joined
    intro segment mem
    rw [joined.2, List.splitOn_intercalate '/' (fun s h => (each s h).noSlash) some] at mem
    exact ⟨(each segment mem).nonempty, (each segment mem).noDot, (each segment mem).noDots⟩
  · intro sound
    refine ⟨rest.splitOn '/', ?_, isSegment_of_mem_splitOn sound⟩
    rw [slash, slash_cons_eq_flatMap]

theorem IsPath.isRooted {path : String} (sound : IsPath path) : IsRooted path.toList := by
  obtain ⟨segments, joined, -⟩ := sound
  rw [joined]
  cases segments with
  | nil => simp [IsRooted]
  | cons => simp [IsRooted]

theorem pathFlaw?_eq_none_iff_isPath {path : String} : pathFlaw? path = none ↔ IsPath path := by
  cases chars : path.toList with
  | nil =>
    have flawless : pathFlaw? path = none := by simp [pathFlaw?, chars]
    exact iff_of_true flawless ⟨[], chars, by simp⟩
  | cons c rest =>
    by_cases slash : c = '/'
    · subst slash
      rw [pathFlaw?_eq_none_iff chars, isPath_iff_of_slash chars]
    · have flawed : pathFlaw? path ≠ none := by simp [pathFlaw?, chars, slash]
      refine iff_of_false flawed fun sound => slash (sound.isRooted c ?_)
      rw [chars, List.head?_cons, Option.mem_some]

section
variable {domain path domain' path' : String} {id id' : SpiffeId}

/-- The three ends of making an identity. -/
theorem new_cases (domain path : String) :
    (IsWellFormed domain ∧ IsPath path ∧ new domain path = .ok ⟨domain, path⟩) ∨
    (IsWellFormed domain ∧ ¬ IsPath path ∧
      ∃ message, new domain path = .error (.spiffeId message)) ∨
    (¬ IsWellFormed domain ∧ ∃ reason, new domain path = .error (.trustDomain domain reason)) := by
  rw [← flaw?_eq_none_iff, ← pathFlaw?_eq_none_iff_isPath]
  unfold new check
  cases flaw? domain with
  | some flaw => simp
  | none =>
    cases pathFlaw? path with
    | some flaw => simp
    | none => simp

theorem new_eq_ok_iff :
    new domain path = .ok id ↔ id = ⟨domain, path⟩ ∧ IsWellFormed domain ∧ IsPath path := by
  rcases new_cases domain path with
    ⟨sound, isPath, made⟩ | ⟨sound, noPath, message, made⟩ | ⟨unsound, reason, made⟩
  · simp [made, sound, isPath, eq_comm]
  · simp [made, noPath]
  · simp [made, unsound]

/-- **Identities follow the grammar.** A trust domain and a path are accepted, and kept as they
are, if and only if both follow the grammar. If the trust domain does not, it is blamed; the path
is blamed if it is the only one that does not. -/
theorem identities_follow_the_grammar (domain path : String) :
    (new domain path = .ok ⟨domain, path⟩ ↔ IsWellFormed domain ∧ IsPath path) ∧
    ((∃ reason, new domain path = .error (.trustDomain domain reason)) ↔ ¬ IsWellFormed domain) ∧
    ((∃ message, new domain path = .error (.spiffeId message)) ↔
      IsWellFormed domain ∧ ¬ IsPath path) := by
  rcases new_cases domain path with
    ⟨sound, isPath, made⟩ | ⟨sound, noPath, message, made⟩ | ⟨unsound, reason, made⟩
  · simp [made, sound, isPath]
  · simp [made, sound, noPath]
  · simp [made, unsound]

theorem toList_uri (id : SpiffeId) :
    id.uri.toList = "spiffe://".toList ++ (id.trustDomain.toList ++ id.path.toList) := by
  rw [uri, String.toList_append, String.toList_append, List.append_assoc]

section
variable {xs ys xs' ys' : List Char}

theorem takeWhile_append_of_isRooted (noSlash : '/' ∉ xs) (rooted : IsRooted ys) :
    (xs ++ ys).takeWhile (· ≠ '/') = xs := by
  rw [List.takeWhile_append_of_pos fun c mem => by
    simpa using fun slash : c = '/' => noSlash (slash ▸ mem)]
  cases ys with
  | nil => simp
  | cons c rest => simp [rooted c rfl]

theorem dropWhile_append_of_isRooted (noSlash : '/' ∉ xs) (rooted : IsRooted ys) :
    (xs ++ ys).dropWhile (· ≠ '/') = ys := by
  have both := List.takeWhile_append_dropWhile (p := fun c => decide (c ≠ '/')) (l := xs ++ ys)
  rw [takeWhile_append_of_isRooted noSlash rooted] at both
  exact List.append_cancel_left both

/-- A text without a slash and one that begins with a slash can be told apart behind each other. -/
theorem append_inj_of_isRooted (noSlash : '/' ∉ xs) (rooted : IsRooted ys) (noSlash' : '/' ∉ xs')
    (rooted' : IsRooted ys') : xs ++ ys = xs' ++ ys' ↔ xs = xs' ∧ ys = ys' := by
  constructor
  · intro same
    have front : xs = xs' := by
      rw [← takeWhile_append_of_isRooted noSlash rooted, same,
        takeWhile_append_of_isRooted noSlash' rooted']
    rw [front, List.append_cancel_left_eq] at same
    exact ⟨front, same⟩
  · rintro ⟨rfl, rfl⟩
    rfl

end

theorem uri_inj (made : new domain path = .ok id) (made' : new domain' path' = .ok id') :
    id.uri = id'.uri ↔ domain = domain' ∧ path = path' := by
  obtain ⟨rfl, sound, rooted⟩ := new_eq_ok_iff.1 made
  obtain ⟨rfl, sound', rooted'⟩ := new_eq_ok_iff.1 made'
  rw [← String.toList_inj, toList_uri, toList_uri, List.append_cancel_left_eq,
    append_inj_of_isRooted sound.noSlash rooted.isRooted sound'.noSlash rooted'.isRooted,
    String.toList_inj, String.toList_inj]

end

section
variable {space account space' account' : String}

theorem toList_accountPath : ("/ns/" ++ space ++ "/sa/" ++ account).toList =
    "/ns/".toList ++ (space.toList ++ ("/sa/".toList ++ account.toList)) := by
  simp only [String.toList_append, List.append_assoc]

theorem accountPath_inj (single : '/' ∉ space.toList) (single' : '/' ∉ space'.toList) :
    "/ns/" ++ space ++ "/sa/" ++ account = "/ns/" ++ space' ++ "/sa/" ++ account' ↔
      space = space' ∧ account = account' := by
  have rooted (text : String) : IsRooted ("/sa/".toList ++ text.toList) := by simp [IsRooted]
  rw [← String.toList_inj, toList_accountPath, toList_accountPath, List.append_cancel_left_eq,
    append_inj_of_isRooted single (rooted account) single' (rooted account'),
    List.append_cancel_left_eq, String.toList_inj, String.toList_inj]

/-- A name is one segment. -/
theorem hasSoundSegments_iff_of_single {name : String} (single : '/' ∉ name.toList) :
    HasSoundSegments name.toList ↔ name ∉ ["", ".", ".."] := by
  have texts : "".toList = [] ∧ ".".toList = ['.'] ∧ "..".toList = ['.', '.'] := by decide
  rw [HasSoundSegments, List.splitOn_eq_singleton single, List.forall_mem_singleton]
  simp only [List.mem_cons, List.not_mem_nil, or_false, not_or, ← String.toList_inj, texts, ne_eq]

/-- **Service accounts have identities of their own.** An account has an identity if and only if
the trust domain follows the grammar and neither the namespace nor the account has an empty or
relative name. The written forms of two identities are equal only if all three are. -/
theorem accounts_have_identities_of_their_own
    (domain space account domain' space' account' : String)
    (single : '/' ∉ space.toList ∧ '/' ∉ account.toList)
    (single' : '/' ∉ space'.toList ∧ '/' ∉ account'.toList) :
    ((∃ id, forServiceAccount domain space account = .ok id) ↔
      IsWellFormed domain ∧ space ∉ ["", ".", ".."] ∧ account ∉ ["", ".", ".."]) ∧
    ∀ id id', forServiceAccount domain space account = .ok id →
      forServiceAccount domain' space' account' = .ok id' →
      (id.uri = id'.uri ↔ domain = domain' ∧ space = space' ∧ account = account') := by
  constructor
  · rw [exists_forServiceAccount_iff, check_eq_ok_iff, hasSoundSegments_iff_of_single single.1,
      hasSoundSegments_iff_of_single single.2]
  · intro id id' made made'
    rw [uri_inj made made', accountPath_inj single.1 single'.1]

theorem isWellFormed_example : IsWellFormed "example.org" :=
  ⟨by decide, by decide, List.all_iff_forall_prop.1 (by decide)⟩

/-- A dash may stand in a name and between two names, and the accounts are still told apart. -/
theorem accounts_have_identities_of_their_own_dashed :
    ('/' ∉ "team-a".toList ∧ '/' ∉ "b".toList) ∧ ('/' ∉ "team".toList ∧ '/' ∉ "a-b".toList) ∧
    ∃ id id', forServiceAccount "example.org" "team-a" "b" = .ok id ∧
      forServiceAccount "example.org" "team" "a-b" = .ok id' ∧ id.uri ≠ id'.uri := by
  have single : '/' ∉ "team-a".toList ∧ '/' ∉ "b".toList := by decide
  have single' : '/' ∉ "team".toList ∧ '/' ∉ "a-b".toList := by decide
  have first := accounts_have_identities_of_their_own "example.org" "team-a" "b" "example.org"
    "team" "a-b" single single'
  have second := accounts_have_identities_of_their_own "example.org" "team" "a-b" "example.org"
    "team-a" "b" single' single
  obtain ⟨id, made⟩ := first.1.2 ⟨isWellFormed_example, by decide, by decide⟩
  obtain ⟨id', made'⟩ := second.1.2 ⟨isWellFormed_example, by decide, by decide⟩
  refine ⟨single, single', id, id', made, made', fun same => ?_⟩
  have names := (first.2 id id' made made').1 same
  exact absurd names.2.1 (by decide)

end

end SpiffeId

end WorkloadIdentity

import Mathlib.Data.Bool.AllAny
import Mathlib.Data.List.TakeWhile
import WorkloadIdentity.Proofs.UrlPaths

namespace WorkloadIdentity.Url

variable {text scheme : String} {url : Url} {authority path : List Char}

/-- What is read, if anything is, has a property. -/
def Yields {α : Type} (p : α → Prop) (x : Except UrlFault α) : Prop := ∀ a, x = .ok a → p a

namespace Yields

variable {α β : Type} {p : α → Prop}

theorem pure {a : α} (holds : p a) : Yields p (pure a) := by
  rintro _ ⟨⟩
  exact holds

theorem throw_bind {fault : UrlFault} {f : β → Except UrlFault α} :
    Yields p (throw fault >>= f) := by
  rintro _ ⟨⟩

theorem bind {x : Except UrlFault β} {f : β → Except UrlFault α} (each : ∀ b, Yields p (f b)) :
    Yields p (x >>= f) := by
  cases x with
  | error fault => rintro _ ⟨⟩
  | ok b => exact each b

theorem ite {x y : Except UrlFault α} {c : Prop} [Decidable c] (yes : Yields p x)
    (no : Yields p y) : Yields p (if c then x else y) := by
  split
  · exact yes
  · exact no

end Yields

theorem yields_readAuthority (scheme : String) (special : Bool) (cs : List Char) :
    Yields (fun url => url.scheme = scheme ∧ ∃ tail, url.path = readPathAfterHost special tail)
      (readAuthority scheme special cs) := by
  refine .bind fun (hasUser, cs) => ?_
  dsimp only
  refine .ite .throw_bind ?_
  -- Whichever host is read, the same is done behind it.
  refine .ite ?_ ?_ <;> refine .bind fun host => ?_
  all_goals
    refine .ite .throw_bind ?_
    split <;> refine .bind fun (port, rest) => ?_
    all_goals exact .ite .throw_bind (.pure ⟨rfl, _, rfl⟩)

theorem yields_readFile (cs : List Char) :
    Yields (fun url => url.scheme = "file") (readFile cs) := by
  unfold readFile
  dsimp only
  split
  · split
    · split
      · exact .bind fun (host, rest) => .pure rfl
      · refine .bind fun host => ?_
        exact .bind fun (host, rest) => .pure rfl
    · exact .bind fun (host, rest) => .pure rfl
  · exact .bind fun (host, rest) => .pure rfl

theorem classify_spiffe : classify "spiffe" = .other := by decide

/-- With a scheme of its own and a host, a URL has a path that has been read as such. -/
theorem exists_path_of_parse {host : String} (read : parse text = .ok url)
    (scheme : url.scheme = "spiffe") (hosted : url.host = some host) :
    ∃ tail, url.path = readPathAfterHost false tail := by
  unfold parse at read
  split at read
  · cases read
  case h_2 scheme' rest split =>
    unfold readRest at read
    split at read
    · rw [yields_readFile rest url read] at scheme
      exact absurd scheme (by decide)
    case h_2 special =>
      have same := (yields_readAuthority scheme' true _ url read).1
      rw [← same, scheme, classify_spiffe] at special
      cases special
    · split at read
      case h_1 rest => exact (yields_readAuthority scheme' false rest url read).2
      · cases read
        cases hosted

theorem dropWhile_of_forall {α : Type} {p : α → Bool} {xs : List α} (none : ∀ x ∈ xs, p x = false) :
    xs.dropWhile p = xs := by
  cases xs with
  | nil => rfl
  | cons x rest => simp [none x List.mem_cons_self]

theorem significant_of_forall (kept : ∀ c ∈ text.toList, IsPathChar c) :
    significant text = text.toList := by
  have blanks : ∀ c ∈ text.toList, isOuterBlank c = false := by
    intro c mem
    have := (kept c mem).1
    simp only [isOuterBlank, decide_eq_false_iff_not]
    omega
  have breaks : ∀ c ∈ text.toList, (c ≠ '\t' && c ≠ '\n' && c ≠ '\r') = true := by
    intro c mem
    have plain := kept c mem
    simp only [Bool.and_eq_true, decide_eq_true_eq]
    refine ⟨⟨?_, ?_⟩, ?_⟩ <;> rintro rfl <;> exact absurd plain (by decide)
  unfold significant
  rw [dropWhile_of_forall blanks]
  dsimp only
  rw [dropWhile_of_forall (by simpa using blanks), List.reverse_reverse]
  exact List.filter_eq_self.2 breaks

/-- The scheme is read letter by letter. -/
theorem splitScheme_spiffe (rest : List Char) :
    splitScheme ("spiffe://".toList ++ rest) = some ("spiffe", '/' :: '/' :: rest) := rfl

/-- An authority that is a host only and the path behind it, with nothing to encode in either. -/
structure PlainParts (authority path : List Char) : Prop where
  characters : ∀ c ∈ authority ++ path, IsPathChar c
  noSlash : '/' ∉ authority
  noUser : '@' ∉ authority
  noPort : ':' ∉ authority
  rooted : SpiffeId.IsRooted path

theorem endsAuthority_of_isPathChar {c : Char} (kept : IsPathChar c) (noSlash : c ≠ '/') :
    endsAuthority false c = false := by
  have marks : c ≠ '?' ∧ c ≠ '#' := by
    constructor <;> rintro rfl <;> exact absurd kept (by decide)
  simp [endsAuthority, noSlash, marks]

theorem splitTail_of_forall (kept : ∀ c ∈ path, IsPathChar c) :
    splitTail path = (path, none, none) := by
  have fragment : ∀ c ∈ path, decide (c ≠ '#') = true := by
    intro c mem
    rw [decide_eq_true_eq]
    rintro rfl
    exact absurd (kept '#' mem) (by decide)
  have query : ∀ c ∈ path, decide (c ≠ '?') = true := by
    intro c mem
    rw [decide_eq_true_eq]
    rintro rfl
    exact absurd (kept '?' mem) (by decide)
  unfold splitTail
  rw [List.takeWhile_eq_self_iff.2 fragment, List.dropWhile_eq_nil_iff.2 fragment]
  dsimp only
  rw [List.takeWhile_eq_self_iff.2 query, List.dropWhile_eq_nil_iff.2 query]

/-- The text of a host ends where the path begins, in brackets or not. -/
theorem splitHost_append (ends : ∀ c ∈ authority, c ≠ ':' ∧ endsAuthority false c = false)
    (rooted : SpiffeId.IsRooted path) (inside : Bool) :
    splitHost false inside (authority ++ path) = (authority, path) := by
  induction authority generalizing inside with
  | nil =>
    cases path with
    | nil => rfl
    | cons c rest => simp [rooted c rfl, splitHost, endsAuthority]
  | cons c rest ih =>
    rw [List.forall_mem_cons] at ends
    simp [splitHost, ends.1, ih ends.2]

namespace PlainParts

variable (plain : PlainParts authority path)
include plain

theorem endsAuthority_eq_false : ∀ c ∈ authority, endsAuthority false c = false := by
  intro c mem
  refine endsAuthority_of_isPathChar (plain.characters c (List.mem_append_left path mem)) ?_
  rintro rfl
  exact plain.noSlash mem

theorem dropUser_eq : dropUser false (authority ++ path) = .ok (false, authority ++ path) := by
  have front : (authority ++ path).takeWhile (fun c => !endsAuthority false c) = authority := by
    rw [List.takeWhile_append_of_pos fun c mem => by rw [plain.endsAuthority_eq_false c mem]; rfl]
    cases path with
    | nil => simp
    | cons c rest => simp [plain.rooted c rfl, endsAuthority]
  unfold dropUser
  rw [front]
  simp [splitLastAt, plain.noUser]

theorem splitHost_eq : splitHost false false (authority ++ path) = (authority, path) := by
  refine splitHost_append (fun c mem => ⟨?_, plain.endsAuthority_eq_false c mem⟩) plain.rooted false
  rintro rfl
  exact plain.noPort mem

theorem readAuthority_eq : readAuthority scheme false (authority ++ path) =
    (readOpaqueHost authority).map fun host =>
      { scheme, host := if host = "" then none else some host, port := none,
        path := readPathAfterHost false path, query := none, fragment := none } := by
  have tail := splitTail_of_forall fun c mem =>
    plain.characters c (List.mem_append_right authority mem)
  unfold readAuthority
  rw [plain.dropUser_eq]
  dsimp only [Bind.bind, Except.bind]
  rw [plain.splitHost_eq]
  cases readOpaqueHost authority with
  | error fault => rfl
  | ok host =>
    cases path with
    | nil => simp [Except.map, tail, Pure.pure, Except.pure]
    | cons c rest =>
      obtain rfl := plain.rooted c rfl
      simp [Except.map, tail, Pure.pure, Except.pure]

theorem parse_eq (chars : text.toList = "spiffe://".toList ++ (authority ++ path)) :
    parse text = (readOpaqueHost authority).map fun host =>
      { scheme := "spiffe", host := if host = "" then none else some host, port := none,
        path := readPathAfterHost false path, query := none, fragment := none } := by
  have all : ∀ c ∈ text.toList, IsPathChar c := by
    rw [chars, List.forall_mem_append]
    exact ⟨List.all_iff_forall_prop.1 (by decide), plain.characters⟩
  unfold parse
  rw [significant_of_forall all, chars, splitScheme_spiffe]
  change readRest "spiffe" ('/' :: '/' :: (authority ++ path)) = _
  unfold readRest
  rw [classify_spiffe]
  exact plain.readAuthority_eq

end PlainParts

end WorkloadIdentity.Url

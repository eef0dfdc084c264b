import WorkloadIdentity.Proofs.Identities
import WorkloadIdentity.Proofs.UrlReading

/-!
# Spellings of identities

Identities are read as URLs, and the reader of URLs is lenient: it drops the user, the port and
blanks, it encodes characters, and it resolves relative segments. So many texts are spellings of one
identity, and not every identity is read from its own written form.

* `SpiffeId.IsPlainSpelling` says that there is nothing to drop and nothing to change.
* `only_plain_paths_are_read_back`: which identities are read from their written forms.
* `only_plain_spellings_are_kept`: which spellings are the written forms of what is read, one for
  each identity.
-/

namespace WorkloadIdentity

theorem Url.encode_isControl_of_forall {cs : List Char} (kept : ∀ c ∈ cs, Url.IsPathChar c) :
    Percent.encode Percent.isControl cs = cs := by
  refine encode_of_forall fun c mem => ?_
  obtain ⟨least, greatest, -⟩ := kept c mem
  simp only [Percent.isControl, Bool.or_eq_false_iff, decide_eq_false_iff_not]
  omega

namespace TrustDomain.IsWellFormed

open Url

variable {domain : String} (sound : IsWellFormed domain)
include sound

theorem toNat_bounds : ∀ c ∈ domain.toList, 45 ≤ c.toNat ∧ c.toNat ≤ 122 := by
  intro c mem
  rcases sound.characters c mem with lower | digit | mark
  · have bounds : 97 ≤ c.toNat ∧ c.toNat ≤ 122 := isLower_iff.1 lower
    omega
  · have bounds : 48 ≤ c.toNat ∧ c.toNat ≤ 57 := isDigit_iff.1 digit
    omega
  · have marks : ∀ d ∈ ['.', '_', '-'], 45 ≤ d.toNat ∧ d.toNat ≤ 122 :=
      List.all_iff_forall_prop.1 (by decide)
    exact marks c mark

theorem not_mem_of_forall {marks : List Char}
    (others : ∀ c ∈ marks, ¬ (c.isLower ∨ c.isDigit ∨ c ∈ ['.', '_', '-'])) :
    ∀ c ∈ domain.toList, c ∉ marks :=
  fun c mem mark => sound.notMem (others c mark) mem

theorem isPathChar : ∀ c ∈ domain.toList, IsPathChar c := by
  intro c mem
  have bounds := sound.toNat_bounds c mem
  refine ⟨by omega, by omega, sound.not_mem_of_forall ?_ c mem⟩
  exact List.all_iff_forall_prop.1 (by decide)

theorem noBracket : '[' ∉ domain.toList := sound.notMem (by decide)

theorem readOpaqueHost_eq : readOpaqueHost domain.toList = .ok domain := by
  have opening : domain.toList.head? ≠ some '[' :=
    fun first => sound.noBracket (List.mem_of_head? first)
  have allowed : domain.toList.any isForbiddenInHost = false := by
    rw [List.any_eq_false]
    intro c mem
    have bounds := sound.toNat_bounds c mem
    have marks : c ∉ ' ' :: "#/:<>?@[\\]^|".toList :=
      sound.not_mem_of_forall (List.all_iff_forall_prop.1 (by decide)) c mem
    rw [List.mem_cons, not_or] at marks
    have null : c.toNat ≠ 0 := by omega
    simpa only [isForbiddenInHost, Bool.or_eq_true, decide_eq_true_eq, List.contains_iff_mem, null,
      false_or, not_or] using marks
  unfold readOpaqueHost
  rw [if_neg opening, allowed, encode_isControl_of_forall sound.isPathChar, String.ofList_toList]
  rfl

/-- An address in brackets is no trust domain. Every other host is written as it is. -/
theorem toList_eq_of_readOpaqueHost {cs : List Char} (kept : ∀ c ∈ cs, IsPathChar c)
    (read : readOpaqueHost cs = .ok domain) : domain.toList = cs := by
  unfold readOpaqueHost at read
  split at read
  · unfold readBracketed at read
    split at read
    · split at read
      · cases read
        exact absurd (by simp) sound.noBracket
      · cases read
    · cases read
  · split at read
    · cases read
    · cases read
      rw [String.toList_ofList, encode_isControl_of_forall kept]

end TrustDomain.IsWellFormed

namespace SpiffeId

open TrustDomain

variable {text domain path : String} {id : SpiffeId}

/-- What stands between the scheme and the path. -/
def authorityOf (text : String) : List Char := (text.toList.drop 9).takeWhile (· ≠ '/')

/-- What stands behind the authority. -/
def pathOf (text : String) : List Char := (text.toList.drop 9).dropWhile (· ≠ '/')

/-- A spelling with nothing in it that is left out or changed when it is read. -/
structure IsPlainSpelling (text : String) : Prop where
  scheme : "spiffe://".toList <+: text.toList
  characters : ∀ c ∈ text.toList, Url.IsPathChar c
  noUser : '@' ∉ authorityOf text
  noPort : ':' ∉ authorityOf text
  noRelative : ∀ segment ∈ (pathOf text).splitOn '/', ¬ Url.IsRelative segment

/-- What is read is the identity of a URL with a scheme of its own, a host and a path. -/
theorem exists_url_of_ofUri (read : ofUri text = .ok id) :
    ∃ url host, Url.parse text = .ok url ∧ url.scheme = "spiffe" ∧ url.host = some host ∧
      new host url.path = .ok id := by
  unfold ofUri at read
  split at read
  · cases read
  case h_2 url parsed =>
    split at read
    · cases read
    case isFalse scheme =>
      split at read
      · cases read
      · split at read
        · cases read
        case h_2 host hosted => exact ⟨url, host, parsed, not_not.1 scheme, hosted, read⟩

/-- An identity that has been read is a sound one, and its path is plain. -/
theorem sound_of_ofUri (read : ofUri text = .ok id) :
    new id.trustDomain id.path = .ok id ∧ Url.IsPlainPath id.path.toList := by
  obtain ⟨url, host, parsed, scheme, hosted, made⟩ := exists_url_of_ofUri read
  obtain ⟨tail, path⟩ := Url.exists_path_of_parse parsed scheme hosted
  obtain ⟨rfl, sound⟩ := new_eq_ok_iff.1 made
  refine ⟨new_eq_ok_iff.2 ⟨rfl, sound⟩, ?_⟩
  rw [path]
  exact Url.isPlainPath_readPathAfterHost tail

namespace IsPlainSpelling

variable (plain : IsPlainSpelling text)
include plain

theorem toList_eq : text.toList = "spiffe://".toList ++ (authorityOf text ++ pathOf text) := by
  obtain ⟨rest, chars⟩ := plain.scheme
  have rest_eq : text.toList.drop 9 = rest := by rw [← chars]; rfl
  rw [authorityOf, pathOf, List.takeWhile_append_dropWhile, rest_eq, chars]

theorem parts : Url.PlainParts (authorityOf text) (pathOf text) where
  characters := fun c mem => plain.characters c (by
    rw [plain.toList_eq]
    exact List.mem_append_right _ mem)
  noSlash := fun mem => by simpa using List.mem_takeWhile_imp mem
  noUser := plain.noUser
  noPort := plain.noPort
  rooted := by
    intro c first
    have stops := List.head?_dropWhile_not (fun c : Char => decide (c ≠ '/')) (text.toList.drop 9)
    rw [pathOf, Option.mem_def] at first
    rw [first] at stops
    simpa using stops

theorem isPlainPath : Url.IsPlainPath (pathOf text) where
  characters := fun c mem => plain.parts.characters c (List.mem_append_right _ mem)
  segments := plain.noRelative

/-- A plain spelling is read by taking it apart. -/
theorem ofUri_eq_ok_iff : ofUri text = .ok id ↔
    new (String.ofList (authorityOf text)) (String.ofList (pathOf text)) = .ok id := by
  have path := Url.readPathAfterHost_of_isPlainPath plain.parts.rooted plain.isPlainPath
  have parsed := plain.parts.parse_eq plain.toList_eq
  constructor
  · intro read
    obtain ⟨url, host, read, -, hosted, made⟩ := exists_url_of_ofUri read
    rw [parsed] at read
    cases host_read : Url.readOpaqueHost (authorityOf text) with
    | error fault =>
      rw [host_read] at read
      cases read
    | ok host' =>
      rw [host_read] at read
      cases read
      dsimp only at hosted made
      split at hosted
      · cases hosted
      · cases hosted
        have authority := (new_eq_ok_iff.1 made).2.1.toList_eq_of_readOpaqueHost
          (fun c mem => plain.parts.characters c (List.mem_append_left _ mem)) host_read
        rwa [← authority, String.ofList_toList, ← path]
  · intro made
    have sound := (new_eq_ok_iff.1 made).2.1
    have host_read := sound.readOpaqueHost_eq
    rw [String.toList_ofList] at host_read
    have some : String.ofList (authorityOf text) ≠ "" := by
      intro empty
      have := sound.nonempty
      rw [empty] at this
      exact absurd this (by decide)
    rw [host_read] at parsed
    simp [ofUri, parsed, Except.map, some, path, made]

end IsPlainSpelling

section
variable (made : new domain path = .ok id)
include made

theorem authorityOf_uri : authorityOf id.uri = domain.toList := by
  obtain ⟨rfl, sound, isPath⟩ := new_eq_ok_iff.1 made
  rw [authorityOf, toList_uri]
  exact takeWhile_append_of_isRooted sound.noSlash isPath.isRooted

theorem pathOf_uri : pathOf id.uri = path.toList := by
  obtain ⟨rfl, sound, isPath⟩ := new_eq_ok_iff.1 made
  rw [pathOf, toList_uri]
  exact dropWhile_append_of_isRooted sound.noSlash isPath.isRooted

theorem isPlainSpelling_uri_iff : IsPlainSpelling id.uri ↔ Url.IsPlainPath path.toList := by
  have authority := authorityOf_uri made
  have behind := pathOf_uri made
  obtain ⟨rfl, sound, -⟩ := new_eq_ok_iff.1 made
  constructor
  · intro plain
    rw [← behind]
    exact plain.isPlainPath
  · intro plain
    refine ⟨⟨_, (toList_uri _).symm⟩, ?_, ?_, ?_, ?_⟩
    · rw [toList_uri, List.forall_mem_append, List.forall_mem_append]
      exact ⟨List.all_iff_forall_prop.1 (by decide), sound.isPathChar, plain.characters⟩
    · rw [authority]
      exact sound.notMem (by decide)
    · rw [authority]
      exact sound.notMem (by decide)
    · rw [behind]
      exact plain.segments

theorem ofUri_uri (plain : Url.IsPlainPath path.toList) : ofUri id.uri = .ok id := by
  rw [((isPlainSpelling_uri_iff made).2 plain).ofUri_eq_ok_iff, authorityOf_uri made,
    pathOf_uri made, String.ofList_toList, String.ofList_toList, made]

end

/-- The written form of what a plain spelling is read as is that spelling. -/
theorem IsPlainSpelling.uri_eq (plain : IsPlainSpelling text) (read : ofUri text = .ok id) :
    id.uri = text := by
  obtain ⟨rfl, -⟩ := new_eq_ok_iff.1 (plain.ofUri_eq_ok_iff.1 read)
  rw [← String.toList_inj, toList_uri, plain.toList_eq]
  simp only [String.toList_ofList]

/-- **Only plain paths are read back.** The written form of an identity is read as that identity
if and only if the path has nothing to encode and nothing to resolve. -/
theorem only_plain_paths_are_read_back (made : new domain path = .ok id) :
    ofUri id.uri = .ok id ↔ Url.IsPlainPath path.toList := by
  constructor
  · intro read
    obtain ⟨rfl, -⟩ := new_eq_ok_iff.1 made
    exact (sound_of_ofUri read).2
  · exact ofUri_uri made

/-- Three dots are not relative, and what is encoded already is not encoded again. -/
theorem only_plain_paths_are_read_back_dotted :
    new "example.org" "/ns/team%20a/sa/..." = .ok ⟨"example.org", "/ns/team%20a/sa/..."⟩ ∧
    ofUri "spiffe://example.org/ns/team%20a/sa/..." =
      .ok ⟨"example.org", "/ns/team%20a/sa/..."⟩ := by
  have made : new "example.org" "/ns/team%20a/sa/..." =
      .ok ⟨"example.org", "/ns/team%20a/sa/..."⟩ := by decide +kernel
  have plain : Url.IsPlainPath "/ns/team%20a/sa/...".toList :=
    ⟨List.all_iff_forall_prop.1 (by decide), by decide⟩
  exact ⟨made, (only_plain_paths_are_read_back made).2 plain⟩

/-- What stands behind a question mark is part of a path when the identity is made, and a query
when it is read. -/
theorem query_in_path_is_not_read_back :
    new "example.org" "/a?x=1" = .ok ⟨"example.org", "/a?x=1"⟩ ∧
    ofUri (uri ⟨"example.org", "/a?x=1"⟩) =
      .error (.spiffeId "query and fragment are not allowed") := by
  decide +kernel

/-- **Only plain spellings are kept.** A text is the written form of the identity it is read as if
and only if nothing in it is dropped or changed. Each identity that is read has one such
spelling. -/
theorem only_plain_spellings_are_kept (read : ofUri text = .ok id) :
    (id.uri = text ↔ IsPlainSpelling text) ∧
    ∃! plain, IsPlainSpelling plain ∧ ofUri plain = .ok id := by
  obtain ⟨made, path⟩ := sound_of_ofUri read
  have plain : IsPlainSpelling id.uri := (isPlainSpelling_uri_iff made).2 path
  refine ⟨⟨fun same => same ▸ plain, fun kept => kept.uri_eq read⟩, id.uri, ?_, ?_⟩
  · exact ⟨plain, ofUri_uri made path⟩
  · rintro other ⟨kept, readOther⟩
    exact (kept.uri_eq readOther).symm

/-- The scheme is put in lower case, the user and the port are dropped, and the dots are
resolved. -/
theorem only_plain_spellings_are_kept_dressed :
    ofUri "SPIFFE://user@example.org:8443/a/../b" = .ok ⟨"example.org", "/b"⟩ ∧
    ¬ IsPlainSpelling "SPIFFE://user@example.org:8443/a/../b" ∧
    ∃! plain, IsPlainSpelling plain ∧ ofUri plain = .ok ⟨"example.org", "/b"⟩ := by
  have read : ofUri "SPIFFE://user@example.org:8443/a/../b" = .ok ⟨"example.org", "/b"⟩ := by
    decide +kernel
  obtain ⟨kept, one⟩ := only_plain_spellings_are_kept read
  exact ⟨read, kept.not.1 (by decide), one⟩

/-- The segments of a path are judged behind the reader, which has resolved them by then. -/
theorem relative_segments_are_dropped :
    new "example.org" "/a/../b" =
      .error (.spiffeId "path \"/a/../b\" contains an empty or relative segment") ∧
    ofUri "spiffe://example.org/a/../b" = .ok ⟨"example.org", "/b"⟩ ∧
    uri ⟨"example.org", "/b"⟩ ≠ "spiffe://example.org/a/../b" := by
  decide +kernel

end SpiffeId

end WorkloadIdentity

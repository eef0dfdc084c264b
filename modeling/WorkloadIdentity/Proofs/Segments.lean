import WorkloadIdentity.Identity.SpiffeId

namespace WorkloadIdentity.SpiffeId

theorem splitSlash_cons (c : Char) (rest : List Char) :
    splitSlash (c :: rest) = if c = '/' then [] :: splitSlash rest
      else match splitSlash rest with
        | p :: others => (c :: p) :: others
        | [] => [[c]] := rfl

theorem splitSlash_eq_splitOn (cs : List Char) : splitSlash cs = cs.splitOn '/' := by
  induction cs with
  | nil => rfl
  | cons c rest ih =>
    rw [List.splitOn] at ih ⊢
    rw [splitSlash_cons, List.splitOnP_cons_eq_if_modifyHead, ← ih]
    have some : splitSlash rest ≠ [] := ih ▸ List.splitOnP_ne_nil _ rest
    cases parts : splitSlash rest with
    | nil => exact absurd parts some
    | cons p others => simp

theorem noSlash_of_mem_splitOn {cs segment : List Char} (mem : segment ∈ cs.splitOn '/') :
    '/' ∉ segment := by
  induction cs generalizing segment with
  | nil =>
    rw [List.splitOn_nil, List.mem_singleton] at mem
    exact mem ▸ List.not_mem_nil
  | cons c rest ih =>
    rw [List.splitOn_cons_eq_if_modifyHead] at mem
    by_cases slash : c = '/'
    · rw [if_pos (beq_iff_eq.2 slash), List.mem_cons] at mem
      rcases mem with rfl | mem
      · exact List.not_mem_nil
      · exact ih mem
    · rw [if_neg (by simp [slash])] at mem
      cases parts : rest.splitOn '/' with
      | nil => exact absurd parts (List.splitOn_ne_nil '/' rest)
      | cons first others =>
        rw [parts, List.modifyHead_cons, List.mem_cons] at mem
        rcases mem with rfl | mem
        · have noSlash : '/' ∉ first := ih (by simp [parts])
          simp [Ne.symm slash, noSlash]
        · exact ih (by simp [parts, mem])

theorem flatMap_slash {segments : List (List Char)} (some : segments ≠ []) :
    segments.flatMap ('/' :: ·) = '/' :: ['/'].intercalate segments := by
  induction segments with
  | nil => contradiction
  | cons segment rest ih =>
    cases rest with
    | nil => simp
    | cons => rw [List.flatMap_cons, ih (List.cons_ne_nil _ _)]; simp

theorem slash_cons_eq_flatMap (cs : List Char) :
    '/' :: cs = (cs.splitOn '/').flatMap ('/' :: ·) := by
  rw [flatMap_slash (List.splitOn_ne_nil '/' cs), List.intercalate_splitOn]

/-- No segment between two slashes is empty or relative. -/
def HasSoundSegments (cs : List Char) : Prop :=
  ∀ segment ∈ cs.splitOn '/', segment ≠ [] ∧ segment ≠ ['.'] ∧ segment ≠ ['.', '.']

instance (cs : List Char) : Decidable (HasSoundSegments cs) :=
  inferInstanceAs (Decidable (∀ segment ∈ cs.splitOn '/', _))

theorem hasSoundSegments_iff {cs : List Char} :
    HasSoundSegments cs ↔ (splitSlash cs).any isBadSegment = false := by
  rw [splitSlash_eq_splitOn, List.any_eq_false]
  simp only [HasSoundSegments, isBadSegment, Bool.or_eq_true, decide_eq_true_eq, not_or, and_assoc]

/-- A slash parts what is judged. -/
theorem hasSoundSegments_append_slash {xs ys : List Char} :
    HasSoundSegments (xs ++ '/' :: ys) ↔ HasSoundSegments xs ∧ HasSoundSegments ys := by
  unfold HasSoundSegments
  rw [List.splitOn_append_cons_self, List.forall_mem_append]

theorem not_hasSoundSegments_nil : ¬ HasSoundSegments [] := by decide

/-- Nothing but a slash stands first. -/
def IsRooted (cs : List Char) : Prop := ∀ c ∈ cs.head?, c = '/'

/-- A slash at the end is refused under a name of its own; it makes the last segment empty. -/
theorem pathFlaw?_eq_none_iff {path : String} {rest : List Char}
    (slash : path.toList = '/' :: rest) : pathFlaw? path = none ↔ HasSoundSegments rest := by
  have ends (last : ('/' :: rest).getLast? = some '/') : ¬ HasSoundSegments rest := by
    rcases List.eq_nil_or_concat rest with rfl | ⟨front, c, rfl⟩
    · exact not_hasSoundSegments_nil
    · rw [List.concat_eq_append, ← List.cons_append, List.getLast?_concat] at last
      cases last
      rw [List.concat_eq_append, hasSoundSegments_append_slash]
      exact fun sound => not_hasSoundSegments_nil sound.2
  unfold pathFlaw?
  rw [slash]
  by_cases last : ('/' :: rest).getLast? = some '/'
  · simp [last, ends last]
  · rw [hasSoundSegments_iff]
    simp [last, splitSlash_cons]

theorem exists_new_iff {domain path : String} :
    (∃ id, new domain path = .ok id) ↔
      TrustDomain.check domain = .ok () ∧ pathFlaw? path = none := by
  unfold new
  cases TrustDomain.check domain with
  | error fault => simp
  | ok =>
    cases pathFlaw? path with
    | some flaw => simp
    | none => simp

/-- A service account has an identity if and only if the trust domain is accepted and neither the
namespace nor the account has a segment that is empty or relative. -/
theorem exists_forServiceAccount_iff {domain space account : String} :
    (∃ id, forServiceAccount domain space account = .ok id) ↔
      TrustDomain.check domain = .ok () ∧ HasSoundSegments space.toList ∧
        HasSoundSegments account.toList := by
  have path : ("/ns/" ++ space ++ "/sa/" ++ account).toList = '/' ::
      (['n', 's'] ++ '/' :: (space.toList ++ '/' :: (['s', 'a'] ++ '/' :: account.toList))) := by
    simp [String.toList_append]
  have fixed : HasSoundSegments ['n', 's'] ∧ HasSoundSegments ['s', 'a'] := by decide
  unfold forServiceAccount
  rw [exists_new_iff, pathFlaw?_eq_none_iff path, hasSoundSegments_append_slash,
    hasSoundSegments_append_slash, hasSoundSegments_append_slash]
  simp [fixed]

end WorkloadIdentity.SpiffeId

import WorkloadIdentity.Proofs.Identities
import WorkloadIdentity.Spec.Duration

/-! A duration is read character by character, with the number of digits since the last unit and the
rank of that unit. What has still to come depends on these two only. -/

namespace WorkloadIdentity.Duration

/-- One or more digits. -/
def AreDigits (cs : List Char) : Prop := cs ≠ [] ∧ ∀ c ∈ cs, '0' ≤ c ∧ c ≤ '9'

/-- A number of a unit, or nothing. -/
def IsGroup (unit : Char) (cs : List Char) : Prop :=
  cs = [] ∨ ∃ digits, AreDigits digits ∧ cs = digits ++ [unit]

/-- Hours, minutes and seconds in this order, and at least one of the three. -/
def IsWritten (text : String) : Prop :=
  text ≠ "" ∧ ∃ hours minutes seconds, text.toList = hours ++ minutes ++ seconds ∧
    IsGroup 'h' hours ∧ IsGroup 'm' minutes ∧ IsGroup 's' seconds

variable {digits bound rank : Nat} {c unit : Char} {cs ds rest : List Char}

theorem isDigit_of_rank (ranked : rank? c = some rank) : c.isDigit = false := by
  unfold rank? at ranked
  split at ranked
  · subst c; decide
  · split at ranked
    · subst c; decide
    · split at ranked
      · subst c; decide
      · cases ranked

/-- Digits are counted. -/
theorem accepts_append_digits (all : ∀ d ∈ ds, d.isDigit = true) :
    accepts digits bound (ds ++ rest) = accepts (digits + ds.length) bound rest := by
  induction ds generalizing digits with
  | nil => rfl
  | cons d ds ih =>
    obtain ⟨here, later⟩ := List.forall_mem_cons.1 all
    rw [List.cons_append, accepts, if_pos here, ih later, List.length_cons, Nat.add_right_comm,
      Nat.add_assoc]

/-- A unit ends the number in front of it, and from then on shorter units are allowed only. -/
theorem accepts_unit (ranked : rank? c = some rank) :
    accepts digits bound (c :: rest) = true ↔
      digits ≠ 0 ∧ rank < bound ∧ accepts 0 rank rest = true := by
  rw [accepts, isDigit_of_rank ranked, ranked]
  simp [and_assoc]

/-- What is left is nothing, or a number with a unit that is still allowed, and what it allows. The
digits that were read before belong to the number. -/
theorem accepts_iff : accepts digits bound cs = true ↔
    (digits = 0 ∧ cs = []) ∨ ∃ ds unit rank rest, cs = ds ++ unit :: rest ∧
      (∀ d ∈ ds, d.isDigit = true) ∧ digits + ds.length ≠ 0 ∧ rank? unit = some rank ∧
      rank < bound ∧ accepts 0 rank rest = true := by
  constructor
  · intro accepted
    induction cs generalizing digits with
    | nil => exact .inl ⟨by simpa [accepts] using accepted, rfl⟩
    | cons c cs ih =>
      refine .inr ?_
      by_cases digit : c.isDigit = true
      · rw [accepts, if_pos digit] at accepted
        obtain ⟨zero, -⟩ | ⟨ds, unit, rank, rest, rfl, all, -, ranked, allowed, later⟩ :=
          ih accepted
        · exact absurd zero (Nat.succ_ne_zero digits)
        · exact ⟨c :: ds, unit, rank, rest, rfl, List.forall_mem_cons.2 ⟨digit, all⟩, by simp,
            ranked, allowed, later⟩
      · cases ranked : rank? c with
        | none =>
          rw [accepts, if_neg digit, ranked] at accepted
          cases accepted
        | some rank =>
          obtain ⟨counted, allowed, later⟩ := (accepts_unit ranked).1 accepted
          exact ⟨[], c, rank, cs, rfl, nofun, counted, ranked, allowed, later⟩
  · rintro (⟨rfl, rfl⟩ | ⟨ds, unit, rank, rest, rfl, all, counted, ranked, allowed, later⟩)
    · rfl
    · rw [accepts_append_digits all, accepts_unit ranked]
      exact ⟨counted, allowed, later⟩

theorem accepts_of_le {other : Nat} (le : bound ≤ other)
    (accepted : accepts digits bound cs = true) : accepts digits other cs = true := by
  rw [accepts_iff] at accepted ⊢
  refine accepted.imp_right ?_
  rintro ⟨ds, unit, rank, rest, shape, all, counted, ranked, allowed, later⟩
  exact ⟨ds, unit, rank, rest, shape, all, counted, ranked, Nat.lt_of_lt_of_le allowed le, later⟩

/-- The group of a unit may come next where its rank is just below the bound; behind it, or in its
place, stand the groups below it. -/
theorem accepts_succ_iff (only : ∀ c, rank? c = some rank ↔ c = unit) :
    accepts 0 (rank + 1) cs = true ↔
      ∃ group rest, cs = group ++ rest ∧ IsGroup unit group ∧ accepts 0 rank rest = true := by
  constructor
  · intro accepted
    obtain ⟨-, rfl⟩ | ⟨ds, c, r, rest, rfl, all, counted, ranked, allowed, later⟩ :=
      accepts_iff.1 accepted
    · exact ⟨[], [], rfl, .inl rfl, rfl⟩
    · obtain below | rfl := Nat.lt_succ_iff_lt_or_eq.1 allowed
      · exact ⟨[], _, rfl, .inl rfl, accepts_iff.2
          (.inr ⟨ds, c, r, rest, rfl, all, counted, ranked, below, later⟩)⟩
      · obtain rfl := (only c).1 ranked
        have digits : AreDigits ds :=
          ⟨by simpa using counted, fun d mem => TrustDomain.isDigit_iff.1 (all d mem)⟩
        exact ⟨ds ++ [c], rest, by simp, .inr ⟨ds, digits, rfl⟩, later⟩
  · rintro ⟨group, rest, rfl, rfl | ⟨ds, ⟨nonempty, all⟩, rfl⟩, later⟩
    · exact accepts_of_le (Nat.le_succ rank) later
    · refine accepts_iff.2 (.inr ⟨ds, unit, rank, rest, by simp, ?_, by simpa using nonempty,
        (only unit).2 rfl, Nat.lt_succ_self rank, later⟩)
      exact fun d mem => TrustDomain.isDigit_iff.2 (all d mem)

theorem accepts_one_iff : accepts 0 1 cs = true ↔ cs = [] := by
  rw [accepts_iff]
  constructor
  · rintro (⟨-, rfl⟩ | ⟨ds, c, rank, rest, -, -, -, ranked, allowed, -⟩)
    · rfl
    · obtain rfl := Nat.lt_one_iff.1 allowed
      exact absurd ranked (by unfold rank?; grind)
  · exact fun empty => .inl ⟨rfl, empty⟩

theorem rank?_eq_three_iff (c : Char) : rank? c = some 3 ↔ c = 'h' := by unfold rank?; grind

theorem rank?_eq_two_iff (c : Char) : rank? c = some 2 ↔ c = 'm' := by unfold rank?; grind

theorem rank?_eq_one_iff (c : Char) : rank? c = some 1 ↔ c = 's' := by unfold rank?; grind

/-- **A text is a duration if and only if it follows the grammar**: it is not empty, and made of
hours, minutes and seconds in this order, each of which may be missing. -/
theorem durations_follow_the_grammar (text : String) : isDuration text = true ↔ IsWritten text := by
  have nonempty : (!text.isEmpty) = true ↔ text ≠ "" := by
    rw [Bool.not_eq_true', String.isEmpty_eq_false_iff]
  have groups : accepts 0 4 text.toList = true ↔
      ∃ hours minutes seconds, text.toList = hours ++ minutes ++ seconds ∧
        IsGroup 'h' hours ∧ IsGroup 'm' minutes ∧ IsGroup 's' seconds := by
    rw [accepts_succ_iff rank?_eq_three_iff]
    simp only [accepts_succ_iff rank?_eq_two_iff, accepts_succ_iff rank?_eq_one_iff,
      accepts_one_iff]
    constructor
    · rintro ⟨hours, _, shape, isHours, minutes, _, rfl, isMinutes, seconds, _, rfl, isSeconds, rfl⟩
      exact ⟨hours, minutes, seconds, by simpa using shape, isHours, isMinutes, isSeconds⟩
    · rintro ⟨hours, minutes, seconds, shape, isHours, isMinutes, isSeconds⟩
      exact ⟨hours, minutes ++ seconds, by simpa using shape, isHours, minutes, seconds, rfl,
        isMinutes, seconds, [], by simp, isSeconds, rfl⟩
  unfold isDuration IsWritten
  rw [Bool.and_eq_true, nonempty, groups]

/-- Units may be left out, but not follow each other in another order. -/
example : isDuration "1h30m" = true ∧ isDuration "90s" = true ∧ isDuration "5m1h" = false := by
  decide

end WorkloadIdentity.Duration

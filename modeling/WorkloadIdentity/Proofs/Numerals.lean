import WorkloadIdentity.Proofs.Identities
import WorkloadIdentity.Proofs.Texts
import WorkloadIdentity.Yaml.Reader

/-! An integer is read from digits with or without a sign, and written without a plus sign and
without leading zeros. So it is written as it was read exactly if it had been spelled in this way.
-/

namespace WorkloadIdentity

open Json (intChars intChars_opens isDigit_of_mem_digits digits_inj)

/-- No plus sign, no leading zero, and no zero behind a minus sign. -/
structure IsPlainInteger (cs : List Char) : Prop where
  unsigned : cs.head? ≠ some '+'
  leading : ∀ rest, cs = '0' :: rest → rest = []
  negative : ∀ rest, cs ≠ '-' :: '0' :: rest

variable {n m : Nat} {c : Char} {cs rest : List Char} {i : Int}

theorem hexValue?_of_isDigit (digit : c.isDigit = true) :
    Json.hexValue? c = some (c.toNat - 48) ∧ c.toNat - 48 < 10 := by
  have bounds : 48 ≤ c.toNat ∧ c.toNat ≤ 57 := TrustDomain.isDigit_iff.1 digit
  exact ⟨if_pos digit, by omega⟩

/-- The values of letters are at least ten. -/
theorem isDigit_of_hexValue? {d : Nat} (value : Json.hexValue? c = some d) (small : d < 10) :
    c.isDigit = true := by
  cases digit : c.isDigit with
  | true => rfl
  | false =>
    simp only [Json.hexValue?, digit, Bool.false_eq_true, if_false] at value
    split at value
    · rename_i lower
      have bound : 97 ≤ c.toNat := lower.1
      cases value
      omega
    · split at value
      · rename_i upper
        have bound : 65 ≤ c.toNat := upper.1
        cases value
        omega
      · cases value

/-- One more digit behind a number. -/
def addDigit? (n? : Option Nat) (c : Char) : Option Nat := do
  let n ← n?
  let d ← Json.hexValue? c
  if d < 10 then return n * 10 + d else none

theorem foldl_addDigit?_none (cs : List Char) : cs.foldl addDigit? none = none := by
  induction cs with
  | nil => rfl
  | cons c cs ih => exact ih

theorem addDigit?_eq (n : Nat) (c : Char) :
    addDigit? (some n) c = if c.isDigit then some (10 * n + (c.toNat - 48)) else none := by
  by_cases digit : c.isDigit = true
  · obtain ⟨value, small⟩ := hexValue?_of_isDigit digit
    simp [addDigit?, value, small, digit, Nat.mul_comm]
  · rw [if_neg digit, addDigit?]
    cases value : Json.hexValue? c with
    | none => simp
    | some d =>
      have large : ¬ d < 10 := mt (isDigit_of_hexValue? value) digit
      simp [large]

theorem foldl_addDigit?_eq_some_iff : cs.foldl addDigit? (some n) = some m ↔
    (∀ c ∈ cs, c.isDigit = true) ∧ Nat.ofDigitChars 10 cs n = m := by
  induction cs generalizing n with
  | nil => simp [Nat.ofDigitChars]
  | cons c cs ih =>
    rw [List.foldl_cons, addDigit?_eq, List.forall_mem_cons, Nat.ofDigitChars_cons]
    by_cases digit : c.isDigit = true
    · rw [if_pos digit, ih]
      simp [digit]
    · rw [if_neg digit, foldl_addDigit?_none]
      simp [digit]

/-- The number that digits without a sign are read as. -/
def Reads (cs : List Char) (n : Nat) : Prop :=
  cs ≠ [] ∧ (∀ c ∈ cs, c.isDigit = true) ∧ Nat.ofDigitChars 10 cs 0 = n

/-- What is read as an integer: digits behind a sign, or digits. -/
theorem reads_of_intText? (read : Yaml.intText? cs 10 = some i) :
    (∃ n rest, cs = '-' :: rest ∧ Reads rest n ∧ i = -n) ∨
    (∃ n rest, cs = '+' :: rest ∧ Reads rest n ∧ i = n) ∨
    ∃ n : Nat, Reads cs n ∧ i = n := by
  have magnitude {cs : List Char} {sign : Int → Int}
      (read : ((if cs.isEmpty then none else cs.foldl addDigit? (some 0) : Option Nat).bind
        fun n => some (n : Int)).map sign = some i) : ∃ n : Nat, Reads cs n ∧ i = sign n := by
    obtain ⟨j, value, rfl⟩ := Option.map_eq_some_iff.1 read
    obtain ⟨n, found, ⟨⟩⟩ := Option.bind_eq_some_iff.1 value
    by_cases empty : cs.isEmpty = true
    · rw [if_pos empty] at found
      cases found
    · rw [if_neg empty] at found
      exact ⟨n, ⟨by simpa using empty, foldl_addDigit?_eq_some_iff.1 found⟩, rfl⟩
  obtain ⟨read, -⟩ := Option.filter_eq_some_iff.1 read
  dsimp only at read
  split at read
  · obtain ⟨n, reads, same⟩ := magnitude read
    exact .inl ⟨n, _, rfl, reads, same⟩
  · obtain ⟨n, reads, same⟩ := magnitude read
    exact .inr (.inl ⟨n, _, rfl, reads, same⟩)
  · obtain ⟨n, reads, same⟩ := magnitude read
    exact .inr (.inr ⟨n, reads, same⟩)

theorem digitChar_of_isDigit (digit : c.isDigit = true) : Nat.digitChar (c.toNat - 48) = c := by
  have bounds : 48 ≤ c.toNat ∧ c.toNat ≤ 57 := TrustDomain.isDigit_iff.1 digit
  have each : ∀ d < 10, (Nat.digitChar d).toNat = d + 48 := by decide
  refine Char.toNat_inj.1 ?_
  rw [each _ (by omega)]
  omega

theorem toDigits_of_isDigit (digit : c.isDigit = true) : Nat.toDigits 10 (c.toNat - 48) = [c] := by
  rw [Nat.toDigits_of_lt_base (hexValue?_of_isDigit digit).2, digitChar_of_isDigit digit]

/-- Digits that are added stand behind the digits of the number. -/
theorem toDigits_ofDigitChars (positive : 0 < n) (digits : ∀ c ∈ cs, c.isDigit = true) :
    Nat.toDigits 10 (Nat.ofDigitChars 10 cs n) = Nat.toDigits 10 n ++ cs := by
  induction cs generalizing n with
  | nil => simp [Nat.ofDigitChars]
  | cons c cs ih =>
    obtain ⟨digit, digits⟩ := List.forall_mem_cons.1 digits
    have value : c.toNat - '0'.toNat < 10 := (hexValue?_of_isDigit digit).2
    calc Nat.toDigits 10 (Nat.ofDigitChars 10 (c :: cs) n)
        = Nat.toDigits 10 (10 * n + (c.toNat - '0'.toNat)) ++ cs := by
          rw [Nat.ofDigitChars_cons, ih (by omega) digits]
      _ = Nat.toDigits 10 n ++ Nat.toDigits 10 (c.toNat - 48) ++ cs := by
          rw [← Nat.toDigits_append_toDigits (by decide) positive value]
          rfl
      _ = Nat.toDigits 10 n ++ c :: cs := by
          rw [toDigits_of_isDigit digit, List.append_assoc, List.singleton_append]

/-- Only zero is written with a zero in front. -/
theorem eq_nil_of_toDigits_eq (zero : Nat.toDigits 10 n = '0' :: rest) : rest = [] := by
  induction n using Nat.strongRecOn generalizing rest with
  | ind n ih =>
    by_cases small : n < 10
    · rw [Nat.toDigits_of_lt_base small] at zero
      exact (List.cons.inj zero).2.symm
    · have parts : Nat.toDigits 10 (n / 10) ++ Nat.toDigits 10 (n % 10) = '0' :: rest := by
        rw [Nat.toDigits_append_toDigits (by decide) (by omega) (by omega), Nat.div_add_mod, zero]
      obtain ⟨first, later, shape⟩ := List.exists_cons_of_ne_nil
        (Nat.toDigits_ne_nil : Nat.toDigits 10 (n / 10) ≠ [])
      rw [shape] at parts
      obtain ⟨rfl, -⟩ := List.cons.inj parts
      obtain rfl := ih (n / 10) (by omega) shape
      have none : n / 10 = 0 := digits_inj shape
      omega

/-- Digits are the form of the number that they are read as if no zero leads. -/
theorem toDigits_eq_iff (reads : Reads cs n) :
    Nat.toDigits 10 n = cs ↔ ∀ rest, cs = '0' :: rest → rest = [] := by
  obtain ⟨nonempty, digits, rfl⟩ := reads
  constructor
  · rintro written rest rfl
    exact eq_nil_of_toDigits_eq written
  · intro leading
    obtain ⟨c, rest, rfl⟩ := List.exists_cons_of_ne_nil nonempty
    obtain ⟨digit, digits⟩ := List.forall_mem_cons.1 digits
    have first : Nat.ofDigitChars 10 (c :: rest) 0 = Nat.ofDigitChars 10 rest (c.toNat - 48) := by
      rw [Nat.ofDigitChars_cons, Nat.mul_zero, Nat.zero_add]
      rfl
    rw [first]
    by_cases zero : c = '0'
    · obtain rfl := zero
      obtain rfl := leading rest rfl
      rfl
    · have bounds : 48 ≤ c.toNat ∧ c.toNat ≤ 57 := TrustDomain.isDigit_iff.1 digit
      have other : c.toNat ≠ 48 := fun same => zero (Char.toNat_inj.1 same)
      rw [toDigits_ofDigitChars (by omega) digits, toDigits_of_isDigit digit]
      rfl

/-- Digits behind a minus sign are the form of the number if there is no zero in front of them. -/
theorem intChars_neg_eq_iff (reads : Reads rest n) :
    intChars (-n) = '-' :: rest ↔ ∀ later, rest ≠ '0' :: later := by
  have form := toDigits_eq_iff reads
  cases n with
  | zero =>
    refine ⟨nofun, fun leading => ?_⟩
    exact absurd (form.2 fun later zero => absurd zero (leading later)).symm (leading [])
  | succ n =>
    have written : intChars (-(n + 1 : Nat)) = '-' :: Nat.toDigits 10 (n + 1) := rfl
    rw [written, List.cons.injEq, form]
    constructor
    · rintro ⟨-, leading⟩ later rfl
      obtain rfl := leading later rfl
      exact Nat.succ_ne_zero n (digits_inj (form.2 leading))
    · exact fun leading => ⟨rfl, fun later zero => absurd zero (leading later)⟩

/-- The spelling of an integer is the one in which it is written if and only if it is plain. -/
theorem intChars_eq_iff (read : Yaml.intText? cs 10 = some i) :
    intChars i = cs ↔ IsPlainInteger cs := by
  obtain ⟨n, rest, rfl, reads, rfl⟩ | ⟨n, rest, rfl, -, rfl⟩ | ⟨n, reads, rfl⟩ :=
    reads_of_intText? read
  · rw [intChars_neg_eq_iff reads]
    constructor
    · intro leading
      exact ⟨nofun, nofun, fun later zero => leading later (List.cons.inj zero).2⟩
    · exact fun plain later zero => plain.negative later (congrArg _ zero)
  · refine ⟨fun written => ?_, fun plain => absurd rfl plain.unsigned⟩
    obtain ⟨c, cs, shape, minus | digit⟩ := intChars_opens n
    · cases minus.symm.trans (List.cons.inj (shape.symm.trans written)).1
    · obtain rfl := (List.cons.inj (shape.symm.trans written)).1
      cases digit
  · have form : intChars n = cs ↔ ∀ rest, cs = '0' :: rest → rest = [] := toDigits_eq_iff reads
    rw [form]
    refine ⟨fun leading => ⟨?_, leading, ?_⟩, IsPlainInteger.leading⟩
    · intro sign
      cases reads.2.1 '+' (List.mem_of_head? sign)
    · rintro rest rfl
      cases reads.2.1 '-' List.mem_cons_self

end WorkloadIdentity

import Mathlib.Data.List.TakeWhile
import WorkloadIdentity.Text.Timestamp

/-! A year before the first or behind the last that has four digits may be written so that it is
read as another one, or not at all; but a text that can be read is written again as it was. -/

namespace WorkloadIdentity.Timestamp

/-- A year of an era is found again from the day of the era. -/
theorem yearOfEra_again {year day : Int} (low : 0 ≤ year) (high : year < 400) (first : 0 ≤ day)
    (last : day ≤ 365)
    (leap : day = 365 → (year + 1) % 4 = 0 ∧ ((year + 1) % 100 ≠ 0 ∨ (year + 1) % 400 = 0)) :
    let e := year * 365 + year / 4 - year / 100 + day
    (e - e / 1460 + e / 36524 - e / 146096) / 365 = year := by
  intro e
  -- whole centuries, fours of years in the last one, and years in the last four
  obtain ⟨century, quad, part, rfl, c0, c3, q0, q24, p0, p3⟩ : ∃ century quad part : Int,
      year = 100 * century + 4 * quad + part ∧ 0 ≤ century ∧ century ≤ 3 ∧ 0 ≤ quad ∧ quad ≤ 24 ∧
        0 ≤ part ∧ part ≤ 3 :=
    ⟨year / 100, year % 100 / 4, year % 4, by omega, by omega, by omega, by omega, by omega,
      by omega, by omega⟩
  have quads : (100 * century + 4 * quad + part) / 4 = 25 * century + quad := by omega
  have centuries : (100 * century + 4 * quad + part) / 100 = century := by omega
  have value : e = 36524 * century + 1461 * quad + 365 * part + day := by
    simp only [e, quads, centuries]
    omega
  clear_value e
  by_cases lastDay : e = 146096
  · subst lastDay
    omega
  · have small : 1461 * quad + 365 * part + day < 36524 := by omega
    have eras : e / 146096 = 0 := by omega
    have byCentury : e / 36524 = century := by omega
    -- the days of the centuries and of the fours may add up to one four more
    obtain ⟨late, byQuad, early⟩ : ∃ late : Int, e / 1460 = 25 * century + quad + late ∧
        (late = 0 ∧ day < 365 ∨ late = 1 ∧ 0 < day) := by
      by_cases h : 24 * century + quad + 365 * part + day < 1460
      · exact ⟨0, by omega, .inl ⟨rfl, by omega⟩⟩
      · exact ⟨1, by omega, .inr ⟨rfl, by omega⟩⟩
    rw [eras, byCentury, byQuad]
    omega

/-- A month is found again from the day of a year that starts in March. -/
theorem monthOfYear_again {year month day : Nat} (first : 1 ≤ month) (last : month ≤ 12)
    (one : 1 ≤ day) (inside : day ≤ daysInMonth year month) :
    let shifted : Int := if (month : Int) > 2 then (month : Int) - 3 else month + 9
    let n := (153 * shifted + 2) / 5 + day - 1
    0 ≤ n ∧ n ≤ 365 ∧ (5 * n + 2) / 153 = shifted ∧
      (n = 365 → month = 2 ∧ isLeap year = true) := by
  intro shifted n
  have months : month = 1 ∨ month = 2 ∨ month = 3 ∨ month = 4 ∨ month = 5 ∨ month = 6 ∨
      month = 7 ∨ month = 8 ∨ month = 9 ∨ month = 10 ∨ month = 11 ∨ month = 12 := by omega
  rcases months with rfl | rfl | rfl | rfl | rfl | rfl | rfl | rfl | rfl | rfl | rfl | rfl <;>
    simp [daysInMonth, shifted, n] at inside ⊢
  all_goals try omega
  cases leap : isLeap year <;> simp [leap] at inside ⊢ <;> omega

theorem isLeap_eq_true {year : Nat} (h : isLeap year = true) :
    year % 4 = 0 ∧ (year % 100 ≠ 0 ∨ year % 400 = 0) := by
  simp only [isLeap, Bool.or_eq_true, Bool.and_eq_true, decide_eq_true_eq] at h
  omega

/-- **A date is found again from its days.** -/
theorem dateOfDays_daysOfDate {year month day : Nat} (first : 1 ≤ month) (last : month ≤ 12)
    (one : 1 ≤ day) (inside : day ≤ daysInMonth year month) :
    dateOfDays (daysOfDate year month day) = ((year : Int), (month : Int), (day : Int)) := by
  obtain ⟨start, stop, byDay, leap⟩ := monthOfYear_again first last one inside
  unfold dateOfDays daysOfDate
  dsimp only at start stop byDay leap ⊢
  -- months, days and years are counted from March on
  generalize isMonth : (if (month : Int) > 2 then (month : Int) - 3 else month + 9) = m at *
  generalize isDay : (153 * m + 2) / 5 + (day : Int) - 1 = n at *
  generalize isYear : (if (month : Int) ≤ 2 then (year : Int) - 1 else year) = y at *
  have isEra : y.fdiv 400 = y / 400 := Int.fdiv_eq_ediv_of_nonneg _ (by decide)
  generalize y.fdiv 400 = era at *
  have byYear : let e := (y - era * 400) * 365 + (y - era * 400) / 4 - (y - era * 400) / 100 + n
      (e - e / 1460 + e / 36524 - e / 146096) / 365 = y - era * 400 := by
    refine yearOfEra_again (by omega) (by omega) start stop fun atEnd => ?_
    obtain ⟨february, leap⟩ := leap atEnd
    have leap := isLeap_eq_true leap
    rw [if_pos (by omega)] at isYear
    omega
  dsimp only at byYear
  generalize isDayOfEra : (y - era * 400) * 365 + (y - era * 400) / 4 - (y - era * 400) / 100 + n
    = e at *
  have byEra : (era * 146097 + e - 719468 + 719468).fdiv 146097 = era := by
    rw [Int.fdiv_eq_ediv_of_nonneg _ (by decide)]
    omega
  have inEra : era * 146097 + e - 719468 + 719468 - era * 146097 = e := by omega
  have inYear : e - (365 * (y - era * 400) + (y - era * 400) / 4 - (y - era * 400) / 100) = n := by
    omega
  have byMonth : (if m < 10 then m + 3 else m - 9) = (month : Int) := by
    split at isMonth <;> omega
  rw [byEra, inEra, byYear, inYear, byDay, byMonth]
  refine Prod.ext ?_ (Prod.ext rfl ?_)
  · dsimp only
    split at isYear <;> omega
  · dsimp only
    omega

theorem toList_pad (width n : Nat) : (pad width n).toList =
    List.replicate (width - (Nat.toDigits 10 n).length) '0' ++ Nat.toDigits 10 n := by
  have length : n.repr.length = (Nat.toDigits 10 n).length := by
    simp [← String.length_toList]
  simp [pad, length]

theorem isDigit_of_mem_pad {width n : Nat} {c : Char} (h : c ∈ (pad width n).toList) :
    c.isDigit = true := by
  rw [toList_pad, List.mem_append] at h
  rcases h with h | h
  · rw [List.eq_of_mem_replicate h]
    rfl
  · exact Nat.isDigit_of_mem_toDigits (by decide) (by decide) h

theorem le_length_pad (width n : Nat) : width ≤ (pad width n).toList.length := by
  rw [toList_pad, List.length_append, List.length_replicate]
  omega

theorem length_pad {n : Nat} (small : n < 100) : (pad 2 n).toList.length = 2 := by
  have fits : (Nat.toDigits 10 n).length ≤ 2 :=
    (Nat.length_toDigits_le_iff (by decide) (by decide)).2 small
  rw [toList_pad, List.length_append, List.length_replicate]
  omega

theorem value_pad (width n : Nat) :
    (pad width n).toList.foldl (fun n c => n * 10 + (c.toNat - 48)) 0 = n := by
  have zeros (k : Nat) :
      (List.replicate k '0').foldl (fun n c => n * 10 + (c.toNat - 48)) 0 = 0 := by
    induction k with
    | zero => rfl
    | succ k ih => exact ih
  have digits : (fun n c => n * 10 + (c.toNat - 48) : Nat → Char → Nat) =
      fun n c => 10 * n + (c.toNat - '0'.toNat) := by
    funext n c
    rw [Nat.mul_comm]
    rfl
  rw [toList_pad, List.foldl_append, zeros, digits]
  exact Nat.ofDigitChars_toDigits (by decide) (by decide)

theorem takeWhile_pad_of_length {width n : Nat} (fits : (pad width n).toList.length = width)
    (rest : List Char) :
    (((pad width n).toList ++ rest).take width).takeWhile Char.isDigit = (pad width n).toList := by
  rw [List.take_append_of_le_length (Nat.le_of_eq fits.symm),
    List.take_of_length_le (Nat.le_of_eq fits)]
  exact List.takeWhile_eq_self_iff.2 fun c => isDigit_of_mem_pad

/-- A number that is as wide as it may be is read again. -/
theorem readDigits_pad_of_length {low width n : Nat} (fits : (pad width n).toList.length = width)
    (enough : low ≤ width) (rest : List Char) :
    readDigits low width ((pad width n).toList ++ rest) = some (n, rest) := by
  unfold readDigits
  dsimp only
  rw [takeWhile_pad_of_length fits, if_neg (by omega), value_pad, List.drop_left]

/-- A number is read again if no digit comes after what has been read: of a wider one a digit
would be left. -/
theorem readDigits_pad {low width n k : Nat} {c d : Char} {rest others : List Char}
    (enough : low ≤ width) (ends : d.isDigit = false)
    (read : readDigits low width ((pad width n).toList ++ c :: rest) = some (k, d :: others)) :
    k = n ∧ d = c ∧ others = rest := by
  have atLeast := le_length_pad width n
  by_cases fits : (pad width n).toList.length = width
  · rw [readDigits_pad_of_length fits enough] at read
    injection read with read
    injection read with value left
    injection left with here later
    exact ⟨value.symm, here.symm, later.symm⟩
  · exfalso
    have all : (((pad width n).toList ++ c :: rest).take width).takeWhile Char.isDigit =
        (pad width n).toList.take width := by
      rw [List.take_append_of_le_length atLeast]
      exact List.takeWhile_eq_self_iff.2 fun c h => isDigit_of_mem_pad (List.mem_of_mem_take h)
    have length : ((pad width n).toList.take width).length = width := by
      rw [List.length_take]
      omega
    unfold readDigits at read
    dsimp only at read
    rw [all, length, if_neg (by omega), List.drop_append_of_le_length atLeast] at read
    injection read with read
    injection read with _ left
    have digit : d ∈ (pad width n).toList.drop width := by
      cases found : (pad width n).toList.drop width with
      | nil =>
        have := List.drop_eq_nil_iff.1 found
        omega
      | cons e es =>
        rw [found] at left
        injection left with here
        exact here ▸ List.mem_cons_self
    rw [isDigit_of_mem_pad (List.mem_of_mem_drop digit)] at ends
    cases ends

/-- A date and a time of day, as they are written. -/
def written (year month day hour minute second : Nat) : String :=
  pad 4 year ++ "-" ++ pad 2 month ++ "-" ++ pad 2 day ++ "T" ++ pad 2 hour ++ ":" ++
    pad 2 minute ++ ":" ++ pad 2 second ++ "Z"

theorem toList_written (year month day hour minute second : Nat) :
    (written year month day hour minute second).toList =
      (pad 4 year).toList ++ '-' :: ((pad 2 month).toList ++ '-' :: ((pad 2 day).toList ++
        'T' :: ((pad 2 hour).toList ++ ':' :: ((pad 2 minute).toList ++
          ':' :: ((pad 2 second).toList ++ ['Z']))))) := by
  simp [written]

theorem readChar_eq_some {c : Char} {cs rest : List Char} (h : readChar c cs = some rest) :
    cs = c :: rest := by
  unfold readChar at h
  split at h
  · split at h
    · rename_i same
      injection h with h
      rw [same, h]
    · cases h
  · cases h

/-- A number that is followed by a mark is read again if the mark comes after what has been
read. -/
theorem readDigits_pad_of_readChar {low width n k : Nat} {mark : Char} {cs rest others : List Char}
    (enough : low ≤ width) (ends : mark.isDigit = false)
    (read : readDigits low width ((pad width n).toList ++ mark :: rest) = some (k, cs))
    (next : readChar mark cs = some others) : k = n ∧ others = rest := by
  rw [readChar_eq_some next] at read
  obtain ⟨value, -, left⟩ := readDigits_pad enough ends read
  exact ⟨value, left⟩

/-- What a date and a time of day are read as, if they can be read. -/
theorem parse?_written {year month day hour minute second : Nat} {t : Int} (small : second < 60)
    (h : parse? (written year month day hour minute second) = some t) :
    1 ≤ month ∧ month ≤ 12 ∧ 1 ≤ day ∧ day ≤ daysInMonth year month ∧ hour < 24 ∧ minute < 60 ∧
      t = daysOfDate year month day * 86400 + hour * 3600 + minute * 60 + second := by
  unfold parse? at h
  rw [toList_written] at h
  obtain ⟨⟨y, cs⟩, read, h⟩ := Option.bind_eq_some_iff.1 h
  obtain ⟨others, next, h⟩ := Option.bind_eq_some_iff.1 h
  obtain ⟨isYear, left⟩ := readDigits_pad_of_readChar (by decide) (by decide) read next
  rw [isYear, left] at h
  obtain ⟨⟨m, cs⟩, read, h⟩ := Option.bind_eq_some_iff.1 h
  obtain ⟨others, next, h⟩ := Option.bind_eq_some_iff.1 h
  obtain ⟨isMonth, left⟩ := readDigits_pad_of_readChar (by decide) (by decide) read next
  rw [isMonth, left] at h
  obtain ⟨⟨d, cs⟩, read, h⟩ := Option.bind_eq_some_iff.1 h
  dsimp only at h
  cases cs with
  | nil => cases h
  | cons c others =>
    dsimp only at h
    split at h
    · rename_i divides
      have ends : c.isDigit = false := by
        rcases divides with rfl | rfl | rfl <;> rfl
      obtain ⟨isDay, -, left⟩ := readDigits_pad (by decide) ends read
      rw [isDay, left] at h
      obtain ⟨cs, next, h⟩ := Option.bind_eq_some_iff.1 h
      rw [← Option.some.inj next] at h
      obtain ⟨⟨o, cs⟩, read, h⟩ := Option.bind_eq_some_iff.1 h
      obtain ⟨others, next, h⟩ := Option.bind_eq_some_iff.1 h
      obtain ⟨isHour, left⟩ := readDigits_pad_of_readChar (by decide) (by decide) read next
      rw [isHour, left] at h
      obtain ⟨⟨i, cs⟩, read, h⟩ := Option.bind_eq_some_iff.1 h
      obtain ⟨others, next, h⟩ := Option.bind_eq_some_iff.1 h
      obtain ⟨isMinute, left⟩ := readDigits_pad_of_readChar (by decide) (by decide) read next
      rw [isMinute, left] at h
      obtain ⟨⟨e, cs⟩, read, h⟩ := Option.bind_eq_some_iff.1 h
      rw [readDigits_pad_of_length (length_pad (by omega)) (by decide)] at read
      injection read with read
      injection read with isSecond left
      rw [← isSecond, ← left] at h
      obtain ⟨cs, next, h⟩ := Option.bind_eq_some_iff.1 h
      rw [← Option.some.inj next] at h
      obtain ⟨offset, next, h⟩ := Option.bind_eq_some_iff.1 h
      rw [← Option.some.inj next] at h
      dsimp only at h
      split at h
      · rename_i valid
        injection h with h
        refine ⟨valid.1, valid.2.1, valid.2.2.1, valid.2.2.2.1, valid.2.2.2.2.1,
          valid.2.2.2.2.2.1, ?_⟩
        omega
      · cases h
    · cases h

theorem text_eq_written {days year month day : Int} {hour minute second : Nat}
    (date : dateOfDays days = (year, month, day)) (hours : hour < 24) (minutes : minute < 60)
    (seconds : second < 60) :
    text (days * 86400 + hour * 3600 + minute * 60 + second) =
      written year.toNat month.toNat day.toNat hour minute second := by
  have isDays : (days * 86400 + hour * 3600 + minute * 60 + second).fdiv 86400 = days := by
    rw [Int.fdiv_eq_ediv_of_nonneg _ (by decide)]
    omega
  have isRest : (days * 86400 + hour * 3600 + minute * 60 + second - days * 86400).toNat =
      hour * 3600 + minute * 60 + second := by omega
  have isHour : (hour * 3600 + minute * 60 + second) / 3600 = hour := by omega
  have isMinute : (hour * 3600 + minute * 60 + second) / 60 % 60 = minute := by omega
  have isSecond : (hour * 3600 + minute * 60 + second) % 60 = second := by omega
  unfold text written
  dsimp only
  rw [isDays, isRest, isHour, isMinute, isSecond, date]

/-- **A point in time that is read again is written in the same way**, whatever the year. -/
theorem text_of_parse?_text {t u : Int} (h : parse? (text t) = some u) : text u = text t := by
  obtain ⟨days, hour, minute, second, hours, minutes, seconds, rfl⟩ :
      ∃ (days : Int) (hour minute second : Nat), hour < 24 ∧ minute < 60 ∧ second < 60 ∧
        t = days * 86400 + hour * 3600 + minute * 60 + second :=
    ⟨t / 86400, (t % 86400).toNat / 3600, (t % 86400).toNat / 60 % 60, (t % 86400).toNat % 60,
      by omega, by omega, by omega, by omega⟩
  obtain ⟨⟨year, month, day⟩, date⟩ : ∃ date, dateOfDays days = date := ⟨_, rfl⟩
  rw [text_eq_written date hours minutes seconds] at h ⊢
  obtain ⟨m1, m12, d1, inside, -, -, rfl⟩ := parse?_written seconds h
  have again := text_eq_written (dateOfDays_daysOfDate m1 m12 d1 inside) hours minutes seconds
  simpa only [Int.toNat_natCast] using again

end WorkloadIdentity.Timestamp

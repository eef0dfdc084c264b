namespace WorkloadIdentity.Timestamp

/-- Days from 1970-01-01 to a date of the Gregorian calendar. -/
def daysOfDate (year month day : Int) : Int :=
  let y := if month ≤ 2 then year - 1 else year
  let era := Int.fdiv y 400
  let yearOfEra := y - era * 400
  let shifted := if month > 2 then month - 3 else month + 9
  let dayOfYear := (153 * shifted + 2) / 5 + day - 1
  era * 146097 + (yearOfEra * 365 + yearOfEra / 4 - yearOfEra / 100 + dayOfYear) - 719468

/-- The date that lies a number of days behind 1970-01-01. -/
def dateOfDays (days : Int) : Int × Int × Int :=
  let z := days + 719468
  let era := Int.fdiv z 146097
  let dayOfEra := z - era * 146097
  let yearOfEra := (dayOfEra - dayOfEra / 1460 + dayOfEra / 36524 - dayOfEra / 146096) / 365
  let dayOfYear := dayOfEra - (365 * yearOfEra + yearOfEra / 4 - yearOfEra / 100)
  let shifted := (5 * dayOfYear + 2) / 153
  let day := dayOfYear - (153 * shifted + 2) / 5 + 1
  let month := if shifted < 10 then shifted + 3 else shifted - 9
  (yearOfEra + era * 400 + (if month ≤ 2 then 1 else 0), month, day)

def isLeap (year : Nat) : Bool := (year % 4 = 0 && year % 100 ≠ 0) || year % 400 = 0

def daysInMonth (year month : Nat) : Nat :=
  if month = 2 then (if isLeap year then 29 else 28)
  else if month ∈ [4, 6, 9, 11] then 30 else 31

/-- Reads between `low` and `high` digits. -/
def readDigits (low high : Nat) (cs : List Char) : Option (Nat × List Char) :=
  let ds := (cs.take high).takeWhile Char.isDigit
  if ds.length < low then none
  else some (ds.foldl (fun n c => n * 10 + (c.toNat - 48)) 0, cs.drop ds.length)

def readChar (c : Char) : List Char → Option (List Char)
  | d :: rest => if c = d then some rest else none
  | [] => none

/-- Drops a fraction of a second. -/
def dropFraction : List Char → Option (List Char)
  | '.' :: rest =>
    if (rest.takeWhile Char.isDigit).isEmpty then none else some (rest.dropWhile Char.isDigit)
  | rest => some rest

/-- The offset from UTC in seconds. -/
def readOffset (cs : List Char) : Option Int :=
  match cs with
  | ['Z'] => some 0
  | ['z'] => some 0
  | sign :: rest => do
    let factor : Int ← if sign = '+' then some 1 else if sign = '-' then some (-1) else none
    let (hours, rest) ← readDigits 2 2 rest
    let rest := match rest with
      | ':' :: rest => rest
      | rest => rest
    let (minutes, rest) ← readDigits 2 2 rest
    if rest.isEmpty && minutes < 60 && hours < 24 then
      some (factor * ((hours : Int) * 3600 + (minutes : Int) * 60))
    else none
  | [] => none

/-- Seconds since the start of 1970 in UTC. -/
def parse? (text : String) : Option Int := do
  let (year, cs) ← readDigits 4 4 text.toList
  let cs ← readChar '-' cs
  let (month, cs) ← readDigits 1 2 cs
  let cs ← readChar '-' cs
  let (day, cs) ← readDigits 1 2 cs
  let cs ← match cs with
    | c :: rest => if c = 'T' ∨ c = 't' ∨ c = ' ' then some rest else none
    | [] => none
  let (hour, cs) ← readDigits 1 2 cs
  let cs ← readChar ':' cs
  let (minute, cs) ← readDigits 1 2 cs
  let cs ← readChar ':' cs
  let (second, cs) ← readDigits 1 2 cs
  let cs ← dropFraction cs
  let offset ← readOffset (cs.dropWhile (· = ' '))
  if 1 ≤ month ∧ month ≤ 12 ∧ 1 ≤ day ∧ day ≤ daysInMonth year month ∧ hour < 24 ∧ minute < 60 ∧
      second ≤ 60 then
    let seconds : Int := min second 59
    return daysOfDate year month day * 86400 + hour * 3600 + minute * 60 + seconds - offset
  else none

def pad (width n : Nat) : String :=
  let digits := toString n
  String.ofList (List.replicate (width - digits.length) '0') ++ digits

/-- The date and the time of day in UTC. -/
def text (seconds : Int) : String :=
  let days := Int.fdiv seconds 86400
  let rest := (seconds - days * 86400).toNat
  let (year, month, day) := dateOfDays days
  pad 4 year.toNat ++ "-" ++ pad 2 month.toNat ++ "-" ++ pad 2 day.toNat ++ "T" ++
    pad 2 (rest / 3600) ++ ":" ++ pad 2 (rest / 60 % 60) ++ ":" ++ pad 2 (rest % 60) ++ "Z"

end WorkloadIdentity.Timestamp

/-! Binary floating point with a 53 bit significand, kept in exact integer arithmetic so that every
operation is a rounding of an exact ratio. A tie goes to the even significand. -/

namespace WorkloadIdentity

/-- A double: not a number, an infinity, or `±mantissa * 2 ^ exponent`.
A finite double is normal (`2 ^ 52 ≤ mantissa < 2 ^ 53`) or has the least exponent `-1074`. -/
inductive Binary64 where
  | nan
  | infinity (negative : Bool)
  | finite (negative : Bool) (mantissa : Nat) (exponent : Int)
deriving DecidableEq, Repr, Inhabited

namespace Binary64

/-- The integer nearest to `num / den`; a half goes to the even neighbour. -/
def roundHalfEven (num den : Nat) : Nat :=
  let q := num / den
  let r := num % den
  if 2 * r < den then q
  else if den < 2 * r then q + 1
  else if q % 2 = 0 then q else q + 1

/-- The numerator and denominator of `num / den / 2 ^ exponent`. -/
def scaled (num den : Nat) (exponent : Int) : Nat × Nat :=
  match exponent with
  | .ofNat e => (num, den * Nat.pow 2 e)
  | .negSucc e => (num * Nat.pow 2 (e + 1), den)

def zero (negative : Bool) : Binary64 := .finite negative 0 (-1074)

/-- The double nearest to `±num / den`. -/
def ofRatio (negative : Bool) (num den : Nat) : Binary64 :=
  if num = 0 then zero negative
  else
    let guess : Int := (num.log2 : Int) - (den.log2 : Int) - 52
    let (n, d) := scaled num den guess
    let least : Int := if n / d < Nat.pow 2 52 then guess - 1 else guess
    let exponent := max least (-1074)
    let (n, d) := scaled num den exponent
    let mantissa := roundHalfEven n d
    let (mantissa, exponent) :=
      if mantissa = Nat.pow 2 53 then (Nat.pow 2 52, exponent + 1) else (mantissa, exponent)
    if 971 < exponent then .infinity negative else .finite negative mantissa exponent

def ofInt (i : Int) : Binary64 := ofRatio (decide (i < 0)) i.natAbs 1

/-- How many decimal digits `n` has; zero has one. -/
def digitCount (n : Nat) : Nat := (Nat.toDigits 10 n).length

/-- The double nearest to `±digits * 10 ^ exponent`. Exponents far outside the range of doubles
are answered without computing the power. -/
def ofDecimal (negative : Bool) (digits : Nat) (exponent : Int) : Binary64 :=
  if digits = 0 then zero negative
  else
    let magnitude := (digitCount digits : Int) + exponent
    if 310 < magnitude then .infinity negative
    else if magnitude < -330 then zero negative
    else match exponent with
      | .ofNat e => ofRatio negative (digits * Nat.pow 10 e) 1
      | .negSucc e => ofRatio negative digits (Nat.pow 10 (e + 1))

def isFinite : Binary64 → Bool
  | finite .. => true
  | _ => false

def abs : Binary64 → Binary64
  | nan => nan
  | infinity _ => infinity false
  | finite _ m e => finite false m e

/-- A finite double as a signed integer times a power of two. -/
def signed (negative : Bool) (mantissa : Nat) : Int :=
  if negative then -(mantissa : Int) else mantissa

/-- The double nearest to `value * 2 ^ exponent`. -/
def ofScaledInt (negativeZero : Bool) (value : Int) (exponent : Int) : Binary64 :=
  if value = 0 then zero negativeZero
  else match exponent with
    | .ofNat e => ofRatio (decide (value < 0)) (value.natAbs * Nat.pow 2 e) 1
    | .negSucc e => ofRatio (decide (value < 0)) value.natAbs (Nat.pow 2 (e + 1))

def mul : Binary64 → Binary64 → Binary64
  | nan, _ => nan
  | _, nan => nan
  | infinity s, infinity t => infinity (s != t)
  | infinity s, finite t m _ => if m = 0 then nan else infinity (s != t)
  | finite s m _, infinity t => if m = 0 then nan else infinity (s != t)
  | finite s m e, finite t n f =>
    if m * n = 0 then zero (s != t)
    else ofScaledInt false (signed (s != t) (m * n)) (e + f)

def sub : Binary64 → Binary64 → Binary64
  | nan, _ => nan
  | _, nan => nan
  | infinity s, infinity t => if s = t then nan else infinity s
  | infinity s, finite .. => infinity s
  | finite .., infinity t => infinity (!t)
  | finite s m e, finite t n f =>
    let low := min e f
    let a := signed s m * (Nat.pow 2 (e - low).toNat : Nat)
    let b := signed t n * (Nat.pow 2 (f - low).toNat : Nat)
    ofScaledInt (s && !t) (a - b) low

def add : Binary64 → Binary64 → Binary64
  | a, nan => sub a nan
  | a, infinity t => sub a (infinity !t)
  | a, finite t m e => sub a (finite (!t) m e)

/-- Equality of values: the two zeros are equal and nothing equals `nan`. -/
def sameValue : Binary64 → Binary64 → Bool
  | nan, _ => false
  | _, nan => false
  | infinity s, infinity t => s == t
  | finite s m e, finite t n f =>
    (m == 0 && n == 0) || (s == t && m == n && e == f)
  | _, _ => false

/-- Order of values; false where a side is `nan`. -/
def le : Binary64 → Binary64 → Bool
  | nan, _ => false
  | _, nan => false
  | infinity true, _ => true
  | _, infinity false => true
  | infinity false, _ => false
  | _, infinity true => false
  | finite s m e, finite t n f =>
    let low := min e f
    decide (signed s m * (Nat.pow 2 (e - low).toNat : Nat) ≤
      signed t n * (Nat.pow 2 (f - low).toNat : Nat))

/-- The larger of two doubles; a `nan` gives way to the other side. -/
def larger (a b : Binary64) : Binary64 :=
  match a, b with
  | nan, b => b
  | a, nan => a
  | a, b => if le a b then b else a

/-- The value rounded to an integer, a half going away from zero, then clamped to `0 … 2 ^ 64 - 1`;
`nan` counts as zero. -/
def toWord64 : Binary64 → Nat
  | nan => 0
  | infinity s => if s then 0 else 0xffffffffffffffff
  | finite s m e =>
    if s then 0
    else match e with
      | .ofNat k =>
        if 64 < k then (if m = 0 then 0 else 0xffffffffffffffff)
        else min (m * Nat.pow 2 k) 0xffffffffffffffff
      | .negSucc k => min ((2 * m + Nat.pow 2 (k + 1)) / (2 * Nat.pow 2 (k + 1))) 0xffffffffffffffff

/-- An equal pair of doubles that are numbers has one value. -/
theorem sameValue_self {d : Binary64} (h : d ≠ nan) : sameValue d d = true := by
  cases d <;> simp_all [sameValue]

end Binary64

end WorkloadIdentity

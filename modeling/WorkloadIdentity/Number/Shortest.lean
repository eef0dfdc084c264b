import WorkloadIdentity.Number.Binary64

/-! The decimal with the fewest digits that reads back as a given double, and of several such
decimals the nearest one. -/

namespace WorkloadIdentity.Shortest

open Binary64

/-- A positive decimal `d₁.d₂d₃… * 10 ^ exponent`; its digits are the digits of `coefficient`. -/
structure Digits where
  coefficient : Nat
  exponent : Int
deriving DecidableEq, Repr

/-- The greatest `k` with `10 ^ k ≤ num / den`. -/
def tenExponent (num den : Nat) : Int :=
  if den ≤ num then (digitCount (num / den) : Int) - 1
  else
    let r := (den + num - 1) / num
    Int.negOfNat (digitCount (r - 1))

/-- The exact value of a positive double as a ratio, with a quarter of the spacing below and the
half of the spacing above, all over one denominator: `(value, below, above, den)`. -/
def interval (mantissa : Nat) (exponent : Int) : Nat × Nat × Nat × Nat :=
  let below := if mantissa = Nat.pow 2 52 ∧ -1074 < exponent then 1 else 2
  match exponent with
  | .ofNat e => (4 * mantissa * Nat.pow 2 e, below * Nat.pow 2 e, 2 * Nat.pow 2 e, 4)
  | .negSucc e => (4 * mantissa, below, 2, 4 * Nat.pow 2 (e + 1))

/-- The candidate with `count` digits: of the two neighbours of the value on the grid of that many
digits, the nearer one that lies in the interval. -/
def candidate (mantissa : Nat) (exponent : Int) (count : Nat) : Option (Nat × Int) :=
  let (value, below, above, den) := interval mantissa exponent
  let step : Int := tenExponent value den - (count : Int) + 1
  let (unit, value, below, above) : Nat × Nat × Nat × Nat := match step with
    | .ofNat s => (den * Nat.pow 10 s, value, below, above)
    | .negSucc s =>
      let scale := Nat.pow 10 (s + 1)
      (den, value * scale, below * scale, above * scale)
  let low := value / unit
  let high := low + 1
  let even := mantissa % 2 = 0
  let lowFits := value - low * unit < below ∨ (even ∧ value - low * unit = below)
  let highFits := high * unit - value < above ∨ (even ∧ high * unit - value = above)
  if lowFits ∧ highFits then
    if 2 * (value - low * unit) < unit ∨ (2 * (value - low * unit) = unit ∧ low % 2 = 0)
    then some (low, step) else some (high, step)
  else if lowFits ∧ low ≠ 0 then some (low, step)
  else if highFits then some (high, step)
  else none

/-- The shortest decimal that reads back as the positive double `mantissa * 2 ^ exponent`. -/
def digits (mantissa : Nat) (exponent : Int) : Digits :=
  match (List.range 17).findSome? (fun n => candidate mantissa exponent (n + 1)) with
  | some (c, step) => trim 20 c step
  | none => ⟨0, 0⟩
where
  /-- Drops trailing zeros and moves the point behind the first digit. -/
  trim : Nat → Nat → Int → Digits
    | 0, c, step => ⟨c, step + (digitCount c : Int) - 1⟩
    | fuel + 1, c, step =>
      if c % 10 = 0 ∧ c ≠ 0 then trim fuel (c / 10) (step + 1)
      else ⟨c, step + (digitCount c : Int) - 1⟩

def zeros (n : Nat) : String := String.ofList (List.replicate n '0')

/-- Positional notation. `pointZero` tells whether an integral value keeps a `.0`. -/
def plain (d : Digits) (pointZero : Bool) : String :=
  let text := toString d.coefficient
  let places : Int := d.exponent - (text.length : Int) + 1
  match places with
  | .ofNat p => text ++ zeros p ++ (if pointZero then ".0" else "")
  | .negSucc p =>
    if p + 1 < text.length then
      let cs := text.toList
      String.ofList (cs.take (cs.length - (p + 1))) ++ "." ++
        String.ofList (cs.drop (cs.length - (p + 1)))
    else "0." ++ zeros (p + 1 - text.length) ++ text

/-- Scientific notation with a sign in the exponent. -/
def scientific (d : Digits) : String :=
  let cs := (toString d.coefficient).toList
  let exponent := if d.exponent < 0 then toString d.exponent else "+" ++ toString d.exponent
  let fraction := if cs.length ≤ 1 then "" else "." ++ String.ofList (cs.drop 1)
  String.ofList (cs.take 1) ++ fraction ++ "e" ++ exponent

end WorkloadIdentity.Shortest

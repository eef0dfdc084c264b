import WorkloadIdentity.Number.Shortest

namespace WorkloadIdentity.Binary64

def lowerText (cs : List Char) : String := String.ofList (cs.map Char.toLower)

def digitsNumber (cs : List Char) : Nat := cs.foldl (fun n c => n * 10 + (c.toNat - 48)) 0

/-- An exponent behind `e`: a sign and digits. -/
def exponent? (cs : List Char) : Option Int :=
  let (negative, ds) : Bool × List Char := match cs with
    | '-' :: rest => (true, rest)
    | '+' :: rest => (false, rest)
    | rest => (false, rest)
  if ds.isEmpty || !ds.all Char.isDigit then none
  else some (if negative then -(digitsNumber ds : Int) else digitsNumber ds)

/-- A number without its sign. -/
def magnitude? (negative : Bool) (cs : List Char) : Option Binary64 :=
  let word := lowerText cs
  if word = "inf" || word = "infinity" then some (infinity negative)
  else if word = "nan" then some nan
  else
    let whole := cs.takeWhile Char.isDigit
    let rest := cs.dropWhile Char.isDigit
    let (fraction, rest) : List Char × List Char := match rest with
      | '.' :: rest => (rest.takeWhile Char.isDigit, rest.dropWhile Char.isDigit)
      | rest => ([], rest)
    if whole.isEmpty && fraction.isEmpty then none
    else
      let exponent := match rest with
        | [] => some 0
        | c :: rest => if c = 'e' ∨ c = 'E' then exponent? rest else none
      exponent.map (fun e =>
        ofDecimal negative (digitsNumber (whole ++ fraction)) (e - fraction.length))

/-- The double nearest to a decimal literal. -/
def ofText? (s : String) : Option Binary64 :=
  match s.toList with
  | '-' :: rest => magnitude? true rest
  | '+' :: rest => magnitude? false rest
  | cs => magnitude? false cs

/-- The shortest digits that read back, without an exponent. -/
def text : Binary64 → String
  | nan => "NaN"
  | infinity negative => if negative then "-inf" else "inf"
  | finite negative mantissa exponent =>
    let sign := if negative then "-" else ""
    if mantissa = 0 then sign ++ "0"
    else sign ++ Shortest.plain (Shortest.digits mantissa exponent) false

end WorkloadIdentity.Binary64

namespace WorkloadIdentity

namespace Ipv4

/-- A number of an address: `none` if it is no number, `some none` if it is too large. -/
def number? (part : String) : Option (Option Nat) :=
  let cs := part.toList
  let (base, digits) : Nat × List Char := match cs with
    | '0' :: 'x' :: rest => (16, rest)
    | '0' :: 'X' :: rest => (16, rest)
    | '0' :: c :: rest => (8, c :: rest)
    | cs => (10, cs)
  if cs.isEmpty then none
  else if digits.isEmpty then some (some 0)
  else
    match digits.mapM (digit? base) with
    | none => none
    | some ds =>
      let n := ds.foldl (fun n d => n * base + d) 0
      if n < 0x100000000 then some (some n) else some none
where
  digit? (base : Nat) (c : Char) : Option Nat :=
    let value :=
      if c.isDigit then c.toNat - 48
      else if 'a' ≤ c ∧ c ≤ 'f' then c.toNat - 87
      else if 'A' ≤ c ∧ c ≤ 'F' then c.toNat - 55
      else 16
    if value < base then some value else none

/-- Whether the last label of a host makes it an address. -/
def endsInNumber (host : String) : Bool :=
  let parts := (host.splitOn ".").reverse
  let last := match parts with
    | "" :: last :: _ => some last
    | [""] => none
    | last :: _ => some last
    | [] => none
  match last with
  | none => false
  | some last =>
    (last ≠ "" && last.toList.all Char.isDigit) || (number? last).isSome

/-- The 32 bits of an address whose last number fills the remaining bytes. -/
def parse? (host : String) : Option Nat := do
  let parts := host.splitOn "."
  let parts := if parts.getLast? = some "" then parts.dropLast else parts
  if 4 < parts.length then none
  else
    let numbers ← parts.mapM (fun p => (number? p).bind id)
    let last ← numbers.getLast?
    let front := numbers.dropLast
    if 0x100000000 / Nat.pow 256 front.length ≤ last then none
    else if front.any (fun n => 255 < n) then none
    else
      return (front.zipIdx.foldl (fun sum (n, i) => sum + n * Nat.pow 256 (3 - i)) last)

def text (address : Nat) : String :=
  ".".intercalate ([3, 2, 1, 0].map (fun i => toString (address / Nat.pow 256 i % 256)))

end Ipv4

namespace Ipv6

/-- A piece of one to four hexadecimal digits. -/
def piece? (cs : List Char) : Option Nat :=
  if cs.isEmpty || 4 < cs.length then none
  else (cs.mapM (Ipv4.number?.digit? 16)).map (fun ds => ds.foldl (fun n d => n * 16 + d) 0)

/-- A decimal number of the trailing four-number form: no leading zero, at most 255. -/
def byte? (part : String) : Option Nat :=
  let cs := part.toList
  if cs.isEmpty || !cs.all Char.isDigit || (cs.head? = some '0' && cs.length ≠ 1) || 3 < cs.length
  then none
  else part.toNat?.bind (fun n => if n ≤ 255 then some n else none)

/-- The pieces of a list of texts; the last one may be an address of four numbers. -/
def pieces? (mayEndInBytes : Bool) : List String → Option (List Nat)
  | [] => some []
  | [last] =>
    if mayEndInBytes && last.toList.contains '.' then do
      match (← (last.splitOn ".").mapM byte?) with
      | [a, b, c, d] => return [a * 256 + b, c * 256 + d]
      | _ => none
    else (piece? last.toList).map (fun p => [p])
  | p :: rest => do
    let p ← piece? p.toList
    let rest ← pieces? mayEndInBytes rest
    return p :: rest

/-- The eight pieces of an address. -/
def parse? (text : String) : Option (List Nat) :=
  match text.splitOn "::" with
  | [whole] => do
    let ps ← pieces? true (whole.splitOn ":")
    if ps.length = 8 then some ps else none
  | [front, back] => do
    let fs ← if front = "" then some [] else pieces? false (front.splitOn ":")
    let bs ← if back = "" then some [] else pieces? true (back.splitOn ":")
    if fs.length + bs.length ≤ 7 then
      return fs ++ List.replicate (8 - fs.length - bs.length) 0 ++ bs
    else none
  | _ => none

def pieceText (p : Nat) : String := String.ofList (Nat.toDigits 16 p)

/-- The start and length of the first longest run of zeros. -/
def longestZeros (pieces : List Nat) : Nat × Nat :=
  (List.range pieces.length).foldl (fun (start, length) i =>
    let n := ((pieces.drop i).takeWhile (· = 0)).length
    if length < n then (i, n) else (start, length)) (0, 0)

def text (pieces : List Nat) : String :=
  let (start, length) := longestZeros pieces
  if 2 ≤ length then
    ":".intercalate ((pieces.take start).map pieceText) ++ "::" ++
      ":".intercalate ((pieces.drop (start + length)).map pieceText)
  else ":".intercalate (pieces.map pieceText)

end Ipv6

end WorkloadIdentity

import WorkloadIdentity.Text.Unprintable
import WorkloadIdentity.Url.CaseFold

namespace WorkloadIdentity

namespace Punycode

def base : Nat := 36
def leastThreshold : Nat := 1
def greatestThreshold : Nat := 26

def digit (d : Nat) : Char := if d < 26 then Char.ofNat (97 + d) else Char.ofNat (22 + d)

def digitValue? (c : Char) : Option Nat :=
  if 'a' ≤ c ∧ c ≤ 'z' then some (c.toNat - 97)
  else if 'A' ≤ c ∧ c ≤ 'Z' then some (c.toNat - 65)
  else if c.isDigit then some (c.toNat - 22)
  else none

/-- Divides `delta` by `35` while it is large, counting in steps of the base. -/
def spread : Nat → Nat → Nat → Nat × Nat
  | 0, delta, k => (delta, k)
  | fuel + 1, delta, k => if 455 < delta then spread fuel (delta / 35) (k + base) else (delta, k)

/-- The new bias after a code point has been written. -/
def adapt (delta count : Nat) (first : Bool) : Nat :=
  let delta := if first then delta / 700 else delta / 2
  let (delta, k) := spread 16 (delta + delta / count) 0
  k + 36 * delta / (delta + 38)

def threshold (k bias : Nat) : Nat :=
  if k ≤ bias then leastThreshold
  else if bias + greatestThreshold ≤ k then greatestThreshold
  else k - bias

/-- The digits of a number of variable length. -/
def number : Nat → Nat → Nat → Nat → List Char
  | 0, _, _, _ => []
  | fuel + 1, q, k, bias =>
    let t := threshold k bias
    if q < t then [digit q]
    else digit (t + (q - t) % (base - t)) :: number fuel ((q - t) / (base - t)) (k + base) bias

/-- The state of the encoder: bias, delta, how many characters are done, and the output. -/
structure Progress where
  bias : Nat
  delta : Nat
  done : Nat
  first : Bool
  output : List Char

/-- Writes all occurrences of one code point. -/
def encodeCode (cs : List Char) (code : Nat) (p : Progress) : Progress :=
  cs.foldl (fun p c =>
    if c.toNat < code then { p with delta := p.delta + 1 }
    else if c.toNat = code then
      { bias := adapt p.delta (p.done + 1) p.first
        delta := 0
        done := p.done + 1
        first := false
        output := p.output ++ number 64 p.delta base p.bias }
    else p) p

/-- The least code point of a text that is at least `low`. -/
def leastFrom (cs : List Char) (low : Nat) : Option Nat :=
  cs.foldl (fun best c =>
    if low ≤ c.toNat then
      match best with
      | some b => some (min b c.toNat)
      | none => some c.toNat
    else best) none

def encodeRest (cs : List Char) : Nat → Nat → Progress → Progress
  | 0, _, p => p
  | fuel + 1, low, p =>
    match leastFrom cs low with
    | none => p
    | some code =>
      let p := { p with delta := p.delta + (code - low) * (p.done + 1) }
      let p := encodeCode cs code p
      encodeRest cs fuel (code + 1) { p with delta := p.delta + 1 }

def encode (cs : List Char) : List Char :=
  let basic := cs.filter (fun c => c.toNat < 128)
  let start := if basic.isEmpty then [] else basic ++ ['-']
  (encodeRest cs cs.length 128 ⟨72, 0, basic.length, true, start⟩).output

/-- Reads one number of variable length: its value and the rest. -/
def readNumber : List Char → Nat → Nat → Nat → Nat → Option (Nat × List Char)
  | [], _, _, _, _ => none
  | c :: rest, sum, weight, k, bias => do
    let d ← digitValue? c
    let sum := sum + d * weight
    let t := threshold k bias
    if d < t then some (sum, rest) else readNumber rest sum (weight * (base - t)) (k + base) bias

def decodeRest : Nat → List Char → List Char → Nat → Nat → Nat → Option (List Char)
  | _, [], output, _, _, _ => some output
  | 0, _, _, _, _, _ => none
  | fuel + 1, cs, output, code, position, bias => do
    let (sum, rest) ← readNumber cs 0 1 base bias
    let count := output.length + 1
    let index := position + sum
    let code := code + index / count
    let at_ := index % count
    if 0x10FFFF < code ∨ (0xD800 ≤ code ∧ code < 0xE000) then none
    else
      decodeRest fuel rest (output.take at_ ++ Char.ofNat code :: output.drop at_) code (at_ + 1)
        (adapt sum count (position = 0 && output.length + 1 = count && code ≥ 128 && bias = 72))

def decode? (cs : List Char) : Option (List Char) :=
  let back := cs.reverse.takeWhile (· ≠ '-')
  let hasBasic := cs.contains '-'
  let basic := if hasBasic then cs.take (cs.length - back.length - 1) else []
  let rest := if hasBasic then back.reverse else cs
  if basic.any (fun c => 128 ≤ c.toNat) then none
  else decodeRest (rest.length + 1) rest basic 128 0 72

end Punycode

namespace Domain

/-- ASCII characters that no domain name holds. -/
def isForbidden (c : Char) : Bool :=
  c.toNat ≤ 32 || c.toNat = 127 || "%#/:<>?@[\\]^`\x7b|\x7d".toList.contains c

def isMark (c : Char) : Bool :=
  (0x300 ≤ c.toNat && c.toNat ≤ 0x36F) || (0x483 ≤ c.toNat && c.toNat ≤ 0x489) ||
    (0x20D0 ≤ c.toNat && c.toNat ≤ 0x20F0) || (0x3099 ≤ c.toNat && c.toNat ≤ 0x309A)

/-- Whether a character beyond ASCII may stand in a label. -/
def isAllowed (c : Char) : Bool := isMark c || !isUnprintable c

/-- Whether a label beyond ASCII is well formed. -/
def isLabel (cs : List Char) : Bool :=
  cs.all (fun c => if c.toNat < 128 then !isForbidden c && !c.isUpper else isAllowed c) &&
    !(cs.head?.any isMark)

/-- The ASCII form of one label. -/
def labelToAscii? (cs : List Char) : Option (List Char) :=
  if cs.all (fun c => c.toNat < 128) then
    match cs with
    | 'x' :: 'n' :: '-' :: '-' :: rest =>
      match Punycode.decode? rest with
      | some decoded =>
        if !decoded.isEmpty && decoded.any (fun c => 128 ≤ c.toNat) && isLabel decoded &&
            CaseFold.compose (decoded.flatMap CaseFold.fold) = decoded &&
            Punycode.encode decoded = rest then some cs
        else none
      | none => none
    | cs => if cs.any isForbidden then none else some cs
  else if isLabel cs then some (['x', 'n', '-', '-'] ++ Punycode.encode cs)
  else none

/-- Splits a list at every dot. -/
def labels (cs : List Char) : List (List Char) :=
  cs.foldr (fun c parts =>
    if c = '.' then [] :: parts
    else match parts with
      | p :: rest => (c :: p) :: rest
      | [] => [[c]]) [[]]

/-- The ASCII form of a domain name: folded, and each label beyond ASCII written in ASCII. -/
def toAscii? (domain : String) : Option String := do
  let folded := CaseFold.compose (domain.toList.flatMap CaseFold.fold)
  let parts ← (labels folded).mapM labelToAscii?
  return ".".intercalate (parts.map String.ofList)

end Domain

end WorkloadIdentity

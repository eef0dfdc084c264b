import WorkloadIdentity.Number.Literal

/-! A text is written as it is where that reads back as the same text. It is quoted where it would
read as a number, a truth value or nothing, or where it holds what means something in YAML; a text
of several lines is a block below its key. -/

namespace WorkloadIdentity.Yaml

/-- A number with a leading zero is no number, but is not written plain either. -/
def hasLeadingZero (cs : List Char) : Bool :=
  let digits : List Char := match cs with
    | '-' :: rest => rest
    | '+' :: rest => rest
    | rest => rest
  match digits with
  | '0' :: c :: rest => (c :: rest).all Char.isDigit
  | _ => false

def digitValue? (c : Char) : Option Nat :=
  if c.isDigit then some (c.toNat - 48)
  else if 'a' ≤ c ∧ c ≤ 'f' then some (c.toNat - 87)
  else if 'A' ≤ c ∧ c ≤ 'F' then some (c.toNat - 55)
  else none

/-- The number that digits of a base stand for. -/
def digitsValue? (base : Nat) (cs : List Char) : Option Nat :=
  if cs.isEmpty then none
  else cs.foldl (fun n? c => do
    let n ← n?
    let d ← digitValue? c
    if d < base then return n * base + d else none) (some 0)

/-- An integer without its sign, of any base. -/
def magnitudeValue? : List Char → Option Nat
  | '0' :: 'x' :: rest => digitsValue? 16 rest
  | '0' :: 'o' :: rest => digitsValue? 8 rest
  | '0' :: 'b' :: rest => digitsValue? 2 rest
  | cs => digitsValue? 10 cs

/-- Whether a plain text is an integer of at most 128 bits. -/
def isInteger : List Char → Bool
  | '-' :: rest => (magnitudeValue? rest).any (· ≤ Nat.pow 2 127)
  | '+' :: rest => (magnitudeValue? rest).any (· < Nat.pow 2 128)
  | cs => (magnitudeValue? cs).any (· < Nat.pow 2 128)

def specialNumbers : List String :=
  [".inf", ".Inf", ".INF", "+.inf", "+.Inf", "+.INF", "-.inf", "-.Inf", "-.INF", ".nan", ".NaN",
    ".NAN"]

/-- Whether a plain text is a number that is no integer. -/
def isDecimal (s : String) : Bool :=
  s ∈ specialNumbers || (Binary64.ofText? s).any Binary64.isFinite

def words : List String :=
  ["", "null", "Null", "NULL", "~", "true", "True", "TRUE", "false", "False", "FALSE"]

/-- Whether a plain text would read as something else than a text. -/
def readsOtherwise (s : String) : Bool :=
  s ∈ words || hasLeadingZero s.toList || isInteger s.toList || isDecimal s

def isBreak (c : Char) : Bool :=
  c = '\n' || c = '\r' || c.toNat = 0x85 || c.toNat = 0x2028 || c.toNat = 0x2029

def isPrintable (c : Char) : Bool :=
  let n := c.toNat
  n = 10 || (32 ≤ n && n ≤ 126) || (0xA0 ≤ n && n ≠ 0xFEFF && n ≠ 0xFFFE && n ≠ 0xFFFF)

/-- Whether a character ends a word: a blank or a break. -/
def endsWord (c : Char) : Bool := c = ' ' || c = '\t' || c.toNat = 0 || isBreak c

/-- Whether the next character, if there is one, ends a word. -/
def wordEnds : List Char → Bool
  | [] => true
  | c :: _ => endsWord c

/-- The characters that no plain text starts with. -/
def indicators : List Char :=
  ['#', ',', '[', ']', '{', '}', '&', '*', '!', '|', '>', '\'', '"', '%', '@', '\x60']

/-- Whether the first character means something in YAML. -/
def startsSpecial : List Char → Bool
  | '-' :: '-' :: '-' :: _ => true
  | '.' :: '.' :: '.' :: _ => true
  | c :: rest =>
    indicators.contains c || ((c = '?' || c = ':' || c = '-') && wordEnds rest)
  | [] => false

/-- Whether a later character means something: a colon that ends a word, or a hash that starts
one. -/
def continuesSpecial : List Char → Bool
  | a :: b :: rest =>
    (b = ':' && wordEnds rest) || (b = '#' && endsWord a) || continuesSpecial (b :: rest)
  | _ => false

/-- Whether two characters of the given kinds stand side by side. -/
def hasPair (p q : Char → Bool) : List Char → Bool
  | a :: b :: rest => (p a && q b) || hasPair p q (b :: rest)
  | _ => false

def isSpace (c : Char) : Bool := c = ' '

inductive Style where
  | plain
  | single
  | double
  | literal
deriving DecidableEq, Repr, Inhabited

/-- Whether only double quotes can hold a text: it has characters that need an escape, or a blank
before a break. -/
def needsEscapes (cs : List Char) : Bool :=
  cs.any (fun c => !isPrintable c) || hasPair isSpace isBreak cs

def allowsPlain (cs : List Char) : Bool :=
  !(cs.head?.any isSpace || cs.getLast?.any isSpace || cs.any isBreak || startsSpecial cs ||
    continuesSpecial cs)

/-- How a text is written; `inKey` is set for the key of a mapping. -/
def styleOf (s : String) (inKey : Bool) : Style :=
  let cs := s.toList
  if needsEscapes cs then .double
  else if cs.contains '\n' then
    if inKey || cs.getLast?.any isSpace then .double else .literal
  else if hasPair isBreak isSpace cs || (inKey && cs.any isBreak) then .double
  else if readsOtherwise s || !allowsPlain cs then .single
  else .plain

def pad (width : Nat) : String := String.ofList (List.replicate width ' ')

def hexUpper (n : Nat) : Char := if n < 10 then Char.ofNat (48 + n) else Char.ofNat (55 + n)

/-- A number in hexadecimal, with leading zeros. -/
def hexOf (n : Nat) : Nat → List Char
  | 0 => []
  | width + 1 => hexOf (n / 16) width ++ [hexUpper (n % 16)]

/-- The characters that stand for `c` between double quotes. -/
def escapeChar (c : Char) : List Char :=
  let n := c.toNat
  if c = '"' then ['\\', '"']
  else if c = '\\' then ['\\', '\\']
  else if isPrintable c && !isBreak c then [c]
  else if n = 0 then ['\\', '0']
  else if n = 7 then ['\\', 'a']
  else if n = 8 then ['\\', 'b']
  else if n = 9 then ['\\', 't']
  else if n = 10 then ['\\', 'n']
  else if n = 11 then ['\\', 'v']
  else if n = 12 then ['\\', 'f']
  else if n = 13 then ['\\', 'r']
  else if n = 27 then ['\\', 'e']
  else if n = 0x85 then ['\\', 'N']
  else if n = 0x2028 then ['\\', 'L']
  else if n = 0x2029 then ['\\', 'P']
  else if n ≤ 0xFF then ['\\', 'x'] ++ hexOf n 2
  else if n ≤ 0xFFFF then ['\\', 'u'] ++ hexOf n 4
  else ['\\', 'U'] ++ hexOf n 8

/-- Writes lines that go on at an indentation; `fresh` is set at the start of a line. -/
def indented (width : Nat) (write : Char → List Char) (fresh : Bool) : List Char → List Char
  | [] => []
  | c :: rest =>
    if isBreak c then c :: indented width write true rest
    else
      (if fresh then List.replicate width ' ' else []) ++ write c ++
        indented width write false rest

/-- What is kept of the breaks at the end of a block: none, one, or all. -/
def chomping (cs : List Char) : String :=
  match cs.reverse with
  | [] => "-"
  | [c] => if isBreak c then "+" else "-"
  | c :: d :: _ => if !isBreak c then "-" else if isBreak d then "+" else ""

def indentationDigit (cs : List Char) : String :=
  if cs.head?.any (fun c => isSpace c || isBreak c) then "2" else ""

/-- A text behind a key or a dash, its later lines at the given indentation. A block ends with its
last line; everything else needs a break behind it. -/
def scalar (s : String) (width : Nat) (inKey : Bool) : String × Bool :=
  let cs := s.toList
  match styleOf s inKey with
  | .plain => (s, false)
  | .single =>
    let body := indented width (fun c => if c = '\'' then ['\'', '\''] else [c]) false cs
    let close := if cs.getLast?.any isBreak then pad width else ""
    ("'" ++ String.ofList body ++ close ++ "'", false)
  | .double => ("\"" ++ String.ofList (cs.flatMap escapeChar) ++ "\"", false)
  | .literal =>
    ("|" ++ indentationDigit cs ++ chomping cs ++ "\n" ++
      String.ofList (indented width (fun c => [c]) true cs), cs.getLast?.any isBreak)

end WorkloadIdentity.Yaml

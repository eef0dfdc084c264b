import WorkloadIdentity.Json.Basic
import WorkloadIdentity.Number.Shortest

namespace WorkloadIdentity.Json

def hexDigit (n : Nat) : Char := if n < 10 then Char.ofNat (48 + n) else Char.ofNat (87 + n)

/-- The characters that stand for `c` inside quotes. -/
def escapeChar (c : Char) : List Char :=
  if c = '"' then ['\\', '"']
  else if c = '\\' then ['\\', '\\']
  else if c.toNat = 8 then ['\\', 'b']
  else if c.toNat = 9 then ['\\', 't']
  else if c.toNat = 10 then ['\\', 'n']
  else if c.toNat = 12 then ['\\', 'f']
  else if c.toNat = 13 then ['\\', 'r']
  else if c.toNat < 32 then
    ['\\', 'u', '0', '0', hexDigit (c.toNat / 16), hexDigit (c.toNat % 16)]
  else [c]

def quote (s : String) : String :=
  "\"" ++ String.ofList (s.toList.flatMap escapeChar) ++ "\""

/-- The text of a double: positional for decimal exponents from -5 to 15, an integral value keeping
its `.0`, and scientific otherwise. What is not a number has no JSON text and is written `null`. -/
def doubleText : Binary64 → String
  | .finite negative mantissa exponent =>
    let sign := if negative then "-" else ""
    if mantissa = 0 then sign ++ "0.0"
    else
      let d := Shortest.digits mantissa exponent
      if -5 ≤ d.exponent ∧ d.exponent ≤ 15 then sign ++ Shortest.plain d true
      else sign ++ Shortest.scientific d
  | _ => "null"

mutual

def compact : Json → String
  | null => "null"
  | bool true => "true"
  | bool false => "false"
  | int i => toString i
  | double d => doubleText d
  | str s => quote s
  | arr items => "[" ++ compactItems items ++ "]"
  | obj members => "\x7b" ++ compactMembers members ++ "\x7d"

def compactItems : List Json → String
  | [] => ""
  | [v] => compact v
  | v :: w :: rest => compact v ++ "," ++ compactItems (w :: rest)

def compactMembers : List (String × Json) → String
  | [] => ""
  | [(k, v)] => quote k ++ ":" ++ compact v
  | (k, v) :: m :: rest => quote k ++ ":" ++ compact v ++ "," ++ compactMembers (m :: rest)

end

def indent (level : Nat) : String := String.ofList (List.replicate (2 * level) ' ')

mutual

def prettyAt (level : Nat) : Json → String
  | arr [] => "[]"
  | arr (v :: rest) =>
    "[\n" ++ prettyItems (level + 1) (v :: rest) ++ "\n" ++ indent level ++ "]"
  | obj [] => "\x7b\x7d"
  | obj (m :: rest) =>
    "\x7b\n" ++ prettyMembers (level + 1) (m :: rest) ++ "\n" ++ indent level ++ "\x7d"
  | null => "null"
  | bool true => "true"
  | bool false => "false"
  | int i => toString i
  | double d => doubleText d
  | str s => quote s

def prettyItems (level : Nat) : List Json → String
  | [] => ""
  | [v] => indent level ++ prettyAt level v
  | v :: w :: rest => indent level ++ prettyAt level v ++ ",\n" ++ prettyItems level (w :: rest)

def prettyMembers (level : Nat) : List (String × Json) → String
  | [] => ""
  | [(k, v)] => indent level ++ quote k ++ ": " ++ prettyAt level v
  | (k, v) :: m :: rest =>
    indent level ++ quote k ++ ": " ++ prettyAt level v ++ ",\n" ++ prettyMembers level (m :: rest)

end

/-- The text of a value, each member and item on a line of its own. -/
def pretty (value : Json) : String := prettyAt 0 value

/-- Places a member into a list of members sorted by name. -/
def insertSorted (name : String) (value : Json) : List (String × Json) → List (String × Json)
  | [] => [(name, value)]
  | (k, v) :: rest =>
    if k < name then (k, v) :: insertSorted name value rest else (name, value) :: (k, v) :: rest

mutual

/-- The value with the members of every object in the order of their names. -/
def canonical : Json → Json
  | arr items => arr (canonicalItems items)
  | obj members => obj (canonicalMembers members)
  | null => null
  | bool b => bool b
  | int i => int i
  | double d => double d
  | str s => str s

def canonicalItems : List Json → List Json
  | [] => []
  | v :: rest => canonical v :: canonicalItems rest

def canonicalMembers : List (String × Json) → List (String × Json)
  | [] => []
  | (k, v) :: rest => insertSorted k (canonical v) (canonicalMembers rest)

end

end WorkloadIdentity.Json

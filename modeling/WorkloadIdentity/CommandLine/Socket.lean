/-! Each reader takes characters off the front of a text and answers what is left. -/

namespace WorkloadIdentity.Socket

abbrev Reader := List Char → Option (List Char)

def char (c : Char) : Reader
  | d :: rest => if c = d then some rest else none
  | [] => none

/-- The value of a digit. -/
def digit? (radix : Nat) (c : Char) : Option Nat :=
  let n := c.toNat
  let v := if 48 ≤ n ∧ n ≤ 57 then some (n - 48)
    else if 97 ≤ n ∧ n ≤ 102 then some (n - 87)
    else if 65 ≤ n ∧ n ≤ 70 then some (n - 55)
    else none
  v.bind (fun v => if v < radix then some v else none)

/-- The digits at the front, and what is behind them. -/
def digits (radix : Nat) : List Char → List Nat × List Char
  | [] => ([], [])
  | c :: rest =>
    match digit? radix c with
    | none => ([], c :: rest)
    | some d => (d :: (digits radix rest).1, (digits radix rest).2)

/-- A decimal number up to a bound. -/
def number (bound : Nat) : Reader := fun cs =>
  let (ds, rest) := digits 10 cs
  if !ds.isEmpty && ds.foldl (fun n d => 10 * n + d) 0 ≤ bound then some rest else none

/-- One of the four numbers of an address: up to three digits, without leading zeros. -/
def octet : Reader := fun cs =>
  let (ds, _) := digits 10 cs
  if 3 < ds.length || (ds.head? = some 0 && ds.length ≠ 1) then none else number 255 cs

def ipv4 : Reader := fun cs => do
  let cs ← octet cs
  let cs ← char '.' cs
  let cs ← octet cs
  let cs ← char '.' cs
  let cs ← octet cs
  let cs ← char '.' cs
  octet cs

/-- A group of up to four hexadecimal digits. -/
def group : Reader := fun cs =>
  let (ds, rest) := digits 16 cs
  if ds.isEmpty || 4 < ds.length then none else some rest

/-- What groups were read. -/
structure Groups where
  count : Nat
  /-- Whether the last two were written in the other style. -/
  dotted : Bool
  rest : List Char

/-- Up to so many groups, each but the first behind a colon; two groups may be written as four
decimal numbers, which end the run. -/
def groups : Nat → Bool → List Char → Groups
  | 0, _, cs => ⟨0, false, cs⟩
  | left + 1, first, cs =>
    match if first then some cs else char ':' cs with
    | none => ⟨0, false, cs⟩
    | some body =>
      match if 1 ≤ left then ipv4 body else none with
      | some rest => ⟨2, true, rest⟩
      | none =>
        match group body with
        | none => ⟨0, false, cs⟩
        | some rest =>
          let more := groups left false rest
          { more with count := more.count + 1 }

/-- Eight groups, of which a run of zeros may be left out. -/
def ipv6 : Reader := fun cs =>
  let front := groups 8 true cs
  if front.count = 8 then some front.rest
  else if front.dotted then none
  else match front.rest with
    | ':' :: ':' :: tail => some (groups (7 - front.count) true tail).rest
    | _ => none

def port : Reader := fun cs => (char ':' cs).bind (number 65535)

/-- The number of a network interface, behind a percent sign. -/
def scope : Reader
  | '%' :: rest => number 0xffffffff rest
  | cs => some cs

def bracketed : Reader := fun cs => do
  let cs ← char '[' cs
  let cs ← ipv6 cs
  let cs ← scope cs
  char ']' cs

/-- Whether a text is a socket address. -/
def isAddress (text : String) : Bool :=
  let cs := text.toList
  ((ipv4 cs).bind port).or ((bracketed cs).bind port) = some []

end WorkloadIdentity.Socket

import WorkloadIdentity.Json.Parser
import WorkloadIdentity.Yaml.Cursor

namespace WorkloadIdentity.Yaml

inductive Token where
  | directive
  | documentStart
  | documentEnd
  | blockSequenceStart
  | blockMappingStart
  | blockEnd
  | flowSequenceStart
  | flowSequenceEnd
  | flowMappingStart
  | flowMappingEnd
  | blockEntry
  | flowEntry
  | key
  | value
  | anchor (name : String)
  | reference (name : String)
  | tag (handle suffix : String)
  /-- A scalar; only a plain one may stand for something else than a text. -/
  | scalar (isPlain : Bool) (text : String)
  | streamEnd
deriving DecidableEq, Repr, Inhabited

/-- What stands between two words of a scalar: its blanks, or, if there are breaks, a blank for one
of them and the others as they are. -/
def joint (blanks : List Char) (breaks : Nat) : List Char :=
  match breaks with
  | 0 => blanks
  | 1 => [' ']
  | n + 1 => List.replicate n '\n'

/-- Passes blanks and breaks; counts the breaks and collects the blanks in front of the first one.
A tab in the indentation is refused below a given column. -/
def passGap (fuel : Nat) (tabsFrom : Int) (c : Cursor) (blanks : List Char) (breaks : Nat) :
    Option (Cursor × List Char × Nat) :=
  match fuel with
  | 0 => some (c, blanks, breaks)
  | fuel + 1 =>
    if isTabOrSpace c.head then
      if breaks = 0 then passGap fuel tabsFrom c.skip (blanks ++ [c.head]) 0
      else if c.head = '\t' && (c.col : Int) < tabsFrom then none
      else passGap fuel tabsFrom c.skip blanks breaks
    else if isLineEnd c.head then passGap fuel tabsFrom c.skipBreak [] (breaks + 1)
    else some (c, blanks, breaks)

/-- Whether a plain scalar ends at a character. -/
def endsPlain (inFlow : Bool) (c : Cursor) : Bool :=
  (c.head = ':' && (isGap (c.peek 1) || (inFlow && isFlowChar (c.peek 1)))) ||
    (inFlow && isFlowChar c.head)

/-- Reads a plain scalar whose later lines have to be indented to a column. The flag of the result
tells whether it ended behind a break. -/
def readPlain (fuel : Nat) (inFlow : Bool) (indent : Int) (c : Cursor) (wordStart : Bool)
    (done : List Char) (blanks : List Char) (breaks : Nat) :
    Option (String × Bool × Cursor) :=
  let result := some (String.ofList done.reverse, decide (breaks ≠ 0), c)
  match fuel with
  | 0 => result
  | fuel + 1 =>
    if wordStart && (c.atDocumentMarker || c.head = '#') then result
    else if c.atEnd then result
    else if isGap c.head then
      match passGap c.rest.length indent c blanks breaks with
      | none => none
      | some (c, blanks, breaks) =>
        if !inFlow && (c.col : Int) < indent then
          some (String.ofList done.reverse, decide (breaks ≠ 0), c)
        else readPlain fuel inFlow indent c true done blanks breaks
    else if endsPlain inFlow c then result
    else
      readPlain fuel inFlow indent c.skip false (c.head :: ((joint blanks breaks).reverse ++ done))
        [] 0

/-- The character that one letter behind a backslash stands for. -/
def escaped? (c : Char) : Option Char :=
  match c with
  | '0' => some (Char.ofNat 0)
  | 'a' => some (Char.ofNat 7)
  | 'b' => some (Char.ofNat 8)
  | 't' => some '\t'
  | '\t' => some '\t'
  | 'n' => some '\n'
  | 'v' => some (Char.ofNat 11)
  | 'f' => some (Char.ofNat 12)
  | 'r' => some '\r'
  | 'e' => some (Char.ofNat 27)
  | ' ' => some ' '
  | '"' => some '"'
  | '\'' => some '\''
  | '\\' => some '\\'
  | 'N' => some (Char.ofNat 0x85)
  | '_' => some (Char.ofNat 0xA0)
  | 'L' => some (Char.ofNat 0x2028)
  | 'P' => some (Char.ofNat 0x2029)
  | _ => none

/-- How many hexadecimal digits follow a letter behind a backslash. -/
def codeLength? (c : Char) : Option Nat :=
  match c with
  | 'x' => some 2
  | 'u' => some 4
  | 'U' => some 8
  | _ => none

/-- The character of a code in hexadecimal digits. -/
def codeChar? (digits : List Char) : Option Char := do
  let values ← digits.mapM Json.hexValue?
  let code := values.foldl (fun n d => n * 16 + d) 0
  if code.isValidChar then return Char.ofNat code else none

/-- Reads a quoted scalar from behind its first quote. -/
def readQuoted (fuel : Nat) (quote : Char) (c : Cursor) (wordStart : Bool) (done : List Char) :
    Option (String × Cursor) :=
  match fuel with
  | 0 => none
  | fuel + 1 =>
    if (wordStart && c.atDocumentMarker) || c.atEnd then none
    else if quote = '\'' && c.head = '\'' && c.peek 1 = '\'' then
      readQuoted fuel quote (c.skipMany 2) false ('\'' :: done)
    else if c.head = quote then some (String.ofList done.reverse, c.skip)
    else if isGap c.head then
      match passGap c.rest.length (-1) c [] 0 with
      | none => none
      | some (c, blanks, breaks) =>
        readQuoted fuel quote c true ((joint blanks breaks).reverse ++ done)
    else if quote = '"' && c.head = '\\' then
      if isLineEnd (c.peek 1) then
        match passGap c.rest.length (-1) c.skip [] 0 with
        | none => none
        | some (c, _, breaks) =>
          readQuoted fuel quote c true (List.replicate (breaks - 1) '\n' ++ done)
      else
        match codeLength? (c.peek 1) with
        | some length =>
          let c := c.skipMany 2
          match codeChar? ((List.range length).map c.peek) with
          | some a => readQuoted fuel quote (c.skipMany length) false (a :: done)
          | none => none
        | none =>
          match escaped? (c.peek 1) with
          | some a => readQuoted fuel quote (c.skipMany 2) false (a :: done)
          | none => none
    else readQuoted fuel quote c.skip false (c.head :: done)

/-- What is kept of the breaks at the end of a block. -/
inductive Chomp where
  | strip
  | clip
  | keep
deriving DecidableEq, Repr, Inhabited

def chomp? (c : Char) : Option Chomp :=
  if c = '+' then some .keep else if c = '-' then some .strip else none

/-- The settings of a block behind its first character: a sign and a digit in either order. -/
def blockHeader? (c : Cursor) : Option (Chomp × Nat × Cursor) :=
  let digit? (c : Cursor) : Option (Option Nat) :=
    if c.head.isDigit then if c.head = '0' then none else some (some (c.head.toNat - 48))
    else some none
  match chomp? c.head with
  | some chomp =>
    match digit? c.skip with
    | none => none
    | some none => some (chomp, 0, c.skip)
    | some (some d) => some (chomp, d, c.skipMany 2)
  | none =>
    match digit? c with
    | none => none
    | some none => some (.clip, 0, c)
    | some (some d) =>
      match chomp? c.skip.head with
      | some chomp => some (chomp, d, c.skipMany 2)
      | none => some (.clip, d, c.skip)

/-- Passes the breaks between two lines of a block, and finds its indentation out if it is not
known; `deepest` is the longest indentation that was seen. -/
def blockBreaks (fuel : Nat) (minimum : Nat) (indent : Nat) (c : Cursor) (breaks deepest : Nat) :
    Option (Nat × Nat × Cursor) :=
  match fuel with
  | 0 => none
  | fuel + 1 =>
    let inside (c : Cursor) : Bool := indent = 0 || c.col < indent
    let spaces := (c.rest.takeWhile (· = ' ')).length
    let c := c.skipMany (if indent = 0 then spaces else min spaces (indent - c.col))
    let deepest := max deepest c.col
    if inside c && c.head = '\t' then none
    else if isLineEnd c.head then blockBreaks fuel minimum indent c.skipBreak (breaks + 1) deepest
    else some (breaks, if indent = 0 then max deepest (max minimum 1) else indent, c)

/-- Reads the lines of a block. `pending` tells whether the last line ended with a break, `breaks`
counts the empty lines behind it, and `wasIndented` tells whether it started with a blank. -/
def blockLines (fuel : Nat) (isLiteral : Bool) (indent : Nat) (c : Cursor) (done : List Char)
    (pending : Bool) (breaks : Nat) (wasIndented : Bool) :
    Option (List Char × Bool × Nat × Cursor) :=
  match fuel with
  | 0 => none
  | fuel + 1 =>
    if c.col ≠ indent || c.atEnd then some (done, pending, breaks, c)
    else
      let indented := isTabOrSpace c.head
      let folds := !isLiteral && pending && !wasIndented && !indented
      let first : List Char :=
        if folds then (if breaks = 0 then [' '] else []) else if pending then ['\n'] else []
      let (line, next) := c.takeRun (fun a => !isLineEndOrEnd a)
      let done := line.reverse ++ List.replicate breaks '\n' ++ first ++ done
      if next.atEnd then some (done, false, 0, next)
      else
        match blockBreaks next.rest.length.succ 1 indent next.skipBreak 0 0 with
        | none => none
        | some (breaks, _, c) => blockLines fuel isLiteral indent c done true breaks indented

/-- Reads a block from behind its first character; `parent` is the indentation around it. -/
def readBlock (isLiteral : Bool) (parent : Int) (c : Cursor) : Option (String × Cursor) := do
  let (chomp, digit, c) ← blockHeader? c
  let c ← c.restOfLine?
  let known := if digit = 0 then 0 else if 0 ≤ parent then parent.toNat + digit else digit
  let fuel := c.rest.length.succ
  let (breaks, indent, c) ← blockBreaks fuel (parent + 1).toNat known c 0 0
  let (done, pending, breaks, c) ← blockLines fuel isLiteral indent c [] false breaks false
  let kept : List Char := match chomp with
    | .strip => []
    | .clip => if pending then ['\n'] else []
    | .keep => (if pending then ['\n'] else []) ++ List.replicate breaks '\n'
  return (String.ofList (done.reverse ++ kept), c)

end WorkloadIdentity.Yaml

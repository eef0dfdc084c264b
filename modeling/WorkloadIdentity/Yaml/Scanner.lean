import WorkloadIdentity.Yaml.Token

/-! Indentation becomes explicit: a column further right than the last one opens a block, and a
column further left closes the blocks beyond it. Whether a scalar is a key shows only at the colon
behind it, so the scanner remembers where the last candidate stood and inserts the tokens there. -/

namespace WorkloadIdentity.Yaml

/-- A place at which a key may have started. -/
structure Candidate where
  isPossible : Bool := false
  /-- Nothing but a key may stand there. -/
  isRequired : Bool := false
  /-- How many tokens come before it. -/
  position : Nat := 0
  index : Nat := 0
  line : Nat := 0
  col : Nat := 0
deriving Repr, Inhabited

structure Scan where
  cursor : Cursor
  tokens : Array Token := #[]
  /-- The candidates of the open flow collections, innermost first, and of the block around. -/
  candidates : List Candidate := [{}]
  keyAllowed : Bool := true
  /-- The indentation of the innermost block; -1 outside all blocks. -/
  indent : Int := -1
  indents : List Int := []
  flowLevel : Nat := 0
  /-- A colon may follow a quoted scalar in a flow collection without a blank behind it. -/
  adjacentAt : Nat := 0
deriving Inhabited

namespace Scan

def push (s : Scan) (t : Token) : Scan := { s with tokens := s.tokens.push t }

def moved (s : Scan) (c : Cursor) : Scan := { s with cursor := c }

def inFlow (s : Scan) : Bool := s.flowLevel ≠ 0

/-- Puts a token at a place among those that are there already. -/
def insertAt (s : Scan) (position : Nat) (t : Token) : Scan :=
  { s with tokens := s.tokens.insertIdxIfInBounds position t }

/-- Opens a block if the column is further right than the blocks around it. -/
def openBlock (s : Scan) (col : Nat) (position : Nat) (t : Token) : Scan :=
  if !s.inFlow && s.indent < col then
    { s.insertAt position t with indents := s.indent :: s.indents, indent := col }
  else s

/-- Closes the blocks that are indented further than a column. -/
def closeBlocks (fuel : Nat) (s : Scan) (col : Int) : Scan :=
  match fuel with
  | 0 => s
  | fuel + 1 =>
    if !s.inFlow && col < s.indent then
      match s.indents with
      | outer :: rest =>
        closeBlocks fuel { s.push .blockEnd with indent := outer, indents := rest } col
      | [] => s
    else s

def unwind (s : Scan) (col : Int) : Scan := closeBlocks s.indents.length.succ s col

/-- Gives the innermost candidate up; a required one cannot be. -/
def dropCandidate? (s : Scan) : Option Scan :=
  match s.candidates with
  | [] => some s
  | k :: rest =>
    if k.isPossible && k.isRequired then none
    else some { s with candidates := { k with isPossible := false } :: rest }

/-- Remembers this place as one at which a key may start. -/
def saveCandidate? (s : Scan) : Option Scan :=
  if !s.keyAllowed then some s
  else
    s.dropCandidate?.map fun s =>
      let k : Candidate := {
        isPossible := true
        isRequired := s.inFlow && s.indent = s.cursor.col
        position := s.tokens.size
        index := s.cursor.index
        line := s.cursor.line
        col := s.cursor.col }
      { s with candidates := k :: s.candidates.drop 1 }

/-- A key fits on one line and into 1024 characters. -/
def isStale (c : Cursor) (k : Candidate) : Bool :=
  k.isPossible && (k.line < c.line || k.index + 1024 < c.index)

def dropStale? (s : Scan) : Option Scan :=
  if s.candidates.any (fun k => isStale s.cursor k && k.isRequired) then none
  else
    some { s with
      candidates := s.candidates.map
        (fun k => if isStale s.cursor k then { k with isPossible := false } else k) }

/-- Passes blanks, comments and breaks. -/
def passBlanks (fuel : Nat) (s : Scan) : Scan :=
  match fuel with
  | 0 => s
  | fuel + 1 =>
    let c := s.cursor
    if c.head = ' ' || (c.head = '\t' && (s.inFlow || !s.keyAllowed)) then
      passBlanks fuel (s.moved c.skip)
    else if isLineEnd c.head then
      passBlanks fuel { s with cursor := c.skipBreak, keyAllowed := s.keyAllowed || !s.inFlow }
    else if c.head = '#' then passBlanks fuel (s.moved c.skipComment)
    else s

def versionNumber? (c : Cursor) : Option Cursor :=
  let (digits, c) := c.takeRun Char.isDigit
  if digits.isEmpty || 9 < digits.length then none else some c

/-- The handle of a tag: a name between exclamation marks, of which the last may be missing. -/
def tagHandle? (c : Cursor) : Option (String × Cursor) :=
  if c.head ≠ '!' then none
  else
    let (name, c) := c.skip.takeRun isNameChar
    if c.head = '!' then some (String.ofList (['!'] ++ name ++ ['!']), c.skip)
    else some (String.ofList ('!' :: name), c)

/-- The bytes that start with a percent sign; they are not decoded. -/
def tagUri (c : Cursor) : String × Cursor :=
  let (run, c) := c.takeRun isUriChar
  (String.ofList run, c)

def directiveValue? (name : String) (c : Cursor) : Option Cursor := do
  if name = "YAML" then
    let c ← versionNumber? (c.skipRun isTabOrSpace)
    if c.head ≠ '.' then none
    versionNumber? c.skip
  else if name = "TAG" then
    let (handle, c) ← tagHandle? (c.skipRun isTabOrSpace)
    if !(handle.endsWith "!") then none
    let (uri, c) := tagUri (c.skipRun isTabOrSpace)
    if uri.isEmpty || !isGap c.head then none
    return c
  else
    return c.skipRun (fun a => !isLineEndOrEnd a)

def directive? (s : Scan) : Option Scan := do
  let s ← (s.unwind (-1)).dropCandidate?
  let (name, c) := s.cursor.skip.takeRun isNameChar
  if name.isEmpty || !isGap c.head then none
  let c ← directiveValue? (String.ofList name) c
  let c ← c.restOfLine?
  return ({ s with keyAllowed := false }.moved c).push .directive

def documentMarker? (s : Scan) (t : Token) : Option Scan := do
  let s ← (s.unwind (-1)).dropCandidate?
  return ({ s with keyAllowed := false }.moved (s.cursor.skipMany 3)).push t

def openFlow? (s : Scan) (t : Token) : Option Scan := do
  let s ← s.saveCandidate?
  if 255 ≤ s.flowLevel then none
  return ({ s with flowLevel := s.flowLevel + 1, candidates := {} :: s.candidates,
                   keyAllowed := true }.moved s.cursor.skip).push t

def closeFlow? (s : Scan) (t : Token) : Option Scan := do
  let s ← s.dropCandidate?
  let s := if s.inFlow then
      { s with flowLevel := s.flowLevel - 1, candidates := s.candidates.drop 1 }
    else s
  return ({ s with keyAllowed := false }.moved s.cursor.skip).push t

def flowEntry? (s : Scan) : Option Scan := do
  let s ← s.dropCandidate?
  return ({ s with keyAllowed := true }.moved s.cursor.skip).push .flowEntry

def blockEntry? (s : Scan) : Option Scan := do
  if s.inFlow || !s.keyAllowed then none
  let s ← (s.openBlock s.cursor.col s.tokens.size .blockSequenceStart).dropCandidate?
  return ({ s with keyAllowed := true }.moved s.cursor.skip).push .blockEntry

def key? (s : Scan) : Option Scan := do
  if !s.inFlow && !s.keyAllowed then none
  let s ← (s.openBlock s.cursor.col s.tokens.size .blockMappingStart).dropCandidate?
  return ({ s with keyAllowed := !s.inFlow }.moved s.cursor.skip).push .key

/-- The colon behind a key: what stood at the candidate's place becomes the key. -/
def value? (s : Scan) : Option Scan :=
  let candidate := s.candidates.headD {}
  if candidate.isPossible then
    let s := s.insertAt candidate.position .key
    let s := s.openBlock candidate.col candidate.position .blockMappingStart
    let candidates := { candidate with isPossible := false } :: s.candidates.drop 1
    some (({ s with candidates, keyAllowed := false }.moved s.cursor.skip).push .value)
  else if !s.inFlow && !s.keyAllowed then none
  else
    let s := s.openBlock s.cursor.col s.tokens.size .blockMappingStart
    some (({ s with keyAllowed := !s.inFlow }.moved s.cursor.skip).push .value)

/-- The characters that may stand right behind the name of an anchor. -/
def endsAnchor (c : Char) : Bool :=
  isGap c || ['?', ':', ',', ']', '}', '%', '@', '\x60'].contains c

def anchor? (s : Scan) (make : String → Token) : Option Scan := do
  let s ← s.saveCandidate?
  let (name, c) := s.cursor.skip.takeRun isNameChar
  if name.isEmpty || !endsAnchor c.head then none
  return ({ s with keyAllowed := false }.moved c).push (make (String.ofList name))

/-- A tag in one of its forms, with its handle and the rest of it. -/
def readTag (c : Cursor) : Option (Token × Cursor) := do
  if c.peek 1 = '<' then
    let (uri, c) := tagUri (c.skipMany 2)
    if uri.isEmpty || c.head ≠ '>' then none
    return (.tag "" uri, c.skip)
  else
    let (handle, c) ← tagHandle? c
    let (uri, c) := tagUri c
    if handle.length ≥ 2 && handle.endsWith "!" then
      if uri.isEmpty then none
      return (.tag handle uri, c)
    else
      let suffix := (handle.drop 1).toString ++ uri
      return (if suffix.isEmpty then .tag "" "!" else .tag "!" suffix, c)

def tag? (s : Scan) : Option Scan := do
  let s ← s.saveCandidate?
  let (t, c) ← readTag s.cursor
  if !isGap c.head then none
  return ({ s with keyAllowed := false }.moved c).push t

def block? (s : Scan) (isLiteral : Bool) : Option Scan := do
  let s ← s.saveCandidate?
  let (text, c) ← readBlock isLiteral s.indent s.cursor.skip
  return ({ s with keyAllowed := true }.moved c).push (.scalar false text)

def quoted? (s : Scan) (quote : Char) : Option Scan := do
  let s ← s.saveCandidate?
  let c := s.cursor.skip
  let (text, c) ← readQuoted c.rest.length.succ quote c true []
  return ({ s with keyAllowed := false, adjacentAt := c.index }.moved c).push (.scalar false text)

def plain? (s : Scan) : Option Scan := do
  let s ← s.saveCandidate?
  let c := s.cursor
  let (text, afterBreak, c) ←
    readPlain (2 * c.rest.length).succ s.inFlow (s.indent + 1) c true [] [] 0
  return ({ s with keyAllowed := afterBreak }.moved c).push (.scalar true text)

/-- Whether the colon here stands behind a key. -/
def atValue (s : Scan) : Bool :=
  let c := s.cursor
  isGap (c.peek 1) || (s.inFlow && (isFlowChar (c.peek 1) || c.index = s.adjacentAt))

/-- The next token, from its first character. -/
def token? (s : Scan) : Option Scan :=
  let c := s.cursor
  if c.col = 0 && c.head = '%' then s.directive?
  else if c.atMarker '-' then s.documentMarker? .documentStart
  else if c.atMarker '.' then s.documentMarker? .documentEnd
  else
    match c.head with
    | '[' => s.openFlow? .flowSequenceStart
    | '{' => s.openFlow? .flowMappingStart
    | ']' => s.closeFlow? .flowSequenceEnd
    | '}' => s.closeFlow? .flowMappingEnd
    | ',' => s.flowEntry?
    | '-' => if isGap (c.peek 1) then s.blockEntry? else s.plain?
    | '?' =>
      if isGap (c.peek 1) then s.key? else s.plain?
    | ':' => if s.atValue then s.value? else s.plain?
    | '*' => s.anchor? .reference
    | '&' => s.anchor? .anchor
    | '!' => s.tag?
    | '|' => if s.inFlow then s.plain? else s.block? true
    | '>' => if s.inFlow then s.plain? else s.block? false
    | '\'' => s.quoted? '\''
    | '"' => s.quoted? '"'
    | '%' => none
    | '@' => none
    | '\x60' => none
    | _ => s.plain?

/-- The end of the text closes all blocks. -/
def finish? (s : Scan) : Option Scan := do
  let s ← (s.unwind (-1)).dropCandidate?
  return s.push .streamEnd

/-- Reads tokens up to the end of the text. -/
def run (fuel : Nat) (s : Scan) : Option Scan :=
  match fuel with
  | 0 => none
  | fuel + 1 =>
    let s := passBlanks s.cursor.rest.length.succ s
    match s.dropStale? with
    | none => none
    | some s =>
      let s := s.unwind s.cursor.col
      if s.cursor.atEnd then s.finish?
      else
        match s.token? with
        | none => none
        | some s => run fuel s

end Scan

/-- The tokens of a text, `none` if it is no YAML. -/
def tokens? (text : String) : Option (List Token) :=
  let c := Cursor.start text
  (Scan.run c.rest.length.succ { cursor := c }).map (·.tokens.toList)

end WorkloadIdentity.Yaml

/-! Behind the end of the text stands a NUL character, and a NUL inside the text ends it. -/

namespace WorkloadIdentity.Yaml

structure Cursor where
  rest : List Char
  index : Nat := 0
  line : Nat := 0
  col : Nat := 0
deriving Repr, Inhabited

namespace Cursor

def endMark : Char := Char.ofNat 0

def start (text : String) : Cursor := { rest := text.toList.takeWhile (· ≠ endMark) }

/-- The character some places ahead. -/
def peek (c : Cursor) (ahead : Nat) : Char := c.rest.getD ahead endMark

def head (c : Cursor) : Char := c.peek 0

def atEnd (c : Cursor) : Bool := c.rest.isEmpty

/-- One character further. -/
def skip (c : Cursor) : Cursor :=
  match c.rest with
  | [] => { c with index := c.index + 1, col := c.col + 1 }
  | a :: rest =>
    if a = '\n' then { rest, index := c.index + 1, line := c.line + 1, col := 0 }
    else { c with rest, index := c.index + 1, col := c.col + 1 }

def skipMany (c : Cursor) : Nat → Cursor
  | 0 => c
  | n + 1 => c.skip.skipMany n

/-- Behind a break; a carriage return and a line feed are one break. -/
def skipBreak (c : Cursor) : Cursor :=
  if c.head = '\r' && c.peek 1 = '\n' then c.skipMany 2 else c.skip

/-- The longest run of characters of a kind, and the place behind it. -/
def takeRun (p : Char → Bool) (c : Cursor) : List Char × Cursor :=
  let run := c.rest.takeWhile p
  (run, c.skipMany run.length)

def skipRun (p : Char → Bool) (c : Cursor) : Cursor := (c.takeRun p).2

end Cursor

def isLineEnd (c : Char) : Bool := c = '\n' || c = '\r'

def isLineEndOrEnd (c : Char) : Bool := isLineEnd c || c = Cursor.endMark

def isTabOrSpace (c : Char) : Bool := c = ' ' || c = '\t'

/-- Whether a character ends a word. -/
def isGap (c : Char) : Bool := isTabOrSpace c || isLineEndOrEnd c

def isNameChar (c : Char) : Bool :=
  c.isAlphanum || c = '_' || c = '-'

def isFlowChar (c : Char) : Bool := c = ',' || c = '[' || c = ']' || c = '{' || c = '}'

def isUriChar (c : Char) : Bool :=
  isNameChar c ||
    [';', '/', '?', ':', '@', '&', '=', '+', '$', ',', '.', '!', '~', '*', '\'', '(', ')', '[',
      ']', '%'].contains c

namespace Cursor

/-- Whether three given characters stand here as a word of their own at the start of a line. -/
def atMarker (c : Cursor) (mark : Char) : Bool :=
  c.col = 0 && c.head = mark && c.peek 1 = mark && c.peek 2 = mark && isGap (c.peek 3)

/-- Whether a document starts or ends here. -/
def atDocumentMarker (c : Cursor) : Bool := c.atMarker '-' || c.atMarker '.'

def skipComment (c : Cursor) : Cursor :=
  if c.head = '#' then c.skipRun (fun a => !isLineEndOrEnd a) else c

/-- The break behind blanks and a comment, or the end of the text. -/
def restOfLine? (c : Cursor) : Option Cursor :=
  let c := (c.skipRun isTabOrSpace).skipComment
  if !isLineEndOrEnd c.head then none
  else if c.atEnd then some c
  else some c.skipBreak

end Cursor

end WorkloadIdentity.Yaml

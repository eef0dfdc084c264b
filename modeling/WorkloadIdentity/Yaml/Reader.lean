import WorkloadIdentity.Number.Literal
import WorkloadIdentity.Yaml.Scanner

namespace WorkloadIdentity.Yaml

inductive Node where
  | scalar (v : Json)
  /-- A number that has no value, such as an infinite one. -/
  | noNumber
  | seq (items : List Node)
  | map (members : List (Node × Node))
deriving Inhabited

def intText? (digits : List Char) (base : Nat) : Option Int :=
  let magnitude? (cs : List Char) : Option Nat :=
    if cs.isEmpty then none
    else cs.foldl (fun n? c => do
      let n ← n?
      let d ← Json.hexValue? c
      if d < base then return n * base + d else none) (some 0)
  let value? : Option Int := match digits with
    | '-' :: cs => (magnitude? cs).map (fun n => -(n : Int))
    | '+' :: cs => (magnitude? cs).map (fun n => (n : Int))
    | cs => (magnitude? cs).map (fun n => (n : Int))
  value?.filter (fun i => -0x8000000000000000 ≤ i && i < 0x8000000000000000)

/-- The integer of a plain scalar: decimal, or with a base of 16 or 8 in front. -/
def plainInt? (text : String) : Option Int :=
  match text.toList with
  | '0' :: 'x' :: cs => intText? cs 16
  | '0' :: 'o' :: cs => intText? cs 8
  | '+' :: cs => intText? cs 10
  | cs => intText? cs 10

def numberWords : List String :=
  [".inf", ".Inf", ".INF", "+.inf", "+.Inf", "+.INF", "-.inf", "-.Inf", "-.INF", ".nan", ".NAN"]

/-- What a plain scalar stands for. -/
def plainNode (text : String) : Node :=
  match plainInt? text with
  | some i => .scalar (.int i)
  | none =>
    if text = "~" || text = "null" then .scalar .null
    else if text = "true" then .scalar (.bool true)
    else if text = "false" then .scalar (.bool false)
    else if text ∈ numberWords then .noNumber
    else
      match Binary64.ofText? text with
      | some d => .scalar (.double d)
      | none => .scalar (.str text)

/-- What a plain scalar stands for under one of the common tags. -/
def taggedNode (suffix text : String) : Node :=
  match suffix with
  | "bool" =>
    .scalar (if text = "true" then .bool true else if text = "false" then .bool false else .null)
  | "int" => .scalar (((intText? text.toList 10).map Json.int).getD .null)
  | "float" =>
    if text ∈ numberWords then .noNumber
    else .scalar (((Binary64.ofText? text).map Json.double).getD .null)
  | "null" => .scalar .null
  | _ => .scalar (.str text)

/-- The node of a scalar with the tag that stands in front of it. -/
def scalarNode (isPlain : Bool) (text : String) (tag : Option (String × String)) : Node :=
  if !isPlain then .scalar (.str text)
  else
    match tag with
    | none => plainNode text
    | some ("!!", suffix) => taggedNode suffix text
    | some _ => .scalar (.str text)

structure Reading where
  rest : List Token
  /-- The number that each anchor's name stands for, the latest one first. -/
  names : List (String × Nat) := []
  /-- The nodes of the anchors that have been read. -/
  anchored : List (Nat × Node) := []
  nextNumber : Nat := 1

abbrev Reader := StateT Reading Option

namespace Reader

def peek : Reader Token := do return ((← get).rest.head?).getD .streamEnd

def skip : Reader Unit := modify fun r => { r with rest := r.rest.drop 1 }

/-- Passes a token if it is the given one. -/
def accept (t : Token) : Reader Bool := do
  if (← peek) = t then skip; return true else return false

def expect (t : Token) : Reader Unit := do
  if !(← accept t) then failure

/-- Gives a name to the next node. -/
def name (anchor : String) : Reader Nat := do
  let r ← get
  set { r with names := (anchor, r.nextNumber) :: r.names, nextNumber := r.nextNumber + 1 }
  return r.nextNumber

/-- The anchor and the tag in front of a node, in either order. -/
def properties : Reader (Option Nat × Option (String × String)) := do
  match ← peek with
  | .anchor a =>
    skip
    let number ← name a
    match ← peek with
    | .tag handle suffix => skip; return (some number, some (handle, suffix))
    | _ => return (some number, none)
  | .tag handle suffix =>
    skip
    match ← peek with
    | .anchor a =>
      skip
      let number ← name a
      return (some number, some (handle, suffix))
    | _ => return (none, some (handle, suffix))
  | _ => return (none, none)

/-- The node that a name refers to; inside itself it is nothing. -/
def referred (anchor : String) : Reader Node := do
  let r ← get
  match List.lookup anchor r.names with
  | none => failure
  | some number => return (List.lookup number r.anchored).getD (.scalar .null)

def remember (number : Option Nat) (node : Node) : Reader Node := do
  match number with
  | some n => modify fun r => { r with anchored := (n, node) :: r.anchored }
  | none => pure ()
  return node

def nothing : Node := .scalar .null

mutual

/-- A node; blocks are allowed only outside flow collections, and a sequence without indentation
only as the value of a member. -/
def node (fuel : Nat) (inBlock indentless : Bool) : Reader Node := do
  match fuel with
  | 0 => failure
  | fuel + 1 =>
    match ← peek with
    | .reference a => skip; referred a
    | _ =>
      let (number, tag) ← properties
      match ← peek with
      | .blockEntry =>
        if indentless then remember number (.seq (← indentlessItems fuel))
        else bare number tag
      | .scalar isPlain text => skip; remember number (scalarNode isPlain text tag)
      | .flowSequenceStart => skip; remember number (.seq (← flowItems fuel true))
      | .flowMappingStart => skip; remember number (.map (← flowMembers fuel true))
      | .blockSequenceStart =>
        if inBlock then skip; remember number (.seq (← blockItems fuel)) else bare number tag
      | .blockMappingStart =>
        if inBlock then skip; remember number (.map (← blockMembers fuel)) else bare number tag
      | _ => bare number tag

/-- An anchor or a tag without a node stands for an empty text. -/
def bare (number : Option Nat) (tag : Option (String × String)) : Reader Node := do
  if number.isNone && tag.isNone then failure
  else remember number (match tag with
    | some t => scalarNode true "" (some t)
    | none => .scalar (.str ""))

def indentlessItems (fuel : Nat) : Reader (List Node) := do
  match fuel with
  | 0 => failure
  | fuel + 1 =>
    if !(← accept .blockEntry) then return []
    let item ← match ← peek with
      | .blockEntry | .key | .value | .blockEnd => pure nothing
      | _ => node fuel true false
    return item :: (← indentlessItems fuel)

def blockItems (fuel : Nat) : Reader (List Node) := do
  match fuel with
  | 0 => failure
  | fuel + 1 =>
    if ← accept .blockEnd then return []
    expect .blockEntry
    let item ← match ← peek with
      | .blockEntry | .blockEnd => pure nothing
      | _ => node fuel true false
    return item :: (← blockItems fuel)

def blockMembers (fuel : Nat) : Reader (List (Node × Node)) := do
  match fuel with
  | 0 => failure
  | fuel + 1 =>
    if ← accept .blockEnd then return []
    let key ← match ← peek with
      | .key =>
        skip
        match ← peek with
        | .key | .value | .blockEnd => pure nothing
        | _ => node fuel true true
      | .value => pure nothing
      | _ => failure
    let value ← blockValue fuel
    return (key, value) :: (← blockMembers fuel)

def blockValue (fuel : Nat) : Reader Node := do
  match fuel with
  | 0 => failure
  | fuel + 1 =>
    if !(← accept .value) then return nothing
    match ← peek with
    | .key | .value | .blockEnd => return nothing
    | _ => node fuel true true

def flowMembers (fuel : Nat) (first : Bool) : Reader (List (Node × Node)) := do
  match fuel with
  | 0 => failure
  | fuel + 1 =>
    if ← accept .flowMappingEnd then return []
    if !first then expect .flowEntry
    match ← peek with
    | .flowMappingEnd => skip; return []
    | .key =>
      skip
      let key ← match ← peek with
        | .value | .flowEntry | .flowMappingEnd => pure nothing
        | _ => node fuel false false
      let value ← flowValue fuel
      return (key, value) :: (← flowMembers fuel false)
    | .value =>
      let value ← flowValue fuel
      return (nothing, value) :: (← flowMembers fuel false)
    | _ =>
      let key ← node fuel false false
      return (key, nothing) :: (← flowMembers fuel false)

def flowValue (fuel : Nat) : Reader Node := do
  match fuel with
  | 0 => failure
  | fuel + 1 =>
    if !(← accept .value) then return nothing
    match ← peek with
    | .flowEntry | .flowMappingEnd => return nothing
    | _ => node fuel false false

def flowItems (fuel : Nat) (first : Bool) : Reader (List Node) := do
  match fuel with
  | 0 => failure
  | fuel + 1 =>
    if ← accept .flowSequenceEnd then return []
    if !first then expect .flowEntry
    match ← peek with
    | .flowSequenceEnd => skip; return []
    | .key =>
      skip
      let member ← flowPair fuel
      return .map [member] :: (← flowItems fuel false)
    | _ =>
      let item ← node fuel false false
      return item :: (← flowItems fuel false)

/-- A single member as an item of a sequence. -/
def flowPair (fuel : Nat) : Reader (Node × Node) := do
  match fuel with
  | 0 => failure
  | fuel + 1 =>
    let key ← match ← peek with
      | .value | .flowEntry | .flowSequenceEnd => skip; pure nothing
      | _ => node fuel false false
    if !(← accept .value) then return (key, nothing)
    match ← peek with
    | .flowEntry | .flowSequenceEnd => return (key, nothing)
    | _ => return (key, ← node fuel false false)

end

def passDirectives (fuel : Nat) : Reader Unit := do
  match fuel with
  | 0 => pure ()
  | fuel + 1 => if ← accept .directive then passDirectives fuel

def passDocumentEnds (fuel : Nat) : Reader Unit := do
  match fuel with
  | 0 => pure ()
  | fuel + 1 => if ← accept .documentEnd then passDocumentEnds fuel

/-- The node of a document that starts with a marker. -/
def explicitDocument (fuel : Nat) : Reader Node := do
  passDirectives fuel
  expect .documentStart
  match ← peek with
  | .directive | .documentStart | .documentEnd | .streamEnd => return nothing
  | _ => node fuel true false

/-- All documents up to the end; only the first one may do without a marker. -/
def documents (fuel : Nat) (first : Bool) : Reader (List Node) := do
  match fuel with
  | 0 => failure
  | fuel + 1 =>
    if !first then passDocumentEnds fuel
    modify fun r => { r with names := [] }
    let document ← match ← peek with
      | .streamEnd => return []
      | .directive | .documentStart => explicitDocument fuel
      | _ => if first then node fuel true false else failure
    let _ ← accept .documentEnd
    return document :: (← documents fuel false)

end Reader

mutual

/-- The value of a node, `none` if a number in it has no value. -/
def Node.toJson? : Node → Option Json
  | .scalar v => some v
  | .noNumber => none
  | .seq items => (itemsToJson? items).map .arr
  | .map members => (membersToJson? members).map Json.ofMembers

def itemsToJson? : List Node → Option (List Json)
  | [] => some []
  | n :: rest =>
    match n.toJson?, itemsToJson? rest with
    | some v, some vs => some (v :: vs)
    | _, _ => none

/-- The members whose key is a text. -/
def membersToJson? : List (Node × Node) → Option (List (String × Json))
  | [] => some []
  | (key, n) :: rest =>
    match key with
    | .scalar (.str name) =>
      match n.toJson?, membersToJson? rest with
      | some v, some vs => some ((name, v) :: vs)
      | _, _ => none
    | _ => membersToJson? rest

end

/-- The documents of a text, `none` if it is no YAML. -/
def documents? (text : String) : Option (List Node) := do
  let tokens ← tokens? text
  let (nodes, _) ← (Reader.documents (2 * tokens.length + 4) true).run { rest := tokens }
  return nodes

end WorkloadIdentity.Yaml

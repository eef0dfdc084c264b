import WorkloadIdentity.Json.Basic

/-! Settings come from several sources, one laid over the other. Each source gives values for names;
a name may lead into a table or a list, such as `images.spire_agent` or `hosts[0]`. -/

namespace WorkloadIdentity.Layer

inductive Step where
  | field (name : String)
  | item (index : Int)
deriving DecidableEq, Repr

def isNameChar (c : Char) : Bool := c.isAlphanum || c = ' ' || c = '_' || c = '-'

def isIndexBlank (c : Char) : Bool := c = ' ' || c = '\t' || c = '\r' || c = '\n'

/-- An index with the text behind its closing bracket. -/
def index? (cs : List Char) : Option (Int × List Char) :=
  let cs := cs.dropWhile isIndexBlank
  let negative := cs.head? = some '-'
  let cs := if negative then cs.drop 1 else cs
  let digits := cs.takeWhile Char.isDigit
  match (cs.dropWhile Char.isDigit).dropWhile isIndexBlank with
  | ']' :: rest =>
    (String.ofList digits).toNat?.map fun n => (if negative then -(n : Int) else n, rest)
  | _ => none

/-- The steps behind the first name. -/
def steps? (fuel : Nat) (cs : List Char) : Option (List Step) :=
  match fuel, cs with
  | _, [] => some []
  | 0, _ => none
  | fuel + 1, '.' :: rest =>
    let name := rest.takeWhile isNameChar
    if name.isEmpty then none
    else (steps? fuel (rest.drop name.length)).map (Step.field (String.ofList name) :: ·)
  | fuel + 1, '[' :: rest =>
    match index? rest with
    | some (i, rest) => (steps? fuel rest).map (Step.item i :: ·)
    | none => none
  | _, _ => none

/-- Where a name leads to. A name that is no path stands for itself. -/
def pathOf (name : String) : String × List Step :=
  let cs := name.toList
  let first := cs.takeWhile isNameChar
  match steps? cs.length (cs.drop first.length) with
  | some steps => if first.isEmpty then (name, []) else (String.ofList first, steps)
  | none => (name, [])

def membersOf : Json → List (String × Json)
  | .obj members => members
  | _ => []

def itemsOf : Json → List Json
  | .arr items => items
  | _ => []

mutual

/-- Lays a value over a member of a table; tables are laid over each other member by member. What
is no table becomes one. -/
def put (name : String) (target : Json) : Json → Json
  | .obj incoming =>
    let members := membersOf target
    .obj (Json.insertMember name (putAll ((Json.lookup name members).getD (.obj [])) incoming)
      members)
  | value => .obj (Json.insertMember name value (membersOf target))

def putAll (target : Json) : List (String × Json) → Json
  | [] => target
  | (name, value) :: rest => putAll (put name target value) rest

end

/-- The place of an index in a list; a negative index counts from the end. -/
def placeOf (index : Int) (length : Nat) : Nat :=
  if 0 ≤ index then index.toNat else length - index.natAbs

/-- A list that is long enough to have a given place. -/
def stretch (items : List Json) (place : Nat) : List Json :=
  items ++ List.replicate (place + 1 - items.length) .null

/-- Lays a value over what a path leads to, making tables and lists on the way. -/
def setPath (value : Json) (target : Json) : List Step → Json
  | [] => value
  | [.field name] => put name target value
  | .field name :: rest =>
    let members := membersOf target
    .obj (Json.insertMember name
      (setPath value ((Json.lookup name members).getD .null) rest) members)
  | .item index :: rest =>
    let items := itemsOf target
    let place := placeOf index items.length
    let items := stretch items place
    .arr (items.set place (setPath value (items.getD place .null) rest))

/-- Lays the value of a name over the values so far. -/
def set (target : Json) (name : String) (value : Json) : Json :=
  let (first, steps) := pathOf name
  setPath value target (.field first :: steps)

/-- Lays the members of a source over the values so far. -/
def overlay (target : Json) (members : List (String × Json)) : Json :=
  members.foldl (fun t m => set t m.1 m.2) target

end WorkloadIdentity.Layer

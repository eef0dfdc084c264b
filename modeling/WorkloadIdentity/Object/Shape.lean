import WorkloadIdentity.Json.Reading
import WorkloadIdentity.Text.Timestamp

/-! A shape says which members an API object has and of which kind they are. Reading a value by its
shape drops unknown members and `null`s, fills in the members that are always written, and brings
points in time to one form, so that two values of one meaning become equal. -/

namespace WorkloadIdentity

inductive Shape where
  /-- Any value, kept as it is. -/
  | any
  | text
  | flag
  | int32
  | int64
  /-- A port or a share: a number or a text. -/
  | intOrText
  | time
  | base64
  /-- A text that is always the same. -/
  | constant (text : String)
  | list (item : Shape)
  | map (value : Shape)
  /-- The members with their names; the flag tells whether a member is always written. -/
  | record (members : List (String × Bool × Shape))
deriving Inhabited

namespace Shape

/-- The digits of base 64. -/
def base64Value? (c : Char) : Option Nat :=
  if 'A' ≤ c ∧ c ≤ 'Z' then some (c.toNat - 65)
  else if 'a' ≤ c ∧ c ≤ 'z' then some (c.toNat - 71)
  else if '0' ≤ c ∧ c ≤ '9' then some (c.toNat + 4)
  else if c = '+' then some 62
  else if c = '/' then some 63
  else none

/-- Whether a text is the base 64 form of some bytes: groups of four, padded with `=`, and no bits
set behind the last byte. -/
def isBase64 : List Char → Bool
  | [] => true
  | [a, b, '=', '='] => (base64Value? a).isSome && (base64Value? b).any (· % 16 = 0)
  | [a, b, c, '='] =>
    (base64Value? a).isSome && (base64Value? b).isSome && (base64Value? c).any (· % 4 = 0)
  | a :: b :: c :: d :: rest =>
    (base64Value? a).isSome && (base64Value? b).isSome && (base64Value? c).isSome &&
      (base64Value? d).isSome && isBase64 rest
  | _ => false

mutual

/-- The value of a member that is always written and was not given. -/
def zero : Shape → Json
  | any => .null
  | text => .str ""
  | flag => .bool false
  | int32 => .int 0
  | int64 => .int 0
  | intOrText => .int 0
  | time => .str (Timestamp.text 0)
  | base64 => .str ""
  | constant t => .str t
  | list _ => .arr []
  | map _ => .obj []
  | record members => .obj (zeroMembers members)

def zeroMembers : List (String × Bool × Shape) → List (String × Json)
  | [] => []
  | (name, always, shape) :: rest =>
    if always then (name, zero shape) :: zeroMembers rest else zeroMembers rest

end

/-- Reads a value that is no composite. -/
def readLeaf : Shape → Json → Option Json
  | any, v => some v
  | text, .str s => some (.str s)
  | flag, .bool b => some (.bool b)
  | int32, v => (v.int32?).map .int
  | int64, v => (v.int64?).map .int
  | intOrText, .str s => some (.str s)
  | intOrText, v => (v.int32?).map .int
  | time, .str s => (Timestamp.parse? s).map (fun t => .str (Timestamp.text t))
  | base64, .str s => if isBase64 s.toList then some (.str s) else none
  | constant t, .str s => if s = t then some (.str s) else none
  | _, _ => none

/-- Whether `null` counts as a missing member. -/
def nullMeansMissing : Shape → Bool
  | constant _ => false
  | _ => true

mutual

/-- Reads a value by its shape. -/
def read : Shape → Json → Option Json
  | list item, v =>
    match v with
    | .arr items => (items.mapM (read item)).map .arr
    | _ => none
  | map value, v =>
    match v with
    | .obj members =>
      (members.mapM (fun m => (read value m.2).map (fun w => (m.1, w)))).map
        (fun ms => .obj (StringMap.ofList ms).entries)
    | _ => none
  | record fields, v =>
    match v with
    | .obj members => (readMembers fields members).map .obj
    | _ => none
  | any, v => readLeaf any v
  | text, v => readLeaf text v
  | flag, v => readLeaf flag v
  | int32, v => readLeaf int32 v
  | int64, v => readLeaf int64 v
  | intOrText, v => readLeaf intOrText v
  | time, v => readLeaf time v
  | base64, v => readLeaf base64 v
  | constant t, v => readLeaf (constant t) v

def readMembers : List (String × Bool × Shape) → List (String × Json) →
    Option (List (String × Json))
  | [], _ => some []
  | (name, always, shape) :: rest, members =>
    match readMembers rest members with
    | none => none
    | some others =>
      match Json.lookup name members with
      | none => some (if always then (name, zero shape) :: others else others)
      | some v =>
        if v.isNull && nullMeansMissing shape then
          some (if always then (name, zero shape) :: others else others)
        else (read shape v).map (fun w => (name, w) :: others)

end

/-- A member that may be missing. -/
def may (name : String) (shape : Shape) : String × Bool × Shape := (name, false, shape)

/-- A member that is always written. -/
def must (name : String) (shape : Shape) : String × Bool × Shape := (name, true, shape)

def texts : Shape := list text

def textMap : Shape := map text

/-- A quantity of a resource, such as `500m`, is a text. -/
def quantity : Shape := text

end Shape

end WorkloadIdentity

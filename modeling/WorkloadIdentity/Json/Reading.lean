import WorkloadIdentity.Json.Basic
import WorkloadIdentity.StringMap

/-! A reader is a function `Json → Option α`; it answers `none` where the value has another shape.
Unknown members of a record are ignored. -/

namespace WorkloadIdentity

/-- The members of a record that is being read. -/
abbrev Members := List (String × Json)

namespace Json

/-- The members of a record, by name from an object or by position from an array. -/
def record? (names : List String) : Json → Option Members
  | obj members => some members
  | arr items => if items.length ≤ names.length then some (names.zip items) else none
  | _ => none

/-- The members of an object. -/
def members? : Json → Option Members
  | obj members => some members
  | _ => none

def bool? : Json → Option Bool
  | bool b => some b
  | _ => none

def int? : Json → Option Int
  | int i => some i
  | _ => none

/-- An integer between two bounds. -/
def intIn? (low high : Int) : Json → Option Int
  | int i => if low ≤ i ∧ i ≤ high then some i else none
  | _ => none

def int32? : Json → Option Int := intIn? (-0x80000000) 0x7fffffff

def int64? : Json → Option Int := intIn? (-0x8000000000000000) 0x7fffffffffffffff

def nat32? (v : Json) : Option Nat := (intIn? 0 0xffffffff v).map Int.toNat

def nat64? (v : Json) : Option Nat := (intIn? 0 0xffffffffffffffff v).map Int.toNat

def list? {α : Type} (read : Json → Option α) : Json → Option (List α)
  | arr items => items.mapM read
  | _ => none

/-- A map whose values are read one by one. -/
def map? {α : Type} (read : Json → Option α) : Json → Option (StringMap α)
  | obj members =>
    (members.mapM (fun m => (read m.2).map (fun v => (m.1, v)))).map StringMap.ofList
  | _ => none

/-- A name without further content: the name itself, or an object with that name and `null`. -/
def unitName? : Json → Option String
  | str s => some s
  | obj [(name, null)] => some name
  | _ => none

def ofMap {α : Type} (write : α → Json) (m : StringMap α) : Json :=
  obj (m.entries.map (fun e => (e.1, write e.2)))

def ofStrings (m : StringMap String) : Json := ofMap str m

end Json

namespace Members

variable {α : Type}

/-- A member that must be there. -/
def required (members : Members) (name : String) (read : Json → Option α) : Option α :=
  (Json.lookup name members).bind read

/-- A member that has the given value when it is missing. -/
def withDefault (members : Members) (name : String) (default : α) (read : Json → Option α) :
    Option α :=
  match Json.lookup name members with
  | some v => read v
  | none => some default

/-- A member that may be missing or `null`. -/
def optional (members : Members) (name : String) (read : Json → Option α) : Option (Option α) :=
  match Json.lookup name members with
  | none => some none
  | some .null => some none
  | some v => (read v).map some

end Members

end WorkloadIdentity

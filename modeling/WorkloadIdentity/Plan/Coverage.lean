import WorkloadIdentity.Json.Basic

/-! A live value covers a wanted one if it has everything that is wanted. What the server adds to it
does not count, and a member that is wanted empty may be missing. -/

namespace WorkloadIdentity.Json

def isEmptyValue : Json → Bool
  | null => true
  | arr items => items.isEmpty
  | obj members => members.isEmpty
  | _ => false

/-- A number as a double. -/
def number? : Json → Option Binary64
  | int i => some (Binary64.ofInt i)
  | double d => some d
  | _ => none

def sameNumber (a b : Json) : Bool :=
  match number? a, number? b with
  | some x, some y => x.sameValue y
  | _, _ => false

mutual

/-- Whether `existing` has everything that the first value wants. -/
def coveredBy : Json → Json → Bool
  | obj wanted, existing =>
    match existing with
    | obj members => membersCoveredBy wanted members
    | _ => false
  | arr wanted, existing =>
    match existing with
    | arr items => itemsCoveredBy wanted items
    | _ => false
  | null, _ => true
  | bool b, existing => bool b == existing
  | str s, existing => str s == existing
  | int i, existing => sameNumber (int i) existing
  | double d, existing => sameNumber (double d) existing

def membersCoveredBy : List (String × Json) → List (String × Json) → Bool
  | [], _ => true
  | (name, wanted) :: rest, members =>
    (match lookup name members with
      | some current => coveredBy wanted current
      | none => isEmptyValue wanted) && membersCoveredBy rest members

def itemsCoveredBy : List Json → List Json → Bool
  | [], [] => true
  | wanted :: rest, current :: others => coveredBy wanted current && itemsCoveredBy rest others
  | _, _ => false

end

end WorkloadIdentity.Json

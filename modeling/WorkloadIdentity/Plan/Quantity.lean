import WorkloadIdentity.Number.Literal
import WorkloadIdentity.Object.Pod
import WorkloadIdentity.Text.Blank

namespace WorkloadIdentity

namespace Quantity

/-- The units and their factors, as a number and a power of ten. -/
def units : List (String × Nat × Int) :=
  [("Ki", Nat.pow 2 10, 0), ("Mi", Nat.pow 2 20, 0), ("Gi", Nat.pow 2 30, 0),
    ("Ti", Nat.pow 2 40, 0), ("Pi", Nat.pow 2 50, 0), ("Ei", Nat.pow 2 60, 0), ("n", 1, -9),
    ("u", 1, -6), ("m", 1, -3), ("k", 1, 3), ("M", 1, 6), ("G", 1, 9), ("T", 1, 12), ("P", 1, 15),
    ("E", 1, 18)]

/-- A text without the given end. -/
def stripEnd? (ending text : String) : Option String :=
  let cs := text.toList
  let es := ending.toList
  if es.isSuffixOf cs then some (String.ofList (cs.take (cs.length - es.length))) else none

/-- The amount in the base unit. -/
def value? (quantity : String) : Option Binary64 :=
  let text := trimBlanks quantity
  let scaled := units.findSome? fun (unit, digits, power) =>
    ((stripEnd? unit text).bind Binary64.ofText?).map
      (fun n => n.mul (Binary64.ofDecimal false digits power))
  match scaled with
  | some v => some v
  | none => Binary64.ofText? text

/-- Whether two amounts agree to nine digits. -/
def close (a b : Binary64) : Bool :=
  a.sameValue b ||
    ((a.sub b).abs).le ((Binary64.ofDecimal false 1 (-9)).mul (a.abs.larger b.abs))

def same (a b : String) : Bool :=
  match value? a, value? b with
  | some x, some y => close x y
  | _, _ => a = b

/-- Whether two optional quantities are the same. -/
def sameOptional : Option String → Option String → Bool
  | none, none => true
  | some a, some b => same a b
  | _, _ => false

end Quantity

namespace Resources

def limit (r : Option Resources) (name : String) : Option String :=
  (r.bind (·.limits)).bind (·.get? name)

def request (r : Option Resources) (name : String) : Option String :=
  (r.bind (·.requests)).bind (·.get? name)

/-- A request, or the limit where none is given. -/
def completedRequest (r : Option Resources) (name : String) : Option String :=
  (request r name).or (limit r name)

/-- The names of all resources that are mentioned. -/
def names (r : Option Resources) : List String :=
  ((r.bind (·.limits)).map (·.keys)).getD [] ++ ((r.bind (·.requests)).map (·.keys)).getD []

/-- Whether one resource has another limit or request than wanted. -/
def differAt (existing desired : Option Resources) (name : String) : Bool :=
  !Quantity.sameOptional (limit existing name) (limit desired name) ||
    !Quantity.sameOptional (request existing name) (completedRequest desired name)

def differ (existing desired : Option Resources) : Bool :=
  (names existing ++ names desired).any (differAt existing desired)

end Resources

end WorkloadIdentity

import WorkloadIdentity.Json.Reading

namespace WorkloadIdentity

inductive ConditionStatus where
  | isTrue
  | isFalse
  | unknown
deriving DecidableEq, Repr, Inhabited

namespace ConditionStatus

def ofBool (b : Bool) : ConditionStatus := if b then isTrue else isFalse

def text : ConditionStatus → String
  | isTrue => "True"
  | isFalse => "False"
  | unknown => "Unknown"

def ofText? : String → Option ConditionStatus
  | "True" => some isTrue
  | "False" => some isFalse
  | "Unknown" => some unknown
  | _ => none

theorem ofText?_text (s : ConditionStatus) : ofText? s.text = some s := by cases s <;> rfl

end ConditionStatus

structure Condition where
  type : String
  status : ConditionStatus
  reason : String
  message : String
  lastTransitionTime : Option String
  observedGeneration : Option Int
deriving DecidableEq, Repr, Inhabited

namespace Condition

def ready : String := "Ready"
def degraded : String := "Degraded"
def createOnlyMode : String := "CreateOnlyMode"
def upgradeable : String := "Upgradeable"

namespace Reason

def ready : String := "Ready"
def failed : String := "Failed"
def created : String := "Created"
def updated : String := "Updated"
def upToDate : String := "UpToDate"
def createOnlySkipped : String := "CreateOnlySkipped"
def workloadNotReady : String := "WorkloadNotReady"
def retrying : String := "Retrying"
def managerNotFound : String := "ZTWIMNotFound"
def invalidSpec : String := "InvalidSpec"
def createOnlyEnabled : String := "CreateOnlyModeEnabled"
def createOnlyDisabled : String := "CreateOnlyModeDisabled"

end Reason

/-- A condition that came about at the time `now`. -/
def new (now type : String) (status : ConditionStatus) (reason message : String)
    (generation : Option Int) : Condition :=
  ⟨type, status, reason, message, some now, generation⟩

def isTrue (c : Condition) : Bool := c.status = .isTrue

/-- The first condition of a type. -/
def find? (type : String) (conditions : List Condition) : Option Condition :=
  conditions.find? (fun c => c.type = type)

/-- Whether the first condition of a type is true. -/
def holds (type : String) (conditions : List Condition) : Bool :=
  (find? type conditions).any isTrue

/-- What is stored when `new` takes the place of `old`: the status since when it holds. -/
def succeed (old new : Condition) : Condition :=
  if old.status = new.status then { new with lastTransitionTime := old.lastTransitionTime } else new

/-- Whether `new` says something else than `old`, times apart. -/
def differs (old new : Condition) : Bool :=
  old.status ≠ new.status || old.reason ≠ new.reason || old.message ≠ new.message ||
    old.observedGeneration ≠ new.observedGeneration

/-- Writes a condition at the place of the first one of its type, or at the end. -/
def upsert (new : Condition) : List Condition → List Condition
  | [] => [new]
  | c :: rest => if c.type = new.type then succeed c new :: rest else c :: upsert new rest

/-- Whether writing `new` changes the list. -/
def changes (new : Condition) (conditions : List Condition) : Bool :=
  match find? new.type conditions with
  | some old => differs old new
  | none => true

def fieldNames : List String :=
  ["type", "status", "reason", "message", "lastTransitionTime", "observedGeneration"]

def readStatus (v : Json) : Option ConditionStatus := v.unitName?.bind ConditionStatus.ofText?

def ofJson? (v : Json) : Option Condition := do
  let ms ← v.record? fieldNames
  let type ← ms.required "type" Json.str?
  let status ← ms.required "status" readStatus
  let reason ← ms.withDefault "reason" "" Json.str?
  let message ← ms.withDefault "message" "" Json.str?
  let lastTransitionTime ← ms.optional "lastTransitionTime" Json.str?
  let observedGeneration ← ms.optional "observedGeneration" Json.int64?
  return { type, status, reason, message, lastTransitionTime, observedGeneration }

def toJson (c : Condition) : Json :=
  .obj ([("type", .str c.type), ("status", .str c.status.text), ("reason", .str c.reason),
    ("message", .str c.message)] ++
    Json.optional "lastTransitionTime" (c.lastTransitionTime.map .str) ++
    Json.optional "observedGeneration" (c.observedGeneration.map .int))

def listOfJson? : Json → Option (List Condition) := Json.list? ofJson?

def listToJson (conditions : List Condition) : Json := .arr (conditions.map toJson)

end Condition

end WorkloadIdentity

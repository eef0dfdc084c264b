import WorkloadIdentity.Condition

namespace WorkloadIdentity

structure ManagerSpec where
  trustDomain : String
  clusterName : String := "cluster"
  bundleConfigMap : String := "spire-bundle"
deriving DecidableEq, Repr, Inhabited

namespace ManagerSpec

def read? (v : Json) : Option ManagerSpec := do
  let ms ← v.record? ["trustDomain", "clusterName", "bundleConfigMap"]
  let trustDomain ← ms.required "trustDomain" Json.str?
  let clusterName ← ms.withDefault "clusterName" "cluster" Json.str?
  let bundleConfigMap ← ms.withDefault "bundleConfigMap" "spire-bundle" Json.str?
  return { trustDomain, clusterName, bundleConfigMap }

def toJson (s : ManagerSpec) : Json :=
  .obj [("trustDomain", .str s.trustDomain), ("clusterName", .str s.clusterName),
    ("bundleConfigMap", .str s.bundleConfigMap)]

end ManagerSpec

/-- The status of an operand. -/
structure OperandStatus where
  conditions : List Condition := []
deriving DecidableEq, Repr, Inhabited

namespace OperandStatus

def read? (v : Json) : Option OperandStatus := do
  let ms ← v.record? ["conditions"]
  let conditions ← ms.withDefault "conditions" [] Condition.listOfJson?
  return { conditions }

def toJson (s : OperandStatus) : Json := .obj [("conditions", Condition.listToJson s.conditions)]

end OperandStatus

/-- What the manager's status says of one operand. -/
structure OperandEntry where
  name : String
  kind : String
  ready : String
  message : String := ""
  conditions : List Condition := []
deriving DecidableEq, Repr, Inhabited

namespace OperandEntry

def read? (v : Json) : Option OperandEntry := do
  let ms ← v.record? ["name", "kind", "ready", "message", "conditions"]
  let name ← ms.required "name" Json.str?
  let kind ← ms.required "kind" Json.str?
  let ready ← ms.required "ready" Json.str?
  let message ← ms.withDefault "message" "" Json.str?
  let conditions ← ms.withDefault "conditions" [] Condition.listOfJson?
  return { name, kind, ready, message, conditions }

def toJson (e : OperandEntry) : Json :=
  .obj ([("name", .str e.name), ("kind", .str e.kind), ("ready", .str e.ready),
    ("message", .str e.message)] ++
    (if e.conditions.isEmpty then [] else [("conditions", Condition.listToJson e.conditions)]))

end OperandEntry

structure ManagerStatus where
  conditions : List Condition := []
  operands : List OperandEntry := []
deriving DecidableEq, Repr, Inhabited

namespace ManagerStatus

def read? (v : Json) : Option ManagerStatus := do
  let ms ← v.record? ["conditions", "operands"]
  let conditions ← ms.withDefault "conditions" [] Condition.listOfJson?
  let operands ← ms.withDefault "operands" [] (Json.list? OperandEntry.read?)
  return { conditions, operands }

def toJson (s : ManagerStatus) : Json :=
  .obj [("conditions", Condition.listToJson s.conditions),
    ("operands", .arr (s.operands.map OperandEntry.toJson))]

end ManagerStatus

end WorkloadIdentity

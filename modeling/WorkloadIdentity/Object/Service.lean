import WorkloadIdentity.Object.Meta

namespace WorkloadIdentity

/-- A port given by number or by name. -/
inductive PortName where
  | number (n : Int)
  | name (s : String)
deriving DecidableEq, Repr, Inhabited

namespace PortName

def ofJson : Json → Option PortName
  | .int n => some (number n)
  | .str s => some (name s)
  | _ => none

def toJson : PortName → Json
  | number n => .int n
  | name s => .str s

/-- A number and the same number as a text are the same port. -/
def text : PortName → String
  | number n => toString n
  | name s => s

end PortName

structure ServicePort where
  name : Option String := none
  port : Int
  targetPort : Option PortName := none
  protocol : Option String := none
  others : Members := []
deriving DecidableEq, Repr, Inhabited

namespace ServicePort

def ofJson (v : Json) : ServicePort where
  name := v.textAt "name"
  port := (v.intAt "port").getD 0
  targetPort := (v.get? "targetPort").bind PortName.ofJson
  protocol := v.textAt "protocol"
  others := v.without ["name", "port", "targetPort", "protocol"]

def toJson (p : ServicePort) : Json :=
  .obj (Json.optionalText "name" p.name ++ [("port", .int p.port)] ++
    Json.optionalText "protocol" p.protocol ++
    Json.optional "targetPort" (p.targetPort.map PortName.toJson) ++ p.others)

end ServicePort

structure ServiceSpec where
  selector : Option Labels := none
  type : Option String := none
  ports : Option (List ServicePort) := none
  clusterIP : Option String := none
  clusterIPs : Option (List String) := none
  ipFamilies : Option (List String) := none
  ipFamilyPolicy : Option String := none
  others : Members := []
deriving DecidableEq, Repr, Inhabited

namespace ServiceSpec

def fieldNames : List String :=
  ["selector", "type", "ports", "clusterIP", "clusterIPs", "ipFamilies", "ipFamilyPolicy"]

def ofJson (v : Json) : ServiceSpec where
  selector := v.mapAt "selector"
  type := v.textAt "type"
  ports := (v.itemsAt "ports").map (·.map ServicePort.ofJson)
  clusterIP := v.textAt "clusterIP"
  clusterIPs := v.textsAt "clusterIPs"
  ipFamilies := v.textsAt "ipFamilies"
  ipFamilyPolicy := v.textAt "ipFamilyPolicy"
  others := v.without fieldNames

def toJson (s : ServiceSpec) : Json :=
  .obj (Json.optionalText "clusterIP" s.clusterIP ++
    Json.optionalTexts "clusterIPs" s.clusterIPs ++
    Json.optionalTexts "ipFamilies" s.ipFamilies ++
    Json.optionalText "ipFamilyPolicy" s.ipFamilyPolicy ++
    Json.optionalItems "ports" (s.ports.map (·.map ServicePort.toJson)) ++
    Json.optionalMap "selector" s.selector ++
    Json.optionalText "type" s.type ++ s.others)

end ServiceSpec

structure Service where
  metadata : Meta
  spec : Option ServiceSpec := none
  status : Option Json := none
deriving DecidableEq, Repr, Inhabited

namespace Service

def read? (v : Json) : Option Service :=
  (Catalog.service.read v).map fun v =>
    { metadata := Meta.ofObject v
      spec := (v.get? "spec").map ServiceSpec.ofJson
      status := v.get? "status" }

def toJson (o : Service) : Json :=
  .obj (objectHead "v1" "Service" o.metadata ++
    Json.optional "spec" (o.spec.map ServiceSpec.toJson) ++ Json.optional "status" o.status)

end Service

end WorkloadIdentity

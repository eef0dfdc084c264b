import WorkloadIdentity.Object.Pod

namespace WorkloadIdentity

inductive WorkloadKind where
  | daemonSet
  | deployment
  | statefulSet
deriving DecidableEq, Repr, Inhabited

namespace WorkloadKind

def name : WorkloadKind → String
  | daemonSet => "DaemonSet"
  | deployment => "Deployment"
  | statefulSet => "StatefulSet"

def shape : WorkloadKind → Shape
  | daemonSet => Catalog.daemonSet
  | deployment => Catalog.deployment
  | statefulSet => Catalog.statefulSet

end WorkloadKind

structure WorkloadSpec where
  /-- How many pods there are; a daemon set has one for each node instead. -/
  replicas : Option Int := none
  selector : Json := .obj []
  template : PodTemplate := {}
  /-- The claims on storage of a stateful set, fixed when it is created. -/
  volumeClaimTemplates : Option (List Json) := none
  others : Members := []
deriving DecidableEq, Repr, Inhabited

namespace WorkloadSpec

def fieldNames : List String := ["replicas", "selector", "template", "volumeClaimTemplates"]

def ofJson (v : Json) : WorkloadSpec where
  replicas := v.intAt "replicas"
  selector := (v.get? "selector").getD (.obj [])
  template := PodTemplate.ofJson ((v.get? "template").getD (.obj []))
  volumeClaimTemplates := v.itemsAt "volumeClaimTemplates"
  others := v.without fieldNames

def toJson (s : WorkloadSpec) : Json :=
  .obj (Json.optionalInt "replicas" s.replicas ++
    [("selector", s.selector), ("template", s.template.toJson)] ++
    Json.optionalItems "volumeClaimTemplates" s.volumeClaimTemplates ++ s.others)

end WorkloadSpec

structure Workload (kind : WorkloadKind) where
  metadata : Meta
  spec : Option WorkloadSpec := none
  status : Option Json := none
deriving DecidableEq, Repr, Inhabited

abbrev DaemonSet := Workload .daemonSet
abbrev Deployment := Workload .deployment
abbrev StatefulSet := Workload .statefulSet

namespace Workload

def read? (kind : WorkloadKind) (v : Json) : Option (Workload kind) :=
  (kind.shape.read v).map fun v =>
    { metadata := Meta.ofObject v
      spec := (v.get? "spec").map WorkloadSpec.ofJson
      status := v.get? "status" }

def toJson {kind : WorkloadKind} (o : Workload kind) : Json :=
  .obj (objectHead "apps/v1" kind.name o.metadata ++
    Json.optional "spec" (o.spec.map WorkloadSpec.toJson) ++ Json.optional "status" o.status)

end Workload

end WorkloadIdentity

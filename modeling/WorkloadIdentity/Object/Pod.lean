import WorkloadIdentity.Object.Meta

namespace WorkloadIdentity

/-- What a container may use and what it asks for, by the name of the resource. -/
structure Resources where
  limits : Option Labels := none
  requests : Option Labels := none
  claims : Option (List Json) := none
deriving DecidableEq, Repr, Inhabited

namespace Resources

def ofJson (v : Json) : Resources where
  limits := v.mapAt "limits"
  requests := v.mapAt "requests"
  claims := v.itemsAt "claims"

def read? (v : Json) : Option Resources := (Catalog.resources.read v).map ofJson

def toJson (r : Resources) : Json :=
  .obj (Json.optionalItems "claims" r.claims ++ Json.optionalMap "limits" r.limits ++
    Json.optionalMap "requests" r.requests)

end Resources

structure EnvVar where
  name : String
  value : Option String := none
  /-- Where the value comes from if it is not given. -/
  valueFrom : Option Json := none
deriving DecidableEq, Repr, Inhabited

namespace EnvVar

def ofJson (v : Json) : EnvVar where
  name := (v.textAt "name").getD ""
  value := v.textAt "value"
  valueFrom := v.get? "valueFrom"

def toJson (e : EnvVar) : Json :=
  .obj ([("name", .str e.name)] ++ Json.optionalText "value" e.value ++
    Json.optional "valueFrom" e.valueFrom)

/-- The field of the pod that the value is taken from. -/
def fieldPath (e : EnvVar) : Option String :=
  ((e.valueFrom.bind (·.get? "fieldRef")).bind (·.textAt "fieldPath"))

/-- A variable that holds a field of the pod. -/
def ofField (name path : String) : EnvVar :=
  { name, valueFrom := some (.obj [("fieldRef", .obj [("fieldPath", .str path)])]) }

end EnvVar

structure VolumeMount where
  name : String
  mountPath : String
  readOnly : Option Bool := none
  others : Members := []
deriving DecidableEq, Repr, Inhabited

namespace VolumeMount

def ofJson (v : Json) : VolumeMount where
  name := (v.textAt "name").getD ""
  mountPath := (v.textAt "mountPath").getD ""
  readOnly := v.flagAt "readOnly"
  others := v.without ["name", "mountPath", "readOnly"]

def toJson (m : VolumeMount) : Json :=
  .obj ([("mountPath", .str m.mountPath), ("name", .str m.name)] ++
    Json.optionalFlag "readOnly" m.readOnly ++ m.others)

end VolumeMount

structure Container where
  name : String
  image : Option String := none
  command : Option (List String) := none
  args : Option (List String) := none
  env : Option (List EnvVar) := none
  resources : Option Resources := none
  volumeMounts : Option (List VolumeMount) := none
  /-- Ports, probes, security settings and the rest. -/
  others : Members := []
deriving DecidableEq, Repr, Inhabited

namespace Container

def fieldNames : List String :=
  ["name", "image", "command", "args", "env", "resources", "volumeMounts"]

def ofJson (v : Json) : Container where
  name := (v.textAt "name").getD ""
  image := v.textAt "image"
  command := v.textsAt "command"
  args := v.textsAt "args"
  env := (v.itemsAt "env").map (·.map EnvVar.ofJson)
  resources := (v.get? "resources").map Resources.ofJson
  volumeMounts := (v.itemsAt "volumeMounts").map (·.map VolumeMount.ofJson)
  others := v.without fieldNames

def read? (v : Json) : Option Container := (Catalog.container.read v).map ofJson

def toJson (c : Container) : Json :=
  .obj (Json.optionalTexts "args" c.args ++ Json.optionalTexts "command" c.command ++
    Json.optionalItems "env" (c.env.map (·.map EnvVar.toJson)) ++
    Json.optionalText "image" c.image ++ [("name", .str c.name)] ++
    Json.optional "resources" (c.resources.map Resources.toJson) ++
    Json.optionalItems "volumeMounts" (c.volumeMounts.map (·.map VolumeMount.toJson)) ++ c.others)

end Container

structure Volume where
  name : String
  /-- The one member that says where the files come from. -/
  source : Members := []
deriving DecidableEq, Repr, Inhabited

namespace Volume

def ofJson (v : Json) : Volume where
  name := (v.textAt "name").getD ""
  source := v.without ["name"]

def toJson (v : Volume) : Json := .obj (("name", .str v.name) :: v.source)

end Volume

structure PodSpec where
  containers : List Container := []
  initContainers : Option (List Container) := none
  serviceAccountName : Option String := none
  nodeSelector : Option Labels := none
  tolerations : Option (List Json) := none
  affinity : Option Json := none
  volumes : Option (List Volume) := none
  others : Members := []
deriving DecidableEq, Repr, Inhabited

namespace PodSpec

def fieldNames : List String :=
  ["containers", "initContainers", "serviceAccountName", "nodeSelector", "tolerations", "affinity",
    "volumes"]

def ofJson (v : Json) : PodSpec where
  containers := ((v.itemsAt "containers").getD []).map Container.ofJson
  initContainers := (v.itemsAt "initContainers").map (·.map Container.ofJson)
  serviceAccountName := v.textAt "serviceAccountName"
  nodeSelector := v.mapAt "nodeSelector"
  tolerations := v.itemsAt "tolerations"
  affinity := v.get? "affinity"
  volumes := (v.itemsAt "volumes").map (·.map Volume.ofJson)
  others := v.without fieldNames

def read? (v : Json) : Option PodSpec := (Catalog.podSpec.read v).map ofJson

def toJson (s : PodSpec) : Json :=
  .obj (Json.optional "affinity" s.affinity ++
    [("containers", .arr (s.containers.map Container.toJson))] ++
    Json.optionalItems "initContainers" (s.initContainers.map (·.map Container.toJson)) ++
    Json.optionalMap "nodeSelector" s.nodeSelector ++
    Json.optionalText "serviceAccountName" s.serviceAccountName ++
    Json.optionalItems "tolerations" s.tolerations ++
    Json.optionalItems "volumes" (s.volumes.map (·.map Volume.toJson)) ++ s.others)

end PodSpec

structure PodTemplate where
  metadata : Option Meta := none
  spec : Option PodSpec := none
deriving DecidableEq, Repr, Inhabited

namespace PodTemplate

def ofJson (v : Json) : PodTemplate where
  metadata := (v.get? "metadata").map Meta.ofJson
  spec := (v.get? "spec").map PodSpec.ofJson

def toJson (t : PodTemplate) : Json :=
  .obj (Json.optional "metadata" (t.metadata.map Meta.toJson) ++
    Json.optional "spec" (t.spec.map PodSpec.toJson))

end PodTemplate

end WorkloadIdentity

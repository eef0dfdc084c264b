import WorkloadIdentity.Object.Meta

namespace WorkloadIdentity

structure CsiDriverSpec where
  attachRequired : Option Bool := none
  podInfoOnMount : Option Bool := none
  fsGroupPolicy : Option String := none
  volumeLifecycleModes : Option (List String) := none
  others : Members := []
deriving DecidableEq, Repr, Inhabited

namespace CsiDriverSpec

def fieldNames : List String :=
  ["attachRequired", "podInfoOnMount", "fsGroupPolicy", "volumeLifecycleModes"]

def ofJson (v : Json) : CsiDriverSpec where
  attachRequired := v.flagAt "attachRequired"
  podInfoOnMount := v.flagAt "podInfoOnMount"
  fsGroupPolicy := v.textAt "fsGroupPolicy"
  volumeLifecycleModes := v.textsAt "volumeLifecycleModes"
  others := v.without fieldNames

def toJson (s : CsiDriverSpec) : Json :=
  .obj (Json.optionalFlag "attachRequired" s.attachRequired ++
    Json.optionalText "fsGroupPolicy" s.fsGroupPolicy ++
    Json.optionalFlag "podInfoOnMount" s.podInfoOnMount ++
    Json.optionalTexts "volumeLifecycleModes" s.volumeLifecycleModes ++ s.others)

end CsiDriverSpec

/-- Announces a storage driver. -/
structure CsiDriver where
  metadata : Meta
  spec : CsiDriverSpec := {}
deriving DecidableEq, Repr, Inhabited

namespace CsiDriver

def read? (v : Json) : Option CsiDriver :=
  (Catalog.csiDriver.read v).map fun v =>
    { metadata := Meta.ofObject v
      spec := CsiDriverSpec.ofJson ((v.get? "spec").getD (.obj [])) }

def toJson (o : CsiDriver) : Json :=
  .obj (objectHead "storage.k8s.io/v1" "CSIDriver" o.metadata ++ [("spec", o.spec.toJson)])

end CsiDriver

/-- An object of a kind that is known by name only; its members are kept as they are. -/
structure Untyped where
  /-- The version and the kind, if both are given. -/
  type : Option (String × String) := none
  metadata : Meta := {}
  data : Members := []
deriving DecidableEq, Repr, Inhabited

namespace Untyped

/-- The version and the kind of a value that gives both. -/
def typeOf (v : Json) : Option (String × String) := do
  let apiVersion ← v.textAt "apiVersion"
  let kind ← v.textAt "kind"
  return (apiVersion, kind)

def read? (v : Json) : Option Untyped := do
  let _ ← v.members?
  let metadata ← match v.get? "metadata" with
    | some m => Meta.read? m
    | none => some {}
  return { type := typeOf v, metadata, data := v.without ["apiVersion", "kind", "metadata"] }

def kindName (o : Untyped) : String :=
  match o.type with
  | some (_, kind) => kind
  | none => "DynamicObject"

def toJson (o : Untyped) : Json :=
  let type := match o.type with
    | some (apiVersion, kind) => [("apiVersion", Json.str apiVersion), ("kind", Json.str kind)]
    | none => []
  .obj (type ++ [("metadata", o.metadata.toJson)] ++ o.data)

end Untyped

end WorkloadIdentity

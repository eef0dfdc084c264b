import WorkloadIdentity.Object.Catalog

namespace WorkloadIdentity

abbrev Labels := StringMap String

namespace Json

/-- A text among the members of an object. -/
def textAt (v : Json) (name : String) : Option String := (v.get? name).bind str?

def flagAt (v : Json) (name : String) : Option Bool := (v.get? name).bind bool?

def intAt (v : Json) (name : String) : Option Int := (v.get? name).bind int?

def mapAt (v : Json) (name : String) : Option Labels := (v.get? name).bind (map? str?)

def textsAt (v : Json) (name : String) : Option (List String) := (v.get? name).bind (list? str?)

def itemsAt (v : Json) (name : String) : Option (List Json) := (v.get? name).bind (list? some)

/-- The members of an object apart from some. -/
def without (v : Json) (names : List String) : Members :=
  match v with
  | obj members => members.filter (fun m => !names.contains m.1)
  | _ => []

def optionalText (name : String) (value : Option String) : Members := optional name (value.map str)

def optionalFlag (name : String) (value : Option Bool) : Members := optional name (value.map bool)

def optionalInt (name : String) (value : Option Int) : Members := optional name (value.map int)

def optionalMap (name : String) (value : Option Labels) : Members :=
  optional name (value.map ofStrings)

def optionalTexts (name : String) (value : Option (List String)) : Members :=
  optional name (value.map strings)

def optionalItems (name : String) (value : Option (List Json)) : Members :=
  optional name (value.map arr)

end Json

structure OwnerReference where
  apiVersion : String
  kind : String
  name : String
  uid : String
  controller : Option Bool
  blockOwnerDeletion : Option Bool
deriving DecidableEq, Repr

namespace OwnerReference

def ofJson (v : Json) : OwnerReference where
  apiVersion := (v.textAt "apiVersion").getD ""
  kind := (v.textAt "kind").getD ""
  name := (v.textAt "name").getD ""
  uid := (v.textAt "uid").getD ""
  controller := v.flagAt "controller"
  blockOwnerDeletion := v.flagAt "blockOwnerDeletion"

def toJson (r : OwnerReference) : Json :=
  .obj ([("apiVersion", .str r.apiVersion)] ++
    Json.optionalFlag "blockOwnerDeletion" r.blockOwnerDeletion ++
    Json.optionalFlag "controller" r.controller ++
    [("kind", .str r.kind), ("name", .str r.name), ("uid", .str r.uid)])

end OwnerReference

structure Meta where
  name : Option String := none
  generateName : Option String := none
  namespaceName : Option String := none
  uid : Option String := none
  resourceVersion : Option String := none
  generation : Option Int := none
  labels : Option Labels := none
  annotations : Option Labels := none
  ownerReferences : Option (List OwnerReference) := none
  /-- What only the server writes, such as times and finalizers. -/
  others : Members := []
deriving DecidableEq, Repr, Inhabited

namespace Meta

/-- The members that have a field of their own. -/
def fieldNames : List String :=
  ["name", "generateName", "namespace", "uid", "resourceVersion", "generation", "labels",
    "annotations", "ownerReferences"]

/-- Metadata from its normal JSON form. -/
def ofJson (v : Json) : Meta where
  name := v.textAt "name"
  generateName := v.textAt "generateName"
  namespaceName := v.textAt "namespace"
  uid := v.textAt "uid"
  resourceVersion := v.textAt "resourceVersion"
  generation := v.intAt "generation"
  labels := v.mapAt "labels"
  annotations := v.mapAt "annotations"
  ownerReferences := (v.itemsAt "ownerReferences").map (·.map OwnerReference.ofJson)
  others := v.without fieldNames

/-- Reads metadata, `none` where it has another shape. -/
def read? (v : Json) : Option Meta := (Catalog.objectMeta.read v).map ofJson

def toJson (m : Meta) : Json :=
  .obj (Json.optionalText "name" m.name ++
    Json.optionalText "generateName" m.generateName ++
    Json.optionalText "namespace" m.namespaceName ++
    Json.optionalText "uid" m.uid ++
    Json.optionalText "resourceVersion" m.resourceVersion ++
    Json.optionalInt "generation" m.generation ++
    Json.optionalMap "labels" m.labels ++
    Json.optionalMap "annotations" m.annotations ++
    Json.optionalItems "ownerReferences" (m.ownerReferences.map (·.map OwnerReference.toJson)) ++
    m.others)

/-- The metadata of an object in its normal JSON form. -/
def ofObject (v : Json) : Meta := ofJson ((v.get? "metadata").getD (.obj []))

end Meta

/-- The first members of an object: its version and kind and its metadata. -/
def objectHead (apiVersion kind : String) (metadata : Meta) : Members :=
  [("apiVersion", .str apiVersion), ("kind", .str kind), ("metadata", metadata.toJson)]

end WorkloadIdentity

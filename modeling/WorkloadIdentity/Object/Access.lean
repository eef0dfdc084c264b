import WorkloadIdentity.Object.Meta

namespace WorkloadIdentity

/-- How far a role or a binding reaches. -/
inductive Reach where
  | cluster
  | namespaced
deriving DecidableEq, Repr, Inhabited

/-- What may be done with which resources. -/
structure PolicyRule where
  apiGroups : Option (List String) := none
  resources : Option (List String) := none
  verbs : List String := []
  resourceNames : Option (List String) := none
  nonResourceURLs : Option (List String) := none
deriving DecidableEq, Repr, Inhabited

namespace PolicyRule

def ofJson (v : Json) : PolicyRule where
  apiGroups := v.textsAt "apiGroups"
  resources := v.textsAt "resources"
  verbs := (v.textsAt "verbs").getD []
  resourceNames := v.textsAt "resourceNames"
  nonResourceURLs := v.textsAt "nonResourceURLs"

def toJson (r : PolicyRule) : Json :=
  .obj (Json.optionalTexts "apiGroups" r.apiGroups ++
    Json.optionalTexts "nonResourceURLs" r.nonResourceURLs ++
    Json.optionalTexts "resourceNames" r.resourceNames ++
    Json.optionalTexts "resources" r.resources ++
    [("verbs", Json.strings r.verbs)])

end PolicyRule

structure Role (reach : Reach) where
  metadata : Meta
  rules : Option (List PolicyRule) := none
  aggregationRule : Option Json := none
deriving DecidableEq, Repr, Inhabited

namespace Role

def kindName : Reach → String
  | .cluster => "ClusterRole"
  | .namespaced => "Role"

def shape : Reach → Shape
  | .cluster => Catalog.clusterRole
  | .namespaced => Catalog.role

def read? (reach : Reach) (v : Json) : Option (Role reach) :=
  ((shape reach).read v).map fun v =>
    { metadata := Meta.ofObject v
      rules := (v.itemsAt "rules").map (·.map PolicyRule.ofJson)
      aggregationRule := v.get? "aggregationRule" }

def toJson {reach : Reach} (o : Role reach) : Json :=
  .obj (objectHead Catalog.accessGroup (kindName reach) o.metadata ++
    Json.optional "aggregationRule" o.aggregationRule ++
    Json.optionalItems "rules" (o.rules.map (·.map PolicyRule.toJson)))

end Role

/-- The role that a binding gives. -/
structure RoleRef where
  apiGroup : String
  kind : String
  name : String
deriving DecidableEq, Repr, Inhabited

namespace RoleRef

def ofJson (v : Json) : RoleRef where
  apiGroup := (v.textAt "apiGroup").getD ""
  kind := (v.textAt "kind").getD ""
  name := (v.textAt "name").getD ""

def toJson (r : RoleRef) : Json :=
  .obj [("apiGroup", .str r.apiGroup), ("kind", .str r.kind), ("name", .str r.name)]

end RoleRef

structure Subject where
  apiGroup : Option String := none
  kind : String
  name : String
  namespaceName : Option String := none
deriving DecidableEq, Repr, Inhabited

namespace Subject

def ofJson (v : Json) : Subject where
  apiGroup := v.textAt "apiGroup"
  kind := (v.textAt "kind").getD ""
  name := (v.textAt "name").getD ""
  namespaceName := v.textAt "namespace"

def toJson (s : Subject) : Json :=
  .obj (Json.optionalText "apiGroup" s.apiGroup ++ [("kind", .str s.kind), ("name", .str s.name)] ++
    Json.optionalText "namespace" s.namespaceName)

end Subject

structure Binding (reach : Reach) where
  metadata : Meta
  roleRef : RoleRef
  subjects : Option (List Subject) := none
deriving DecidableEq, Repr, Inhabited

namespace Binding

def kindName : Reach → String
  | .cluster => "ClusterRoleBinding"
  | .namespaced => "RoleBinding"

def shape : Reach → Shape
  | .cluster => Catalog.clusterRoleBinding
  | .namespaced => Catalog.roleBinding

def read? (reach : Reach) (v : Json) : Option (Binding reach) :=
  ((shape reach).read v).map fun v =>
    { metadata := Meta.ofObject v
      roleRef := RoleRef.ofJson ((v.get? "roleRef").getD .null)
      subjects := (v.itemsAt "subjects").map (·.map Subject.ofJson) }

def toJson {reach : Reach} (o : Binding reach) : Json :=
  .obj (objectHead Catalog.accessGroup (kindName reach) o.metadata ++
    [("roleRef", o.roleRef.toJson)] ++
    Json.optionalItems "subjects" (o.subjects.map (·.map Subject.toJson)))

end Binding

end WorkloadIdentity

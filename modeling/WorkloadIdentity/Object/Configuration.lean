import WorkloadIdentity.Object.Meta

namespace WorkloadIdentity

structure ConfigMap where
  metadata : Meta
  data : Option Labels := none
  binaryData : Option Labels := none
  immutable : Option Bool := none
deriving DecidableEq, Repr, Inhabited

namespace ConfigMap

def read? (v : Json) : Option ConfigMap :=
  (Catalog.configMap.read v).map fun v =>
    { metadata := Meta.ofObject v
      data := v.mapAt "data"
      binaryData := v.mapAt "binaryData"
      immutable := v.flagAt "immutable" }

def toJson (o : ConfigMap) : Json :=
  .obj (objectHead "v1" "ConfigMap" o.metadata ++ Json.optionalMap "binaryData" o.binaryData ++
    Json.optionalMap "data" o.data ++ Json.optionalFlag "immutable" o.immutable)

end ConfigMap

/-- The identity that a pod has towards the API server. -/
structure ServiceAccount where
  metadata : Meta
  /-- The tokens that the cluster keeps for the account. -/
  secrets : Option (List Json) := none
  imagePullSecrets : Option (List Json) := none
  automountToken : Option Bool := none
deriving DecidableEq, Repr, Inhabited

namespace ServiceAccount

def read? (v : Json) : Option ServiceAccount :=
  (Catalog.serviceAccount.read v).map fun v =>
    { metadata := Meta.ofObject v
      secrets := v.itemsAt "secrets"
      imagePullSecrets := v.itemsAt "imagePullSecrets"
      automountToken := v.flagAt "automountServiceAccountToken" }

def toJson (o : ServiceAccount) : Json :=
  .obj (objectHead "v1" "ServiceAccount" o.metadata ++
    Json.optionalFlag "automountServiceAccountToken" o.automountToken ++
    Json.optionalItems "imagePullSecrets" o.imagePullSecrets ++
    Json.optionalItems "secrets" o.secrets)

end ServiceAccount

end WorkloadIdentity

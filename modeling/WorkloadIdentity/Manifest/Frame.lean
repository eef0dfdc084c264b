import WorkloadIdentity.Manifest.Names
import WorkloadIdentity.Object.Configuration
import WorkloadIdentity.Object.Extension
import WorkloadIdentity.Object.Access
import WorkloadIdentity.Object.Service
import WorkloadIdentity.Object.Workload
import WorkloadIdentity.Settings.Basic
import WorkloadIdentity.Spec.Custom

namespace WorkloadIdentity

/-- The name that labels give for the whole. -/
def operatorName : String := "zero-trust-workload-identity-manager"

namespace Label

def name : String := "app.kubernetes.io/name"

def instanceName : String := "app.kubernetes.io/instance"

def component : String := "app.kubernetes.io/component"

def partOf : String := "app.kubernetes.io/part-of"

def managedBy : String := "app.kubernetes.io/managed-by"

/-- The labels of an object; chosen labels do not override the standard ones. -/
def standard (object component : String) (chosen : Labels) : Labels :=
  chosen.merge (.ofList [(Label.name, object), (instanceName, "spire"),
    (Label.component, component), (partOf, operatorName), (managedBy, operatorName)])

/-- The labels that the pods of a workload are found by. They cannot change, so chosen labels are
not among them. -/
def selector (object : String) : Labels :=
  .ofList [(Label.name, object), (instanceName, "spire")]

/-- The selector of all objects that are looked after. -/
def managedBySelector : String := managedBy ++ "=" ++ operatorName

end Label

namespace OperandKind

/-- The name of most objects of the operand. -/
def objectName : OperandKind → String
  | server => "spire-server"
  | agent => agentName
  | discovery => "spire-spiffe-oidc-discovery-provider"
  | driver => "spire-spiffe-csi-driver"

def component : OperandKind → String
  | server => "control-plane"
  | agent => "node-agent"
  | discovery => "discovery"
  | driver => "csi"

end OperandKind

namespace OwnerReference

/-- The reference to the resource that looks after an object; it has to have a name and an identity
of its own. -/
def toController (kind : String) (m : Meta) : Except Fault OwnerReference :=
  match m.name, m.uid with
  | some name, some uid =>
    .ok { apiVersion := customApiVersion, kind, name, uid, controller := some true,
          blockOwnerDeletion := none }
  | _, _ => .error (.missingMetadata kind "uid")

end OwnerReference

/-- What the metadata of all objects of one operand has in common. -/
structure Frame where
  namespaceName : String
  labels : Labels
  owner : OwnerReference
deriving DecidableEq, Repr

namespace Frame

/-- The metadata of an object in the operands' namespace. -/
def metadata (f : Frame) (name : String) : Meta :=
  { name := some name, namespaceName := some f.namespaceName, labels := some f.labels,
    ownerReferences := some [f.owner] }

/-- The metadata of an object outside all namespaces. -/
def clusterMetadata (f : Frame) (name : String) : Meta :=
  { f.metadata name with namespaceName := none }

def serviceAccount (f : Frame) (name : String) : ServiceAccount := { metadata := f.metadata name }

/-- A service account as the subject of a binding. -/
def subject (f : Frame) (account : String) : Subject :=
  { kind := "ServiceAccount", name := account, namespaceName := some f.namespaceName }

def configMap (f : Frame) (name file content : String) : ConfigMap :=
  { metadata := f.metadata name, data := some (.ofList [(file, content)]) }

def clusterRole (f : Frame) (name : String) (rules : List PolicyRule) : Role .cluster :=
  { metadata := f.clusterMetadata name, rules := some rules }

/-- A binding of a role of the same name to a service account. -/
def clusterBinding (f : Frame) (name account : String) : Binding .cluster :=
  { metadata := f.clusterMetadata name
    roleRef := { apiGroup := "rbac.authorization.k8s.io", kind := "ClusterRole", name }
    subjects := some [f.subject account] }

/-- A service that finds the pods of an object and sends one port on to the port of that name. -/
def service (f : Frame) (name object port : String) (number : Int) : Service :=
  { metadata := f.metadata name
    spec := some {
      type := some "ClusterIP"
      selector := some (Label.selector object)
      ports := some [{
        name := some port, port := number, targetPort := some (.name port),
        protocol := some "TCP" }] } }

/-- The labels of the pods of an object. -/
def podLabels (f : Frame) (object : String) : Labels := f.labels.merge (Label.selector object)

/-- What the pods of an account may do on their nodes. -/
def securityConstraints (f : Frame) (name account : String) (privileged : Bool) : Untyped :=
  let runAsAny : Json := .obj [("type", .str "RunAsAny")]
  { type := some ("security.openshift.io/v1", "SecurityContextConstraints")
    metadata := f.clusterMetadata name
    data := [
      ("allowHostDirVolumePlugin", .bool true),
      ("allowHostIPC", .bool false),
      ("allowHostNetwork", .bool true),
      ("allowHostPID", .bool true),
      ("allowHostPorts", .bool true),
      ("allowPrivilegeEscalation", .bool privileged),
      ("allowPrivilegedContainer", .bool privileged),
      ("fsGroup", runAsAny),
      ("readOnlyRootFilesystem", .bool !privileged),
      ("requiredDropCapabilities", Json.strings ["ALL"]),
      ("runAsUser", runAsAny),
      ("seLinuxContext", runAsAny),
      ("supplementalGroups", runAsAny),
      ("users", Json.strings ["system:serviceaccount:" ++ f.namespaceName ++ ":" ++ account]),
      ("volumes", Json.strings
        ["configMap", "csi", "downwardAPI", "emptyDir", "hostPath", "projected", "secret"])] }

end Frame

/-- Everything that the objects of an operand are made from. -/
structure Site (σ : Type) where
  frame : Frame
  spec : σ
  manager : ManagerSpec
  settings : Settings
deriving DecidableEq, Repr

namespace Site

variable {σ : Type} [OperandSpec σ]

/-- The name of most objects of the operand. -/
def objectName (_ : Site σ) : String := (OperandSpec.kind σ).objectName

/-- The site of an operand, if its resource can own objects. -/
def ofOperand (operand : Operand σ) (manager : ManagerSpec) (settings : Settings) :
    Except Fault (Site σ) :=
  let kind := OperandSpec.kind σ
  (OwnerReference.toController kind.kindName operand.metadata).map fun owner =>
    { frame := {
        namespaceName := settings.operandNamespace
        labels := Label.standard kind.objectName kind.component
          (OperandSpec.placement operand.spec).labels
        owner }
      spec := operand.spec
      manager
      settings }

end Site

end WorkloadIdentity

import WorkloadIdentity.Condition
import WorkloadIdentity.Object.Access
import WorkloadIdentity.Object.Configuration
import WorkloadIdentity.Object.Extension
import WorkloadIdentity.Object.Service
import WorkloadIdentity.Object.Workload
import WorkloadIdentity.Plan.Template

/-! A generated object is created when it is missing. When it is there, it is left alone in
create-only mode, and otherwise replaced if it differs in what its owner writes. A replacement
carries over what the server and others maintain: the version, foreign labels and annotations, and
what cannot be changed after creation. -/

namespace WorkloadIdentity

/-- What became of a wanted object. -/
inductive Outcome where
  | created
  | updated
  | unchanged
  | skipped
deriving DecidableEq, Repr

namespace Outcome

def text : Outcome → String
  | created => "created"
  | updated => "updated"
  | unchanged => "unchanged"
  | skipped => "skipped"

/-- The reason that a condition gives for the outcome. -/
def reason : Outcome → String
  | created => Condition.Reason.created
  | updated => Condition.Reason.updated
  | unchanged => Condition.Reason.upToDate
  | skipped => Condition.Reason.createOnlySkipped

end Outcome

/-- What to do with a wanted object. -/
inductive Plan (α : Type) where
  | create (object : α)
  | replace (object : α)
  | unchanged
  | skipped
deriving DecidableEq, Repr

/-- A kind of object that is generated and maintained. -/
class Managed (α : Type) where
  kindName : α → String
  metadata : α → Meta
  /-- Whether the live object differs from the wanted one in what its owner writes. -/
  needsUpdate : (existing desired : α) → Bool
  /-- The wanted object with what is carried over from the live one. -/
  prepare : (existing desired : α) → α
  read? : Json → Option α
  toJson : α → Json

/-- What to do with a wanted object, given the live one. -/
def plan {α : Type} [Managed α] (existing : Option α) (desired : α) (createOnly : Bool) : Plan α :=
  match existing with
  | none => .create desired
  | some live =>
    if createOnly then .skipped
    else if Managed.needsUpdate live desired then .replace (Managed.prepare live desired)
    else .unchanged

/-- The entries of `desired` laid over those of `existing`; nothing where neither is given. -/
def Labels.mergeOptional (existing desired : Option Labels) : Option Labels :=
  match existing, desired with
  | none, desired => desired
  | some e, none => some e
  | some e, some d => some (e.merge d)

/-- The wanted metadata with the live version and the labels and annotations of others. -/
def Meta.carry (existing desired : Meta) : Meta :=
  { desired with
    resourceVersion := existing.resourceVersion
    labels := Labels.mergeOptional existing.labels desired.labels
    annotations := Labels.mergeOptional existing.annotations desired.annotations }

namespace ConfigMap

/-- A config map without data stands for contents that someone else maintains. -/
def needsUpdate (existing desired : ConfigMap) : Bool :=
  existing.metadata.differs desired.metadata ||
    (desired.data.isSome && existing.data ≠ desired.data)

def prepare (existing desired : ConfigMap) : ConfigMap :=
  let carried := { desired with metadata := existing.metadata.carry desired.metadata }
  if desired.data.isNone then
    { carried with data := existing.data, binaryData := existing.binaryData }
  else carried

instance : Managed ConfigMap where
  kindName _ := "ConfigMap"
  metadata := ConfigMap.metadata
  needsUpdate := needsUpdate
  prepare := prepare
  read? := read?
  toJson := toJson

end ConfigMap

namespace ServiceAccount

def needsUpdate (existing desired : ServiceAccount) : Bool :=
  existing.metadata.differs desired.metadata

/-- The cluster maintains the tokens and the pull secrets of an account. -/
def prepare (existing desired : ServiceAccount) : ServiceAccount :=
  { desired with
    metadata := existing.metadata.carry desired.metadata
    secrets := existing.secrets
    imagePullSecrets := existing.imagePullSecrets }

instance : Managed ServiceAccount where
  kindName _ := "ServiceAccount"
  metadata := ServiceAccount.metadata
  needsUpdate := needsUpdate
  prepare := prepare
  read? := read?
  toJson := toJson

end ServiceAccount

/-- What of a port is compared; the protocol is TCP unless it is given. -/
def ServicePort.fingerprint (p : ServicePort) : Option String × Int × Option String × String :=
  (p.name, p.port, p.targetPort.map PortName.text, p.protocol.getD "TCP")

namespace ServiceSpec

def differs (existing desired : ServiceSpec) : Bool :=
  existing.selector ≠ desired.selector || existing.type ≠ desired.type ||
    (existing.ports.getD []).map ServicePort.fingerprint ≠
      (desired.ports.getD []).map ServicePort.fingerprint

/-- The addresses of a service cannot be changed. -/
def carry (existing desired : ServiceSpec) : ServiceSpec :=
  { desired with
    clusterIP := existing.clusterIP
    clusterIPs := existing.clusterIPs
    ipFamilies := existing.ipFamilies
    ipFamilyPolicy := existing.ipFamilyPolicy }

end ServiceSpec

namespace Service

def needsUpdate (existing desired : Service) : Bool :=
  existing.metadata.differs desired.metadata ||
    match existing.spec, desired.spec with
    | some e, some d => e.differs d
    | _, d => d.isSome

def prepare (existing desired : Service) : Service :=
  { desired with
    metadata := existing.metadata.carry desired.metadata
    spec := match existing.spec, desired.spec with
      | some e, some d => some (e.carry d)
      | _, d => d }

instance : Managed Service where
  kindName _ := "Service"
  metadata := Service.metadata
  needsUpdate := needsUpdate
  prepare := prepare
  read? := read?
  toJson := toJson

end Service

namespace Role

def needsUpdate {reach : Reach} (existing desired : Role reach) : Bool :=
  existing.metadata.differs desired.metadata || existing.rules ≠ desired.rules

def prepare {reach : Reach} (existing desired : Role reach) : Role reach :=
  { desired with metadata := existing.metadata.carry desired.metadata }

instance {reach : Reach} : Managed (Role reach) where
  kindName _ := kindName reach
  metadata := Role.metadata
  needsUpdate := needsUpdate
  prepare := prepare
  read? := read? reach
  toJson := toJson

end Role

namespace Binding

/-- The role of a binding cannot be changed, so only the subjects are compared. -/
def needsUpdate {reach : Reach} (existing desired : Binding reach) : Bool :=
  existing.metadata.differs desired.metadata || existing.subjects ≠ desired.subjects

def prepare {reach : Reach} (existing desired : Binding reach) : Binding reach :=
  { desired with metadata := existing.metadata.carry desired.metadata }

instance {reach : Reach} : Managed (Binding reach) where
  kindName _ := kindName reach
  metadata := Binding.metadata
  needsUpdate := needsUpdate
  prepare := prepare
  read? := read? reach
  toJson := toJson

end Binding

namespace WorkloadSpec

/-- The number of pods of a daemon set is not compared. -/
def differs (kind : WorkloadKind) (existing desired : WorkloadSpec) : Bool :=
  (kind ≠ .daemonSet && existing.replicas ≠ desired.replicas) ||
    existing.template.differs desired.template

end WorkloadSpec

namespace Workload

def needsUpdate {kind : WorkloadKind} (existing desired : Workload kind) : Bool :=
  existing.metadata.differs desired.metadata ||
    match existing.spec, desired.spec with
    | some e, some d => WorkloadSpec.differs kind e d
    | e, d => e.isSome ≠ d.isSome

/-- The claims of a stateful set cannot be changed. -/
def prepare {kind : WorkloadKind} (existing desired : Workload kind) : Workload kind :=
  { desired with
    metadata := existing.metadata.carry desired.metadata
    spec :=
      if kind = .statefulSet then
        match existing.spec, desired.spec with
        | some e, some d => some { d with volumeClaimTemplates := e.volumeClaimTemplates }
        | _, d => d
      else desired.spec }

instance {kind : WorkloadKind} : Managed (Workload kind) where
  kindName _ := kind.name
  metadata := Workload.metadata
  needsUpdate := needsUpdate
  prepare := prepare
  read? := read? kind
  toJson := toJson

end Workload

namespace CsiDriver

def needsUpdate (existing desired : CsiDriver) : Bool :=
  existing.metadata.differs desired.metadata ||
    existing.spec.attachRequired ≠ desired.spec.attachRequired ||
    existing.spec.podInfoOnMount ≠ desired.spec.podInfoOnMount ||
    existing.spec.fsGroupPolicy ≠ desired.spec.fsGroupPolicy ||
    existing.spec.volumeLifecycleModes ≠ desired.spec.volumeLifecycleModes

def prepare (existing desired : CsiDriver) : CsiDriver :=
  { desired with metadata := existing.metadata.carry desired.metadata }

instance : Managed CsiDriver where
  kindName _ := "CSIDriver"
  metadata := CsiDriver.metadata
  needsUpdate := needsUpdate
  prepare := prepare
  read? := read?
  toJson := toJson

end CsiDriver

namespace Untyped

/-- Only what the wanted object holds is compared. -/
def needsUpdate (existing desired : Untyped) : Bool :=
  existing.metadata.differs desired.metadata ||
    !(Json.obj desired.data).coveredBy (.obj existing.data)

def prepare (existing desired : Untyped) : Untyped :=
  { desired with metadata := existing.metadata.carry desired.metadata }

instance : Managed Untyped where
  kindName := kindName
  metadata := Untyped.metadata
  needsUpdate := needsUpdate
  prepare := prepare
  read? := read?
  toJson := toJson

end Untyped

end WorkloadIdentity

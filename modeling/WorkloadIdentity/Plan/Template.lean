import WorkloadIdentity.Plan.Coverage
import WorkloadIdentity.Plan.Quantity

/-! Only what the owner of an object writes is compared before it is replaced. Labels and
annotations of others, defaults that the server fills in, and the order of containers do not count.
-/

namespace WorkloadIdentity

/-- Whether every wanted entry is there with its value. -/
def Labels.isSubset (existing desired : Option Labels) : Bool :=
  match desired with
  | none => true
  | some wanted =>
    wanted.entries.all (fun e => (existing.getD ∅).get? e.1 = some e.2)

namespace Meta

def differs (existing desired : Meta) : Bool :=
  !Labels.isSubset existing.labels desired.labels ||
    !Labels.isSubset existing.annotations desired.annotations

end Meta

/-- What of an environment variable is compared: its name, its value, and the pod field it shows. -/
def EnvVar.fingerprint (e : EnvVar) : String × Option String × Option String :=
  (e.name, e.value, e.fieldPath)

/-- What of a mount is compared. -/
def VolumeMount.fingerprint (m : VolumeMount) : String × String × Bool :=
  (m.name, m.mountPath, m.readOnly.getD false)

namespace Container

def differs (existing desired : Container) : Bool :=
  existing.image ≠ desired.image || existing.args ≠ desired.args ||
    existing.command ≠ desired.command ||
    (existing.env.getD []).map EnvVar.fingerprint ≠ (desired.env.getD []).map EnvVar.fingerprint ||
    Resources.differ existing.resources desired.resources ||
    (existing.volumeMounts.getD []).map VolumeMount.fingerprint ≠
      (desired.volumeMounts.getD []).map VolumeMount.fingerprint

/-- Containers are matched by their names. -/
def listsDiffer (existing desired : List Container) : Bool :=
  existing.length ≠ desired.length ||
    desired.any fun d =>
      match existing.find? (fun e => e.name = d.name) with
      | some e => differs e d
      | none => true

end Container

namespace Volume

def differs (existing desired : Volume) : Bool :=
  existing.name ≠ desired.name || !desired.toJson.coveredBy existing.toJson

/-- Volumes are compared place by place. -/
def listsDiffer (existing desired : List Volume) : Bool :=
  existing.length ≠ desired.length || (existing.zip desired).any (fun (e, d) => differs e d)

end Volume

namespace PodSpec

def differs (existing desired : PodSpec) : Bool :=
  Container.listsDiffer existing.containers desired.containers ||
    Container.listsDiffer (existing.initContainers.getD []) (desired.initContainers.getD []) ||
    existing.serviceAccountName ≠ desired.serviceAccountName ||
    existing.nodeSelector.getD ∅ ≠ desired.nodeSelector.getD ∅ ||
    existing.tolerations.getD [] ≠ desired.tolerations.getD [] ||
    existing.affinity ≠ desired.affinity ||
    Volume.listsDiffer (existing.volumes.getD []) (desired.volumes.getD [])

end PodSpec

namespace PodTemplate

def differs (existing desired : PodTemplate) : Bool :=
  (existing.metadata.getD {}).differs (desired.metadata.getD {}) ||
    match existing.spec, desired.spec with
    | some e, some d => e.differs d
    | e, d => e.isSome ≠ d.isSome

end PodTemplate

end WorkloadIdentity

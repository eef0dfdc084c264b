import WorkloadIdentity.Json.Printer
import WorkloadIdentity.Object.Access
import WorkloadIdentity.Object.Workload
import WorkloadIdentity.Spec.Placement

namespace WorkloadIdentity

namespace RoleRef

def ofKind (kind name : String) : RoleRef :=
  { apiGroup := "rbac.authorization.k8s.io", kind, name }

end RoleRef

namespace PolicyRule

/-- The rule that allows some verbs on some resources of some groups. -/
def allow (apiGroups resources verbs : List String) : PolicyRule :=
  { apiGroups := some apiGroups, resources := some resources, verbs }

end PolicyRule

namespace Volume

def ofConfigMap (name configMap : String) : Volume :=
  { name, source := [("configMap", .obj [("name", .str configMap)])] }

def ofHostPath (name path type : String) : Volume :=
  { name, source := [("hostPath", .obj [("path", .str path), ("type", .str type)])] }

def ofEmptyDir (name : String) : Volume := { name, source := [("emptyDir", .obj [])] }

def ofSecret (name secret : String) : Volume :=
  { name, source := [("secret", .obj [("secretName", .str secret)])] }

/-- A volume that a storage driver mounts for reading. -/
def ofDriver (name driver : String) : Volume :=
  { name, source := [("csi", .obj [("driver", .str driver), ("readOnly", .bool true)])] }

/-- A volume with a token of the pod's own account for one audience. -/
def ofToken (name audience path : String) (seconds : Int) : Volume :=
  let token : Json := .obj [("audience", .str audience), ("expirationSeconds", .int seconds),
    ("path", .str path)]
  let sources : Json := .arr [.obj [("serviceAccountToken", token)]]
  { name, source := [("projected", .obj [("sources", sources)])] }

end Volume

/-- A variable with the name of the node that the pod runs on. -/
def EnvVar.ofNodeName (name : String) : EnvVar := EnvVar.ofField name "spec.nodeName"

/-- A named port of a container. -/
def portJson (name : String) (port : Int) : Json :=
  .obj [("containerPort", .int port), ("name", .str name), ("protocol", .str "TCP")]

/-- A probe that asks a named port for a path. -/
def probeJson (path port : String) (delay period : Int) : Json :=
  .obj [("httpGet", .obj [("path", .str path), ("port", .str port)]),
    ("initialDelaySeconds", .int delay), ("periodSeconds", .int period)]

namespace SecurityContext

/-- No change of privileges, and no writing outside the volumes. -/
def confined : Members :=
  [("allowPrivilegeEscalation", .bool false), ("readOnlyRootFilesystem", .bool true)]

/-- Confined, and not run as root. -/
def unprivileged : Members := confined ++ [("runAsNonRoot", .bool true)]

/-- Unprivileged, and without any capability. -/
def restricted : Members :=
  unprivileged ++ [("capabilities", .obj [("drop", Json.strings ["ALL"])])]

def privileged : Members := [("privileged", .bool true)]

end SecurityContext

namespace Container

/-- The policy by which images are fetched. -/
def pullPolicy : String × Json := ("imagePullPolicy", .str "IfNotPresent")

/-- The members for ports, probes and security settings; probes that are missing are left out. -/
def settings (ports : List Json) (liveness readiness : Option Json) (security : Members) :
    Members :=
  [pullPolicy] ++ (if ports.isEmpty then [] else [("ports", .arr ports)]) ++
    Json.optional "livenessProbe" liveness ++ Json.optional "readinessProbe" readiness ++
    (if security.isEmpty then [] else [("securityContext", .obj security)])

end Container

namespace Placement

/-- The pod with the chosen nodes. -/
def placePod (p : Placement) (pod : PodSpec) : PodSpec :=
  { pod with
    nodeSelector := if p.nodeSelector.isEmpty then pod.nodeSelector else some p.nodeSelector
    tolerations := if p.tolerations.isEmpty then pod.tolerations else some p.tolerations
    affinity := p.affinity }

/-- The main container with the chosen resources. -/
def placeContainer (p : Placement) (c : Container) : Container :=
  { c with resources := p.resources }

/-- The pod on the chosen nodes, its first container having the chosen resources. -/
def place (p : Placement) (pod : PodSpec) (main : Container) (others : List Container) : PodSpec :=
  { p.placePod pod with containers := p.placeContainer main :: others }

end Placement

/-- The annotation that names the main container of a pod. -/
def defaultContainerKey : String := "kubectl.kubernetes.io/default-container"

namespace WorkloadSpec

/-- A workload whose pods are found by the labels of a selector. -/
def ofPods (selector podLabels annotations : Labels) (pod : PodSpec) : WorkloadSpec :=
  { selector := .obj [("matchLabels", Json.ofStrings selector)]
    template := {
      metadata := some { labels := some podLabels, annotations := some annotations }
      spec := some pod } }

/-- Pods are replaced one node at a time. -/
def oneAtATime : Members :=
  [("updateStrategy", .obj [("rollingUpdate", .obj [("maxUnavailable", .int 1)]),
    ("type", .str "RollingUpdate")])]

end WorkloadSpec

/-- The text of a configuration file. -/
def configurationText (config : Json) : String := config.pretty

end WorkloadIdentity

import WorkloadIdentity.Digest.Fingerprint
import WorkloadIdentity.Manifest.Agent
import WorkloadIdentity.Manifest.Discovery
import WorkloadIdentity.Manifest.Driver
import WorkloadIdentity.Manifest.Server
import WorkloadIdentity.Pass.Apply

/-! The objects of each operand in the order in which they depend on each other: accounts and roles
first, then services and configurations, and last the workload. -/

namespace WorkloadIdentity

/-- An operand that is looked after. -/
class OperandPass (σ : Type) extends OperandSpec σ where
  /-- The steps of a pass. -/
  steps : Scene → ManagerSpec → Operand σ → Attempt (List Step)
  /-- The kind of the workload that decides whether the operand is ready. -/
  workload : WorkloadKind

namespace ServerSpec

def stepsAt (site : Site ServerSpec) : List Step :=
  let space := site.settings.operandNamespace
  [.of "ServiceAccountAvailable" (.serviceAccount space (ServerManifest.serviceAccount site)),
    .of "ClusterRoleAvailable" (.clusterRole (ServerManifest.clusterRole site)),
    .of "ClusterRoleBindingAvailable"
      (.clusterRoleBinding (ServerManifest.clusterRoleBinding site)),
    .of "ControllerManagerClusterRoleAvailable"
      (.clusterRole (ServerManifest.controllerManagerRole site)),
    .of "ControllerManagerClusterRoleBindingAvailable"
      (.clusterRoleBinding (ServerManifest.controllerManagerRoleBinding site)),
    .of "BundleRoleAvailable" (.role space (ServerManifest.bundleRole site)),
    .of "BundleRoleBindingAvailable" (.roleBinding space (ServerManifest.bundleRoleBinding site)),
    .of "ServiceAvailable" (.service space (ServerManifest.service site)),
    .of "ConfigMapAvailable" (.configMap space (ServerManifest.configMap site)),
    .of "ControllerManagerConfigMapAvailable"
      (.configMap space (ServerManifest.controllerManagerConfigMap site)),
    .of "BundleConfigMapAvailable" (.configMap space (ServerManifest.bundleConfigMap site)),
    .of "StatefulSetAvailable" (.statefulSet space (ServerManifest.statefulSet site
      (Fingerprint.ofJson (ServerManifest.config site))
      (Fingerprint.ofJson (ServerManifest.controllerManagerConfig site))))]

instance : OperandPass ServerSpec where
  steps scene manager operand :=
    .mk (pure ((Site.ofOperand operand manager scene.settings).map stepsAt))
  workload := .statefulSet

end ServerSpec

namespace AgentSpec

def stepsAt (site : Site AgentSpec) : List Step :=
  let space := site.settings.operandNamespace
  [.of "ServiceAccountAvailable" (.serviceAccount space (AgentManifest.serviceAccount site)),
    .of "ClusterRoleAvailable" (.clusterRole (AgentManifest.clusterRole site)),
    .of "ClusterRoleBindingAvailable" (.clusterRoleBinding (AgentManifest.clusterRoleBinding site)),
    .of "ServiceAvailable" (.service space (AgentManifest.service site)),
    .of "ConfigMapAvailable" (.configMap space (AgentManifest.configMap site)),
    .of "SecurityContextConstraintsAvailable"
      (.securityConstraints (AgentManifest.securityConstraints site)),
    .of "DaemonSetAvailable" (.daemonSet space (AgentManifest.daemonSet site
      (Fingerprint.ofJson (AgentManifest.config site))))]

instance : OperandPass AgentSpec where
  steps scene manager operand :=
    .mk (pure ((Site.ofOperand operand manager scene.settings).map stepsAt))
  workload := .daemonSet

end AgentSpec

namespace DiscoverySpec

/-- The steps, given the name of the storage plugin and the configuration. -/
def stepsAt (site : Site DiscoverySpec) (plugin : String) (config : Json) : List Step :=
  let space := site.settings.operandNamespace
  [.of "ServiceAccountAvailable" (.serviceAccount space (DiscoveryManifest.serviceAccount site)),
    .of "ServiceAvailable" (.service space (DiscoveryManifest.service site)),
    ⟨"ClusterSPIFFEIDAvailable",
      (DiscoveryManifest.identity site).map (fun o => some (.clusterIdentity o))⟩,
    .of "ConfigMapAvailable" (.configMap space (DiscoveryManifest.configMap site config)),
    .of "DeploymentAvailable"
      (.deployment space (DiscoveryManifest.deployment site plugin (Fingerprint.ofJson config))),
    ⟨"RouteAvailable", (DiscoveryManifest.route site).map (·.map (Wanted.route space))⟩]

/-- The name under which the storage driver is announced. -/
def pluginName (driver : Option (Operand DriverSpec)) : String :=
  (driver.map (·.spec.pluginName)).getD defaultPluginName

instance : OperandPass DiscoverySpec where
  steps scene manager operand := do
    let read : Json → Option (Operand DriverSpec) := Operand.read?
    let driver ← Call.attempt (Api.find? (.operands .driver) singletonName read)
    .mk (pure (do
      let site ← Site.ofOperand operand manager scene.settings
      let config ← DiscoveryManifest.config site
      return stepsAt site (pluginName driver) config))
  workload := .deployment

end DiscoverySpec

namespace DriverSpec

def stepsAt (site : Site DriverSpec) : List Step :=
  let space := site.settings.operandNamespace
  [.of "ServiceAccountAvailable" (.serviceAccount space (DriverManifest.serviceAccount site)),
    .of "CSIDriverAvailable" (.csiDriver (DriverManifest.csiDriver site)),
    .of "SecurityContextConstraintsAvailable"
      (.securityConstraints (DriverManifest.securityConstraints site)),
    .of "DaemonSetAvailable" (.daemonSet space (DriverManifest.daemonSet site))]

instance : OperandPass DriverSpec where
  steps scene manager operand :=
    .mk (pure ((Site.ofOperand operand manager scene.settings).map stepsAt))
  workload := .daemonSet

end DriverSpec

end WorkloadIdentity

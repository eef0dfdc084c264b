import WorkloadIdentity.Manifest.Frame
import WorkloadIdentity.Manifest.Names
import WorkloadIdentity.Manifest.Parts

namespace WorkloadIdentity.AgentManifest

def name : String := OperandKind.agent.objectName

def configHashKey : String := "ztwim.openshift.io/spire-agent-config-hash"

def configFile : String := "agent.conf"

/-- The directory of the socket inside the container. -/
def socketDir : String := "/tmp/spire-agent/public"

def healthPort : Int := 9982

def metricsPort : Int := 9402

def configDir : String := "/opt/spire/conf/agent"

def bundleDir : String := "/run/spire/bundle"

def tokenDir : String := "/var/run/secrets/tokens"

/-- Where the certificates of the node's kubelet are mounted. -/
def hostCertDir : String := "/run/spire/kubelet-ca"

/-- The certificate of the API server, which every pod has. -/
def serviceAccountCa : String := "/var/run/secrets/kubernetes.io/serviceaccount/ca.crt"

variable (site : Site AgentSpec)

def serviceAccount : ServiceAccount := site.frame.serviceAccount name

/-- Agents read pods and nodes to find out what a workload is. -/
def clusterRole : Role .cluster :=
  site.frame.clusterRole name [
    .allow [""] ["pods", "nodes", "nodes/proxy"] ["get", "list", "watch"]]

def clusterRoleBinding : Binding .cluster := site.frame.clusterBinding name name

/-- The service for metrics. -/
def service : Service := site.frame.service name name "metrics" metricsPort

def securityConstraints : Untyped := site.frame.securityConstraints name name false

/-- How the agent verifies the kubelet. -/
def kubeletSettings (v : Verification) : Members :=
  match v.type with
  | .skip => [("skip_kubelet_verification", .bool true)]
  | .hostCert => [("kubelet_ca_path", .str (hostCertDir ++ "/" ++ v.hostCertFileName.getD ""))]
  | .auto | .apiServerCa => [("kubelet_ca_path", .str serviceAccountCa)]

def workloadAttestor (s : WorkloadAttestors) : Json :=
  if s.k8sEnabled then
    .obj [("k8s", .obj [("plugin_data", .obj ([
      ("disable_container_selectors", .bool s.disableContainerSelectors),
      ("node_name_env", .str "MY_NODE_NAME"),
      ("use_new_container_locator", .bool s.useNewContainerLocator),
      ("verbose_container_locator_logs", .bool false)] ++ kubeletSettings s.verification))])]
  else .obj [("unix", .obj [("plugin_data", .null)])]

def nodeAttestor : Members :=
  if site.spec.nodeAttestor.psatEnabled then
    [("NodeAttestor", .arr [.obj [("k8s_psat", .obj [
      ("plugin_data", .obj [("cluster", .str site.manager.clusterName)])])]])]
  else []

/-- The configuration of an agent. -/
def config : Json :=
  .obj [
    ("agent", .obj [("data_dir", .str "/var/lib/spire"), ("log_level", .str site.spec.logLevel),
      ("log_format", .str site.spec.logFormat),
      ("server_address", .str (serverServiceName ++ "." ++ site.settings.operandNamespace)),
      ("server_port", .str (toString serverServicePort)),
      ("socket_path", .str (socketDir ++ "/spire-agent.sock")),
      ("trust_bundle_path", .str (bundleDir ++ "/bundle.crt")),
      ("trust_domain", .str site.manager.trustDomain)]),
    ("health_checks", .obj [("bind_address", .str "0.0.0.0"),
      ("bind_port", .str (toString healthPort)), ("listener_enabled", .bool true),
      ("live_path", .str "/live"), ("ready_path", .str "/ready")]),
    ("plugins", .obj ([("KeyManager", .arr [.obj [("memory", .obj [("plugin_data", .null)])]])] ++
      nodeAttestor site ++
      [("WorkloadAttestor", .arr [workloadAttestor site.spec.workloadAttestors])])),
    ("telemetry", .obj [("Prometheus", .obj [("host", .str "0.0.0.0"),
      ("port", .str (toString metricsPort))])])]

def configMap : ConfigMap :=
  site.frame.configMap name configFile (configurationText (config site))

/-- Whether the certificates of the node are mounted. -/
def usesHostCert : Bool := site.spec.workloadAttestors.verification.type = .hostCert

def mounts : List VolumeMount :=
  [{ name := "spire-config", mountPath := configDir, readOnly := some true },
    { name := "spire-agent-persistence", mountPath := "/var/lib/spire", readOnly := some false },
    { name := "spire-bundle", mountPath := bundleDir, readOnly := some true },
    { name := "spire-agent-socket-dir", mountPath := socketDir, readOnly := some false },
    { name := "spire-token", mountPath := tokenDir, readOnly := some true }] ++
  if usesHostCert site then
    [{ name := "kubelet-ca", mountPath := hostCertDir, readOnly := some true }]
  else []

def volumes : List Volume :=
  [.ofConfigMap "spire-config" name,
    .ofEmptyDir "spire-agent-persistence",
    .ofConfigMap "spire-bundle" site.manager.bundleConfigMap,
    .ofHostPath "spire-agent-socket-dir" site.spec.socketPath "DirectoryOrCreate",
    .ofToken "spire-token" agentTokenAudience name 7200] ++
  if usesHostCert site then
    [.ofHostPath "kubelet-ca"
      (site.spec.workloadAttestors.verification.hostCertBasePath.getD "") "Directory"]
  else []

def container : Container :=
  { name
    image := some site.settings.images.agent
    args := some ["-config", configDir ++ "/" ++ configFile]
    env := some [.ofNodeName "MY_NODE_NAME"]
    volumeMounts := some (mounts site)
    others := Container.settings [portJson "healthz" healthPort, portJson "metrics" metricsPort]
      (some (probeJson "/live" "healthz" 15 60)) (some (probeJson "/ready" "healthz" 10 30))
      SecurityContext.confined }

def pod : PodSpec :=
  site.spec.placement.place
    { serviceAccountName := some name
      volumes := some (volumes site)
      others := [("dnsPolicy", .str "ClusterFirstWithHostNet"), ("hostNetwork", .bool true),
        ("hostPID", .bool true)] }
    (container site) []

/-- The workload; its pods carry the hash of the configuration, so that they are replaced when it
changes. -/
def daemonSet (configHash : String) : DaemonSet :=
  { metadata := site.frame.metadata name
    spec := some {
      WorkloadSpec.ofPods (Label.selector name) (site.frame.podLabels name)
        (.ofList [(configHashKey, configHash), (defaultContainerKey, name)])
        (pod site) with
      others := WorkloadSpec.oneAtATime } }

end WorkloadIdentity.AgentManifest

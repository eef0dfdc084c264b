import WorkloadIdentity.Manifest.Frame
import WorkloadIdentity.Manifest.Names
import WorkloadIdentity.Manifest.Parts
import WorkloadIdentity.Yaml.Printer

namespace WorkloadIdentity.ServerManifest

def name : String := OperandKind.server.objectName

def controllerManagerName : String := "spire-controller-manager"

/-- The role for the trust bundle and for electing a leader. -/
def bundleRoleName : String := "spire-bundle"

def configHashKey : String := "ztwim.openshift.io/spire-server-config-hash"

def controllerManagerHashKey : String :=
  "ztwim.openshift.io/spire-controller-manager-config-hash"

def configFile : String := "server.conf"

def controllerManagerFile : String := "controller-manager-config.yaml"

def grpcPort : Int := 8081

def healthPort : Int := 8080

def metricsPort : Int := 9402

def configDir : String := "/run/spire/config"

def dataDir : String := "/run/spire/data"

/-- The directory of the socket that server and controller manager share. -/
def socketDir : String := "/tmp/spire-server/private"

def socketPath : String := socketDir ++ "/api.sock"

variable (site : Site ServerSpec)

def serviceAccount : ServiceAccount := site.frame.serviceAccount name

/-- The server asks the API server to verify the tokens of the agents. -/
def clusterRole : Role .cluster :=
  site.frame.clusterRole name [
    .allow ["authentication.k8s.io"] ["tokenreviews"] ["create"],
    .allow [""] ["pods", "nodes"] ["get", "list", "watch"]]

def clusterRoleBinding : Binding .cluster := site.frame.clusterBinding name name

def controllerManagerRole : Role .cluster :=
  site.frame.clusterRole controllerManagerName [
    .allow [""] ["namespaces", "pods", "nodes", "endpoints"] ["get", "list", "watch"],
    .allow ["admissionregistration.k8s.io"] ["validatingwebhookconfigurations"]
      ["get", "list", "patch", "watch"],
    .allow ["spire.spiffe.io"]
      ["clusterfederatedtrustdomains", "clusterspiffeids", "clusterstaticentries"]
      ["get", "list", "patch", "update", "watch"],
    .allow ["spire.spiffe.io"]
      ["clusterfederatedtrustdomains/status", "clusterspiffeids/status",
        "clusterstaticentries/status"]
      ["get", "patch", "update"]]

def controllerManagerRoleBinding : Binding .cluster :=
  site.frame.clusterBinding controllerManagerName name

/-- The role to write the one config map with the trust bundle, and the leases for electing a
leader. -/
def bundleRole : Role .namespaced :=
  { metadata := site.frame.metadata bundleRoleName
    rules := some [
      { PolicyRule.allow [""] ["configmaps"] ["get", "patch", "update"] with
        resourceNames := some [site.manager.bundleConfigMap] },
      .allow ["coordination.k8s.io"] ["leases"]
        ["create", "get", "list", "patch", "update", "watch", "delete"]] }

def bundleRoleBinding : Binding .namespaced :=
  { metadata := site.frame.metadata bundleRoleName
    roleRef := .ofKind "Role" bundleRoleName
    subjects := some [site.frame.subject name] }

/-- The service that agents reach the server by. -/
def service : Service := site.frame.service serverServiceName name "grpc" serverServicePort

/-- A list of one text, or of none if the text is empty. -/
def nonEmpty (text : String) : Json := Json.strings (if text = "" then [] else [text])

def subjectJson (s : CaSubject) : Json :=
  .arr [.obj [("common_name", .str s.commonName), ("country", nonEmpty s.country),
    ("organization", nonEmpty s.organization)]]

def portText (port : Int) : Json := .str (toString port)

/-- The section on the server itself. -/
def serverSection : Json :=
  let spec := site.spec
  .obj ([("audit_log_enabled", .bool false), ("bind_address", .str "0.0.0.0"),
    ("bind_port", portText grpcPort), ("ca_key_type", .str spec.caKeyType),
    ("ca_ttl", .str spec.caValidity), ("data_dir", .str dataDir),
    ("default_jwt_svid_ttl", .str spec.defaultJwtValidity),
    ("default_x509_svid_ttl", .str spec.defaultX509Validity),
    ("jwt_issuer", .str spec.jwtIssuer), ("log_format", .str spec.logFormat),
    ("log_level", .str spec.logLevel), ("socket_path", .str socketPath),
    ("trust_domain", .str site.manager.trustDomain)] ++
    Json.optional "ca_subject" (spec.caSubject.map subjectJson))

/-- A plugin with its data. -/
def plugin (name : String) (data : Json) : Json :=
  .arr [.obj [(name, .obj [("plugin_data", data)])]]

def databaseJson (d : Datastore) : Json :=
  .obj [("database_type", .str d.databaseType), ("connection_string", .str d.connectionString),
    ("max_open_conns", .int d.maxOpenConns), ("max_idle_conns", .int d.maxIdleConns),
    ("conn_max_lifetime", .str (toString d.connMaxLifetime ++ "s")),
    ("disable_migration", .bool d.disableMigration)]

/-- The cluster whose agents are let in. -/
def clusterJson : Json :=
  .obj [(site.manager.clusterName, .obj [
    ("service_account_allow_list",
      Json.strings [site.settings.operandNamespace ++ ":" ++ agentName]),
    ("audience", Json.strings [agentTokenAudience])])]

/-- The configuration of the server. -/
def config : Json :=
  .obj [("server", serverSection site),
    ("health_checks", .obj [("bind_address", .str "0.0.0.0"), ("bind_port", portText healthPort),
      ("listener_enabled", .bool true), ("live_path", .str "/live"),
      ("ready_path", .str "/ready")]),
    ("plugins", .obj [
      ("DataStore", plugin "sql" (databaseJson site.spec.datastore)),
      ("KeyManager", plugin "disk" (.obj [("keys_path", .str (dataDir ++ "/keys.json"))])),
      ("NodeAttestor", plugin "k8s_psat" (.obj [("clusters", .arr [clusterJson site])])),
      ("Notifier", plugin "k8sbundle" (.obj [
        ("namespace", .str site.settings.operandNamespace),
        ("config_map", .str site.manager.bundleConfigMap)]))]),
    ("telemetry", .obj [("Prometheus", .obj [("host", .str "0.0.0.0"),
      ("port", portText metricsPort)])])]

/-- The configuration of the controller manager. -/
def controllerManagerConfig : Json :=
  let space := site.settings.operandNamespace
  .obj [("apiVersion", .str "spire.spiffe.io/v1alpha1"), ("kind", .str "ControllerManagerConfig"),
    ("metadata", .obj [("name", .str controllerManagerName)]),
    ("metrics", .obj [("bindAddress", .str "0.0.0.0:8082")]),
    ("health", .obj [("healthProbeBindAddress", .str "0.0.0.0:8083")]),
    ("leaderElection", .obj [("leaderElect", .bool true),
      ("resourceName", .str "98c9c988.spiffe.io"), ("resourceNamespace", .str space)]),
    ("validatingWebhookConfigurationName", .str "spire-controller-manager-webhook"),
    ("entryIDPrefix", .str (site.manager.clusterName ++ ".")),
    ("clusterName", .str site.manager.clusterName),
    ("trustDomain", .str site.manager.trustDomain),
    ("watchClassless", .bool false),
    ("className", .str (identityClass space)),
    ("spireServerSocketPath", .str socketPath),
    ("ignoreNamespaces", Json.strings ["kube-system", "kube-public", "openshift-*", space])]

def configMap : ConfigMap :=
  site.frame.configMap name configFile (configurationText (config site))

def controllerManagerConfigMap : ConfigMap :=
  site.frame.configMap controllerManagerName controllerManagerFile
    (Yaml.text (controllerManagerConfig site))

/-- The config map for the trust bundle; the server fills it in. -/
def bundleConfigMap : ConfigMap :=
  { metadata := site.frame.metadata site.manager.bundleConfigMap }

def serverContainer : Container :=
  { name
    image := some site.settings.images.server
    args := some ["-config", configDir ++ "/" ++ configFile]
    volumeMounts := some [
      { name := "spire-server-socket", mountPath := socketDir, readOnly := some false },
      { name := "spire-config", mountPath := configDir, readOnly := some true },
      { name := "spire-data", mountPath := dataDir, readOnly := some false }]
    others := Container.settings
      [portJson "grpc" grpcPort, portJson "healthz" healthPort, portJson "metrics" metricsPort]
      (some (probeJson "/live" "healthz" 15 60)) (some (probeJson "/ready" "healthz" 5 5))
      SecurityContext.restricted }

def controllerManagerContainer : Container :=
  { name := controllerManagerName
    image := some site.settings.images.controllerManager
    args := some ["--config=" ++ controllerManagerFile]
    volumeMounts := some [
      { name := "spire-server-socket", mountPath := socketDir, readOnly := some true },
      { name := "controller-manager-config", mountPath := "/" ++ controllerManagerFile,
        readOnly := some true, others := [("subPath", .str controllerManagerFile)] }]
    others := Container.settings
      [portJson "https" 9443, portJson "cm-healthz" 8083, portJson "cm-metrics" 8082]
      (some (probeJson "/healthz" "cm-healthz" 10 30))
      (some (probeJson "/readyz" "cm-healthz" 5 10))
      SecurityContext.restricted }

def pod : PodSpec :=
  site.spec.placement.place
    { serviceAccountName := some name
      volumes := some [
        .ofConfigMap "spire-config" name,
        .ofEmptyDir "spire-server-socket",
        .ofConfigMap "controller-manager-config" controllerManagerName]
      others := [("shareProcessNamespace", .bool true)] }
    (serverContainer site) [controllerManagerContainer site]

/-- The claim on the volume that the server keeps its data on. -/
def dataClaim (p : Persistence) : Json :=
  .obj [("apiVersion", .str "v1"), ("kind", .str "PersistentVolumeClaim"),
    ("metadata", .obj [("name", .str "spire-data")]),
    ("spec", .obj ([("accessModes", Json.strings [p.accessMode]),
      ("resources", .obj [("requests", .obj [("storage", .str p.size)])])] ++
      Json.optionalText "storageClassName" p.storageClass))]

/-- The workload; its pods carry the hashes of both configurations, so that they are replaced when
a configuration changes. -/
def statefulSet (configHash controllerManagerHash : String) : StatefulSet :=
  { metadata := site.frame.metadata name
    spec := some {
      WorkloadSpec.ofPods (Label.selector name) (site.frame.podLabels name)
        (.ofList [(configHashKey, configHash),
          (controllerManagerHashKey, controllerManagerHash),
          (defaultContainerKey, name)])
        (pod site) with
      replicas := some 1
      volumeClaimTemplates := some [dataClaim site.spec.persistence]
      others := [("serviceName", .str serverServiceName)] } }

end WorkloadIdentity.ServerManifest

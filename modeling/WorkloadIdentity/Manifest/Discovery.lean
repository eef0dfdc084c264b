import WorkloadIdentity.Identity.SpiffeId
import WorkloadIdentity.Manifest.Frame
import WorkloadIdentity.Manifest.Names
import WorkloadIdentity.Manifest.Parts

namespace WorkloadIdentity.DiscoveryManifest

def name : String := OperandKind.discovery.objectName

def routeName : String := "spire-oidc-discovery-provider"

/-- The name of the request for an identity. -/
def identityName : String := "zero-trust-workload-identity-manager-spire-oidc-discovery-provider"

def configHashKey : String := "ztwim.openshift.io/spire-oidc-discovery-provider-config-hash"

def configFile : String := "oidc-discovery-provider.conf"

/-- The secret that the cluster writes the certificate of the service to. -/
def certificateSecret : String := "oidc-serving-cert"

/-- The annotation that asks the cluster for a certificate. -/
def certificateKey : String := "service.beta.openshift.io/serving-cert-secret-name"

def httpsPort : Int := 8443

def healthPort : Int := 8008

def configDir : String := "/run/spire/oidc/config"

def certificateDir : String := "/etc/oidc/tls"

def workloadApiDir : String := "/spiffe-workload-api"

/-- The host of an issuer, which the objects are made for. -/
def issuerHost (issuer : String) : Except Fault String :=
  match Issuer.host? issuer with
  | some host => .ok host
  | none => .error (.invalidSpec ("jwtIssuer: no host in " ++ quoted issuer))

variable (site : Site DiscoverySpec)

def serviceAccount : ServiceAccount := site.frame.serviceAccount name

def service : Service :=
  let service := site.frame.service name name "https" 443
  { service with
    metadata := { service.metadata with
      annotations := some (.ofList [(certificateKey, certificateSecret)]) } }

/-- The request for the identity of the provider. -/
def identity : Except Fault Untyped := do
  let space := site.settings.operandNamespace
  let id ← SpiffeId.forServiceAccount site.manager.trustDomain space name
  let host ← issuerHost site.spec.jwtIssuer
  return {
    type := some ("spire.spiffe.io/v1alpha1", "ClusterSPIFFEID")
    metadata := site.frame.clusterMetadata identityName
    data := [("spec", .obj [
      ("className", .str (identityClass space)),
      ("spiffeIDTemplate", .str id.uri),
      ("dnsNameTemplates", Json.strings [name ++ "." ++ space ++ ".svc", host]),
      ("podSelector", .obj [("matchLabels", .obj [(Label.name, .str name)])]),
      ("namespaceSelector", .obj [
        ("matchLabels", .obj [("kubernetes.io/metadata.name", .str space)])])])] }

/-- The names that the provider answers to; the host of the issuer comes last. -/
def domains (host : String) : List String :=
  let space := site.settings.operandNamespace
  let inside := [name, name ++ "." ++ space, name ++ "." ++ space ++ ".svc.cluster.local"]
  if host ∈ inside then inside else inside ++ [host]

/-- The configuration of the provider. -/
def config : Except Fault Json := do
  let host ← issuerHost site.spec.jwtIssuer
  return .obj [
    ("domains", Json.strings (domains site host)),
    ("health_checks", .obj [("bind_port", .str (toString healthPort)), ("live_path", .str "/live"),
      ("ready_path", .str "/ready")]),
    ("log_level", .str site.spec.logLevel),
    ("serving_cert_file", .obj [("addr", .str (":" ++ toString httpsPort)),
      ("cert_file_path", .str (certificateDir ++ "/tls.crt")),
      ("key_file_path", .str (certificateDir ++ "/tls.key"))]),
    ("workload_api", .obj [
      ("socket_path", .str (workloadApiDir ++ "/" ++ site.spec.agentSocketName)),
      ("trust_domain", .str site.manager.trustDomain)])]

def configMap (config : Json) : ConfigMap :=
  site.frame.configMap name configFile (configurationText config)

def container : Container :=
  { name
    image := some site.settings.images.discovery
    args := some ["-config", configDir ++ "/" ++ configFile]
    volumeMounts := some [
      { name := "spiffe-workload-api", mountPath := workloadApiDir, readOnly := some true },
      { name := "spire-oidc-config", mountPath := configDir, readOnly := some true },
      { name := "tls-certs", mountPath := certificateDir, readOnly := some true }]
    others := Container.settings [portJson "https" httpsPort, portJson "healthz" healthPort]
      (some (probeJson "/live" "healthz" 5 5)) (some (probeJson "/ready" "healthz" 5 5))
      SecurityContext.unprivileged }

/-- The pod; the storage driver of the given name mounts the socket of the agent. -/
def pod (plugin : String) : PodSpec :=
  site.spec.placement.place
    { serviceAccountName := some name
      volumes := some [
        .ofDriver "spiffe-workload-api" plugin,
        .ofConfigMap "spire-oidc-config" name,
        .ofSecret "tls-certs" certificateSecret] }
    (container site) []

/-- The workload; its pods carry the hash of the configuration, so that they are replaced when it
changes. -/
def deployment (plugin configHash : String) : Deployment :=
  { metadata := site.frame.metadata name
    spec := some {
      WorkloadSpec.ofPods (Label.selector name) (site.frame.podLabels name)
        (.ofList [(configHashKey, configHash)]) (pod site plugin) with
      replicas := some site.spec.replicaCount } }

/-- The route to the service, if it is looked after. -/
def route : Except Fault (Option Untyped) := do
  if !site.spec.managedRoute then return none
  let host ← issuerHost site.spec.jwtIssuer
  return some {
    type := some ("route.openshift.io/v1", "Route")
    metadata := site.frame.metadata routeName
    data := [("spec", .obj [
      ("host", .str host),
      ("port", .obj [("targetPort", .str "https")]),
      ("tls", .obj [("termination", .str "reencrypt"),
        ("insecureEdgeTerminationPolicy", .str "Redirect")]),
      ("to", .obj [("kind", .str "Service"), ("name", .str name), ("weight", .int 100)]),
      ("wildcardPolicy", .str "None")])] }

end WorkloadIdentity.DiscoveryManifest

import WorkloadIdentity.Proofs.Driving
import WorkloadIdentity.Proofs.Identities

/-!
# The objects of the operands fit together

The objects of one operand rely on names that objects of another one carry: the agents look for the
server under its service, the server lets in the account of the agents, the controller manager looks
after the class of identities that is asked for. What makes the objects of one operand never asks
for those of another, and yet what one relies on is what another one sets up.

* `Service.Reaches` says that a service finds the pods of a workload and a port of theirs; by
  `ServerSpec.served` and its like every service of an operand does.
* `Installation.build` makes what the objects of all operands are made from.
* `Blueprint.Agree` lists what has to fit together.
* `manifests_agree`: whatever can be built fits together.
-/

namespace WorkloadIdentity

/-! ## Reading objects -/

namespace Json

/-- The text that a path leads to. -/
def textOn (v : Json) (path : List String) : Option String := (v.follow path).bind str?

/-- The data of the first plugin of a name and a type in a configuration. -/
def pluginData? (config : Json) (type name : String) : Option Json :=
  match config.follow ["plugins", type] with
  | some (.arr plugins) => plugins.findSome? (·.follow [name, "plugin_data"])
  | _ => none

end Json

/-- The names of the ports of a container. -/
def Container.portNames (c : Container) : List String :=
  (((Json.obj c.others).itemsAt "ports").getD []).filterMap (·.textAt "name")

/-- The audiences of the tokens in a volume. -/
def Volume.tokenAudiences (v : Volume) : List String :=
  match v.toJson.follow ["projected", "sources"] with
  | some (.arr sources) => sources.filterMap (·.textOn ["serviceAccountToken", "audience"])
  | _ => []

namespace PodSpec

def tokenAudiences (pod : PodSpec) : List String :=
  (pod.volumes.getD []).flatMap Volume.tokenAudiences

/-- The config map behind a volume. -/
def configMapOf? (pod : PodSpec) (volume : String) : Option String :=
  ((pod.volumes.getD []).find? (·.name = volume)).bind (·.toJson.textOn ["configMap", "name"])

/-- The storage driver behind a volume. -/
def driverOf? (pod : PodSpec) (volume : String) : Option String :=
  ((pod.volumes.getD []).find? (·.name = volume)).bind (·.toJson.textOn ["csi", "driver"])

end PodSpec

/-- The pods of a workload. -/
def Workload.pod {kind : WorkloadKind} (w : Workload kind) : PodSpec :=
  (w.spec.bind (·.template.spec)).getD {}

/-- The labels of the pods of a workload. -/
def Workload.podLabels {kind : WorkloadKind} (w : Workload kind) : Labels :=
  (w.spec.bind (·.template.metadata.bind (·.labels))).getD ∅

/-! ## Services and their pods -/

/-- A service finds the pods of a workload, and sends on to ports that they have. -/
structure Service.Reaches {kind : WorkloadKind} (s : Service) (w : Workload kind) : Prop where
  space : s.metadata.namespaceName = w.metadata.namespaceName
  selector : ∃ spec selector, s.spec = some spec ∧ spec.selector = some selector ∧
    ∀ key value, selector.get? key = some value → w.podLabels.get? key = some value
  ports : ∃ spec ports, s.spec = some spec ∧ spec.ports = some ports ∧
    ∀ p ∈ ports, ∃ name, p.targetPort = some (.name name) ∧
      ∃ c ∈ w.pod.containers, name ∈ c.portNames

/-- Every service among the objects reaches the pods of a workload among them. -/
def Served (objects : List Wanted) : Prop :=
  ∀ (s : Service) (c : Collection), ⟨.service, s, c⟩ ∈ objects →
    ∃ (kind : WorkloadKind) (w : Workload kind) (c : Collection),
      ⟨.workload kind, w, c⟩ ∈ objects ∧ s.Reaches w

namespace Frame

variable (f : Frame)

theorem get?_podLabels {object key value : String}
    (h : (Label.selector object).get? key = some value) :
    (f.podLabels object).get? key = some value := by
  rw [podLabels, StringMap.get?_merge, h]
  rfl

/-- A service finds the pods that carry the labels of its object, whatever labels are chosen. -/
theorem reaches_service {kind : WorkloadKind} {w : Workload kind} {s : Service}
    (name : String) {object port : String} {number : Int}
    (space : s.metadata.namespaceName = w.metadata.namespaceName)
    (spec : s.spec = (f.service name object port number).spec)
    (labels : w.podLabels = f.podLabels object) (c : Container) (hc : c ∈ w.pod.containers)
    (has : port ∈ c.portNames) : s.Reaches w where
  space
  selector := by
    refine ⟨_, Label.selector object, spec, rfl, ?_⟩
    intro key value h
    rw [labels]
    exact f.get?_podLabels h
  ports := by
    refine ⟨_, _, spec, rfl, ?_⟩
    intro p hp
    cases List.mem_singleton.1 hp
    exact ⟨port, rfl, c, hc, has⟩

end Frame

theorem ServerSpec.served (site : Site ServerSpec) : Served (Step.wanteds (stepsAt site)) := by
  intro s c mem
  simp only [stepsAt, Step.wanteds, Step.of, List.filterMap_cons, List.filterMap_nil,
    List.mem_cons, List.not_mem_nil, or_false] at mem
  -- Of all objects, only the service is one.
  rcases mem with h | h | h | h | h | h | h | h | h | h | h | h <;> cases h
  have has : "grpc" ∈ (ServerManifest.serverContainer site).portNames := List.mem_cons_self
  exact ⟨_, _, _, List.mem_of_getLast? rfl,
    site.frame.reaches_service _ rfl rfl rfl _ List.mem_cons_self has⟩

theorem AgentSpec.served (site : Site AgentSpec) : Served (Step.wanteds (stepsAt site)) := by
  intro s c mem
  simp only [stepsAt, Step.wanteds, Step.of, List.filterMap_cons, List.filterMap_nil,
    List.mem_cons, List.not_mem_nil, or_false] at mem
  rcases mem with h | h | h | h | h | h | h <;> cases h
  have has : "metrics" ∈ (AgentManifest.container site).portNames :=
    List.mem_cons_of_mem _ List.mem_cons_self
  exact ⟨_, _, _, List.mem_of_getLast? rfl,
    site.frame.reaches_service _ rfl rfl rfl _ List.mem_cons_self has⟩

/-- The provider has a service, and the request for its identity and its route are not services. -/
theorem DiscoverySpec.served (site : Site DiscoverySpec) (plugin : String) (config : Json) :
    Served (Step.wanteds (stepsAt site plugin config)) := by
  obtain ⟨identities, routes, list, identity, route⟩ := wanteds_stepsAt site plugin config
  rw [list]
  intro s c mem
  have has : "https" ∈ (DiscoveryManifest.container site).portNames := List.mem_cons_self
  have service : s = DiscoveryManifest.service site := by
    simp only [List.mem_cons, List.mem_append, List.not_mem_nil, or_false] at mem
    rcases mem with h | h | (h | h | h) | h
    · cases h
    · cases h
      rfl
    · rcases identity with rfl | ⟨o, -, rfl⟩
      · cases h
      · cases List.mem_singleton.1 h
    · cases h
    · cases h
    · rcases route with rfl | ⟨o, -, rfl⟩
      · cases h
      · cases List.mem_singleton.1 h
  subst service
  refine ⟨.deployment, DiscoveryManifest.deployment site plugin (Fingerprint.ofJson config),
    .deployments site.settings.operandNamespace, ?_,
    site.frame.reaches_service DiscoveryManifest.name rfl rfl rfl _ List.mem_cons_self has⟩
  simp [Wanted.deployment]

/-- The storage driver has no service. -/
theorem DriverSpec.served (site : Site DriverSpec) : Served (Step.wanteds (stepsAt site)) := by
  intro s c mem
  simp only [stepsAt, Step.wanteds, Step.of, List.filterMap_cons, List.filterMap_nil,
    List.mem_cons, List.not_mem_nil, or_false] at mem
  rcases mem with h | h | h | h <;> cases h

/-! ## All that is made under one manager -/

/-- A manager, the settings and the four operands. -/
structure Installation where
  manager : ManagerSpec
  settings : Settings
  server : Operand ServerSpec
  agent : Operand AgentSpec
  discovery : Operand DiscoverySpec
  driver : Operand DriverSpec

/-- What the objects of the operands are made from. -/
structure Blueprint where
  server : Site ServerSpec
  agent : Site AgentSpec
  discovery : Site DiscoverySpec
  driver : Site DriverSpec
  /-- The name under which the discovery provider looks for the storage driver. -/
  plugin : String
  /-- The configuration of the discovery provider. -/
  config : Json
  /-- The request for the identity of the discovery provider. -/
  identity : Untyped

/-- What the objects are made from, if all of them can be made. -/
def Installation.build (i : Installation) : Except Fault Blueprint := do
  let server ← Site.ofOperand i.server i.manager i.settings
  let agent ← Site.ofOperand i.agent i.manager i.settings
  let discovery ← Site.ofOperand i.discovery i.manager i.settings
  let driver ← Site.ofOperand i.driver i.manager i.settings
  let config ← DiscoveryManifest.config discovery
  let identity ← DiscoveryManifest.identity discovery
  return { server, agent, discovery, driver, config, identity,
           plugin := DiscoverySpec.pluginName (some i.driver) }

namespace Blueprint

variable (b : Blueprint)

def serverConfig : Json := ServerManifest.config b.server

def controllerManagerConfig : Json := ServerManifest.controllerManagerConfig b.server

def agentConfig : Json := AgentManifest.config b.agent

def agentDaemonSet : DaemonSet :=
  AgentManifest.daemonSet b.agent (Fingerprint.ofJson b.agentConfig)

def deployment : Deployment :=
  DiscoveryManifest.deployment b.discovery b.plugin (Fingerprint.ofJson b.config)

/-- The request for the identity as a value. -/
def request : Json := .obj b.identity.data

/-- The objects of each operand, in the order in which they are applied. -/
def objects : OperandKind → List Wanted
  | .server => Step.wanteds (ServerSpec.stepsAt b.server)
  | .agent => Step.wanteds (AgentSpec.stepsAt b.agent)
  | .discovery => Step.wanteds (DiscoverySpec.stepsAt b.discovery b.plugin b.config)
  | .driver => Step.wanteds (DriverSpec.stepsAt b.driver)

/-- All configurations name one trust domain. -/
def NamesOneTrustDomain : Prop := ∃ domain,
  b.agentConfig.textOn ["agent", "trust_domain"] = some domain ∧
  b.serverConfig.textOn ["server", "trust_domain"] = some domain ∧
  b.controllerManagerConfig.textOn ["trustDomain"] = some domain ∧
  b.config.textOn ["workload_api", "trust_domain"] = some domain

/-- What the server asks of the agents of a cluster fits a daemon set: the account of its pods is
let in, and so is the audience of their token. -/
structure Admits (entry : Json) (agents : DaemonSet) : Prop where
  account : ∃ space account, agents.metadata.namespaceName = some space ∧
    agents.pod.serviceAccountName = some account ∧
    entry.follow ["service_account_allow_list"] = some (Json.strings [space ++ ":" ++ account])
  audience : ∃ audience audiences, agents.pod.tokenAudiences = [audience] ∧
    entry.follow ["audience"] = some (Json.strings audiences) ∧ audience ∈ audiences

/-- The agents name the one cluster that the server lets in and that the controller manager looks
after, and the server lets in their pods. -/
def LetsAgentsIn : Prop := ∃ attestor cluster entry,
  b.serverConfig.pluginData? "NodeAttestor" "k8s_psat" = some attestor ∧
  attestor.follow ["clusters"] = some (.arr [.obj [(cluster, entry)]]) ∧
  b.controllerManagerConfig.textOn ["clusterName"] = some cluster ∧
  (b.agent.spec.nodeAttestor.psatEnabled = true → ∃ data,
    b.agentConfig.pluginData? "NodeAttestor" "k8s_psat" = some data ∧
    data.textOn ["cluster"] = some cluster) ∧
  Admits entry b.agentDaemonSet

/-- The agents read the trust bundle from the config map that the server writes it to, and may. -/
def HandsOverBundle : Prop := ∃ bundle,
  (ServerManifest.bundleConfigMap b.server).metadata.name = some bundle ∧
  (∃ c ∈ b.agentDaemonSet.pod.containers, ∃ m ∈ c.volumeMounts.getD [],
    b.agentConfig.textOn ["agent", "trust_bundle_path"] = some (m.mountPath ++ "/bundle.crt") ∧
    b.agentDaemonSet.pod.configMapOf? m.name = some bundle) ∧
  (∃ notifier, b.serverConfig.pluginData? "Notifier" "k8sbundle" = some notifier ∧
    notifier.textOn ["config_map"] = some bundle) ∧
  ∃ rules, (ServerManifest.bundleRole b.server).rules = some rules ∧ ∃ rule ∈ rules,
    rule.resources = some ["configmaps"] ∧ rule.resourceNames = some [bundle]

/-- The agents look for the server at the address of its service. -/
def FindsServer : Prop := ∃ name space spec port,
  (ServerManifest.service b.server).metadata.name = some name ∧
  (ServerManifest.service b.server).metadata.namespaceName = some space ∧
  (ServerManifest.service b.server).spec = some spec ∧ spec.ports = some [port] ∧
  b.agentConfig.textOn ["agent", "server_address"] = some (name ++ "." ++ space) ∧
  b.agentConfig.textOn ["agent", "server_port"] = some (toString port.port)

/-- The identity of the discovery provider is asked of the controller manager, for the pods of the
provider and after their account. -/
def AsksForIdentity : Prop := ∃ className domain space account labels,
  b.controllerManagerConfig.textOn ["className"] = some className ∧
  b.controllerManagerConfig.textOn ["trustDomain"] = some domain ∧
  b.deployment.metadata.namespaceName = some space ∧
  b.deployment.pod.serviceAccountName = some account ∧
  b.request.textOn ["spec", "className"] = some className ∧
  b.request.textOn ["spec", "spiffeIDTemplate"] =
    some ("spiffe://" ++ domain ++ "/ns/" ++ space ++ "/sa/" ++ account) ∧
  b.request.textOn ["spec", "namespaceSelector", "matchLabels", "kubernetes.io/metadata.name"] =
    some space ∧
  b.request.follow ["spec", "podSelector", "matchLabels"] = some (Json.ofStrings labels) ∧
  ∀ key value, labels.get? key = some value → b.deployment.podLabels.get? key = some value

/-- The discovery provider has the socket of the agents from the storage driver that is
announced. -/
def MountsSocket : Prop := ∃ plugin,
  (DriverManifest.csiDriver b.driver).metadata.name = some plugin ∧
  ∃ c ∈ b.deployment.pod.containers, ∃ m ∈ c.volumeMounts.getD [],
    b.config.textOn ["workload_api", "socket_path"] =
      some (m.mountPath ++ "/" ++ b.discovery.spec.agentSocketName) ∧
    b.deployment.pod.driverOf? m.name = some plugin

/-- The route, if there is one, leads to the service of the discovery provider. -/
def RoutesToService : Prop := ∀ route, DiscoveryManifest.route b.discovery = .ok (some route) →
  ∃ name spec port portName,
    (DiscoveryManifest.service b.discovery).metadata.name = some name ∧
    (DiscoveryManifest.service b.discovery).spec = some spec ∧ spec.ports = some [port] ∧
    port.name = some portName ∧
    (Json.obj route.data).textOn ["spec", "to", "name"] = some name ∧
    (Json.obj route.data).textOn ["spec", "port", "targetPort"] = some portName

/-- What the objects of one operand rely on is what the objects of another one set up. -/
structure Agree : Prop where
  trustDomain : b.NamesOneTrustDomain
  cluster : b.LetsAgentsIn
  bundle : b.HandsOverBundle
  address : b.FindsServer
  services : ∀ kind, Served (b.objects kind)
  identity : b.AsksForIdentity
  plugin : b.MountsSocket
  route : b.RoutesToService

end Blueprint

/-! ## What has been built -/

/-- A site is under a manager and has these settings. -/
structure Site.IsUnder {σ : Type} (site : Site σ) (m : ManagerSpec) (s : Settings) : Prop where
  manager : site.manager = m
  settings : site.settings = s
  space : site.frame.namespaceName = s.operandNamespace

theorem Site.isUnder_of_ofOperand {σ : Type} [OperandSpec σ] {o : Operand σ} {m : ManagerSpec}
    {s : Settings} {site : Site σ} (h : Site.ofOperand o m s = .ok site) : site.IsUnder m s := by
  obtain ⟨owner, -, rfl⟩ := exists_owner h
  exact ⟨rfl, rfl, rfl⟩

/-- A blueprint of an installation: all sites are under its manager and have its settings. -/
structure Blueprint.IsOf (b : Blueprint) (i : Installation) : Prop where
  server : b.server.IsUnder i.manager i.settings
  agent : b.agent.IsUnder i.manager i.settings
  discovery : b.discovery.IsUnder i.manager i.settings
  plugin : b.plugin = b.driver.spec.pluginName
  config : DiscoveryManifest.config b.discovery = .ok b.config
  identity : DiscoveryManifest.identity b.discovery = .ok b.identity

theorem Installation.isOf_of_build {i : Installation} {b : Blueprint} (h : i.build = .ok b) :
    b.IsOf i := by
  obtain ⟨server, hserver, h⟩ := exists_of_bind_ok h
  obtain ⟨agent, hagent, h⟩ := exists_of_bind_ok h
  obtain ⟨discovery, hdiscovery, h⟩ := exists_of_bind_ok h
  obtain ⟨driver, hdriver, h⟩ := exists_of_bind_ok h
  obtain ⟨config, hconfig, h⟩ := exists_of_bind_ok h
  obtain ⟨identity, hidentity, h⟩ := exists_of_bind_ok h
  cases h
  exact {
    server := Site.isUnder_of_ofOperand hserver
    agent := Site.isUnder_of_ofOperand hagent
    discovery := Site.isUnder_of_ofOperand hdiscovery
    plugin := by rw [(Site.of_ofOperand hdriver).1]; rfl
    config := hconfig
    identity := hidentity }

/-! ## What the objects say -/

namespace AgentManifest

variable (site : Site AgentSpec)

theorem nodeAttestor_config (enabled : site.spec.nodeAttestor.psatEnabled = true) :
    (config site).pluginData? "NodeAttestor" "k8s_psat" =
      some (.obj [("cluster", .str site.manager.clusterName)]) := by
  unfold config nodeAttestor
  rw [if_pos enabled]
  rfl

/-- Whether the certificates of the node are mounted or not, the pods have one token. -/
theorem tokenAudiences_pod : (pod site).tokenAudiences = [agentTokenAudience] := by
  change (volumes site).flatMap Volume.tokenAudiences = _
  unfold volumes
  split <;> rfl

theorem configMapOf?_pod :
    (pod site).configMapOf? "spire-bundle" = some site.manager.bundleConfigMap := by
  change ((volumes site).find? _).bind _ = _
  unfold volumes
  split <;> rfl

theorem mem_mounts :
    { name := "spire-bundle", mountPath := bundleDir, readOnly := some true } ∈ mounts site := by
  simp [mounts]

end AgentManifest

/-- The server lets in the one cluster of its manager, and there the pods of the agents that stand
in its namespace. -/
theorem ServerManifest.admits (server : Site ServerSpec) (agent : Site AgentSpec) (hash : String)
    (space : agent.frame.namespaceName = server.settings.operandNamespace) :
    ∃ attestor entry,
      (ServerManifest.config server).pluginData? "NodeAttestor" "k8s_psat" = some attestor ∧
      attestor.follow ["clusters"] = some (.arr [.obj [(server.manager.clusterName, entry)]]) ∧
      Blueprint.Admits entry (AgentManifest.daemonSet agent hash) := by
  refine ⟨_, _, rfl, rfl, ?_, ?_⟩
  · refine ⟨agent.frame.namespaceName, agentName, rfl, rfl, ?_⟩
    rw [space]
    rfl
  · exact ⟨agentTokenAudience, _, AgentManifest.tokenAudiences_pod agent, rfl, List.mem_cons_self⟩

namespace DiscoveryManifest

variable {site : Site DiscoverySpec}

/-- What the configuration says of the workload API. -/
theorem workloadApi_config {config : Json} (h : DiscoveryManifest.config site = .ok config) :
    config.textOn ["workload_api", "trust_domain"] = some site.manager.trustDomain ∧
    config.textOn ["workload_api", "socket_path"] =
      some (workloadApiDir ++ "/" ++ site.spec.agentSocketName) := by
  obtain ⟨host, -, h⟩ := exists_of_bind_ok h
  cases h
  exact ⟨rfl, rfl⟩

/-- The identity of the account is asked for, in the class of the namespace and for its pods. -/
theorem data_identity {o : Untyped} (h : identity site = .ok o) :
    (Json.obj o.data).textOn ["spec", "className"] =
      some (identityClass site.settings.operandNamespace) ∧
    (Json.obj o.data).textOn ["spec", "spiffeIDTemplate"] = some ("spiffe://" ++
      site.manager.trustDomain ++ "/ns/" ++ site.settings.operandNamespace ++ "/sa/" ++ name) ∧
    (Json.obj o.data).textOn
      ["spec", "namespaceSelector", "matchLabels", "kubernetes.io/metadata.name"] =
      some site.settings.operandNamespace ∧
    (Json.obj o.data).follow ["spec", "podSelector", "matchLabels"] =
      some (Json.ofStrings (.ofList [(Label.name, name)])) := by
  obtain ⟨id, made, h⟩ := exists_of_bind_ok h
  obtain ⟨host, -, h⟩ := exists_of_bind_ok h
  cases h
  refine ⟨rfl, ?_, rfl, rfl⟩
  rw [(SpiffeId.new_eq_ok_iff.1 made).1]
  simp only [String.append_assoc]
  rfl

end DiscoveryManifest

/-- The name is one of the labels that pods are found by. -/
theorem Label.get?_selector_of_name {object key value : String}
    (h : (StringMap.ofList [(Label.name, object)]).get? key = some value) :
    (Label.selector object).get? key = some value := by
  have apart : Label.name ≠ Label.instanceName := by decide
  simp only [selector, StringMap.ofList, List.foldl_cons, List.foldl_nil,
    StringMap.get?_insert] at h ⊢
  split at h
  · rename_i same
    rw [if_neg (same ▸ apart), if_pos same]
    exact h
  · cases h

/-! ## Agreement -/

namespace Blueprint.IsOf

variable {i : Installation} {b : Blueprint}

theorem namesOneTrustDomain (of : b.IsOf i) : b.NamesOneTrustDomain := by
  refine ⟨i.manager.trustDomain, ?_, ?_, ?_, ?_⟩
  · rw [← of.agent.manager]
    rfl
  · rw [← of.server.manager]
    rfl
  · rw [← of.server.manager]
    rfl
  · rw [← of.discovery.manager]
    exact (DiscoveryManifest.workloadApi_config of.config).1

theorem letsAgentsIn (of : b.IsOf i) : b.LetsAgentsIn := by
  have space : b.agent.frame.namespaceName = b.server.settings.operandNamespace := by
    rw [of.agent.space, of.server.settings]
  obtain ⟨attestor, entry, found, clusters, admits⟩ :=
    ServerManifest.admits b.server b.agent (Fingerprint.ofJson b.agentConfig) space
  refine ⟨attestor, b.server.manager.clusterName, entry, found, clusters, rfl, ?_, admits⟩
  intro enabled
  refine ⟨_, AgentManifest.nodeAttestor_config b.agent enabled, ?_⟩
  rw [of.agent.manager, of.server.manager]
  rfl

theorem handsOverBundle (of : b.IsOf i) : b.HandsOverBundle := by
  have same : b.agent.manager = b.server.manager := by rw [of.agent.manager, of.server.manager]
  refine ⟨b.server.manager.bundleConfigMap, rfl,
    ⟨_, List.mem_cons_self, _, AgentManifest.mem_mounts b.agent, rfl, ?_⟩, ⟨_, rfl, rfl⟩,
    ⟨_, rfl, _, List.mem_cons_self, rfl, rfl⟩⟩
  rw [← same]
  exact AgentManifest.configMapOf?_pod b.agent

theorem findsServer (of : b.IsOf i) : b.FindsServer := by
  refine ⟨serverServiceName, b.server.frame.namespaceName, _, _, rfl, rfl, rfl, rfl, ?_, rfl⟩
  rw [of.server.space, ← of.agent.settings]
  rfl

theorem asksForIdentity (of : b.IsOf i) : b.AsksForIdentity := by
  obtain ⟨className, id, space, pods⟩ := DiscoveryManifest.data_identity of.identity
  have settings : b.server.settings = b.discovery.settings := by
    rw [of.server.settings, of.discovery.settings]
  have manager : b.server.manager = b.discovery.manager := by
    rw [of.server.manager, of.discovery.manager]
  have there : b.discovery.frame.namespaceName = b.discovery.settings.operandNamespace := by
    rw [of.discovery.space, of.discovery.settings]
  refine ⟨_, b.discovery.manager.trustDomain, b.discovery.settings.operandNamespace,
    DiscoveryManifest.name, _, ?_, ?_, congrArg some there, rfl, className, id, space, pods, ?_⟩
  · rw [← settings]
    rfl
  · rw [← manager]
    rfl
  · intro key value asked
    exact b.discovery.frame.get?_podLabels (Label.get?_selector_of_name asked)

theorem mountsSocket (of : b.IsOf i) : b.MountsSocket := by
  refine ⟨_, rfl, _, List.mem_cons_self, _, List.mem_cons_self,
    (DiscoveryManifest.workloadApi_config of.config).2, ?_⟩
  rw [← of.plugin]
  rfl

end Blueprint.IsOf

theorem Blueprint.routesToService (b : Blueprint) : b.RoutesToService := by
  intro route made
  unfold DiscoveryManifest.route at made
  split at made
  · cases made
  · obtain ⟨host, -, made⟩ := exists_of_bind_ok made
    cases made
    exact ⟨_, _, _, _, rfl, rfl, rfl, rfl, rfl, rfl⟩

/-- **The objects of the operands fit together.** Whatever the users have written, if the objects of
all operands can be made at all, then what one of them relies on is what another one sets up. -/
theorem manifests_agree (i : Installation) (b : Blueprint) (built : i.build = .ok b) : b.Agree where
  trustDomain := (Installation.isOf_of_build built).namesOneTrustDomain
  cluster := (Installation.isOf_of_build built).letsAgentsIn
  bundle := (Installation.isOf_of_build built).handsOverBundle
  address := (Installation.isOf_of_build built).findsServer
  services kind := by
    cases kind with
    | server => exact ServerSpec.served b.server
    | agent => exact AgentSpec.served b.agent
    | discovery => exact DiscoverySpec.served b.discovery b.plugin b.config
    | driver => exact DriverSpec.served b.driver
  identity := (Installation.isOf_of_build built).asksForIdentity
  plugin := (Installation.isOf_of_build built).mountsSocket
  route := b.routesToService

/-- An installation whose users have chosen names of their own, also for labels that pods are found
by. -/
def chosenInstallation : Installation where
  manager := ⟨"example.org", "production", "trust"⟩
  settings := { operandNamespace := "spire" }
  server := {
    metadata := { name := some singletonName, uid := some "1" }
    spec := { jwtIssuer := "https://x" } }
  agent := {
    metadata := { name := some singletonName, uid := some "2" }
    spec := { placement := { labels := .ofList [(Label.name, "agents")] } } }
  discovery := {
    metadata := { name := some singletonName, uid := some "3" }
    spec := { jwtIssuer := "https://x" } }
  driver := {
    metadata := { name := some singletonName, uid := some "4" }
    spec := { pluginName := "csi.example.org" } }

theorem manifests_agree_chosen :
    ∃ b, chosenInstallation.build = .ok b ∧ b.plugin = "csi.example.org" ∧ b.Agree := by
  obtain ⟨site, placed⟩ : ∃ site, Site.ofOperand chosenInstallation.discovery
      chosenInstallation.manager chosenInstallation.settings = .ok site := ⟨_, rfl⟩
  have host : DiscoveryManifest.issuerHost site.spec.jwtIssuer = .ok "x" := by
    cases placed
    exact DiscoveryManifest.issuerHost_letter
  obtain ⟨id, named⟩ : ∃ id, SpiffeId.forServiceAccount site.manager.trustDomain
      site.settings.operandNamespace DiscoveryManifest.name = .ok id := by
    cases placed
    exact ⟨_, rfl⟩
  obtain ⟨b, built, plugin⟩ :
      ∃ b, chosenInstallation.build = .ok b ∧ b.plugin = "csi.example.org" := by
    unfold Installation.build DiscoveryManifest.config DiscoveryManifest.identity
    rw [placed]
    simp only [bind, Except.bind, host, named]
    exact ⟨_, rfl, rfl⟩
  exact ⟨b, built, plugin, manifests_agree _ b built⟩

end WorkloadIdentity

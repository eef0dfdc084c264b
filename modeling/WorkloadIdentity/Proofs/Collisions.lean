import Mathlib.Data.List.Nodup
import Mathlib.Data.List.Perm.Basic
import WorkloadIdentity.Proofs.Convergence
import WorkloadIdentity.Proofs.Leftovers
import WorkloadIdentity.Proofs.Ownership

/-!
# Which objects collide

Two operands, or two steps for one operand, would rewrite an object against each other if they made
it under one kind, namespace and name. All of these are fixed or their own, but for the name of the
config map with the trust bundle: the manager gives it, and any text is accepted.

* `Installation.IsRound` says that steps are those of a pass over each operand.
* `OperandKind.coordinates` are the kinds, namespaces and names of the objects of an operand.
* `only_bundles_collide`: objects collide if and only if the name of the bundle is that of another
  config map, and then they are the bundle and that map.
* `ConfigMap.needsUpdate_of_apart`: config maps of two operands replace each other for ever.
-/

namespace WorkloadIdentity

open Exchange

namespace Installation

def operand (i : Installation) : (kind : OperandKind) → Operand kind.Spec
  | .server => i.server
  | .agent => i.agent
  | .discovery => i.discovery
  | .driver => i.driver

/-- The manager and all operands are accepted. -/
structure IsAccepted (i : Installation) : Prop where
  manager : TrustDomain.check i.manager.trustDomain = .ok ()
  operands : ∀ kind, Operand.check (i.operand kind) = .ok ()

/-- A round has for each operand the steps of a pass over it, against any server and at any time, or
none where a pass does not come to its steps. -/
def IsRound (i : Installation) (steps : OperandKind → List Step) : Prop :=
  ∀ kind, steps kind = [] ∨
    ∃ (τ : Type) (server : Request → τ → Reply × τ) (s t : τ) (now : String),
    run server (OperandPass.steps ⟨i.settings, now⟩ i.manager (i.operand kind)).run s =
      (.ok (steps kind), t)

end Installation

/-- What the API server tells objects apart by. -/
structure Coordinates where
  kind : String
  namespaceName : Option String
  name : Option String
deriving DecidableEq, Repr

namespace Coordinates

def inside (space kind name : String) : Coordinates := ⟨kind, some space, some name⟩

def outside (kind name : String) : Coordinates := ⟨kind, none, some name⟩

def configMap (space name : String) : Coordinates := inside space "ConfigMap" name

/-- The kind, and the name unless it is that of the storage driver, which its user chooses. -/
def mark (c : Coordinates) : String × Option String :=
  (c.kind, if c.kind = "CSIDriver" then none else c.name)

end Coordinates

def Wanted.coordinates (w : Wanted) : Coordinates :=
  ⟨w.kindName, w.metadata.namespaceName, w.metadata.name⟩

/-- The coordinates of all objects of a round. -/
def roundCoordinates (steps : OperandKind → List Step) : List Coordinates :=
  OperandKind.all.flatMap fun kind => (Step.wanteds (steps kind)).map Wanted.coordinates

/-- The names of all config maps but the one with the trust bundle. -/
def configMapNames : List String :=
  [ServerManifest.name, ServerManifest.controllerManagerName, AgentManifest.name,
    DiscoveryManifest.name]

namespace OperandKind

open Coordinates

/-- The coordinates of the objects of an operand, those included that are not always made. -/
def coordinates (space bundle plugin : String) : OperandKind → List Coordinates
  | server =>
    [inside space "ServiceAccount" ServerManifest.name,
      outside "ClusterRole" ServerManifest.name,
      outside "ClusterRoleBinding" ServerManifest.name,
      outside "ClusterRole" ServerManifest.controllerManagerName,
      outside "ClusterRoleBinding" ServerManifest.controllerManagerName,
      inside space "Role" ServerManifest.bundleRoleName,
      inside space "RoleBinding" ServerManifest.bundleRoleName,
      inside space "Service" serverServiceName,
      configMap space ServerManifest.name,
      configMap space ServerManifest.controllerManagerName,
      configMap space bundle,
      inside space "StatefulSet" ServerManifest.name]
  | agent =>
    [inside space "ServiceAccount" AgentManifest.name,
      outside "ClusterRole" AgentManifest.name,
      outside "ClusterRoleBinding" AgentManifest.name,
      inside space "Service" AgentManifest.name,
      configMap space AgentManifest.name,
      outside "SecurityContextConstraints" AgentManifest.name,
      inside space "DaemonSet" AgentManifest.name]
  | discovery =>
    [inside space "ServiceAccount" DiscoveryManifest.name,
      inside space "Service" DiscoveryManifest.name,
      outside "ClusterSPIFFEID" DiscoveryManifest.identityName,
      configMap space DiscoveryManifest.name,
      inside space "Deployment" DiscoveryManifest.name,
      inside space "Route" DiscoveryManifest.routeName]
  | driver =>
    [inside space "ServiceAccount" DriverManifest.name,
      outside "CSIDriver" plugin,
      outside "SecurityContextConstraints" DriverManifest.name,
      inside space "DaemonSet" DriverManifest.name]

/-- The config maps among them, which are always made. -/
def configMaps (space bundle : String) (kind : OperandKind) : List Coordinates :=
  (kind.coordinates space bundle "").filter fun c => c.kind = "ConfigMap"

end OperandKind

/-- The objects of an operand have its coordinates, and its config maps are among them. -/
structure Spans (kind : OperandKind) (space bundle : String) (objects : List Wanted) : Prop where
  least : (kind.configMaps space bundle).Sublist (objects.map Wanted.coordinates)
  most : ∃ plugin, (objects.map Wanted.coordinates).Sublist (kind.coordinates space bundle plugin)

theorem ServerSpec.spans (site : Site ServerSpec) :
    Spans .server site.frame.namespaceName site.manager.bundleConfigMap
      (Step.wanteds (stepsAt site)) where
  least := List.filter_sublist
  most := ⟨"", .refl _⟩

theorem AgentSpec.spans (site : Site AgentSpec) :
    Spans .agent site.frame.namespaceName site.manager.bundleConfigMap
      (Step.wanteds (stepsAt site)) where
  least := List.filter_sublist
  most := ⟨"", .refl _⟩

theorem DriverSpec.spans (site : Site DriverSpec) :
    Spans .driver site.frame.namespaceName site.manager.bundleConfigMap
      (Step.wanteds (stepsAt site)) where
  least := List.nil_sublist _
  most := ⟨site.spec.pluginName, .refl _⟩

theorem DiscoverySpec.spans (site : Site DiscoverySpec) (plugin : String) (config : Json) :
    Spans .discovery site.frame.namespaceName site.manager.bundleConfigMap
      (Step.wanteds (stepsAt site plugin config)) := by
  obtain ⟨identities, routes, list, identity, route⟩ := wanteds_stepsAt site plugin config
  have identified : (identities.map Wanted.coordinates).Sublist
      [.outside "ClusterSPIFFEID" DiscoveryManifest.identityName] := by
    rcases identity with rfl | ⟨o, made, rfl⟩
    · exact List.nil_sublist _
    · obtain ⟨data, rfl⟩ := DiscoveryManifest.exists_data_identity made
      exact .refl _
  have routed : (routes.map Wanted.coordinates).Sublist
      [.inside site.frame.namespaceName "Route" DiscoveryManifest.routeName] := by
    rcases route with rfl | ⟨o, made, rfl⟩
    · exact List.nil_sublist _
    · obtain ⟨data, rfl⟩ := DiscoveryManifest.exists_data_route made
      exact .refl _
  constructor
  · have mem : Wanted.configMap site.settings.operandNamespace
        (DiscoveryManifest.configMap site config) ∈ Step.wanteds (stepsAt site plugin config) := by
      simp [list]
    exact List.singleton_sublist.2 (List.mem_map_of_mem mem)
  · refine ⟨"", ?_⟩
    simp only [list, List.map_cons, List.map_append, List.map_nil]
    exact .cons_cons _ (.cons_cons _ ((identified.append (.refl _)).append routed))

namespace OperandKind

theorem spans (kind : OperandKind) (site : Site kind.Spec) (plugin : String) (config : Json) :
    Spans kind site.frame.namespaceName site.manager.bundleConfigMap
      (kind.objects site plugin config) := by
  cases kind with
  | server => exact ServerSpec.spans site
  | agent => exact AgentSpec.spans site
  | discovery => exact DiscoverySpec.spans site plugin config
  | driver => exact DriverSpec.spans site

def allCoordinates (space bundle : String) (plugins : OperandKind → String) : List Coordinates :=
  all.flatMap fun kind => kind.coordinates space bundle (plugins kind)

/-- Where the bundle stands among them. -/
def bundleIndex : Nat := 10

theorem sublist_flatMap {f g : OperandKind → List Coordinates}
    (h : ∀ kind, (f kind).Sublist (g kind)) : (all.flatMap f).Sublist (all.flatMap g) :=
  (h server).append ((h agent).append ((h discovery).append ((h driver).append (.refl _))))

variable (space bundle : String) (plugins : OperandKind → String)

/-- The coordinates of all objects but the bundle. -/
def otherCoordinates : List Coordinates :=
  (allCoordinates space bundle plugins).eraseIdx bundleIndex

theorem perm_allCoordinates : (allCoordinates space bundle plugins).Perm
    (.configMap space bundle :: otherCoordinates space bundle plugins) :=
  (List.getElem_cons_eraseIdx_perm
    (of_decide_eq_true rfl : bundleIndex < (allCoordinates space bundle plugins).length)).symm

/-- All objects but the bundle are told apart by names that nobody chooses, or by being the only
ones of their kind. -/
theorem nodup_otherCoordinates : (otherCoordinates space bundle plugins).Nodup := by
  have fixed : (otherCoordinates space bundle plugins).map Coordinates.mark =
      (otherCoordinates "" "" fun _ => "").map Coordinates.mark := rfl
  have once : ((otherCoordinates "" "" fun _ => "").map Coordinates.mark).Nodup := by decide
  exact List.Nodup.of_map Coordinates.mark (fixed ▸ once)

theorem mem_otherCoordinates_iff :
    .configMap space bundle ∈ otherCoordinates space bundle plugins ↔ bundle ∈ configMapNames := by
  have maps : (otherCoordinates space bundle plugins).filter (fun c => c.kind = "ConfigMap") =
      configMapNames.map (Coordinates.configMap space) := rfl
  have mem : .configMap space bundle ∈ otherCoordinates space bundle plugins ↔
      .configMap space bundle ∈ configMapNames.map (Coordinates.configMap space) := by
    rw [← maps, List.mem_filter]
    exact (and_iff_left (decide_eq_true rfl)).symm
  rw [mem, List.mem_map]
  constructor
  · rintro ⟨name, named, same⟩
    cases same
    exact named
  · exact fun named => ⟨bundle, named, rfl⟩

end OperandKind

namespace Installation.IsRound

variable {i : Installation} {steps : OperandKind → List Step}

theorem spans (round : i.IsRound steps) (kind : OperandKind) : steps kind = [] ∨
    Spans kind i.settings.operandNamespace i.manager.bundleConfigMap
      (Step.wanteds (steps kind)) := by
  rcases round kind with none | ⟨τ, server, s, t, now, planned⟩
  · exact .inl none
  · obtain ⟨site, plugin, config, placed, planned⟩ := kind.exists_site planned
    have under := Site.isUnder_of_ofOperand placed
    rw [planned, ← under.manager, ← under.space]
    exact .inr (kind.spans site plugin config)

theorem exists_sublist (round : i.IsRound steps) : ∃ plugins, (roundCoordinates steps).Sublist
    (OperandKind.allCoordinates i.settings.operandNamespace i.manager.bundleConfigMap plugins) := by
  have each (kind : OperandKind) : ∃ plugin,
      ((Step.wanteds (steps kind)).map Wanted.coordinates).Sublist
        (kind.coordinates i.settings.operandNamespace i.manager.bundleConfigMap plugin) := by
    rcases round.spans kind with none | spans
    · exact ⟨"", none ▸ List.nil_sublist _⟩
    · exact spans.most
  choose plugins most using each
  exact ⟨plugins, OperandKind.sublist_flatMap most⟩

theorem sublist_of_ne_nil (round : i.IsRound steps) (complete : ∀ kind, steps kind ≠ []) :
    (OperandKind.all.flatMap fun kind =>
      kind.configMaps i.settings.operandNamespace i.manager.bundleConfigMap).Sublist
      (roundCoordinates steps) :=
  OperandKind.sublist_flatMap fun kind => ((round.spans kind).resolve_left (complete kind)).least

end Installation.IsRound

theorem OperandKind.notMem_of_nodup_configMaps {space bundle : String}
    (once : (all.flatMap fun kind => kind.configMaps space bundle).Nodup) :
    bundle ∉ configMapNames := by
  have names : ([ServerManifest.name, ServerManifest.controllerManagerName] ++
      bundle :: [AgentManifest.name, DiscoveryManifest.name]).Nodup :=
    List.Nodup.of_map (Coordinates.configMap space) once
  exact (List.nodup_cons.1 (List.nodup_middle.1 names)).1

theorem OperandKind.eq_of_objectName_eq {kind other : OperandKind}
    (h : kind.objectName = other.objectName) : kind = other := by
  revert h
  cases kind <;> cases other <;> decide

/-- What one operand makes of a config map, another one replaces, since each writes its own name as
a label. -/
theorem ConfigMap.needsUpdate_of_apart (kind other : OperandKind) (apart : kind ≠ other)
    {first second : ConfigMap} {chosen chosen' : Labels}
    (labels : first.metadata.labels = some (Label.standard kind.objectName kind.component chosen))
    (labels' : second.metadata.labels =
      some (Label.standard other.objectName other.component chosen')) (live : ConfigMap) :
    needsUpdate (prepare live first) second = true := by
  have written : ((prepare live first).metadata.labels.getD ∅).get? Label.name =
      some kind.objectName := by
    have carried : (prepare live first).metadata.labels =
        Labels.mergeOptional live.metadata.labels first.metadata.labels := by
      unfold prepare
      dsimp only
      split <;> rfl
    rw [carried, labels, Labels.get?_mergeOptional, Option.getD_some, Label.get?_name_standard,
      Option.some_or]
  have differs : (prepare live first).metadata.differs second.metadata = true := by
    by_contra same
    unfold Meta.differs at same
    simp only [Bool.or_eq_true, Bool.not_eq_true', not_or, Bool.not_eq_false] at same
    rw [labels'] at same
    have kept := Labels.get?_of_isSubset same.1 Label.get?_name_standard
    exact apart (OperandKind.eq_of_objectName_eq (Option.some.inj (written.symm.trans kept)))
  unfold needsUpdate
  rw [differs, Bool.true_or]

/-- An installation whose users choose no more than the name of the bundle. -/
def plainInstallation (bundle : String) : Installation where
  manager := ⟨"example.org", "cluster", bundle⟩
  settings := { operandNamespace := "spire" }
  server := {
    metadata := { name := some singletonName, uid := some "1" }
    spec := { jwtIssuer := "https://x" } }
  agent := {
    metadata := { name := some singletonName, uid := some "2" }
    spec := {} }
  discovery := {
    metadata := { name := some singletonName, uid := some "3" }
    spec := { jwtIssuer := "https://x" } }
  driver := {
    metadata := { name := some singletonName, uid := some "4" }
    spec := {} }

theorem isAccepted_plainInstallation (bundle : String) : (plainInstallation bundle).IsAccepted where
  manager := by
    change TrustDomain.check "example.org" = .ok ()
    decide +kernel
  operands kind := by
    have absolute : defaultSocketPath.startsWith "/" = true :=
      String.startsWith_string_iff.2 (by decide)
    cases kind with
    | server =>
      refine Operand.check_of_flaw? ?_
      change ServerSpec.flaw? { jwtIssuer := "https://x" } = none
      unfold ServerSpec.flaw?
      dsimp only
      rw [Issuer.flaw?_letter]
      decide +kernel
    | agent =>
      refine Operand.check_of_flaw? ?_
      change AgentSpec.flaw? {} = none
      unfold AgentSpec.flaw?
      dsimp only
      rw [absolute]
      rfl
    | discovery =>
      refine Operand.check_of_flaw? ?_
      change DiscoverySpec.flaw? { jwtIssuer := "https://x" } = none
      unfold DiscoverySpec.flaw?
      dsimp only
      rw [Issuer.flaw?_letter]
      decide +kernel
    | driver => exact Operand.check_of_flaw? DriverSpec.flaw?_default

/-- A server that answers every request with a storage driver of the defaults. -/
def driverAnswer (_ : Request) (s : Unit) : Reply × Unit :=
  (.answer 200 (.value (.obj [("metadata", .obj []), ("spec", .obj [])])), s)

/-- There is a round with steps for all operands if all of them have sites and the issuer has a
host. -/
theorem Installation.exists_round {i : Installation} {server : Site ServerSpec}
    {agent : Site AgentSpec} {discovery : Site DiscoverySpec} {driver : Site DriverSpec}
    {host : String} (atServer : Site.ofOperand i.server i.manager i.settings = .ok server)
    (atAgent : Site.ofOperand i.agent i.manager i.settings = .ok agent)
    (atDiscovery : Site.ofOperand i.discovery i.manager i.settings = .ok discovery)
    (atDriver : Site.ofOperand i.driver i.manager i.settings = .ok driver)
    (issuer : DiscoveryManifest.issuerHost discovery.spec.jwtIssuer = .ok host) :
    ∃ steps, i.IsRound steps ∧ (∀ kind, steps kind ≠ []) ∧
      steps .server = ServerSpec.stepsAt server ∧ steps .agent = AgentSpec.stepsAt agent := by
  have read : (Operand.read? (.obj [("metadata", .obj []), ("spec", .obj [])]) :
      Option (Operand DriverSpec)) = some ⟨{}, {}, none⟩ := by decide +kernel
  have fetched : run driverAnswer (Call.attempt (Api.find? (.operands .driver) singletonName
      (Operand.read? : Json → Option (Operand DriverSpec)))).run () =
        (.ok (some ⟨{}, {}, none⟩), ()) := by
    refine (CustomKind.run_find? (.operand .driver) _ ()).trans ?_
    unfold driverAnswer
    rw [Api.readReply_value, read]
    rfl
  obtain ⟨config, configured⟩ : ∃ config, DiscoveryManifest.config discovery = .ok config := by
    unfold DiscoveryManifest.config
    rw [issuer]
    exact ⟨_, rfl⟩
  refine ⟨fun
    | .server => ServerSpec.stepsAt server
    | .agent => AgentSpec.stepsAt agent
    | .discovery => DiscoverySpec.stepsAt discovery
        (DiscoverySpec.pluginName (some ⟨{}, {}, none⟩)) config
    | .driver => DriverSpec.stepsAt driver, fun kind => .inr ?_, ?_, rfl, rfl⟩
  · refine ⟨Unit, driverAnswer, (), (), "", ?_⟩
    cases kind with
    | server => exact congrArg (fun site => (Except.map ServerSpec.stepsAt site, ())) atServer
    | agent => exact congrArg (fun site => (Except.map AgentSpec.stepsAt site, ())) atAgent
    | discovery => exact DiscoverySpec.run_steps fetched atDiscovery configured
    | driver => exact congrArg (fun site => (Except.map DriverSpec.stepsAt site, ())) atDriver
  · intro kind
    cases kind <;> exact List.cons_ne_nil _ _

theorem exists_round_plainInstallation (bundle : String) :
    ∃ server agent steps, (plainInstallation bundle).IsRound steps ∧ (∀ kind, steps kind ≠ []) ∧
      Site.ofOperand (plainInstallation bundle).server (plainInstallation bundle).manager
        (plainInstallation bundle).settings = .ok server ∧
      Site.ofOperand (plainInstallation bundle).agent (plainInstallation bundle).manager
        (plainInstallation bundle).settings = .ok agent ∧
      steps .server = ServerSpec.stepsAt server ∧ steps .agent = AgentSpec.stepsAt agent := by
  obtain ⟨discovery, placed⟩ : ∃ site, Site.ofOperand (plainInstallation bundle).discovery
      (plainInstallation bundle).manager (plainInstallation bundle).settings = .ok site := ⟨_, rfl⟩
  have issuer : DiscoveryManifest.issuerHost discovery.spec.jwtIssuer = .ok "x" := by
    cases placed
    exact DiscoveryManifest.issuerHost_letter
  obtain ⟨steps, round, complete, server, agent⟩ :=
    Installation.exists_round (i := plainInstallation bundle) rfl rfl placed rfl issuer
  exact ⟨_, _, steps, round, complete, rfl, rfl, server, agent⟩

/-- **Objects collide only with the bundle.** Whatever the users have written and whatever the
operator is configured with, no two objects of a round have one kind, namespace and name, unless the
manager calls the bundle like another config map; then the bundle and that map collide in every
round with steps for all operands, and nothing else does. -/
theorem only_bundles_collide {i : Installation} {steps : OperandKind → List Step}
    (round : i.IsRound steps) :
    (i.manager.bundleConfigMap ∉ configMapNames → (roundCoordinates steps).Nodup) ∧
    (i.manager.bundleConfigMap ∈ configMapNames → (∀ kind, steps kind ≠ []) →
      ¬ (roundCoordinates steps).Nodup) ∧
    ((roundCoordinates steps).erase
      (.configMap i.settings.operandNamespace i.manager.bundleConfigMap)).Nodup := by
  obtain ⟨plugins, most⟩ := round.exists_sublist
  have perm := OperandKind.perm_allCoordinates i.settings.operandNamespace
    i.manager.bundleConfigMap plugins
  have others := OperandKind.nodup_otherCoordinates i.settings.operandNamespace
    i.manager.bundleConfigMap plugins
  refine ⟨?apart, ?collide, ?rest⟩
  case apart =>
    intro free
    have absent := mt (OperandKind.mem_otherCoordinates_iff i.settings.operandNamespace
      i.manager.bundleConfigMap plugins).1 free
    exact most.nodup (perm.nodup_iff.2 (List.nodup_cons.2 ⟨absent, others⟩))
  case collide =>
    intro taken complete once
    have free := OperandKind.notMem_of_nodup_configMaps
      ((round.sublist_of_ne_nil complete).nodup once)
    exact free taken
  case rest =>
    have erased := perm.erase (.configMap i.settings.operandNamespace i.manager.bundleConfigMap)
    rw [List.erase_cons_head] at erased
    exact (most.erase _).nodup (erased.nodup_iff.2 others)

theorem only_bundles_collide_default : ∃ steps, (plainInstallation "spire-bundle").IsRound steps ∧
    (∀ kind, steps kind ≠ []) ∧ (roundCoordinates steps).Nodup := by
  obtain ⟨_, _, steps, round, complete, -⟩ := exists_round_plainInstallation "spire-bundle"
  exact ⟨steps, round, complete, (only_bundles_collide round).1 (by decide)⟩

/-- If the manager calls the bundle like the agents, two objects collide although the manager and
all operands are accepted: whatever is there, the server and the agents replace each other's map. -/
theorem bundle_collides_with_agent : (plainInstallation "spire-agent").IsAccepted ∧
    ∃ steps, (plainInstallation "spire-agent").IsRound steps ∧ (∀ kind, steps kind ≠ []) ∧
      ¬ (roundCoordinates steps).Nodup ∧
      ∃ bundle agent : ConfigMap, .configMap "spire" bundle ∈ Step.wanteds (steps .server) ∧
        .configMap "spire" agent ∈ Step.wanteds (steps .agent) ∧
        (Wanted.configMap "spire" bundle).coordinates =
          (Wanted.configMap "spire" agent).coordinates ∧
        ∀ live : ConfigMap, (live.prepare bundle).needsUpdate agent = true ∧
          (live.prepare agent).needsUpdate bundle = true := by
  refine ⟨isAccepted_plainInstallation _, ?_⟩
  obtain ⟨server, agent, steps, round, complete, placed, placed', made, made'⟩ :=
    exists_round_plainInstallation "spire-agent"
  have collide : ¬ (roundCoordinates steps).Nodup := by
    intro once
    have free := OperandKind.notMem_of_nodup_configMaps
      ((round.sublist_of_ne_nil complete).nodup once)
    exact free (by decide)
  refine ⟨steps, round, complete, collide, ServerManifest.bundleConfigMap server,
    AgentManifest.configMap agent, ?bundle, ?agent, ?same, ?dispute⟩
  case bundle =>
    rw [made]
    cases placed
    exact List.mem_of_getElem? (i := 10) rfl
  case agent =>
    rw [made']
    cases placed'
    exact List.mem_of_getElem? (i := 4) rfl
  case same =>
    have bundleAt : (Wanted.configMap "spire" (ServerManifest.bundleConfigMap server)).coordinates =
        .configMap "spire" "spire-agent" := by
      cases placed
      rfl
    have agentAt : (Wanted.configMap "spire" (AgentManifest.configMap agent)).coordinates =
        .configMap "spire" "spire-agent" := by
      cases placed'
      rfl
    exact bundleAt.trans agentAt.symm
  case dispute =>
    have ofServer : (ServerManifest.bundleConfigMap server).metadata.labels = some (Label.standard
        OperandKind.server.objectName OperandKind.server.component ∅) := by
      cases placed
      rfl
    have ofAgent : (AgentManifest.configMap agent).metadata.labels = some (Label.standard
        OperandKind.agent.objectName OperandKind.agent.component ∅) := by
      cases placed'
      rfl
    intro live
    exact ⟨ConfigMap.needsUpdate_of_apart .server .agent (by decide) ofServer ofAgent live,
      ConfigMap.needsUpdate_of_apart .agent .server (by decide) ofAgent ofServer live⟩

end WorkloadIdentity

import WorkloadIdentity.Pass.Steps
import WorkloadIdentity.Proofs.Orders
import WorkloadIdentity.Proofs.Stability

namespace WorkloadIdentity

theorem Collection.isPlain_path : ∀ c ∈ [clusterRoles, clusterRoleBindings, securityConstraints,
    clusterIdentities], Address.IsPlain c.path := by decide

/-- An object that settles when it is applied. -/
structure Wanted.IsSound (w : Wanted) : Prop where
  known : w.collection.isKnown = true
  tells : w.TellsLists
  named : w.IsNamed
  stable : w.IsStable

namespace Wanted

theorem IsSound.typed {w : Wanted} (known : w.collection.isKnown = true)
    (typed : w.kind ≠ .untyped) (comparable : w.kind.IsComparable w.object)
    (proper : w.kind.IsProper w.object) (others : w.metadata.others = []) : w.IsSound where
  known
  tells := tellsLists_of_typed typed
  named := isNamed_of_typed typed
  stable := isStable comparable proper (by rw [others]; exact Members.avoid_nil _)

theorem IsSound.untyped {o : Untyped} {c : Collection} {apiVersion kind : String}
    (unlisted : c.isUnlisted = true) (type : o.type = some (apiVersion, kind))
    (other : kind ∉ ManagedKind.named.map Prod.fst) (proper : o.IsProper)
    (others : o.metadata.others = []) : IsSound ⟨.untyped, o, c⟩ where
  known := (Bool.and_eq_true_iff.1 unlisted).1
  tells := tellsLists_of_isUnlisted unlisted
  named := isNamed_of_untyped type other
  stable := isStable proper.comparable proper (by
    change o.metadata.others.Avoid _
    rw [others]
    exact Members.avoid_nil _)

/-- A workload whose pods are proper and do not differ from themselves. -/
theorem IsSound.ofPods {kind : WorkloadKind} {o : Workload kind} {c : Collection}
    {spec : WorkloadSpec} {podLabels annotations : Labels} {pod : PodSpec} (selector : Labels)
    (known : c.isKnown = true) (specified : o.spec = some spec)
    (template : spec.template = (WorkloadSpec.ofPods selector podLabels annotations pod).template)
    (avoid : spec.others.Avoid WorkloadSpec.fieldNames) (proper : pod.IsProper)
    (comparable : pod.IsComparable) (others : o.metadata.others = []) :
    IsSound ⟨.workload kind, o, c⟩ := by
  refine .typed known ManagedKind.noConfusion ?comparable ?proper others
  case comparable =>
    intro s said
    cases specified.symm.trans said
    rw [template]
    exact WorkloadSpec.isComparable_ofPods selector comparable
  case proper =>
    intro s said
    cases specified.symm.trans said
    refine ⟨avoid, ?_⟩
    rw [template]
    exact WorkloadSpec.isProper_ofPods selector proper

/-- Objects of which no two touch. -/
theorem forall_touching {list : List Wanted} {first : Wanted} (h : touching list = []) :
    ∀ p ∈ touching list, Aside [first] p.1 p.2 := by
  rw [h]
  exact List.forall_mem_nil _

end Wanted

/-- Objects that settle when they are applied one after the other. -/
structure Fits (list : List Wanted) : Prop where
  sound : ∀ w ∈ list, w.IsSound
  orderly : Orderly [] list

theorem Fits.cons {first : Wanted} {list : List Wanted} (sound : ∀ w ∈ first :: list, w.IsSound)
    (apart : list.all first.isApart = true)
    (touch : ∀ p ∈ Wanted.touching list, Wanted.Aside [first] p.1 p.2) : Fits (first :: list) where
  sound
  orderly := Wanted.orderly_cons (fun w hw => (sound w hw).known) apart touch

theorem Json.isProper_strings (items : List String) : (Json.strings items).IsProper := by
  have each : ItemsProper (items.map str) := by
    induction items with
    | nil => trivial
    | cons item rest ih => exact ⟨trivial, ih⟩
  exact each

namespace Frame

variable (f : Frame)

theorem isProper_service (name object port : String) (number : Int) (s : ServiceSpec)
    (h : (f.service name object port number).spec = some s) : s.IsProper := by
  cases h
  refine ⟨Members.avoid_nil _, fun p hp => ?_⟩
  cases List.mem_singleton.1 hp
  exact Members.avoid_nil _

theorem isProper_securityConstraints (name account : String) (privileged : Bool) :
    (f.securityConstraints name account privileged).IsProper where
  comparable := by
    simp [securityConstraints, Json.IsProper, Json.MembersProper, Json.isProper_strings]
  others := by simp [securityConstraints]

end Frame

namespace AgentManifest

variable (site : Site AgentSpec)

theorem isSound_volumes : ∀ v ∈ volumes site, v.IsSound := by
  unfold volumes
  split <;>
    simp [Volume.isSound_ofConfigMap, Volume.isSound_ofEmptyDir, Volume.isSound_ofHostPath,
      Volume.isSound_ofToken]

theorem isProper_container : (container site).IsProper where
  others := Container.avoid_settings _ _ _ _
  env := by simp [container, EnvVar.isSound_ofNodeName]
  mounts := by
    change ∀ m ∈ mounts site, _
    unfold mounts
    split <;> simp

variable {site}

theorem isProper_pod (proper : site.spec.placement.IsProper) : (pod site).IsProper :=
  Placement.isProper_place proper (by simp [PodSpec.fieldNames]) rfl
    (by simp [isProper_container]) (isSound_volumes site)

theorem isComparable_pod (comparable : site.spec.placement.IsComparable) :
    (pod site).IsComparable :=
  Placement.isComparable_place comparable (by simp) (by simp) (by simp) (isSound_volumes site)

end AgentManifest

theorem AgentSpec.fits (site : Site AgentSpec) (proper : site.spec.placement.IsProper)
    (comparable : site.spec.placement.IsComparable) : Fits (Step.wanteds (stepsAt site)) := by
  simp only [stepsAt, Step.wanteds, Step.of, List.filterMap_cons, List.filterMap_nil]
  refine .cons ?_ rfl (Wanted.forall_touching rfl)
  simp only [List.forall_mem_cons]
  refine ⟨.typed rfl ManagedKind.noConfusion trivial trivial rfl, ?clusterRole, ?binding,
    ?service, ?configMap, ?constraints, ?daemonSet, List.forall_mem_nil _⟩
  case service =>
    exact .typed rfl ManagedKind.noConfusion trivial (Frame.isProper_service _ _ _ _ _) rfl
  case constraints =>
    exact .untyped rfl rfl (by decide) (Frame.isProper_securityConstraints _ _ _ _) rfl
  case daemonSet =>
    exact .ofPods (Label.selector AgentManifest.name) rfl rfl rfl
      (by simp [WorkloadSpec.oneAtATime, WorkloadSpec.fieldNames])
      (AgentManifest.isProper_pod proper) (AgentManifest.isComparable_pod comparable) rfl
  all_goals exact .typed rfl ManagedKind.noConfusion trivial trivial rfl

namespace DriverManifest

variable (site : Site DriverSpec)

theorem isProper_container : ∀ c ∈ [driverContainer site, registrarContainer site,
    initContainer site], c.IsProper := by
  simp only [List.forall_mem_cons]
  refine ⟨⟨Container.avoid_settings _ _ _ _, ?_, ?_⟩, ⟨Container.avoid_settings _ _ _ _, ?_, ?_⟩,
    ⟨Container.avoid_settings _ _ _ _, ?_, ?_⟩, List.forall_mem_nil _⟩
  · simp [driverContainer, EnvVar.isSound_ofNodeName]
  · simp [driverContainer]
  · simp [registrarContainer, EnvVar.isSound_ofValue]
  · simp [registrarContainer]
  · simp [initContainer]
  · simp [initContainer]

theorem isSound_volumes : ∀ v ∈ (pod site).volumes.getD [], v.IsSound := by
  change ∀ v ∈ [
    Volume.ofHostPath "spire-agent-socket-dir" site.spec.agentSocketPath "DirectoryOrCreate",
    .ofHostPath "spiffe-csi-socket-dir" (pluginDir site) "DirectoryOrCreate",
    .ofHostPath "kubelet-plugin-registration-dir" registryDir "Directory",
    .ofHostPath "mountpoint-dir" podsDir "Directory"], _
  simp [Volume.isSound_ofHostPath]

variable {site}

theorem isProper_pod (proper : site.spec.placement.IsProper) : (pod site).IsProper :=
  Placement.isProper_place proper (Members.avoid_nil _) rfl (isProper_container site)
    (isSound_volumes site)

theorem isComparable_pod (comparable : site.spec.placement.IsComparable) :
    (pod site).IsComparable :=
  Placement.isComparable_place comparable (of_decide_eq_true rfl) (by simp)
    (by simp [registrarContainer, initContainer]) (isSound_volumes site)

end DriverManifest

theorem DriverSpec.fits (site : Site DriverSpec) (proper : site.spec.placement.IsProper)
    (comparable : site.spec.placement.IsComparable) : Fits (Step.wanteds (stepsAt site)) := by
  simp only [stepsAt, Step.wanteds, Step.of, List.filterMap_cons, List.filterMap_nil]
  refine .cons ?_ rfl (Wanted.forall_touching rfl)
  simp only [List.forall_mem_cons]
  refine ⟨.typed rfl ManagedKind.noConfusion trivial trivial rfl, ?driver, ?constraints,
    ?daemonSet, List.forall_mem_nil _⟩
  case driver => exact .typed rfl ManagedKind.noConfusion trivial (Members.avoid_nil _) rfl
  case constraints =>
    exact .untyped rfl rfl (by decide) (Frame.isProper_securityConstraints _ _ _ _) rfl
  case daemonSet =>
    exact .ofPods (Label.selector DriverManifest.name) rfl rfl rfl
      (by simp [WorkloadSpec.oneAtATime, WorkloadSpec.fieldNames])
      (DriverManifest.isProper_pod proper) (DriverManifest.isComparable_pod comparable) rfl

/-- A host of one letter is read as it is. -/
theorem Url.parse_letter : Url.parse "https://x" =
    .ok { scheme := "https", host := some "x", port := none, path := "/", query := none,
          fragment := none } := by
  have decoded : (Percent.decode? ['x']).bind Domain.toAscii? = some "x" := by decide +kernel
  have split : "x".splitOn "." = ["x"] := by
    unfold String.splitOn
    rw [if_neg (by decide), String.splitOnAux, if_neg (by decide), if_neg (by decide),
      String.splitOnAux, if_pos (by decide)]
    decide
  have noNumber : Ipv4.endsInNumber "x" = false := by
    unfold Ipv4.endsInNumber
    rw [split]
    decide
  have host : readDomainHost ['x'] = .ok "x" := by
    unfold readDomainHost
    rw [decoded]
    simp [noNumber]
  have front : splitScheme (significant "https://x") = some ("https", ['/', '/', 'x']) := by
    decide +kernel
  have noUser : dropUser true ['x'] = .ok (false, ['x']) := rfl
  unfold parse
  rw [front]
  change readAuthority "https" true ['x'] = _
  unfold readAuthority
  rw [noUser]
  change (readDomainHost ['x'] >>= _) = _
  rw [host]
  rfl

/-- What a computation makes, it makes of what its first part has made. -/
theorem exists_of_bind_ok {ε α β : Type} {x : Except ε α} {f : α → Except ε β} {b : β}
    (h : x >>= f = .ok b) : ∃ a, x = .ok a ∧ f a = .ok b := by
  cases x with
  | error e => cases h
  | ok a => exact ⟨a, rfl, h⟩

namespace DiscoveryManifest

variable {site : Site DiscoverySpec} {o : Untyped}

theorem isSound_identity (h : identity site = .ok o) : (Wanted.clusterIdentity o).IsSound := by
  obtain ⟨id, -, h⟩ := exists_of_bind_ok h
  obtain ⟨host, -, h⟩ := exists_of_bind_ok h
  cases h
  refine .untyped rfl rfl (by decide) ⟨?_, by simp⟩ rfl
  simp [Json.IsProper, Json.MembersProper, Json.isProper_strings]

theorem isSound_route (space : String) (h : route site = .ok (some o)) :
    (Wanted.route space o).IsSound := by
  unfold route at h
  split at h
  · cases h
  · obtain ⟨host, -, h⟩ := exists_of_bind_ok h
    cases h
    refine .untyped rfl rfl (by decide) ⟨?_, by simp⟩ rfl
    simp [Json.IsProper, Json.MembersProper]

theorem issuerHost_letter : issuerHost "https://x" = .ok "x" := by
  unfold issuerHost Issuer.host?
  rw [Url.parse_letter]

theorem isProper_container : (container site).IsProper where
  others := Container.avoid_settings _ _ _ _
  env := by simp [container]
  mounts := by simp [container]

theorem isSound_volumes (site : Site DiscoverySpec) (plugin : String) :
    ∀ v ∈ (pod site plugin).volumes.getD [], v.IsSound := by
  change ∀ v ∈ [Volume.ofDriver "spiffe-workload-api" plugin,
    .ofConfigMap "spire-oidc-config" name, .ofSecret "tls-certs" certificateSecret], _
  simp [Volume.isSound_ofDriver, Volume.isSound_ofConfigMap, Volume.isSound_ofSecret]

variable {plugin : String}

theorem isProper_pod (proper : site.spec.placement.IsProper) : (pod site plugin).IsProper :=
  Placement.isProper_place proper (Members.avoid_nil _) rfl (by simp [isProper_container])
    (isSound_volumes site plugin)

theorem isComparable_pod (comparable : site.spec.placement.IsComparable) :
    (pod site plugin).IsComparable :=
  Placement.isComparable_place comparable (by simp) (by simp) (by simp)
    (isSound_volumes site plugin)

end DiscoveryManifest

namespace DiscoverySpec

/-- The objects are those that can always be made, and the request for an identity and the route as
far as they can be made. -/
theorem wanteds_stepsAt (site : Site DiscoverySpec) (plugin : String) (config : Json) :
    ∃ identities routes : List Wanted,
      Step.wanteds (stepsAt site plugin config) =
        .serviceAccount site.settings.operandNamespace (DiscoveryManifest.serviceAccount site) ::
          (.service site.settings.operandNamespace (DiscoveryManifest.service site) ::
            (identities ++ [
              .configMap site.settings.operandNamespace (DiscoveryManifest.configMap site config),
              .deployment site.settings.operandNamespace
                (DiscoveryManifest.deployment site plugin (Fingerprint.ofJson config))] ++
              routes)) ∧
      (identities = [] ∨ ∃ o, DiscoveryManifest.identity site = .ok o ∧
        identities = [.clusterIdentity o]) ∧
      (routes = [] ∨ ∃ o, DiscoveryManifest.route site = .ok (some o) ∧
        routes = [.route site.settings.operandNamespace o]) := by
  unfold stepsAt
  cases identity : DiscoveryManifest.identity site <;>
    rcases route : DiscoveryManifest.route site with _ | _ | o
  · exact ⟨[], [], rfl, .inl rfl, .inl rfl⟩
  · exact ⟨[], [], rfl, .inl rfl, .inl rfl⟩
  · exact ⟨[], _, rfl, .inl rfl, .inr ⟨o, rfl, rfl⟩⟩
  · exact ⟨_, [], rfl, .inr ⟨_, rfl, rfl⟩, .inl rfl⟩
  · exact ⟨_, [], rfl, .inr ⟨_, rfl, rfl⟩, .inl rfl⟩
  · exact ⟨_, _, rfl, .inr ⟨_, rfl, rfl⟩, .inr ⟨o, rfl, rfl⟩⟩

theorem fits (site : Site DiscoverySpec) (proper : site.spec.placement.IsProper)
    (comparable : site.spec.placement.IsComparable) (plugin : String) (config : Json) :
    Fits (Step.wanteds (stepsAt site plugin config)) := by
  obtain ⟨identities, routes, list, identity, route⟩ := wanteds_stepsAt site plugin config
  rw [list]
  refine .cons ?sound ?apart (Wanted.forall_touching ?touch)
  case apart =>
    rcases identity with rfl | ⟨_, -, rfl⟩ <;> rcases route with rfl | ⟨_, -, rfl⟩ <;> rfl
  case touch =>
    rcases identity with rfl | ⟨_, -, rfl⟩ <;> rcases route with rfl | ⟨_, -, rfl⟩ <;> rfl
  case sound =>
    simp only [List.forall_mem_cons, List.forall_mem_append]
    refine ⟨.typed rfl ManagedKind.noConfusion trivial trivial rfl,
      .typed rfl ManagedKind.noConfusion trivial
        (site.frame.isProper_service DiscoveryManifest.name DiscoveryManifest.name "https" 443) rfl,
      ⟨?identities, .typed rfl ManagedKind.noConfusion trivial trivial rfl, ?deployment,
        List.forall_mem_nil _⟩,
      ?routes⟩
    case identities =>
      rcases identity with rfl | ⟨o, made, rfl⟩
      · exact List.forall_mem_nil _
      · simpa using DiscoveryManifest.isSound_identity made
    case routes =>
      rcases route with rfl | ⟨o, made, rfl⟩
      · exact List.forall_mem_nil _
      · simpa using DiscoveryManifest.isSound_route _ made
    case deployment =>
      exact .ofPods (Label.selector DiscoveryManifest.name) rfl rfl rfl (Members.avoid_nil _)
        (DiscoveryManifest.isProper_pod proper) (DiscoveryManifest.isComparable_pod comparable) rfl

end DiscoverySpec

namespace ServerManifest

variable (site : Site ServerSpec)

theorem isProper_container : ∀ c ∈ [serverContainer site, controllerManagerContainer site],
    c.IsProper := by
  simp only [List.forall_mem_cons]
  refine ⟨⟨Container.avoid_settings _ _ _ _, ?_, ?_⟩, ⟨Container.avoid_settings _ _ _ _, ?_, ?_⟩,
    List.forall_mem_nil _⟩
  · simp [serverContainer]
  · simp [serverContainer]
  · simp [controllerManagerContainer]
  · simp [controllerManagerContainer]

theorem isSound_volumes : ∀ v ∈ (pod site).volumes.getD [], v.IsSound := by
  change ∀ v ∈ [Volume.ofConfigMap "spire-config" name, .ofEmptyDir "spire-server-socket",
    .ofConfigMap "controller-manager-config" controllerManagerName], _
  simp [Volume.isSound_ofEmptyDir, Volume.isSound_ofConfigMap]

variable {site} in
theorem isProper_pod (proper : site.spec.placement.IsProper) : (pod site).IsProper :=
  Placement.isProper_place proper (by simp [PodSpec.fieldNames]) rfl
    (by simpa using isProper_container site) (isSound_volumes site)

variable {site} in
theorem isComparable_pod (comparable : site.spec.placement.IsComparable) :
    (pod site).IsComparable :=
  Placement.isComparable_place comparable (of_decide_eq_true rfl) (by simp)
    (by simp [controllerManagerContainer]) (isSound_volumes site)

/-- The account, which all objects of its namespace come after. -/
def account : Wanted := .serviceAccount site.settings.operandNamespace (serviceAccount site)

/-- Config maps with names of their own leave each other alone. A config map without data asks for
no more than one that has the same labels. -/
theorem aside_configMap {u w : ConfigMap} {nameU nameW : String}
    (namedU : u.metadata.name = some nameU) (plainU : Address.IsPlain nameU)
    (namedW : w.metadata.name = some nameW)
    (apart : Address.IsPlain nameW ∧ nameU ≠ nameW ∨
      w.data = none ∧ w.metadata.labels = u.metadata.labels ∧
        w.metadata.annotations = u.metadata.annotations) :
    Wanted.Aside [account site] (.configMap site.settings.operandNamespace u)
      (.configMap site.settings.operandNamespace w) := by
  by_cases plain : Address.IsPlain site.settings.operandNamespace
  · have inside (o : ConfigMap) :
        Address.IsPlain (Wanted.configMap site.settings.operandNamespace o).collection.path :=
      Wanted.isPlain_path rfl rfl plain (by decide : Address.IsPlain "configmaps")
    rcases apart with ⟨plainW, ne⟩ | ⟨data, labels, annotations⟩
    · exact .places (Wanted.places_of_name_ne rfl (inside w) namedU namedW plainU plainW ne)
    · refine .enough ?_ fun object live read => ⟨live, read, fun enough => ?_⟩
      · have named : (Wanted.configMap site.settings.operandNamespace u).metadata.name =
            some nameU := namedU
        rw [Wanted.birth?_of_isPlain named (inside u),
          Wanted.address?_of_isPlain named (inside u) plainU]
      · change ConfigMap.needsUpdate live u = false at enough
        change ConfigMap.needsUpdate live w = false
        unfold ConfigMap.needsUpdate Meta.differs at enough ⊢
        rw [labels, annotations, data]
        rw [Bool.or_eq_false_iff] at enough ⊢
        exact ⟨enough.1, rfl⟩
  · exact Wanted.aside_of_cut plain rfl rfl rfl rfl rfl rfl rfl rfl rfl
      (by decide : Address.IsQueryText ("/" ++ "serviceaccounts" ++ "/" ++ name)) namedW
      (by decide : Address.IsQueryText ("/" ++ "configmaps" ++ "?")) rfl
      (by decide : "ConfigMap" ≠ "ServiceAccount")

end ServerManifest

theorem ServerSpec.fits (site : Site ServerSpec) (proper : site.spec.placement.IsProper)
    (comparable : site.spec.placement.IsComparable) : Fits (Step.wanteds (stepsAt site)) := by
  simp only [stepsAt, Step.wanteds, Step.of, List.filterMap_cons, List.filterMap_nil]
  refine .cons ?sound rfl ?touch
  case sound =>
    simp only [List.forall_mem_cons]
    refine ⟨.typed rfl ManagedKind.noConfusion trivial trivial rfl, ?_, ?_, ?_, ?_, ?_, ?_,
      ?service, ?_, ?_, ?_, ?statefulSet, List.forall_mem_nil _⟩
    case service =>
      exact .typed rfl ManagedKind.noConfusion trivial (Frame.isProper_service _ _ _ _ _) rfl
    case statefulSet =>
      exact .ofPods (Label.selector ServerManifest.name) rfl rfl rfl
        (by simp [WorkloadSpec.fieldNames]) (ServerManifest.isProper_pod proper)
        (ServerManifest.isComparable_pod comparable) rfl
    all_goals exact .typed rfl ManagedKind.noConfusion trivial trivial rfl
  case touch =>
    have plain : Address.IsPlain ServerManifest.name := by decide
    have plain' : Address.IsPlain ServerManifest.controllerManagerName := by decide
    have ne : ServerManifest.name ≠ ServerManifest.controllerManagerName := by decide
    change ∀ p ∈ [
      (Wanted.clusterRole (ServerManifest.clusterRole site),
        Wanted.clusterRole (ServerManifest.controllerManagerRole site)),
      (.clusterRoleBinding (ServerManifest.clusterRoleBinding site),
        .clusterRoleBinding (ServerManifest.controllerManagerRoleBinding site)),
      (.configMap _ (ServerManifest.configMap site),
        .configMap _ (ServerManifest.controllerManagerConfigMap site)),
      (.configMap _ (ServerManifest.configMap site),
        .configMap _ (ServerManifest.bundleConfigMap site)),
      (.configMap _ (ServerManifest.controllerManagerConfigMap site),
        .configMap _ (ServerManifest.bundleConfigMap site))], _
    simp only [List.forall_mem_cons]
    refine ⟨.places ?_, .places ?_, ?_, ?_, ?_, List.forall_mem_nil _⟩
    · exact Wanted.places_of_name_ne rfl (Collection.isPlain_path .clusterRoles (by decide)) rfl rfl
        plain plain' ne
    · exact Wanted.places_of_name_ne rfl
        (Collection.isPlain_path .clusterRoleBindings (by decide)) rfl rfl plain plain' ne
    · exact ServerManifest.aside_configMap site rfl plain rfl (.inl ⟨plain', ne⟩)
    · exact ServerManifest.aside_configMap site rfl plain rfl (.inr ⟨rfl, rfl, rfl⟩)
    · exact ServerManifest.aside_configMap site rfl plain' rfl (.inr ⟨rfl, rfl, rfl⟩)

end WorkloadIdentity

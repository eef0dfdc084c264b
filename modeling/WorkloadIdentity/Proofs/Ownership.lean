import WorkloadIdentity.Operator.Watch
import WorkloadIdentity.Proofs.Agreement
import WorkloadIdentity.Proofs.Patching

/-! Users choose labels for all objects of an operand, and may choose ones under the names that the
objects are found by. What is laid over what decides whether the objects still belong to their
operand: whether they are watched, whether services find their pods, and whether selectors stay what
they are. -/

namespace WorkloadIdentity

open Exchange

namespace OperandKind

/-- The steps for an operand. Only those for the discovery provider depend on the name of the storage
plugin and on a configuration. -/
def stepsAt : (kind : OperandKind) → Site kind.Spec → String → Json → List Step
  | server, site, _, _ => ServerSpec.stepsAt site
  | agent, site, _, _ => AgentSpec.stepsAt site
  | discovery, site, plugin, config => DiscoverySpec.stepsAt site plugin config
  | driver, site, _, _ => DriverSpec.stepsAt site

def objects (kind : OperandKind) (site : Site kind.Spec) (plugin : String) (config : Json) :
    List Wanted :=
  Step.wanteds (kind.stepsAt site plugin config)

theorem kind_spec (kind : OperandKind) : OperandSpec.kind kind.Spec = kind := by
  cases kind <;> rfl

variable {τ : Type} {server : Request → τ → Reply × τ} {s t : τ} {scene : Scene}
  {manager : ManagerSpec} {steps : List Step}

/-- Every pass has the steps of a site. -/
theorem exists_site (kind : OperandKind) {o : Operand kind.Spec}
    (planned : run server (OperandPass.steps scene manager o).run s = (.ok steps, t)) :
    ∃ site plugin config, Site.ofOperand o manager scene.settings = .ok site ∧
      steps = kind.stepsAt site plugin config := by
  cases kind with
  | server =>
    obtain ⟨site, placed, rfl⟩ := OperandPass.exists_site (fun _ _ _ => rfl) planned
    exact ⟨site, "", .null, placed, rfl⟩
  | agent =>
    obtain ⟨site, placed, rfl⟩ := OperandPass.exists_site (fun _ _ _ => rfl) planned
    exact ⟨site, "", .null, placed, rfl⟩
  | discovery => exact DiscoverySpec.exists_site planned
  | driver =>
    obtain ⟨site, placed, rfl⟩ := OperandPass.exists_site (fun _ _ _ => rfl) planned
    exact ⟨site, "", .null, placed, rfl⟩

end OperandKind

/-- The kinds whose objects stand outside all namespaces. -/
def clusterKinds : List String :=
  ["ClusterRole", "ClusterRoleBinding", "CSIDriver", "SecurityContextConstraints",
    "ClusterSPIFFEID"]

/-- The labels that the pods of an object are found by are those of a selector. -/
def Wanted.Selects (w : Wanted) (selector : Labels) : Prop :=
  match w with
  | ⟨.workload _, o, _⟩ => ∃ spec, o.spec = some spec ∧
      spec.selector = .obj [("matchLabels", Json.ofStrings selector)] ∧
      ∀ key value, selector.get? key = some value → o.podLabels.get? key = some value
  | ⟨.service, o, _⟩ => ∃ spec, o.spec = some spec ∧ spec.selector = some selector
  | _ => True

/-- An object is part of an operand: it has what the frame has, stands in its place, and finds pods
by the labels of a selector. -/
structure Wanted.IsPart (w : Wanted) (f : Frame) (space : String) (selector : Labels) : Prop where
  labels : w.metadata.labels = some f.labels
  owners : w.metadata.ownerReferences = some [f.owner]
  inside : w.metadata.namespaceName =
    if w.kindName ∈ clusterKinds then none else some f.namespaceName
  collection : w.collection.namespaceName =
    if w.kindName ∈ clusterKinds then none else some space
  watched : ∀ watch,
    (Watch.onObjects space).find? (fun watch => watch.kind = .object w.kind) = some watch →
    watch.collection = w.collection
  selects : w.Selects selector

theorem ServerSpec.isPart (site : Site ServerSpec) : ∀ w ∈ Step.wanteds (stepsAt site),
    w.IsPart site.frame site.settings.operandNamespace (Label.selector ServerManifest.name) := by
  have pods (key value : String) (h : (Label.selector ServerManifest.name).get? key = some value) :=
    site.frame.get?_podLabels h
  simp only [stepsAt, Step.wanteds, Step.of, List.filterMap_cons, List.filterMap_nil,
    List.forall_mem_cons]
  refine ⟨?_, ?_, ?_, ?_, ?_, ?_, ?_, ?service, ?_, ?_, ?_, ?workload, List.forall_mem_nil _⟩
  case service => exact ⟨rfl, rfl, rfl, rfl, fun _ h => by cases h; rfl, _, rfl, rfl⟩
  case workload => exact ⟨rfl, rfl, rfl, rfl, fun _ h => by cases h; rfl, _, rfl, rfl, pods⟩
  all_goals exact ⟨rfl, rfl, rfl, rfl, fun _ h => by cases h <;> rfl, trivial⟩

theorem AgentSpec.isPart (site : Site AgentSpec) : ∀ w ∈ Step.wanteds (stepsAt site),
    w.IsPart site.frame site.settings.operandNamespace (Label.selector AgentManifest.name) := by
  have pods (key value : String) (h : (Label.selector AgentManifest.name).get? key = some value) :=
    site.frame.get?_podLabels h
  simp only [stepsAt, Step.wanteds, Step.of, List.filterMap_cons, List.filterMap_nil,
    List.forall_mem_cons]
  refine ⟨?_, ?_, ?_, ?service, ?_, ?_, ?workload, List.forall_mem_nil _⟩
  case service => exact ⟨rfl, rfl, rfl, rfl, fun _ h => by cases h; rfl, _, rfl, rfl⟩
  case workload => exact ⟨rfl, rfl, rfl, rfl, fun _ h => by cases h; rfl, _, rfl, rfl, pods⟩
  all_goals exact ⟨rfl, rfl, rfl, rfl, fun _ h => by cases h <;> rfl, trivial⟩

theorem DriverSpec.isPart (site : Site DriverSpec) : ∀ w ∈ Step.wanteds (stepsAt site),
    w.IsPart site.frame site.settings.operandNamespace (Label.selector DriverManifest.name) := by
  have pods (key value : String) (h : (Label.selector DriverManifest.name).get? key = some value) :=
    site.frame.get?_podLabels h
  simp only [stepsAt, Step.wanteds, Step.of, List.filterMap_cons, List.filterMap_nil,
    List.forall_mem_cons]
  refine ⟨?_, ?_, ?_, ?workload, List.forall_mem_nil _⟩
  case workload => exact ⟨rfl, rfl, rfl, rfl, fun _ h => by cases h; rfl, _, rfl, rfl, pods⟩
  all_goals exact ⟨rfl, rfl, rfl, rfl, fun _ h => by cases h <;> rfl, trivial⟩

namespace DiscoveryManifest

variable {site : Site DiscoverySpec} {o : Untyped}

/-- Only what the request for an identity asks for depends on the specification. -/
theorem exists_data_identity (made : identity site = .ok o) : ∃ data, o = {
    type := some ("spire.spiffe.io/v1alpha1", "ClusterSPIFFEID")
    metadata := site.frame.clusterMetadata identityName, data } := by
  obtain ⟨id, -, made⟩ := exists_of_bind_ok made
  obtain ⟨host, -, made⟩ := exists_of_bind_ok made
  cases made
  exact ⟨_, rfl⟩

theorem exists_data_route (made : route site = .ok (some o)) : ∃ data, o = {
    type := some ("route.openshift.io/v1", "Route")
    metadata := site.frame.metadata routeName, data } := by
  unfold route at made
  split at made
  · cases made
  · obtain ⟨host, -, made⟩ := exists_of_bind_ok made
    cases made
    exact ⟨_, rfl⟩

end DiscoveryManifest

namespace DiscoverySpec

variable (site : Site DiscoverySpec)

theorem isPart (plugin : String) (config : Json) :
    ∀ w ∈ Step.wanteds (stepsAt site plugin config), w.IsPart site.frame
      site.settings.operandNamespace (Label.selector DiscoveryManifest.name) := by
  have pods (key value : String)
      (h : (Label.selector DiscoveryManifest.name).get? key = some value) :=
    site.frame.get?_podLabels h
  obtain ⟨identities, routes, list, identity, route⟩ := wanteds_stepsAt site plugin config
  rw [list]
  simp only [List.forall_mem_cons, List.forall_mem_append]
  refine ⟨?_, ?service, ⟨?identities, ?_, ?workload, List.forall_mem_nil _⟩, ?routes⟩
  case service => exact ⟨rfl, rfl, rfl, rfl, fun _ h => by cases h; rfl, _, rfl, rfl⟩
  case workload => exact ⟨rfl, rfl, rfl, rfl, fun _ h => by cases h; rfl, _, rfl, rfl, pods⟩
  case identities =>
    rcases identity with rfl | ⟨o, made, rfl⟩
    · exact List.forall_mem_nil _
    · obtain ⟨data, rfl⟩ := DiscoveryManifest.exists_data_identity made
      exact List.forall_mem_singleton.2 ⟨rfl, rfl, rfl, rfl, nofun, trivial⟩
  case routes =>
    rcases route with rfl | ⟨o, made, rfl⟩
    · exact List.forall_mem_nil _
    · obtain ⟨data, rfl⟩ := DiscoveryManifest.exists_data_route made
      exact List.forall_mem_singleton.2 ⟨rfl, rfl, rfl, rfl, nofun, trivial⟩
  all_goals exact ⟨rfl, rfl, rfl, rfl, fun _ h => by cases h; rfl, trivial⟩

end DiscoverySpec

namespace OperandKind

theorem isPart (kind : OperandKind) (site : Site kind.Spec) (plugin : String) (config : Json) :
    ∀ w ∈ kind.objects site plugin config, w.IsPart site.frame site.settings.operandNamespace
      (Label.selector kind.objectName) := by
  cases kind with
  | server => exact ServerSpec.isPart site
  | agent => exact AgentSpec.isPart site
  | discovery => exact DiscoverySpec.isPart site plugin config
  | driver => exact DriverSpec.isPart site

theorem served (kind : OperandKind) (site : Site kind.Spec) (plugin : String) (config : Json) :
    Served (kind.objects site plugin config) := by
  cases kind with
  | server => exact ServerSpec.served site
  | agent => exact AgentSpec.served site
  | discovery => exact DiscoverySpec.served site plugin config
  | driver => exact DriverSpec.served site

end OperandKind

/-- The labels that all objects of an operand carry, whatever labels are chosen. -/
def OperandKind.standardLabels (kind : OperandKind) : List (String × String) :=
  [(Label.name, kind.objectName), (Label.instanceName, "spire"),
    (Label.component, kind.component), (Label.partOf, operatorName),
    (Label.managedBy, operatorName)]

namespace Label

variable {kind : OperandKind} {chosen : Labels}

theorem get?_standard_of_mem {entry : String × String} (h : entry ∈ kind.standardLabels) :
    (standard kind.objectName kind.component chosen).get? entry.1 = some entry.2 := by
  have once : (kind.standardLabels.map Prod.fst).Nodup := by
    change [name, instanceName, component, partOf, managedBy].Nodup
    decide
  have found : (StringMap.ofList kind.standardLabels).get? entry.1 = some entry.2 :=
    StringMap.get?_ofList_of_mem once h
  rw [standard, StringMap.get?_merge]
  exact congrArg (Option.or · (chosen.get? entry.1)) found

theorem get?_name_standard :
    (standard kind.objectName kind.component chosen).get? name = some kind.objectName :=
  get?_standard_of_mem List.mem_cons_self

/-- All labels of other names are those that have been chosen. -/
theorem get?_standard_of_notMem {key : String} (h : key ∉ kind.standardLabels.map Prod.fst) :
    (standard kind.objectName kind.component chosen).get? key = chosen.get? key := by
  have absent : (StringMap.ofList kind.standardLabels).get? key = none :=
    StringMap.get?_foldl_of_notMem h ∅
  rw [standard, StringMap.get?_merge]
  exact (congrArg (Option.or · (chosen.get? key)) absent).trans Option.none_or

end Label

/-- A resource with a name and an identity of its own can own objects. -/
theorem Site.ofOperand_eq {σ : Type} [OperandSpec σ] {o : Operand σ} {uid : String}
    (named : o.metadata.name = some singletonName) (identified : o.metadata.uid = some uid)
    (manager : ManagerSpec) (settings : Settings) :
    Site.ofOperand o manager settings = .ok {
      frame := {
        namespaceName := settings.operandNamespace
        labels := Label.standard (OperandSpec.kind σ).objectName (OperandSpec.kind σ).component
          (OperandSpec.placement o.spec).labels
        owner := {
          apiVersion := customApiVersion, kind := (OperandSpec.kind σ).kindName
          name := singletonName, uid, controller := some true, blockOwnerDeletion := none } }
      spec := o.spec, manager, settings } := by
  unfold ofOperand OwnerReference.toController
  rw [named, identified]
  rfl

/-- What an operand owns leads to its resource, and to no other one. -/
theorem Seen.leadsTo_object {m : Meta} {owner : OwnerReference} {kind : CustomKind}
    (owned : m.ownerReferences = some [owner]) (ofKind : owner.kind = kind.kindName)
    (named : owner.name = singletonName) (other : CustomKind) :
    (Seen.object m).leadsTo other = if other = kind then some singletonName else none := by
  unfold leadsTo isOwned
  by_cases same : other = kind
  · subst same
    simp [owned, ofKind, named]
  · have apart : kind.kindName ≠ other.kindName :=
      fun names => same (CustomKind.eq_of_kindName_eq names).symm
    simp [owned, ofKind, apart, same]

/-- An object belongs to the operand of a kind whose resource has an identity and chooses labels for
its objects. -/
structure Wanted.BelongsTo (w : Wanted) (kind : OperandKind) (uid : String) (chosen : Labels)
    (space : String) : Prop where
  /-- It has the standard labels with their values, and all others as they have been chosen. -/
  labels : ∃ labels, w.metadata.labels = some labels ∧
    (∀ entry ∈ kind.standardLabels, labels.get? entry.1 = some entry.2) ∧
    ∀ key ∉ kind.standardLabels.map Prod.fst, labels.get? key = chosen.get? key
  /-- The resource owns and controls it, and nothing else does. -/
  owners : w.metadata.ownerReferences = some [{
    apiVersion := customApiVersion, kind := kind.kindName, name := singletonName, uid
    controller := some true, blockOwnerDeletion := none }]
  inside : w.metadata.namespaceName = if w.kindName ∈ clusterKinds then none else some space
  collection : w.collection.namespaceName = w.metadata.namespaceName
  /-- If objects of its kind are watched, then it is where they are watched. -/
  watched : ∀ watch,
    (Watch.onObjects space).find? (fun watch => watch.kind = .object w.kind) = some watch →
    watch.collection = w.collection
  /-- A controller that sees it looks at the resource if it is that of the operand, and at nothing
  otherwise. -/
  leads : ∀ other, (Seen.object w.metadata).leadsTo other =
    if other = .operand kind then some singletonName else none
  /-- Pods are found by labels that have not been chosen. -/
  selects : w.Selects (Label.selector kind.objectName)

theorem Wanted.IsPart.belongsTo {w : Wanted} {kind : OperandKind} {f : Frame} {uid space : String}
    {chosen : Labels} (part : w.IsPart f space (Label.selector kind.objectName))
    (inside : f.namespaceName = space)
    (labels : f.labels = Label.standard kind.objectName kind.component chosen)
    (owner : f.owner = {
      apiVersion := customApiVersion, kind := kind.kindName, name := singletonName, uid
      controller := some true, blockOwnerDeletion := none }) :
    w.BelongsTo kind uid chosen space where
  labels := by
    refine ⟨f.labels, part.labels, ?_, ?_⟩
    · intro entry standard
      rw [labels]
      exact Label.get?_standard_of_mem standard
    · intro key other
      rw [labels]
      exact Label.get?_standard_of_notMem other
  owners := by rw [part.owners, owner]
  inside := by rw [part.inside, inside]
  collection := by rw [part.collection, part.inside, inside]
  watched := part.watched
  leads := Seen.leadsTo_object part.owners (by rw [owner]; rfl) (by rw [owner])
  selects := part.selects

/-- **The objects of an operand belong to it.** Whatever labels its user chooses, all objects of an
operand carry the standard ones, are owned by its resource, lie where they are watched and lead to
that resource alone; services find the pods of its workload, and what pods are found by is not a
matter of choice. This is so for all objects that any pass over the operand applies. -/
theorem objects_belong_to_operand (kind : OperandKind) (o : Operand kind.Spec) {uid : String}
    (named : o.metadata.name = some singletonName) (identified : o.metadata.uid = some uid)
    (manager : ManagerSpec) (settings : Settings) :
    ∃ site, Site.ofOperand o manager settings = .ok site ∧
      (∀ plugin config,
        (∀ w ∈ kind.objects site plugin config, w.BelongsTo kind uid
          (OperandSpec.placement o.spec).labels settings.operandNamespace) ∧
        Served (kind.objects site plugin config)) ∧
      ∀ (τ : Type) (server : Request → τ → Reply × τ) s t now steps,
        run server (OperandPass.steps ⟨settings, now⟩ manager o).run s = (.ok steps, t) →
        ∃ plugin config, Step.wanteds steps = kind.objects site plugin config := by
  have placed := Site.ofOperand_eq named identified manager settings
  rw [OperandKind.kind_spec] at placed
  refine ⟨_, placed, ?_, ?_⟩
  · intro plugin config
    refine ⟨?_, kind.served _ plugin config⟩
    intro w mem
    exact (kind.isPart _ plugin config w mem).belongsTo rfl rfl rfl
  · intro τ server s t now steps planned
    obtain ⟨site, plugin, config, placed', rfl⟩ := kind.exists_site planned
    cases placed.symm.trans placed'
    exact ⟨plugin, config, rfl⟩

/-- The agents, with a label of a name that pods are found by. -/
def labelledAgent : Operand OperandKind.agent.Spec where
  metadata := { name := some singletonName, uid := some "42" }
  spec := ({ placement := { labels := .ofList [(Label.name, "agents"), ("team", "identity")] } } :
    AgentSpec)

theorem objects_belong_to_operand_agent : ∃ site,
    Site.ofOperand labelledAgent ⟨"example.org", "cluster", "spire-bundle"⟩
      { operandNamespace := "spire" } = .ok site ∧
    ∀ w ∈ OperandKind.agent.objects site "" .null, ∃ labels, w.metadata.labels = some labels ∧
      labels.get? Label.name = some "spire-agent" ∧ labels.get? "team" = some "identity" := by
  obtain ⟨site, placed, belong, -⟩ := objects_belong_to_operand .agent labelledAgent rfl rfl
    ⟨"example.org", "cluster", "spire-bundle"⟩ { operandNamespace := "spire" }
  refine ⟨site, placed, fun w mem => ?_⟩
  obtain ⟨labels, carried, standard, others⟩ := ((belong "" .null).1 w mem).labels
  refine ⟨labels, carried, standard (Label.name, "spire-agent") List.mem_cons_self, ?_⟩
  rw [others "team" (by decide)]
  rfl

end WorkloadIdentity

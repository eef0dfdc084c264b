import Mathlib.Data.List.Forall2
import Mathlib.Data.List.Nodup
import Mathlib.Data.List.Perm.Subperm
import WorkloadIdentity.Proofs.Convergence
import WorkloadIdentity.Proofs.Metadata

/-! The containers of a workload are found by their names, one for each wanted one, and since there
are as many of them, no other container is among them. -/

namespace WorkloadIdentity

/-- The labels and annotations that are wanted are there, with their values. -/
def Meta.Has (existing desired : Meta) : Prop :=
  ∀ (mark : Mark) (key value : String), ((mark.of desired).getD ∅).get? key = some value →
    ((mark.of existing).getD ∅).get? key = some value

theorem Labels.get?_of_isSubset_getD {existing desired : Option Labels} {key value : String}
    (covers : isSubset existing desired = true)
    (entry : (desired.getD ∅).get? key = some value) :
    (existing.getD ∅).get? key = some value := by
  cases desired with
  | none => simp at entry
  | some wanted => exact get?_of_isSubset covers entry

theorem Meta.has_of_not_differs {existing desired : Meta}
    (same : existing.differs desired = false) : existing.Has desired := by
  simp only [differs, Bool.or_eq_false_iff, Bool.not_eq_false'] at same
  intro mark key value entry
  cases mark with
  | labels => exact Labels.get?_of_isSubset_getD same.1 entry
  | annotations => exact Labels.get?_of_isSubset_getD same.2 entry

namespace Container

/-- A live container is what the wanted one says. What the server fills in is left out: an empty
list of variables, or that a mount may be written to. -/
structure Matches (existing desired : Container) : Prop where
  name : existing.name = desired.name
  image : existing.image = desired.image
  args : existing.args = desired.args
  command : existing.command = desired.command
  env : (existing.env.getD []).map (fun v => (v.name, v.value, v.fieldPath)) =
    (desired.env.getD []).map (fun v => (v.name, v.value, v.fieldPath))
  mounts :
    (existing.volumeMounts.getD []).map (fun m => (m.name, m.mountPath, m.readOnly.getD false)) =
      (desired.volumeMounts.getD []).map (fun m => (m.name, m.mountPath, m.readOnly.getD false))

/-- The live containers are, in some order, those that match the wanted ones one by one, and no name
is repeated among them. -/
structure ListsMatch (existing desired : List Container) : Prop where
  oneByOne : ∃ ordered : List Container,
    ordered.Perm existing ∧ List.Forall₂ Matches ordered desired
  once : (existing.map (·.name)).Nodup

theorem matches_of_not_differs {existing desired : Container} (name : existing.name = desired.name)
    (same : existing.differs desired = false) : existing.Matches desired := by
  simp only [differs, ne_eq, Bool.or_eq_false_iff, decide_eq_false_iff_not, Decidable.not_not]
    at same
  obtain ⟨⟨⟨⟨⟨image, args⟩, command⟩, env⟩, -⟩, mounts⟩ := same
  exact ⟨name, image, args, command, env, mounts⟩

/-- Each wanted container has a live one that matches. -/
theorem exists_matches_of_not_listsDiffer {existing desired : List Container}
    (same : listsDiffer existing desired = false) :
    existing.length = desired.length ∧ ∀ d ∈ desired, ∃ e ∈ existing, e.Matches d := by
  simp only [listsDiffer, ne_eq, Bool.or_eq_false_iff, decide_eq_false_iff_not, Decidable.not_not,
    List.any_eq_false] at same
  refine ⟨same.1, fun d mem => ?_⟩
  have matched := same.2 d mem
  cases found : existing.find? (fun e => e.name = d.name) with
  | none => simp [found] at matched
  | some e =>
    have name : e.name = d.name := by simpa using List.find?_some found
    rw [found] at matched
    exact ⟨e, List.mem_of_find?_eq_some found, matches_of_not_differs name (by simpa using matched)⟩

theorem names_of_forall₂ {ordered desired : List Container}
    (fits : List.Forall₂ Matches ordered desired) :
    ordered.map (·.name) = desired.map (·.name) := by
  induction fits with
  | nil => rfl
  | cons first _ ih => rw [List.map_cons, List.map_cons, first.name, ih]

/-- **No container is left over.** Those that match the wanted ones are different ones, as their
names are, and there are as many of them as there are containers. -/
theorem listsMatch_of_not_listsDiffer {existing desired : List Container}
    (once : (desired.map (·.name)).Nodup) (same : listsDiffer existing desired = false) :
    ListsMatch existing desired := by
  obtain ⟨length, found⟩ := exists_matches_of_not_listsDiffer same
  obtain ⟨ordered, there, fits⟩ : ∃ ordered : List Container, ordered ⊆ existing ∧
      List.Forall₂ Matches ordered desired := by
    clear length same once
    induction desired with
    | nil => exact ⟨[], List.nil_subset _, .nil⟩
    | cons d rest ih =>
      obtain ⟨first, later⟩ := List.forall_mem_cons.1 found
      obtain ⟨e, mem, fit⟩ := first
      obtain ⟨ordered, there, fits⟩ := ih later
      exact ⟨e :: ordered, List.cons_subset.2 ⟨mem, there⟩, .cons fit fits⟩
  have names := names_of_forall₂ fits
  have distinct : (ordered.map (·.name)).Nodup := names ▸ once
  have perm : ordered.Perm existing :=
    (List.subperm_of_subset (List.Nodup.of_map _ distinct) there).perm_of_length_le
      (Nat.le_of_eq (length.trans fits.length_eq.symm))
  exact ⟨⟨ordered, perm, fits⟩, (perm.map _).nodup_iff.1 distinct⟩

end Container

/-- A live pod has the containers, the account and the places that are wanted. -/
structure PodSpec.Matches (existing desired : PodSpec) : Prop where
  containers : Container.ListsMatch existing.containers desired.containers
  initContainers :
    Container.ListsMatch (existing.initContainers.getD []) (desired.initContainers.getD [])
  serviceAccountName : existing.serviceAccountName = desired.serviceAccountName
  nodeSelector : existing.nodeSelector.getD ∅ = desired.nodeSelector.getD ∅
  tolerations : existing.tolerations.getD [] = desired.tolerations.getD []
  affinity : existing.affinity = desired.affinity

theorem PodSpec.matches_of_not_differs {existing desired : PodSpec}
    (once : (desired.containers.map (·.name)).Nodup)
    (onceInit : ((desired.initContainers.getD []).map (·.name)).Nodup)
    (same : existing.differs desired = false) : existing.Matches desired := by
  simp only [differs, ne_eq, Bool.or_eq_false_iff, decide_eq_false_iff_not, Decidable.not_not]
    at same
  obtain ⟨⟨⟨⟨⟨⟨containers, initContainers⟩, account⟩, selector⟩, tolerations⟩, affinity⟩, -⟩ := same
  exact ⟨Container.listsMatch_of_not_listsDiffer once containers,
    Container.listsMatch_of_not_listsDiffer onceInit initContainers, account, selector, tolerations,
    affinity⟩

/-- A live template has the labels and annotations of the wanted one, and a pod that does not
differ. -/
theorem PodTemplate.has_of_not_differs {existing desired : PodTemplate} {pod : PodSpec}
    (wanted : desired.spec = some pod) (same : existing.differs desired = false) :
    (existing.metadata.getD {}).Has (desired.metadata.getD {}) ∧
      ∃ live, existing.spec = some live ∧ live.differs pod = false := by
  rw [differs, wanted, Bool.or_eq_false_iff] at same
  refine ⟨Meta.has_of_not_differs same.1, ?_⟩
  cases there : existing.spec with
  | none => simp [there] at same
  | some live =>
    rw [there] at same
    exact ⟨live, rfl, same.2⟩

theorem Workload.has_of_not_needsUpdate {kind : WorkloadKind} {existing desired : Workload kind}
    {spec : WorkloadSpec} (wanted : desired.spec = some spec)
    (same : needsUpdate existing desired = false) :
    existing.metadata.Has desired.metadata ∧
      ∃ live, existing.spec = some live ∧ (kind ≠ .daemonSet → live.replicas = spec.replicas) ∧
        live.template.differs spec.template = false := by
  rw [needsUpdate, wanted, Bool.or_eq_false_iff] at same
  refine ⟨Meta.has_of_not_differs same.1, ?_⟩
  cases there : existing.spec with
  | none => simp [there] at same
  | some live =>
    rw [there] at same
    have specs : WorkloadSpec.differs kind live spec = false := same.2
    simp only [WorkloadSpec.differs, ne_eq, Bool.or_eq_false_iff, Bool.and_eq_false_iff,
      decide_eq_false_iff_not, Decidable.not_not] at specs
    exact ⟨live, rfl, fun counted => specs.1.resolve_left (fun e => counted e), specs.2⟩

/-- **A workload that is left alone has not drifted.** If a live workload does not have to be
replaced by one whose containers have names of their own, it has a pod whose containers are the
wanted ones, in any order, without one that is added or repeated; the pod runs under the wanted
account at the wanted places, and all labels and annotations that are wanted of the workload and of
its pods are there. Unless there is one pod for each node, there are as many as wanted. -/
theorem unchanged_workload_has_no_drift {kind : WorkloadKind} (existing desired : Workload kind)
    {spec : WorkloadSpec} {pod : PodSpec} (specified : desired.spec = some spec)
    (wanted : spec.template.spec = some pod) (once : (pod.containers.map (·.name)).Nodup)
    (onceInit : ((pod.initContainers.getD []).map (·.name)).Nodup)
    (unchanged : Managed.needsUpdate existing desired = false) :
    ∃ (live : WorkloadSpec) (livePod : PodSpec), existing.spec = some live ∧
      live.template.spec = some livePod ∧ livePod.Matches pod ∧
      existing.metadata.Has desired.metadata ∧
      (live.template.metadata.getD {}).Has (spec.template.metadata.getD {}) ∧
      (kind ≠ .daemonSet → live.replicas = spec.replicas) := by
  obtain ⟨metadata, live, there, replicas, template⟩ :=
    Workload.has_of_not_needsUpdate specified unchanged
  obtain ⟨marks, livePod, podThere, pods⟩ := PodTemplate.has_of_not_differs wanted template
  have fits := PodSpec.matches_of_not_differs once onceInit pods
  exact ⟨live, livePod, there, podThere, fits, metadata, marks, replicas⟩

/-- The pod of a provider with a proxy beside it. -/
def proxiedPod : PodSpec where
  containers := [
    { name := "provider", image := some "provider:2"
      env := some [.ofField "NODE" "spec.nodeName"]
      volumeMounts := some [{ name := "sockets", mountPath := "/run" }] },
    { name := "proxy", image := some "proxy:1" }]
  serviceAccountName := some "provider"

/-- The wanted deployment of the provider. -/
def proxiedDeployment : Deployment :=
  { metadata := { name := some "provider", labels := some (.ofList [("app", "provider")]) }
    spec := some {
      replicas := some 2
      template := {
        metadata := some { annotations := some (.ofList [("hash", "a")]) }
        spec := some proxiedPod } } }

/-- The deployment as others leave it: labelled, its containers the other way round, and with what
the server writes where nothing is given. -/
def reorderedDeployment : Deployment :=
  { metadata := {
      name := some "provider", resourceVersion := some "5"
      labels := some (.ofList [("app", "provider"), ("team", "blue")]) }
    spec := some {
      replicas := some 2
      template := {
        metadata := some { annotations := some (.ofList [("hash", "a"), ("restarted", "today")]) }
        spec := some {
          containers := [
            { name := "proxy", image := some "proxy:1", env := some [] },
            { name := "provider", image := some "provider:2"
              env := some [.ofField "NODE" "spec.nodeName"]
              volumeMounts := some [
                { name := "sockets", mountPath := "/run", readOnly := some false }] }]
          serviceAccountName := some "provider"
          tolerations := some [] } } } }

theorem unchanged_workload_has_no_drift_reordered :
    (proxiedPod.containers.map (·.name)).Nodup ∧
    ((proxiedPod.initContainers.getD []).map (·.name)).Nodup ∧
    Managed.needsUpdate reorderedDeployment proxiedDeployment = false ∧
    ∃ (live : WorkloadSpec) (livePod : PodSpec), reorderedDeployment.spec = some live ∧
      live.template.spec = some livePod ∧ livePod.Matches proxiedPod ∧
      reorderedDeployment.metadata.Has proxiedDeployment.metadata ∧
      live.replicas = some 2 := by
  have once : (proxiedPod.containers.map (·.name)).Nodup := by decide
  have onceInit : ((proxiedPod.initContainers.getD []).map (·.name)).Nodup := by decide
  have unchanged : Managed.needsUpdate reorderedDeployment proxiedDeployment = false := by decide
  obtain ⟨live, livePod, there, podThere, pods, metadata, -, replicas⟩ :=
    unchanged_workload_has_no_drift reorderedDeployment proxiedDeployment rfl rfl once onceInit
      unchanged
  exact ⟨once, onceInit, unchanged, live, livePod, there, podThere, pods, metadata,
    replicas (by decide)⟩

end WorkloadIdentity

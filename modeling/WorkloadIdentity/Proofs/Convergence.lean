import WorkloadIdentity.Plan.Kind
import WorkloadIdentity.Proofs.Coverage

/-! Carrying over what others maintain never makes a difference of its own. But pods are matched and
compared part by part, and quantities by their amounts, so that some wanted objects differ even from
themselves; `ManagedKind.IsComparable` rules these out. -/

namespace WorkloadIdentity

theorem Labels.isSubset_of_get? {existing desired : Option Labels}
    (h : ∀ wanted, desired = some wanted → ∀ key value, wanted.get? key = some value →
      (existing.getD ∅).get? key = some value) :
    Labels.isSubset existing desired = true := by
  cases desired with
  | none => rfl
  | some wanted =>
    simp only [Labels.isSubset, List.all_eq_true, decide_eq_true_eq]
    intro e he
    exact h wanted rfl e.1 e.2 (StringMap.get?_eq_some_of_mem he)

theorem Labels.isSubset_self (labels : Option Labels) : Labels.isSubset labels labels = true := by
  apply Labels.isSubset_of_get?
  rintro wanted rfl key value h
  exact h

/-- A live map that covers a wanted one has its entries. -/
theorem Labels.get?_of_isSubset {existing : Option Labels} {wanted : Labels} {key value : String}
    (covers : isSubset existing (some wanted) = true) (entry : wanted.get? key = some value) :
    (existing.getD ∅).get? key = some value := by
  have mem : (key, value) ∈ wanted.entries := mem_of_lookup_eq_some entry
  exact of_decide_eq_true (List.all_eq_true.1 covers (key, value) mem)

theorem Labels.get?_mergeOptional (existing desired : Option Labels) (key : String) :
    ((mergeOptional existing desired).getD ∅).get? key =
      ((desired.getD ∅).get? key).or ((existing.getD ∅).get? key) := by
  cases existing with
  | none => cases desired <;> simp [mergeOptional]
  | some e =>
    cases desired with
    | none => simp [mergeOptional]
    | some d => exact StringMap.get?_merge e d key

/-- Wanted entries survive being laid over those of others. -/
theorem Labels.isSubset_mergeOptional (existing desired : Option Labels) :
    Labels.isSubset (Labels.mergeOptional existing desired) desired = true := by
  apply Labels.isSubset_of_get?
  rintro wanted rfl key value h
  rw [Labels.get?_mergeOptional, Option.getD_some, h, Option.some_or]

namespace Meta

@[simp]
theorem differs_self (m : Meta) : m.differs m = false := by
  simp [differs, Labels.isSubset_self]

@[simp]
theorem differs_carry (existing desired : Meta) :
    (existing.carry desired).differs desired = false := by
  simp [differs, carry, Labels.isSubset_mergeOptional]

end Meta

/-- The first entry of a list under a name is the only one if no name is repeated. -/
theorem find?_of_nodup {α : Type} (name : α → String) {items : List α}
    (once : (items.map name).Nodup) {a : α} (h : a ∈ items) :
    items.find? (fun b => name b = name a) = some a := by
  induction items with
  | nil => simp at h
  | cons b rest ih =>
    obtain ⟨notIn, once⟩ := List.nodup_cons.1 once
    rw [List.find?_cons]
    rcases List.mem_cons.1 h with h | h
    · simp [h]
    · have inRest : name a ∈ rest.map name := List.mem_map_of_mem h
      have ne : name b ≠ name a := fun e => notIn (e ▸ inRest)
      simp [ne, ih once h]

namespace Container

theorem differs_self {c : Container} (h : Resources.differ c.resources c.resources = false) :
    c.differs c = false := by
  simp [differs, h]

/-- Containers are found by their names, whatever else becomes of them. -/
theorem listsDiffer_map {f : Container → Container} {containers : List Container}
    (names : ∀ c, (f c).name = c.name) (once : (containers.map (·.name)).Nodup)
    (same : ∀ c ∈ containers, (f c).differs c = false) :
    listsDiffer (containers.map f) containers = false := by
  simp only [listsDiffer, List.length_map, ne_eq, not_true_eq_false, decide_false, Bool.false_or,
    List.any_eq_false]
  intro c mem
  have found : (containers.map f).find? (fun e => e.name = c.name) = some (f c) := by
    rw [List.find?_map]
    simp only [Function.comp_def, names]
    rw [find?_of_nodup (·.name) once mem, Option.map_some]
  rw [found]
  exact Bool.eq_false_iff.1 (same c mem)

theorem listsDiffer_self {containers : List Container} (once : (containers.map (·.name)).Nodup)
    (h : ∀ c ∈ containers, Resources.differ c.resources c.resources = false) :
    listsDiffer containers containers = false := by
  have same := listsDiffer_map (f := id) (fun _ => rfl) once fun c mem => differs_self (h c mem)
  rwa [List.map_id] at same

end Container

namespace Volume

theorem differs_self {v : Volume} (h : v.toJson.IsProper) : v.differs v = false := by
  simp [differs, Json.coveredBy_self _ h]

theorem listsDiffer_self {volumes : List Volume} (h : ∀ v ∈ volumes, v.toJson.IsProper) :
    listsDiffer volumes volumes = false := by
  induction volumes with
  | nil => rfl
  | cons v rest ih =>
    have := ih (fun w hw => h w (List.mem_cons_of_mem _ hw))
    simp only [listsDiffer, ne_eq, not_true_eq_false, decide_false, Bool.false_or] at this ⊢
    simp only [List.zip_cons_cons, List.any_cons, this, Bool.or_false]
    exact differs_self (h v List.mem_cons_self)

end Volume

/-- A pod that does not differ from itself: containers are told apart by their names, quantities
can be compared, and volumes are proper values. -/
structure PodSpec.IsComparable (pod : PodSpec) : Prop where
  containers : (pod.containers.map (·.name)).Nodup
  initContainers : ((pod.initContainers.getD []).map (·.name)).Nodup
  resources : ∀ c ∈ pod.containers ++ pod.initContainers.getD [],
    Resources.differ c.resources c.resources = false
  volumes : ∀ v ∈ pod.volumes.getD [], v.toJson.IsProper

theorem PodSpec.differs_self {pod : PodSpec} (h : pod.IsComparable) : pod.differs pod = false := by
  have main := Container.listsDiffer_self h.containers
    (fun c hc => h.resources c (List.mem_append_left _ hc))
  have init := Container.listsDiffer_self h.initContainers
    (fun c hc => h.resources c (List.mem_append_right _ hc))
  have volumes := Volume.listsDiffer_self h.volumes
  simp [PodSpec.differs, main, init, volumes]

def PodTemplate.IsComparable (t : PodTemplate) : Prop := ∀ pod, t.spec = some pod → pod.IsComparable

theorem PodTemplate.differs_self {t : PodTemplate} (h : t.IsComparable) : t.differs t = false := by
  obtain ⟨metadata, spec⟩ := t
  cases spec with
  | none => simp [PodTemplate.differs]
  | some pod => simp [PodTemplate.differs, PodSpec.differs_self (h pod rfl)]

def Workload.IsComparable {kind : WorkloadKind} (o : Workload kind) : Prop :=
  ∀ spec, o.spec = some spec → spec.template.IsComparable

/-- A wanted object that does not differ from itself. -/
def ManagedKind.IsComparable : (kind : ManagedKind) → kind.Object → Prop
  | .workload _, o => Workload.IsComparable o
  | .untyped, o => (Json.obj (Untyped.data o)).IsProper
  | _, _ => True

namespace ConfigMap

theorem needsUpdate_prepare (existing desired : ConfigMap) :
    needsUpdate (prepare existing desired) desired = false := by
  cases h : desired.data <;> simp [needsUpdate, prepare, h]

end ConfigMap

namespace Service

theorem needsUpdate_prepare (existing desired : Service) :
    needsUpdate (prepare existing desired) desired = false := by
  cases he : existing.spec <;> cases hd : desired.spec <;>
    simp [needsUpdate, prepare, he, hd, ServiceSpec.differs, ServiceSpec.carry]

theorem needsUpdate_self (o : Service) : needsUpdate o o = false := by
  cases h : o.spec <;> simp [needsUpdate, h, ServiceSpec.differs]

end Service

namespace Workload

variable {kind : WorkloadKind}

theorem needsUpdate_of_template {existing desired : Workload kind}
    (metadata : existing.metadata.differs desired.metadata = false)
    (spec : existing.spec.isSome = desired.spec.isSome)
    (same : ∀ e d, existing.spec = some e → desired.spec = some d →
      e.replicas = d.replicas ∧ e.template.differs d.template = false) :
    needsUpdate existing desired = false := by
  cases he : existing.spec with
  | none => cases hd : desired.spec <;> simp_all [needsUpdate]
  | some e =>
    cases hd : desired.spec with
    | none => simp_all
    | some d =>
      obtain ⟨replicas, template⟩ := same e d he hd
      simp [needsUpdate, metadata, he, hd, WorkloadSpec.differs, replicas, template]

/-- The claims of a stateful set are all that is carried over of its specification. -/
theorem spec_prepare {existing desired : Workload kind} {e : WorkloadSpec}
    (h : (prepare existing desired).spec = some e) :
    ∃ d, desired.spec = some d ∧ e.replicas = d.replicas ∧ e.template = d.template := by
  cases he : existing.spec <;> cases hd : desired.spec <;>
    simp only [prepare, he, hd, ite_self] at h
  · cases h
  · exact ⟨_, rfl, by cases h; exact ⟨rfl, rfl⟩⟩
  · cases h
  · split at h <;> exact ⟨_, rfl, by cases h; exact ⟨rfl, rfl⟩⟩

theorem isSome_spec_prepare (existing desired : Workload kind) :
    (prepare existing desired).spec.isSome = desired.spec.isSome := by
  cases he : existing.spec <;> cases hd : desired.spec <;> simp only [prepare, he, hd] <;>
    split <;> rfl

theorem needsUpdate_self {o : Workload kind} (h : o.IsComparable) : needsUpdate o o = false := by
  apply needsUpdate_of_template (Meta.differs_self _) rfl
  intro e d he hd
  cases he.symm.trans hd
  exact ⟨rfl, PodTemplate.differs_self (h e he)⟩

theorem needsUpdate_prepare (existing : Workload kind) {desired : Workload kind}
    (h : desired.IsComparable) : needsUpdate (prepare existing desired) desired = false := by
  apply needsUpdate_of_template (Meta.differs_carry _ _) (isSome_spec_prepare _ _)
  intro e d he hd
  obtain ⟨d', hd', replicas, template⟩ := spec_prepare he
  cases hd.symm.trans hd'
  rw [template]
  exact ⟨replicas, PodTemplate.differs_self (h d hd)⟩

end Workload

namespace ManagedKind

variable {kind : ManagedKind}

theorem needsUpdate_self {o : kind.Object} (h : kind.IsComparable o) :
    Managed.needsUpdate o o = false := by
  cases kind with
  | configMap => simp [Managed.needsUpdate, ConfigMap.needsUpdate]
  | serviceAccount => simp [Managed.needsUpdate, ServiceAccount.needsUpdate]
  | service => exact Service.needsUpdate_self o
  | role => simp [Managed.needsUpdate, Role.needsUpdate]
  | binding => simp [Managed.needsUpdate, Binding.needsUpdate]
  | workload => exact Workload.needsUpdate_self h
  | csiDriver => simp [Managed.needsUpdate, CsiDriver.needsUpdate]
  | untyped =>
    have covered := Json.coveredBy_self _ h
    simp [Managed.needsUpdate, Untyped.needsUpdate, covered]

/-- What is carried over from a live object makes no difference to the wanted one. -/
theorem needsUpdate_prepare (existing : kind.Object) {desired : kind.Object}
    (h : kind.IsComparable desired) :
    Managed.needsUpdate (Managed.prepare existing desired) desired = false := by
  cases kind with
  | configMap => exact ConfigMap.needsUpdate_prepare existing desired
  | serviceAccount =>
    simp [Managed.needsUpdate, Managed.prepare, ServiceAccount.needsUpdate, ServiceAccount.prepare]
  | service => exact Service.needsUpdate_prepare existing desired
  | role => simp [Managed.needsUpdate, Managed.prepare, Role.needsUpdate, Role.prepare]
  | binding => simp [Managed.needsUpdate, Managed.prepare, Binding.needsUpdate, Binding.prepare]
  | workload => exact Workload.needsUpdate_prepare existing h
  | csiDriver =>
    simp [Managed.needsUpdate, Managed.prepare, CsiDriver.needsUpdate, CsiDriver.prepare]
  | untyped =>
    have covered := Json.coveredBy_self _ h
    simp [Managed.needsUpdate, Managed.prepare, Untyped.needsUpdate, Untyped.prepare, covered]

end ManagedKind

theorem plan_of_not_needsUpdate {α : Type} [Managed α] {live desired : α}
    (h : Managed.needsUpdate live desired = false) :
    plan (some live) desired false = .unchanged := by
  simp [plan, h]

theorem plan_of_needsUpdate {α : Type} [Managed α] {live desired : α}
    (h : Managed.needsUpdate live desired = true) :
    plan (some live) desired false = .replace (Managed.prepare live desired) := by
  simp [plan, h]

/-- A plan replaces an object by the wanted one with what is carried over. -/
theorem eq_prepare_of_plan_replace {α : Type} [Managed α] {live desired object : α}
    {createOnly : Bool} (h : plan (some live) desired createOnly = .replace object) :
    object = Managed.prepare live desired := by
  simp only [plan] at h
  split at h
  · cases h
  · split at h
    · injection h with h
      exact h.symm
    · cases h

/-- **A plan converges in one step.** What a plan creates or replaces is kept by the next plan for
the same wanted object. -/
theorem plan_converges (kind : ManagedKind) (desired : kind.Object)
    (comparable : kind.IsComparable desired) :
    (∀ createOnly, plan none desired createOnly = .create desired) ∧
    plan (some desired) desired false = .unchanged ∧
    ∀ live object, plan (some live) desired false = .replace object →
      plan (some object) desired false = .unchanged := by
  refine ⟨fun _ => rfl, ?_, ?_⟩
  · exact plan_of_not_needsUpdate (ManagedKind.needsUpdate_self comparable)
  · intro live object replaced
    rw [eq_prepare_of_plan_replace replaced]
    exact plan_of_not_needsUpdate (ManagedKind.needsUpdate_prepare live comparable)

/-- A daemon set with limited resources and a volume. -/
def limitedDaemonSet : DaemonSet :=
  { metadata := { name := some "agents", labels := some (.ofList [("app", "agents")]) }
    spec := some { template := { spec := some {
      containers := [{
        name := "agent", image := some "agent:2"
        resources := some {
          limits := some (.ofList [("cpu", "0.5"), ("memory", "1Gi")])
          requests := some (.ofList [("cpu", "500m"), ("memory", "512Mi")]) } }]
      volumes := some [{ name := "run", source := [("emptyDir", .obj [])] }] } } } }

/-- The same daemon set as it stands in the cluster, with another image and a label of others. -/
def liveDaemonSet : DaemonSet :=
  { metadata := {
      name := some "agents", resourceVersion := some "7"
      labels := some (.ofList [("app", "agents"), ("team", "blue")]) }
    spec := some { template := { spec := some { containers := [{
      name := "agent", image := some "agent:1" }] } } } }

theorem isComparable_limitedDaemonSet :
    ManagedKind.IsComparable (.workload .daemonSet) limitedDaemonSet := by
  rintro spec ⟨⟩ pod ⟨⟩
  refine ⟨by decide, by decide, ?_, ?_⟩
  · intro c hc
    simp only [Option.getD_none, List.append_nil, List.mem_singleton] at hc
    subst hc
    decide
  · intro v hv
    simp only [Option.getD_some, List.mem_singleton] at hv
    subst hv
    simp [Volume.toJson, Json.IsProper, Json.MembersProper]

theorem plan_converges_limitedDaemonSet :
    ManagedKind.IsComparable (.workload .daemonSet) limitedDaemonSet ∧
    plan (some liveDaemonSet) limitedDaemonSet false =
      .replace (Managed.prepare liveDaemonSet limitedDaemonSet) ∧
    plan (some (Managed.prepare liveDaemonSet limitedDaemonSet)) limitedDaemonSet false =
      .unchanged := by
  have replaced : plan (some liveDaemonSet) limitedDaemonSet false =
      .replace (Managed.prepare liveDaemonSet limitedDaemonSet) := by decide
  have converges := plan_converges (.workload .daemonSet) limitedDaemonSet
    isComparable_limitedDaemonSet
  exact ⟨isComparable_limitedDaemonSet, replaced, converges.2.2 _ _ replaced⟩

end WorkloadIdentity

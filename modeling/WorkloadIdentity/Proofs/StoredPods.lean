import WorkloadIdentity.Proofs.Normal
import WorkloadIdentity.Proofs.Stored

/-! The server completes much of a pod, such as the fields of variables and volumes, so that only
what survives being completed says the same when it is read again. -/

namespace WorkloadIdentity

/-- The members that a record may have. -/
def Shape.fields : Shape → Shape.Fields
  | record fields => fields
  | _ => []

theorem Catalog.nodup_container : (container.fields.map Prod.fst).Nodup := by decide

theorem Catalog.nodup_podSpec : (podSpec.fields.map Prod.fst).Nodup := by decide

variable {w : Json}

theorem Resources.differ_congr {a b : Option Resources}
    (limits : a.bind (·.limits) = b.bind (·.limits))
    (requests : a.bind (·.requests) = b.bind (·.requests)) (desired : Option Resources) :
    differ a desired = differ b desired := by
  unfold differ names differAt completedRequest request limit
  simp only [limits, requests]

theorem VolumeMount.fingerprint_again {m : VolumeMount}
    (proper : m.others.Avoid ["name", "mountPath", "readOnly"])
    (h : Catalog.volumeMount.read m.toJson = some w) :
    (ofJson w).fingerprint = m.fingerprint := by
  unfold ofJson fingerprint
  dsimp only
  rw [Shape.getD_textAt_read (by decide) h rfl, Shape.getD_textAt_read (by decide) h rfl,
    Shape.flagAt_read (by decide) h rfl]
  have absent : Json.lookup "readOnly" m.others = none := Json.lookup_of_avoid proper (by decide)
  simp [toJson, Json.textAt, Json.flagAt, absent]

/-- A variable that survives being completed. -/
def EnvVar.IsSound (e : EnvVar) : Prop :=
  ∀ w, Catalog.envVar.read e.toJson = some w → (ofJson w).fingerprint = e.fingerprint

namespace Container

/-- What of a container is compared, and the name that it is found by. -/
structure View where
  name : String
  image : Option String
  args : Option (List String)
  command : Option (List String)
  env : List (String × Option String × Option String)
  limits : Option Labels
  requests : Option Labels
  mounts : List (String × String × Bool)

def view (c : Container) : View where
  name := c.name
  image := c.image
  args := c.args
  command := c.command
  env := (c.env.getD []).map EnvVar.fingerprint
  limits := c.resources.bind (·.limits)
  requests := c.resources.bind (·.requests)
  mounts := (c.volumeMounts.getD []).map VolumeMount.fingerprint

theorem differs_congr {a b : Container} (h : a.view = b.view) (desired : Container) :
    a.differs desired = b.differs desired := by
  injection h with name image args command env limits requests mounts
  unfold differs
  rw [image, args, command, env, mounts, Resources.differ_congr limits requests]

theorem find?_congr {as bs : List Container} (h : as.map view = bs.map view) (name : String) :
    (as.find? fun c => c.name = name).map view = (bs.find? fun c => c.name = name).map view := by
  have seen (cs : List Container) : (cs.find? fun c => c.name = name).map view =
      (cs.map view).find? fun x => x.name = name := by
    rw [List.find?_map]
    rfl
  rw [seen, seen, h]

theorem listsDiffer_congr {as bs : List Container} (h : as.map view = bs.map view)
    (desired : List Container) : listsDiffer as desired = listsDiffer bs desired := by
  have length : as.length = bs.length := by simpa using congrArg List.length h
  unfold listsDiffer
  rw [length]
  refine congrArg (fun missing => decide (bs.length ≠ desired.length) || desired.any missing)
    (funext fun d => ?_)
  have same := find?_congr h d.name
  cases foundA : as.find? fun e => e.name = d.name with
  | none =>
    rw [foundA, Option.map_none] at same
    rw [Option.map_eq_none_iff.1 same.symm]
  | some a =>
    rw [foundA] at same
    obtain ⟨b, foundB, e⟩ := Option.map_eq_some_iff.1 same.symm
    rw [foundB]
    exact differs_congr e.symm d

/-- A container whose variables survive being completed, and of which nothing is written twice. -/
structure IsProper (c : Container) : Prop where
  others : c.others.Avoid fieldNames
  env : ∀ e ∈ c.env.getD [], e.IsSound
  mounts : ∀ m ∈ c.volumeMounts.getD [], m.others.Avoid ["name", "mountPath", "readOnly"]

section
variable {c : Container}

theorem IsProper.lookup_others (proper : c.IsProper) (name : String) (used : name ∈ fieldNames) :
    Json.lookup name c.others = none :=
  Json.lookup_of_avoid proper.others used

variable (proper : c.IsProper) (read : Catalog.container.read c.toJson = some w)
include proper read

/-- Limits and requests are read alike. -/
theorem quantities_again (field : String) (known : List.lookup field [
    Shape.may "claims" (.list (.record [Shape.must "name" .text])),
    Shape.may "limits" (.map Shape.quantity), Shape.may "requests" (.map Shape.quantity)] =
      some (false, Shape.textMap)) :
    (w.get? "resources").bind (·.mapAt field) = c.resources.bind fun r => r.toJson.mapAt field := by
  have written : c.toJson.get? "resources" = c.resources.map Resources.toJson := by
    simp [toJson, proper.lookup_others "resources" (by decide)]
  rw [Shape.bind_get?_read Catalog.nodup_container read rfl
    (fun x y read => Shape.mapAt_read (by decide) read known) rfl, written]
  cases c.resources <;> rfl

theorem limits_again : (ofJson w).resources.bind (·.limits) = c.resources.bind (·.limits) := by
  change ((w.get? "resources").map Resources.ofJson).bind (·.limits) = _
  rw [Option.bind_map]
  refine (quantities_again proper read "limits" rfl).trans ?_
  simp [Resources.toJson, Json.mapAt]

theorem requests_again : (ofJson w).resources.bind (·.requests) = c.resources.bind (·.requests) := by
  change ((w.get? "resources").map Resources.ofJson).bind (·.requests) = _
  rw [Option.bind_map]
  refine (quantities_again proper read "requests" rfl).trans ?_
  simp [Resources.toJson, Json.mapAt]

theorem env_again : ((ofJson w).env.getD []).map EnvVar.fingerprint =
    (c.env.getD []).map EnvVar.fingerprint := by
  have seen : (w.itemsAt "env").map (·.map fun e => (EnvVar.ofJson e).fingerprint) =
      c.env.map (·.map EnvVar.fingerprint) :=
    Shape.itemsAt_again Catalog.nodup_container read rfl
      (by simp [toJson, proper.lookup_others "env" (by decide)]) fun e he w => proper.env e he w
  change (((w.itemsAt "env").map (·.map EnvVar.ofJson)).getD []).map EnvVar.fingerprint = _
  rw [Json.map_getD_map, seen, Json.map_getD_nil]

theorem volumeMounts_again : ((ofJson w).volumeMounts.getD []).map VolumeMount.fingerprint =
    (c.volumeMounts.getD []).map VolumeMount.fingerprint := by
  have seen : (w.itemsAt "volumeMounts").map (·.map fun m => (VolumeMount.ofJson m).fingerprint) =
      c.volumeMounts.map (·.map VolumeMount.fingerprint) :=
    Shape.itemsAt_again Catalog.nodup_container read rfl
      (by simp [toJson, proper.lookup_others "volumeMounts" (by decide)]) fun m hm _ =>
        VolumeMount.fingerprint_again (proper.mounts m hm)
  change (((w.itemsAt "volumeMounts").map (·.map VolumeMount.ofJson)).getD []).map
    VolumeMount.fingerprint = _
  rw [Json.map_getD_map, seen, Json.map_getD_nil]

theorem view_again : (ofJson w).view = c.view := by
  have name : (ofJson w).name = c.name := by
    change (w.textAt "name").getD "" = c.name
    rw [Shape.getD_textAt_read Catalog.nodup_container read rfl]
    simp [toJson, Json.textAt]
  have image : (ofJson w).image = c.image := by
    change w.textAt "image" = c.image
    rw [Shape.textAt_read Catalog.nodup_container read rfl]
    simp [toJson, Json.textAt, proper.lookup_others "image" (by decide)]
  have args : (ofJson w).args = c.args := by
    change w.textsAt "args" = c.args
    rw [Shape.textsAt_read Catalog.nodup_container read rfl]
    simp [toJson, Json.textsAt, proper.lookup_others "args" (by decide)]
  have command : (ofJson w).command = c.command := by
    change w.textsAt "command" = c.command
    rw [Shape.textsAt_read Catalog.nodup_container read rfl]
    simp [toJson, Json.textsAt, proper.lookup_others "command" (by decide)]
  unfold view
  rw [name, image, args, command, env_again proper read, limits_again proper read,
    requests_again proper read, volumeMounts_again proper read]

end

end Container

namespace PodSpec

/-- A pod of which nothing is written twice, and whose parts survive being completed. -/
structure IsProper (pod : PodSpec) : Prop where
  others : pod.others.Avoid fieldNames
  containers : ∀ c ∈ pod.containers ++ pod.initContainers.getD [], c.IsProper
  tolerations : ∀ t ∈ pod.tolerations.getD [], Catalog.toleration.read t = some t
  affinity : ∀ a, pod.affinity = some a → Catalog.affinity.read a = some a
  volumes : ∀ v ∈ pod.volumes.getD [], ∀ w, Catalog.volume.read v.toJson = some w →
    Volume.ofJson w = v

section
variable {pod : PodSpec}

theorem IsProper.lookup_others (proper : pod.IsProper) (name : String) (used : name ∈ fieldNames) :
    Json.lookup name pod.others = none :=
  Json.lookup_of_avoid proper.others used

variable (proper : pod.IsProper) (read : Catalog.podSpec.read pod.toJson = some w)
include proper read

theorem containers_again :
    (ofJson w).containers.map Container.view = pod.containers.map Container.view := by
  have seen : ((w.itemsAt "containers").map (·.map fun c => (Container.ofJson c).view)) =
      some (pod.containers.map Container.view) :=
    Shape.itemsAt_again_of_some Catalog.nodup_podSpec read rfl
      (by simp [toJson]) fun c hc _ =>
        Container.view_again (proper.containers c (List.mem_append_left _ hc))
  change (((w.itemsAt "containers").getD []).map Container.ofJson).map Container.view = _
  rw [List.map_map, Json.map_getD_nil]
  exact congrArg (·.getD []) seen

theorem initContainers_again : ((ofJson w).initContainers.getD []).map Container.view =
    (pod.initContainers.getD []).map Container.view := by
  have seen : (w.itemsAt "initContainers").map (·.map fun c => (Container.ofJson c).view) =
      pod.initContainers.map (·.map Container.view) :=
    Shape.itemsAt_again Catalog.nodup_podSpec read rfl
      (by simp [toJson, proper.lookup_others "initContainers" (by decide)]) fun c hc _ =>
        Container.view_again (proper.containers c (List.mem_append_right _ hc))
  change (((w.itemsAt "initContainers").map (·.map Container.ofJson)).getD []).map
    Container.view = _
  rw [Json.map_getD_map, seen, Json.map_getD_nil]

theorem serviceAccountName_again : (ofJson w).serviceAccountName = pod.serviceAccountName := by
  change w.textAt "serviceAccountName" = _
  rw [Shape.textAt_read Catalog.nodup_podSpec read rfl]
  simp [toJson, Json.textAt, proper.lookup_others "serviceAccountName" (by decide)]

theorem nodeSelector_again : (ofJson w).nodeSelector = pod.nodeSelector := by
  change w.mapAt "nodeSelector" = _
  rw [Shape.mapAt_read Catalog.nodup_podSpec read rfl]
  simp [toJson, Json.mapAt, proper.lookup_others "nodeSelector" (by decide)]

theorem tolerations_again : (ofJson w).tolerations = pod.tolerations := by
  have same : (w.itemsAt "tolerations").map (·.map id) = pod.tolerations.map (·.map id) :=
    Shape.itemsAt_again Catalog.nodup_podSpec read rfl
      (by simp [toJson, proper.lookup_others "tolerations" (by decide)]) fun t ht _ read =>
        Option.some.inj (read.symm.trans (proper.tolerations t ht))
  change w.itemsAt "tolerations" = _
  simpa using same

/-- An affinity is a record, so that what is normal stays as it is. -/
theorem affinity_again : (ofJson w).affinity = pod.affinity := by
  have written : pod.toJson.get? "affinity" = pod.affinity := by
    simp [toJson, proper.lookup_others "affinity" (by decide)]
  change w.get? "affinity" = _
  cases wanted : pod.affinity with
  | none => exact Shape.get?_read_of_none Catalog.nodup_podSpec read rfl (written.trans wanted)
  | some a =>
    have normal := proper.affinity a wanted
    obtain ⟨members, -, rfl, -⟩ := Shape.read_record_eq_some normal
    obtain ⟨y, read, here⟩ :=
      Shape.get?_read_of_some Catalog.nodup_podSpec read rfl (written.trans wanted) rfl
    rw [here, ← normal, ← read]

theorem volumes_again : (ofJson w).volumes = pod.volumes := by
  have same : (w.itemsAt "volumes").map (·.map Volume.ofJson) = pod.volumes.map (·.map id) :=
    Shape.itemsAt_again Catalog.nodup_podSpec read rfl
      (by simp [toJson, proper.lookup_others "volumes" (by decide)]) fun v hv w =>
        proper.volumes v hv w
  change (w.itemsAt "volumes").map (·.map Volume.ofJson) = _
  simpa using same

theorem differs_again (desired : PodSpec) : (ofJson w).differs desired = pod.differs desired := by
  unfold differs
  rw [Container.listsDiffer_congr (containers_again proper read),
    Container.listsDiffer_congr (initContainers_again proper read),
    serviceAccountName_again proper read, nodeSelector_again proper read,
    tolerations_again proper read, affinity_again proper read, volumes_again proper read]

end

end PodSpec

/-- A template of which nothing is written twice, with a pod that survives being completed. -/
structure PodTemplate.IsProper (t : PodTemplate) : Prop where
  metadata : ∀ m, t.metadata = some m → m.others.Avoid Meta.fieldNames
  spec : ∀ pod, t.spec = some pod → pod.IsProper

theorem PodTemplate.differs_again {t : PodTemplate} (proper : t.IsProper)
    (read : Catalog.podTemplate.read t.toJson = some w) (desired : PodTemplate) :
    (ofJson w).differs desired = t.differs desired := by
  have metadata : ((ofJson w).metadata.getD {}).differs (desired.metadata.getD {}) =
      (t.metadata.getD {}).differs (desired.metadata.getD {}) := by
    have written : t.toJson.get? "metadata" = t.metadata.map Meta.toJson := by simp [toJson]
    cases had : t.metadata with
    | none =>
      rw [had] at written
      unfold ofJson
      rw [Shape.get?_read_of_none (by decide) read rfl written]
      rfl
    | some m =>
      rw [had] at written
      obtain ⟨y, read, here⟩ := Shape.get?_read_of_some (by decide) read rfl written rfl
      have labels : (Meta.ofJson y).labels = m.labels :=
        (Meta.of_ofJson_read read .labels).trans (Meta.mapAt_toJson (proper.metadata m had) .labels)
      have annotations : (Meta.ofJson y).annotations = m.annotations :=
        (Meta.of_ofJson_read read .annotations).trans
          (Meta.mapAt_toJson (proper.metadata m had) .annotations)
      unfold ofJson Meta.differs
      rw [here, Option.map_some, Option.getD_some, labels, annotations, Option.getD_some]
  have written : t.toJson.get? "spec" = t.spec.map PodSpec.toJson := by simp [toJson]
  unfold differs
  rw [metadata]
  cases had : t.spec with
  | none =>
    rw [had] at written
    have missing : (ofJson w).spec = none := by
      unfold ofJson
      rw [Shape.get?_read_of_none (by decide) read rfl written]
      rfl
    rw [missing]
  | some pod =>
    rw [had] at written
    obtain ⟨y, read, here⟩ := Shape.get?_read_of_some (by decide) read rfl written rfl
    have there : (ofJson w).spec = some (PodSpec.ofJson y) := by
      unfold ofJson
      rw [here]
      rfl
    rw [there]
    cases desired.spec with
    | none => rfl
    | some d => exact congrArg (_ || ·) (PodSpec.differs_again (proper.spec pod had) read d)

/-- A specification of which nothing is written twice, with pods that survive being completed. -/
structure WorkloadSpec.IsProper (s : WorkloadSpec) : Prop where
  others : s.others.Avoid WorkloadSpec.fieldNames
  template : s.template.IsProper

/-- The shape of the specification of a workload. -/
def WorkloadKind.specShape : WorkloadKind → Shape
  | daemonSet => Catalog.daemonSetSpec
  | deployment => Catalog.deploymentSpec
  | statefulSet => Catalog.statefulSetSpec

theorem WorkloadSpec.differs_again {kind : WorkloadKind} {s : WorkloadSpec} (proper : s.IsProper)
    (read : kind.specShape.read s.toJson = some w) (desired : WorkloadSpec) :
    differs kind (ofJson w) desired = differs kind s desired := by
  have absent (name : String) (used : name ∈ fieldNames) : Json.lookup name s.others = none :=
    Json.lookup_of_avoid proper.others used
  have replicas : kind ≠ .daemonSet → w.intAt "replicas" = s.replicas := by
    intro other
    have same : w.intAt "replicas" = s.toJson.intAt "replicas" := by
      cases kind with
      | daemonSet => exact absurd rfl other
      | deployment => exact Shape.intAt_read (by decide) read rfl rfl
      | statefulSet => exact Shape.intAt_read (by decide) read rfl rfl
    rw [same]
    simp [toJson, Json.intAt, absent "replicas" (by decide)]
  have written : s.toJson.get? "template" = some s.template.toJson := by
    simp [toJson]
  obtain ⟨y, template, here⟩ : ∃ y, Catalog.podTemplate.read s.template.toJson = some y ∧
      w.get? "template" = some y := by
    cases kind <;> exact Shape.get?_read_of_some (by decide) read rfl written rfl
  have template : (ofJson w).template.differs desired.template =
      s.template.differs desired.template := by
    unfold ofJson
    rw [here]
    exact PodTemplate.differs_again proper.template template desired.template
  unfold differs
  rw [template]
  by_cases counted : kind = .daemonSet
  · rw [counted]
    rfl
  · have same : (ofJson w).replicas = s.replicas := replicas counted
    rw [same]

theorem Workload.get?_spec_toJson {kind : WorkloadKind} (o : Workload kind) :
    o.toJson.get? "spec" = o.spec.map WorkloadSpec.toJson := by
  simp [toJson, objectHead]

theorem Workload.needsUpdate_again {kind : WorkloadKind} {v : Json} {o again : Workload kind}
    (stores : Stores (.workload kind) v o) (proper : ∀ s, o.spec = some s → s.IsProper)
    (read : Workload.read? kind v = some again) (desired : Workload kind) :
    needsUpdate again desired = needsUpdate o desired := by
  have metadata : again.metadata.differs desired.metadata = o.metadata.differs desired.metadata :=
    stores.metadata_differs read _
  obtain ⟨w, shaped, rfl⟩ := Option.map_eq_some_iff.1 read
  have written : v.get? "spec" = o.spec.map WorkloadSpec.toJson := by
    rw [stores.members "spec" (by decide) (by decide)]
    exact get?_spec_toJson o
  cases spec : o.spec with
  | none =>
    rw [spec] at written
    have missing : w.get? "spec" = none := by
      cases kind <;> exact Shape.get?_read_of_none (by decide) shaped rfl written
    unfold needsUpdate
    dsimp only at metadata ⊢
    rw [metadata, missing, spec]
    rfl
  | some s =>
    rw [spec] at written
    obtain ⟨y, read, here⟩ : ∃ y, kind.specShape.read s.toJson = some y ∧
        w.get? "spec" = some y := by
      cases kind <;> exact Shape.get?_read_of_some (by decide) shaped rfl written rfl
    unfold needsUpdate
    dsimp only at metadata ⊢
    rw [metadata, here, spec]
    cases desired.spec with
    | none => rfl
    | some d => exact congrArg (_ || ·) (WorkloadSpec.differs_again (proper s spec) read d)

end WorkloadIdentity

import WorkloadIdentity.Manifest.Frame
import WorkloadIdentity.Manifest.Parts
import WorkloadIdentity.Proofs.Sequences
import WorkloadIdentity.Proofs.StoredPods

namespace WorkloadIdentity

/-- Nothing of an object is written twice, and its parts survive being completed. -/
def ManagedKind.IsProper : (kind : ManagedKind) → kind.Object → Prop
  | .service, o => ∀ s, Service.spec o = some s → s.IsProper
  | .workload _, o => ∀ s, Workload.spec o = some s → s.IsProper
  | .csiDriver, o => (CsiDriver.spec o).others.Avoid CsiDriverSpec.fieldNames
  | .untyped, o => Untyped.IsProper o
  | _, _ => True

namespace ManagedKind

variable {kind : ManagedKind}

/-- What is carried over is proper as well. -/
theorem IsProper.prepare {desired : kind.Object} (proper : kind.IsProper desired)
    (live : kind.Object) : kind.IsProper (Managed.prepare live desired) := by
  cases kind with
  | service =>
    intro s carried
    change (Service.prepare live desired).spec = some s at carried
    unfold Service.prepare at carried
    dsimp only at carried
    split at carried
    · rename_i e d _ wanted
      cases carried
      exact ⟨(proper d wanted).others, (proper d wanted).ports⟩
    · exact proper s carried
  | workload kind =>
    intro s carried
    change (Workload.prepare live desired).spec = some s at carried
    unfold Workload.prepare at carried
    dsimp only at carried
    split at carried
    · split at carried
      · rename_i e d _ wanted
        cases carried
        exact ⟨(proper d wanted).others, (proper d wanted).template⟩
      · exact proper s carried
    · exact proper s carried
  | csiDriver => exact proper
  | untyped => exact ⟨proper.comparable, proper.others⟩
  | _ => trivial

/-- An object that is wanted, or that is to be stored in its place. -/
def Carries (kind : ManagedKind) (desired o : kind.Object) : Prop :=
  o = desired ∨ ∃ live, o = Managed.prepare live desired

/-- What has been enough is enough when it is read again. -/
theorem needsUpdate_again {v : Json} {desired o again : kind.Object}
    (stores : Stores kind v o) (proper : kind.IsProper desired) (carries : kind.Carries desired o)
    (read : Managed.read? v = some again) (enough : Managed.needsUpdate o desired = false) :
    Managed.needsUpdate again desired = false := by
  have properO : kind.IsProper o := by
    rcases carries with rfl | ⟨live, rfl⟩
    · exact proper
    · exact proper.prepare live
  cases kind with
  | configMap => exact (ConfigMap.needsUpdate_again stores read desired).trans enough
  | serviceAccount => exact (ServiceAccount.needsUpdate_again stores read desired).trans enough
  | service => exact (Service.needsUpdate_again stores properO read desired).trans enough
  | role reach => exact (Role.needsUpdate_again stores read desired).trans enough
  | binding reach => exact (Binding.needsUpdate_again stores read desired).trans enough
  | workload kind => exact (Workload.needsUpdate_again stores properO read desired).trans enough
  | csiDriver => exact (CsiDriver.needsUpdate_again stores properO read desired).trans enough
  | untyped =>
    have same : Untyped.data o = Untyped.data desired := by
      rcases carries with rfl | ⟨live, rfl⟩ <;> rfl
    exact Untyped.needsUpdate_again stores proper same read enough

end ManagedKind

namespace Wanted

variable {w : Wanted}

/-- **An object in its normal form is stable**: once it has been stored, with what is carried over
from a live one, it is enough when it is read again. -/
theorem isStable (comparable : w.kind.IsComparable w.object) (proper : w.kind.IsProper w.object)
    (others : w.metadata.others.Avoid Meta.fieldNames) : w.IsStable where
  created version again read :=
    ManagedKind.needsUpdate_again (stores_versioned others version) proper (.inl rfl) read
      (ManagedKind.needsUpdate_self comparable)
  replaced object live version again _ read := by
    have carried : (Managed.metadata (Managed.prepare live w.object)).others.Avoid
        Meta.fieldNames := by
      rw [ManagedKind.metadata_prepare]
      exact others
    exact ManagedKind.needsUpdate_again (stores_kept carried object version) proper
      (.inr ⟨live, rfl⟩) read (ManagedKind.needsUpdate_prepare live comparable)

end Wanted

/-- A volume that is compared with itself and read again without a difference. -/
structure Volume.IsSound (v : Volume) : Prop where
  comparable : v.toJson.IsProper
  again : ∀ w, Catalog.volume.read v.toJson = some w → ofJson w = v

namespace Volume

theorem isSound_of_read {v : Volume} (comparable : v.toJson.IsProper)
    (again : (Catalog.volume.read v.toJson).map ofJson = some v) : v.IsSound where
  comparable
  again w read := by
    rw [read] at again
    exact Option.some.inj again

variable (name a b : String)

theorem isSound_ofConfigMap : (ofConfigMap name a).IsSound :=
  isSound_of_read (by simp [toJson, ofConfigMap, Json.IsProper, Json.MembersProper]) rfl

theorem isSound_ofHostPath : (ofHostPath name a b).IsSound :=
  isSound_of_read (by simp [toJson, ofHostPath, Json.IsProper, Json.MembersProper]) rfl

theorem isSound_ofEmptyDir : (ofEmptyDir name).IsSound :=
  isSound_of_read (by simp [toJson, ofEmptyDir, Json.IsProper, Json.MembersProper]) rfl

theorem isSound_ofSecret : (ofSecret name a).IsSound :=
  isSound_of_read (by simp [toJson, ofSecret, Json.IsProper, Json.MembersProper]) rfl

theorem isSound_ofDriver : (ofDriver name a).IsSound :=
  isSound_of_read (by simp [toJson, ofDriver, Json.IsProper, Json.MembersProper]) rfl

theorem isSound_ofToken : (ofToken name a b 7200).IsSound :=
  isSound_of_read
    (by simp [toJson, ofToken, Json.IsProper, Json.MembersProper, Json.ItemsProper]) rfl

end Volume

namespace EnvVar

theorem isSound_of_read {e : EnvVar} (again : (Catalog.envVar.read e.toJson).map ofJson = some e) :
    e.IsSound := by
  intro w read
  rw [read] at again
  rw [Option.some.inj again]

theorem isSound_ofNodeName (name : String) : (ofNodeName name).IsSound := isSound_of_read rfl

theorem isSound_ofValue (name value : String) :
    IsSound { name, value := some value } := isSound_of_read rfl

end EnvVar

theorem Container.avoid_settings (ports : List Json) (liveness readiness : Option Json)
    (security : Members) :
    Members.Avoid fieldNames (settings ports liveness readiness security) := by
  have one (name : String) (v : Json) (p : Prop) [Decidable p] (other : name ∉ fieldNames) :
      Members.Avoid fieldNames (if p then [] else [(name, v)]) := by
    split <;> simp [other]
  unfold settings
  simp only [Members.avoid_append, Members.avoid_cons, Members.avoid_nil, and_true]
  exact ⟨⟨⟨⟨by decide, one _ _ _ (by decide)⟩, Members.avoid_optional (by decide) _⟩,
    Members.avoid_optional (by decide) _⟩, one _ _ _ (by decide)⟩

namespace Placement

/-- What has been read of a placement is in normal form. -/
structure IsProper (p : Placement) : Prop where
  tolerations : ∀ t ∈ p.tolerations, Catalog.toleration.read t = some t
  affinity : ∀ a, p.affinity = some a → Catalog.affinity.read a = some a

/-- The resources of a placement do not differ from themselves. -/
def IsComparable (p : Placement) : Prop := Resources.differ p.resources p.resources = false

variable {p : Placement} {pod : PodSpec} {main : Container} {others : List Container}

theorem isProper_ofMembers? {ms : Members} (h : ofMembers? ms = some p) : p.IsProper := by
  simp only [ofMembers?, Option.bind_eq_bind, Option.bind_eq_some_iff, Option.pure_def,
    Option.some.injEq] at h
  obtain ⟨labels, -, resources, -, affinity, readAffinity, tolerations, read, nodes, -, rfl⟩ := h
  constructor
  · unfold Members.withDefault at read
    split at read
    · exact Shape.forall_of_list? (by decide) read
    · cases read
      exact List.forall_mem_nil _
  · rintro a rfl
    obtain ⟨v, -, read⟩ := Members.exists_of_optional readAffinity
    exact Shape.read_read (by decide) read

theorem isProper_place (proper : p.IsProper) (avoid : pod.others.Avoid PodSpec.fieldNames)
    (unplaced : pod.tolerations = none)
    (containers : ∀ c ∈ main :: others ++ pod.initContainers.getD [], c.IsProper)
    (volumes : ∀ v ∈ pod.volumes.getD [], v.IsSound) : (p.place pod main others).IsProper where
  others := avoid
  containers c hc := by
    change c ∈ p.placeContainer main :: others ++ pod.initContainers.getD [] at hc
    rw [List.cons_append] at hc containers
    rcases List.mem_cons.1 hc with rfl | hc
    · have placed := containers main List.mem_cons_self
      exact ⟨placed.others, placed.env, placed.mounts⟩
    · exact containers c (List.mem_cons_of_mem _ hc)
  tolerations t ht := by
    change t ∈ (if p.tolerations.isEmpty then pod.tolerations else some p.tolerations).getD [] at ht
    split at ht
    · rw [unplaced] at ht
      cases ht
    · exact proper.tolerations t ht
  affinity := proper.affinity
  volumes v hv := (volumes v hv).again

theorem isComparable_place (comparable : p.IsComparable)
    (names : ((main :: others).map (·.name)).Nodup)
    (initNames : ((pod.initContainers.getD []).map (·.name)).Nodup)
    (unlimited : ∀ c ∈ others ++ pod.initContainers.getD [], c.resources = none)
    (volumes : ∀ v ∈ pod.volumes.getD [], v.IsSound) :
    (p.place pod main others).IsComparable where
  containers := names
  initContainers := initNames
  resources c hc := by
    change c ∈ p.placeContainer main :: others ++ pod.initContainers.getD [] at hc
    rw [List.cons_append] at hc
    rcases List.mem_cons.1 hc with rfl | hc
    · exact comparable
    · rw [unlimited c hc]
      rfl
  volumes v hv := (volumes v hv).comparable

end Placement

namespace WorkloadSpec

variable {podLabels annotations : Labels} {pod : PodSpec} (selector : Labels)

theorem isProper_ofPods (proper : pod.IsProper) :
    (ofPods selector podLabels annotations pod).template.IsProper := by
  constructor
  · rintro m ⟨⟩
    exact Members.avoid_nil _
  · rintro q ⟨⟩
    exact proper

theorem isComparable_ofPods (comparable : pod.IsComparable) :
    (ofPods selector podLabels annotations pod).template.IsComparable := by
  rintro q ⟨⟩
  exact comparable

end WorkloadSpec

end WorkloadIdentity

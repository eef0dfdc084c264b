import Mathlib.Logic.Basic
import WorkloadIdentity.Proofs.Convergence
import WorkloadIdentity.Proofs.Members

/-! Labels and annotations under other keys, the version, the status, and fields of nested values
that the wanted object does not mention may be anything: neither clients nor the defaults of the
server bring about a replacement. -/

namespace WorkloadIdentity

namespace Json

/-- What is wanted of a field, where `wanted` holds of what is wanted of the whole value. -/
def FieldOf (wanted : Json → Prop) (name : String) : Json → Prop :=
  fun v => ∃ members, wanted (.obj members) ∧ (name, v) ∈ members

/-- What is wanted of an item, where `wanted` holds of what is wanted of the whole value. -/
def ItemOf (wanted : Json → Prop) (place : Nat) : Json → Prop :=
  fun v => ∃ items, wanted (.arr items) ∧ items[place]? = some v

/-- Values that differ only where nothing is wanted. A field that is not mentioned may be added,
changed or removed, at any depth; a field that is mentioned stays and is alike itself. -/
inductive Alike : (Json → Prop) → Json → Json → Prop where
  | same {wanted : Json → Prop} (v : Json) : Alike wanted v v
  | unwanted {wanted : Json → Prop} {v w : Json} (nothing : ∀ d, ¬ wanted d) : Alike wanted v w
  | fields {wanted : Json → Prop} {members others : List (String × Json)}
      (stays : ∀ name d, FieldOf wanted name d →
        (lookup name others).isSome = (lookup name members).isSome)
      (inside : ∀ name v w, lookup name members = some v → lookup name others = some w →
        Alike (FieldOf wanted name) v w) :
      Alike wanted (.obj members) (.obj others)
  | items {wanted : Json → Prop} {items others : List Json}
      (length : others.length = items.length)
      (inside : ∀ place v w, items[place]? = some v → others[place]? = some w →
        Alike (ItemOf wanted place) v w) :
      Alike wanted (.arr items) (.arr others)

section
variable {wanted : Json → Prop} {name : String} {v w : Json}

theorem lookup_middle (other : String) (before after : List (String × Json)) :
    lookup other (before ++ (name, v) :: after) = (lookup other before).or
      (if other = name then some v else lookup other after) := by
  rw [lookup_append, lookup_cons_ite]

/-- A field that is not mentioned may be added. -/
theorem Alike.added (before after : List (String × Json))
    (unmentioned : ∀ d, ¬ FieldOf wanted name d) :
    Alike wanted (.obj (before ++ after)) (.obj (before ++ (name, v) :: after)) := by
  have elsewhere {other : String} (ne : other ≠ name) :
      lookup other (before ++ (name, v) :: after) = lookup other (before ++ after) := by
    rw [lookup_middle, if_neg ne, lookup_append]
  apply Alike.fields
  · intro other d mentioned
    have ne : other ≠ name := fun e => unmentioned d (e ▸ mentioned)
    rw [elsewhere ne]
  · intro other x y here there
    by_cases e : other = name
    · subst e
      exact .unwanted unmentioned
    · rw [elsewhere e, here] at there
      cases there
      exact .same x

/-- A field may change inside. -/
theorem Alike.inField (before after : List (String × Json))
    (alike : Alike (FieldOf wanted name) v w) :
    Alike wanted (.obj (before ++ (name, v) :: after)) (.obj (before ++ (name, w) :: after)) := by
  apply Alike.fields
  · intro other d mentioned
    rw [lookup_middle, lookup_middle]
    cases lookup other before with
    | some => rfl
    | none => by_cases e : other = name <;> simp [e]
  · intro other x y here there
    rw [lookup_middle] at here there
    cases found : lookup other before with
    | some z =>
      -- An earlier field of the name hides the one that has changed.
      rw [found] at here there
      cases here
      cases there
      exact .same _
    | none =>
      rw [found, Option.none_or] at here there
      by_cases e : other = name
      · subst e
        rw [if_pos rfl] at here there
        cases here
        cases there
        exact alike
      · rw [if_neg e] at here there
        cases here.symm.trans there
        exact .same _

/-- An item may change inside. -/
theorem Alike.inItem (before after : List Json)
    (alike : Alike (ItemOf wanted before.length) v w) :
    Alike wanted (.arr (before ++ v :: after)) (.arr (before ++ w :: after)) := by
  apply Alike.items
  · simp
  · intro place x y here there
    by_cases e : place = before.length
    · subst e
      rw [List.getElem?_append_right (Nat.le_refl _), Nat.sub_self, List.getElem?_cons_zero]
        at here there
      cases here
      cases there
      exact alike
    · have elsewhere : (before ++ w :: after)[place]? = (before ++ v :: after)[place]? := by
        simp only [List.getElem?_append, List.getElem?_cons]
        split
        · rfl
        · rw [if_neg (by omega), if_neg (by omega)]
      cases here.symm.trans (elsewhere.symm.trans there)
      exact .same _

end

/-- Whether one field is covered. -/
def fieldCoveredBy (wanted : Json) : Option Json → Bool
  | some current => coveredBy wanted current
  | none => isEmptyValue wanted

theorem membersCoveredBy_cons (name : String) (v : Json) (rest members : List (String × Json)) :
    membersCoveredBy ((name, v) :: rest) members =
      (fieldCoveredBy v (lookup name members) && membersCoveredBy rest members) := by
  rw [membersCoveredBy]
  cases lookup name members <;> rfl

theorem membersCoveredBy_congr {wanted members others : List (String × Json)}
    (h : ∀ m ∈ wanted, fieldCoveredBy m.2 (lookup m.1 others) =
      fieldCoveredBy m.2 (lookup m.1 members)) :
    membersCoveredBy wanted others = membersCoveredBy wanted members := by
  induction wanted with
  | nil => simp [membersCoveredBy]
  | cons m rest ih =>
    obtain ⟨name, v⟩ := m
    rw [membersCoveredBy_cons, membersCoveredBy_cons, h (name, v) List.mem_cons_self,
      ih (fun m hm => h m (List.mem_cons_of_mem _ hm))]

theorem itemsCoveredBy_congr {wanted items others : List Json}
    (length : others.length = items.length)
    (h : ∀ (place : Nat) (d v w : Json), wanted[place]? = some d → items[place]? = some v →
      others[place]? = some w → d.coveredBy w = d.coveredBy v) :
    itemsCoveredBy wanted others = itemsCoveredBy wanted items := by
  induction wanted generalizing items others with
  | nil =>
    cases items with
    | nil => rw [List.eq_nil_of_length_eq_zero length]
    | cons v items =>
      obtain ⟨w, others, rfl⟩ := List.exists_cons_of_length_eq_add_one length
      rfl
  | cons d rest ih =>
    cases items with
    | nil => rw [List.eq_nil_of_length_eq_zero length]
    | cons v items =>
      obtain ⟨w, others, rfl⟩ := List.exists_cons_of_length_eq_add_one length
      have first : d.coveredBy w = d.coveredBy v := h 0 d v w rfl rfl rfl
      rw [itemsCoveredBy, itemsCoveredBy, first,
        ih (Nat.succ.inj length) (fun place => h (place + 1))]

/-- Alike values cover the same of what is wanted. -/
theorem coveredBy_alike {wanted : Json → Prop} {v w : Json} (alike : Alike wanted v w) {d : Json}
    (isWanted : wanted d) : d.coveredBy w = d.coveredBy v := by
  -- On the alikeness, not on `d`: inside a field another value is wanted.
  induction alike generalizing d with
  | same => rfl
  | unwanted nothing => exact absurd isWanted (nothing d)
  | @fields wanted members others stays inside ih =>
    cases d with
    | obj desired =>
      rw [coveredBy, coveredBy]
      apply membersCoveredBy_congr
      rintro ⟨name, d⟩ mem
      have mentioned : FieldOf wanted name d := ⟨desired, isWanted, mem⟩
      have stays := stays name d mentioned
      cases here : lookup name members with
      | none =>
        have absent : lookup name others = none := by simpa [here] using stays
        rw [absent]
      | some v =>
        rw [here] at stays
        obtain ⟨w, there⟩ := Option.isSome_iff_exists.1 stays
        rw [there]
        exact ih name v w here there mentioned
    | _ => rfl
  | @items wanted items others length inside ih =>
    cases d with
    | arr desired =>
      rw [coveredBy, coveredBy]
      apply itemsCoveredBy_congr length
      intro place d v w hd hv hw
      exact ih place v w hv hw ⟨desired, isWanted, hd⟩
    | _ => rfl

end Json

/-- Labels that differ only under keys that are not wanted. -/
def Labels.Alike (desired labels others : Option Labels) : Prop :=
  ∀ wanted, desired = some wanted → ∀ key, (wanted.get? key).isSome →
    (others.getD ∅).get? key = (labels.getD ∅).get? key

/-- A label under a key that is not wanted may be added or changed. -/
theorem Labels.alike_insert {desired : Option Labels} {key : String}
    (free : ∀ wanted, desired = some wanted → wanted.get? key = none) (labels : Labels)
    (value : String) : Labels.Alike desired (some labels) (some (labels.insert key value)) := by
  intro wanted isWanted other there
  have ne : other ≠ key := by
    rintro rfl
    rw [free wanted isWanted] at there
    cases there
  rw [Option.getD_some, Option.getD_some, StringMap.get?_insert, if_neg ne]

theorem Labels.isSubset_alike {desired labels others : Option Labels}
    (alike : Labels.Alike desired labels others) :
    Labels.isSubset others desired = Labels.isSubset labels desired := by
  cases desired with
  | none => rfl
  | some wanted =>
    rw [Bool.eq_iff_iff]
    simp only [Labels.isSubset, List.all_eq_true, decide_eq_true_eq]
    apply forall₂_congr
    intro e mem
    have mentioned : (wanted.get? e.1).isSome := by rw [StringMap.get?_eq_some_of_mem mem]; rfl
    rw [alike wanted rfl e.1 mentioned]

namespace Meta

/-- Metadata that differs only in labels and annotations that are not wanted, and in what is not
compared at all: the version, the identifier and all else that the server writes. -/
structure Alike (desired existing other : Meta) : Prop where
  labels : Labels.Alike desired.labels existing.labels other.labels
  annotations : Labels.Alike desired.annotations existing.annotations other.annotations

theorem differs_alike {desired existing other : Meta} (alike : desired.Alike existing other) :
    other.differs desired = existing.differs desired := by
  rw [differs, differs, Labels.isSubset_alike alike.labels, Labels.isSubset_alike alike.annotations]

end Meta

namespace Volume

/-- The name of a volume is part of its value, so that the value alone decides. -/
theorem differs_eq (existing desired : Volume) :
    differs existing desired = !desired.toJson.coveredBy existing.toJson := by
  rw [differs]
  by_cases e : existing.name = desired.name
  · simp [e]
  · have found : Json.lookup "name" (("name", .str existing.name) :: existing.source) =
        some (.str existing.name) := rfl
    have apart : (Json.str desired.name).coveredBy (.str existing.name) = false := by
      rw [Json.coveredBy]
      exact beq_false_of_ne fun same => e (Json.str.inj same).symm
    have uncovered : desired.toJson.coveredBy existing.toJson = false := by
      rw [toJson, toJson, Json.coveredBy, Json.membersCoveredBy_cons, found]
      change (Json.coveredBy _ _ && _) = false
      rw [apart, Bool.false_and]
    rw [uncovered, Bool.not_false, Bool.or_true]

/-- Volumes as one value. -/
def listToJson (volumes : List Volume) : Json := .arr (volumes.map toJson)

theorem listsDiffer_eq (existing desired : List Volume) :
    listsDiffer existing desired = !(listToJson desired).coveredBy (listToJson existing) := by
  rw [listToJson, listToJson, Json.coveredBy]
  induction desired generalizing existing with
  | nil => cases existing <;> rfl
  | cons d rest ih =>
    cases existing with
    | nil => rfl
    | cons e existing =>
      rw [List.map_cons, List.map_cons, Json.itemsCoveredBy, Bool.not_and, ← ih existing,
        ← differs_eq]
      simp only [listsDiffer, List.length_cons, List.zip_cons_cons, List.any_cons, ne_eq,
        Nat.add_right_cancel_iff]
      rw [Bool.or_left_comm]

end Volume

namespace PodSpec

/-- Pods that differ only in fields of their volumes that are not wanted. -/
structure Alike (desired existing other : PodSpec) : Prop where
  volumes : Json.Alike (· = Volume.listToJson (desired.volumes.getD []))
    (Volume.listToJson (existing.volumes.getD [])) (Volume.listToJson (other.volumes.getD []))
  rest : other = { existing with volumes := other.volumes }

theorem differs_alike {desired existing other : PodSpec} (alike : desired.Alike existing other) :
    other.differs desired = existing.differs desired := by
  have volumes : Volume.listsDiffer (other.volumes.getD []) (desired.volumes.getD []) =
      Volume.listsDiffer (existing.volumes.getD []) (desired.volumes.getD []) := by
    rw [Volume.listsDiffer_eq, Volume.listsDiffer_eq, Json.coveredBy_alike alike.volumes rfl]
  rw [differs, volumes, alike.rest, differs]

end PodSpec

namespace PodTemplate

/-- Templates that differ only in labels, annotations and fields of volumes that are not wanted. -/
structure Alike (desired existing other : PodTemplate) : Prop where
  metadata : (desired.metadata.getD {}).Alike (existing.metadata.getD {}) (other.metadata.getD {})
  spec : Option.Rel (desired.spec.getD {}).Alike existing.spec other.spec

theorem differs_alike {desired existing other : PodTemplate}
    (alike : desired.Alike existing other) : other.differs desired = existing.differs desired := by
  obtain ⟨metadata, spec⟩ := desired
  obtain ⟨existingMetadata, existingSpec⟩ := existing
  obtain ⟨otherMetadata, otherSpec⟩ := other
  obtain ⟨metadataAlike, specAlike⟩ := alike
  rw [differs, differs, Meta.differs_alike metadataAlike]
  cases specAlike with
  | none => rfl
  | @some existingPod otherPod podsAlike =>
    cases spec with
    | none => rfl
    | some pod =>
      have pods : otherPod.differs pod = existingPod.differs pod := PodSpec.differs_alike podsAlike
      dsimp only
      rw [pods]

end PodTemplate

/-- Specifications that differ only in their templates, in what is not wanted. -/
structure WorkloadSpec.Alike (desired existing other : WorkloadSpec) : Prop where
  template : desired.template.Alike existing.template other.template
  rest : other = { existing with template := other.template }

theorem WorkloadSpec.differs_alike (kind : WorkloadKind) {desired existing other : WorkloadSpec}
    (alike : desired.Alike existing other) :
    differs kind other desired = differs kind existing desired := by
  have replicas : other.replicas = existing.replicas := by rw [alike.rest]
  rw [differs, differs, replicas, PodTemplate.differs_alike alike.template]

theorem Workload.needsUpdate_of_alike {kind : WorkloadKind} {desired existing other : Workload kind}
    (metadataAlike : desired.metadata.Alike existing.metadata other.metadata)
    (specAlike : Option.Rel (desired.spec.getD {}).Alike existing.spec other.spec) :
    needsUpdate other desired = needsUpdate existing desired := by
  obtain ⟨desiredMetadata, desiredSpec, _⟩ := desired
  obtain ⟨existingMetadata, existingSpec, _⟩ := existing
  obtain ⟨otherMetadata, otherSpec, _⟩ := other
  rw [needsUpdate, needsUpdate, Meta.differs_alike metadataAlike]
  cases specAlike with
  | none => rfl
  | @some e o specAlike =>
    cases desiredSpec with
    | none => rfl
    | some d =>
      have specs : WorkloadSpec.differs kind o d = WorkloadSpec.differs kind e d :=
        WorkloadSpec.differs_alike kind specAlike
      dsimp only
      rw [specs]

namespace ManagedKind

/-- What may change of an object apart from its metadata: the status, what is not wanted of the
template of pods, and what is not wanted of the data of an object that is known by name only, its
status included. -/
def RestAlike : (kind : ManagedKind) → (desired existing other : kind.Object) → Prop
  | configMap, _, e, o => o = { e with metadata := o.metadata }
  | serviceAccount, _, e, o => o = { e with metadata := o.metadata }
  | service, _, e, o => o = { e with metadata := o.metadata, status := o.status }
  | role _, _, e, o => o = { e with metadata := o.metadata }
  | binding _, _, e, o => o = { e with metadata := o.metadata }
  | workload _, d, e, o => Option.Rel (d.spec.getD {}).Alike e.spec o.spec
  | csiDriver, _, e, o => o = { e with metadata := o.metadata }
  | untyped, d, e, o => Json.Alike (· = .obj d.data) (.obj e.data) (.obj o.data)

/-- Live objects that differ only in what others write. -/
structure Alike (kind : ManagedKind) (desired existing other : kind.Object) : Prop where
  metadata : (Managed.metadata desired).Alike (Managed.metadata existing) (Managed.metadata other)
  rest : kind.RestAlike desired existing other

/-- **What others write makes no difference.** Live objects that differ only in labels, annotations
and nested fields that the wanted object does not mention, and in what the server writes, are both
replaced or both left alone. -/
theorem needsUpdate_alike (kind : ManagedKind) (desired existing other : kind.Object)
    (alike : kind.Alike desired existing other) :
    Managed.needsUpdate other desired = Managed.needsUpdate existing desired := by
  obtain ⟨metadata, rest⟩ := alike
  have same : (Managed.metadata other).differs (Managed.metadata desired) =
      (Managed.metadata existing).differs (Managed.metadata desired) := Meta.differs_alike metadata
  cases kind with
  | configMap =>
    have data : other.data = existing.data := by rw [rest]
    exact congrArg₂ or same (by rw [data])
  | serviceAccount => exact same
  | service =>
    have spec : other.spec = existing.spec := by rw [rest]
    exact congrArg₂ or same (by rw [spec])
  | role =>
    have rules : other.rules = existing.rules := by rw [rest]
    exact congrArg₂ or same (by rw [rules])
  | binding =>
    have subjects : other.subjects = existing.subjects := by rw [rest]
    exact congrArg₂ or same (by rw [subjects])
  | workload => exact Workload.needsUpdate_of_alike metadata rest
  | csiDriver =>
    have spec : other.spec = existing.spec := by rw [rest]
    change CsiDriver.needsUpdate other desired = CsiDriver.needsUpdate existing desired
    rw [CsiDriver.needsUpdate, CsiDriver.needsUpdate, spec]
    exact congrArg (· || _ || _ || _ || _) same
  | untyped => exact congrArg₂ or same (congrArg not (Json.coveredBy_alike rest rfl))

end ManagedKind

/-- A daemon set as the server and others leave it: with a version, a status, a label and an
annotation of theirs, and a default inside a volume. -/
def defaultedDaemonSet : DaemonSet :=
  { metadata := {
      name := some "agents", resourceVersion := some "9"
      labels := some ((StringMap.ofList [("app", "agents")]).insert "team" "blue") }
    spec := limitedDaemonSet.spec.map fun spec =>
      { spec with template := {
          metadata := some { annotations := some (.ofList [("restarted", "today")]) }
          spec := spec.template.spec.map fun pod =>
            { pod with volumes := some [{
                name := "run", source := [("emptyDir", .obj [("medium", .str "Memory")])] }] } } }
    status := some (.obj [("numberReady", .int 3)]) }

theorem alike_defaultedDaemonSet :
    ManagedKind.Alike (.workload .daemonSet) limitedDaemonSet limitedDaemonSet
      defaultedDaemonSet where
  metadata := by
    constructor
    · apply Labels.alike_insert
      rintro wanted ⟨⟩
      decide
    · rintro wanted ⟨⟩
  rest := by
    refine .some ⟨⟨⟨?_, ?_⟩, .some ⟨?_, rfl⟩⟩, rfl⟩
    · rintro wanted ⟨⟩
    · rintro wanted ⟨⟩
    · -- the default stands in the second field of the first volume
      refine Json.Alike.inItem [] [] (Json.Alike.inField [("name", .str "run")] []
        (Json.Alike.added [] [] ?_))
      rintro d ⟨members, ⟨volume, ⟨items, isWanted, here⟩, mem⟩, inside⟩
      have volumes : Json.arr items = .arr [.obj [("name", .str "run"), ("emptyDir", .obj [])]] :=
        isWanted
      cases volumes
      cases here
      have empty : members = [] := by simpa using mem
      rw [empty] at inside
      cases inside

theorem needsUpdate_alike_defaultedDaemonSet :
    ManagedKind.Alike (.workload .daemonSet) limitedDaemonSet limitedDaemonSet
      defaultedDaemonSet ∧
    Managed.needsUpdate defaultedDaemonSet limitedDaemonSet = false := by
  have same := ManagedKind.needsUpdate_alike (.workload .daemonSet) limitedDaemonSet
    limitedDaemonSet defaultedDaemonSet alike_defaultedDaemonSet
  exact ⟨alike_defaultedDaemonSet,
    same.trans (ManagedKind.needsUpdate_self isComparable_limitedDaemonSet)⟩

end WorkloadIdentity

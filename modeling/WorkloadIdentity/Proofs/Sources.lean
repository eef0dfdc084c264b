import Mathlib.Data.List.Forall2
import WorkloadIdentity.Manifest.Parts
import WorkloadIdentity.Proofs.Indifference

/-! Volumes are compared by what is wanted of them, and an empty value is not missed. A source of
which nothing is said, such as a directory that starts out empty, is such a value: where it is
wanted, any source passes. All other sources are noticed when they change. -/

namespace WorkloadIdentity

theorem Json.coveredBy_str (s t : String) :
    (Json.str s).coveredBy (.str t) = true ↔ s = t := by
  rw [coveredBy, beq_iff_eq, str.injEq]

namespace Volume

/-- A volume has one source: one member beside its name, of some kind and with some fields. -/
structure HasSource (v : Volume) (kind : String) (fields : Members) : Prop where
  source : v.source = [(kind, .obj fields)]
  kind_ne : kind ≠ "name"

def HasOneSource (v : Volume) : Prop := ∃ kind fields, v.HasSource kind fields

/-- The kind of the source: `emptyDir`, `hostPath`, `csi` and so on. -/
def sourceKind? (v : Volume) : Option String := v.source.head?.map (·.1)

/-- What is said of the source. -/
def sourceFields (v : Volume) : Json := (v.source.head?.map (·.2)).getD (.obj [])

/-- Nothing is said of the source. -/
def IsUnset (v : Volume) : Prop := v.sourceFields = .obj []

namespace HasSource

variable {v : Volume} {kind : String} {fields : Members}

theorem sourceKind?_eq (h : v.HasSource kind fields) : v.sourceKind? = some kind := by
  rw [sourceKind?, h.source]
  rfl

theorem sourceFields_eq (h : v.HasSource kind fields) : v.sourceFields = .obj fields := by
  rw [sourceFields, h.source]
  rfl

theorem isUnset_iff (h : v.HasSource kind fields) : v.IsUnset ↔ fields = [] := by
  rw [IsUnset, h.sourceFields_eq, Json.obj.injEq]

/-- Beside its name a volume has no member but its source. -/
theorem lookup_toJson (h : v.HasSource kind fields) {name : String} (ne : name ≠ "name") :
    Json.lookup name (("name", .str v.name) :: v.source) =
      if name = kind then some (.obj fields) else none := by
  rw [Json.lookup_cons_ite, if_neg ne, h.source, Json.lookup_cons_ite, Json.lookup_nil]

end HasSource

section
variable (name a b : String)

theorem hasOneSource_ofConfigMap : (ofConfigMap name a).HasOneSource :=
  ⟨"configMap", _, rfl, by decide⟩

theorem hasOneSource_ofEmptyDir : (ofEmptyDir name).HasOneSource :=
  ⟨"emptyDir", _, rfl, by decide⟩

theorem hasOneSource_ofHostPath : (ofHostPath name a b).HasOneSource :=
  ⟨"hostPath", _, rfl, by decide⟩

end

/-- A live volume passes for a wanted one: they have one name, and either nothing is said of the
wanted source, or the live source is of the same kind and has all that is said of it. -/
def PassesFor (existing desired : Volume) : Prop :=
  existing.name = desired.name ∧
    (desired.IsUnset ∨ existing.sourceKind? = desired.sourceKind? ∧
      desired.sourceFields.coveredBy existing.sourceFields = true)

theorem differs_eq_false_iff {existing desired : Volume} (one : existing.HasOneSource)
    (oneWanted : desired.HasOneSource) :
    differs existing desired = false ↔ existing.PassesFor desired := by
  obtain ⟨kind, fields, live⟩ := one
  obtain ⟨wantedKind, wantedFields, wanted⟩ := oneWanted
  have covered : desired.toJson.coveredBy existing.toJson = true ↔
      existing.name = desired.name ∧ Json.fieldCoveredBy (.obj wantedFields)
        (if wantedKind = kind then some (.obj fields) else none) = true := by
    rw [toJson, toJson, Json.coveredBy, Json.membersCoveredBy_cons, wanted.source,
      Json.membersCoveredBy_cons, live.lookup_toJson wanted.kind_ne, Json.membersCoveredBy,
      Bool.and_true, Json.lookup_cons_ite, if_pos rfl, Bool.and_eq_true, Json.fieldCoveredBy,
      Json.coveredBy_str, eq_comm]
  rw [differs_eq, Bool.not_eq_false', covered, PassesFor, wanted.isUnset_iff, live.sourceKind?_eq,
    wanted.sourceKind?_eq, live.sourceFields_eq, wanted.sourceFields_eq, Option.some.injEq]
  apply and_congr_right
  intro _
  by_cases same : wantedKind = kind
  · -- where nothing is said of the source, there is nothing to cover
    rw [if_pos same]
    constructor
    · exact fun h => .inr ⟨same.symm, h⟩
    · rintro (rfl | ⟨-, h⟩)
      · rfl
      · exact h
  · rw [if_neg same]
    constructor
    · exact fun h => .inl (List.isEmpty_iff.1 h)
    · rintro (rfl | ⟨e, -⟩)
      · rfl
      · exact absurd e.symm same

/-- Lists of volumes are compared place by place. -/
theorem listsDiffer_eq_false_iff (existing desired : List Volume) :
    listsDiffer existing desired = false ↔ existing.length = desired.length ∧
      ∀ {e d}, (e, d) ∈ existing.zip desired → differs e d = false := by
  simp [listsDiffer]

end Volume

/-- **A changed source is noticed unless nothing is said of the wanted one.** Lists of volumes with
one source each are taken for the same if, place by place, the live volume passes for the wanted
one. So the kinds of the sources are the same wherever something is said of the wanted source, and
they may be any where nothing is. -/
theorem only_unset_sources_hide_changes (existing desired : List Volume)
    (one : ∀ e ∈ existing, e.HasOneSource) (oneWanted : ∀ d ∈ desired, d.HasOneSource) :
    (Volume.listsDiffer existing desired = false ↔
      List.Forall₂ Volume.PassesFor existing desired) ∧
    (Volume.listsDiffer existing desired = false → (∀ d ∈ desired, ¬ d.IsUnset) →
      List.Forall₂ (fun e d => e.name = d.name ∧ e.sourceKind? = d.sourceKind?)
        existing desired) := by
  have same_iff : Volume.listsDiffer existing desired = false ↔
      List.Forall₂ Volume.PassesFor existing desired := by
    rw [Volume.listsDiffer_eq_false_iff, List.forall₂_iff_zip]
    apply and_congr_right
    intro _
    apply forall₂_congr
    intro e d
    apply imp_congr_right
    intro mem
    have ⟨live, wanted⟩ := List.of_mem_zip mem
    exact Volume.differs_eq_false_iff (one e live) (oneWanted d wanted)
  refine ⟨same_iff, fun same said => ?_⟩
  obtain ⟨length, passes⟩ := List.forall₂_iff_zip.1 (same_iff.1 same)
  refine List.forall₂_iff_zip.2 ⟨length, fun {e d} mem => ?_⟩
  have wanted : ¬ d.IsUnset := said d (List.of_mem_zip mem).2
  obtain ⟨name, passes⟩ := passes mem
  exact ⟨name, (passes.resolve_left wanted).1⟩

/-- Volumes of a server as they are wanted: one with its configuration, one for its sockets. -/
def serverVolumes : List Volume :=
  [.ofConfigMap "spire-config" "spire-server", .ofEmptyDir "spire-server-socket"]

/-- The same volumes with what is written where nothing is given, and with a directory of
the node in the place of the empty one. -/
def swappedVolumes : List Volume :=
  [{ name := "spire-config"
     source := [("configMap", .obj [("defaultMode", .int 420), ("name", .str "spire-server")])] },
    .ofHostPath "spire-server-socket" "/tmp/sockets" "DirectoryOrCreate"]

theorem hasOneSource_serverVolumes : ∀ d ∈ serverVolumes, d.HasOneSource := by
  simp [serverVolumes, Volume.hasOneSource_ofConfigMap, Volume.hasOneSource_ofEmptyDir]

theorem hasOneSource_swappedVolumes : ∀ e ∈ swappedVolumes, e.HasOneSource := by
  simp only [swappedVolumes, List.forall_mem_cons, List.not_mem_nil, false_implies, implies_true,
    and_true]
  exact ⟨⟨"configMap", _, rfl, by decide⟩, Volume.hasOneSource_ofHostPath _ _ _⟩

theorem only_unset_sources_hide_changes_swapped :
    (∀ e ∈ swappedVolumes, e.HasOneSource) ∧ (∀ d ∈ serverVolumes, d.HasOneSource) ∧
    Volume.listsDiffer swappedVolumes serverVolumes = false ∧
    List.Forall₂ Volume.PassesFor swappedVolumes serverVolumes := by
  have same : Volume.listsDiffer swappedVolumes serverVolumes = false := by decide
  have same_iff := (only_unset_sources_hide_changes swappedVolumes serverVolumes
    hasOneSource_swappedVolumes hasOneSource_serverVolumes).1
  exact ⟨hasOneSource_swappedVolumes, hasOneSource_serverVolumes, same, same_iff.1 same⟩

/-- The kind of a source may change without being noticed: of an empty directory nothing is said. -/
theorem hostPath_passes_for_emptyDir :
    ¬ ∀ existing desired : List Volume, (∀ e ∈ existing, e.HasOneSource) →
      (∀ d ∈ desired, d.HasOneSource) → Volume.listsDiffer existing desired = false →
      List.Forall₂ (fun e d => e.name = d.name ∧ e.sourceKind? = d.sourceKind?)
        existing desired := by
  intro claim
  have same : Volume.listsDiffer swappedVolumes serverVolumes = false := by decide
  have kinds := (claim swappedVolumes serverVolumes hasOneSource_swappedVolumes
    hasOneSource_serverVolumes same).get (i := 1) (by decide) (by decide)
  exact absurd kinds.2 (by decide)

end WorkloadIdentity

import WorkloadIdentity.Plan.Kind
import WorkloadIdentity.Proofs.Reading

namespace WorkloadIdentity

/-- The two maps of metadata that several clients write. -/
inductive Mark where
  | labels
  | annotations
deriving DecidableEq, Repr

namespace Mark

def field : Mark → String
  | labels => "labels"
  | annotations => "annotations"

def of (m : Meta) : Mark → Option Labels
  | labels => m.labels
  | annotations => m.annotations

end Mark

namespace Json

/-- The labels or annotations of a stored object. -/
def marks? (object : Json) (mark : Mark) : Option Labels :=
  (object.get? "metadata").bind (·.mapAt mark.field)

/-- The version of a stored object. -/
def version? (object : Json) : Option String :=
  (object.get? "metadata").bind (·.textAt "resourceVersion")

end Json

namespace Meta

variable {v w : Json}

theorem of_ofJson_read (h : Catalog.objectMeta.read v = some w) (mark : Mark) :
    mark.of (Meta.ofJson w) = v.mapAt mark.field := by
  cases mark with
  | labels => exact Shape.mapAt_read (by decide) h rfl
  | annotations => exact Shape.mapAt_read (by decide) h rfl

theorem resourceVersion_ofJson_read (h : Catalog.objectMeta.read v = some w) :
    (Meta.ofJson w).resourceVersion = v.textAt "resourceVersion" :=
  Shape.textAt_read (by decide) h rfl

/-- What is written of metadata, as long as no field is written a second time. -/
theorem mapAt_toJson {m : Meta} (h : m.others.Avoid fieldNames) (mark : Mark) :
    m.toJson.mapAt mark.field = mark.of m := by
  cases mark with
  | labels =>
    have absent : Json.lookup "labels" m.others = none := Json.lookup_of_avoid h (by decide)
    simp [toJson, Json.mapAt, Mark.field, Mark.of, absent]
  | annotations =>
    have absent : Json.lookup "annotations" m.others = none := Json.lookup_of_avoid h (by decide)
    simp [toJson, Json.mapAt, Mark.field, Mark.of, absent]

theorem textAt_toJson {m : Meta} (h : m.others.Avoid fieldNames) :
    m.toJson.textAt "resourceVersion" = m.resourceVersion := by
  have absent : Json.lookup "resourceVersion" m.others = none := Json.lookup_of_avoid h (by decide)
  simp [toJson, Json.textAt, absent]

/-- Metadata says the same as a stored object. -/
structure Agrees (m : Meta) (object : Json) : Prop where
  marks : ∀ mark, mark.of m = object.marks? mark
  version : m.resourceVersion = object.version?

theorem agrees_of_read {object : Json} (here : object.get? "metadata" = some v)
    (h : Catalog.objectMeta.read v = some w) : (Meta.ofJson w).Agrees object where
  marks mark := by
    rw [Json.marks?, here]
    exact of_ofJson_read h mark
  version := by
    rw [Json.version?, here]
    exact resourceVersion_ofJson_read h

/-- The metadata of an object that has been read agrees with it. -/
theorem agrees_ofObject {fields : Shape.Fields} (once : (fields.map Prod.fst).Nodup)
    (known : List.lookup "metadata" fields = some (true, Catalog.objectMeta))
    (h : (Shape.record fields).read v = some w) : (Meta.ofObject w).Agrees v := by
  have read := Shape.readMember_get? once h known
  have empty : (Meta.ofJson (.obj [])).Agrees (.obj []) :=
    ⟨fun mark => by cases mark <;> rfl, rfl⟩
  unfold ofObject
  cases here : v.get? "metadata" with
  | none =>
    rw [here] at read
    injection read with read
    rw [← read]
    exact ⟨fun mark => by rw [Json.marks?, here]; exact empty.marks mark,
      by rw [Json.version?, here]; exact empty.version⟩
  | some m =>
    rw [here, Shape.readMember] at read
    split at read
    · rename_i isNull
      have e : m = .null := by cases m <;> simp_all [Json.isNull]
      injection read with read
      rw [← read]
      exact ⟨fun mark => by rw [Json.marks?, here, e]; exact empty.marks mark,
        by rw [Json.version?, here, e]; exact empty.version⟩
    · obtain ⟨y, read, e⟩ := Option.map_eq_some_iff.1 read
      rw [← e]
      exact agrees_of_read here read

end Meta

/-- An object of a kind that is known by name only has the metadata that is given, or none. -/
theorem Untyped.metadata_of_read? {v : Json} {o : Untyped} (h : Untyped.read? v = some o) :
    (v.get? "metadata" = none ∧ o.metadata = {}) ∨
    ∃ inner, v.get? "metadata" = some inner ∧ Meta.read? inner = some o.metadata := by
  unfold Untyped.read? at h
  obtain ⟨members, -, h⟩ := Option.bind_eq_some_iff.1 h
  dsimp only at h
  split at h
  · rename_i inner here
    obtain ⟨m, read, h⟩ := Option.bind_eq_some_iff.1 h
    injection h with h
    rw [← h]
    exact .inr ⟨inner, here, read⟩
  · rename_i absent
    obtain ⟨m, read, h⟩ := Option.bind_eq_some_iff.1 h
    injection read with read
    injection h with h
    rw [← h, ← read]
    exact .inl ⟨absent, rfl⟩

namespace ManagedKind

variable {kind : ManagedKind}

/-- The metadata of a live object agrees with what is stored of it. -/
theorem agrees_of_read? {v : Json} {live : kind.Object} (h : Managed.read? v = some live) :
    (Managed.metadata live).Agrees v := by
  cases kind with
  | configMap =>
    obtain ⟨w, read, rfl⟩ := Option.map_eq_some_iff.1 h
    exact Meta.agrees_ofObject (by decide) rfl read
  | serviceAccount =>
    obtain ⟨w, read, rfl⟩ := Option.map_eq_some_iff.1 h
    exact Meta.agrees_ofObject (by decide) rfl read
  | service =>
    obtain ⟨w, read, rfl⟩ := Option.map_eq_some_iff.1 h
    exact Meta.agrees_ofObject (by decide) rfl read
  | role reach =>
    obtain ⟨w, read, rfl⟩ := Option.map_eq_some_iff.1 h
    cases reach <;> exact Meta.agrees_ofObject (by decide) rfl read
  | binding reach =>
    obtain ⟨w, read, rfl⟩ := Option.map_eq_some_iff.1 h
    cases reach <;> exact Meta.agrees_ofObject (by decide) rfl read
  | workload kind =>
    obtain ⟨w, read, rfl⟩ := Option.map_eq_some_iff.1 h
    cases kind <;> exact Meta.agrees_ofObject (by decide) rfl read
  | csiDriver =>
    obtain ⟨w, read, rfl⟩ := Option.map_eq_some_iff.1 h
    exact Meta.agrees_ofObject (by decide) rfl read
  | untyped =>
    rcases Untyped.metadata_of_read? h with ⟨absent, empty⟩ | ⟨inner, here, read⟩
    · change (Untyped.metadata live).Agrees v
      rw [empty]
      exact ⟨fun mark => by rw [Json.marks?, absent]; cases mark <;> rfl,
        by rw [Json.version?, absent]; rfl⟩
    · obtain ⟨w, read, e⟩ := Option.map_eq_some_iff.1 read
      change (Untyped.metadata live).Agrees v
      rw [← e]
      exact Meta.agrees_of_read here read

/-- Every object is written with its metadata. -/
theorem get?_toJson (o : kind.Object) :
    (Managed.toJson o).get? "metadata" = some (Managed.metadata o).toJson := by
  cases kind with
  | untyped =>
    obtain ⟨type, metadata, data⟩ := o
    cases type <;> rfl
  | _ => rfl

/-- A replacement carries the metadata of the live object. -/
theorem metadata_prepare (live desired : kind.Object) :
    Managed.metadata (Managed.prepare live desired) =
      (Managed.metadata live).carry (Managed.metadata desired) := by
  cases kind with
  | configMap =>
    change (ConfigMap.prepare live desired).metadata = _
    unfold ConfigMap.prepare
    dsimp only
    split <;> rfl
  | _ => rfl

end ManagedKind

namespace Server

theorem marks?_versioned {object m : Json} (h : object.get? "metadata" = some m) (version : Nat)
    (mark : Mark) : (versioned object version).marks? mark = m.mapAt mark.field := by
  have ne : mark.field ≠ "resourceVersion" := by cases mark <;> decide
  rw [Json.marks?, get?_metadata_versioned h]
  simp only [Option.bind_some, Json.mapAt, Json.get?_insert_of_ne ne]

/-- A stored object has the version that it was given, if it can have one at all. -/
theorem version?_versioned (object : Json) (version : Nat) :
    (versioned object version).version? = some (toString version) ∨
      (versioned object version).version? = none := by
  cases object with
  | obj members =>
    unfold versioned
    dsimp only
    rw [Json.version?, Json.get?_insert_self, Option.bind_some]
    generalize (Json.get? "metadata" (.obj members)).getD (.obj []) = m
    cases m with
    | obj inner =>
      rw [Json.textAt, Json.get?_insert_self]
      exact .inl rfl
    | _ => exact .inr rfl
  | _ => exact .inr rfl

/-- The labels and annotations of an object are stored as they are. -/
theorem marks?_stored {kind : ManagedKind} {o : kind.Object}
    (proper : (Managed.metadata o).others.Avoid Meta.fieldNames) (old : Json) (version : Nat)
    (mark : Mark) :
    (versioned (keepStatus old (Managed.toJson o)) version).marks? mark =
      mark.of (Managed.metadata o) := by
  have written : (keepStatus old (Managed.toJson o)).get? "metadata" =
      some (Managed.metadata o).toJson := by
    rw [get?_keepStatus (by decide), ManagedKind.get?_toJson]
  rw [marks?_versioned written, Meta.mapAt_toJson proper]

end Server

end WorkloadIdentity

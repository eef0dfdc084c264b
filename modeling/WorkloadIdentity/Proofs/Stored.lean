import WorkloadIdentity.Proofs.Convergence
import WorkloadIdentity.Proofs.Metadata

namespace WorkloadIdentity

/-- A value holds what is written of an object, apart from its version and its status. -/
structure Stores (kind : ManagedKind) (v : Json) (o : kind.Object) : Prop where
  members : ∀ name, name ≠ "metadata" → name ≠ "status" →
    v.get? name = (Managed.toJson o).get? name
  marks : ∀ mark : Mark, v.marks? mark = mark.of (Managed.metadata o)

section
variable {kind : ManagedKind} {v : Json} {o again : kind.Object}

theorem stores_versioned (proper : (Managed.metadata o).others.Avoid Meta.fieldNames)
    (version : Nat) : Stores kind (Server.versioned (Managed.toJson o) version) o where
  members _ ne _ := Server.get?_versioned_of_ne ne _ _
  marks mark := by
    rw [Server.marks?_versioned (ManagedKind.get?_toJson o), Meta.mapAt_toJson proper]

theorem stores_kept (proper : (Managed.metadata o).others.Avoid Meta.fieldNames) (old : Json)
    (version : Nat) :
    Stores kind (Server.versioned (Server.keepStatus old (Managed.toJson o)) version) o where
  members _ ne ne' := by
    rw [Server.get?_versioned_of_ne ne, Server.get?_keepStatus ne']
  marks mark := Server.marks?_stored proper old version mark

/-- An object that is read again differs in its metadata only where the stored one did. -/
theorem Stores.metadata_differs (stores : Stores kind v o) (read : Managed.read? v = some again)
    (desired : Meta) :
    (Managed.metadata again).differs desired = (Managed.metadata o).differs desired := by
  have agrees := ManagedKind.agrees_of_read? read
  have same (mark : Mark) : mark.of (Managed.metadata again) = mark.of (Managed.metadata o) :=
    (agrees.marks mark).trans (stores.marks mark)
  have labels : (Managed.metadata again).labels = (Managed.metadata o).labels := same .labels
  have annotations : (Managed.metadata again).annotations = (Managed.metadata o).annotations :=
    same .annotations
  unfold Meta.differs
  rw [labels, annotations]

end

theorem ConfigMap.needsUpdate_again {v : Json} {o again : ConfigMap}
    (stores : Stores .configMap v o) (read : ConfigMap.read? v = some again) (desired : ConfigMap) :
    needsUpdate again desired = needsUpdate o desired := by
  have metadata : again.metadata.differs desired.metadata = o.metadata.differs desired.metadata :=
    stores.metadata_differs read _
  obtain ⟨w, shaped, rfl⟩ := Option.map_eq_some_iff.1 read
  have data : w.mapAt "data" = o.data := by
    rw [Shape.mapAt_read (by decide) shaped rfl, Json.mapAt,
      stores.members "data" (by decide) (by decide)]
    change (Json.get? "data" (ConfigMap.toJson o)).bind _ = _
    simp [ConfigMap.toJson, objectHead]
  unfold needsUpdate
  rw [metadata, data]

theorem ServiceAccount.needsUpdate_again {v : Json} {o again : ServiceAccount}
    (stores : Stores .serviceAccount v o) (read : ServiceAccount.read? v = some again)
    (desired : ServiceAccount) : needsUpdate again desired = needsUpdate o desired :=
  stores.metadata_differs read _

section
variable {reach : Reach} {v w : Json}

theorem PolicyRule.ofJson_again {r : PolicyRule} (h : Catalog.policyRule.read r.toJson = some w) :
    ofJson w = r := by
  unfold ofJson
  rw [Shape.textsAt_read (by decide) h rfl, Shape.textsAt_read (by decide) h rfl,
    Shape.getD_textsAt_read (by decide) h rfl, Shape.textsAt_read (by decide) h rfl,
    Shape.textsAt_read (by decide) h rfl]
  simp [toJson, Json.textsAt]

theorem Subject.ofJson_again {s : Subject} (h : Catalog.subject.read s.toJson = some w) :
    ofJson w = s := by
  unfold ofJson
  rw [Shape.textAt_read (by decide) h rfl, Shape.getD_textAt_read (by decide) h rfl,
    Shape.getD_textAt_read (by decide) h rfl, Shape.textAt_read (by decide) h rfl]
  simp [toJson, Json.textAt]

theorem Role.needsUpdate_again {o again : Role reach} (stores : Stores (.role reach) v o)
    (read : Role.read? reach v = some again) (desired : Role reach) :
    needsUpdate again desired = needsUpdate o desired := by
  have metadata : again.metadata.differs desired.metadata = o.metadata.differs desired.metadata :=
    stores.metadata_differs read _
  obtain ⟨w, shaped, rfl⟩ := Option.map_eq_some_iff.1 read
  have rules : (w.itemsAt "rules").map (·.map PolicyRule.ofJson) = o.rules := by
    have written : v.get? "rules" = (o.rules.map (·.map PolicyRule.toJson)).map Json.arr := by
      rw [stores.members "rules" (by decide) (by decide)]
      change Json.get? "rules" (Role.toJson o) = _
      simp [Role.toJson, objectHead]
    have looked : (w.itemsAt "rules").map (·.map PolicyRule.ofJson) = o.rules.map (·.map id) := by
      cases reach <;>
        exact Shape.itemsAt_again (by decide) shaped rfl written
          fun a _ y => PolicyRule.ofJson_again
    simpa using looked
  unfold needsUpdate
  rw [metadata, rules]

theorem Binding.needsUpdate_again {o again : Binding reach} (stores : Stores (.binding reach) v o)
    (read : Binding.read? reach v = some again) (desired : Binding reach) :
    needsUpdate again desired = needsUpdate o desired := by
  have metadata : again.metadata.differs desired.metadata = o.metadata.differs desired.metadata :=
    stores.metadata_differs read _
  obtain ⟨w, shaped, rfl⟩ := Option.map_eq_some_iff.1 read
  have subjects : (w.itemsAt "subjects").map (·.map Subject.ofJson) = o.subjects := by
    have written : v.get? "subjects" = (o.subjects.map (·.map Subject.toJson)).map Json.arr := by
      rw [stores.members "subjects" (by decide) (by decide)]
      change Json.get? "subjects" (Binding.toJson o) = _
      simp [Binding.toJson, objectHead]
    have looked : (w.itemsAt "subjects").map (·.map Subject.ofJson) =
        o.subjects.map (·.map id) := by
      cases reach <;>
        exact Shape.itemsAt_again (by decide) shaped rfl written fun a _ y => Subject.ofJson_again
    simpa using looked
  unfold needsUpdate
  rw [metadata, subjects]

end

namespace ServicePort

def fieldNames : List String := ["name", "port", "targetPort", "protocol"]

theorem fingerprint_again {p : ServicePort} (proper : p.others.Avoid fieldNames) {w : Json}
    (h : Catalog.servicePort.read p.toJson = some w) :
    (ofJson w).fingerprint = p.fingerprint := by
  have absent (name : String) (used : name ∈ fieldNames) : Json.lookup name p.others = none :=
    Json.lookup_of_avoid proper used
  have target : (w.get? "targetPort").bind PortName.ofJson =
      (p.toJson.get? "targetPort").bind PortName.ofJson :=
    Shape.bind_get?_read_of_exact (by decide) h rfl rfl rfl
  have inverse (t : Option PortName) : (t.map PortName.toJson).bind PortName.ofJson = t :=
    Json.bind_map_of_inverse (fun a => by cases a <;> rfl) t
  unfold ofJson fingerprint
  dsimp only
  rw [Shape.textAt_read (by decide) h rfl, Shape.getD_intAt_read (by decide) h rfl, target,
    Shape.textAt_read (by decide) h rfl]
  simp [toJson, Json.textAt, Json.intAt, inverse, absent "name" (by decide),
    absent "targetPort" (by decide), absent "protocol" (by decide)]

end ServicePort

/-- Nothing of a specification is written twice. -/
structure ServiceSpec.IsProper (s : ServiceSpec) : Prop where
  others : s.others.Avoid ServiceSpec.fieldNames
  ports : ∀ p ∈ s.ports.getD [], p.others.Avoid ServicePort.fieldNames

theorem Service.get?_spec_toJson (o : Service) :
    o.toJson.get? "spec" = o.spec.map ServiceSpec.toJson := by
  simp [toJson, objectHead]

theorem Service.needsUpdate_again {v : Json} {o again : Service} (stores : Stores .service v o)
    (proper : ∀ s, o.spec = some s → s.IsProper) (read : Service.read? v = some again)
    (desired : Service) : needsUpdate again desired = needsUpdate o desired := by
  have metadata : again.metadata.differs desired.metadata = o.metadata.differs desired.metadata :=
    stores.metadata_differs read _
  obtain ⟨w, shaped, rfl⟩ := Option.map_eq_some_iff.1 read
  have written : v.get? "spec" = o.spec.map ServiceSpec.toJson := by
    rw [stores.members "spec" (by decide) (by decide)]
    exact get?_spec_toJson o
  cases spec : o.spec with
  | none =>
    rw [spec] at written
    have missing := Shape.get?_read_of_none (by decide) shaped rfl written
    unfold needsUpdate
    dsimp only at metadata ⊢
    rw [metadata, missing, spec]
    rfl
  | some s =>
    rw [spec] at written
    obtain ⟨y, read, here⟩ := Shape.get?_read_of_some (by decide) shaped rfl written rfl
    have proper := proper s spec
    have absent (name : String) (used : name ∈ ServiceSpec.fieldNames) :
        Json.lookup name s.others = none := Json.lookup_of_avoid proper.others used
    have selector : y.mapAt "selector" = s.selector := by
      rw [Shape.mapAt_read (by decide) read rfl]
      simp [ServiceSpec.toJson, Json.mapAt, absent "selector" (by decide)]
    have type : y.textAt "type" = s.type := by
      rw [Shape.textAt_read (by decide) read rfl]
      simp [ServiceSpec.toJson, Json.textAt, absent "type" (by decide)]
    have written : s.toJson.get? "ports" =
        (s.ports.map (·.map ServicePort.toJson)).map Json.arr := by
      simp [ServiceSpec.toJson, absent "ports" (by decide)]
    have ports : (y.itemsAt "ports").map (·.map fun p => (ServicePort.ofJson p).fingerprint) =
        s.ports.map (·.map ServicePort.fingerprint) :=
      Shape.itemsAt_again (by decide) read rfl written fun p hp _ =>
        ServicePort.fingerprint_again (proper.ports p hp)
    have fingerprints : (((y.itemsAt "ports").map (·.map ServicePort.ofJson)).getD []).map
        ServicePort.fingerprint = (s.ports.getD []).map ServicePort.fingerprint := by
      rw [Json.map_getD_map, Json.map_getD_nil s.ports, ← ports]
    have same (d : ServiceSpec) : (ServiceSpec.ofJson y).differs d = s.differs d := by
      unfold ServiceSpec.ofJson ServiceSpec.differs
      dsimp only
      rw [selector, type, fingerprints]
    unfold needsUpdate
    dsimp only at metadata ⊢
    rw [metadata, here, spec]
    cases desired.spec with
    | none => rfl
    | some d => exact congrArg (_ || ·) (same d)

theorem CsiDriver.needsUpdate_again {v : Json} {o again : CsiDriver}
    (stores : Stores .csiDriver v o)
    (proper : o.spec.others.Avoid CsiDriverSpec.fieldNames) (read : CsiDriver.read? v = some again)
    (desired : CsiDriver) : needsUpdate again desired = needsUpdate o desired := by
  have metadata : again.metadata.differs desired.metadata = o.metadata.differs desired.metadata :=
    stores.metadata_differs read _
  obtain ⟨w, shaped, rfl⟩ := Option.map_eq_some_iff.1 read
  have written : v.get? "spec" = some o.spec.toJson := by
    rw [stores.members "spec" (by decide) (by decide)]
    rfl
  obtain ⟨y, read, here⟩ := Shape.get?_read_of_some (by decide) shaped rfl written rfl
  have absent (name : String) (used : name ∈ CsiDriverSpec.fieldNames) :
      Json.lookup name o.spec.others = none := Json.lookup_of_avoid proper used
  have attach : y.flagAt "attachRequired" = o.spec.attachRequired := by
    rw [Shape.flagAt_read (by decide) read rfl]
    simp [CsiDriverSpec.toJson, Json.flagAt, absent "attachRequired" (by decide)]
  have podInfo : y.flagAt "podInfoOnMount" = o.spec.podInfoOnMount := by
    rw [Shape.flagAt_read (by decide) read rfl]
    simp [CsiDriverSpec.toJson, Json.flagAt, absent "podInfoOnMount" (by decide)]
  have policy : y.textAt "fsGroupPolicy" = o.spec.fsGroupPolicy := by
    rw [Shape.textAt_read (by decide) read rfl]
    simp [CsiDriverSpec.toJson, Json.textAt, absent "fsGroupPolicy" (by decide)]
  have modes : y.textsAt "volumeLifecycleModes" = o.spec.volumeLifecycleModes := by
    rw [Shape.textsAt_read (by decide) read rfl]
    simp [CsiDriverSpec.toJson, Json.textsAt, absent "volumeLifecycleModes" (by decide)]
  have shown : (CsiDriverSpec.ofJson y).attachRequired = o.spec.attachRequired ∧
      (CsiDriverSpec.ofJson y).podInfoOnMount = o.spec.podInfoOnMount ∧
      (CsiDriverSpec.ofJson y).fsGroupPolicy = o.spec.fsGroupPolicy ∧
      (CsiDriverSpec.ofJson y).volumeLifecycleModes = o.spec.volumeLifecycleModes :=
    ⟨attach, podInfo, policy, modes⟩
  obtain ⟨attach, podInfo, policy, modes⟩ := shown
  unfold needsUpdate
  dsimp only at metadata ⊢
  rw [metadata, here]
  simp only [Option.getD_some, attach, podInfo, policy, modes]

/-- The data of an object holds each name once and does not name what is written besides it. -/
structure Untyped.IsProper (o : Untyped) : Prop where
  comparable : (Json.obj o.data).IsProper
  others : o.data.Avoid ["apiVersion", "kind", "metadata", "status"]

theorem Untyped.lookup_toJson {o : Untyped} {name : String} (ne : name ≠ "apiVersion")
    (ne' : name ≠ "kind") (ne'' : name ≠ "metadata") :
    o.toJson.get? name = Json.lookup name o.data := by
  obtain ⟨type, metadata, data⟩ := o
  cases type <;> simp [toJson, ne, ne', ne'']

theorem Untyped.data_of_read? {v : Json} {o : Untyped} (read : Untyped.read? v = some o) :
    o.data = v.without ["apiVersion", "kind", "metadata"] := by
  unfold Untyped.read? at read
  obtain ⟨members, -, read⟩ := Option.bind_eq_some_iff.1 read
  dsimp only at read
  split at read <;>
  · obtain ⟨metadata, -, read⟩ := Option.bind_eq_some_iff.1 read
    injection read with read
    rw [← read]

theorem Untyped.needsUpdate_again {v : Json} {o again desired : Untyped}
    (stores : Stores .untyped v o) (proper : desired.IsProper) (same : o.data = desired.data)
    (read : Untyped.read? v = some again) (enough : needsUpdate o desired = false) :
    needsUpdate again desired = false := by
  have metadata : again.metadata.differs desired.metadata = o.metadata.differs desired.metadata :=
    stores.metadata_differs read _
  obtain ⟨once, comparable⟩ : (desired.data.map Prod.fst).Nodup ∧
      Json.MembersProper desired.data := proper.comparable
  have found (m : String × Json) (here : m ∈ desired.data) :
      Json.lookup m.1 again.data = some m.2 := by
    have other : m.1 ∉ ["apiVersion", "kind", "metadata", "status"] := proper.others m here
    simp only [List.mem_cons, List.not_mem_nil, or_false, not_or] at other
    obtain ⟨version, kind, metadata, status⟩ := other
    rw [data_of_read? read, Json.lookup_without (by simp [version, kind, metadata]),
      stores.members m.1 metadata status]
    change (Untyped.toJson o).get? m.1 = _
    rw [lookup_toJson version kind metadata, same, Json.lookup_of_mem once here]
  have covered : (Json.obj desired.data).coveredBy (.obj again.data) = true := by
    rw [Json.coveredBy]
    exact Json.membersCoveredBy_of_lookup _ _ comparable found
  unfold needsUpdate at enough ⊢
  rw [Bool.or_eq_false_iff] at enough ⊢
  exact ⟨metadata.trans enough.1, by rw [covered]; rfl⟩

end WorkloadIdentity

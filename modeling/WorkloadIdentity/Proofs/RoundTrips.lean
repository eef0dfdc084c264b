import WorkloadIdentity.Proofs.Holdings
import WorkloadIdentity.Proofs.Standstill

/-! Specifications and statuses are written as JSON and read back by the next pass, which takes a
status that comes back changed for one that has to be written. -/

namespace WorkloadIdentity

/-- What is written of a value is read as that value. Numbers of the language have no bounds, and
parts that the API server defines are kept as they are written, so not every term is a value. -/
structure Json.RoundTrips {α : Type} (IsValue : α → Prop) (read? : Json → Option α)
    (toJson : α → Json) : Prop where
  again : ∀ a, IsValue a → read? (toJson a) = some a
  /-- Nothing but values is read. -/
  value : ∀ v a, read? v = some a → IsValue a
  /-- Writing and reading again changes nothing of what has been read. -/
  reread : ∀ v a, read? v = some a → read? (toJson a) = some a :=
    fun v a read => again a (value v a read)

/-- A member that is written unless there is a reason to leave it out. -/
@[simp]
theorem Json.lookup_unless (name k : String) (v : Json) (omitted : Prop) [Decidable omitted] :
    lookup name (if omitted then [] else [(k, v)]) =
      if name = k then if omitted then none else some v else none := by
  split <;> simp

namespace Members

variable {α : Type} {ms : Members} {name : String} {read : Json → Option α} {write : α → Json}

/-- A member that is left out when it says no more than the default. -/
theorem withDefault_unless {omitted : Prop} [Decidable omitted] {a default : α}
    (found : Json.lookup name ms = if omitted then none else some (write a))
    (again : read (write a) = some a) (same : omitted → a = default) :
    ms.withDefault name default read = some a := by
  unfold withDefault
  rw [found]
  by_cases h : omitted
  · rw [if_pos h, same h]
  · rw [if_neg h]
    exact again

/-- A member that is left out when there is none. -/
theorem optional_again {o : Option α} (found : Json.lookup name ms = o.map write)
    (again : ∀ a, o = some a → read (write a) = some a) (null : read .null = none) :
    ms.optional name read = some o := by
  unfold optional
  rw [found]
  cases o with
  | none => rfl
  | some a =>
    have here := again a rfl
    cases written : write a with
    | null =>
      rw [written, null] at here
      cases here
    | _ =>
      rw [written] at here
      simp only [Option.map_some, written, here]

end Members

/-- The items of a list that has been read are values. -/
theorem Json.value_of_list? {α : Type} {read : Json → Option α} {IsValue : α → Prop} {v : Json}
    {items : List α} (h : list? read v = some items)
    (value : ∀ v a, read v = some a → IsValue a) : ∀ a ∈ items, IsValue a := by
  intro a mem
  cases v with
  | arr listed =>
    obtain ⟨item, read⟩ := Shape.exists_of_mem_mapM h a mem
    exact value item a read
  | _ => cases h

/-- A number of 32 bits. -/
def Json.IsInt32 (i : Int) : Prop := int32? (.int i) = some i

theorem Json.isInt32_of_int32? (v : Json) (i : Int) (h : int32? v = some i) : IsInt32 i :=
  intIn?_again h

namespace Resources

theorem read?_toJson {v : Json} {r : Resources} (h : read? v = some r) :
    read? r.toJson = some r := by
  obtain ⟨w, shaped, rfl⟩ := Option.map_eq_some_iff.1 h
  have kept {name : String} {shape : Shape} {α : Type} {look : Json → Option α} {write : α → Json}
      (whole : ∀ x y, shape.read x = some y → (look y).map write = some y)
      (known : List.lookup name _ = some (false, shape)) :
      ((w.get? name).bind look).map write = w.get? name :=
    (Shape.map_bind_read whole (by decide) shaped known).trans
      (Shape.get?_read_eq_seen (by decide) shaped known).symm
  have claims := kept Shape.whole_items (rfl : List.lookup "claims" _ = _)
  have limits := kept Shape.whole_textMap (rfl : List.lookup "limits" _ = _)
  have requests := kept Shape.whole_textMap (rfl : List.lookup "requests" _ = _)
  obtain ⟨members, found, rfl, rfl, each⟩ := Shape.read_record_eq_some shaped
  have same : Catalog.resources.read (ofJson (.obj found)).toJson =
      Catalog.resources.read (.obj found) := by
    unfold Catalog.resources toJson
    rw [Shape.read, Shape.read]
    refine congrArg (Option.map Json.obj) (Shape.readMembers_congr ?_)
    simp only [List.map_cons, List.map_nil, Shape.may, List.forall_mem_cons]
    refine ⟨?_, ?_, ?_, List.forall_mem_nil _⟩
    · rw [← Json.get?_obj "claims" found, ← claims]
      simp [ofJson, Json.itemsAt]
    · rw [← Json.get?_obj "limits" found, ← limits]
      simp [ofJson, Json.mapAt]
    · rw [← Json.get?_obj "requests" found, ← requests]
      simp [ofJson, Json.mapAt]
  rw [read?, same, Shape.read_read rfl shaped]
  rfl

end Resources

namespace Placement

/-- The parts that the API server defines are read again as they are written. -/
structure IsValue (p : Placement) : Prop extends p.IsProper where
  resources : ∀ r, p.resources = some r → Resources.read? r.toJson = some r

def fieldNames : List String := ["labels", "resources", "affinity", "tolerations", "nodeSelector"]

theorem eq_empty_of_isEmpty {m : Labels} (h : m.isEmpty = true) : m = ∅ :=
  StringMap.ext_entries (List.isEmpty_iff.1 h)

theorem lookup_toMembers {name : String} (unknown : name ∉ fieldNames) (p : Placement) :
    Json.lookup name p.toMembers = none := by
  simp only [fieldNames, List.mem_cons, List.not_mem_nil, or_false, not_or] at unknown
  obtain ⟨labels, resources, affinity, tolerations, nodes⟩ := unknown
  simp [toMembers, mapUnlessEmpty, labels, resources, affinity, tolerations, nodes]

/-- The placement is found behind members of other names. -/
theorem ofMembers?_append {own : Members} (others : own.Avoid fieldNames) {p : Placement}
    (value : p.IsValue) : ofMembers? (own ++ p.toMembers) = some p := by
  have skip {name : String} (used : name ∈ fieldNames) :
      Json.lookup name (own ++ p.toMembers) = Json.lookup name p.toMembers := by
    rw [Json.lookup_append, Json.lookup_of_avoid others used, Option.none_or]
  have labels : Json.lookup "labels" (own ++ p.toMembers) =
      if p.labels.isEmpty = true then none else some (Json.ofStrings p.labels) := by
    rw [skip (by decide)]
    simp [toMembers, mapUnlessEmpty]
  have nodeSelector : Json.lookup "nodeSelector" (own ++ p.toMembers) =
      if p.nodeSelector.isEmpty = true then none else some (Json.ofStrings p.nodeSelector) := by
    rw [skip (by decide)]
    simp [toMembers, mapUnlessEmpty]
  have tolerations : Json.lookup "tolerations" (own ++ p.toMembers) =
      if p.tolerations = [] then none else some (.arr p.tolerations) := by
    rw [skip (by decide)]
    simp [toMembers, mapUnlessEmpty]
  have resources : Json.lookup "resources" (own ++ p.toMembers) =
      p.resources.map Resources.toJson := by
    rw [skip (by decide)]
    simp [toMembers, mapUnlessEmpty]
  have affinity : Json.lookup "affinity" (own ++ p.toMembers) = p.affinity.map id := by
    rw [skip (by decide)]
    simp [toMembers, mapUnlessEmpty]
  have listed : Json.list? Catalog.toleration.read (.arr p.tolerations) = some p.tolerations := by
    have again := Json.list?_map value.tolerations
    rwa [List.map_id'] at again
  unfold ofMembers?
  rw [Members.withDefault_unless labels (Json.map?_ofStrings _) eq_empty_of_isEmpty,
    Members.optional_again resources value.resources rfl,
    Members.optional_again affinity value.affinity rfl,
    Members.withDefault_unless tolerations listed id,
    Members.withDefault_unless nodeSelector (Json.map?_ofStrings _) eq_empty_of_isEmpty]
  rfl

theorem isValue_of_ofMembers? {ms : Members} {p : Placement} (h : ofMembers? ms = some p) :
    p.IsValue := by
  refine ⟨isProper_ofMembers? h, ?_⟩
  simp only [ofMembers?, Option.bind_eq_bind, Option.bind_eq_some_iff, Option.pure_def,
    Option.some.injEq] at h
  obtain ⟨_, -, resources, read, _, -, _, -, _, -, rfl⟩ := h
  rintro r rfl
  obtain ⟨v, -, read⟩ := Members.exists_of_optional read
  exact Resources.read?_toJson read

end Placement

theorem CaSubject.read?_toJson (s : CaSubject) : read? s.toJson = some s := by
  simp [read?, toJson, Json.record?, Members.withDefault]

theorem Persistence.read?_toJson (p : Persistence) : read? p.toJson = some p := by
  obtain ⟨size, accessMode, storageClass⟩ := p
  cases storageClass <;>
    simp [read?, toJson, Json.record?, Members.withDefault, Members.optional]

namespace Datastore

/-- The numbers have 32 bits. -/
structure IsValue (d : Datastore) : Prop where
  maxOpenConns : Json.IsInt32 d.maxOpenConns
  maxIdleConns : Json.IsInt32 d.maxIdleConns
  connMaxLifetime : Json.IsInt32 d.connMaxLifetime

theorem roundTrips : Json.RoundTrips IsValue read? toJson where
  again d value := by
    obtain ⟨open', idle, lifetime⟩ := value
    unfold Json.IsInt32 at open' idle lifetime
    simp [read?, toJson, Json.record?, Members.withDefault, open', idle, lifetime, Json.bool?]
  value v d h := by
    simp only [read?, Option.bind_eq_bind, Option.bind_eq_some_iff, Option.pure_def,
      Option.some.injEq] at h
    obtain ⟨ms, -, _, -, _, -, open', readOpen, idle, readIdle, lifetime, readLifetime, _, -,
      rfl⟩ := h
    exact ⟨Members.value_of_withDefault readOpen rfl Json.isInt32_of_int32?,
      Members.value_of_withDefault readIdle rfl Json.isInt32_of_int32?,
      Members.value_of_withDefault readLifetime rfl Json.isInt32_of_int32?⟩

end Datastore

theorem Verification.read?_toJson (s : Verification) : read? s.toJson = some s := by
  obtain ⟨type, path, name⟩ := s
  have readType : KubeletCheck.read? (.str type.text) = some type := by
    cases type <;> rfl
  cases path <;> cases name <;>
    simp [read?, toJson, Json.record?, Members.withDefault, Members.optional, readType]

theorem WorkloadAttestors.read?_toJson (s : WorkloadAttestors) : read? s.toJson = some s := by
  simp [read?, toJson, Json.record?, Members.withDefault, Json.bool?,
    Verification.read?_toJson]

theorem NodeAttestor.read?_toJson (s : NodeAttestor) : read? s.toJson = some s := by
  simp [read?, toJson, Json.record?, Members.withDefault, Json.bool?]

namespace ServerSpec

/-- The parts of the specification are values. -/
structure IsValue (s : ServerSpec) : Prop where
  datastore : s.datastore.IsValue
  placement : s.placement.IsValue

/-- What the specification is written as says all of it again. -/
theorem exists_members {s : ServerSpec} (value : s.IsValue) : ∃ ms : Members,
    s.toJson = .obj ms ∧
    Members.withDefault ms "logLevel" "info" Json.str? = some s.logLevel ∧
    Members.withDefault ms "logFormat" "text" Json.str? = some s.logFormat ∧
    Members.required ms "jwtIssuer" Json.str? = some s.jwtIssuer ∧
    Members.withDefault ms "caValidity" "24h" Json.str? = some s.caValidity ∧
    Members.withDefault ms "defaultX509Validity" "1h" Json.str? = some s.defaultX509Validity ∧
    Members.withDefault ms "defaultJWTValidity" "5m" Json.str? = some s.defaultJwtValidity ∧
    Members.withDefault ms "caKeyType" "rsa-2048" Json.str? = some s.caKeyType ∧
    Members.optional ms "caSubject" CaSubject.read? = some s.caSubject ∧
    Members.withDefault ms "persistence" {} Persistence.read? = some s.persistence ∧
    Members.withDefault ms "datastore" {} Datastore.read? = some s.datastore ∧
    Placement.ofMembers? ms = some s.placement := by
  refine ⟨_, rfl, rfl, rfl, rfl, rfl, rfl, rfl, rfl, ?subject, ?persistence, ?datastore, ?placement⟩
  case subject =>
    refine Members.optional_again ?_ (fun subject _ => subject.read?_toJson) rfl
    simp [Placement.lookup_toMembers, Placement.fieldNames]
  case persistence => simp [Members.withDefault, Persistence.read?_toJson]
  case datastore => simp [Members.withDefault, Datastore.roundTrips.again _ value.datastore]
  case placement =>
    refine Placement.ofMembers?_append ?_ value.placement
    simp [Placement.fieldNames, Members.avoid_optional]

theorem roundTrips : Json.RoundTrips IsValue read? toJson where
  again s value := by
    obtain ⟨ms, written, logLevel, logFormat, issuer, ca, x509, jwt, keys, subject, persistence,
      datastore, placement⟩ := exists_members value
    simp [read?, written, Json.members?, logLevel, logFormat, issuer, ca, x509, jwt, keys, subject,
      persistence, datastore, placement]
  value v s h := by
    simp only [read?, Option.bind_eq_bind, Option.bind_eq_some_iff, Option.pure_def,
      Option.some.injEq] at h
    obtain ⟨ms, -, _, -, _, -, _, -, _, -, _, -, _, -, _, -, _, -, _, -, datastore, readDatastore,
      placement, readPlacement, rfl⟩ := h
    exact ⟨Members.value_of_withDefault readDatastore ⟨rfl, rfl, rfl⟩ Datastore.roundTrips.value,
      Placement.isValue_of_ofMembers? readPlacement⟩

end ServerSpec

namespace AgentSpec

/-- The placement is a value. -/
def IsValue (s : AgentSpec) : Prop := s.placement.IsValue

theorem roundTrips : Json.RoundTrips IsValue read? toJson where
  again s value := by
    obtain ⟨ms, written, logLevel, logFormat, socket, node, workload, placement⟩ : ∃ ms : Members,
        s.toJson = .obj ms ∧
        Members.withDefault ms "logLevel" "info" Json.str? = some s.logLevel ∧
        Members.withDefault ms "logFormat" "text" Json.str? = some s.logFormat ∧
        Members.withDefault ms "socketPath" defaultSocketPath Json.str? = some s.socketPath ∧
        Members.withDefault ms "nodeAttestor" {} NodeAttestor.read? = some s.nodeAttestor ∧
        Members.withDefault ms "workloadAttestors" {} WorkloadAttestors.read? =
          some s.workloadAttestors ∧
        Placement.ofMembers? ms = some s.placement := by
      refine ⟨_, rfl, rfl, rfl, rfl, s.nodeAttestor.read?_toJson,
        s.workloadAttestors.read?_toJson, Placement.ofMembers?_append ?_ value⟩
      simp [Placement.fieldNames]
    simp [read?, written, Json.members?, logLevel, logFormat, socket, node, workload, placement]
  value v s h := by
    simp only [read?, Option.bind_eq_bind, Option.bind_eq_some_iff, Option.pure_def,
      Option.some.injEq] at h
    obtain ⟨ms, -, _, -, _, -, _, -, _, -, _, -, placement, read, rfl⟩ := h
    exact Placement.isValue_of_ofMembers? read

end AgentSpec

namespace DiscoverySpec

/-- The number of replicas has 32 bits, and the placement is a value. -/
structure IsValue (s : DiscoverySpec) : Prop where
  replicaCount : Json.IsInt32 s.replicaCount
  placement : s.placement.IsValue

theorem roundTrips : Json.RoundTrips IsValue read? toJson where
  again s value := by
    obtain ⟨ms, written, logLevel, issuer, replicas, route, socket, placement⟩ : ∃ ms : Members,
        s.toJson = .obj ms ∧
        Members.withDefault ms "logLevel" "info" Json.str? = some s.logLevel ∧
        Members.required ms "jwtIssuer" Json.str? = some s.jwtIssuer ∧
        Members.withDefault ms "replicaCount" 1 Json.int32? = some s.replicaCount ∧
        Members.withDefault ms "managedRoute" true Json.bool? = some s.managedRoute ∧
        Members.withDefault ms "agentSocketName" "spire-agent.sock" Json.str? =
          some s.agentSocketName ∧
        Placement.ofMembers? ms = some s.placement := by
      refine ⟨_, rfl, rfl, rfl, value.replicaCount, rfl, rfl,
        Placement.ofMembers?_append ?_ value.placement⟩
      simp [Placement.fieldNames]
    simp [read?, written, Json.members?, logLevel, issuer, replicas, route, socket, placement]
  value v s h := by
    simp only [read?, Option.bind_eq_bind, Option.bind_eq_some_iff, Option.pure_def,
      Option.some.injEq] at h
    obtain ⟨ms, -, _, -, _, -, replicas, readReplicas, _, -, _, -, placement, readPlacement,
      rfl⟩ := h
    exact ⟨Members.value_of_withDefault readReplicas rfl Json.isInt32_of_int32?,
      Placement.isValue_of_ofMembers? readPlacement⟩

end DiscoverySpec

namespace DriverSpec

/-- The placement is a value. -/
def IsValue (s : DriverSpec) : Prop := s.placement.IsValue

theorem roundTrips : Json.RoundTrips IsValue read? toJson where
  again s value := by
    obtain ⟨ms, written, socket, plugin, placement⟩ : ∃ ms : Members,
        s.toJson = .obj ms ∧
        Members.withDefault ms "agentSocketPath" defaultSocketPath Json.str? =
          some s.agentSocketPath ∧
        Members.withDefault ms "pluginName" defaultPluginName Json.str? = some s.pluginName ∧
        Placement.ofMembers? ms = some s.placement := by
      refine ⟨_, rfl, rfl, rfl, Placement.ofMembers?_append ?_ value⟩
      simp [Placement.fieldNames]
    simp [read?, written, Json.members?, socket, plugin, placement]
  value v s h := by
    simp only [read?, Option.bind_eq_bind, Option.bind_eq_some_iff, Option.pure_def,
      Option.some.injEq] at h
    obtain ⟨ms, -, _, -, _, -, placement, read, rfl⟩ := h
    exact Placement.isValue_of_ofMembers? read

end DriverSpec

theorem ManagerSpec.roundTrips : Json.RoundTrips (fun _ => True) read? toJson where
  again s _ := by
    simp [read?, toJson, Json.record?, Members.required, Members.withDefault]
  value _ _ _ := trivial

/-- The conditions of the status can be written. -/
def OperandStatus.IsWritable (status : OperandStatus) : Prop :=
  ∀ c ∈ status.conditions, c.IsWritable

theorem OperandStatus.roundTrips : Json.RoundTrips IsWritable read? toJson where
  again status writable := by
    have again := Condition.listOfJson?_listToJson writable
    simp [read?, toJson, Json.record?, Members.withDefault, again]
  value v status h := by
    simp only [read?, Option.bind_eq_bind, Option.bind_eq_some_iff, Option.pure_def,
      Option.some.injEq] at h
    obtain ⟨ms, -, conditions, read, rfl⟩ := h
    exact Condition.isWritable_of_withDefault read

theorem OperandEntry.isWritable_of_read? (v : Json) (e : OperandEntry) (h : read? v = some e) :
    ∀ c ∈ e.conditions, c.IsWritable := by
  simp only [read?, Option.bind_eq_bind, Option.bind_eq_some_iff, Option.pure_def,
    Option.some.injEq] at h
  obtain ⟨ms, -, _, -, _, -, _, -, _, -, conditions, read, rfl⟩ := h
  exact Condition.isWritable_of_withDefault read

theorem ManagerStatus.roundTrips : Json.RoundTrips IsWritable read? toJson where
  again status writable := by
    have conditions := Condition.listOfJson?_listToJson writable.conditions
    have operands : Json.list? OperandEntry.read? (.arr (status.operands.map OperandEntry.toJson)) =
        some status.operands :=
      Json.list?_map fun e he => OperandEntry.read?_toJson (writable.operands e he)
    simp [read?, toJson, Json.record?, Members.withDefault, conditions, operands]
  value v status h := by
    simp only [read?, Option.bind_eq_bind, Option.bind_eq_some_iff, Option.pure_def,
      Option.some.injEq] at h
    obtain ⟨ms, -, conditions, readConditions, operands, readOperands, rfl⟩ := h
    refine ⟨Condition.isWritable_of_withDefault readConditions, ?_⟩
    refine Members.value_of_withDefault readOperands ?_ fun v entries listed =>
      Json.value_of_list? listed OperandEntry.isWritable_of_read?
    exact List.forall_mem_nil _

/-- **Specifications and statuses round-trip.** Whatever is written of a specification or a status
is read again as what it has been, and what has been read of any value stays the same when it is
written and read again. -/
theorem specifications_and_statuses_round_trip :
    Json.RoundTrips ServerSpec.IsValue ServerSpec.read? ServerSpec.toJson ∧
    Json.RoundTrips AgentSpec.IsValue AgentSpec.read? AgentSpec.toJson ∧
    Json.RoundTrips DiscoverySpec.IsValue DiscoverySpec.read? DiscoverySpec.toJson ∧
    Json.RoundTrips DriverSpec.IsValue DriverSpec.read? DriverSpec.toJson ∧
    Json.RoundTrips (fun _ => True) ManagerSpec.read? ManagerSpec.toJson ∧
    Json.RoundTrips OperandStatus.IsWritable OperandStatus.read? OperandStatus.toJson ∧
    Json.RoundTrips ManagerStatus.IsWritable ManagerStatus.read? ManagerStatus.toJson :=
  ⟨ServerSpec.roundTrips, AgentSpec.roundTrips, DiscoverySpec.roundTrips, DriverSpec.roundTrips,
    ManagerSpec.roundTrips, OperandStatus.roundTrips, ManagerStatus.roundTrips⟩

end WorkloadIdentity

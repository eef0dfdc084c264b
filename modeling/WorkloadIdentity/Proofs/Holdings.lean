import WorkloadIdentity.Proofs.Rereading
import WorkloadIdentity.Proofs.StoredPods

/-! Parts of an object are not its owner's: the server chooses the addresses of a service, the
claims of a stateful set are fixed when it is created, the cluster keeps tokens and pull secrets at
an account, and others fill a config map that is wanted without data. A replacement holds them as
the live object has held them. -/

namespace WorkloadIdentity

namespace Shape

variable {α : Type} {fields : Fields} {name : String} {shape : Shape} {v w : Json}

/-- Looking at what a member has been read as, and writing that, gives the member that was read. -/
theorem map_bind_read {look : Json → Option α} {write : α → Json}
    (whole : ∀ x y, shape.read x = some y → (look y).map write = some y)
    (once : (fields.map Prod.fst).Nodup) (h : (record fields).read v = some w)
    (known : List.lookup name fields = some (false, shape)) :
    ((w.get? name).bind look).map write = shape.seen (v.get? name) := by
  rw [← get?_read_eq_seen once h known]
  have fits := readMember_get? once h known
  cases here : v.get? name with
  | none =>
    rw [get?_read_of_none once h known here]
    rfl
  | some x =>
    rw [here, readMember] at fits
    split at fits
    · rw [← Option.some.inj fits]
      rfl
    · obtain ⟨y, read, e⟩ := Option.map_eq_some_iff.1 fits
      rw [← e]
      exact whole x y read

theorem whole_text (x y : Json) (h : text.read x = some y) : y.str?.map .str = some y := by
  cases x <;> simp [read, readLeaf] at h
  subst h
  rfl

theorem whole_items {item : Shape} (x y : Json) (h : (list item).read x = some y) :
    (y.list? some).map .arr = some y := by
  obtain ⟨items, found, rfl, rfl, -⟩ := read_list_eq_some h
  rw [Json.list?_arr]
  rfl

theorem whole_texts (x y : Json) (h : texts.read x = some y) :
    (y.list? Json.str?).map Json.strings = some y := by
  obtain ⟨items, found, rfl, rfl, each⟩ := read_list_eq_some h
  obtain ⟨ts, rfl⟩ : ∃ ts : List String, found = ts.map .str := by
    clear h
    induction items generalizing found with
    | nil => exact ⟨[], by simpa using each.symm⟩
    | cons item rest ih =>
      obtain ⟨y, others, here, later, rfl⟩ := mapM_cons_eq_some each
      obtain ⟨t, -, rfl⟩ := Option.map_eq_some_iff.1 (whole_text item y here)
      obtain ⟨ts, rfl⟩ := ih others later
      exact ⟨t :: ts, rfl⟩
  change (Json.list? Json.str? (Json.strings ts)).map Json.strings = some (Json.strings ts)
  rw [Json.list?_strings]
  rfl

theorem whole_textMap (x y : Json) (h : textMap.read x = some y) :
    (y.map? Json.str?).map Json.ofStrings = some y := by
  obtain ⟨m, -, rfl⟩ := read_textMap h
  rw [Json.map?_ofStrings]
  rfl

theorem text_read_of_base64 (h : base64.read v = some w) : text.read v = some w := by
  have same := eq_of_read rfl h
  subst same
  cases w <;> simp [read, readLeaf] at h ⊢

theorem whole_base64Map (x y : Json) (h : (map base64).read x = some y) :
    (y.map? Json.str?).map Json.ofStrings = some y := by
  refine whole_textMap x y ?_
  cases x with
  | obj members =>
    rw [read] at h
    obtain ⟨found, each, rfl⟩ := Option.map_eq_some_iff.1 h
    have asTexts : members.mapM (fun m => (text.read m.2).map fun w => (m.1, w)) = some found := by
      clear h
      induction members generalizing found with
      | nil => exact each
      | cons m rest ih =>
        obtain ⟨e, others, here, later, rfl⟩ := mapM_cons_eq_some each
        obtain ⟨w, read, rfl⟩ := Option.map_eq_some_iff.1 here
        rw [List.mapM_cons, ih others later, text_read_of_base64 read]
        rfl
    rw [textMap, read, asTexts]
    rfl
  | _ => simp [read] at h

end Shape

namespace ManagedKind

/-- Whether the objects of a kind say in a specification what they are. -/
def isSpecified : ManagedKind → Bool
  | service => true
  | workload _ => true
  | _ => false

/-- Where a stored object holds something for others. -/
def body (kind : ManagedKind) (v : Json) : Option Json :=
  if kind.isSpecified then v.get? "spec" else some v

/-- The members that are held for others, with their shapes. -/
def foreign : ManagedKind → List (String × Shape)
  | configMap => [("data", Shape.textMap), ("binaryData", .map .base64)]
  | serviceAccount =>
    [("secrets", .list Catalog.objectReference),
      ("imagePullSecrets", .list Catalog.localReference)]
  | service =>
    [("clusterIP", .text), ("clusterIPs", Shape.texts), ("ipFamilies", Shape.texts),
      ("ipFamilyPolicy", .text)]
  | workload .statefulSet => [("volumeClaimTemplates", .list Catalog.volumeClaim)]
  | _ => []

/-- What a stored object says of the members that are held for others. -/
def holdings (kind : ManagedKind) (v : Json) : List (Option Json) :=
  kind.foreign.map fun m => m.2.seen ((kind.body v).bind (Json.get? m.1))

/-- Whether a stored object has a specification, if its kind has one. -/
def IsComplete (kind : ManagedKind) (v : Json) : Prop :=
  kind.isSpecified = true → ∃ spec, v.get? "spec" = some spec ∧ spec.isNull = false

/-- Whether a wanted object leaves to others what is theirs: a config map if it is without data, and
an object with a specification if it says one. -/
def Leaves : (kind : ManagedKind) → kind.Object → Prop
  | configMap, o => ConfigMap.data o = none
  | service, o => (Service.spec o).isSome
  | workload _, o => (Workload.spec o).isSome
  | _, _ => True

/-- Whether nothing of an object is written twice. -/
structure WritesOnce (kind : ManagedKind) (o : kind.Object) : Prop where
  metadata : (Managed.metadata o).others.Avoid Meta.fieldNames
  spec : match kind, o with
    | service, o => ∀ s, Service.spec o = some s → s.others.Avoid ServiceSpec.fieldNames
    | workload _, o => ∀ s, Workload.spec o = some s → s.others.Avoid WorkloadSpec.fieldNames
    | _, _ => True

/-- Whether two objects hold the same for others. -/
def HoldsAs : (kind : ManagedKind) → kind.Object → kind.Object → Prop
  | configMap, o, o' =>
    ConfigMap.data o' = ConfigMap.data o ∧ ConfigMap.binaryData o' = ConfigMap.binaryData o
  | serviceAccount, o, o' =>
    ServiceAccount.secrets o' = ServiceAccount.secrets o ∧
      ServiceAccount.imagePullSecrets o' = ServiceAccount.imagePullSecrets o
  | service, o, o' =>
    ∃ s s', Service.spec o = some s ∧ Service.spec o' = some s' ∧ s'.clusterIP = s.clusterIP ∧
      s'.clusterIPs = s.clusterIPs ∧ s'.ipFamilies = s.ipFamilies ∧
      s'.ipFamilyPolicy = s.ipFamilyPolicy
  | workload .statefulSet, o, o' =>
    ∃ s s', Workload.spec o = some s ∧ Workload.spec o' = some s' ∧
      s'.volumeClaimTemplates = s.volumeClaimTemplates
  | _, _, _ => True

theorem isPlain_of_foreign (kind : ManagedKind) : ∀ m ∈ kind.foreign, m.2.isPlain = true := by
  cases kind with
  | workload kind => cases kind <;> decide
  | role reach => exact List.forall_mem_nil _
  | binding reach => exact List.forall_mem_nil _
  | _ => decide

/-- What is written in the form in which it was read says what it has said. -/
theorem holdings_eq {kind : ManagedKind} {v v' : Json}
    (same : ∀ m ∈ kind.foreign,
      (kind.body v').bind (Json.get? m.1) = m.2.seen ((kind.body v).bind (Json.get? m.1))) :
    kind.holdings v' = kind.holdings v := by
  unfold holdings
  refine List.map_congr_left fun m mem => ?_
  rw [same m mem, Shape.seen_seen (kind.isPlain_of_foreign m mem)]

end ManagedKind

namespace ConfigMap

variable {v v' : Json} {live desired : ConfigMap}

theorem holdings_again (read : read? v = some live) (without : desired.data = none)
    (stores : Stores .configMap v' (prepare live desired)) :
    ManagedKind.configMap.holdings v' = ManagedKind.configMap.holdings v := by
  obtain ⟨w, shaped, rfl⟩ := Option.map_eq_some_iff.1 read
  have data : v'.get? "data" = Shape.textMap.seen (v.get? "data") := by
    rw [stores.members "data" (by decide) (by decide),
      ← Shape.map_bind_read Shape.whole_textMap (by decide) shaped rfl]
    change (Json.get? "data" (ConfigMap.toJson _)) = _
    simp [ConfigMap.toJson, objectHead, prepare, without, Json.mapAt]
  have binaryData : v'.get? "binaryData" = (Shape.map .base64).seen (v.get? "binaryData") := by
    rw [stores.members "binaryData" (by decide) (by decide),
      ← Shape.map_bind_read Shape.whole_base64Map (by decide) shaped rfl]
    change (Json.get? "binaryData" (ConfigMap.toJson _)) = _
    simp [ConfigMap.toJson, objectHead, prepare, without, Json.mapAt]
  refine ManagedKind.holdings_eq (List.forall_mem_cons.2 ⟨data, List.forall_mem_singleton.2 ?_⟩)
  exact binaryData

theorem data_of_read? (read : read? v = some live) :
    live.data = (Shape.textMap.seen (v.get? "data")).bind (Json.map? Json.str?) ∧
      live.binaryData =
        ((Shape.map .base64).seen (v.get? "binaryData")).bind (Json.map? Json.str?) := by
  obtain ⟨w, shaped, rfl⟩ := Option.map_eq_some_iff.1 read
  rw [← Shape.get?_read_eq_seen (by decide) shaped rfl,
    ← Shape.get?_read_eq_seen (by decide) shaped rfl]
  exact ⟨rfl, rfl⟩

end ConfigMap

namespace ServiceAccount

variable {v v' : Json} {live desired : ServiceAccount}

theorem holdings_again (read : read? v = some live)
    (stores : Stores .serviceAccount v' (prepare live desired)) :
    ManagedKind.serviceAccount.holdings v' = ManagedKind.serviceAccount.holdings v := by
  obtain ⟨w, shaped, rfl⟩ := Option.map_eq_some_iff.1 read
  have secrets : v'.get? "secrets" =
      (Shape.list Catalog.objectReference).seen (v.get? "secrets") := by
    rw [stores.members "secrets" (by decide) (by decide),
      ← Shape.map_bind_read Shape.whole_items (by decide) shaped rfl]
    change (Json.get? "secrets" (ServiceAccount.toJson _)) = _
    simp [ServiceAccount.toJson, objectHead, prepare, Json.itemsAt]
  have pullSecrets : v'.get? "imagePullSecrets" =
      (Shape.list Catalog.localReference).seen (v.get? "imagePullSecrets") := by
    rw [stores.members "imagePullSecrets" (by decide) (by decide),
      ← Shape.map_bind_read Shape.whole_items (by decide) shaped rfl]
    change (Json.get? "imagePullSecrets" (ServiceAccount.toJson _)) = _
    simp [ServiceAccount.toJson, objectHead, prepare, Json.itemsAt]
  refine ManagedKind.holdings_eq (List.forall_mem_cons.2 ⟨secrets, List.forall_mem_singleton.2 ?_⟩)
  exact pullSecrets

theorem secrets_of_read? (read : read? v = some live) :
    live.secrets = ((Shape.list Catalog.objectReference).seen (v.get? "secrets")).bind
        (Json.list? some) ∧
      live.imagePullSecrets =
        ((Shape.list Catalog.localReference).seen (v.get? "imagePullSecrets")).bind
          (Json.list? some) := by
  obtain ⟨w, shaped, rfl⟩ := Option.map_eq_some_iff.1 read
  rw [← Shape.get?_read_eq_seen (by decide) shaped rfl,
    ← Shape.get?_read_eq_seen (by decide) shaped rfl]
  exact ⟨rfl, rfl⟩

end ServiceAccount

namespace Service

variable {v v' spec : Json} {live desired : Service}

theorem holdings_again {d : ServiceSpec} (read : read? v = some live)
    (here : v.get? "spec" = some spec) (notNull : spec.isNull = false)
    (wanted : desired.spec = some d) (once : d.others.Avoid ServiceSpec.fieldNames)
    (stores : Stores .service v' (prepare live desired)) :
    ManagedKind.service.holdings v' = ManagedKind.service.holdings v := by
  obtain ⟨w, shaped, rfl⟩ := Option.map_eq_some_iff.1 read
  obtain ⟨y, readSpec, found⟩ := Shape.get?_read_of_some (by decide) shaped rfl here notNull
  have absent (name : String) (used : name ∈ ServiceSpec.fieldNames) :
      Json.lookup name d.others = none := Json.lookup_of_avoid once used
  have written : v'.get? "spec" = some ((ServiceSpec.ofJson y).carry d).toJson := by
    rw [stores.members "spec" (by decide) (by decide)]
    change (Service.toJson _).get? "spec" = _
    rw [get?_spec_toJson, prepare, found, wanted]
    rfl
  have members : ∀ m ∈ ManagedKind.service.foreign,
      ((ServiceSpec.ofJson y).carry d).toJson.get? m.1 = m.2.seen (spec.get? m.1) := by
    refine List.forall_mem_cons.2 ⟨?_, List.forall_mem_cons.2 ⟨?_, List.forall_mem_cons.2 ⟨?_,
      List.forall_mem_singleton.2 ?_⟩⟩⟩
    · rw [← Shape.map_bind_read Shape.whole_text (by decide) readSpec rfl]
      simp [ServiceSpec.toJson, ServiceSpec.carry, ServiceSpec.ofJson, Json.textAt,
        absent "clusterIP" (by decide)]
    · rw [← Shape.map_bind_read Shape.whole_texts (by decide) readSpec rfl]
      simp [ServiceSpec.toJson, ServiceSpec.carry, ServiceSpec.ofJson, Json.textsAt,
        absent "clusterIPs" (by decide)]
    · rw [← Shape.map_bind_read Shape.whole_texts (by decide) readSpec rfl]
      simp [ServiceSpec.toJson, ServiceSpec.carry, ServiceSpec.ofJson, Json.textsAt,
        absent "ipFamilies" (by decide)]
    · rw [← Shape.map_bind_read Shape.whole_text (by decide) readSpec rfl]
      simp [ServiceSpec.toJson, ServiceSpec.carry, ServiceSpec.ofJson, Json.textAt,
        absent "ipFamilyPolicy" (by decide)]
  refine ManagedKind.holdings_eq fun m mem => ?_
  change (v'.get? "spec").bind _ = m.2.seen ((v.get? "spec").bind _)
  rw [written, here]
  exact members m mem

theorem spec_of_read? (read : read? v = some live) (here : v.get? "spec" = some spec)
    (notNull : spec.isNull = false) :
    ∃ s, live.spec = some s ∧
      s.clusterIP = (Shape.text.seen (spec.get? "clusterIP")).bind Json.str? ∧
      s.clusterIPs = (Shape.texts.seen (spec.get? "clusterIPs")).bind (Json.list? Json.str?) ∧
      s.ipFamilies = (Shape.texts.seen (spec.get? "ipFamilies")).bind (Json.list? Json.str?) ∧
      s.ipFamilyPolicy = (Shape.text.seen (spec.get? "ipFamilyPolicy")).bind Json.str? := by
  obtain ⟨w, shaped, rfl⟩ := Option.map_eq_some_iff.1 read
  obtain ⟨y, readSpec, found⟩ := Shape.get?_read_of_some (by decide) shaped rfl here notNull
  refine ⟨ServiceSpec.ofJson y, by rw [found]; rfl, ?_⟩
  rw [← Shape.get?_read_eq_seen (by decide) readSpec rfl,
    ← Shape.get?_read_eq_seen (by decide) readSpec rfl,
    ← Shape.get?_read_eq_seen (by decide) readSpec rfl,
    ← Shape.get?_read_eq_seen (by decide) readSpec rfl]
  exact ⟨rfl, rfl, rfl, rfl⟩

end Service

namespace Workload

variable {kind : WorkloadKind} {v v' spec : Json} {live desired : Workload kind}

theorem holdings_again {d : WorkloadSpec} (read : read? kind v = some live)
    (here : v.get? "spec" = some spec) (notNull : spec.isNull = false)
    (wanted : desired.spec = some d) (once : d.others.Avoid WorkloadSpec.fieldNames)
    (stores : Stores (.workload kind) v' (prepare live desired)) :
    (ManagedKind.workload kind).holdings v' = (ManagedKind.workload kind).holdings v := by
  cases kind with
  | daemonSet => rfl
  | deployment => rfl
  | statefulSet =>
    obtain ⟨w, shaped, rfl⟩ := Option.map_eq_some_iff.1 read
    obtain ⟨y, readSpec, found⟩ := Shape.get?_read_of_some (by decide) shaped rfl here notNull
    have absent : Json.lookup "volumeClaimTemplates" d.others = none :=
      Json.lookup_of_avoid once (by decide)
    have written : v'.get? "spec" = some
        { d with volumeClaimTemplates := y.itemsAt "volumeClaimTemplates" : WorkloadSpec
          }.toJson := by
      rw [stores.members "spec" (by decide) (by decide)]
      change (Workload.toJson _).get? "spec" = _
      rw [get?_spec_toJson, prepare, found, wanted]
      rfl
    refine ManagedKind.holdings_eq (List.forall_mem_singleton.2 ?_)
    change (v'.get? "spec").bind _ = Shape.seen _ ((v.get? "spec").bind _)
    rw [written, here]
    change _ = Shape.seen _ (spec.get? "volumeClaimTemplates")
    rw [← Shape.map_bind_read Shape.whole_items (by decide) readSpec rfl]
    simp [WorkloadSpec.toJson, Json.itemsAt, absent]

theorem claims_of_read? {v spec : Json} {live : StatefulSet}
    (read : read? .statefulSet v = some live) (here : v.get? "spec" = some spec)
    (notNull : spec.isNull = false) :
    ∃ s, live.spec = some s ∧ s.volumeClaimTemplates =
      ((Shape.list Catalog.volumeClaim).seen (spec.get? "volumeClaimTemplates")).bind
        (Json.list? some) := by
  obtain ⟨w, shaped, rfl⟩ := Option.map_eq_some_iff.1 read
  obtain ⟨y, readSpec, found⟩ := Shape.get?_read_of_some (by decide) shaped rfl here notNull
  refine ⟨WorkloadSpec.ofJson y, by rw [found]; rfl, ?_⟩
  rw [← Shape.get?_read_eq_seen (by decide) readSpec rfl]
  rfl

end Workload

theorem Json.avoid_without (v : Json) (names : List String) : (v.without names).Avoid names := by
  cases v with
  | obj members =>
    intro m mem
    have kept := (List.mem_filter.1 mem).2
    simpa using kept
  | _ => exact Members.avoid_nil names

namespace ManagedKind

variable {kind : ManagedKind} {v v' : Json} {live desired : kind.Object}

/-- An object that has been read is written without writing anything twice. -/
theorem writesOnce_of_read? (read : Managed.read? v = some live) : kind.WritesOnce live := by
  cases kind with
  | untyped =>
    refine ⟨?_, trivial⟩
    rcases Untyped.metadata_of_read? read with ⟨-, empty⟩ | ⟨inner, -, given⟩
    · change (Untyped.metadata live).others.Avoid Meta.fieldNames
      rw [empty]
      exact Members.avoid_nil Meta.fieldNames
    · obtain ⟨w, -, e⟩ := Option.map_eq_some_iff.1 given
      change (Untyped.metadata live).others.Avoid Meta.fieldNames
      rw [← e]
      exact Json.avoid_without w Meta.fieldNames
  | service =>
    obtain ⟨w, -, rfl⟩ := Option.map_eq_some_iff.1 read
    refine ⟨Json.avoid_without _ _, fun s said => ?_⟩
    obtain ⟨inner, -, rfl⟩ := Option.map_eq_some_iff.1 said
    exact Json.avoid_without _ _
  | workload kind =>
    obtain ⟨w, -, rfl⟩ := Option.map_eq_some_iff.1 read
    refine ⟨Json.avoid_without _ _, fun s said => ?_⟩
    obtain ⟨inner, -, rfl⟩ := Option.map_eq_some_iff.1 said
    exact Json.avoid_without _ _
  | _ =>
    obtain ⟨w, -, rfl⟩ := Option.map_eq_some_iff.1 read
    exact ⟨Json.avoid_without _ _, trivial⟩

/-- **A stored replacement says of what it holds for others what the object before it has said.** -/
theorem holdings_of_stores (read : Managed.read? v = some live) (complete : kind.IsComplete v)
    (once : kind.WritesOnce desired) (leaves : kind.Leaves desired)
    (stores : Stores kind v' (Managed.prepare live desired)) :
    kind.holdings v' = kind.holdings v := by
  cases kind with
  | configMap => exact ConfigMap.holdings_again read leaves stores
  | serviceAccount => exact ServiceAccount.holdings_again read stores
  | service =>
    obtain ⟨spec, here, notNull⟩ := complete rfl
    obtain ⟨d, wanted⟩ := Option.isSome_iff_exists.1 leaves
    exact Service.holdings_again read here notNull wanted (once.spec d wanted) stores
  | workload kind =>
    obtain ⟨spec, here, notNull⟩ := complete rfl
    obtain ⟨d, wanted⟩ := Option.isSome_iff_exists.1 leaves
    exact Workload.holdings_again read here notNull wanted (once.spec d wanted) stores
  | _ => rfl

/-- A stored replacement has a specification if the wanted object has one. -/
theorem isComplete_of_stores (leaves : kind.Leaves desired)
    (stores : Stores kind v' (Managed.prepare live desired)) : kind.IsComplete v' := by
  intro specified
  have written := stores.members "spec" (by decide) (by decide)
  cases kind with
  | service =>
    obtain ⟨d, wanted⟩ := Option.isSome_iff_exists.1 leaves
    change v'.get? "spec" = (Service.toJson (Service.prepare live desired)).get? "spec" at written
    rw [Service.get?_spec_toJson, Service.prepare, wanted] at written
    cases spec : live.spec <;> rw [spec] at written <;> exact ⟨_, written, rfl⟩
  | workload kind =>
    obtain ⟨d, wanted⟩ := Option.isSome_iff_exists.1 leaves
    change v'.get? "spec" = (Workload.toJson (Workload.prepare live desired)).get? "spec" at written
    have said : (Workload.prepare live desired).spec.isSome := by
      rw [Workload.isSome_spec_prepare]
      exact leaves
    obtain ⟨s, said⟩ := Option.isSome_iff_exists.1 said
    rw [Workload.get?_spec_toJson, said] at written
    exact ⟨_, written, rfl⟩
  | _ => cases specified

/-- What stored objects say of what they hold for others is what the objects that are read of them
hold. -/
theorem holdsAs_of_holdings {live live' : kind.Object} (read : Managed.read? v = some live)
    (read' : Managed.read? v' = some live') (complete : kind.IsComplete v)
    (complete' : kind.IsComplete v') (same : kind.holdings v' = kind.holdings v) :
    kind.HoldsAs live live' := by
  cases kind with
  | configMap =>
    obtain ⟨data, binaryData⟩ := ConfigMap.data_of_read? read
    obtain ⟨data', binaryData'⟩ := ConfigMap.data_of_read? read'
    simp [holdings, foreign, body, isSpecified] at same
    exact ⟨by rw [data, data', same.1], by rw [binaryData, binaryData', same.2]⟩
  | serviceAccount =>
    obtain ⟨secrets, pullSecrets⟩ := ServiceAccount.secrets_of_read? read
    obtain ⟨secrets', pullSecrets'⟩ := ServiceAccount.secrets_of_read? read'
    simp [holdings, foreign, body, isSpecified] at same
    exact ⟨by rw [secrets, secrets', same.1], by rw [pullSecrets, pullSecrets', same.2]⟩
  | service =>
    obtain ⟨spec, here, notNull⟩ := complete rfl
    obtain ⟨spec', here', notNull'⟩ := complete' rfl
    obtain ⟨s, had, address, addresses, families, policy⟩ := Service.spec_of_read? read here notNull
    obtain ⟨s', has, address', addresses', families', policy'⟩ :=
      Service.spec_of_read? read' here' notNull'
    simp [holdings, foreign, body, isSpecified, here, here'] at same
    exact ⟨s, s', had, has, by rw [address, address', same.1],
      by rw [addresses, addresses', same.2.1], by rw [families, families', same.2.2.1],
      by rw [policy, policy', same.2.2.2]⟩
  | workload kind =>
    cases kind with
    | statefulSet =>
      obtain ⟨spec, here, notNull⟩ := complete rfl
      obtain ⟨spec', here', notNull'⟩ := complete' rfl
      obtain ⟨s, had, claims⟩ := Workload.claims_of_read? read here notNull
      obtain ⟨s', has, claims'⟩ := Workload.claims_of_read? read' here' notNull'
      simp [holdings, foreign, body, isSpecified, here, here'] at same
      exact ⟨s, s', had, has, by rw [claims, claims', same]⟩
    | _ => trivial
  | _ => trivial

end ManagedKind

end WorkloadIdentity

import WorkloadIdentity.Pass.Steps
import WorkloadIdentity.Proofs.Canonical
import WorkloadIdentity.Proofs.Quiescence
import WorkloadIdentity.Proofs.Sending

/-!
# A changed configuration replaces the pods

The text of a configuration file and the fingerprint in the template of the pods are made from one
configuration, but by different printers. Members stand in a fixed order in every configuration, so
that neither says less than the other, and pods whose fingerprint changes are replaced.

* `Json.IsOrderedBy` says in which order members stand; `Json.eq_of_canonical_eq` is what follows.
* `OperandKind.rollout?` is what is made of a configuration, for any operand that has one, and
  `OperandKind.mem_wanteds_of_rollout?` tells that a pass applies it.
* `Rollout.text_eq_iff`: texts are equal if and only if the hashed bytes are.
* `OperandKind.rollout_of_change`: a change of the configuration is one of the workload.
-/

namespace WorkloadIdentity

namespace Json

/-- The keys stand in the order in which the names are listed. -/
def InOrder (names keys : List String) : Prop :=
  keys.Pairwise (names.idxOf · < names.idxOf ·)

instance (names keys : List String) : Decidable (InOrder names keys) :=
  inferInstanceAs (Decidable (keys.Pairwise _))

theorem inOrder_singleton (names : List String) (key : String) : InOrder names [key] :=
  List.pairwise_singleton _ key

mutual

/-- The members of every object stand in the order in which the names are listed. -/
def IsOrderedBy (names : List String) : Json → Prop
  | obj members => InOrder names (members.map Prod.fst) ∧ MembersOrderedBy names members
  | arr items => ItemsOrderedBy names items
  | null => True
  | bool _ => True
  | int _ => True
  | double _ => True
  | str _ => True

def ItemsOrderedBy (names : List String) : List Json → Prop
  | [] => True
  | v :: rest => IsOrderedBy names v ∧ ItemsOrderedBy names rest

def MembersOrderedBy (names : List String) : List (String × Json) → Prop
  | [] => True
  | (_, v) :: rest => IsOrderedBy names v ∧ MembersOrderedBy names rest

end

theorem canonicalMembers_perm_map (members : List (String × Json)) :
    (canonicalMembers members).Perm (members.map fun m => (m.1, m.2.canonical)) := by
  induction members with
  | nil => exact List.Perm.refl _
  | cons m rest ih =>
    obtain ⟨k, v⟩ := m
    rw [canonicalMembers, List.map_cons]
    exact (insertSorted_perm k v.canonical _).trans (ih.cons _)

/-- Sorting loses nothing of members that stand in a known order. -/
theorem map_canonical_eq {names : List String} {xs ys : List (String × Json)}
    (hx : InOrder names (xs.map Prod.fst)) (hy : InOrder names (ys.map Prod.fst))
    (h : canonicalMembers xs = canonicalMembers ys) :
    xs.map (fun m => (m.1, m.2.canonical)) = ys.map (fun m => (m.1, m.2.canonical)) := by
  have perm := (canonicalMembers_perm_map xs).symm.trans (h ▸ canonicalMembers_perm_map ys)
  have sorted {ms : List (String × Json)} (hm : InOrder names (ms.map Prod.fst)) :
      (ms.map fun m => (m.1, m.2.canonical)).Pairwise
        (fun m n => names.idxOf m.1 < names.idxOf n.1) := by
    rw [InOrder, List.pairwise_map] at hm
    rw [List.pairwise_map]
    exact hm
  refine List.Perm.eq_of_pairwise ?_ (sorted hx) (sorted hy) perm
  intro m n _ _ below above
  omega

mutual

/-- Values whose members stand in one order are equal if their canonical forms are. -/
theorem eq_of_canonical_eq (names : List String) : ∀ v w : Json, v.IsOrderedBy names →
    w.IsOrderedBy names → v.canonical = w.canonical → v = w
  | obj xs, w, hv, hw, h => by
    cases w with
    | obj ys =>
      simp only [canonical, obj.injEq] at h
      simp only [IsOrderedBy] at hv hw
      rw [members_eq_of_canonical_eq names xs ys hv.2 hw.2 (map_canonical_eq hv.1 hw.1 h)]
    | _ => simp [canonical] at h
  | arr xs, w, hv, hw, h => by
    cases w with
    | arr ys =>
      simp only [canonical, arr.injEq] at h
      simp only [IsOrderedBy] at hv hw
      rw [items_eq_of_canonical_eq names xs ys hv hw h]
    | _ => simp [canonical] at h
  | null, w, _, _, h | bool _, w, _, _, h | int _, w, _, _, h | double _, w, _, _, h
  | str _, w, _, _, h => by cases w <;> simp_all [canonical]

theorem items_eq_of_canonical_eq (names : List String) : ∀ xs ys : List Json,
    ItemsOrderedBy names xs → ItemsOrderedBy names ys → canonicalItems xs = canonicalItems ys →
    xs = ys
  | [], ys, _, _, h => by
    cases ys with
    | nil => rfl
    | cons y ys => simp [canonicalItems] at h
  | x :: xs, ys, hx, hy, h => by
    cases ys with
    | nil => simp [canonicalItems] at h
    | cons y ys =>
      simp only [canonicalItems, List.cons.injEq] at h
      simp only [ItemsOrderedBy] at hx hy
      rw [eq_of_canonical_eq names x y hx.1 hy.1 h.1,
        items_eq_of_canonical_eq names xs ys hx.2 hy.2 h.2]

theorem members_eq_of_canonical_eq (names : List String) : ∀ xs ys : List (String × Json),
    MembersOrderedBy names xs → MembersOrderedBy names ys →
    xs.map (fun m => (m.1, m.2.canonical)) = ys.map (fun m => (m.1, m.2.canonical)) → xs = ys
  | [], ys, _, _, h => by
    cases ys with
    | nil => rfl
    | cons y ys => simp at h
  | (k, x) :: xs, ys, hx, hy, h => by
    cases ys with
    | nil => simp at h
    | cons y ys =>
      obtain ⟨l, y⟩ := y
      simp only [List.map_cons, List.cons.injEq, Prod.mk.injEq] at h
      obtain ⟨⟨name, first⟩, later⟩ := h
      simp only [MembersOrderedBy] at hx hy
      rw [name, eq_of_canonical_eq names x y hx.1 hy.1 first,
        members_eq_of_canonical_eq names xs ys hx.2 hy.2 later]

end

theorem itemsOrderedBy_iff {names : List String} {items : List Json} :
    ItemsOrderedBy names items ↔ ∀ v ∈ items, v.IsOrderedBy names := by
  induction items with
  | nil => simp [ItemsOrderedBy]
  | cons v rest ih => simp [ItemsOrderedBy, ih]

theorem isIntegral_strings (items : List String) : (strings items).IsIntegral := by
  rw [strings, IsIntegral, itemsIntegral_iff]
  intro v hv
  obtain ⟨s, -, rfl⟩ := List.mem_map.1 hv
  trivial

theorem isOrderedBy_strings (names items : List String) : (strings items).IsOrderedBy names := by
  rw [strings, IsOrderedBy, itemsOrderedBy_iff]
  intro v hv
  obtain ⟨s, -, rfl⟩ := List.mem_map.1 hv
  trivial

end Json

/-! ## Configurations -/

namespace ServerManifest

/-- The names in the configuration of the server, in an order in which they stand. -/
def configNames : List String :=
  ["server", "health_checks", "plugins", "telemetry",
    "audit_log_enabled", "bind_address", "bind_port", "ca_key_type", "ca_ttl", "data_dir",
    "default_jwt_svid_ttl", "default_x509_svid_ttl", "jwt_issuer", "log_format", "log_level",
    "socket_path", "trust_domain", "ca_subject",
    "common_name", "country", "organization",
    "listener_enabled", "live_path", "ready_path",
    "DataStore", "KeyManager", "NodeAttestor", "Notifier", "plugin_data",
    "database_type", "connection_string", "max_open_conns", "max_idle_conns", "conn_max_lifetime",
    "disable_migration", "service_account_allow_list", "audience", "namespace", "config_map",
    "Prometheus", "host", "port"]

theorem isIntegral_config (site : Site ServerSpec) : (config site).IsIntegral := by
  cases subject : site.spec.caSubject <;>
    simp [config, serverSection, subject, subjectJson, nonEmpty, Json.optional, plugin, portText,
      clusterJson, databaseJson, Json.IsIntegral, Json.MembersIntegral, Json.ItemsIntegral,
      Json.isIntegral_strings]

theorem isOrderedBy_config (site : Site ServerSpec) : (config site).IsOrderedBy configNames := by
  cases subject : site.spec.caSubject <;>
    simp +decide [config, serverSection, subject, subjectJson, nonEmpty, Json.optional, plugin,
      portText, clusterJson, databaseJson, Json.IsOrderedBy, Json.MembersOrderedBy,
      Json.ItemsOrderedBy, Json.isOrderedBy_strings, Json.inOrder_singleton]

end ServerManifest

namespace AgentManifest

def configNames : List String :=
  ["agent", "health_checks", "plugins", "telemetry",
    "data_dir", "log_level", "log_format", "server_address", "server_port", "socket_path",
    "trust_bundle_path", "trust_domain",
    "bind_address", "bind_port", "listener_enabled", "live_path", "ready_path",
    "KeyManager", "NodeAttestor", "WorkloadAttestor",
    "disable_container_selectors", "node_name_env", "use_new_container_locator",
    "verbose_container_locator_logs", "skip_kubelet_verification", "kubelet_ca_path",
    "host", "port"]

theorem isIntegral_workloadAttestor (s : WorkloadAttestors) : (workloadAttestor s).IsIntegral := by
  cases enabled : s.k8sEnabled <;> cases type : s.verification.type <;>
    simp [workloadAttestor, enabled, kubeletSettings, type, Json.IsIntegral, Json.MembersIntegral]

theorem isOrderedBy_workloadAttestor (s : WorkloadAttestors) :
    (workloadAttestor s).IsOrderedBy configNames := by
  cases enabled : s.k8sEnabled <;> cases type : s.verification.type <;>
    simp +decide [workloadAttestor, enabled, kubeletSettings, type, Json.IsOrderedBy,
      Json.MembersOrderedBy]

theorem isIntegral_config (site : Site AgentSpec) : (config site).IsIntegral := by
  cases enabled : site.spec.nodeAttestor.psatEnabled <;>
    simp [config, nodeAttestor, enabled, isIntegral_workloadAttestor, Json.IsIntegral,
      Json.MembersIntegral, Json.ItemsIntegral]

theorem isOrderedBy_config (site : Site AgentSpec) : (config site).IsOrderedBy configNames := by
  cases enabled : site.spec.nodeAttestor.psatEnabled <;>
    simp +decide [config, nodeAttestor, enabled, isOrderedBy_workloadAttestor, Json.IsOrderedBy,
      Json.MembersOrderedBy, Json.ItemsOrderedBy]

end AgentManifest

namespace DiscoveryManifest

def configNames : List String :=
  ["domains", "health_checks", "log_level", "serving_cert_file", "workload_api",
    "bind_port", "live_path", "ready_path", "addr", "cert_file_path", "key_file_path",
    "socket_path", "trust_domain"]

theorem written_config {site : Site DiscoverySpec} {v : Json} (h : config site = .ok v) :
    v.IsIntegral ∧ v.IsOrderedBy configNames := by
  obtain ⟨host, -, h⟩ := exists_of_bind_ok h
  cases h
  constructor
  · simp [Json.IsIntegral, Json.MembersIntegral, Json.isIntegral_strings]
  · simp +decide [Json.IsOrderedBy, Json.MembersOrderedBy, Json.isOrderedBy_strings]

end DiscoveryManifest

/-! ## What is made of a configuration -/

/-- What the objects of an operand are made from. -/
structure Inputs (kind : OperandKind) where
  operand : Operand kind.Spec
  manager : ManagerSpec
  settings : Settings
  /-- The resource of the storage driver, which the discovery provider mounts a socket by. -/
  driver : Option (Operand DriverSpec) := none

/-- A configuration, the config map with its text, and the workload whose pods carry its
fingerprint. -/
structure Rollout (kind : WorkloadKind) where
  config : Json
  file : String
  configMap : ConfigMap
  hashKey : String
  workload : Workload kind

namespace Rollout

variable {kind : WorkloadKind}

/-- The text of the configuration file. -/
def text? (r : Rollout kind) : Option String := r.configMap.data.bind (·.get? r.file)

/-- The annotations of the pods. -/
def podAnnotations? (r : Rollout kind) : Option Labels :=
  r.workload.spec.bind fun spec => spec.template.metadata.bind (·.annotations)

/-- The fingerprint that the pods carry. -/
def fingerprint? (r : Rollout kind) : Option String := r.podAnnotations?.bind (·.get? r.hashKey)

end Rollout

def OperandKind.rollout? : (kind : OperandKind) → Inputs kind →
    Option (Rollout (OperandPass.workload kind.Spec))
  | .server, inputs => do
    let operand : Operand ServerSpec := inputs.operand
    let site ← (Site.ofOperand operand inputs.manager inputs.settings).toOption
    let config := ServerManifest.config site
    return {
      config
      file := ServerManifest.configFile
      configMap := ServerManifest.configMap site
      hashKey := ServerManifest.configHashKey
      workload := ServerManifest.statefulSet site (Fingerprint.ofJson config)
        (Fingerprint.ofJson (ServerManifest.controllerManagerConfig site)) }
  | .agent, inputs => do
    let operand : Operand AgentSpec := inputs.operand
    let site ← (Site.ofOperand operand inputs.manager inputs.settings).toOption
    let config := AgentManifest.config site
    return {
      config
      file := AgentManifest.configFile
      configMap := AgentManifest.configMap site
      hashKey := AgentManifest.configHashKey
      workload := AgentManifest.daemonSet site (Fingerprint.ofJson config) }
  | .discovery, inputs => do
    let operand : Operand DiscoverySpec := inputs.operand
    let site ← (Site.ofOperand operand inputs.manager inputs.settings).toOption
    let config ← (DiscoveryManifest.config site).toOption
    return {
      config
      file := DiscoveryManifest.configFile
      configMap := DiscoveryManifest.configMap site config
      hashKey := DiscoveryManifest.configHashKey
      workload := DiscoveryManifest.deployment site (DiscoverySpec.pluginName inputs.driver)
        (Fingerprint.ofJson config) }
  | .driver, _ => none

/-- What is made of a configuration says all of it. -/
structure Rollout.IsWritten {kind : WorkloadKind} (names : List String) (r : Rollout kind) :
    Prop where
  integral : r.config.IsIntegral
  ordered : r.config.IsOrderedBy names
  text : r.text? = some (configurationText r.config)
  fingerprint : r.fingerprint? = some (Fingerprint.ofJson r.config)

/-- The first entry of a map that is made of a list. -/
theorem StringMap.get?_ofList_cons {α : Type} {name : String} {value : α}
    {rest : List (String × α)} (h : name ∉ rest.map Prod.fst) :
    (StringMap.ofList ((name, value) :: rest)).get? name = some value := by
  rw [ofList, List.foldl_cons, get?_foldl_of_notMem h, get?_insert, if_pos rfl]

theorem eq_ok_of_toOption {ε α : Type} {e : Except ε α} {a : α} (h : e.toOption = some a) :
    e = .ok a := by
  cases e with
  | error fault => cases h
  | ok b =>
    cases h
    rfl

namespace OperandKind

/-- The names in the configuration of an operand, in an order in which they stand. -/
def configNames : OperandKind → List String
  | server => ServerManifest.configNames
  | agent => AgentManifest.configNames
  | discovery => DiscoveryManifest.configNames
  | driver => []

theorem isWritten_of_rollout? {kind : OperandKind} {inputs : Inputs kind}
    {r : Rollout (OperandPass.workload kind.Spec)} (h : kind.rollout? inputs = some r) :
    r.IsWritten kind.configNames := by
  cases kind with
  | server =>
    obtain ⟨site, -, h⟩ := Option.bind_eq_some_iff.1 h
    cases h
    have apart : ServerManifest.configHashKey ∉
        [ServerManifest.controllerManagerHashKey, defaultContainerKey] := by decide
    exact ⟨ServerManifest.isIntegral_config site, ServerManifest.isOrderedBy_config site, rfl,
      StringMap.get?_ofList_cons apart⟩
  | agent =>
    obtain ⟨site, -, h⟩ := Option.bind_eq_some_iff.1 h
    cases h
    have apart : AgentManifest.configHashKey ∉ [defaultContainerKey] := by decide
    exact ⟨AgentManifest.isIntegral_config site, AgentManifest.isOrderedBy_config site, rfl,
      StringMap.get?_ofList_cons apart⟩
  | discovery =>
    obtain ⟨site, -, h⟩ := Option.bind_eq_some_iff.1 h
    obtain ⟨config, made, h⟩ := Option.bind_eq_some_iff.1 h
    cases h
    obtain ⟨integral, ordered⟩ := DiscoveryManifest.written_config (eq_ok_of_toOption made)
    exact ⟨integral, ordered, rfl, StringMap.get?_ofList_cons (List.not_mem_nil)⟩
  | driver => cases h

theorem hashKey_eq {kind : OperandKind} {a b : Inputs kind}
    {r t : Rollout (OperandPass.workload kind.Spec)} (ha : kind.rollout? a = some r)
    (hb : kind.rollout? b = some t) : r.hashKey = t.hashKey := by
  cases kind with
  | server | agent =>
    obtain ⟨_, -, ha⟩ := Option.bind_eq_some_iff.1 ha
    obtain ⟨_, -, hb⟩ := Option.bind_eq_some_iff.1 hb
    cases ha
    cases hb
    rfl
  | discovery =>
    obtain ⟨_, -, ha⟩ := Option.bind_eq_some_iff.1 ha
    obtain ⟨_, -, ha⟩ := Option.bind_eq_some_iff.1 ha
    obtain ⟨_, -, hb⟩ := Option.bind_eq_some_iff.1 hb
    obtain ⟨_, -, hb⟩ := Option.bind_eq_some_iff.1 hb
    cases ha
    cases hb
    rfl
  | driver => cases ha

end OperandKind

/-! ## What a pass applies -/

section
open Exchange

variable {τ : Type} {server : Request → τ → Reply × τ} {s t : τ} {scene : Scene}
  {steps : List Step}

/-- The workload of a rollout, as a pass applies it. -/
def Rollout.wanted {kind : WorkloadKind} (r : Rollout kind) (settings : Settings) : Wanted :=
  ⟨.workload kind, r.workload, .workloads kind settings.operandNamespace⟩

/-- The steps that are made from a site without asking. -/
theorem OperandPass.eq_stepsAt {σ : Type} [OperandPass σ] {stepsAt : Site σ → List Step}
    (made : ∀ scene spec (o : Operand σ), OperandPass.steps scene spec o =
      .mk (pure ((Site.ofOperand o spec scene.settings).map stepsAt)))
    {o : Operand σ} {m : ManagerSpec} {site : Site σ}
    (placed : Site.ofOperand o m scene.settings = .ok site)
    (ran : run server (OperandPass.steps scene m o).run s = (.ok steps, t)) :
    steps = stepsAt site := by
  rw [made, placed] at ran
  cases congrArg Prod.fst ran
  rfl

theorem DiscoverySpec.eq_stepsAt {o : Operand DiscoverySpec} {m : ManagerSpec}
    {site : Site DiscoverySpec} {config : Json} {driver : Option (Operand DriverSpec)}
    (placed : Site.ofOperand o m scene.settings = .ok site)
    (configured : DiscoveryManifest.config site = .ok config)
    (found : (run server (Call.attempt (Api.find? (.operands .driver) singletonName
      (Operand.read? : Json → Option (Operand DriverSpec)))).run s).1 = .ok driver)
    (ran : run server (OperandPass.steps scene m o).run s = (.ok steps, t)) :
    steps = stepsAt site (pluginName driver) config := by
  cases asked : run server (Call.attempt (Api.find? (.operands .driver) singletonName
    (Operand.read? : Json → Option (Operand DriverSpec)))).run s with
  | mk result u =>
    have fetched : result = .ok driver := (congrArg Prod.fst asked).symm.trans found
    rw [fetched] at asked
    have planned := congrArg Prod.fst ((Attempt.run_bind_of_ok asked).symm.trans ran)
    change (do
      let site ← Site.ofOperand o m scene.settings
      let config ← DiscoveryManifest.config site
      return stepsAt site (pluginName driver) config) = _ at planned
    rw [placed] at planned
    obtain ⟨_, ⟨⟩, planned⟩ := exists_of_bind_ok planned
    obtain ⟨_, again, planned⟩ := exists_of_bind_ok planned
    cases configured.symm.trans again
    cases planned
    rfl

/-- The config map and the workload that are made of a configuration are among the objects that a
pass applies. The discovery provider is made for the storage driver that the pass finds. -/
theorem OperandKind.mem_wanteds_of_rollout? {kind : OperandKind} {inputs : Inputs kind}
    {r : Rollout (OperandPass.workload kind.Spec)} (made : kind.rollout? inputs = some r)
    (same : scene.settings = inputs.settings)
    (found : kind = .discovery → (run server (Call.attempt (Api.find? (.operands .driver)
      singletonName (Operand.read? : Json → Option (Operand DriverSpec)))).run s).1 =
        .ok inputs.driver)
    (ran : run server (OperandPass.steps scene inputs.manager inputs.operand).run s =
      (.ok steps, t)) :
    .configMap inputs.settings.operandNamespace r.configMap ∈ Step.wanteds steps ∧
      r.wanted inputs.settings ∈ Step.wanteds steps := by
  rw [← same]
  cases kind with
  | server =>
    obtain ⟨site, placed, made⟩ := Option.bind_eq_some_iff.1 made
    cases made
    have placed := eq_ok_of_toOption placed
    rw [← same] at placed
    rw [OperandPass.eq_stepsAt (fun _ _ _ => rfl) placed ran, ← (Site.of_ofOperand placed).2]
    constructor
    · simp [ServerSpec.stepsAt, Step.wanteds, Step.of]
    · change Wanted.statefulSet _ _ ∈ _
      simp [ServerSpec.stepsAt, Step.wanteds, Step.of]
  | agent =>
    obtain ⟨site, placed, made⟩ := Option.bind_eq_some_iff.1 made
    cases made
    have placed := eq_ok_of_toOption placed
    rw [← same] at placed
    rw [OperandPass.eq_stepsAt (fun _ _ _ => rfl) placed ran, ← (Site.of_ofOperand placed).2]
    constructor
    · simp [AgentSpec.stepsAt, Step.wanteds, Step.of]
    · change Wanted.daemonSet _ _ ∈ _
      simp [AgentSpec.stepsAt, Step.wanteds, Step.of]
  | discovery =>
    obtain ⟨site, placed, made⟩ := Option.bind_eq_some_iff.1 made
    obtain ⟨config, configured, made⟩ := Option.bind_eq_some_iff.1 made
    cases made
    have placed := eq_ok_of_toOption placed
    rw [← same] at placed
    rw [DiscoverySpec.eq_stepsAt placed (eq_ok_of_toOption configured) (found rfl) ran,
      ← (Site.of_ofOperand placed).2]
    obtain ⟨identities, routes, list, -⟩ := DiscoverySpec.wanteds_stepsAt site
      (DiscoverySpec.pluginName inputs.driver) config
    rw [list]
    constructor
    · simp
    · change Wanted.deployment _ _ ∈ _
      simp
  | driver => cases made

end

/-! ## Differences between two configurations -/

theorem Fingerprint.hexByte_cancel {x y : UInt8} {r s : List Char}
    (h : hexByte x ++ r = hexByte y ++ s) : x = y ∧ r = s := by
  simp only [hexByte, List.cons_append, List.nil_append, List.cons.injEq] at h
  obtain ⟨high, low, rest⟩ := h
  have := x.toNat_lt
  have := y.toNat_lt
  have high := Json.hexDigit_inj _ (by omega) _ (by omega) high
  have low := Json.hexDigit_inj _ (by omega) _ (by omega) low
  exact ⟨UInt8.toNat_inj.1 (by omega), rest⟩

theorem Fingerprint.hex_inj {xs ys : List UInt8} (h : hex xs = hex ys) : xs = ys := by
  have digits : xs.flatMap hexByte = ys.flatMap hexByte := String.ofList_injective h
  clear h
  induction xs generalizing ys with
  | nil =>
    cases ys with
    | nil => rfl
    | cons y ys => cases digits
  | cons x xs ih =>
    cases ys with
    | nil => cases digits
    | cons y ys =>
      rw [List.flatMap_cons, List.flatMap_cons] at digits
      obtain ⟨first, later⟩ := hexByte_cancel digits
      rw [first, ih later]

/-- Where a digest tells two byte strings apart, fingerprints tell the configurations apart. -/
theorem Fingerprint.hashedBytes_eq_of_ofJson_eq {v w : Json} (h : ofJson v = ofJson w)
    (apart : Sha256.digest (hashedBytes v) = Sha256.digest (hashedBytes w) →
      hashedBytes v = hashedBytes w) : hashedBytes v = hashedBytes w := by
  rw [ofJson_eq_ofBytes, ofJson_eq_ofBytes] at h
  exact apart (hex_inj h)

theorem Labels.isSubset_eq_false {existing : Option Labels} {desired : Labels} {key value : String}
    (wanted : desired.get? key = some value) (other : (existing.getD ∅).get? key ≠ some value) :
    Labels.isSubset existing (some desired) = false := by
  rw [Labels.isSubset, List.all_eq_false]
  exact ⟨(key, value), mem_of_lookup_eq_some wanted, by simpa using other⟩

namespace Rollout

variable {kind : WorkloadKind} {names : List String} {a b : Rollout kind}

/-- Texts are equal if and only if the hashed bytes are. -/
theorem text_eq_iff (ha : a.IsWritten names) (hb : b.IsWritten names) :
    a.text? = b.text? ↔ Fingerprint.hashedBytes a.config = Fingerprint.hashedBytes b.config := by
  rw [ha.text, hb.text, Option.some_inj]
  constructor
  · intro h
    rw [Json.pretty_inj ha.integral hb.integral h]
  · intro h
    have forms := Fingerprint.hashedText_inj ha.integral hb.integral (Fingerprint.utf8_inj h)
    rw [Json.eq_of_canonical_eq names _ _ ha.ordered hb.ordered forms]

theorem podAnnotations?_eq {e : WorkloadSpec} (h : a.workload.spec = some e) :
    a.podAnnotations? = (e.template.metadata.getD {}).annotations := by
  rw [podAnnotations?, h, Option.bind_some]
  cases e.template.metadata <;> rfl

/-- Pods that carry another fingerprint than the wanted one are replaced. -/
theorem needsUpdate_of_fingerprint_ne {wanted : String} (key : a.hashKey = b.hashKey)
    (there : b.fingerprint? = some wanted) (other : a.fingerprint? ≠ some wanted) :
    a.workload.needsUpdate b.workload = true := by
  obtain ⟨annotations, annotated, there⟩ := Option.bind_eq_some_iff.1 there
  cases new : b.workload.spec with
  | none => simp [podAnnotations?, new] at annotated
  | some d =>
    cases old : a.workload.spec with
    | none => simp [Workload.needsUpdate, old, new]
    | some e =>
      have outdated : Labels.isSubset a.podAnnotations? b.podAnnotations? = false := by
        rw [annotated]
        apply Labels.isSubset_eq_false there
        intro same
        apply other
        rw [fingerprint?, key]
        cases marked : a.podAnnotations? with
        | none => simp [marked] at same
        | some labels => simpa [marked] using same
      rw [podAnnotations?_eq old, podAnnotations?_eq new] at outdated
      simp [Workload.needsUpdate, old, new, WorkloadSpec.differs, PodTemplate.differs,
        Meta.differs, outdated]

end Rollout

/-- **A change of the configuration is one of the workload.** For two inputs that the objects of an
operand can be made from, the texts of the configuration file are equal if and only if the hashed
bytes are, the pods carry the fingerprints of these bytes, and the workload is replaced whenever the
fingerprints differ; so a text that differs replaces the pods, unless SHA-256 collides on the two
byte strings. -/
theorem OperandKind.rollout_of_change {kind : OperandKind} {a b : Inputs kind}
    {r t : Rollout (OperandPass.workload kind.Spec)} (ha : kind.rollout? a = some r)
    (hb : kind.rollout? b = some t) :
    (r.text?.isSome ∧ t.text?.isSome) ∧
    (r.text? = t.text? ↔
      Fingerprint.hashedBytes r.config = Fingerprint.hashedBytes t.config) ∧
    (r.fingerprint? = some (Fingerprint.ofBytes (Fingerprint.hashedBytes r.config)) ∧
      t.fingerprint? = some (Fingerprint.ofBytes (Fingerprint.hashedBytes t.config))) ∧
    (r.fingerprint? ≠ t.fingerprint? → Managed.needsUpdate r.workload t.workload = true) ∧
    ((Sha256.digest (Fingerprint.hashedBytes r.config) =
        Sha256.digest (Fingerprint.hashedBytes t.config) →
        Fingerprint.hashedBytes r.config = Fingerprint.hashedBytes t.config) →
      r.text? ≠ t.text? → Managed.needsUpdate r.workload t.workload = true) := by
  have writtenA := isWritten_of_rollout? ha
  have writtenB := isWritten_of_rollout? hb
  have texts := Rollout.text_eq_iff writtenA writtenB
  have replaced (differ : r.fingerprint? ≠ t.fingerprint?) :
      Managed.needsUpdate r.workload t.workload = true := by
    apply Rollout.needsUpdate_of_fingerprint_ne (hashKey_eq ha hb) writtenB.fingerprint
    rw [← writtenB.fingerprint]
    exact differ
  refine ⟨⟨by rw [writtenA.text]; rfl, by rw [writtenB.text]; rfl⟩, texts,
    ⟨writtenA.fingerprint, writtenB.fingerprint⟩, replaced, ?_⟩
  intro apart differ
  apply replaced
  intro same
  rw [writtenA.fingerprint, writtenB.fingerprint, Option.some_inj] at same
  exact differ (texts.2 (Fingerprint.hashedBytes_eq_of_ofJson_eq same apart))

/-- A server whose authority has the given subject. -/
def serverInputs (subject : Option CaSubject) : Inputs .server where
  operand :=
    { metadata := { name := some singletonName, uid := some "42" }
      spec := ({ jwtIssuer := "https://issuer.example.org", caSubject := subject } : ServerSpec) }
  manager := ⟨"example.org", "cluster", "spire-bundle"⟩
  settings := { operandNamespace := "spire" }

/-- A subject that is added replaces the pods. -/
theorem rollout_of_change_subject : ∃ r t,
    OperandKind.server.rollout? (serverInputs none) = some r ∧
    OperandKind.server.rollout? (serverInputs (some { commonName := "a\"b" })) = some t ∧
    r.text? ≠ t.text? ∧
    ((Sha256.digest (Fingerprint.hashedBytes r.config) =
        Sha256.digest (Fingerprint.hashedBytes t.config) →
        Fingerprint.hashedBytes r.config = Fingerprint.hashedBytes t.config) →
      Managed.needsUpdate r.workload t.workload = true) := by
  obtain ⟨r, t, ha, hb, configs⟩ : ∃ r t,
      OperandKind.server.rollout? (serverInputs none) = some r ∧
      OperandKind.server.rollout? (serverInputs (some { commonName := "a\"b" })) = some t ∧
      r.config ≠ t.config := ⟨_, _, rfl, rfl, by decide +kernel⟩
  have writtenA := OperandKind.isWritten_of_rollout? ha
  have writtenB := OperandKind.isWritten_of_rollout? hb
  have differ : r.text? ≠ t.text? := by
    rw [writtenA.text, writtenB.text]
    intro same
    exact configs (Json.pretty_inj writtenA.integral writtenB.integral (Option.some.inj same))
  obtain ⟨-, -, -, -, replaced⟩ := OperandKind.rollout_of_change ha hb
  exact ⟨r, t, ha, hb, differ, fun apart => replaced apart differ⟩

end WorkloadIdentity

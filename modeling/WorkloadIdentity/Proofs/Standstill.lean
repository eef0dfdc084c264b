import WorkloadIdentity.Proofs.Overview
import WorkloadIdentity.Proofs.Quiescence

namespace WorkloadIdentity

open Exchange

theorem OperandEntry.read?_toJson {e : OperandEntry} (writable : ∀ c ∈ e.conditions, c.IsWritable) :
    read? e.toJson = some e := by
  obtain ⟨name, kind, ready, message, conditions⟩ := e
  have again := Condition.listOfJson?_listToJson writable
  cases conditions with
  | nil => simp [read?, toJson, Json.record?, Members.required, Members.withDefault]
  | cons c rest =>
    simp [read?, toJson, Json.record?, Members.required, Members.withDefault, again]

namespace ManagerStatus

/-- A status whose conditions can be written. -/
structure IsWritable (status : ManagerStatus) : Prop where
  conditions : ∀ c ∈ status.conditions, c.IsWritable
  operands : ∀ e ∈ status.operands, ∀ c ∈ e.conditions, c.IsWritable

variable {status : ManagerStatus}

/-- A status that is patched over another one is read again. -/
theorem read?_merge (writable : status.IsWritable) (old : Json) :
    read? (old.merge status.toJson) = some status := by
  obtain ⟨members, merged, found⟩ := old.exists_merge_arrays
    [("conditions", status.conditions.map Condition.toJson),
      ("operands", status.operands.map OperandEntry.toJson)] (by simp)
  obtain ⟨conditions, operands, -⟩ := by simpa only [List.forall_mem_cons] using found
  have merged : old.merge status.toJson = .obj members := merged
  rw [merged]
  unfold read? Members.withDefault
  simp only [Json.record?, Option.bind_eq_bind, Option.bind_some, conditions, operands]
  change (Condition.listOfJson? (Condition.listToJson status.conditions)).bind _ = _
  rw [Condition.listOfJson?_listToJson writable.conditions]
  have again : Json.list? OperandEntry.read? (.arr (status.operands.map OperandEntry.toJson)) =
      some status.operands :=
    Json.list?_map fun e he => OperandEntry.read?_toJson (writable.operands e he)
  rw [Option.bind_some, again]
  rfl

end ManagerStatus

/-- What can be read of an operand is reported by conditions that can be written. -/
theorem Report.isWritable_ofConditions {kind : OperandKind} {given : Option (List Condition)}
    (writable : ∀ conditions, given = some conditions → ∀ c ∈ conditions, c.IsWritable) :
    ∀ c ∈ (ofConditions kind given).conditions, c.IsWritable := by
  cases given with
  | none => exact List.forall_mem_nil _
  | some conditions =>
    intro c hc
    obtain ⟨type, -, found⟩ := List.mem_filterMap.1 hc
    exact writable conditions rfl c (List.mem_of_find?_eq_some found)

theorem Health.isWritable_aggregate {now : String} {existing : Option ManagerStatus}
    {generation : Option Int} {reports : List Report} {createOnlyConfigured : Bool}
    (fits : ∀ g, generation = some g → Json.int64? (.int g) = some g)
    (before : ∀ c ∈ (existing.map (·.conditions)).getD [], c.IsWritable)
    (reported : ∀ r ∈ reports, ∀ c ∈ r.conditions, c.IsWritable) :
    (aggregate now existing generation reports createOnlyConfigured).IsWritable := by
  rw [aggregate_eq_write]
  refine ⟨Recorder.isWritable_write fits before now _, fun e he => ?_⟩
  obtain ⟨r, hr, rfl⟩ := List.mem_map.1 he
  exact reported r hr

namespace Operand

variable {σ : Type} [OperandSpec σ] {stored : Option Json} {s : Server}

/-- The conditions of an operand, as they are read from what is stored. -/
def conditionsIn (σ : Type) [OperandSpec σ] :
    Option Json → Except Fault (Option (List Condition))
  | none => .ok none
  | some v =>
    match (Operand.read? v : Option (Operand σ)) with
    | some o => .ok (some o.conditions)
    | none => .error (.api .unreadable)

theorem isWritable_conditionsIn {conditions : List Condition}
    (h : conditionsIn σ stored = .ok (some conditions)) : ∀ c ∈ conditions, c.IsWritable := by
  cases stored with
  | none => cases h
  | some v =>
    unfold conditionsIn at h
    dsimp only at h
    cases read : (Operand.read? v : Option (Operand σ)) with
    | none =>
      rw [read] at h
      cases h
    | some o =>
      rw [read] at h
      cases h
      exact isWritable_conditions read

/-- What is read of an operand depends on what is stored of it only. -/
theorem run_conditionsOf (untroubled : s.troubles = []) :
    run Server.answer (Manager.conditionsOf σ).run s =
      (conditionsIn σ (s.objects.get? (path σ)),
        s.asking [{ method := .get, path := path σ }]) := by
  have fetched : run Server.answer (Call.attempt (Api.find? (.operands (OperandSpec.kind σ))
      singletonName (Operand.read? : Json → Option (Operand σ)))).run s = _ :=
    CustomKind.run_find? (.operand (OperandSpec.kind σ)) _ s
  have single := CustomKind.isCollection_path (.operand (OperandSpec.kind σ))
  unfold Manager.conditionsOf
  dsimp only
  rw [ExceptT.run_bind, run_bind_eq, fetched, Server.answer_get untroubled]
  cases there : s.objects.get? (path σ) with
  | none =>
    rw [Server.fetched_of_none single there]
    rfl
  | some v =>
    rw [Server.fetched_of_some there, Api.readReply_value]
    unfold conditionsIn
    dsimp only
    cases (Operand.read? v : Option (Operand σ)) <;> rfl

end Operand

namespace Manager

variable {s t : Server} {kinds : List OperandKind} {asked : List Request}
  {given : OperandKind → Option (List Condition)}

/-- The path of the resource of an operand. -/
abbrev place (kind : OperandKind) : String := CustomKind.path (.operand kind)

/-- The request for the resource of an operand. -/
def fetch (kind : OperandKind) : Request := { method := .get, path := place kind }

theorem place_ne_manager (kind : OperandKind) : place kind ≠ CustomKind.manager.path := by
  intro e
  cases CustomKind.eq_of_path_eq e

theorem run_operandConditions (untroubled : s.troubles = []) (kind : OperandKind) :
    run Server.answer (operandConditions kind).run s =
      (Operand.conditionsIn kind.Spec (s.objects.get? (place kind)), s.asking [fetch kind]) := by
  cases kind <;> exact Operand.run_conditionsOf untroubled

theorem sent_operandConditions (kind : OperandKind) (s : Server) :
    sent Server.answer (operandConditions kind).run s = [fetch kind] := by
  have fetched (σ : Type) [OperandSpec σ] : sent Server.answer (conditionsOf σ).run s =
      [{ method := .get, path := Operand.path σ }] := by
    refine (Attempt.sent_bind_pure _ _ s).trans ?_
    exact CustomKind.sent_find? (.operand (OperandSpec.kind σ)) _ s
  cases kind <;> exact fetched _

/-- What has been read is what is stored, and reading has changed nothing. -/
theorem reads_iff_stored (untroubled : s.troubles = []) :
    Health.Reads Server.answer operandConditions given kinds s asked t ↔
      (∀ kind ∈ kinds, Operand.conditionsIn kind.Spec (s.objects.get? (place kind)) =
        .ok (given kind)) ∧
      asked = kinds.map fetch ∧ t = s.asking (kinds.map fetch).reverse := by
  constructor
  · intro reads
    induction reads with
    | nil s => exact ⟨List.forall_mem_nil _, rfl, rfl⟩
    | @cons kind rest s t u asked first later ih =>
      rw [run_operandConditions untroubled, Prod.mk.injEq] at first
      obtain ⟨here, rfl⟩ := first
      obtain ⟨stored, rfl, rfl⟩ := ih untroubled
      refine ⟨List.forall_mem_cons.2 ⟨here, stored⟩, ?_, ?_⟩
      · rw [sent_operandConditions]
        rfl
      · rw [Server.asking_asking, List.map_cons, List.reverse_cons]
  · rintro ⟨stored, rfl, rfl⟩
    induction kinds generalizing s with
    | nil => exact .nil s
    | cons kind rest ih =>
      obtain ⟨here, stored⟩ := List.forall_mem_cons.1 stored
      have first := run_operandConditions untroubled kind
      rw [here] at first
      have later := Health.Reads.cons first (ih (s := s.asking [fetch kind]) untroubled stored)
      rw [sent_operandConditions, Server.asking_asking] at later
      rw [List.map_cons, List.reverse_cons]
      exact later

section
variable {τ : Type} {server : Request → τ → Reply × τ} {scene : Scene} {m : Manager}
  {status : ManagerStatus} {s t : τ} {asked : List Request}

/-- A pass that finds the status as it should be writes nothing. -/
theorem run_sync_of_eq
    (collected : run server (collectStatus operandConditions scene m).run s = (.ok status, t))
    (same : m.status = some status) : run server (sync scene m).run s = (.ok (), t) := by
  unfold sync
  rw [Attempt.run_bind_of_ok collected, if_neg (not_not_intro same)]
  rfl

theorem sent_sync_of_eq
    (collected : run server (collectStatus operandConditions scene m).run s = (.ok status, t))
    (same : m.status = some status) : sent server (sync scene m).run s =
      sent server (collectStatus operandConditions scene m).run s := by
  unfold sync
  rw [Attempt.sent_bind_of_ok collected, if_neg (not_not_intro same)]
  exact List.append_nil _

theorem run_sync_of_ne
    (collected : run server (collectStatus operandConditions scene m).run s = (.ok status, t))
    (other : m.status ≠ some status) :
    run server (sync scene m).run s = run server (patchStatus m.metadata.anyName status).run t := by
  unfold sync
  rw [Attempt.run_bind_of_ok collected, if_pos other]

variable (server scene s) in
/-- A pass over the manager has the result of bringing its status up to date. -/
theorem run_look (named : m.metadata.anyName = singletonName) (elapsed : Nat) (ledger : Ledger) :
    ∃ ledger', run server (m.look scene elapsed ledger) s =
      (((run server (sync scene m).run s).1.map fun _ => .after scene.settings.intervalSeconds,
        ledger'), (run server (sync scene m).run s).2) := by
  unfold look
  dsimp only
  rw [if_neg (not_not_intro named), run_bind_eq]
  cases (run server (sync scene m).run s).1 <;> exact ⟨_, rfl⟩

theorem sent_look (named : m.metadata.anyName = singletonName) (elapsed : Nat) (ledger : Ledger) :
    sent server (m.look scene elapsed ledger) s = sent server (sync scene m).run s := by
  unfold look
  dsimp only
  rw [if_neg (not_not_intro named), sent_bind]
  cases (run server (sync scene m).run s).1 <;> exact List.append_nil _

end

section
variable {s t u : Server} {m m' : Manager} {settings : Settings} {status : ManagerStatus} {v : Json}
  {given : OperandKind → Option (List Condition)}

/-- The manager as it is stored. -/
def stored? (s : Server) : Option Manager := (s.objects.get? CustomKind.manager.path).bind read?

theorem isWritable_conditions (read : Manager.read? v = some m) :
    ∀ c ∈ (m.status.map (·.conditions)).getD [], c.IsWritable := by
  obtain ⟨members, inner, -, -, -, -, status⟩ := Custom.exists_of_read? read
  cases had : m.status with
  | none => exact List.forall_mem_nil _
  | some st =>
    rw [had] at status
    obtain ⟨w, -, read⟩ := Members.exists_of_optional status
    simp only [ManagerStatus.read?, Option.bind_eq_bind, Option.bind_eq_some_iff, Option.pure_def,
      Option.some.injEq] at read
    obtain ⟨ms, -, conditions, read, operands, -, rfl⟩ := read
    exact Condition.isWritable_of_withDefault read

/-- A status that is patched into the manager is the status it has then, and nothing else that a
pass looks at has changed. -/
theorem run_patchStatus (untroubled : s.troubles = [])
    (there : s.objects.get? CustomKind.manager.path = some v) (read : Manager.read? v = some m)
    (writable : status.IsWritable) :
    ∃ (m' : Manager), m.metadata.Continues m'.metadata ∧ m'.status = some status ∧
      ∃ t, run Server.answer (patchStatus singletonName status).run s = (.ok (), t) ∧
        t.troubles = [] ∧ stored? t = some m' ∧
        ∀ path ≠ CustomKind.manager.path, t.objects.get? path = s.objects.get? path := by
  obtain ⟨metadata, again, continues⟩ :=
    Custom.read?_patched read (ManagerStatus.read?_merge writable) (s.version + 1)
  have patched : run Server.answer (Call.attempt (Api.patchStatus .managers singletonName
      (.obj [("status", status.toJson)]) Manager.read?)).run s = _ :=
    CustomKind.run_patchStatus .manager untroubled there again
  have ended := Attempt.run_bind_of_ok (f := fun _ => pure ()) patched
  refine ⟨{ metadata, spec := m.spec, status := some status }, continues, rfl, _, ended, untroubled,
    ?_, ?_⟩
  · unfold stored?
    rw [StringMap.get?_insert, if_pos rfl]
    exact again
  · intro path ne
    exact (StringMap.get?_insert ..).trans (if_neg ne)

/-- A pass over a manager whose status sums up the operands as they are stored only fetches them. -/
theorem look_of_current {now later : String} {existing : Option ManagerStatus}
    (named : m.metadata.anyName = singletonName) (untroubled : s.troubles = [])
    (stored : ∀ kind ∈ OperandKind.all,
      Operand.conditionsIn kind.Spec (s.objects.get? (place kind)) = .ok (given kind))
    (current : m.status = some (Health.aggregate now existing m.metadata.generation
      (Health.reportsOn given) settings.createOnly)) (elapsed : Nat) (ledger : Ledger) :
    (run Server.answer (m.look ⟨settings, later⟩ elapsed ledger) s).1.1 =
        .ok (.after settings.intervalSeconds) ∧
      sent Server.answer (m.look ⟨settings, later⟩ elapsed ledger) s =
        OperandKind.all.map fetch := by
  have reads := (reads_iff_stored untroubled).2 ⟨stored, rfl, rfl⟩
  obtain ⟨collected, asks⟩ := reads.collectStatus ⟨settings, later⟩ m
  rw [current, Health.aggregate_again] at collected
  obtain ⟨ledger', ran⟩ := run_look Server.answer ⟨settings, later⟩ s named elapsed ledger
  refine ⟨?_, ?_⟩
  · rw [ran, run_sync_of_eq collected current]
    rfl
  · rw [sent_look named, sent_sync_of_eq collected current, asks]

/-- If the operands can be read as they are stored, a pass succeeds, and behind it the status sums
them up. -/
theorem look_of_known (settings : Settings) (now : String) (elapsed : Nat) (ledger : Ledger)
    (untroubled : s.troubles = []) (stored : stored? s = some m)
    (named : m.metadata.anyName = singletonName)
    (known : ∀ kind ∈ OperandKind.all,
      Operand.conditionsIn kind.Spec (s.objects.get? (place kind)) = .ok (given kind))
    (ran : (run Server.answer (m.look ⟨settings, now⟩ elapsed ledger) s).2 = t) :
    (run Server.answer (m.look ⟨settings, now⟩ elapsed ledger) s).1.1 =
        .ok (.after settings.intervalSeconds) ∧
      t.troubles = [] ∧ ∃ m', stored? t = some m' ∧ m.metadata.Continues m'.metadata ∧
        (∀ kind, t.objects.get? (place kind) = s.objects.get? (place kind)) ∧
        m'.status = some (Health.aggregate now m.status m'.metadata.generation
          (Health.reportsOn given) settings.createOnly) := by
  obtain ⟨ledger', looked⟩ := run_look Server.answer ⟨settings, now⟩ s named elapsed ledger
  have reads := (reads_iff_stored untroubled).2 ⟨known, rfl, rfl⟩
  obtain ⟨collected, -⟩ := reads.collectStatus ⟨settings, now⟩ m
  rw [looked] at ran ⊢
  by_cases same : m.status = some (Health.aggregate now m.status m.metadata.generation
    (Health.reportsOn given) settings.createOnly)
  · rw [run_sync_of_eq collected same] at ran ⊢
    subst ran
    exact ⟨rfl, untroubled, m, stored, ⟨rfl, rfl, rfl, rfl⟩, fun _ => rfl, same⟩
  · obtain ⟨v, there, read⟩ := Option.bind_eq_some_iff.1 stored
    obtain ⟨members, inner, -, -, readMeta, -, -⟩ := Custom.exists_of_read? read
    have writable : (Health.aggregate now m.status m.metadata.generation
        (Health.reportsOn given) settings.createOnly).IsWritable := by
      refine Health.isWritable_aggregate (Meta.generation_fits readMeta)
        (isWritable_conditions read) fun r hr => ?_
      obtain ⟨kind, mem, rfl⟩ := List.mem_map.1 hr
      refine Report.isWritable_ofConditions fun conditions found => ?_
      exact Operand.isWritable_conditionsIn (found ▸ known kind mem)
    obtain ⟨m', continues, status, t', patched, quiet, stored', elsewhere⟩ :=
      run_patchStatus (s := s.asking (OperandKind.all.map fetch).reverse) untroubled there read
        writable
    rw [run_sync_of_ne collected same, named, patched] at ran ⊢
    subst ran
    refine ⟨rfl, quiet, m', stored', continues, fun kind => elsewhere _ (place_ne_manager kind), ?_⟩
    rw [status, continues.generation]

/-- A pass succeeds only if the operands can be read as they are stored. -/
theorem known_of_succeeded {scene : Scene} {elapsed : Nat} {ledger : Ledger} {revisit : Revisit}
    (untroubled : s.troubles = []) (named : m.metadata.anyName = singletonName)
    (succeeded : (run Server.answer (m.look scene elapsed ledger) s).1.1 = .ok revisit) :
    ∃ given : OperandKind → Option (List Condition), ∀ kind ∈ OperandKind.all,
      Operand.conditionsIn kind.Spec (s.objects.get? (place kind)) = .ok (given kind) := by
  have once : OperandKind.all.Nodup := by decide
  rcases Health.reads_cases Server.answer operandConditions once s with
    ⟨given, asked, u, reads⟩ |
    ⟨before, kind, after, given, asked, u, fault, v, order, reads, failed⟩
  · exact ⟨given, ((reads_iff_stored untroubled).1 reads).1⟩
  · obtain ⟨collected, -⟩ := reads.collectStatus_of_error order failed scene m
    have ended : run Server.answer (sync scene m).run s = (.error fault, v) :=
      Attempt.run_bind_of_error collected
    obtain ⟨ledger', looked⟩ := run_look Server.answer scene s named elapsed ledger
    rw [looked, ended] at succeeded
    cases succeeded

end

end Manager

/-- **The manager comes to rest.** A status that is written again from the same reports is the same,
at whatever times it is written. So once a pass over the manager has succeeded, a pass over the
manager as it is then, with unchanged operands, succeeds as well and sends nothing but the requests
for the operands. -/
theorem manager_comes_to_rest :
    (∀ (now later : String) (existing : Option ManagerStatus) (generation : Option Int)
        (reports : List Report) (createOnlyConfigured : Bool),
      Health.aggregate later (some (Health.aggregate now existing generation reports
          createOnlyConfigured)) generation reports createOnlyConfigured =
        Health.aggregate now existing generation reports createOnlyConfigured) ∧
    ∀ (settings : Settings) (s t : Server) (m : Manager) (now : String) (elapsed : Nat)
        (ledger : Ledger) (revisit : Revisit),
      s.troubles = [] → Manager.stored? s = some m → m.metadata.anyName = singletonName →
      (run Server.answer (m.look ⟨settings, now⟩ elapsed ledger) s).1.1 = .ok revisit →
      (run Server.answer (m.look ⟨settings, now⟩ elapsed ledger) s).2 = t →
      ∃ m', Manager.stored? t = some m' ∧
        ∀ u, t.Shows (fun path => ∃ kind : CustomKind, path = kind.path) u →
          Manager.stored? u = some m' ∧
          ∀ (later : String) (elapsed' : Nat) (ledger' : Ledger),
            (run Server.answer (m'.look ⟨settings, later⟩ elapsed' ledger') u).1.1 =
                .ok (.after settings.intervalSeconds) ∧
              sent Server.answer (m'.look ⟨settings, later⟩ elapsed' ledger') u =
                OperandKind.all.map fun kind =>
                  { method := .get, path := CustomKind.path (.operand kind) } := by
  refine ⟨Health.aggregate_again, fun settings s t m now elapsed ledger revisit untroubled stored
    named succeeded ran => ?_⟩
  obtain ⟨given, known⟩ := Manager.known_of_succeeded untroubled named succeeded
  obtain ⟨-, -, m', stored', continues, kept, current⟩ :=
    Manager.look_of_known settings now elapsed ledger untroubled stored named known ran
  refine ⟨m', stored', fun u shows => ⟨?_, fun later elapsed' ledger' => ?_⟩⟩
  · rw [Manager.stored?, shows.objects _ ⟨.manager, rfl⟩]
    exact stored'
  · refine Manager.look_of_current (continues.anyName.trans named) shows.untroubled
      (fun kind mem => ?_) current elapsed' ledger'
    rw [shows.objects _ ⟨.operand kind, rfl⟩, kept]
    exact known kind mem

/-- The manager of a server with a storage driver, as it is read. -/
def driverManager : Manager :=
  { metadata := { name := some singletonName }, spec := { trustDomain := "example.org" } }

/-- A pass over it, which writes the first status. -/
def driverManagerPass : (Except Fault Revisit × Ledger) × Server :=
  run Server.answer
    (driverManager.look ⟨{ operandNamespace := "spire" }, "2026-01-01T00:00:00Z"⟩ 0 {}) driverServer

theorem manager_comes_to_rest_driver :
    driverManager.status = none ∧ driverManagerPass.1.1 = .ok (.after 300) ∧
    ∃ m', Manager.stored? driverManagerPass.2 = some m' ∧ ∀ later elapsed ledger,
      sent Server.answer (m'.look ⟨{ operandNamespace := "spire" }, later⟩ elapsed ledger)
          driverManagerPass.2 =
        OperandKind.all.map fun kind =>
          { method := .get, path := CustomKind.path (.operand kind) } := by
  have stored : Manager.stored? driverServer = some driverManager := rfl
  have known : ∀ kind ∈ OperandKind.all, Operand.conditionsIn kind.Spec
      (driverServer.objects.get? (Manager.place kind)) =
        .ok (if kind = .driver then some [] else none) := by
    intro kind _
    cases kind <;> rfl
  unfold driverManagerPass
  obtain ⟨succeeded, quiet, -⟩ := Manager.look_of_known { operandNamespace := "spire" }
    "2026-01-01T00:00:00Z" 0 {} rfl stored rfl known rfl
  obtain ⟨m', stored', rests⟩ :=
    manager_comes_to_rest.2 _ _ _ _ _ _ _ _ rfl stored rfl succeeded rfl
  refine ⟨rfl, succeeded, m', stored', fun later elapsed ledger => ?_⟩
  exact ((rests _ (Server.shows_self quiet)).2 later elapsed ledger).2

end WorkloadIdentity

import WorkloadIdentity.Pass.Manager
import WorkloadIdentity.Proofs.Sending
import WorkloadIdentity.Proofs.Verdicts

namespace WorkloadIdentity

open Exchange

namespace Stand

/-- The operand has a `Ready` condition, and the first one is true. -/
def IsReady (given : Option (List Condition)) : Prop :=
  ∃ c, given.bind (Condition.find? "Ready") = some c ∧ c.status = .isTrue

/-- The first `Ready` condition is not true, for a reason that is a failure. -/
def IsFailed (given : Option (List Condition)) : Prop :=
  ∃ c, given.bind (Condition.find? "Ready") = some c ∧ c.status ≠ .isTrue ∧
    c.reason ∈ ["Failed", "ZTWIMNotFound", "InvalidSpec"]

def IsProgressing (given : Option (List Condition)) : Prop := ¬ IsReady given ∧ ¬ IsFailed given

/-- The operand has a `CreateOnlyMode` condition, and the first one is true. -/
def IsCreateOnly (given : Option (List Condition)) : Prop :=
  ∃ c, given.bind (Condition.find? "CreateOnlyMode") = some c ∧ c.status = .isTrue

theorem IsFailed.not_isReady {given : Option (List Condition)} (failed : IsFailed given) :
    ¬ IsReady given := by
  rintro ⟨c, found, isTrue⟩
  obtain ⟨d, here, notTrue, -⟩ := failed
  rw [found, Option.some.injEq] at here
  exact notTrue (here ▸ isTrue)

end Stand

namespace Report

variable {kind : OperandKind} {given : Option (List Condition)} {ready : Option Condition}

/-- An operand without a resource is like one that has not reported yet. -/
theorem health_eq_healthOf (kind : OperandKind) (given : Option (List Condition)) :
    (ofConditions kind given).health = healthOf (given.bind (Condition.find? "Ready")) := by
  cases given <;> rfl

theorem healthOf_eq_ready_iff :
    healthOf ready = .ready ↔ ∃ c, ready = some c ∧ c.status = .isTrue := by
  rcases ready with _ | c
  · simp [healthOf]
  · by_cases h : c.status = .isTrue
    · simp [healthOf, Condition.isTrue, h]
    · by_cases failed : c.reason ∈ failureReasons <;> simp [healthOf, Condition.isTrue, h, failed]

theorem healthOf_eq_failed_iff : healthOf ready = .failed ↔
    ∃ c, ready = some c ∧ c.status ≠ .isTrue ∧ c.reason ∈ failureReasons := by
  rcases ready with _ | c
  · simp [healthOf]
  · by_cases h : c.status = .isTrue
    · simp [healthOf, Condition.isTrue, h]
    · by_cases failed : c.reason ∈ failureReasons <;> simp [healthOf, Condition.isTrue, h, failed]

theorem health_eq_ready_iff :
    (ofConditions kind given).health = .ready ↔ Stand.IsReady given := by
  rw [health_eq_healthOf, healthOf_eq_ready_iff, Stand.IsReady]

theorem health_eq_failed_iff :
    (ofConditions kind given).health = .failed ↔ Stand.IsFailed given := by
  rw [health_eq_healthOf, healthOf_eq_failed_iff]
  rfl

theorem health_eq_progressing_iff :
    (ofConditions kind given).health = .progressing ↔ Stand.IsProgressing given := by
  have ready : (ofConditions kind given).health = .ready ↔ _ := health_eq_ready_iff
  have failed : (ofConditions kind given).health = .failed ↔ _ := health_eq_failed_iff
  rw [Stand.IsProgressing, ← ready, ← failed]
  cases (ofConditions kind given).health <;> decide

theorem createOnly_iff :
    (ofConditions kind given).createOnly = true ↔ Stand.IsCreateOnly given := by
  cases given with
  | none => simp [ofConditions, Stand.IsCreateOnly]
  | some conditions =>
    change (Condition.find? "CreateOnlyMode" conditions).any Condition.isTrue = true ↔ _
    rw [Option.any_eq_true]
    simp [Stand.IsCreateOnly, Condition.isTrue]

theorem kind_ofConditions (kind : OperandKind) (given : Option (List Condition)) :
    (ofConditions kind given).kind = kind := by
  cases given <;> rfl

end Report

/-- The first condition of a type tells, for a generation of the resource, whether `p`. -/
def Condition.Decides (conditions : List Condition) (generation : Option Int) (type : String)
    (p : Prop) : Prop :=
  ∃ c, find? type conditions = some c ∧ c.observedGeneration = generation ∧
    (p → c.status = .isTrue) ∧ (¬ p → c.status = .isFalse)

/-- The line of an operand in a message. -/
def OperandKind.line (kind : OperandKind) (given : Option (List Condition)) : String :=
  kind.kindName ++ " (" ++ (Report.ofConditions kind given).message ++ ")"

/-- A text lists the operands of which something is so, in their order. -/
def Lists (given : OperandKind → Option (List Condition)) (p : Option (List Condition) → Prop)
    (text : String) : Prop :=
  ∃ kinds : List OperandKind, kinds.Sublist OperandKind.all ∧
    (∀ kind, kind ∈ kinds ↔ p (given kind)) ∧
    text = "; ".intercalate (kinds.map fun kind => kind.line (given kind))

/-- A status sums up the operands, whose conditions are given as far as they have a resource. -/
structure SumsUp (given : OperandKind → Option (List Condition)) (createOnlyConfigured : Bool)
    (generation : Option Int) (before : List Condition) (status : ManagerStatus) : Prop where
  ready : Condition.Decides status.conditions generation "Ready"
    (∀ kind, Stand.IsReady (given kind))
  /-- If the operands are not all ready, those that have failed are to blame. -/
  blamed : (∃ kind, Stand.IsFailed (given kind)) → ∃ text, Lists given Stand.IsFailed text ∧
    Condition.Says status.conditions generation
      ⟨"Ready", .isFalse, "OperandsFailed", "Failed operands: " ++ text⟩
  /-- If none has failed, those that make progress are waited for. -/
  awaited : ¬ (∀ kind, Stand.IsReady (given kind)) → ¬ (∃ kind, Stand.IsFailed (given kind)) →
    ∃ text, Lists given Stand.IsProgressing text ∧
      Condition.Says status.conditions generation
        ⟨"Ready", .isFalse, "OperandsProgressing", "Operands not ready: " ++ text⟩
  degraded : Condition.Decides status.conditions generation "Degraded"
    (∃ kind, Stand.IsFailed (given kind))
  createOnly : Condition.Decides status.conditions generation "CreateOnlyMode"
    (createOnlyConfigured = true ∨ ∃ kind, Stand.IsCreateOnly (given kind))
  upgradeable : Condition.Decides status.conditions generation "Upgradeable"
    (¬ (∃ kind, Stand.IsFailed (given kind)) ∧
      ¬ (createOnlyConfigured = true ∨ ∃ kind, Stand.IsCreateOnly (given kind)))
  others : ∀ type ∉ ["Ready", "Degraded", "CreateOnlyMode", "Upgradeable"],
    Condition.InPlace type before status.conditions
  operands : ∃ entry : OperandKind → OperandEntry, status.operands = OperandKind.all.map entry ∧
    ∀ kind, (entry kind).name = "cluster" ∧ (entry kind).kind = kind.kindName ∧
      ((entry kind).ready = "true" ↔ Stand.IsReady (given kind)) ∧
      ((entry kind).ready = "false" ↔ ¬ Stand.IsReady (given kind))

namespace Condition

variable {conditions : List Condition} {generation : Option Int} {n : Note} {p : Prop}

/-- A note on a type tells whether `p` if its status does. -/
theorem Says.decides (h : Says conditions generation n) {type : String} (typed : n.type = type)
    {status : Bool} (told : n.status = .ofBool status) (iff : status = true ↔ p) :
    Decides conditions generation type p := by
  obtain ⟨c, found, same, -, -, observed⟩ := h
  refine ⟨c, typed ▸ found, observed, fun holds => ?_, fun fails => ?_⟩
  · rw [same, told, iff.2 holds]
    rfl
  · rw [same, told, eq_false_of_ne_true fun h => fails (iff.1 h)]
    rfl

end Condition

namespace Health

variable {given : OperandKind → Option (List Condition)}

/-- The reports on the operands. -/
def reportsOn (given : OperandKind → Option (List Condition)) : List Report :=
  OperandKind.all.map fun kind => Report.ofConditions kind (given kind)

theorem allReady_iff : allReady (reportsOn given) = true ↔ ∀ kind, Stand.IsReady (given kind) := by
  simp [allReady, reportsOn, Report.health_eq_ready_iff, OperandKind.mem_all]

theorem anyFailed_iff_exists :
    anyFailed (reportsOn given) = true ↔ ∃ kind, Stand.IsFailed (given kind) := by
  simp [anyFailed, reportsOn, Report.health_eq_failed_iff, OperandKind.mem_all]

theorem anyCreateOnly_iff {createOnlyConfigured : Bool} :
    anyCreateOnly (reportsOn given) createOnlyConfigured = true ↔
      createOnlyConfigured = true ∨ ∃ kind, Stand.IsCreateOnly (given kind) := by
  simp [anyCreateOnly, reportsOn, Report.createOnly_iff, OperandKind.mem_all]

/-- A message lists the operands of one health. -/
theorem lists_listed {health : Health} {p : Option (List Condition) → Prop}
    (iff : ∀ kind, (Report.ofConditions kind (given kind)).health = health ↔ p (given kind)) :
    Lists given p (listed (reportsOn given) health) := by
  refine ⟨OperandKind.all.filter fun kind =>
    (Report.ofConditions kind (given kind)).health = health, List.filter_sublist, ?_, ?_⟩
  · intro kind
    simp [kind.mem_all, iff]
  · rw [listed, reportsOn, List.filter_map, List.map_map]
    refine congrArg _ (List.map_congr_left fun kind _ => ?_)
    rw [Function.comp_apply, Report.kind_ofConditions, OperandKind.line]

end Health

section
variable (given : OperandKind → Option (List Condition)) (now : String)
  (existing : Option ManagerStatus) (generation : Option Int) (createOnlyConfigured : Bool)

/-- The status that is written from the reports on the operands sums them up. -/
theorem sumsUp_aggregate :
    SumsUp given createOnlyConfigured generation ((existing.map (·.conditions)).getD [])
      (Health.aggregate now existing generation (Health.reportsOn given) createOnlyConfigured) where
  ready := (Health.says_readyNote ..).decides (Health.type_readyNote _) (Health.status_readyNote _)
    Health.allReady_iff
  blamed failed := by
    have anyFailed := Health.anyFailed_iff_exists.2 failed
    have notAllReady : ¬ Health.allReady (Health.reportsOn given) = true := by
      intro all
      obtain ⟨kind, failed⟩ := failed
      exact failed.not_isReady (Health.allReady_iff.1 all kind)
    have said := Health.says_readyNote now existing generation (Health.reportsOn given)
      createOnlyConfigured
    rw [Health.readyNote, if_neg notAllReady, if_pos anyFailed] at said
    exact ⟨_, Health.lists_listed fun _ => Report.health_eq_failed_iff, said⟩
  awaited notReady notFailed := by
    have said := Health.says_readyNote now existing generation (Health.reportsOn given)
      createOnlyConfigured
    rw [Health.readyNote, if_neg (notReady ∘ Health.allReady_iff.1),
      if_neg (notFailed ∘ Health.anyFailed_iff_exists.1)] at said
    exact ⟨_, Health.lists_listed fun _ => Report.health_eq_progressing_iff, said⟩
  degraded := (Health.says_degradedNote ..).decides (Health.type_degradedNote _)
    (Health.status_degradedNote _) Health.anyFailed_iff_exists
  createOnly := (Health.says_modeNote ..).decides (Health.type_modeNote _)
    (Health.status_modeNote _) Health.anyCreateOnly_iff
  upgradeable := by
    refine (Health.says_upgradeableNote ..).decides (Health.type_upgradeableNote _ _)
      (Health.status_upgradeableNote _ _) ?_
    rw [Bool.and_eq_true, Bool.not_eq_true', Bool.not_eq_true', ← Bool.not_eq_true,
      ← Bool.not_eq_true, Health.anyFailed_iff_exists, Health.anyCreateOnly_iff]
  others type other := Health.inPlace_aggregate other
  operands := by
    refine ⟨fun kind => (Report.ofConditions kind (given kind)).entry, List.map_map, ?_⟩
    intro kind
    have ready : (Report.ofConditions kind (given kind)).health = .ready ↔ _ :=
      Report.health_eq_ready_iff
    refine ⟨rfl, congrArg OperandKind.kindName (Report.kind_ofConditions kind (given kind)), ?_⟩
    by_cases isReady : (Report.ofConditions kind (given kind)).health = .ready
    · simp [Report.entry, isReady, ready.1 isReady]
    · simp [Report.entry, isReady, mt ready.2 isReady]

end

namespace Health

variable {τ : Type} {server : Request → τ → Reply × τ}
  {read : OperandKind → Attempt (Option (List Condition))}
  {given given' : OperandKind → Option (List Condition)} {kind : OperandKind}
  {kinds : List OperandKind} {s t u : τ} {asked : List Request}

/-- The operands of some kinds have been read one after the other, with the given results and by the
requests that were asked. -/
inductive Reads (server : Request → τ → Reply × τ)
    (read : OperandKind → Attempt (Option (List Condition)))
    (given : OperandKind → Option (List Condition)) :
    List OperandKind → τ → List Request → τ → Prop
  | nil (s : τ) : Reads server read given [] s [] s
  | cons {kind : OperandKind} {rest : List OperandKind} {s t u : τ} {asked : List Request}
      (first : run server (read kind).run s = (.ok (given kind), t))
      (later : Reads server read given rest t asked u) :
      Reads server read given (kind :: rest) s (sent server (read kind).run s ++ asked) u

/-- What has been read depends on the kinds that have been read. -/
theorem Reads.congr (same : ∀ kind ∈ kinds, given' kind = given kind)
    (h : Reads server read given kinds s asked t) : Reads server read given' kinds s asked t := by
  induction h with
  | nil s => exact .nil s
  | cons first later ih =>
    obtain ⟨here, rest⟩ := List.forall_mem_cons.1 same
    exact .cons (first.trans (by rw [here])) (ih rest)

/-- One more kind is read first. -/
theorem Reads.extend {conditions : Option (List Condition)} (apart : kind ∉ kinds)
    (first : run server (read kind).run s = (.ok conditions, t))
    (later : Reads server read given kinds t asked u) :
    Reads server read (fun k => if k = kind then conditions else given k) (kind :: kinds) s
      (sent server (read kind).run s ++ asked) u := by
  refine .cons (first.trans (by rw [if_pos rfl])) (later.congr fun k hk => if_neg ?_)
  exact fun e => apart (e ▸ hk)

/-- Kinds that have been read are reported on, by no other requests. -/
theorem Reads.collect (h : Reads server read given kinds s asked t) :
    run server (collect read kinds).run s =
        (.ok (kinds.map fun kind => Report.ofConditions kind (given kind)), t) ∧
      sent server (collect read kinds).run s = asked := by
  induction h with
  | nil s => exact ⟨rfl, rfl⟩
  | cons first later ih =>
    obtain ⟨ran, asks⟩ := ih
    unfold Health.collect
    refine ⟨?_, ?_⟩
    · rw [Attempt.run_bind_of_ok first, Attempt.run_bind_of_ok ran]
      rfl
    · rw [Attempt.sent_bind_of_ok first, Attempt.sent_bind_of_ok ran, asks]
      exact congrArg _ (List.append_nil _)

/-- A kind that cannot be read ends the reading, and no later one is read. -/
theorem Reads.collect_of_error {fault : Fault} (h : Reads server read given kinds s asked t)
    (failed : run server (read kind).run t = (.error fault, u)) (after : List OperandKind) :
    run server (Health.collect read (kinds ++ kind :: after)).run s = (.error fault, u) ∧
      sent server (Health.collect read (kinds ++ kind :: after)).run s =
        asked ++ sent server (read kind).run t := by
  induction h with
  | nil s =>
    unfold Health.collect
    exact ⟨Attempt.run_bind_of_error failed, Attempt.sent_bind_of_error failed⟩
  | cons first later ih =>
    obtain ⟨ran, asks⟩ := ih failed
    rw [List.cons_append]
    unfold Health.collect
    refine ⟨?_, ?_⟩
    · rw [Attempt.run_bind_of_ok first, Attempt.run_bind_of_error ran]
    · rw [Attempt.sent_bind_of_ok first, Attempt.sent_bind_of_error ran, asks, List.append_assoc]

/-- What has been read is summed up. -/
theorem Reads.collectStatus (h : Reads server read given OperandKind.all s asked t) (scene : Scene)
    (m : Manager) :
    run server (Manager.collectStatus read scene m).run s =
        (.ok (aggregate scene.now m.status m.metadata.generation (reportsOn given)
          scene.settings.createOnly), t) ∧
      sent server (Manager.collectStatus read scene m).run s = asked := by
  obtain ⟨ran, asks⟩ := h.collect
  unfold Manager.collectStatus
  exact ⟨Attempt.run_bind_of_ok ran, (Attempt.sent_bind_pure _ _ s).trans asks⟩

/-- What cannot be read is not summed up. -/
theorem Reads.collectStatus_of_error {before after : List OperandKind} {fault : Fault}
    (h : Reads server read given before s asked t)
    (order : OperandKind.all = before ++ kind :: after)
    (failed : run server (read kind).run t = (.error fault, u)) (scene : Scene) (m : Manager) :
    run server (Manager.collectStatus read scene m).run s = (.error fault, u) ∧
      sent server (Manager.collectStatus read scene m).run s =
        asked ++ sent server (read kind).run t := by
  obtain ⟨ran, asks⟩ := h.collect_of_error failed after
  rw [← order] at ran asks
  unfold Manager.collectStatus
  exact ⟨Attempt.run_bind_of_error ran, (Attempt.sent_bind_pure _ _ s).trans asks⟩

variable (server read) in
/-- Either all kinds can be read, or there is a first one that cannot. -/
theorem reads_cases (once : kinds.Nodup) (s : τ) :
    (∃ given asked t, Reads server read given kinds s asked t) ∨
    ∃ before kind after given asked t fault u, kinds = before ++ kind :: after ∧
      Reads server read given before s asked t ∧
      run server (read kind).run t = (.error fault, u) := by
  induction kinds generalizing s with
  | nil => exact .inl ⟨fun _ => none, [], s, .nil s⟩
  | cons kind rest ih =>
    obtain ⟨notIn, once⟩ := List.nodup_cons.1 once
    cases ran : run server (read kind).run s with
    | mk result t =>
      cases result with
      | error fault =>
        exact .inr ⟨[], kind, rest, fun _ => none, [], s, fault, t, rfl, .nil s, ran⟩
      | ok conditions =>
        rcases ih once t with ⟨given, asked, u, reads⟩ |
          ⟨before, other, after, given, asked, u, fault, v, rfl, reads, failed⟩
        · exact .inl ⟨_, _, u, reads.extend notIn ran⟩
        · have apart : kind ∉ before := fun h => notIn (List.mem_append_left _ h)
          exact .inr ⟨kind :: before, other, after, _, _, u, fault, v, rfl,
            reads.extend apart ran, failed⟩

end Health

/-- **The status of the manager sums up the operands.** The four operands are read one after the
other. If all can be read, the status sums up what has been read; if one cannot, that is the result,
and no later operand is read. -/
theorem manager_sums_up_operands {τ : Type} (server : Request → τ → Reply × τ)
    (read : OperandKind → Attempt (Option (List Condition))) (scene : Scene) (m : Manager) (s : τ) :
    (∃ given asked t status, Health.Reads server read given OperandKind.all s asked t ∧
      run server (Manager.collectStatus read scene m).run s = (.ok status, t) ∧
      sent server (Manager.collectStatus read scene m).run s = asked ∧
      SumsUp given scene.settings.createOnly m.metadata.generation
        ((m.status.map (·.conditions)).getD []) status) ∨
    ∃ before kind after given asked t fault u, OperandKind.all = before ++ kind :: after ∧
      Health.Reads server read given before s asked t ∧
      run server (read kind).run t = (.error fault, u) ∧
      run server (Manager.collectStatus read scene m).run s = (.error fault, u) ∧
      sent server (Manager.collectStatus read scene m).run s =
        asked ++ sent server (read kind).run t := by
  have once : OperandKind.all.Nodup := by decide
  rcases Health.reads_cases server read once s with
    ⟨given, asked, t, reads⟩ |
    ⟨before, kind, after, given, asked, t, fault, u, order, reads, failed⟩
  · obtain ⟨ran, asks⟩ := reads.collectStatus scene m
    exact .inl ⟨given, asked, t, _, reads, ran, asks,
      sumsUp_aggregate given scene.now m.status m.metadata.generation scene.settings.createOnly⟩
  · obtain ⟨ran, asks⟩ := reads.collectStatus_of_error order failed scene m
    exact .inr ⟨before, kind, after, given, asked, t, fault, u, order, reads, failed, ran, asks⟩

end WorkloadIdentity

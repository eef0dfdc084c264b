import WorkloadIdentity.Proofs.Aggregation
import WorkloadIdentity.Proofs.Telling

/-! A pass tells the manager how it has ended only by the conditions that it leaves: the reason of
the `Ready` condition has to carry over which faults count as failures. -/

namespace WorkloadIdentity

/-- A fault is told as a failure exactly if it does not pass by itself. -/
theorem Fault.reason_mem_failureReasons (fault : Fault) :
    fault.reason ∈ Report.failureReasons ↔ fault.isTransient = false := by
  unfold reason
  split
  next transient =>
    have apart : Condition.Reason.retrying ∉ Report.failureReasons := by decide
    simp [apart, transient]
  next permanent =>
    have listed : Condition.Reason.failed ∈ Report.failureReasons ∧
        Condition.Reason.managerNotFound ∈ Report.failureReasons ∧
        Condition.Reason.invalidSpec ∈ Report.failureReasons := by decide
    refine iff_of_true ?_ (eq_false_of_ne_true permanent)
    cases fault <;> simp [listed]

namespace Condition

variable {conditions : List Condition} {generation : Option Int} {n : Note}

/-- Whether a condition holds is read off a note on it. -/
theorem Says.holds_eq (h : Says conditions generation n) :
    holds n.type conditions = decide (n.status = .isTrue) := by
  obtain ⟨c, found, status, -⟩ := h
  rw [holds, found, Option.any_some, isTrue, status]

end Condition

namespace Report

variable {kind : OperandKind} {conditions : List Condition} {generation : Option Int} {n : Note}

/-- The health that a note on the type `Ready` stands for. -/
def healthTold (n : Note) : Health :=
  if n.status = .isTrue then .ready
  else if n.reason ∈ failureReasons then .failed
  else .progressing

/-- A report repeats what is said of the types `Ready` and `CreateOnlyMode`. -/
theorem health_ofConditions (said : Condition.Says conditions generation n)
    (type : n.type = Condition.ready) :
    (ofConditions kind (some conditions)).health = healthTold n := by
  obtain ⟨c, found, status, reason, -⟩ := said
  rw [type] at found
  simp only [ofConditions, found, healthOf, healthTold, Condition.isTrue, status, reason,
    decide_eq_true_eq]

/-- The health that an outcome stands for. -/
def verdict : Except Fault Readiness → Health
  | .ok readiness => if readiness.ready then .ready else .progressing
  | .error fault => if fault.isTransient then .progressing else .failed

/-- The manager reads off the conditions at the end of a pass what its outcome stands for, whatever
the conditions have been before. -/
theorem ofConditions_concluded (kind : OperandKind) (r : Recorder) (now : String)
    (outcome : Except Fault Readiness) (createOnly : Bool) :
    let report := ofConditions kind (some (r.conclude now outcome createOnly).conditions)
    report.health = verdict outcome ∧ report.createOnly = createOnly := by
  have once : ((Recorder.closing outcome createOnly).map (·.type)).Nodup := by
    rw [Recorder.types_closing]
    decide
  have said {n : Note} (hn : n ∈ Recorder.closing outcome createOnly) :
      Condition.Says (r.conclude now outcome createOnly).conditions r.generation n := by
    rw [Recorder.conclude_eq_write]
    exact Recorder.says_write once hn
  constructor
  · rcases outcome with fault | ⟨ready, message⟩
    · have told := said List.mem_cons_self
      rw [health_ofConditions told rfl]
      have reason := fault.reason_mem_failureReasons
      cases transient : fault.isTransient <;> simp_all [healthTold, verdict]
    · have apart : Condition.Reason.workloadNotReady ∉ failureReasons := by decide
      have told := said List.mem_cons_self
      rw [health_ofConditions told (by cases ready <;> rfl)]
      cases ready <;> simp [healthTold, verdict, apart]
  · have told := said (List.mem_cons_of_mem _ List.mem_cons_self)
    cases createOnly
    · exact told.holds_eq
    · exact told.holds_eq

variable {outcome : Except Fault Readiness}

theorem verdict_eq_ready_iff :
    verdict outcome = .ready ↔ ∃ readiness, outcome = .ok readiness ∧ readiness.ready = true := by
  rcases outcome with fault | ⟨ready, message⟩
  · cases h : fault.isTransient <;> simp [verdict, h]
  · cases ready <;> simp [verdict]

theorem verdict_eq_failed_iff :
    verdict outcome = .failed ↔ ∃ fault, outcome = .error fault ∧ fault.isTransient = false := by
  rcases outcome with fault | ⟨ready, message⟩
  · cases h : fault.isTransient <;> simp [verdict, h]
  · cases ready <;> simp [verdict]

theorem verdict_eq_progressing_iff :
    verdict outcome = .progressing ↔
      (∃ readiness, outcome = .ok readiness ∧ readiness.ready = false) ∨
        ∃ fault, outcome = .error fault ∧ fault.isTransient = true := by
  rcases outcome with fault | ⟨ready, message⟩
  · cases h : fault.isTransient <;> simp [verdict, h]
  · cases ready <;> simp [verdict]

theorem endedReady_iff :
    endedReady outcome = true ↔ ∃ readiness, outcome = .ok readiness ∧ readiness.ready = true := by
  cases outcome <;> simp [endedReady]

end Report

namespace Health

variable {now : String} {existing : Option ManagerStatus} {generation : Option Int}
  {reports : List Report} {createOnlyConfigured : Bool}

theorem anyFailed_iff : anyFailed reports = true ↔ ∃ r ∈ reports, r.health = .failed := by
  simp [anyFailed]

/-- The manager is degraded if an operand has failed. -/
theorem holds_degraded_aggregate :
    Condition.holds Condition.degraded
        (aggregate now existing generation reports createOnlyConfigured).conditions =
      anyFailed reports := by
  have told := (says_degradedNote now existing generation reports createOnlyConfigured).holds_eq
  rw [type_degradedNote] at told
  rw [told, status_degradedNote]
  cases anyFailed reports <;> rfl

end Health

/-- **Outcomes decide the health.** Whatever conditions an operand has had, the manager finds it
ready, failed or progressing by the outcome of the last pass over it: it has failed if the pass met
a fault that does not pass by itself. The manager is degraded exactly if one of the four operands
has failed in this way. -/
theorem outcomes_decide_health :
    (∀ (kind : OperandKind) (r : Recorder) (now : String) (outcome : Except Fault Readiness)
        (createOnly : Bool),
      let report := Report.ofConditions kind (some (r.conclude now outcome createOnly).conditions)
      (report.health = .ready ↔ ∃ readiness, outcome = .ok readiness ∧ readiness.ready = true) ∧
      (report.health = .ready ↔ endedReady outcome = true) ∧
      (report.health = .failed ↔ ∃ fault, outcome = .error fault ∧ fault.isTransient = false) ∧
      (report.health = .progressing ↔
        (∃ readiness, outcome = .ok readiness ∧ readiness.ready = false) ∨
          ∃ fault, outcome = .error fault ∧ fault.isTransient = true) ∧
      report.createOnly = createOnly) ∧
    ∀ (recorders : OperandKind → Recorder) (times : OperandKind → String)
        (outcomes : OperandKind → Except Fault Readiness) (modes : OperandKind → Bool)
        (now : String) (existing : Option ManagerStatus) (generation : Option Int)
        (createOnlyConfigured : Bool),
      let reports := OperandKind.all.map fun kind => Report.ofConditions kind
        (some ((recorders kind).conclude (times kind) (outcomes kind) (modes kind)).conditions)
      Condition.holds Condition.degraded
          (Health.aggregate now existing generation reports createOnlyConfigured).conditions =
            true ↔
        ∃ kind fault, outcomes kind = .error fault ∧ fault.isTransient = false := by
  refine ⟨fun kind r now outcome createOnly => ?_, fun recorders times outcomes modes now existing
    generation createOnlyConfigured => ?_⟩
  · obtain ⟨health, mode⟩ := Report.ofConditions_concluded kind r now outcome createOnly
    intro report
    refine ⟨?_, ?_, ?_, ?_, mode⟩
    · rw [health, Report.verdict_eq_ready_iff]
    · rw [health, Report.verdict_eq_ready_iff, Report.endedReady_iff]
    · rw [health, Report.verdict_eq_failed_iff]
    · rw [health, Report.verdict_eq_progressing_iff]
  · intro reports
    have health (kind : OperandKind) := (Report.ofConditions_concluded kind (recorders kind)
      (times kind) (outcomes kind) (modes kind)).1
    rw [Health.holds_degraded_aggregate, Health.anyFailed_iff]
    constructor
    · rintro ⟨report, reported, failed⟩
      obtain ⟨kind, -, rfl⟩ := List.mem_map.1 reported
      exact ⟨kind, Report.verdict_eq_failed_iff.1 ((health kind).symm.trans failed)⟩
    · rintro ⟨kind, met⟩
      refine ⟨_, List.mem_map.2 ⟨kind, kind.mem_all, rfl⟩, ?_⟩
      exact (health kind).trans (Report.verdict_eq_failed_iff.2 met)

end WorkloadIdentity

import WorkloadIdentity.Proofs.Notes
import WorkloadIdentity.Reconcile.Health

namespace WorkloadIdentity

namespace Health

variable {reports : List Report} {createOnly : Bool}

def readyNote (reports : List Report) : Note :=
  if allReady reports then
    ⟨Condition.ready, .isTrue, allOperandsReady, "All operands are ready"⟩
  else if anyFailed reports then
    ⟨Condition.ready, .isFalse, operandsFailed, "Failed operands: " ++ listed reports .failed⟩
  else
    ⟨Condition.ready, .isFalse, operandsProgressing,
      "Operands not ready: " ++ listed reports .progressing⟩

def degradedNote (reports : List Report) : Note :=
  if anyFailed reports then
    ⟨Condition.degraded, .isTrue, operandsFailed, "Failed operands: " ++ listed reports .failed⟩
  else ⟨Condition.degraded, .isFalse, noFailures, "No operand has failed"⟩

def modeNote (createOnly : Bool) : Note :=
  if createOnly then
    ⟨Condition.createOnlyMode, .isTrue, Condition.Reason.createOnlyEnabled,
      "Create-only mode is enabled; existing resources are not updated"⟩
  else
    ⟨Condition.createOnlyMode, .isFalse, Condition.Reason.createOnlyDisabled,
      "Create-only mode is disabled"⟩

def upgradeableNote (reports : List Report) (createOnly : Bool) : Note :=
  if anyFailed reports then
    ⟨Condition.upgradeable, .isFalse, operandsFailed, "Operands must recover before upgrading"⟩
  else if createOnly then
    ⟨Condition.upgradeable, .isFalse, Condition.Reason.createOnlyEnabled,
      "Upgrades are blocked while create-only mode is enabled"⟩
  else ⟨Condition.upgradeable, .isTrue, upgradeableReason, "Operator can be upgraded"⟩

/-- What the manager's status says of the reports. -/
def notes (reports : List Report) (createOnly : Bool) : List Note :=
  [readyNote reports, degradedNote reports, modeNote createOnly, upgradeableNote reports createOnly]

/-- The types of the conditions that sum up the operands. -/
def types : List String :=
  [Condition.ready, Condition.degraded, Condition.createOnlyMode, Condition.upgradeable]

@[simp]
theorem type_readyNote (reports : List Report) : (readyNote reports).type = Condition.ready := by
  unfold readyNote
  split
  · rfl
  · split <;> rfl

@[simp]
theorem type_degradedNote (reports : List Report) :
    (degradedNote reports).type = Condition.degraded := by
  unfold degradedNote
  split <;> rfl

@[simp]
theorem type_modeNote (createOnly : Bool) :
    (modeNote createOnly).type = Condition.createOnlyMode := by
  cases createOnly <;> rfl

@[simp]
theorem type_upgradeableNote (reports : List Report) (createOnly : Bool) :
    (upgradeableNote reports createOnly).type = Condition.upgradeable := by
  unfold upgradeableNote
  split
  · rfl
  · split <;> rfl

theorem status_readyNote (reports : List Report) :
    (readyNote reports).status = .ofBool (allReady reports) := by
  unfold readyNote
  cases allReady reports
  · cases anyFailed reports <;> rfl
  · rfl

theorem status_degradedNote (reports : List Report) :
    (degradedNote reports).status = .ofBool (anyFailed reports) := by
  unfold degradedNote
  cases anyFailed reports <;> rfl

theorem status_modeNote (createOnly : Bool) :
    (modeNote createOnly).status = .ofBool createOnly := by
  cases createOnly <;> rfl

theorem status_upgradeableNote (reports : List Report) (createOnly : Bool) :
    (upgradeableNote reports createOnly).status =
      .ofBool (!anyFailed reports && !createOnly) := by
  unfold upgradeableNote
  cases anyFailed reports
  · cases createOnly <;> rfl
  · rfl

theorem types_notes (reports : List Report) (createOnly : Bool) :
    (notes reports createOnly).map (·.type) = types := by
  simp [notes, types]

theorem once_notes (reports : List Report) (createOnly : Bool) :
    ((notes reports createOnly).map (·.type)).Nodup := by
  rw [types_notes]
  decide

variable {now : String} {existing : Option ManagerStatus} {generation : Option Int}
  {createOnlyConfigured : Bool}

/-- Whether existing objects are left alone by anyone. -/
def anyCreateOnly (reports : List Report) (createOnlyConfigured : Bool) : Bool :=
  createOnlyConfigured || reports.any (·.createOnly)

/-- The status is what comes of writing the notes onto the conditions before. -/
theorem aggregate_eq_write (now : String) (existing : Option ManagerStatus)
    (generation : Option Int) (reports : List Report) (createOnlyConfigured : Bool) :
    aggregate now existing generation reports createOnlyConfigured =
      { conditions := ((Recorder.start ((existing.map (·.conditions)).getD []) generation).write now
          (notes reports (anyCreateOnly reports createOnlyConfigured))).conditions
        operands := reports.map Report.entry } := by
  have ready (r : Recorder) : setReady r now reports = r.put now (readyNote reports) := by
    unfold setReady readyNote
    split
    · rfl
    · split <;> rfl
  have degraded (r : Recorder) : setDegraded r now reports = r.put now (degradedNote reports) := by
    unfold setDegraded degradedNote
    split <;> rfl
  have mode (r : Recorder) (createOnly : Bool) :
      setCreateOnly r now createOnly = r.put now (modeNote createOnly) := by
    cases createOnly <;> rfl
  have upgradeable (r : Recorder) (createOnly : Bool) :
      setUpgradeable r now reports createOnly =
        r.put now (upgradeableNote reports createOnly) := by
    unfold setUpgradeable upgradeableNote
    split
    · rfl
    · split <;> rfl
  unfold aggregate
  simp only [ready, degraded, mode, upgradeable]
  rfl

section
variable (now : String) (existing : Option ManagerStatus) (generation : Option Int)
  (reports : List Report) (createOnlyConfigured : Bool)

/-- The status says each of the notes. -/
theorem says_aggregate {n : Note}
    (hn : n ∈ notes reports (anyCreateOnly reports createOnlyConfigured)) :
    Condition.Says (aggregate now existing generation reports createOnlyConfigured).conditions
      generation n := by
  rw [aggregate_eq_write]
  exact Recorder.says_write (once_notes _ _) hn

theorem says_readyNote :
    Condition.Says (aggregate now existing generation reports createOnlyConfigured).conditions
      generation (readyNote reports) :=
  says_aggregate _ _ _ _ _ (by simp [notes])

theorem says_degradedNote :
    Condition.Says (aggregate now existing generation reports createOnlyConfigured).conditions
      generation (degradedNote reports) :=
  says_aggregate _ _ _ _ _ (by simp [notes])

theorem says_modeNote :
    Condition.Says (aggregate now existing generation reports createOnlyConfigured).conditions
      generation (modeNote (anyCreateOnly reports createOnlyConfigured)) :=
  says_aggregate _ _ _ _ _ (by simp [notes])

theorem says_upgradeableNote :
    Condition.Says (aggregate now existing generation reports createOnlyConfigured).conditions
      generation (upgradeableNote reports (anyCreateOnly reports createOnlyConfigured)) :=
  says_aggregate _ _ _ _ _ (by simp [notes])

end

/-- Conditions of other types stay in place. -/
theorem inPlace_aggregate {type : String} (other : type ∉ types) :
    Condition.InPlace type ((existing.map (·.conditions)).getD [])
      (aggregate now existing generation reports createOnlyConfigured).conditions := by
  rw [aggregate_eq_write]
  refine Recorder.inPlace_write ?_
  rw [types_notes]
  exact other

/-- **A status sums up the same again.** Written onto itself at another time, it stays as it is, and
so do the times since when its conditions hold. -/
theorem aggregate_again (now later : String) (existing : Option ManagerStatus)
    (generation : Option Int) (reports : List Report) (createOnlyConfigured : Bool) :
    aggregate later (some (aggregate now existing generation reports createOnlyConfigured))
        generation reports createOnlyConfigured =
      aggregate now existing generation reports createOnlyConfigured := by
  rw [aggregate_eq_write later, aggregate_eq_write now]
  have again (r : Recorder) (told : List Note) (once : (told.map (·.type)).Nodup) :
      ((Recorder.start (r.write now told).conditions r.generation).write later told).conditions =
        (r.write now told).conditions := by
    rw [Recorder.write_again once]
    rfl
  exact congrArg (ManagerStatus.mk · (reports.map Report.entry))
    (again (Recorder.start _ generation) _ (once_notes ..))

end Health

end WorkloadIdentity

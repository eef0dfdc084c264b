import WorkloadIdentity.Fault
import WorkloadIdentity.Reconcile.Recorder
import WorkloadIdentity.Spec.Kind
import WorkloadIdentity.Spec.Manager

namespace WorkloadIdentity

inductive Health where
  | ready
  | progressing
  | failed
deriving DecidableEq, Repr, Inhabited

def Health.text : Health → String
  | .ready => "Ready"
  | .progressing => "Progressing"
  | .failed => "Failed"

/-- What is known of one operand. -/
structure Report where
  kind : OperandKind
  health : Health
  message : String
  createOnly : Bool
  /-- The conditions that the manager's status repeats. -/
  conditions : List Condition
deriving DecidableEq, Repr

namespace Report

/-- Reasons of a condition that make an operand failed. -/
def failureReasons : List String :=
  [Condition.Reason.failed, Condition.Reason.managerNotFound, Condition.Reason.invalidSpec]

/-- The health that a `Ready` condition stands for. -/
def healthOf : Option Condition → Health
  | some c =>
    if c.isTrue then .ready
    else if c.reason ∈ failureReasons then .failed
    else .progressing
  | none => .progressing

def messageOf : Option Condition → String
  | some c => if c.isTrue then c.message else c.reason ++ ": " ++ c.message
  | none => "Ready condition not reported yet"

def ofConditions (kind : OperandKind) (conditions : Option (List Condition)) : Report :=
  match conditions with
  | none =>
    { kind, health := .progressing,
      message := kind.kindName ++ " " ++ singletonName ++ " not found",
      createOnly := false, conditions := [] }
  | some cs =>
    let ready := Condition.find? Condition.ready cs
    { kind, health := healthOf ready, message := messageOf ready
      createOnly := Condition.holds Condition.createOnlyMode cs
      conditions := [Condition.ready, Condition.createOnlyMode].filterMap
        (fun t => Condition.find? t cs) }

/-- The line of an operand in the manager's status. -/
def entry (r : Report) : OperandEntry :=
  { name := singletonName, kind := r.kind.kindName
    ready := if r.health = .ready then "true" else "false"
    message := r.message, conditions := r.conditions }

end Report

namespace Health

def operandsFailed : String := "OperandsFailed"
def operandsProgressing : String := "OperandsProgressing"
def allOperandsReady : String := "AllOperandsReady"
def noFailures : String := "NoOperandFailures"
def upgradeableReason : String := "Upgradeable"

/-- The operands of one health, each with its message. -/
def listed (reports : List Report) (health : Health) : String :=
  "; ".intercalate ((reports.filter (fun r => r.health = health)).map
    (fun r => r.kind.kindName ++ " (" ++ r.message ++ ")"))

def anyFailed (reports : List Report) : Bool := reports.any (fun r => r.health = .failed)

def allReady (reports : List Report) : Bool := reports.all (fun r => r.health = .ready)

def setReady (r : Recorder) (now : String) (reports : List Report) : Recorder :=
  if allReady reports then
    r.set now Condition.ready .isTrue allOperandsReady "All operands are ready"
  else if anyFailed reports then
    r.set now Condition.ready .isFalse operandsFailed
      ("Failed operands: " ++ listed reports .failed)
  else
    r.set now Condition.ready .isFalse operandsProgressing
      ("Operands not ready: " ++ listed reports .progressing)

def setDegraded (r : Recorder) (now : String) (reports : List Report) : Recorder :=
  if anyFailed reports then
    r.set now Condition.degraded .isTrue operandsFailed
      ("Failed operands: " ++ listed reports .failed)
  else r.set now Condition.degraded .isFalse noFailures "No operand has failed"

def setCreateOnly (r : Recorder) (now : String) (createOnly : Bool) : Recorder :=
  if createOnly then
    r.set now Condition.createOnlyMode .isTrue Condition.Reason.createOnlyEnabled
      "Create-only mode is enabled; existing resources are not updated"
  else
    r.set now Condition.createOnlyMode .isFalse Condition.Reason.createOnlyDisabled
      "Create-only mode is disabled"

def setUpgradeable (r : Recorder) (now : String) (reports : List Report) (createOnly : Bool) :
    Recorder :=
  if anyFailed reports then
    r.set now Condition.upgradeable .isFalse operandsFailed
      "Operands must recover before upgrading"
  else if createOnly then
    r.set now Condition.upgradeable .isFalse Condition.Reason.createOnlyEnabled
      "Upgrades are blocked while create-only mode is enabled"
  else r.set now Condition.upgradeable .isTrue upgradeableReason "Operator can be upgraded"

/-- The manager's status after the reports, on top of the status before. -/
def aggregate (now : String) (existing : Option ManagerStatus) (generation : Option Int)
    (reports : List Report) (createOnlyConfigured : Bool) : ManagerStatus :=
  let createOnly := createOnlyConfigured || reports.any (·.createOnly)
  let start := Recorder.start ((existing.map (·.conditions)).getD []) generation
  let r := setReady start now reports
  let r := setDegraded r now reports
  let r := setCreateOnly r now createOnly
  let r := setUpgradeable r now reports createOnly
  { conditions := r.conditions, operands := reports.map Report.entry }

/-- Reads the operands one by one. -/
def collect {m : Type → Type} [Monad m] (read : OperandKind → m (Option (List Condition))) :
    List OperandKind → m (List Report)
  | [] => pure []
  | kind :: rest => do
    let conditions ← read kind
    let others ← collect read rest
    return Report.ofConditions kind conditions :: others

end Health

end WorkloadIdentity

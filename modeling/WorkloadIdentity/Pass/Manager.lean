import WorkloadIdentity.Pass.Operand
import WorkloadIdentity.Reconcile.Health

namespace WorkloadIdentity.Manager

/-- The conditions of an operand, if its resource exists. -/
def conditionsOf (σ : Type) [OperandSpec σ] : Attempt (Option (List Condition)) := do
  let read : Json → Option (Operand σ) := Operand.read?
  let operand ← Call.attempt (Api.find? (.operands (OperandSpec.kind σ)) singletonName read)
  return operand.map (·.conditions)

def operandConditions : OperandKind → Attempt (Option (List Condition))
  | .server => conditionsOf ServerSpec
  | .agent => conditionsOf AgentSpec
  | .discovery => conditionsOf DiscoverySpec
  | .driver => conditionsOf DriverSpec

/-- The status of the manager, from the conditions of its operands. -/
def collectStatus (read : OperandKind → Attempt (Option (List Condition))) (scene : Scene)
    (m : Manager) : Attempt ManagerStatus := do
  let reports ← Health.collect read OperandKind.all
  return Health.aggregate scene.now m.status m.metadata.generation reports
    scene.settings.createOnly

/-- Writes the status of the resource. -/
def patchStatus (name : String) (status : ManagerStatus) : Attempt Unit := do
  let _ ← Call.attempt (Api.patchStatus .managers name (.obj [("status", status.toJson)])
    Manager.read?)

/-- Brings the stored status up to date. -/
def sync (scene : Scene) (m : Manager) : Attempt Unit := do
  let status ← collectStatus operandConditions scene m
  if m.status ≠ some status then patchStatus m.metadata.anyName status

/-- A pass over the manager, which takes `elapsed` nanoseconds. -/
def look (scene : Scene) (elapsed : Nat) (ledger : Ledger) (m : Manager) :
    Exchange (Except Fault Revisit × Ledger) := do
  let name := m.metadata.anyName
  if name ≠ singletonName then return (.ok .onChange, ledger)
  let result ← (sync scene m).run
  let metrics := ledger.metrics.observeReconcile label result.toBool elapsed
  match result with
  | .ok _ =>
    return (.ok (.after scene.settings.intervalSeconds),
      { metrics, failures := ledger.failures.reset (Retry.key kindName name) })
  | .error fault => return (.error fault, { ledger with metrics })

end WorkloadIdentity.Manager

import WorkloadIdentity.Identity.TrustDomain
import WorkloadIdentity.Pass.Steps
import WorkloadIdentity.Reconcile.Readiness
import WorkloadIdentity.Reconcile.Retry

namespace WorkloadIdentity

/-- What is kept from pass to pass. -/
structure Ledger where
  metrics : Metrics := {}
  failures : FailureCounts := ∅

/-- When a resource is looked at again. -/
inductive Revisit where
  | after (seconds : Nat)
  /-- Not before it changes. -/
  | onChange
deriving DecidableEq, Repr

/-- Counts the failure of a pass over a resource. -/
def Ledger.fail (l : Ledger) (kind : String) (m : Meta) (fault : Fault) : Ledger × Nat :=
  let (failures, delay) := Retry.afterFailure l.failures (Retry.key kind m.anyName) fault
  ({ l with failures }, delay)

/-- The collection of the workloads of a kind. -/
def Collection.workloads : WorkloadKind → String → Collection
  | .daemonSet => daemonSets
  | .deployment => deployments
  | .statefulSet => statefulSets

namespace Operand

variable {σ : Type} [OperandPass σ]

/-- The resource of the manager, which has to exist. -/
def manager : Pass ManagerSpec := do
  match ← (Call.attempt (Api.find? .managers singletonName Manager.read?)).pass with
  | some manager => return manager.spec
  | none => throw (.managerNotFound singletonName)

/-- Accepts the specification or tells the rule that it breaks. -/
def check (o : Operand σ) : Except Fault Unit :=
  match OperandSpec.flaw? o.spec with
  | some flaw => .error (.invalidSpec flaw)
  | none => .ok ()

/-- The workload that decides whether the operand is ready. -/
def workload (σ : Type) [OperandPass σ] (settings : Settings) :
    Attempt (Workload (OperandPass.workload σ)) :=
  Call.attempt (Api.get (.workloads (OperandPass.workload σ) settings.operandNamespace)
    (OperandSpec.kind σ).objectName Managed.read?)

/-- Applies the objects of the operand and reads off whether it is ready. -/
def drive (scene : Scene) (o : Operand σ) : Pass Readiness := do
  let spec ← manager
  Attempt.pass (.mk (pure (TrustDomain.check spec.trustDomain)))
  Attempt.pass (.mk (pure (check o)))
  let steps ← (OperandPass.steps scene spec o).pass
  Step.runAll scene steps
  let w ← (workload σ scene.settings).pass
  return Readiness.ofWorkload w

/-- Writes conditions to the status of the resource. -/
def patchConditions (σ : Type) [OperandPass σ] (name : String) (conditions : List Condition) :
    Attempt Unit := do
  let patch := Json.obj [("status", .obj [("conditions", Condition.listToJson conditions)])]
  let read : Json → Option (Operand σ) := Operand.read?
  let _ ← Call.attempt (Api.patchStatus (.operands (OperandSpec.kind σ)) name patch read)

/-- The metrics at the end of a pass. -/
def conclude (σ : Type) [OperandPass σ] (m : Metrics) (ready success : Bool) (elapsed : Nat) :
    Metrics :=
  (m.setReady (OperandSpec.kind σ).label ready).observeReconcile (OperandSpec.kind σ).label success
    elapsed

/-- A pass over an operand, which takes `elapsed` nanoseconds. -/
def look (scene : Scene) (elapsed : Nat) (ledger : Ledger) (o : Operand σ) :
    Exchange (Except Fault Revisit × Ledger) := do
  let name := o.metadata.anyName
  if name ≠ singletonName then return (.ok .onChange, ledger)
  let start : Journal :=
    { recorder := .start o.conditions o.metadata.generation, metrics := ledger.metrics }
  let (outcome, journal) ← (drive scene o).run start
  let recorder := journal.recorder.conclude scene.now outcome scene.settings.createOnly
  let patched ←
    if recorder.changed then (patchConditions σ name recorder.conditions).run
    else pure (.ok ())
  let result : Except Fault Unit := outcome.bind (fun _ => patched)
  let metrics := conclude σ journal.metrics (endedReady outcome) result.toBool elapsed
  match result with
  | .ok _ =>
    let key := Retry.key (OperandSpec.kind σ).kindName name
    return (.ok (.after scene.settings.intervalSeconds),
      { metrics, failures := ledger.failures.reset key })
  | .error fault => return (.error fault, { ledger with metrics })

end Operand

end WorkloadIdentity

import WorkloadIdentity.Fault
import WorkloadIdentity.Object.Workload
import WorkloadIdentity.Reconcile.Recorder

namespace WorkloadIdentity

/-- The name of an object, else the start of the name that the server would give it. -/
def Meta.anyName (m : Meta) : String := (m.name.or m.generateName).getD ""

structure Readiness where
  ready : Bool
  message : String
deriving DecidableEq, Repr

namespace Readiness

def counter (status : Option Json) (name : String) : Option Int := status.bind (·.intAt name)

/-- A daemon set is ready when every node that should have a pod has a ready one, and there is such
a node. -/
def ofDaemonSet (o : DaemonSet) : Readiness :=
  let ready := (counter o.status "numberReady").getD 0
  let desired := (counter o.status "desiredNumberScheduled").getD 0
  { ready := 0 < desired && ready = desired
    message := "DaemonSet " ++ o.metadata.anyName ++ ": " ++ toString ready ++ "/" ++
      toString desired ++ " pods ready" }

/-- Other workloads are ready when at least the wanted number of pods is ready. -/
def ofReplicas {kind : WorkloadKind} (o : Workload kind) : Readiness :=
  let desired := (o.spec.bind (·.replicas)).getD 1
  let ready := (counter o.status "readyReplicas").getD 0
  { ready := desired ≤ ready
    message := kind.name ++ " " ++ o.metadata.anyName ++ ": " ++ toString ready ++ "/" ++
      toString desired ++ " replicas ready" }

def ofWorkload : {kind : WorkloadKind} → Workload kind → Readiness
  | .daemonSet, o => ofDaemonSet o
  | .deployment, o => ofReplicas o
  | .statefulSet, o => ofReplicas o

end Readiness

namespace Recorder

/-- Writes whether the operand is ready, and if not, why. -/
def concludeReady (r : Recorder) (now : String) (outcome : Except Fault Readiness) : Recorder :=
  match outcome with
  | .ok readiness =>
    if readiness.ready then
      r.set now Condition.ready .isTrue Condition.Reason.ready readiness.message
    else r.set now Condition.ready .isFalse Condition.Reason.workloadNotReady readiness.message
  | .error fault => r.set now Condition.ready .isFalse fault.reason fault.message

/-- Writes whether existing objects are left alone. -/
def concludeMode (r : Recorder) (now : String) (createOnly : Bool) : Recorder :=
  if createOnly then
    r.set now Condition.createOnlyMode .isTrue Condition.Reason.createOnlyEnabled
      "Existing resources are not updated"
  else
    r.set now Condition.createOnlyMode .isFalse Condition.Reason.createOnlyDisabled
      "Existing resources are reconciled"

/-- Writes the conditions that end a pass. -/
def conclude (r : Recorder) (now : String) (outcome : Except Fault Readiness) (createOnly : Bool) :
    Recorder :=
  (r.concludeReady now outcome).concludeMode now createOnly

end Recorder

/-- Whether a pass ended with a ready workload. -/
def endedReady : Except Fault Readiness → Bool
  | .ok readiness => readiness.ready
  | .error _ => false

end WorkloadIdentity

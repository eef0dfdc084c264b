import WorkloadIdentity.Pass.Apply
import WorkloadIdentity.Spec.Custom

/-! The operator is ready once the API server serves all five kinds of resources that users write.
It asks for them in rounds; a round ends at the first kind that is not served, and the next round
follows after a fixed delay. Once open, the gate stays open and asks for nothing more. -/

namespace WorkloadIdentity

inductive Gate where
  /-- The next round begins at this time, in seconds. -/
  | closed (next : Nat)
  /-- The gate has been open since this time. -/
  | opened (since : Nat)
deriving DecidableEq, Repr

namespace Gate

/-- The delay between two rounds, in seconds. -/
def retryDelay : Nat := 5

def isOpen : Gate → Bool
  | opened _ => true
  | closed _ => false

/-- Asks for the resources of an operand. -/
def served (σ : Type) [OperandSpec σ] : Attempt Unit := do
  let read : Json → Option (Operand σ) := Operand.read?
  let _ ← Call.attempt (Api.listOne (.operands (OperandSpec.kind σ)) read)

/-- Asks for the resources of all kinds. -/
def probe : Attempt Unit := do
  let _ ← Call.attempt (Api.listOne .managers Manager.read?)
  served ServerSpec
  served AgentSpec
  served DiscoverySpec
  served DriverSpec

/-- One round. -/
def round : Gate → Exchange Gate
  | opened since => pure (opened since)
  | closed next => do
    match ← probe.run with
    | .ok _ => return opened next
    | .error _ => return closed (next + retryDelay)

def rounds : Nat → Gate → Exchange Gate
  | 0, g => pure g
  | n + 1, g => do
    let g ← round g
    rounds n g

/-- How many rounds begin before a time, the first one at once. -/
def roundsBefore (limit : Nat) : Nat := (limit + (retryDelay - 1)) / retryDelay

/-- All rounds before a time. -/
def runUntil (limit : Nat) : Exchange Gate := rounds (roundsBefore limit) (closed 0)

end Gate

end WorkloadIdentity

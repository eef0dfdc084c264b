import WorkloadIdentity.Spec.Agent
import WorkloadIdentity.Spec.Discovery
import WorkloadIdentity.Spec.Driver
import WorkloadIdentity.Spec.Kind
import WorkloadIdentity.Spec.Manager
import WorkloadIdentity.Spec.Server

namespace WorkloadIdentity

/-- A resource with a specification of type `σ` and a status of type `τ`. -/
structure Custom (σ τ : Type) where
  metadata : Meta
  spec : σ
  status : Option τ := none
deriving DecidableEq, Repr

namespace Custom

variable {σ τ : Type}

def read? (readSpec : Json → Option σ) (readStatus : Json → Option τ) (v : Json) :
    Option (Custom σ τ) := do
  let ms ← v.members?
  let metadata ← ms.required "metadata" Meta.read?
  let spec ← ms.required "spec" readSpec
  let status ← ms.optional "status" readStatus
  return { metadata, spec, status }

end Custom

/-- The specification of an operand. -/
class OperandSpec (σ : Type) where
  kind : OperandKind
  read? : Json → Option σ
  toJson : σ → Json
  /-- The first rule that a specification breaks. -/
  flaw? : σ → Option String
  placement : σ → Placement

instance : OperandSpec ServerSpec where
  kind := .server
  read? := ServerSpec.read?
  toJson := ServerSpec.toJson
  flaw? := ServerSpec.flaw?
  placement := ServerSpec.placement

instance : OperandSpec AgentSpec where
  kind := .agent
  read? := AgentSpec.read?
  toJson := AgentSpec.toJson
  flaw? := AgentSpec.flaw?
  placement := AgentSpec.placement

instance : OperandSpec DiscoverySpec where
  kind := .discovery
  read? := DiscoverySpec.read?
  toJson := DiscoverySpec.toJson
  flaw? := DiscoverySpec.flaw?
  placement := DiscoverySpec.placement

instance : OperandSpec DriverSpec where
  kind := .driver
  read? := DriverSpec.read?
  toJson := DriverSpec.toJson
  flaw? := DriverSpec.flaw?
  placement := DriverSpec.placement

/-- An operand as its user wrote it. -/
abbrev Operand (σ : Type) := Custom σ OperandStatus

namespace Operand

variable {σ : Type}

def read? [OperandSpec σ] (v : Json) : Option (Operand σ) :=
  Custom.read? OperandSpec.read? OperandStatus.read? v

/-- The conditions of the stored status. -/
def conditions (o : Operand σ) : List Condition := (o.status.map (·.conditions)).getD []

end Operand

/-- The manager as its user wrote it. -/
abbrev Manager := Custom ManagerSpec ManagerStatus

namespace Manager

def kindName : String := "ZeroTrustWorkloadIdentityManager"

def plural : String := "zerotrustworkloadidentitymanagers"

/-- The name of the manager in metrics. -/
def label : String := "zero-trust-workload-identity-manager"

def read? (v : Json) : Option Manager := Custom.read? ManagerSpec.read? ManagerStatus.read? v

end Manager

end WorkloadIdentity

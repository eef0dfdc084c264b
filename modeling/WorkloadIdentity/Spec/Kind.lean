namespace WorkloadIdentity

/-- The only name under which a resource is looked after. -/
def singletonName : String := "cluster"

/-- The group of the resources that users write. -/
def customGroup : String := "operator.openshift.io"

def customVersion : String := "v1alpha1"

def customApiVersion : String := customGroup ++ "/" ++ customVersion

/-- The four operands, in the order in which they are reported. -/
inductive OperandKind where
  | server
  | agent
  | discovery
  | driver
deriving DecidableEq, Repr, Inhabited

namespace OperandKind

/-- All operands, in the order in which they are reported. -/
def all : List OperandKind := [server, agent, discovery, driver]

def kindName : OperandKind → String
  | server => "SpireServer"
  | agent => "SpireAgent"
  | discovery => "SpireOIDCDiscoveryProvider"
  | driver => "SpiffeCSIDriver"

/-- The name of the collection of the resources. -/
def plural : OperandKind → String
  | server => "spireservers"
  | agent => "spireagents"
  | discovery => "spireoidcdiscoveryproviders"
  | driver => "spiffecsidrivers"

/-- The name of the operand in metrics. -/
def label : OperandKind → String
  | server => "spire-server"
  | agent => "spire-agent"
  | discovery => "spire-oidc-discovery-provider"
  | driver => "spiffe-csi-driver"

def ofKindName? (name : String) : Option OperandKind := all.find? (fun k => k.kindName = name)

theorem mem_all (k : OperandKind) : k ∈ all := by cases k <;> simp [all]

end OperandKind

end WorkloadIdentity

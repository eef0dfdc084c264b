import WorkloadIdentity.Pass.Manager

namespace WorkloadIdentity

/-- The kinds of resources that users write. -/
inductive CustomKind where
  | manager
  | operand (kind : OperandKind)
deriving DecidableEq, Repr

namespace CustomKind

/-- All kinds. -/
def all : List CustomKind := OperandKind.all.map operand ++ [manager]

def kindName : CustomKind → String
  | manager => Manager.kindName
  | operand kind => kind.kindName

/-- The name of the kind in metrics. -/
def label : CustomKind → String
  | manager => Manager.label
  | operand kind => kind.label

def collection : CustomKind → Collection
  | manager => .managers
  | operand kind => .operands kind

def ofKindName? (name : String) : Option CustomKind := all.find? (fun k => k.kindName = name)

theorem mem_all (k : CustomKind) : k ∈ all := by
  rcases k with _ | k
  · simp [all]
  · simp [all, OperandKind.mem_all k]

theorem ofKindName?_kindName (k : CustomKind) : ofKindName? k.kindName = some k := by
  rcases k with _ | k
  · rfl
  · cases k <;> rfl

theorem eq_of_kindName_eq {k l : CustomKind} (h : k.kindName = l.kindName) : k = l := by
  have same : some k = some l := by rw [← ofKindName?_kindName k, ← ofKindName?_kindName l, h]
  exact Option.some.inj same

end CustomKind

/-- A resource of any kind. -/
inductive CustomResource where
  | manager (m : Manager)
  | server (o : Operand ServerSpec)
  | agent (o : Operand AgentSpec)
  | discovery (o : Operand DiscoverySpec)
  | driver (o : Operand DriverSpec)
deriving DecidableEq

namespace CustomResource

def kind : CustomResource → CustomKind
  | manager _ => .manager
  | server _ => .operand .server
  | agent _ => .operand .agent
  | discovery _ => .operand .discovery
  | driver _ => .operand .driver

def metadata : CustomResource → Meta
  | manager m => m.metadata
  | server o => o.metadata
  | agent o => o.metadata
  | discovery o => o.metadata
  | driver o => o.metadata

def read? (kind : CustomKind) (v : Json) : Option CustomResource :=
  match kind with
  | .manager => (Manager.read? v).map manager
  | .operand .server => (Operand.read? v).map server
  | .operand .agent => (Operand.read? v).map agent
  | .operand .discovery => (Operand.read? v).map discovery
  | .operand .driver => (Operand.read? v).map driver

/-- A pass over the resource, which takes `elapsed` nanoseconds. -/
def look (scene : Scene) (elapsed : Nat) (ledger : Ledger) :
    CustomResource → Exchange (Except Fault Revisit × Ledger)
  | manager m => m.look scene elapsed ledger
  | server o => o.look scene elapsed ledger
  | agent o => o.look scene elapsed ledger
  | discovery o => o.look scene elapsed ledger
  | driver o => o.look scene elapsed ledger

/-- Counts a failed pass over the resource and tells when to try again. -/
def fail (r : CustomResource) (ledger : Ledger) (fault : Fault) : Ledger × Nat :=
  ledger.fail r.kind.kindName r.metadata fault

end CustomResource

end WorkloadIdentity

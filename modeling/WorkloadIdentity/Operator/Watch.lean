import WorkloadIdentity.Operator.Resource

/-! A resource of a controller's own kind is looked at itself. Anything else that it watches leads
to the one resource that is looked after, if it concerns that resource at all. -/

namespace WorkloadIdentity

/-- What is watched: resources that users write, or generated objects. -/
inductive WatchedKind where
  | resource (kind : CustomKind)
  | object (kind : ManagedKind)
deriving DecidableEq, Repr

structure Watch where
  kind : WatchedKind
  collection : Collection
  /-- The labels that watched objects carry; everything is watched if there are none. -/
  selector : String := ""
deriving DecidableEq, Repr

namespace Watch

def ofResources (kind : CustomKind) : Watch :=
  { kind := .resource kind, collection := kind.collection }

/-- A watch on the generated objects of a kind. -/
def ofObjects (kind : ManagedKind) (collection : Collection) : Watch :=
  { kind := .object kind, collection, selector := Label.managedBySelector }

/-- The watches on the objects that operands own. -/
def onObjects (space : String) : List Watch :=
  [ofObjects .configMap (.configMaps space),
    ofObjects .service (.services space),
    ofObjects .serviceAccount (.serviceAccounts space),
    ofObjects (.workload .daemonSet) (.daemonSets space),
    ofObjects (.workload .statefulSet) (.statefulSets space),
    ofObjects (.workload .deployment) (.deployments space)]

end Watch

/-- The watches of the controller for a kind: its own resources first. -/
def CustomKind.watches (space : String) : CustomKind → List Watch
  | manager => (manager :: OperandKind.all.map operand).map Watch.ofResources
  | operand kind => .ofResources (operand kind) :: .ofResources manager :: Watch.onObjects space

/-- A watched object. -/
inductive Seen where
  | resource (r : CustomResource)
  | object (m : Meta)

namespace Seen

def read? (kind : WatchedKind) (v : Json) : Option Seen :=
  match kind with
  | .resource kind => (CustomResource.read? kind v).map resource
  | .object kind => (Managed.read? (α := kind.Object) v).map (fun o => object (Managed.metadata o))

/-- Whether an object is owned by the one resource of a kind. -/
def isOwned (kind : CustomKind) (m : Meta) : Bool :=
  (m.ownerReferences.getD []).any
    (fun owner => owner.kind = kind.kindName && owner.name = singletonName)

/-- The name of the resource that a watched object leads the controller for `kind` to. -/
def leadsTo (kind : CustomKind) : Seen → Option String
  | resource r => some (if r.kind = kind then r.metadata.anyName else singletonName)
  | object m => if isOwned kind m then some singletonName else none

end Seen

end WorkloadIdentity

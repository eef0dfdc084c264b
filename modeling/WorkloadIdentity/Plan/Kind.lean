import WorkloadIdentity.Api.Address
import WorkloadIdentity.Plan.Basic

namespace WorkloadIdentity

/-- The kinds of objects that operands are made of. -/
inductive ManagedKind where
  | configMap
  | serviceAccount
  | service
  | role (reach : Reach)
  | binding (reach : Reach)
  | workload (kind : WorkloadKind)
  | csiDriver
  | untyped
deriving DecidableEq, Repr

namespace ManagedKind

/-- The objects of a kind. -/
@[reducible]
def Object : ManagedKind → Type
  | configMap => ConfigMap
  | serviceAccount => ServiceAccount
  | service => Service
  | role reach => Role reach
  | binding reach => Binding reach
  | workload kind => Workload kind
  | csiDriver => CsiDriver
  | untyped => Untyped

instance instManagedObject : (kind : ManagedKind) → Managed kind.Object
  | configMap => inferInstanceAs (Managed ConfigMap)
  | serviceAccount => inferInstanceAs (Managed ServiceAccount)
  | service => inferInstanceAs (Managed Service)
  | role reach => inferInstanceAs (Managed (Role reach))
  | binding reach => inferInstanceAs (Managed (Binding reach))
  | workload kind => inferInstanceAs (Managed (Workload kind))
  | csiDriver => inferInstanceAs (Managed CsiDriver)
  | untyped => inferInstanceAs (Managed Untyped)

/-- The kinds with their names. -/
def named : List (String × ManagedKind) :=
  [("ConfigMap", configMap), ("ServiceAccount", serviceAccount), ("Service", service),
    ("ClusterRole", role .cluster), ("Role", role .namespaced),
    ("ClusterRoleBinding", binding .cluster), ("RoleBinding", binding .namespaced),
    ("DaemonSet", workload .daemonSet), ("Deployment", workload .deployment),
    ("StatefulSet", workload .statefulSet), ("CSIDriver", csiDriver), ("DynamicObject", untyped)]

def ofName? (name : String) : Option ManagedKind := named.lookup name

end ManagedKind

/-- A wanted object and the collection that it belongs to. -/
structure Wanted where
  kind : ManagedKind
  object : kind.Object
  collection : Collection

namespace Wanted

variable (space : String)

def configMap (o : ConfigMap) : Wanted := ⟨.configMap, o, .configMaps space⟩

def serviceAccount (o : ServiceAccount) : Wanted := ⟨.serviceAccount, o, .serviceAccounts space⟩

def service (o : Service) : Wanted := ⟨.service, o, .services space⟩

def role (o : Role .namespaced) : Wanted := ⟨.role .namespaced, o, .roles space⟩

def clusterRole (o : Role .cluster) : Wanted := ⟨.role .cluster, o, .clusterRoles⟩

def roleBinding (o : Binding .namespaced) : Wanted := ⟨.binding .namespaced, o, .roleBindings space⟩

def clusterRoleBinding (o : Binding .cluster) : Wanted :=
  ⟨.binding .cluster, o, .clusterRoleBindings⟩

def daemonSet (o : DaemonSet) : Wanted := ⟨.workload .daemonSet, o, .daemonSets space⟩

def deployment (o : Deployment) : Wanted := ⟨.workload .deployment, o, .deployments space⟩

def statefulSet (o : StatefulSet) : Wanted := ⟨.workload .statefulSet, o, .statefulSets space⟩

def csiDriver (o : CsiDriver) : Wanted := ⟨.csiDriver, o, .csiDrivers⟩

def securityConstraints (o : Untyped) : Wanted := ⟨.untyped, o, .securityConstraints⟩

def clusterIdentity (o : Untyped) : Wanted := ⟨.untyped, o, .clusterIdentities⟩

def route (o : Untyped) : Wanted := ⟨.untyped, o, .routes space⟩

/-- The name of the object's kind. -/
def kindName (w : Wanted) : String := Managed.kindName w.object

def metadata (w : Wanted) : Meta := Managed.metadata w.object

end Wanted

end WorkloadIdentity

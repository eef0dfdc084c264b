import WorkloadIdentity.Spec.Custom

namespace WorkloadIdentity

/-- The objects of one kind in the cluster, or in one namespace. -/
structure Collection where
  /-- The group of the kind; the group of the oldest kinds has no name. -/
  group : String
  version : String
  plural : String
  namespaceName : Option String := none
deriving DecidableEq, Repr

namespace Collection

def groupPath (c : Collection) : String :=
  if c.group = "" then "/api/" ++ c.version else "/apis/" ++ c.group ++ "/" ++ c.version

def path (c : Collection) : String :=
  c.groupPath ++
    (match c.namespaceName with
      | some name => "/namespaces/" ++ name
      | none => "") ++ "/" ++ c.plural

def configMaps (space : String) : Collection := ⟨"", "v1", "configmaps", space⟩

def services (space : String) : Collection := ⟨"", "v1", "services", space⟩

def serviceAccounts (space : String) : Collection := ⟨"", "v1", "serviceaccounts", space⟩

def daemonSets (space : String) : Collection := ⟨"apps", "v1", "daemonsets", space⟩

def deployments (space : String) : Collection := ⟨"apps", "v1", "deployments", space⟩

def statefulSets (space : String) : Collection := ⟨"apps", "v1", "statefulsets", space⟩

def roles (space : String) : Collection := ⟨"rbac.authorization.k8s.io", "v1", "roles", space⟩

def roleBindings (space : String) : Collection :=
  ⟨"rbac.authorization.k8s.io", "v1", "rolebindings", space⟩

def clusterRoles : Collection := ⟨"rbac.authorization.k8s.io", "v1", "clusterroles", none⟩

def clusterRoleBindings : Collection :=
  ⟨"rbac.authorization.k8s.io", "v1", "clusterrolebindings", none⟩

def csiDrivers : Collection := ⟨"storage.k8s.io", "v1", "csidrivers", none⟩

def securityConstraints : Collection :=
  ⟨"security.openshift.io", "v1", "securitycontextconstraints", none⟩

def clusterIdentities : Collection := ⟨"spire.spiffe.io", "v1alpha1", "clusterspiffeids", none⟩

def routes (space : String) : Collection := ⟨"route.openshift.io", "v1", "routes", space⟩

/-- The resources that users write for an operand. -/
def operands (kind : OperandKind) : Collection := ⟨customGroup, customVersion, kind.plural, none⟩

def managers : Collection := ⟨customGroup, customVersion, Manager.plural, none⟩

end Collection

namespace Address

/-- The characters of a path, those apart that should be escaped and are let through. -/
def isPathChar (c : Char) : Bool :=
  c = '!' || ('$' ≤ c && c ≤ ';') || c = '=' || ('@' ≤ c && c ≤ '_') || ('a' ≤ c && c ≤ 'z') ||
    c = '|' || c = '~' || c = '"' || c = '\x7b' || c = '\x7d'

def isQueryChar (c : Char) : Bool :=
  c = '!' || ('$' ≤ c && c ≤ ';') || c = '=' || ('?' ≤ c && c ≤ '~')

/-- Whether the rest of a target, behind the question mark, is a query. A fragment is cut off. -/
def isQuery (target : List Char) : Bool := (target.takeWhile (· ≠ '#')).all isQueryChar

/-- The characters of the path at the start of a target. -/
def pathChars? : List Char → Option (List Char)
  | [] => some []
  | c :: rest =>
    if c = '#' then some []
    else if c = '?' then if isQuery rest then some [] else none
    else if isPathChar c then (pathChars? rest).map (c :: ·)
    else none

/-- The path of a target, if the target is an address. -/
def path? (target : String) : Option String := (pathChars? target.toList).map String.ofList

end Address

end WorkloadIdentity

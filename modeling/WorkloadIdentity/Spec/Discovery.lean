import WorkloadIdentity.Spec.Issuer
import WorkloadIdentity.Spec.Placement

namespace WorkloadIdentity

structure DiscoverySpec where
  logLevel : String := "info"
  jwtIssuer : String
  replicaCount : Int := 1
  managedRoute : Bool := true
  agentSocketName : String := "spire-agent.sock"
  placement : Placement := {}
deriving DecidableEq, Repr, Inhabited

namespace DiscoverySpec

def read? (v : Json) : Option DiscoverySpec := do
  let ms ← v.members?
  let logLevel ← ms.withDefault "logLevel" "info" Json.str?
  let jwtIssuer ← ms.required "jwtIssuer" Json.str?
  let replicaCount ← ms.withDefault "replicaCount" 1 Json.int32?
  let managedRoute ← ms.withDefault "managedRoute" true Json.bool?
  let agentSocketName ← ms.withDefault "agentSocketName" "spire-agent.sock" Json.str?
  let placement ← Placement.ofMembers? ms
  return { logLevel, jwtIssuer, replicaCount, managedRoute, agentSocketName, placement }

def toJson (s : DiscoverySpec) : Json :=
  .obj ([("logLevel", .str s.logLevel), ("jwtIssuer", .str s.jwtIssuer),
    ("replicaCount", .int s.replicaCount), ("managedRoute", .bool s.managedRoute),
    ("agentSocketName", .str s.agentSocketName)] ++ s.placement.toMembers)

def replicaFlaw? (replicas : Int) : Option String :=
  if replicas < 1 then some ("replicaCount: must be at least 1, got " ++ toString replicas)
  else none

def socketFlaw? (name : String) : Option String :=
  if name = "" || name.toList.contains '/' then
    some ("agentSocketName: must be a plain file name, got " ++ quoted name)
  else none

/-- The first rule that a specification breaks. -/
def flaw? (s : DiscoverySpec) : Option String :=
  (Issuer.flaw? s.jwtIssuer).or <|
    (replicaFlaw? s.replicaCount).or (socketFlaw? s.agentSocketName)

end DiscoverySpec

end WorkloadIdentity

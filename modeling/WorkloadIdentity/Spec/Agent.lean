import WorkloadIdentity.Spec.Placement
import WorkloadIdentity.Text.Quoted

namespace WorkloadIdentity

/-- How an agent checks the certificate of the kubelet. -/
inductive KubeletCheck where
  | auto
  | hostCert
  | apiServerCa
  | skip
deriving DecidableEq, Repr, Inhabited

namespace KubeletCheck

def text : KubeletCheck → String
  | auto => "Auto"
  | hostCert => "HostCert"
  | apiServerCa => "APIServerCA"
  | skip => "Skip"

def ofText? : String → Option KubeletCheck
  | "Auto" => some auto
  | "HostCert" => some hostCert
  | "APIServerCA" => some apiServerCa
  | "Skip" => some skip
  | _ => none

def read? (v : Json) : Option KubeletCheck := v.unitName?.bind ofText?

end KubeletCheck

structure Verification where
  type : KubeletCheck := .auto
  hostCertBasePath : Option String := none
  hostCertFileName : Option String := none
deriving DecidableEq, Repr, Inhabited

namespace Verification

def read? (v : Json) : Option Verification := do
  let ms ← v.record? ["type", "hostCertBasePath", "hostCertFileName"]
  let type ← ms.withDefault "type" .auto KubeletCheck.read?
  let hostCertBasePath ← ms.optional "hostCertBasePath" Json.str?
  let hostCertFileName ← ms.optional "hostCertFileName" Json.str?
  return { type, hostCertBasePath, hostCertFileName }

def toJson (s : Verification) : Json :=
  .obj ([("type", .str s.type.text)] ++ Json.optionalText "hostCertBasePath" s.hostCertBasePath ++
    Json.optionalText "hostCertFileName" s.hostCertFileName)

end Verification

structure WorkloadAttestors where
  k8sEnabled : Bool := true
  disableContainerSelectors : Bool := false
  useNewContainerLocator : Bool := true
  verification : Verification := {}
deriving DecidableEq, Repr, Inhabited

namespace WorkloadAttestors

def read? (v : Json) : Option WorkloadAttestors := do
  let ms ← v.record? ["k8sEnabled", "disableContainerSelectors", "useNewContainerLocator",
    "verification"]
  let k8sEnabled ← ms.withDefault "k8sEnabled" true Json.bool?
  let disableContainerSelectors ← ms.withDefault "disableContainerSelectors" false Json.bool?
  let useNewContainerLocator ← ms.withDefault "useNewContainerLocator" true Json.bool?
  let verification ← ms.withDefault "verification" {} Verification.read?
  return { k8sEnabled, disableContainerSelectors, useNewContainerLocator, verification }

def toJson (s : WorkloadAttestors) : Json :=
  .obj [("k8sEnabled", .bool s.k8sEnabled),
    ("disableContainerSelectors", .bool s.disableContainerSelectors),
    ("useNewContainerLocator", .bool s.useNewContainerLocator),
    ("verification", s.verification.toJson)]

end WorkloadAttestors

structure NodeAttestor where
  psatEnabled : Bool := true
deriving DecidableEq, Repr, Inhabited

namespace NodeAttestor

def read? (v : Json) : Option NodeAttestor := do
  let ms ← v.record? ["k8sPSATEnabled"]
  let psatEnabled ← ms.withDefault "k8sPSATEnabled" true Json.bool?
  return { psatEnabled }

def toJson (s : NodeAttestor) : Json := .obj [("k8sPSATEnabled", .bool s.psatEnabled)]

end NodeAttestor

/-- The directory on a node in which the sockets of the agents lie. -/
def defaultSocketPath : String := "/run/spire/agent-sockets"

structure AgentSpec where
  logLevel : String := "info"
  logFormat : String := "text"
  socketPath : String := defaultSocketPath
  nodeAttestor : NodeAttestor := {}
  workloadAttestors : WorkloadAttestors := {}
  placement : Placement := {}
deriving DecidableEq, Repr, Inhabited

namespace AgentSpec

def read? (v : Json) : Option AgentSpec := do
  let ms ← v.members?
  let logLevel ← ms.withDefault "logLevel" "info" Json.str?
  let logFormat ← ms.withDefault "logFormat" "text" Json.str?
  let socketPath ← ms.withDefault "socketPath" defaultSocketPath Json.str?
  let nodeAttestor ← ms.withDefault "nodeAttestor" {} NodeAttestor.read?
  let workloadAttestors ← ms.withDefault "workloadAttestors" {} WorkloadAttestors.read?
  let placement ← Placement.ofMembers? ms
  return { logLevel, logFormat, socketPath, nodeAttestor, workloadAttestors, placement }

def toJson (s : AgentSpec) : Json :=
  .obj ([("logLevel", .str s.logLevel), ("logFormat", .str s.logFormat),
    ("socketPath", .str s.socketPath), ("nodeAttestor", s.nodeAttestor.toJson),
    ("workloadAttestors", s.workloadAttestors.toJson)] ++ s.placement.toMembers)

def verificationFlaw? (v : Verification) : Option String :=
  if v.type = .hostCert &&
      (v.hostCertBasePath.getD "" = "" || v.hostCertFileName.getD "" = "") then
    some ("workloadAttestors.verification: HostCert requires hostCertBasePath and " ++
      "hostCertFileName")
  else none

/-- The first rule that a specification breaks. -/
def flaw? (s : AgentSpec) : Option String :=
  if !s.socketPath.startsWith "/" then
    some ("socketPath: must be an absolute path, got " ++ quoted s.socketPath)
  else verificationFlaw? s.workloadAttestors.verification

end AgentSpec

end WorkloadIdentity

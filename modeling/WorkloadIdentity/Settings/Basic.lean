import WorkloadIdentity.Fault
import WorkloadIdentity.Json.Reading

namespace WorkloadIdentity

/-- The images of the containers. -/
inductive Image where
  | server
  | agent
  | driver
  | discovery
  | controllerManager
  | registrar
  | driverInit
deriving DecidableEq, Repr, Inhabited

namespace Image

def all : List Image :=
  [server, agent, driver, discovery, controllerManager, registrar, driverInit]

/-- The name of the setting among the images. -/
def key : Image → String
  | server => "spire_server"
  | agent => "spire_agent"
  | driver => "spiffe_csi_driver"
  | discovery => "spire_oidc_discovery_provider"
  | controllerManager => "spire_controller_manager"
  | registrar => "node_driver_registrar"
  | driverInit => "spiffe_csi_init"

end Image

structure Images where
  server : String := "ghcr.io/spiffe/spire-server:1.12.0"
  agent : String := "ghcr.io/spiffe/spire-agent:1.12.0"
  driver : String := "ghcr.io/spiffe/spiffe-csi-driver:0.2.7"
  discovery : String := "ghcr.io/spiffe/oidc-discovery-provider:1.12.0"
  controllerManager : String := "ghcr.io/spiffe/spire-controller-manager:0.6.2"
  registrar : String := "registry.k8s.io/sig-storage/csi-node-driver-registrar:v2.13.0"
  driverInit : String := "registry.access.redhat.com/ubi9/ubi-minimal:latest"
deriving DecidableEq, Repr, Inhabited

namespace Images

def get (images : Images) : Image → String
  | .server => images.server
  | .agent => images.agent
  | .driver => images.driver
  | .discovery => images.discovery
  | .controllerManager => images.controllerManager
  | .registrar => images.registrar
  | .driverInit => images.driverInit

/-- The images that a function names. -/
def ofFunction (name : Image → String) : Images where
  server := name .server
  agent := name .agent
  driver := name .driver
  discovery := name .discovery
  controllerManager := name .controllerManager
  registrar := name .registrar
  driverInit := name .driverInit

def toJson (images : Images) : Json := .obj (Image.all.map (fun i => (i.key, .str (images.get i))))

/-- Reads images that are all given. -/
def read? (v : Json) : Option Images := do
  let ms ← v.record? (Image.all.map Image.key)
  let server ← ms.required Image.server.key Json.str?
  let agent ← ms.required Image.agent.key Json.str?
  let driver ← ms.required Image.driver.key Json.str?
  let discovery ← ms.required Image.discovery.key Json.str?
  let controllerManager ← ms.required Image.controllerManager.key Json.str?
  let registrar ← ms.required Image.registrar.key Json.str?
  let driverInit ← ms.required Image.driverInit.key Json.str?
  return { server, agent, driver, discovery, controllerManager, registrar, driverInit }

theorem get_ofFunction (name : Image → String) (i : Image) : (ofFunction name).get i = name i := by
  cases i <;> rfl

end Images

/-- What is chosen for the whole installation. -/
structure Settings where
  operandNamespace : String := "zero-trust-workload-identity-manager"
  createOnly : Bool := false
  /-- A resource that is up to date is looked at again after this many seconds. -/
  intervalSeconds : Nat := 300
  images : Images := {}
deriving DecidableEq, Repr, Inhabited

namespace Settings

/-- The rule that settings break. -/
def flaw? (s : Settings) : Option String :=
  if s.operandNamespace = "" then some "operand_namespace 不能为空"
  else if s.intervalSeconds = 0 then some "reconcile_interval_seconds 必须大于 0"
  else none

/-- Accepts settings or tells the rule that they break. -/
def check (s : Settings) : Except Fault Settings :=
  match s.flaw? with
  | some flaw => .error (.config flaw)
  | none => .ok s

def toJson (s : Settings) : Json :=
  .obj [("operand_namespace", .str s.operandNamespace), ("create_only_mode", .bool s.createOnly),
    ("reconcile_interval_seconds", .int s.intervalSeconds), ("images", s.images.toJson)]

/-- Reads settings that are all given. -/
def read? (v : Json) : Option Settings := do
  let ms ← v.record? ["operand_namespace", "create_only_mode", "reconcile_interval_seconds",
    "images"]
  let operandNamespace ← ms.required "operand_namespace" Json.str?
  let createOnly ← ms.required "create_only_mode" Json.bool?
  let intervalSeconds ← ms.required "reconcile_interval_seconds" Json.nat64?
  let images ← ms.required "images" Images.read?
  return { operandNamespace, createOnly, intervalSeconds, images }

end Settings

end WorkloadIdentity

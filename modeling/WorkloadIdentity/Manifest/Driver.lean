import WorkloadIdentity.Manifest.Frame
import WorkloadIdentity.Manifest.Parts

namespace WorkloadIdentity.DriverManifest

def name : String := OperandKind.driver.objectName

def pluginsDir : String := "/var/lib/kubelet/plugins"

def registryDir : String := "/var/lib/kubelet/plugins_registry"

def podsDir : String := "/var/lib/kubelet/pods"

/-- Where the sockets of the agent are mounted. -/
def agentSocketDir : String := "/spire-agent-socket"

/-- Where the driver's own socket is mounted. -/
def driverSocketDir : String := "/spiffe-csi"

def driverSocket : String := driverSocketDir ++ "/csi.sock"

variable (site : Site DriverSpec)

def serviceAccount : ServiceAccount := site.frame.serviceAccount name

/-- The driver mounts directories for other pods, so it has to be privileged. -/
def securityConstraints : Untyped := site.frame.securityConstraints name name true

/-- The object that announces the driver, under the name of the plugin. -/
def csiDriver : CsiDriver :=
  { metadata := site.frame.clusterMetadata site.spec.pluginName
    spec := {
      attachRequired := some false
      podInfoOnMount := some true
      fsGroupPolicy := some "None"
      volumeLifecycleModes := some ["Ephemeral"] } }

def pluginDir : String := pluginsDir ++ "/" ++ site.spec.pluginName

/-- Labels the directory of the sockets so that workloads may open them. -/
def initContainer : Container :=
  { name := "set-context"
    image := some site.settings.images.driverInit
    command := some ["chcon"]
    args := some ["-Rvt", "container_file_t", "spire-agent-socket/"]
    volumeMounts := some [
      { name := "spire-agent-socket-dir", mountPath := agentSocketDir, readOnly := some false }]
    others := Container.settings [] none none SecurityContext.privileged }

def driverContainer : Container :=
  { name := "spiffe-csi-driver"
    image := some site.settings.images.driver
    args := some ["-workload-api-socket-dir", agentSocketDir, "-plugin-name",
      site.spec.pluginName, "-csi-socket-path", driverSocket]
    env := some [.ofNodeName "MY_NODE_NAME"]
    volumeMounts := some [
      { name := "spire-agent-socket-dir", mountPath := agentSocketDir, readOnly := some true },
      { name := "spiffe-csi-socket-dir", mountPath := driverSocketDir, readOnly := some false },
      { name := "mountpoint-dir", mountPath := podsDir, readOnly := some false,
        others := [("mountPropagation", .str "Bidirectional")] }]
    others := Container.settings [] none none
      (SecurityContext.privileged ++ [("readOnlyRootFilesystem", .bool true)]) }

def registrarContainer : Container :=
  { name := "node-driver-registrar"
    image := some site.settings.images.registrar
    args := some ["-csi-address=" ++ driverSocket,
      "-kubelet-registration-path=" ++ pluginDir site ++ "/csi.sock", "-health-port=9809"]
    env := some [{ name := "ADDRESS", value := some driverSocket }]
    volumeMounts := some [
      { name := "spiffe-csi-socket-dir", mountPath := driverSocketDir, readOnly := some false },
      { name := "kubelet-plugin-registration-dir", mountPath := "/registration",
        readOnly := some false }]
    others := Container.settings [] none none [] }

def pod : PodSpec :=
  site.spec.placement.place
    { serviceAccountName := some name
      initContainers := some [initContainer site]
      volumes := some [
        .ofHostPath "spire-agent-socket-dir" site.spec.agentSocketPath "DirectoryOrCreate",
        .ofHostPath "spiffe-csi-socket-dir" (pluginDir site) "DirectoryOrCreate",
        .ofHostPath "kubelet-plugin-registration-dir" registryDir "Directory",
        .ofHostPath "mountpoint-dir" podsDir "Directory"] }
    (driverContainer site) [registrarContainer site]

def daemonSet : DaemonSet :=
  { metadata := site.frame.metadata name
    spec := some {
      WorkloadSpec.ofPods (Label.selector name) (site.frame.podLabels name)
        (.ofList [(defaultContainerKey, "spiffe-csi-driver")]) (pod site) with
      others := WorkloadSpec.oneAtATime } }

end WorkloadIdentity.DriverManifest

import WorkloadIdentity.Object.Shape

namespace WorkloadIdentity.Catalog

open Shape

def ownerReference : Shape := record [
  must "apiVersion" text, may "blockOwnerDeletion" flag, may "controller" flag,
  must "kind" text, must "name" text, must "uid" text]

def managedFields : Shape := record [
  may "apiVersion" text, may "fieldsType" text, may "fieldsV1" any, may "manager" text,
  may "operation" text, may "subresource" text, may "time" time]

def objectMeta : Shape := record [
  may "annotations" textMap, may "creationTimestamp" time, may "deletionGracePeriodSeconds" int64,
  may "deletionTimestamp" time, may "finalizers" texts, may "generateName" text,
  may "generation" int64, may "labels" textMap, may "managedFields" (list managedFields),
  may "name" text, may "namespace" text, may "ownerReferences" (list ownerReference),
  may "resourceVersion" text, may "selfLink" text, may "uid" text]

def labelSelector : Shape := record [
  may "matchExpressions"
    (list (record [must "key" text, must "operator" text, may "values" texts])),
  may "matchLabels" textMap]

def localReference : Shape := record [may "name" text]

def objectReference : Shape := record [
  may "apiVersion" text, may "fieldPath" text, may "kind" text, may "name" text,
  may "namespace" text, may "resourceVersion" text, may "uid" text]

def toleration : Shape := record [
  may "effect" text, may "key" text, may "operator" text, may "tolerationSeconds" int64,
  may "value" text]

def nodeRequirement : Shape :=
  record [must "key" text, must "operator" text, may "values" texts]

def nodeSelectorTerm : Shape := record [
  may "matchExpressions" (list nodeRequirement), may "matchFields" (list nodeRequirement)]

def podAffinityTerm : Shape := record [
  may "labelSelector" labelSelector, may "namespaceSelector" labelSelector,
  may "namespaces" texts, must "topologyKey" text]

def weightedPodAffinityTerm : Shape := record [
  must "podAffinityTerm" podAffinityTerm, must "weight" int32]

def podAffinity : Shape := record [
  may "preferredDuringSchedulingIgnoredDuringExecution" (list weightedPodAffinityTerm),
  may "requiredDuringSchedulingIgnoredDuringExecution" (list podAffinityTerm)]

def affinity : Shape := record [
  may "nodeAffinity" (record [
    may "preferredDuringSchedulingIgnoredDuringExecution"
      (list (record [must "preference" nodeSelectorTerm, must "weight" int32])),
    may "requiredDuringSchedulingIgnoredDuringExecution"
      (record [must "nodeSelectorTerms" (list nodeSelectorTerm)])]),
  may "podAffinity" podAffinity,
  may "podAntiAffinity" podAffinity]

def topologySpread : Shape := record [
  may "labelSelector" labelSelector, may "matchLabelKeys" texts, must "maxSkew" int32,
  may "minDomains" int32, may "nodeAffinityPolicy" text, may "nodeTaintsPolicy" text,
  must "topologyKey" text, must "whenUnsatisfiable" text]

def resources : Shape := record [
  may "claims" (list (record [must "name" text])), may "limits" (map quantity),
  may "requests" (map quantity)]

def claimSpec : Shape := record [
  may "accessModes" texts,
  may "dataSource" (record [may "apiGroup" text, must "kind" text, must "name" text]),
  may "dataSourceRef"
    (record [may "apiGroup" text, must "kind" text, must "name" text, may "namespace" text]),
  may "resources" resources, may "selector" labelSelector, may "storageClassName" text,
  may "volumeMode" text, may "volumeName" text]

def claimStatus : Shape := record [
  may "accessModes" texts, may "allocatedResources" (map quantity), may "capacity" (map quantity),
  may "conditions" (list (record [
    may "lastProbeTime" time, may "lastTransitionTime" time, may "message" text,
    may "reason" text, must "status" text, must "type" text])),
  may "phase" text, may "resizeStatus" text]

/-- A claim on storage, as it stands among the claim templates of a workload. -/
def volumeClaim : Shape := record [
  must "apiVersion" (constant "v1"), must "kind" (constant "PersistentVolumeClaim"),
  must "metadata" objectMeta, may "spec" claimSpec, may "status" claimStatus]

def keyToPath : Shape := record [must "key" text, may "mode" int32, must "path" text]

def fieldRef : Shape := record [may "apiVersion" text, must "fieldPath" text]

def resourceFieldRef : Shape := record [
  may "containerName" text, may "divisor" quantity, must "resource" text]

def downwardFile : Shape := record [
  may "fieldRef" fieldRef, may "mode" int32, must "path" text,
  may "resourceFieldRef" resourceFieldRef]

def volumeProjection : Shape := record [
  may "configMap" (record [may "items" (list keyToPath), may "name" text, may "optional" flag]),
  may "downwardAPI" (record [may "items" (list downwardFile)]),
  may "secret" (record [may "items" (list keyToPath), may "name" text, may "optional" flag]),
  may "serviceAccountToken"
    (record [may "audience" text, may "expirationSeconds" int64, must "path" text])]

def volume : Shape := record [
  may "awsElasticBlockStore" (record [
    may "fsType" text, may "partition" int32, may "readOnly" flag, must "volumeID" text]),
  may "azureDisk" (record [
    may "cachingMode" text, must "diskName" text, must "diskURI" text, may "fsType" text,
    may "kind" text, may "readOnly" flag]),
  may "azureFile" (record [may "readOnly" flag, must "secretName" text, must "shareName" text]),
  may "cephfs" (record [
    must "monitors" texts, may "path" text, may "readOnly" flag, may "secretFile" text,
    may "secretRef" localReference, may "user" text]),
  may "cinder" (record [
    may "fsType" text, may "readOnly" flag, may "secretRef" localReference,
    must "volumeID" text]),
  may "configMap" (record [
    may "defaultMode" int32, may "items" (list keyToPath), may "name" text,
    may "optional" flag]),
  may "csi" (record [
    must "driver" text, may "fsType" text, may "nodePublishSecretRef" localReference,
    may "readOnly" flag, may "volumeAttributes" textMap]),
  may "downwardAPI" (record [may "defaultMode" int32, may "items" (list downwardFile)]),
  may "emptyDir" (record [may "medium" text, may "sizeLimit" quantity]),
  may "ephemeral" (record [
    may "volumeClaimTemplate" (record [may "metadata" objectMeta, must "spec" claimSpec])]),
  may "fc" (record [
    may "fsType" text, may "lun" int32, may "readOnly" flag, may "targetWWNs" texts,
    may "wwids" texts]),
  may "flexVolume" (record [
    must "driver" text, may "fsType" text, may "options" textMap, may "readOnly" flag,
    may "secretRef" localReference]),
  may "flocker" (record [may "datasetName" text, may "datasetUUID" text]),
  may "gcePersistentDisk" (record [
    may "fsType" text, may "partition" int32, must "pdName" text, may "readOnly" flag]),
  may "gitRepo" (record [may "directory" text, must "repository" text, may "revision" text]),
  may "glusterfs" (record [must "endpoints" text, must "path" text, may "readOnly" flag]),
  may "hostPath" (record [must "path" text, may "type" text]),
  may "iscsi" (record [
    may "chapAuthDiscovery" flag, may "chapAuthSession" flag, may "fsType" text,
    may "initiatorName" text, must "iqn" text, may "iscsiInterface" text, must "lun" int32,
    may "portals" texts, may "readOnly" flag, may "secretRef" localReference,
    must "targetPortal" text]),
  must "name" text,
  may "nfs" (record [must "path" text, may "readOnly" flag, must "server" text]),
  may "persistentVolumeClaim" (record [must "claimName" text, may "readOnly" flag]),
  may "photonPersistentDisk" (record [may "fsType" text, must "pdID" text]),
  may "portworxVolume" (record [may "fsType" text, may "readOnly" flag, must "volumeID" text]),
  may "projected" (record [may "defaultMode" int32, may "sources" (list volumeProjection)]),
  may "quobyte" (record [
    may "group" text, may "readOnly" flag, must "registry" text, may "tenant" text,
    may "user" text, must "volume" text]),
  may "rbd" (record [
    may "fsType" text, must "image" text, may "keyring" text, must "monitors" texts,
    may "pool" text, may "readOnly" flag, may "secretRef" localReference, may "user" text]),
  may "scaleIO" (record [
    may "fsType" text, must "gateway" text, may "protectionDomain" text, may "readOnly" flag,
    must "secretRef" localReference, may "sslEnabled" flag, may "storageMode" text,
    may "storagePool" text, must "system" text, may "volumeName" text]),
  may "secret" (record [
    may "defaultMode" int32, may "items" (list keyToPath), may "optional" flag,
    may "secretName" text]),
  may "storageos" (record [
    may "fsType" text, may "readOnly" flag, may "secretRef" localReference,
    may "volumeName" text, may "volumeNamespace" text]),
  may "vsphereVolume" (record [
    may "fsType" text, may "storagePolicyID" text, may "storagePolicyName" text,
    must "volumePath" text])]

def envVar : Shape := record [
  must "name" text, may "value" text,
  may "valueFrom" (record [
    may "configMapKeyRef" (record [must "key" text, may "name" text, may "optional" flag]),
    may "fieldRef" fieldRef,
    may "resourceFieldRef" resourceFieldRef,
    may "secretKeyRef" (record [must "key" text, may "name" text, may "optional" flag])])]

def httpGet : Shape := record [
  may "host" text, may "httpHeaders" (list (record [must "name" text, must "value" text])),
  may "path" text, must "port" intOrText, may "scheme" text]

def tcpSocket : Shape := record [may "host" text, must "port" intOrText]

def execAction : Shape := record [may "command" texts]

def handler : Shape := record [
  may "exec" execAction, may "httpGet" httpGet, may "tcpSocket" tcpSocket]

def probe : Shape := record [
  may "exec" execAction, may "failureThreshold" int32,
  may "grpc" (record [must "port" int32, may "service" text]), may "httpGet" httpGet,
  may "initialDelaySeconds" int32, may "periodSeconds" int32, may "successThreshold" int32,
  may "tcpSocket" tcpSocket, may "terminationGracePeriodSeconds" int64,
  may "timeoutSeconds" int32]

def seLinuxOptions : Shape := record [
  may "level" text, may "role" text, may "type" text, may "user" text]

def seccompProfile : Shape := record [may "localhostProfile" text, must "type" text]

def windowsOptions : Shape := record [
  may "gmsaCredentialSpec" text, may "gmsaCredentialSpecName" text, may "hostProcess" flag,
  may "runAsUserName" text]

def securityContext : Shape := record [
  may "allowPrivilegeEscalation" flag,
  may "capabilities" (record [may "add" texts, may "drop" texts]), may "privileged" flag,
  may "procMount" text, may "readOnlyRootFilesystem" flag, may "runAsGroup" int64,
  may "runAsNonRoot" flag, may "runAsUser" int64, may "seLinuxOptions" seLinuxOptions,
  may "seccompProfile" seccompProfile, may "windowsOptions" windowsOptions]

def podSecurityContext : Shape := record [
  may "fsGroup" int64, may "fsGroupChangePolicy" text, may "runAsGroup" int64,
  may "runAsNonRoot" flag, may "runAsUser" int64, may "seLinuxOptions" seLinuxOptions,
  may "seccompProfile" seccompProfile, may "supplementalGroups" (list int64),
  may "sysctls" (list (record [must "name" text, must "value" text])),
  may "windowsOptions" windowsOptions]

def volumeMount : Shape := record [
  must "mountPath" text, may "mountPropagation" text, must "name" text, may "readOnly" flag,
  may "subPath" text, may "subPathExpr" text]

def containerPort : Shape := record [
  must "containerPort" int32, may "hostIP" text, may "hostPort" int32, may "name" text,
  may "protocol" text]

def containerMembers : List (String × Bool × Shape) := [
  may "args" texts, may "command" texts, may "env" (list envVar),
  may "envFrom" (list (record [
    may "configMapRef" (record [may "name" text, may "optional" flag]), may "prefix" text,
    may "secretRef" (record [may "name" text, may "optional" flag])])),
  may "image" text, may "imagePullPolicy" text,
  may "lifecycle" (record [may "postStart" handler, may "preStop" handler]),
  may "livenessProbe" probe, must "name" text, may "ports" (list containerPort),
  may "readinessProbe" probe, may "resources" resources, may "securityContext" securityContext,
  may "startupProbe" probe, may "stdin" flag, may "stdinOnce" flag,
  may "terminationMessagePath" text, may "terminationMessagePolicy" text, may "tty" flag,
  may "volumeDevices" (list (record [must "devicePath" text, must "name" text])),
  may "volumeMounts" (list volumeMount), may "workingDir" text]

def container : Shape := record containerMembers

def ephemeralContainer : Shape := record (containerMembers ++ [may "targetContainerName" text])

def podSpec : Shape := record [
  may "activeDeadlineSeconds" int64, may "affinity" affinity,
  may "automountServiceAccountToken" flag, must "containers" (list container),
  may "dnsConfig" (record [
    may "nameservers" texts, may "options" (list (record [may "name" text, may "value" text])),
    may "searches" texts]),
  may "dnsPolicy" text, may "enableServiceLinks" flag,
  may "ephemeralContainers" (list ephemeralContainer),
  may "hostAliases" (list (record [may "hostnames" texts, may "ip" text])), may "hostIPC" flag,
  may "hostNetwork" flag, may "hostPID" flag, may "hostUsers" flag, may "hostname" text,
  may "imagePullSecrets" (list localReference), may "initContainers" (list container),
  may "nodeName" text, may "nodeSelector" textMap, may "os" (record [must "name" text]),
  may "overhead" (map quantity), may "preemptionPolicy" text, may "priority" int32,
  may "priorityClassName" text, may "readinessGates" (list (record [must "conditionType" text])),
  may "resourceClaims" (list (record [
    must "name" text,
    may "source" (record [may "resourceClaimName" text, may "resourceClaimTemplateName" text])])),
  may "restartPolicy" text, may "runtimeClassName" text, may "schedulerName" text,
  may "schedulingGates" (list (record [must "name" text])),
  may "securityContext" podSecurityContext, may "serviceAccount" text,
  may "serviceAccountName" text, may "setHostnameAsFQDN" flag, may "shareProcessNamespace" flag,
  may "subdomain" text, may "terminationGracePeriodSeconds" int64,
  may "tolerations" (list toleration), may "topologySpreadConstraints" (list topologySpread),
  may "volumes" (list volume)]

def podTemplate : Shape := record [may "metadata" objectMeta, may "spec" podSpec]

def workloadConditionMembers : List (String × Bool × Shape) := [
  may "lastTransitionTime" time, may "message" text, may "reason" text, must "status" text,
  must "type" text]

def daemonSetSpec : Shape := record [
  may "minReadySeconds" int32, may "revisionHistoryLimit" int32, must "selector" labelSelector,
  must "template" podTemplate,
  may "updateStrategy" (record [
    may "rollingUpdate" (record [may "maxSurge" intOrText, may "maxUnavailable" intOrText]),
    may "type" text])]

def daemonSetStatus : Shape := record [
  may "collisionCount" int32, may "conditions" (list (record workloadConditionMembers)),
  must "currentNumberScheduled" int32, must "desiredNumberScheduled" int32,
  may "numberAvailable" int32, must "numberMisscheduled" int32, must "numberReady" int32,
  may "numberUnavailable" int32, may "observedGeneration" int64,
  may "updatedNumberScheduled" int32]

def deploymentSpec : Shape := record [
  may "minReadySeconds" int32, may "paused" flag, may "progressDeadlineSeconds" int32,
  may "replicas" int32, may "revisionHistoryLimit" int32, must "selector" labelSelector,
  may "strategy" (record [
    may "rollingUpdate" (record [may "maxSurge" intOrText, may "maxUnavailable" intOrText]),
    may "type" text]),
  must "template" podTemplate]

def deploymentStatus : Shape := record [
  may "availableReplicas" int32, may "collisionCount" int32,
  may "conditions" (list (record (may "lastUpdateTime" time :: workloadConditionMembers))),
  may "observedGeneration" int64, may "readyReplicas" int32, may "replicas" int32,
  may "unavailableReplicas" int32, may "updatedReplicas" int32]

def statefulSetSpec : Shape := record [
  may "minReadySeconds" int32, may "ordinals" (record [may "start" int32]),
  may "persistentVolumeClaimRetentionPolicy"
    (record [may "whenDeleted" text, may "whenScaled" text]),
  may "podManagementPolicy" text, may "replicas" int32, may "revisionHistoryLimit" int32,
  must "selector" labelSelector, must "serviceName" text, must "template" podTemplate,
  may "updateStrategy" (record [
    may "rollingUpdate" (record [may "maxUnavailable" intOrText, may "partition" int32]),
    may "type" text]),
  may "volumeClaimTemplates" (list volumeClaim)]

def statefulSetStatus : Shape := record [
  may "availableReplicas" int32, may "collisionCount" int32,
  may "conditions" (list (record workloadConditionMembers)), may "currentReplicas" int32,
  may "currentRevision" text, may "observedGeneration" int64, may "readyReplicas" int32,
  must "replicas" int32, may "updateRevision" text, may "updatedReplicas" int32]

/-- The members that every object of a kind has, and its own ones. -/
def object (apiVersion kind : String) (members : List (String × Bool × Shape)) : Shape :=
  record ([must "apiVersion" (constant apiVersion), must "kind" (constant kind),
    must "metadata" objectMeta] ++ members)

def configMap : Shape := object "v1" "ConfigMap" [
  may "binaryData" (map base64), may "data" textMap, may "immutable" flag]

def serviceAccount : Shape := object "v1" "ServiceAccount" [
  may "automountServiceAccountToken" flag, may "imagePullSecrets" (list localReference),
  may "secrets" (list objectReference)]

def servicePort : Shape := record [
  may "appProtocol" text, may "name" text, may "nodePort" int32, must "port" int32,
  may "protocol" text, may "targetPort" intOrText]

def service : Shape := object "v1" "Service" [
  may "spec" (record [
    may "allocateLoadBalancerNodePorts" flag, may "clusterIP" text, may "clusterIPs" texts,
    may "externalIPs" texts, may "externalName" text, may "externalTrafficPolicy" text,
    may "healthCheckNodePort" int32, may "internalTrafficPolicy" text, may "ipFamilies" texts,
    may "ipFamilyPolicy" text, may "loadBalancerClass" text, may "loadBalancerIP" text,
    may "loadBalancerSourceRanges" texts, may "ports" (list servicePort),
    may "publishNotReadyAddresses" flag, may "selector" textMap, may "sessionAffinity" text,
    may "sessionAffinityConfig" (record [may "clientIP" (record [may "timeoutSeconds" int32])]),
    may "type" text]),
  may "status" (record [
    may "conditions" (list (record [
      must "lastTransitionTime" time, must "message" text, may "observedGeneration" int64,
      must "reason" text, must "status" text, must "type" text])),
    may "loadBalancer" (record [
      may "ingress" (list (record [
        may "hostname" text, may "ip" text,
        may "ports"
          (list (record [may "error" text, must "port" int32, must "protocol" text]))]))])])]

def policyRule : Shape := record [
  may "apiGroups" texts, may "nonResourceURLs" texts, may "resourceNames" texts,
  may "resources" texts, must "verbs" texts]

def accessGroup : String := "rbac.authorization.k8s.io/v1"

def clusterRole : Shape := object accessGroup "ClusterRole" [
  may "aggregationRule" (record [may "clusterRoleSelectors" (list labelSelector)]),
  may "rules" (list policyRule)]

def role : Shape := object accessGroup "Role" [may "rules" (list policyRule)]

def roleRef : Shape := record [must "apiGroup" text, must "kind" text, must "name" text]

def subject : Shape := record [
  may "apiGroup" text, must "kind" text, must "name" text, may "namespace" text]

def clusterRoleBinding : Shape := object accessGroup "ClusterRoleBinding" [
  must "roleRef" roleRef, may "subjects" (list subject)]

def roleBinding : Shape := object accessGroup "RoleBinding" [
  must "roleRef" roleRef, may "subjects" (list subject)]

def daemonSet : Shape := object "apps/v1" "DaemonSet" [
  may "spec" daemonSetSpec, may "status" daemonSetStatus]

def deployment : Shape := object "apps/v1" "Deployment" [
  may "spec" deploymentSpec, may "status" deploymentStatus]

def statefulSet : Shape := object "apps/v1" "StatefulSet" [
  may "spec" statefulSetSpec, may "status" statefulSetStatus]

def csiDriver : Shape := object "storage.k8s.io/v1" "CSIDriver" [
  must "spec" (record [
    may "attachRequired" flag, may "fsGroupPolicy" text, may "podInfoOnMount" flag,
    may "requiresRepublish" flag, may "seLinuxMount" flag, may "storageCapacity" flag,
    may "tokenRequests" (list (record [must "audience" text, may "expirationSeconds" int64])),
    may "volumeLifecycleModes" texts])]

end WorkloadIdentity.Catalog

import WorkloadIdentity.Definition.Schema
import WorkloadIdentity.Spec.Custom

/-! The definitions that have to be installed in a cluster before the manager and the operands can
be created there. The defaults in a schema are those of the reader of the specification. -/

namespace WorkloadIdentity.Definition

open Schema Property

/-- The members that every operand has for labels, resources and placement. -/
def placementProperties : List Property := [
  unlessEmpty "labels" "附加到所有生成对象上的标签" (map text),
  optional "resources" "容器资源配额" (ofShape Catalog.resources),
  optional "affinity" "亲和性" (ofShape Catalog.affinity),
  unlessEmpty "tolerations" "容忍度" (list (ofShape Catalog.toleration)),
  unlessEmpty "nodeSelector" "节点选择器" (map text)]

def conditionSchema : Json := record (some "资源状态条件") [
  must "type" "条件类型" text,
  must "status" "条件状态" (choice ["True", "False", "Unknown"]),
  withDefault "reason" "机器可读的原因" text (.str ""),
  withDefault "message" "人类可读的说明" text (.str ""),
  optional "lastTransitionTime" "上次状态变化时间（RFC3339）" text,
  optional "observedGeneration" "观测到的资源代数" int64]

def managerSpec : Json :=
  record (some "零信任工作负载身份管理器规范\n\n保存所有组件共享的 SPIFFE 信任域与集群信息。") [
    must "trustDomain" "SPIFFE 信任域" text,
    withDefault "clusterName" "集群名称，用于节点证明与 controller-manager" text (.str "cluster"),
    withDefault "bundleConfigMap" "信任包 ConfigMap 名称" text (.str "spire-bundle")]

def caSubject : Json :=
  let s : CaSubject := {}
  record none [
    withDefault "country" "国家" text (.str s.country),
    withDefault "organization" "组织" text (.str s.organization),
    withDefault "commonName" "通用名称" text (.str s.commonName)]

def persistence : Json :=
  let p : Persistence := {}
  record none [
    withDefault "size" "卷大小" text (.str p.size),
    withDefault "accessMode" "访问模式" text (.str p.accessMode),
    optional "storageClass" "存储类" text]

def datastore : Json :=
  let d : Datastore := {}
  record none [
    withDefault "databaseType" "数据库类型：sqlite3、postgres、mysql" text (.str d.databaseType),
    withDefault "connectionString" "连接串" text (.str d.connectionString),
    withDefault "maxOpenConns" "最大打开连接数" int32 (.int d.maxOpenConns),
    withDefault "maxIdleConns" "最大空闲连接数" int32 (.int d.maxIdleConns),
    withDefault "connMaxLifetime" "连接最长存活时间（秒，0 表示不限制）" int32
      (.int d.connMaxLifetime),
    withDefault "disableMigration" "是否禁用自动迁移" flag (.bool d.disableMigration)]

def serverSpec : Json :=
  let s : ServerSpec := { jwtIssuer := "" }
  record (some "spire-server 规范") ([
    withDefault "logLevel" "日志级别" text (.str s.logLevel),
    withDefault "logFormat" "日志格式：text 或 json" text (.str s.logFormat),
    must "jwtIssuer" "JWT-SVID 签发者 URL" text,
    withDefault "caValidity" "CA 证书有效期" text (.str s.caValidity),
    withDefault "defaultX509Validity" "X509-SVID 默认有效期" text (.str s.defaultX509Validity),
    withDefault "defaultJWTValidity" "JWT-SVID 默认有效期" text (.str s.defaultJwtValidity),
    withDefault "caKeyType" "CA 密钥类型" text (.str s.caKeyType),
    optional "caSubject" "CA 证书主题" caSubject,
    withDefault "persistence" "数据持久化" persistence s.persistence.toJson,
    withDefault "datastore" "数据存储" datastore s.datastore.toJson] ++ placementProperties)

def nodeAttestor : Json :=
  let s : NodeAttestor := {}
  record none [withDefault "k8sPSATEnabled" "启用 k8s_psat 节点证明" flag (.bool s.psatEnabled)]

def verification : Json :=
  let v : Verification := {}
  record none [
    withDefault "type" "校验方式"
      (choice ([KubeletCheck.auto, .hostCert, .apiServerCa, .skip].map KubeletCheck.text))
      (.str v.type.text),
    optional "hostCertBasePath" "HostCert 模式下的主机证书目录" text,
    optional "hostCertFileName" "HostCert 模式下的证书文件名" text]

def workloadAttestors : Json :=
  let s : WorkloadAttestors := {}
  record none [
    withDefault "k8sEnabled" "启用 k8s 工作负载证明" flag (.bool s.k8sEnabled),
    withDefault "disableContainerSelectors" "禁用容器级选择器" flag
      (.bool s.disableContainerSelectors),
    withDefault "useNewContainerLocator" "使用新的容器定位器" flag
      (.bool s.useNewContainerLocator),
    withDefault "verification" "kubelet 证书校验方式" verification s.verification.toJson]

def agentSpec : Json :=
  let s : AgentSpec := {}
  record (some "spire-agent 规范") ([
    withDefault "logLevel" "日志级别" text (.str s.logLevel),
    withDefault "logFormat" "日志格式" text (.str s.logFormat),
    withDefault "socketPath" "主机上存放 Workload API socket 的目录" text (.str s.socketPath),
    withDefault "nodeAttestor" "节点证明" nodeAttestor s.nodeAttestor.toJson,
    withDefault "workloadAttestors" "工作负载证明" workloadAttestors s.workloadAttestors.toJson] ++
    placementProperties)

def discoverySpec : Json :=
  let s : DiscoverySpec := { jwtIssuer := "" }
  record (some "OIDC 发现服务规范") ([
    withDefault "logLevel" "日志级别" text (.str s.logLevel),
    must "jwtIssuer" "JWT 签发者 URL，其主机名同时作为 Route 主机" text,
    withDefault "replicaCount" "副本数" int32 (.int s.replicaCount),
    withDefault "managedRoute" "是否由 Operator 管理 Route" flag (.bool s.managedRoute),
    withDefault "agentSocketName" "agent socket 文件名" text (.str s.agentSocketName)] ++
    placementProperties)

def driverSpec : Json :=
  let s : DriverSpec := {}
  record (some "SPIFFE CSI 驱动规范") ([
    withDefault "agentSocketPath" "主机上 agent socket 所在目录，需与 SpireAgent.socketPath 一致" text
      (.str s.agentSocketPath),
    withDefault "pluginName" "CSI 插件名称" text (.str s.pluginName)] ++ placementProperties)

def operandStatus : Json := record (some "组件资源的状态，只包含条件列表") [
  withDefault "conditions" "状态条件" (list conditionSchema) (.arr [])]

def operandEntry : Json := record (some "顶层资源中记录的单个组件状态") [
  must "name" "组件资源名称" text,
  must "kind" "组件资源类型" text,
  must "ready" "是否就绪（\"true\" / \"false\"）" text,
  withDefault "message" "状态说明" text (.str ""),
  unlessEmpty "conditions" "组件上报的关键条件" (list conditionSchema)]

def managerStatus : Json := record (some "顶层资源状态") [
  withDefault "conditions" "汇总条件：Ready、Degraded、CreateOnlyMode、Upgradeable"
    (list conditionSchema) (.arr []),
  withDefault "operands" "各组件状态" (list operandEntry) (.arr [])]

/-- A column of the list of resources. -/
structure Column where
  name : String
  type : String
  path : String

def Column.toJson (c : Column) : Json :=
  .obj [("jsonPath", .str c.path), ("name", .str c.name), ("type", .str c.type)]

/-- The columns for readiness and age, which all resources have. -/
def commonColumns : List Column := [
  { name := "Ready", type := "string", path := ".status.conditions[?(@.type==\"Ready\")].status" },
  { name := "Age", type := "date", path := ".metadata.creationTimestamp" }]

/-- The definition of one custom resource. -/
structure Resource where
  kind : String
  plural : String
  shortNames : List String := []
  columns : List Column := commonColumns
  spec : Json
  status : Json

namespace Resource

/-- The name of a resource is its kind in lower case. -/
def singular (d : Resource) : String := String.ofList (d.kind.toList.map Char.toLower)

def name (d : Resource) : String := d.plural ++ "." ++ customGroup

/-- The schema of the whole resource; its metadata is not described. -/
def schema (d : Resource) : Json :=
  (record (some ("Auto-generated derived type for " ++ d.kind ++ "Spec via `CustomResource`")) [
    { name := "spec", schema := d.spec, isRequired := true },
    { name := "status", schema := d.status, isNullable := true }]).insert "title" (.str d.kind)

def toJson (d : Resource) : Json :=
  .obj [("apiVersion", .str "apiextensions.k8s.io/v1"), ("kind", .str "CustomResourceDefinition"),
    ("metadata", .obj [("name", .str d.name)]),
    ("spec", .obj [("group", .str customGroup),
      ("names", .obj [("categories", .arr []), ("kind", .str d.kind), ("plural", .str d.plural),
        ("shortNames", Json.strings d.shortNames), ("singular", .str d.singular)]),
      ("scope", .str "Cluster"),
      ("versions", .arr [.obj [
        ("additionalPrinterColumns", .arr (d.columns.map Column.toJson)),
        ("name", .str customVersion),
        ("schema", .obj [("openAPIV3Schema", d.schema)]),
        ("served", .bool true),
        ("storage", .bool true),
        ("subresources", .obj [("status", .obj [])])]])])]

end Resource

def manager : Resource where
  kind := Manager.kindName
  plural := Manager.plural
  shortNames := ["ztwim"]
  columns :=
    { name := "TrustDomain", type := "string", path := ".spec.trustDomain" } :: commonColumns
  spec := managerSpec
  status := managerStatus

/-- The definition of an operand's resource. -/
def operand (kind : OperandKind) : Resource where
  kind := kind.kindName
  plural := kind.plural
  spec := match kind with
    | .server => serverSpec
    | .agent => agentSpec
    | .discovery => discoverySpec
    | .driver => driverSpec
  status := operandStatus

/-- All definitions, that of the manager first. -/
def all : List Resource := manager :: OperandKind.all.map operand

end WorkloadIdentity.Definition

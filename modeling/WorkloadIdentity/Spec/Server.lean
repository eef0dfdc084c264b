import WorkloadIdentity.Spec.Duration
import WorkloadIdentity.Spec.Issuer
import WorkloadIdentity.Spec.Placement

namespace WorkloadIdentity

structure CaSubject where
  country : String := ""
  organization : String := ""
  commonName : String := ""
deriving DecidableEq, Repr, Inhabited

namespace CaSubject

def read? (v : Json) : Option CaSubject := do
  let ms ← v.record? ["country", "organization", "commonName"]
  let country ← ms.withDefault "country" "" Json.str?
  let organization ← ms.withDefault "organization" "" Json.str?
  let commonName ← ms.withDefault "commonName" "" Json.str?
  return { country, organization, commonName }

def toJson (s : CaSubject) : Json :=
  .obj [("country", .str s.country), ("organization", .str s.organization),
    ("commonName", .str s.commonName)]

end CaSubject

/-- The volume that the server keeps its data on. -/
structure Persistence where
  size : String := "1Gi"
  accessMode : String := "ReadWriteOnce"
  storageClass : Option String := none
deriving DecidableEq, Repr, Inhabited

namespace Persistence

def read? (v : Json) : Option Persistence := do
  let ms ← v.record? ["size", "accessMode", "storageClass"]
  let size ← ms.withDefault "size" "1Gi" Json.str?
  let accessMode ← ms.withDefault "accessMode" "ReadWriteOnce" Json.str?
  let storageClass ← ms.optional "storageClass" Json.str?
  return { size, accessMode, storageClass }

def toJson (p : Persistence) : Json :=
  .obj ([("size", .str p.size), ("accessMode", .str p.accessMode)] ++
    Json.optionalText "storageClass" p.storageClass)

end Persistence

/-- The database that the server keeps its entries in. -/
structure Datastore where
  databaseType : String := "sqlite3"
  connectionString : String := "/run/spire/data/datastore.sqlite3"
  maxOpenConns : Int := 100
  maxIdleConns : Int := 2
  /-- Seconds; zero is no limit. -/
  connMaxLifetime : Int := 0
  disableMigration : Bool := false
deriving DecidableEq, Repr, Inhabited

namespace Datastore

def read? (v : Json) : Option Datastore := do
  let ms ← v.record? ["databaseType", "connectionString", "maxOpenConns", "maxIdleConns",
    "connMaxLifetime", "disableMigration"]
  let databaseType ← ms.withDefault "databaseType" "sqlite3" Json.str?
  let connectionString ←
    ms.withDefault "connectionString" "/run/spire/data/datastore.sqlite3" Json.str?
  let maxOpenConns ← ms.withDefault "maxOpenConns" 100 Json.int32?
  let maxIdleConns ← ms.withDefault "maxIdleConns" 2 Json.int32?
  let connMaxLifetime ← ms.withDefault "connMaxLifetime" 0 Json.int32?
  let disableMigration ← ms.withDefault "disableMigration" false Json.bool?
  return { databaseType, connectionString, maxOpenConns, maxIdleConns, connMaxLifetime,
           disableMigration }

def toJson (d : Datastore) : Json :=
  .obj [("databaseType", .str d.databaseType), ("connectionString", .str d.connectionString),
    ("maxOpenConns", .int d.maxOpenConns), ("maxIdleConns", .int d.maxIdleConns),
    ("connMaxLifetime", .int d.connMaxLifetime), ("disableMigration", .bool d.disableMigration)]

end Datastore

structure ServerSpec where
  logLevel : String := "info"
  logFormat : String := "text"
  jwtIssuer : String
  caValidity : String := "24h"
  defaultX509Validity : String := "1h"
  defaultJwtValidity : String := "5m"
  caKeyType : String := "rsa-2048"
  caSubject : Option CaSubject := none
  persistence : Persistence := {}
  datastore : Datastore := {}
  placement : Placement := {}
deriving DecidableEq, Repr, Inhabited

namespace ServerSpec

def read? (v : Json) : Option ServerSpec := do
  let ms ← v.members?
  let logLevel ← ms.withDefault "logLevel" "info" Json.str?
  let logFormat ← ms.withDefault "logFormat" "text" Json.str?
  let jwtIssuer ← ms.required "jwtIssuer" Json.str?
  let caValidity ← ms.withDefault "caValidity" "24h" Json.str?
  let defaultX509Validity ← ms.withDefault "defaultX509Validity" "1h" Json.str?
  let defaultJwtValidity ← ms.withDefault "defaultJWTValidity" "5m" Json.str?
  let caKeyType ← ms.withDefault "caKeyType" "rsa-2048" Json.str?
  let caSubject ← ms.optional "caSubject" CaSubject.read?
  let persistence ← ms.withDefault "persistence" {} Persistence.read?
  let datastore ← ms.withDefault "datastore" {} Datastore.read?
  let placement ← Placement.ofMembers? ms
  return { logLevel, logFormat, jwtIssuer, caValidity, defaultX509Validity, defaultJwtValidity,
           caKeyType, caSubject, persistence, datastore, placement }

def toJson (s : ServerSpec) : Json :=
  .obj ([("logLevel", .str s.logLevel), ("logFormat", .str s.logFormat),
    ("jwtIssuer", .str s.jwtIssuer), ("caValidity", .str s.caValidity),
    ("defaultX509Validity", .str s.defaultX509Validity),
    ("defaultJWTValidity", .str s.defaultJwtValidity), ("caKeyType", .str s.caKeyType)] ++
    Json.optional "caSubject" (s.caSubject.map CaSubject.toJson) ++
    [("persistence", s.persistence.toJson), ("datastore", s.datastore.toJson)] ++
    s.placement.toMembers)

def databaseTypes : List String := ["sqlite3", "postgres", "mysql"]

def accessModes : List String := ["ReadWriteOnce", "ReadWriteOncePod", "ReadWriteMany"]

/-- The first of several named texts that is no duration. -/
def durationFlaw? (named : List (String × String)) : Option String :=
  (named.find? (fun (_, value) => !Duration.isDuration value)).map
    (fun (name, value) => name ++ ": invalid duration " ++ quoted value)

def datastoreFlaw? (d : Datastore) : Option String :=
  if d.databaseType ∉ databaseTypes then
    some ("datastore.databaseType: unsupported type " ++ quoted d.databaseType)
  else if d.connectionString = "" then some "datastore.connectionString must not be empty"
  else if d.maxOpenConns < 1 || d.maxIdleConns < 0 then
    some "datastore connection limits must be positive"
  else none

def persistenceFlaw? (p : Persistence) : Option String :=
  if p.accessMode ∉ accessModes then
    some ("persistence.accessMode: unsupported mode " ++ quoted p.accessMode)
  else none

/-- The first rule that a specification breaks. -/
def flaw? (s : ServerSpec) : Option String :=
  (Issuer.flaw? s.jwtIssuer).or <|
    (durationFlaw? [("caValidity", s.caValidity), ("defaultX509Validity", s.defaultX509Validity),
      ("defaultJWTValidity", s.defaultJwtValidity)]).or <|
    (datastoreFlaw? s.datastore).or (persistenceFlaw? s.persistence)

end ServerSpec

end WorkloadIdentity

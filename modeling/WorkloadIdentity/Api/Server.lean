import WorkloadIdentity.Api.Address
import WorkloadIdentity.Api.Exchange
import WorkloadIdentity.Object.Meta

/-! A small server that keeps objects by their paths: enough of one to run exchanges against. It
gives every write a new version, and can be told to disturb certain requests. -/

namespace WorkloadIdentity

/-- What happens to a disturbed request. -/
inductive Disturbance where
  | drop
  | reply (code : Nat) (text : String)
  | refuse (code : Nat) (reason message : String)
deriving DecidableEq, Repr

/-- A disturbance of the requests to one path. -/
structure Trouble where
  method : Method
  path : String
  /-- How many requests are still disturbed; all of them, if no number is given. -/
  remaining : Option Nat := none
  disturbance : Disturbance
deriving DecidableEq, Repr

namespace Trouble

def concerns (t : Trouble) (r : Request) : Bool := t.method = r.method && t.path = r.path

/-- What is left after one more disturbed request. -/
def next (t : Trouble) : Option Trouble :=
  match t.remaining with
  | none => some t
  | some n => if n ≤ 1 then none else some { t with remaining := some (n - 1) }

end Trouble

structure Server where
  objects : StringMap Json := ∅
  version : Nat := 0
  troubles : List Trouble := []
  /-- All requests so far, the last one first. -/
  log : List Request := []

namespace Server

def refuse (code : Nat) (reason message : String) : Reply :=
  .answer code (.value (.obj [("kind", .str "Status"), ("apiVersion", .str "v1"),
    ("metadata", .obj []), ("status", .str "Failure"), ("message", .str message),
    ("reason", .str reason), ("code", .int code)]))

def notFound (path : String) : Reply := refuse 404 "NotFound" (path ++ " not found")

def alreadyExists (path : String) : Reply :=
  refuse 409 "AlreadyExists" (path ++ " already exists")

def list (items : List Json) : Reply :=
  .answer 200 (.value (.obj [("apiVersion", .str "v1"), ("kind", .str "List"),
    ("metadata", .obj []), ("items", .arr items)]))

/-- The collections that can be listed, with those of one namespace. -/
def listable (space : String) : List Collection :=
  [.managers] ++ OperandKind.all.map .operands ++
    [.configMaps space, .services space, .serviceAccounts space, .daemonSets space,
      .statefulSets space, .deployments space]

/-- The segment before the last one, which is the namespace in the path of a collection. -/
def spaceOf (path : String) : String :=
  String.ofList (((path.toList.reverse.dropWhile (· ≠ '/')).drop 1).takeWhile (· ≠ '/')).reverse

/-- Whether a path is that of a collection that can be listed. -/
def isCollection (path : String) : Bool := (listable (spaceOf path)).any (·.path = path)

/-- The objects of a collection, by their paths. -/
def objectsBelow (s : Server) (path : String) : List Json :=
  (s.objects.entries.filter (fun e => e.1.startsWith (path ++ "/"))).map Prod.snd

/-- The path of the object that a path of its status belongs to. -/
def objectPath (path : String) : String :=
  if path.endsWith "/status" then (path.dropEnd "/status".length).toString else path

/-- An object with its version. -/
def versioned (object : Json) (version : Nat) : Json :=
  let m := (object.get? "metadata").getD (.obj [])
  object.insert "metadata" (m.insert "resourceVersion" (.str (toString version)))

/-- Stores an object under a new version and answers with it. -/
def store (s : Server) (path : String) (code : Nat) (object : Json) : Reply × Server :=
  let object := versioned object (s.version + 1)
  (.answer code (.value object),
    { s with objects := s.objects.insert path object, version := s.version + 1 })

/-- The name that an object gives itself. -/
def nameOf (object : Json) : String :=
  (((object.get? "metadata").bind (Json.get? "name")).bind Json.str?).getD ""

/-- A replacement keeps the status of the object. -/
def keepStatus (stored object : Json) : Json :=
  match stored.get? "status" with
  | some status => object.insert "status" status
  | none => object

def handle (s : Server) (r : Request) : Reply × Server :=
  let body := r.body.getD .null
  match r.method with
  | .get =>
    match s.objects.get? r.path with
    | some object => (.answer 200 (.value object), s)
    | none =>
      if isCollection r.path then (list (s.objectsBelow r.path), s) else (notFound r.path, s)
  | .post =>
    let path := r.path ++ "/" ++ nameOf body
    match s.objects.get? path with
    | some _ => (alreadyExists path, s)
    | none => s.store path 201 body
  | .put =>
    match s.objects.get? r.path with
    | some stored => s.store r.path 200 (keepStatus stored body)
    | none => (notFound r.path, s)
  | .patch =>
    let path := objectPath r.path
    match s.objects.get? path with
    | some stored => s.store path 200 (stored.merge body)
    | none => (notFound path, s)

/-- The first trouble that concerns a request, and the troubles after it. -/
def disturb (r : Request) : List Trouble → Option (Disturbance × List Trouble)
  | [] => none
  | t :: rest =>
    if t.concerns r then some (t.disturbance, (t.next).toList ++ rest)
    else (disturb r rest).map (fun found => (found.1, t :: found.2))

def disturbedReply : Disturbance → Reply
  | .drop => .dropped
  | .reply code text => .answer code (.text text)
  | .refuse code reason message => refuse code reason message

/-- Answers a request, unless something disturbs it. -/
def answer (r : Request) (s : Server) : Reply × Server :=
  let s := { s with log := r :: s.log }
  match disturb r s.troubles with
  | some (d, troubles) => (disturbedReply d, { s with troubles })
  | none => s.handle r

end Server

end WorkloadIdentity

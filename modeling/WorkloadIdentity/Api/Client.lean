import WorkloadIdentity.Api.Address
import WorkloadIdentity.Api.Exchange
import WorkloadIdentity.Fault

namespace WorkloadIdentity

/-- A value that is got from the API server. -/
abbrev Call := ExceptT ApiFault Exchange

namespace Api

/-- The usual phrase for the status of a reply. -/
def phrase? : Nat → Option String
  | 400 => "Bad Request"
  | 401 => "Unauthorized"
  | 402 => "Payment Required"
  | 403 => "Forbidden"
  | 404 => "Not Found"
  | 405 => "Method Not Allowed"
  | 406 => "Not Acceptable"
  | 407 => "Proxy Authentication Required"
  | 408 => "Request Timeout"
  | 409 => "Conflict"
  | 410 => "Gone"
  | 411 => "Length Required"
  | 412 => "Precondition Failed"
  | 413 => "Payload Too Large"
  | 414 => "URI Too Long"
  | 415 => "Unsupported Media Type"
  | 416 => "Range Not Satisfiable"
  | 417 => "Expectation Failed"
  | 418 => "I'm a teapot"
  | 421 => "Misdirected Request"
  | 422 => "Unprocessable Entity"
  | 423 => "Locked"
  | 424 => "Failed Dependency"
  | 426 => "Upgrade Required"
  | 428 => "Precondition Required"
  | 429 => "Too Many Requests"
  | 431 => "Request Header Fields Too Large"
  | 451 => "Unavailable For Legal Reasons"
  | 500 => "Internal Server Error"
  | 501 => "Not Implemented"
  | 502 => "Bad Gateway"
  | 503 => "Service Unavailable"
  | 504 => "Gateway Timeout"
  | 505 => "HTTP Version Not Supported"
  | 506 => "Variant Also Negotiates"
  | 507 => "Insufficient Storage"
  | 508 => "Loop Detected"
  | 510 => "Not Extended"
  | 511 => "Network Authentication Required"
  | _ => none

/-- The status of a reply: its code and phrase. -/
def statusLine (code : Nat) : String :=
  toString code ++ " " ++ (phrase? code).getD "<unknown status code>"

def isRefusal (code : Nat) : Bool := 400 ≤ code && code < 600

/-- The body of a refusal: what the server says about it. -/
def readStatus? (v : Json) : Option ApiFault := do
  let ms ← v.record? ["status", "message", "reason", "code"]
  let status ← ms.required "status" Json.str?
  let message ← ms.withDefault "message" "" Json.str?
  let reason ← ms.withDefault "reason" "" Json.str?
  let code ← ms.required "code" (Json.intIn? 0 65535)
  return .refused code.toNat status message reason

/-- What a refusal says; if its body does not tell, the body is quoted. -/
def refusal (code : Nat) (body : Body) : ApiFault :=
  (body.value?.bind readStatus?).getD
    (.refused code (statusLine code) (quoted body.toText) "Failed to parse error data")

/-- Whether a fault says that there is no such object. -/
def isNotFound : ApiFault → Bool
  | .refused _ _ _ reason => reason = "NotFound"
  | _ => false

variable {α : Type}

/-- Reads a reply as the expected value. -/
def readReply (read : Json → Option α) : Reply → Except ApiFault α
  | .dropped => .error (.connection "connection reset")
  | .answer code body =>
    if isRefusal code then .error (refusal code body)
    else match body.value?.bind read with
      | some a => .ok a
      | none => .error .unreadable

/-- Sends a request to a target and reads the reply. -/
def send (method : Method) (target : String) (body : Option Json) (read : Json → Option α) :
    Call α :=
  match Address.path? target with
  | none => .mk (.done (.error .badAddress))
  | some path => .mk (.ask { method, path, body } (fun reply => .done (readReply read reply)))

/-- The target of an object. -/
def targetOf (c : Collection) (name : String) : String := c.path ++ "/" ++ name

def get (c : Collection) (name : String) (read : Json → Option α) : Call α :=
  send .get (targetOf c name) none read

/-- An object that may be missing. -/
def find? (c : Collection) (name : String) (read : Json → Option α) : Call (Option α) :=
  .mk do
    match ← (get c name read).run with
    | .ok a => return .ok (some a)
    | .error fault => return if isNotFound fault then .ok none else .error fault

def create (c : Collection) (object : Json) (read : Json → Option α) : Call α :=
  send .post (c.path ++ "?") (some object) read

def replace (c : Collection) (name : String) (object : Json) (read : Json → Option α) : Call α :=
  send .put (targetOf c name ++ "?") (some object) read

/-- Changes the status of an object. -/
def patchStatus (c : Collection) (name : String) (patch : Json) (read : Json → Option α) :
    Call α :=
  send .patch (targetOf c name ++ "/status?") (some patch) read

/-- The metadata of a list. -/
def listMeta : Shape := .record [
  Shape.may "continue" .text, Shape.may "remainingItemCount" .int64,
  Shape.may "resourceVersion" .text, Shape.may "selfLink" .text]

def readList? (read : Json → Option α) (v : Json) : Option (List α) := do
  let ms ← v.record? ["metadata", "items"]
  let _ ← ms.required "metadata" listMeta.read
  ms.required "items" (Json.list? read)

/-- All objects of a collection. -/
def list (c : Collection) (read : Json → Option α) : Call (List α) :=
  send .get (c.path ++ "?") none (readList? read)

/-- The first object of a collection, if there is one. -/
def listOne (c : Collection) (read : Json → Option α) : Call (List α) :=
  send .get (c.path ++ "?&limit=1") none (readList? read)

end Api

end WorkloadIdentity

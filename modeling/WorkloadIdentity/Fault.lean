import WorkloadIdentity.Condition
import WorkloadIdentity.Text.Quoted

/-! A fault is *permanent* if it lies in what the user wrote, *transient* if the API server is
expected to recover by itself, and *retryable* if trying again soon may help. -/

namespace WorkloadIdentity

/-- What can go wrong with a request to the API server. -/
inductive ApiFault where
  /-- The server answered with a status that is no success. -/
  | refused (code : Nat) (status message reason : String)
  /-- The connection failed. -/
  | connection (message : String)
  /-- The connection broke while messages were passing. -/
  | transport (message : String)
  /-- The answer is not the expected value. -/
  | unreadable
  /-- A line of the answer is too long. -/
  | overlongLine
  /-- The name does not fit into an address. -/
  | badAddress
  /-- Anything else, in the words of the client. -/
  | other (text : String)
deriving DecidableEq, Repr

/-- What can go wrong in a pass. -/
inductive Fault where
  | api (fault : ApiFault)
  | config (message : String)
  | validation (message : String)
  | trustDomain (domain reason : String)
  | spiffeId (message : String)
  | invalidSpec (message : String)
  | missingMetadata (kind field : String)
  | managerNotFound (name : String)
  /-- A configuration cannot be written as JSON. -/
  | json (message : String)
  /-- A configuration cannot be written as YAML. -/
  | yaml (message : String)
  /-- A configuration cannot be written as JSON to take its fingerprint. -/
  | fingerprint (message : String)
deriving DecidableEq, Repr

namespace ApiFault

def message : ApiFault → String
  | refused code status message reason =>
    "ApiError: " ++ message ++ ": " ++ reason ++ " (ErrorResponse \x7b status: " ++ quoted status ++
      ", message: " ++ quoted message ++ ", reason: " ++ quoted reason ++ ", code: " ++
      toString code ++ " \x7d)"
  | connection message => "ServiceError: " ++ message
  | transport message => "HyperError: " ++ message
  | unreadable => "Error deserializing response"
  | overlongLine => "Error finding newline character"
  | badAddress => "Failed to build request: failed to build request: invalid uri character"
  | other text => text

/-- Conflicts, throttling, failures of the server and broken connections pass by themselves. -/
def isTransient : ApiFault → Bool
  | refused code _ _ _ => code = 409 || code = 429 || 500 ≤ code
  | connection _ => true
  | transport _ => true
  | _ => false

end ApiFault

namespace Fault

def message : Fault → String
  | api fault => "Kubernetes API 错误: " ++ fault.message
  | config message => "配置错误: " ++ message
  | validation message => "校验错误: " ++ message
  | trustDomain domain reason => "无效的信任域 " ++ quoted domain ++ ": " ++ reason
  | spiffeId message => "无效的 SPIFFE ID: " ++ message
  | invalidSpec message => "资源规范无效: " ++ message
  | missingMetadata kind field => kind ++ " 缺少 metadata." ++ field
  | managerNotFound name => "ZeroTrustWorkloadIdentityManager " ++ name ++ " 不存在"
  | json message => "JSON 序列化错误: " ++ message
  | yaml message => "YAML 序列化错误: " ++ message
  | fingerprint message => "JSON 错误: " ++ message

def isTransient : Fault → Bool
  | api fault => fault.isTransient
  | _ => false

/-- Whether trying again soon may help. -/
def isRetryable : Fault → Bool
  | api _ => true
  | managerNotFound _ => true
  | config _ => true
  | fingerprint _ => true
  | _ => false

/-- The reason that a condition gives for the fault. -/
def reason (f : Fault) : String :=
  if f.isTransient then Condition.Reason.retrying
  else match f with
    | invalidSpec _ => Condition.Reason.invalidSpec
    | validation _ => Condition.Reason.invalidSpec
    | spiffeId _ => Condition.Reason.invalidSpec
    | managerNotFound _ => Condition.Reason.managerNotFound
    | _ => Condition.Reason.failed

/-- A fault that only an edit can mend is looked at again after this many seconds. -/
def permanentDelay : Nat := 300

def fixedDelay? (f : Fault) : Option Nat :=
  if f.isRetryable then none else some permanentDelay

theorem isRetryable_of_isTransient {f : Fault} (h : f.isTransient = true) :
    f.isRetryable = true := by
  cases f <;> simp_all [isTransient, isRetryable]

end Fault

end WorkloadIdentity

import WorkloadIdentity.Json.Parser
import WorkloadIdentity.Json.Printer

/-! What is done with the API server is data: a tree of requests, each with what follows every
possible reply. So it can be run against any server, and what it does can be reasoned about without
one. -/

namespace WorkloadIdentity

inductive Method where
  | get
  | post
  | put
  | patch
deriving DecidableEq, Repr, Inhabited

namespace Method

def text : Method → String
  | get => "GET"
  | post => "POST"
  | put => "PUT"
  | patch => "PATCH"

def ofText? (t : String) : Option Method := [get, post, put, patch].find? (fun m => m.text = t)

end Method

structure Request where
  method : Method
  path : String
  body : Option Json := none
deriving DecidableEq, Repr

/-- The body of a reply: a value, or a text that may be one. -/
inductive Body where
  | value (v : Json)
  | text (t : String)
deriving DecidableEq, Repr

namespace Body

def value? : Body → Option Json
  | value v => some v
  | text t => Json.parse? t

def toText : Body → String
  | value v => v.compact
  | text t => t

end Body

inductive Reply where
  | answer (code : Nat) (body : Body)
  /-- The connection broke before there was an answer. -/
  | dropped
deriving DecidableEq, Repr

/-- A computation that asks the API server. -/
inductive Exchange (α : Type) where
  | done (result : α)
  | ask (request : Request) (next : Reply → Exchange α)

namespace Exchange

variable {α β : Type}

def bind (x : Exchange α) (f : α → Exchange β) : Exchange β :=
  match x with
  | done a => f a
  | ask request next => ask request (fun reply => bind (next reply) f)

instance : Monad Exchange where
  pure := done
  bind := bind

theorem bind_done (x : Exchange α) : bind x done = x := by
  induction x with
  | done a => rfl
  | ask request next ih => simp only [bind, ih]

theorem bind_assoc {γ : Type} (x : Exchange α) (f : α → Exchange β) (g : β → Exchange γ) :
    bind (bind x f) g = bind x (fun a => bind (f a) g) := by
  induction x with
  | done a => rfl
  | ask request next ih => simp only [bind, ih]

instance : LawfulMonad Exchange :=
  LawfulMonad.mk' Exchange (fun x => bind_done x) (fun _ _ => rfl) bind_assoc

/-- Runs an exchange against a server. -/
def run {σ : Type} (server : Request → σ → Reply × σ) : Exchange α → σ → α × σ
  | done a, s => (a, s)
  | ask request next, s => run server (next (server request s).1) (server request s).2

/-- Every request of the exchange obeys the rule, whatever the replies. -/
def AllRequests (rule : Request → Prop) : Exchange α → Prop
  | done _ => True
  | ask request next => rule request ∧ ∀ reply, AllRequests rule (next reply)

@[simp]
theorem run_bind {σ : Type} (server : Request → σ → Reply × σ) (x : Exchange α)
    (f : α → Exchange β) (s : σ) :
    run server (bind x f) s = run server (f (run server x s).1) (run server x s).2 := by
  induction x generalizing s with
  | done a => rfl
  | ask request next ih => exact ih _ _

theorem allRequests_bind {rule : Request → Prop} {x : Exchange α} {f : α → Exchange β}
    (first : AllRequests rule x) (second : ∀ a, AllRequests rule (f a)) :
    AllRequests rule (bind x f) := by
  induction x with
  | done a => exact second a
  | ask request next ih => exact ⟨first.1, fun reply => ih reply (first.2 reply)⟩

end Exchange

end WorkloadIdentity

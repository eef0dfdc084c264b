import WorkloadIdentity.Operator.Gate
import WorkloadIdentity.Operator.Watch

/-! Five controllers, one for each kind of resource, and the readiness gate, in the order of time. A
controller knows the resources that it has seen, and for each the time of the next pass over it:
soon after something has been seen that leads to it, and else when the last pass says. Times are in
milliseconds. -/

namespace WorkloadIdentity

structure Controller where
  kind : CustomKind
  /-- The resources seen so far, by name. -/
  known : StringMap CustomResource := ∅
  /-- The times of the next passes, by name. -/
  due : StringMap Nat := ∅

namespace Controller

/-- How long after a change the pass is due. -/
def settling : Nat := 1

/-- Plans a pass; an earlier plan stays. -/
def schedule (c : Controller) (name : String) (time : Nat) : Controller :=
  { c with due := c.due.insert name (((c.due.get? name).map (min time)).getD time) }

/-- Remembers a resource of the controller's own kind. -/
def remember (c : Controller) : Seen → Controller
  | .resource r =>
    if r.kind = c.kind then { c with known := c.known.insert r.metadata.anyName r } else c
  | .object _ => c

/-- Plans a pass over the resource that a watched object leads to. -/
def follow (c : Controller) (now : Nat) (seen : Seen) : Controller :=
  match seen.leadsTo c.kind with
  | some name => c.schedule name (now + settling)
  | none => c

/-- An object that has been added or changed. -/
def see (c : Controller) (now : Nat) (seen : Seen) : Controller := (c.remember seen).follow now seen

/-- An object that has been deleted. A deleted resource is forgotten, and there is nothing left to
look at. -/
def lose (c : Controller) (now : Nat) (seen : Seen) : Controller :=
  match seen with
  | .resource r =>
    if r.kind = c.kind then { c with known := c.known.erase r.metadata.anyName }
    else c.follow now seen
  | .object _ => c.follow now seen

/-- The names of the resources that are due. -/
def dueNames (c : Controller) (now : Nat) : List String :=
  (c.due.entries.filter (fun e => e.2 ≤ now)).map Prod.fst

/-- When the next pass is due. -/
def next? (c : Controller) : Option Nat := (c.due.entries.map Prod.snd).min?

end Controller

/-- A watch that has yet to list what is already there. -/
structure Listing where
  controller : CustomKind
  watch : Watch
  time : Nat
  /-- The delay before the next try, should this one fail. -/
  delay : Nat
deriving DecidableEq, Repr

namespace Listing

def firstDelay : Nat := 800

def longestDelay : Nat := 30000

def first (controller : CustomKind) (watch : Watch) : Listing :=
  { controller, watch, time := 0, delay := firstDelay }

/-- The next try. -/
def again (l : Listing) (now : Nat) : Listing :=
  { l with time := now + l.delay, delay := min (2 * l.delay) longestDelay }

end Listing

structure Operator where
  settings : Settings
  /-- When the operator started, in seconds since the start of 1970. -/
  started : Int := 0
  clock : Nat := 0
  ledger : Ledger := {}
  gate : Gate := .closed 0
  controllers : List Controller
  listings : List Listing

/-- What happened to a watched object. -/
inductive Change where
  | applied
  | deleted
deriving DecidableEq, Repr

namespace Operator

/-- The operator when it starts: nothing has been listed yet. -/
def create (settings : Settings) : Operator where
  settings
  controllers := CustomKind.all.map (fun kind => { kind })
  listings := CustomKind.all.flatMap fun kind =>
    (kind.watches settings.operandNamespace).map (Listing.first kind)

/-- The watches that are running, for one controller. -/
def watches (op : Operator) (kind : CustomKind) : List Watch :=
  (kind.watches op.settings.operandNamespace).filter
    (fun w => op.listings.all (fun l => l.controller ≠ kind || l.watch ≠ w))

def scene (op : Operator) : Scene :=
  { settings := op.settings, now := Timestamp.text (op.started + (op.clock / 1000 : Nat)) }

def update (op : Operator) (kind : CustomKind) (f : Controller → Controller) : Operator :=
  { op with controllers := op.controllers.map (fun c => if c.kind = kind then f c else c) }

/-- Takes in a change of an object in a collection with the given path. -/
def notice (op : Operator) (path : String) (change : Change) (object : Json) : Operator :=
  let take (c : Controller) (w : Watch) : Controller :=
    if w.collection.path ≠ path then c
    else match Seen.read? w.kind object, change with
      | none, _ => c
      | some seen, .applied => c.see op.clock seen
      | some seen, .deleted => c.lose op.clock seen
  { op with controllers := op.controllers.map (fun c => (op.watches c.kind).foldl take c) }

/-- Lists what is there when a watch begins. -/
def list (op : Operator) (l : Listing) : Exchange Operator := do
  match ← (Api.list l.watch.collection (Seen.read? l.watch.kind)).run with
  | .ok seen => return op.update l.controller (fun c => seen.foldl (·.see op.clock ·) c)
  | .error _ => return { op with listings := op.listings ++ [l.again op.clock] }

/-- Plans the next pass; there is at least a millisecond between two passes. -/
def revisit (op : Operator) (kind : CustomKind) (name : String) (seconds : Nat) : Operator :=
  op.update kind (·.schedule name (op.clock + max 1 (1000 * seconds)))

/-- A pass over a resource, if the controller knows it. -/
def visit (op : Operator) (c : Controller) (name : String) : Exchange Operator := do
  let op := op.update c.kind (fun c => { c with due := c.due.erase name })
  match c.known.get? name with
  | none => return op
  | some r =>
    match ← r.look op.scene 0 op.ledger with
    | (.ok (.after seconds), ledger) => return { op with ledger }.revisit c.kind name seconds
    | (.ok .onChange, ledger) => return { op with ledger }
    | (.error fault, ledger) =>
      let (ledger, delay) := r.fail ledger fault
      return { op with ledger }.revisit c.kind name delay

/-- The time at which the gate asks again, if it does. -/
def gateTime? (op : Operator) : Option Nat :=
  match op.gate with
  | .closed next => some (1000 * next)
  | .opened _ => none

/-- The time at which something is due next. -/
def next? (op : Operator) : Option Nat :=
  (op.listings.map (·.time) ++ op.gateTime?.toList ++ op.controllers.filterMap (·.next?)).min?

/-- Lets the gate ask if it is time to. -/
def askGate (op : Operator) : Exchange Operator := do
  match op.gateTime? with
  | some time => if time ≤ op.clock then return { op with gate := ← op.gate.round } else return op
  | none => return op

/-- Does everything that is due at the time of the clock. -/
def turn (op : Operator) : Exchange Operator := do
  let (now, later) := op.listings.partition (fun l => l.time ≤ op.clock)
  let op ← now.foldlM list { op with listings := later }
  let op ← askGate op
  let visits := op.controllers.flatMap (fun c => (c.dueNames op.clock).map (fun name => (c, name)))
  visits.foldlM (fun op v => op.visit v.1 v.2) op

/-- Does what is due before a time, in at most so many turns. -/
def turns (limit : Nat) : Nat → Operator → Exchange Operator
  | 0, op => pure op
  | n + 1, op =>
    match op.next? with
    | none => pure op
    | some time =>
      if limit ≤ time then pure op
      else do
        let op ← turn { op with clock := time }
        turns limit n op

/-- Does everything that is due before a time. No two turns are at one time, so that there cannot be
more of them than milliseconds. -/
def runUntil (limit : Nat) (op : Operator) : Exchange Operator := do
  let op ← turns limit (limit - op.clock) op
  return { op with clock := limit }

end Operator

end WorkloadIdentity

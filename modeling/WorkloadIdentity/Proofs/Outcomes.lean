import WorkloadIdentity.Proofs.Attempts
import WorkloadIdentity.Proofs.Maps

/-!
# Outcomes tell what was done

What became of an object goes into conditions and metrics, so it has to be what was done. Objects
are kept in a store, where they are looked up, created and replaced. The API server is one store. A
shelf is another: a map from names to objects on which any request may fail, and a failed request
leaves the objects as they are.

* `Store.apply` brings an object to its wanted state in a store, and `Store.apply_ofCollection` is
  that it does for the API server what `apply` does.
* `Shelf.Applied` lists what applying an object to a shelf may come to, and `Shelf.applied_of_name`
  is that there is nothing else.
* `outcomes_tell_what_was_done`: so an outcome tells what is on the shelf before and after.
-/

namespace WorkloadIdentity

/-- What objects are kept in. -/
structure Store (m : Type → Type) (α : Type) where
  fetch : String → ExceptT Fault m (Option α)
  create : α → ExceptT Fault m Unit
  replace : String → α → ExceptT Fault m Unit

namespace Store

variable {α : Type} [Managed α]

section
variable {m : Type → Type} [Monad m]

/-- Does what a plan says. -/
def carryOut (store : Store m α) (name : String) : Plan α → ExceptT Fault m Outcome
  | .create object => do
    store.create object
    return .created
  | .replace object => do
    store.replace name object
    return .updated
  | .unchanged => return .unchanged
  | .skipped => return .skipped

/-- Brings an object to its wanted state. -/
def apply (store : Store m α) (desired : α) (createOnly : Bool) : ExceptT Fault m Outcome := do
  match (Managed.metadata desired).name with
  | none => throw (.missingMetadata (Managed.kindName desired) "name")
  | some name =>
    let existing ← store.fetch name
    store.carryOut name (plan existing desired createOnly)

end

/-- A collection of the API server. -/
def ofCollection (c : Collection) : Store Exchange α where
  fetch name := Call.attempt (Api.find? c name Managed.read?)
  create object := do
    let read : Json → Option α := Managed.read?
    let _ ← Call.attempt (Api.create c (Managed.toJson object) read)
  replace name object := do
    let read : Json → Option α := Managed.read?
    let _ ← Call.attempt (Api.replace c name (Managed.toJson object) read)

/-- Objects are applied to a collection of the API server as they are to any store. -/
theorem apply_ofCollection (c : Collection) (desired : α) (createOnly : Bool) :
    (ofCollection c).apply desired createOnly = WorkloadIdentity.apply c desired createOnly := by
  unfold apply
  cases named : (Managed.metadata desired).name with
  | none => rw [WorkloadIdentity.apply, named]
  | some name =>
    rw [apply_of_name named]
    dsimp only
    refine congrArg _ (funext fun existing => ?_)
    cases plan existing desired createOnly with
    | create object =>
      simp only [carryOut, WorkloadIdentity.carryOut, ofCollection, bind_assoc, pure_bind]
    | replace object =>
      simp only [carryOut, WorkloadIdentity.carryOut, ofCollection, bind_assoc, pure_bind]
    | unchanged => rfl
    | skipped => rfl

end Store

inductive StoreRequest (α : Type) where
  | fetch (name : String)
  | create (object : α)
  | replace (name : String) (object : α)

namespace StoreRequest

variable {α : Type}

def IsFetch : StoreRequest α → Prop
  | fetch _ => True
  | _ => False

/-- What becomes of the objects. An object is created under its own name. -/
def carryOut [Managed α] : StoreRequest α → StringMap α → StringMap α
  | fetch _, objects => objects
  | create object, objects => objects.insert ((Managed.metadata object).name.getD "") object
  | replace name object, objects => objects.insert name object

end StoreRequest

/-- Objects by their names, and what was asked of them: the requests with the faults of those that
failed. -/
structure Shelf (α : Type) where
  objects : StringMap α
  log : List (StoreRequest α × Option Fault) := []

/-- Which requests fail, and how. It may depend on the objects and on all that was asked before. -/
abbrev Failing (α : Type) := Shelf α → StoreRequest α → Option Fault

namespace Shelf

variable {α β γ : Type}

/-- The faults of the requests that failed. -/
def faults (shelf : Shelf α) : List Fault := shelf.log.filterMap (·.2)

/-- Nothing was asked but to look objects up. -/
def OnlyFetched (shelf : Shelf α) : Prop := ∀ entry ∈ shelf.log, entry.1.IsFetch

def run (x : ExceptT Fault (StateM (Shelf α)) β) (shelf : Shelf α) : Except Fault β × Shelf α :=
  (x.run.run shelf).run

theorem run_bind (x : ExceptT Fault (StateM (Shelf α)) β)
    (f : β → ExceptT Fault (StateM (Shelf α)) γ) (shelf : Shelf α) :
    run (x >>= f) shelf =
      match run x shelf with
      | (.ok b, next) => run (f b) next
      | (.error fault, next) => (.error fault, next) := by
  change StateT.run (ExceptT.bindCont f (run x shelf).1) (run x shelf).2 = _
  obtain ⟨result, next⟩ := run x shelf
  cases result <;> rfl

variable [Managed α]

/-- A request with its answer. If it fails, it is noted and nothing else happens. -/
def ask (fails : Failing α) (request : StoreRequest α) (answer : StringMap α → β) :
    ExceptT Fault (StateM (Shelf α)) β :=
  .mk fun shelf =>
    match fails shelf request with
    | some fault => (.error fault, { shelf with log := shelf.log ++ [(request, some fault)] })
    | none => (.ok (answer shelf.objects),
        { objects := request.carryOut shelf.objects, log := shelf.log ++ [(request, none)] })

theorem run_ask (fails : Failing α) (request : StoreRequest α) (answer : StringMap α → β)
    (shelf : Shelf α) :
    run (ask fails request answer) shelf =
      match fails shelf request with
      | some fault => (.error fault, { shelf with log := shelf.log ++ [(request, some fault)] })
      | none => (.ok (answer shelf.objects),
          { objects := request.carryOut shelf.objects, log := shelf.log ++ [(request, none)] }) :=
  rfl

/-- A shelf as a store. -/
def store (fails : Failing α) : Store (StateM (Shelf α)) α where
  fetch name := ask fails (.fetch name) (·.get? name)
  create object := ask fails (.create object) (fun _ => ())
  replace name object := ask fails (.replace name object) (fun _ => ())

/-- Applies an object to a shelf of which nothing was asked yet. -/
def applied (fails : Failing α) (objects : StringMap α) (desired : α) (createOnly : Bool) :
    Except Fault Outcome × Shelf α :=
  run ((store fails).apply desired createOnly) { objects }

/-- What applying an object comes to. -/
inductive Applied (objects : StringMap α) (name : String) (desired : α) (createOnly : Bool) :
    Except Fault Outcome × Shelf α → Prop
  | unread (fault : Fault) : Applied objects name desired createOnly
      (.error fault, { objects, log := [(.fetch name, some fault)] })
  | created (missing : objects.get? name = none) : Applied objects name desired createOnly
      (.ok .created,
        { objects := objects.insert name desired
          log := [(.fetch name, none), (.create desired, none)] })
  | notCreated (fault : Fault) : Applied objects name desired createOnly
      (.error fault, { objects, log := [(.fetch name, none), (.create desired, some fault)] })
  | updated (live : α) (there : objects.get? name = some live) (updates : createOnly = false)
      (differs : Managed.needsUpdate live desired = true) : Applied objects name desired createOnly
      (.ok .updated,
        { objects := objects.insert name (Managed.prepare live desired)
          log := [(.fetch name, none), (.replace name (Managed.prepare live desired), none)] })
  | notUpdated (object : α) (fault : Fault) : Applied objects name desired createOnly
      (.error fault, { objects, log := [(.fetch name, none), (.replace name object, some fault)] })
  | unchanged (live : α) (there : objects.get? name = some live) (updates : createOnly = false)
      (same : Managed.needsUpdate live desired = false) : Applied objects name desired createOnly
      (.ok .unchanged, { objects, log := [(.fetch name, none)] })
  | skipped (live : α) (there : objects.get? name = some live) (creates : createOnly = true) :
      Applied objects name desired createOnly
      (.ok .skipped, { objects, log := [(.fetch name, none)] })

variable {objects : StringMap α} {name : String} {desired : α} {createOnly : Bool}

section
variable (fails : Failing α) (name : String) (object : α) (shelf : Shelf α)

/-- A request, and an outcome unless it fails. -/
theorem run_ask_then (request : StoreRequest α) (outcome : Outcome) :
    run (ask fails request (fun _ => ()) >>= fun _ => pure outcome) shelf =
      match fails shelf request with
      | some fault => (.error fault, { shelf with log := shelf.log ++ [(request, some fault)] })
      | none => (.ok outcome,
        { objects := request.carryOut shelf.objects, log := shelf.log ++ [(request, none)] }) := by
  rw [run_bind, run_ask]
  cases fails shelf request <;> rfl

theorem run_carryOut_create : run ((store fails).carryOut name (.create object)) shelf =
    match fails shelf (.create object) with
    | some fault =>
      (.error fault, { shelf with log := shelf.log ++ [(.create object, some fault)] })
    | none => (.ok .created,
        { objects := shelf.objects.insert ((Managed.metadata object).name.getD "") object
          log := shelf.log ++ [(.create object, none)] }) :=
  run_ask_then fails shelf (.create object) .created

theorem run_carryOut_replace : run ((store fails).carryOut name (.replace object)) shelf =
    match fails shelf (.replace name object) with
    | some fault =>
      (.error fault, { shelf with log := shelf.log ++ [(.replace name object, some fault)] })
    | none => (.ok .updated,
        { objects := shelf.objects.insert name object
          log := shelf.log ++ [(.replace name object, none)] }) :=
  run_ask_then fails shelf (.replace name object) .updated

end

theorem applied_of_noName (fails : Failing α) (objects : StringMap α) (createOnly : Bool)
    (noName : (Managed.metadata desired).name = none) :
    applied fails objects desired createOnly =
      (.error (.missingMetadata (Managed.kindName desired) "name"), { objects }) := by
  rw [applied, Store.apply, noName]
  rfl

theorem applied_of_name (fails : Failing α) (objects : StringMap α) (createOnly : Bool)
    (named : (Managed.metadata desired).name = some name) :
    Applied objects name desired createOnly (applied fails objects desired createOnly) := by
  have fetched := run_ask fails (.fetch name) (·.get? name) { objects }
  change run ((store fails).fetch name) { objects } = _ at fetched
  rw [applied, Store.apply, named]
  dsimp only
  rw [run_bind, fetched]
  cases fails { objects } (.fetch name) with
  | some fault => exact .unread fault
  | none =>
    dsimp only
    cases there : objects.get? name with
    | none =>
      rw [plan, run_carryOut_create, named]
      cases fails _ (.create desired) with
      | some fault => exact .notCreated fault
      | none => exact .created there
    | some live =>
      cases createOnly with
      | true => exact .skipped live there rfl
      | false =>
        cases differs : Managed.needsUpdate live desired with
        | false =>
          rw [plan_of_not_needsUpdate differs]
          exact .unchanged live there rfl differs
        | true =>
          rw [plan_of_needsUpdate differs, run_carryOut_replace]
          cases fails _ (.replace name (Managed.prepare live desired)) with
          | some fault => exact .notUpdated _ fault
          | none => exact .updated live there rfl differs

/-- What the result of applying an object tells of the objects before and after. -/
structure Tells (objects : StringMap α) (name : String) (desired : α) (createOnly : Bool)
    (done : Except Fault Outcome × Shelf α) : Prop where
  /-- Nothing changes under another name. -/
  elsewhere : ∀ other, other ≠ name → done.2.objects.get? other = objects.get? other
  created : done.1 = .ok .created ↔
    objects.get? name = none ∧ done.2.objects.get? name = some desired
  updated : done.1 = .ok .updated ↔ done.2.faults = [] ∧
    ∃ live, objects.get? name = some live ∧ createOnly = false ∧
      Managed.needsUpdate live desired = true ∧
      done.2.objects.get? name = some (Managed.prepare live desired)
  unchanged : done.1 = .ok .unchanged ↔ done.2.faults = [] ∧
    ∃ live, objects.get? name = some live ∧ createOnly = false ∧
      Managed.needsUpdate live desired = false ∧ done.2.objects = objects ∧ done.2.OnlyFetched
  skipped : done.1 = .ok .skipped ↔ done.2.faults = [] ∧
    ∃ live, objects.get? name = some live ∧ createOnly = true ∧ done.2.objects = objects ∧
      done.2.OnlyFetched
  /-- There is an error if and only if a request failed, and no other request fails after it. -/
  failed : ∀ fault, done.1 = .error fault ↔ done.2.faults = [fault]
  kept : ∀ fault, done.1 = .error fault → done.2.objects = objects

theorem tells_of_error {fault : Fault} {shelf : Shelf α} (same : shelf.objects = objects)
    (failed : shelf.faults = [fault]) :
    Tells objects name desired createOnly (.error fault, shelf) where
  elsewhere := fun other _ => congrArg (·.get? other) same
  created := by
    refine ⟨nofun, fun ⟨missing, held⟩ => ?_⟩
    rw [same, missing] at held
    cases held
  updated := by simp [failed]
  unchanged := by simp [failed]
  skipped := by simp [failed]
  failed := by simp [failed]
  kept := fun _ _ => same

/-- What applying an object comes to is told by its result. -/
theorem Applied.tells {done : Except Fault Outcome × Shelf α}
    (h : Applied objects name desired createOnly done) :
    Tells objects name desired createOnly done := by
  cases h with
  | unread fault => exact tells_of_error rfl rfl
  | notCreated fault => exact tells_of_error rfl rfl
  | notUpdated object fault => exact tells_of_error rfl rfl
  | created missing =>
    constructor <;> simp +contextual [StringMap.get?_insert, missing, faults]
  | updated live there updates differs =>
    constructor <;> simp +contextual [StringMap.get?_insert, there, updates, differs, faults]
  | unchanged live there updates same =>
    constructor <;>
      simp [there, updates, same, faults, OnlyFetched, StoreRequest.IsFetch]
  | skipped live there creates =>
    constructor <;> simp [there, creates, faults, OnlyFetched, StoreRequest.IsFetch]

end Shelf

/-- **Outcomes tell what was done.** An object without a name is refused before anything is asked.
Any other is applied to a shelf so that nothing changes under another name, whichever requests fail.
It is created if and only if it was missing and is there now. If no request failed, it is updated if
and only if it was there, may be changed and differed, and what is carried over to it is there now;
it is unchanged if it was there, may be changed and did not differ, and skipped if it was there and
must not be changed, and nothing was written then. If a request failed, its fault is returned and
nothing has changed. The API server is asked as a shelf is. -/
theorem outcomes_tell_what_was_done (kind : ManagedKind) (desired : kind.Object)
    (createOnly : Bool) (fails : Failing kind.Object) (objects : StringMap kind.Object) :
    (∀ c : Collection,
      (Store.ofCollection c).apply desired createOnly = apply c desired createOnly) ∧
    ((Managed.metadata desired).name = none →
      Shelf.applied fails objects desired createOnly =
        (.error (.missingMetadata (Managed.kindName desired) "name"), { objects })) ∧
    ∀ name, (Managed.metadata desired).name = some name →
      Shelf.Tells objects name desired createOnly
        (Shelf.applied fails objects desired createOnly) := by
  refine ⟨fun c => Store.apply_ofCollection c desired createOnly, fun noName => ?_,
    fun name named => ?_⟩
  · exact Shelf.applied_of_noName fails objects createOnly noName
  · exact (Shelf.applied_of_name fails objects createOnly named).tells

/-- A config map that cannot be replaced stays as it is. -/
example :
    let live : ConfigMap := { metadata := { name := some "agents" }, data := none }
    let desired : ConfigMap :=
      { live with metadata := { live.metadata with labels := some (.ofList [("app", "a")]) } }
    let fails : Failing ConfigMap := fun shelf _ =>
      if shelf.log = [] then none else some (.api (.connection "reset"))
    let objects := (∅ : StringMap ConfigMap).insert "agents" live
    (Shelf.applied fails objects desired false).2.objects.get? "agents" = some live := by
  decide

end WorkloadIdentity

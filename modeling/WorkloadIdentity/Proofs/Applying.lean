import WorkloadIdentity.Pass.Apply
import WorkloadIdentity.Proofs.Addresses

namespace WorkloadIdentity

open Exchange

variable {α β ε σ : Type} {server : Request → σ → Reply × σ}

theorem Exchange.run_bind_eq (x : Exchange α) (f : α → Exchange β) (s : σ) :
    run server (x >>= f) s = run server (f (run server x s).1) (run server x s).2 :=
  run_bind server x f s

namespace Api

variable {c : Collection} {name path : String} {read : Json → Option α}

theorem run_send {method : Method} {target : String} {body : Option Json}
    (found : Address.path? target = some path) (s : σ) :
    run server (send method target body read).run s =
      (readReply read (server { method, path, body } s).1,
        (server { method, path, body } s).2) := by
  unfold send
  rw [found]
  rfl

theorem readReply_value (read : Json → Option α) (v : Json) :
    readReply read (.answer 200 (.value v)) =
      match read v with
      | some a => .ok a
      | none => .error .unreadable := rfl

/-- A target that is no address is refused without a request. -/
theorem run_send_of_none {method : Method} {target : String} {body : Option Json}
    (noAddress : Address.path? target = none) (s : σ) :
    run server (send method target body read).run s = (.error .badAddress, s) := by
  unfold send
  rw [noAddress]
  rfl

/-- What it means for an object that may be missing. -/
def orMissing : Except ApiFault α → Except ApiFault (Option α)
  | .ok a => .ok (some a)
  | .error fault => if isNotFound fault then .ok none else .error fault

theorem run_find? (c : Collection) (name : String) (read : Json → Option α) (s : σ) :
    run server (find? c name read).run s =
      (orMissing (run server (get c name read).run s).1,
        (run server (get c name read).run s).2) := by
  refine (run_bind_eq (get c name read).run _ s).trans ?_
  cases (run server (get c name read).run s).1 with
  | ok a => rfl
  | error fault =>
    dsimp only [orMissing]
    split <;> rfl

end Api

theorem Call.run_attempt (call : Call α) (s : σ) :
    run server call.attempt.run s =
      ((run server call.run s).1.mapError Fault.api, (run server call.run s).2) :=
  run_bind_eq call.run _ s

/-- Reads a reply as a live object. -/
def readLive (α : Type) [Managed α] : Reply → Except ApiFault α := Api.readReply Managed.read?

section
variable [Managed α]

theorem readLive_value (object : Json) : readLive α (.answer 200 (.value object)) =
    match (Managed.read? object : Option α) with
    | some live => .ok live
    | none => .error .unreadable := rfl

theorem readLive_notFound (path : String) : readLive α (Server.notFound path) =
    .error (.refused 404 "Failure" (path ++ " not found") "NotFound") := rfl

theorem readLive_alreadyExists (path : String) : readLive α (Server.alreadyExists path) =
    .error (.refused 409 "Failure" (path ++ " already exists") "AlreadyExists") := rfl

end

/-- Does what a plan says. -/
def carryOut [Managed α] (c : Collection) (name : String) : Plan α → Attempt Outcome
  | .create object => do
    let read : Json → Option α := Managed.read?
    let _ ← Call.attempt (Api.create c (Managed.toJson object) read)
    return .created
  | .replace object => do
    let read : Json → Option α := Managed.read?
    let _ ← Call.attempt (Api.replace c name (Managed.toJson object) read)
    return .updated
  | .unchanged => return .unchanged
  | .skipped => return .skipped

theorem apply_of_name [Managed α] {c : Collection} {desired : α} {createOnly : Bool} {name : String}
    (named : (Managed.metadata desired).name = some name) :
    apply c desired createOnly = (do
      let read : Json → Option α := Managed.read?
      let live ← Call.attempt (Api.find? c name read)
      carryOut c name (plan live desired createOnly)) := by
  unfold apply
  rw [named]
  dsimp only
  congr 1

section
variable [Managed α] {c : Collection} {name path : String} {desired : α} {createOnly : Bool}

theorem run_apply_of_noName (h : (Managed.metadata desired).name = none) (s : σ) :
    run server (apply c desired createOnly).run s =
      (.error (.missingMetadata (Managed.kindName desired) "name"), s) := by
  unfold apply
  rw [h]
  rfl

theorem run_apply_of_noAddress (named : (Managed.metadata desired).name = some name)
    (noAddress : Address.path? (Api.targetOf c name) = none) (s : σ) :
    run server (apply c desired createOnly).run s = (.error (.api .badAddress), s) := by
  rw [apply_of_name named, ExceptT.run_bind, run_bind_eq, Call.run_attempt, Api.run_find?]
  unfold Api.get
  rw [Api.run_send_of_none noAddress]
  rfl

/-- An object is fetched, and the plan for what was fetched is carried out. -/
theorem run_apply (named : (Managed.metadata desired).name = some name)
    (found : Address.path? (Api.targetOf c name) = some path) (s : σ) :
    run server (apply c desired createOnly).run s =
      match readLive α (server { method := .get, path } s).1 with
      | .ok live =>
        run server (carryOut c name (plan (some live) desired createOnly)).run
          (server { method := .get, path } s).2
      | .error fault =>
        if Api.isNotFound fault then
          run server (carryOut c name (plan none desired createOnly)).run
            (server { method := .get, path } s).2
        else (.error (.api fault), (server { method := .get, path } s).2) := by
  rw [apply_of_name named, ExceptT.run_bind, run_bind_eq, Call.run_attempt, Api.run_find?]
  unfold Api.get
  rw [Api.run_send found]
  unfold readLive
  dsimp only
  cases Api.readReply (Managed.read? : Json → Option α) (server { method := .get, path } s).1 with
  | ok live => rfl
  | error fault =>
    dsimp only [Api.orMissing]
    by_cases missing : Api.isNotFound fault = true
    · rw [if_pos missing, if_pos missing]
      rfl
    · rw [if_neg missing, if_neg missing]
      rfl

/-- The same, case by case. -/
theorem run_apply_cases (named : (Managed.metadata desired).name = some name)
    (found : Address.path? (Api.targetOf c name) = some path) (s : σ) :
    let fetched := server { method := .get, path } s
    (∃ live, readLive α fetched.1 = .ok live ∧
      run server (apply c desired createOnly).run s =
        run server (carryOut c name (plan (some live) desired createOnly)).run fetched.2) ∨
    (∃ fault, readLive α fetched.1 = .error fault ∧ Api.isNotFound fault = true ∧
      run server (apply c desired createOnly).run s =
        run server (carryOut c name (.create desired)).run fetched.2) ∨
    ∃ fault, readLive α fetched.1 = .error fault ∧ Api.isNotFound fault = false ∧
      run server (apply c desired createOnly).run s = (.error (.api fault), fetched.2) := by
  intro fetched
  cases got : readLive α fetched.1 with
  | ok live =>
    refine .inl ⟨live, rfl, ?_⟩
    rw [run_apply named found, got]
  | error fault =>
    by_cases missing : Api.isNotFound fault = true
    · refine .inr (.inl ⟨fault, rfl, missing, ?_⟩)
      rw [run_apply named found, got]
      exact if_pos missing
    · refine .inr (.inr ⟨fault, rfl, eq_false_of_ne_true missing, ?_⟩)
      rw [run_apply named found, got]
      exact if_neg missing

theorem run_carryOut_create (object : α) (found : Address.path? (c.path ++ "?") = some path)
    (s : σ) :
    run server (carryOut c name (.create object)).run s =
      (((readLive α (server { method := .post, path, body := some (Managed.toJson object) }
          s).1).mapError Fault.api).map fun _ => .created,
        (server { method := .post, path, body := some (Managed.toJson object) } s).2) := by
  unfold carryOut
  dsimp only
  rw [ExceptT.run_bind, run_bind_eq, Call.run_attempt]
  unfold Api.create
  rw [Api.run_send found]
  unfold readLive
  dsimp only
  cases Api.readReply (Managed.read? : Json → Option α)
    (server { method := .post, path, body := some (Managed.toJson object) } s).1 <;> rfl

theorem run_carryOut_create_of_noAddress (object : α)
    (noAddress : Address.path? (c.path ++ "?") = none) (s : σ) :
    run server (carryOut c name (.create object)).run s = (.error (.api .badAddress), s) := by
  unfold carryOut
  dsimp only
  rw [ExceptT.run_bind, run_bind_eq, Call.run_attempt]
  unfold Api.create
  rw [Api.run_send_of_none noAddress]
  rfl

theorem run_carryOut_replace (object : α)
    (found : Address.path? (Api.targetOf c name) = some path) (s : σ) :
    run server (carryOut c name (.replace object)).run s =
      (((readLive α (server { method := .put, path, body := some (Managed.toJson object) }
          s).1).mapError Fault.api).map fun _ => .updated,
        (server { method := .put, path, body := some (Managed.toJson object) } s).2) := by
  unfold carryOut
  dsimp only
  rw [ExceptT.run_bind, run_bind_eq, Call.run_attempt]
  unfold Api.replace
  rw [Api.run_send (Address.path?_mark found)]
  unfold readLive
  dsimp only
  cases Api.readReply (Managed.read? : Json → Option α)
    (server { method := .put, path, body := some (Managed.toJson object) } s).1 <;> rfl

end

end WorkloadIdentity

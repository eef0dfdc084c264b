import WorkloadIdentity.Proofs.Addresses
import WorkloadIdentity.Proofs.Maps
import WorkloadIdentity.Proofs.Requests

/-! In create-only mode a pass reads, creates what is missing, and writes the status of its own
resource. So no object that is there before a pass is changed by it, whatever the users write in
between and whichever requests fail. -/

namespace WorkloadIdentity

open Exchange

/-- A request that leaves the objects of others as they are: it reads, creates, or writes the status
of a resource. -/
inductive Request.IsSparing : Request → Prop
  | reads (path : String) : IsSparing { method := .get, path }
  | creates (path : String) (object : Json) :
      IsSparing { method := .post, path, body := some object }
  | reports (kind : CustomKind) (status : Json) :
      IsSparing
        { method := .patch, path := kind.path ++ "/status",
          body := some (.obj [("status", status)]) }

theorem plan_of_createOnly {α : Type} [Managed α] (live : Option α) (desired : α) :
    plan live desired true = .create desired ∨ plan live desired true = .skipped := by
  cases live <;> simp [plan]

/-- In create-only mode a wanted object is read and, at most, created. -/
theorem obeys_apply_of_createOnly {α : Type} [Managed α] (c : Collection) (desired : α) :
    Obeys Request.IsSparing (apply c desired true).run := by
  unfold apply
  cases (Managed.metadata desired).name with
  | none => exact ⟨trivial⟩
  | some name =>
    refine (Api.obeys_find? .reads c name _).attempt.bind_run fun live => ?_
    rcases plan_of_createOnly live desired with created | skipped
    · rw [created]
      have creates (read : Json → Option α) :
          Obeys Request.IsSparing (Api.create c (Managed.toJson desired) read).run :=
        Api.obeys_send fun path _ => .creates path _
      exact (creates _).attempt.bind_run fun _ => obeys_pure_run _
    · rw [skipped]
      exact obeys_pure_run _

theorem obeys_patchStatus (kind : CustomKind) {α : Type} (status : Json) (read : Json → Option α) :
    Obeys Request.IsSparing (Api.patchStatus kind.collection singletonName
      (.obj [("status", status)]) read).run := by
  refine Api.obeys_send fun path found => ?_
  have here : some path = some (kind.path ++ "/status") := found.symm.trans kind.path?_status
  injection here with here
  rw [here]
  exact .reports kind status

/-- A pass over an operand in create-only mode. -/
theorem Operand.obeys_look_of_createOnly {σ : Type} [OperandPass σ] {scene : Scene}
    (createOnly : scene.settings.createOnly = true)
    (plans : ∀ (scene : Scene) (m : ManagerSpec) (o : Operand σ),
      Obeys Request.IsSparing (OperandPass.steps scene m o).run)
    (elapsed : Nat) (ledger : Ledger) (o : Operand σ) :
    Obeys Request.IsSparing (o.look scene elapsed ledger) := by
  refine obeys_look .reads plans (fun w => ?_) (fun conditions => ?_) elapsed ledger o
  · rw [createOnly]; exact obeys_apply_of_createOnly _ _
  · have patches := obeys_patchStatus (.operand (OperandSpec.kind σ))
      (.obj [("conditions", Condition.listToJson conditions)])
      (Operand.read? : Json → Option (Operand σ))
    exact patches.attempt.bind_run fun _ => obeys_pure_run _

/-- **A pass in create-only mode sends sparing requests only**, whatever the replies. -/
theorem CustomResource.obeys_look_of_createOnly (r : CustomResource) {scene : Scene}
    (createOnly : scene.settings.createOnly = true) (elapsed : Nat) (ledger : Ledger) :
    Obeys Request.IsSparing (r.look scene elapsed ledger) := by
  cases r with
  | manager m =>
    refine Manager.obeys_look .reads (fun status => ?_) scene elapsed ledger m
    have patches := obeys_patchStatus .manager status.toJson Manager.read?
    exact patches.attempt.bind_run fun _ => obeys_pure_run _
  | server o =>
    exact o.obeys_look_of_createOnly createOnly (fun _ _ _ => obeys_mk_run _) elapsed ledger
  | agent o =>
    exact o.obeys_look_of_createOnly createOnly (fun _ _ _ => obeys_mk_run _) elapsed ledger
  | discovery o =>
    refine o.obeys_look_of_createOnly createOnly (fun _ _ _ => ?_) elapsed ledger
    exact (Api.obeys_find? .reads _ _ _).attempt.bind_run fun _ => obeys_mk_run _
  | driver o =>
    exact o.obeys_look_of_createOnly createOnly (fun _ _ _ => obeys_mk_run _) elapsed ledger

/-- Some objects are created where there was none, and the status of some resources is written. -/
inductive Spared : StringMap Json → StringMap Json → Prop
  | refl (objects : StringMap Json) : Spared objects objects
  | create {before after : StringMap Json} (path : String) (object : Json)
      (earlier : Spared before after) (absent : after.get? path = none) :
      Spared before (after.insert path object)
  | report {before after : StringMap Json} (kind : CustomKind) {stored : Json} (status : Json)
      (version : Nat) (earlier : Spared before after)
      (present : after.get? kind.path = some stored) :
      Spared before (after.insert kind.path
        (Server.versioned (stored.merge (.obj [("status", status)])) version))

namespace Spared

theorem trans {a b c : StringMap Json} (first : Spared a b) (second : Spared b c) :
    Spared a c := by
  induction second with
  | refl => exact first
  | create path object _ absent ih => exact .create path object ih absent
  | report kind status version _ present ih => exact .report kind status version ih present

/-- What is no resource of a user stays as it is. -/
theorem get?_eq {before after : StringMap Json} (h : Spared before after) {path : String}
    (other : path ∉ CustomKind.paths) {object : Json} (there : before.get? path = some object) :
    after.get? path = some object := by
  induction h with
  | refl => exact there
  | create created _ _ absent ih =>
    have ne : path ≠ created := by
      rintro rfl
      exact absurd (ih.symm.trans absent) (by simp)
    rw [StringMap.get?_insert, if_neg ne]
    exact ih
  | report kind _ _ _ _ ih =>
    have ne : path ≠ kind.path := fun e => other (e ▸ kind.path_mem_paths)
    rw [StringMap.get?_insert, if_neg ne]
    exact ih

end Spared

namespace Server

/-- Answers a request, unless it is told to fail the request that comes after so many others; a
failed request changes nothing. -/
def falter (failures : Nat → Option Reply) (r : Request) (s : Server) : Reply × Server :=
  match failures s.log.length with
  | some reply => (reply, { s with log := r :: s.log })
  | none => s.answer r

/-- What passes in create-only mode do to a server. -/
structure Spares (s t : Server) : Prop where
  objects : Spared s.objects t.objects
  requests : ∀ r ∈ t.log, r ∈ s.log ∨ r.IsSparing

theorem Spares.trans {s t u : Server} (first : s.Spares t) (second : t.Spares u) : s.Spares u where
  objects := first.objects.trans second.objects
  requests r hr := by
    rcases second.requests r hr with h | h
    · exact first.requests r h
    · exact .inr h

theorem objects_handle_of_isSparing {r : Request} (h : r.IsSparing) (s : Server) :
    Spared s.objects (s.handle r).2.objects := by
  cases h with
  | reads path =>
    unfold handle
    dsimp only
    split
    · exact .refl _
    · split <;> exact .refl _
  | creates path object =>
    unfold handle
    dsimp only
    split
    · exact .refl _
    · rename_i absent
      exact .create _ _ (.refl _) absent
  | reports kind status =>
    unfold handle
    dsimp only
    rw [objectPath_status]
    split
    · rename_i stored present
      exact .report kind status _ (.refl _) present
    · exact .refl _

theorem log_handle (s : Server) (r : Request) : (s.handle r).2.log = s.log := by
  unfold handle
  cases r.method <;> dsimp only <;> repeat (first | rfl | split)

theorem spares_answer {r : Request} (h : r.IsSparing) (s : Server) : s.Spares (s.answer r).2 := by
  have logged : ∀ q ∈ r :: s.log, q ∈ s.log ∨ q.IsSparing := by
    intro q hq
    rcases List.mem_cons.1 hq with rfl | hq
    · exact .inr h
    · exact .inl hq
  unfold answer
  dsimp only
  split
  · exact ⟨.refl _, logged⟩
  · refine ⟨objects_handle_of_isSparing h { s with log := r :: s.log }, ?_⟩
    rw [log_handle]
    exact logged

theorem spares_falter {failures : Nat → Option Reply} {r : Request} (h : r.IsSparing) (s : Server) :
    s.Spares (falter failures r s).2 := by
  unfold falter
  split
  · refine ⟨.refl _, fun q hq => ?_⟩
    rcases List.mem_cons.1 hq with rfl | hq
    · exact .inr h
    · exact .inl hq
  · exact spares_answer h s

end Server

/-- A pass over a resource as it was read. -/
structure Turn where
  resource : CustomResource
  scene : Scene
  elapsed : Nat := 0
  ledger : Ledger := {}

/-- What happens at a server: a pass, or a user's write of a resource. -/
inductive Happening where
  | pass (turn : Turn)
  | edit (kind : CustomKind) (resource : Json)

variable (failures : Nat → Option Reply)

def Turn.play (t : Turn) (s : Server) : Server :=
  (run (Server.falter failures) (t.resource.look t.scene t.elapsed t.ledger) s).2

def Happening.play (s : Server) : Happening → Server
  | pass turn => turn.play failures s
  | edit kind resource => (s.store kind.path 200 resource).2

/-- The server after a history. -/
def Server.play (s : Server) (history : List Happening) : Server :=
  history.foldl (Happening.play failures) s

theorem Turn.spares_play {t : Turn} (createOnly : t.scene.settings.createOnly = true) (s : Server) :
    s.Spares (t.play failures s) :=
  run_preserves (R := Server.Spares) (fun _ => ⟨.refl _, fun _ => .inl⟩) Server.Spares.trans
    (fun _ s h => Server.spares_falter h s) (t.resource.obeys_look_of_createOnly createOnly _ _) s

/-- What is no resource of a user stays as it is in a history. -/
theorem Happening.get?_play {event : Happening}
    (createOnly : ∀ turn, event = .pass turn → turn.scene.settings.createOnly = true) (s : Server)
    {path : String} (other : path ∉ CustomKind.paths) {object : Json}
    (there : s.objects.get? path = some object) :
    (event.play failures s).objects.get? path = some object := by
  cases event with
  | pass turn =>
    exact (turn.spares_play failures (createOnly turn rfl) s).objects.get?_eq other there
  | edit kind resource =>
    have ne : path ≠ kind.path := fun e => other (e ▸ kind.path_mem_paths)
    simp only [play, Server.store, StringMap.get?_insert, if_neg ne]
    exact there

/-- **Create-only mode spares what is there.** In every history of passes and edits, with every
pattern of failures, each pass reads, creates what is missing and writes the status of resources,
and every other object that is there before it is the same after it; and so it is for the whole
history. -/
theorem createOnly_spares {history : List Happening}
    (createOnly : ∀ turn, .pass turn ∈ history → turn.scene.settings.createOnly = true)
    (s : Server) :
    (∀ earlier turn later, history = earlier ++ .pass turn :: later →
      let before := s.play failures earlier
      let after := s.play failures (earlier ++ [.pass turn])
      before.Spares after ∧ ∀ path ∉ CustomKind.paths, ∀ object,
        before.objects.get? path = some object → after.objects.get? path = some object) ∧
    ∀ path ∉ CustomKind.paths, ∀ object, s.objects.get? path = some object →
      (s.play failures history).objects.get? path = some object := by
  constructor
  · intro earlier turn later split before after
    have mode := createOnly turn (by simp [split])
    have spared : before.Spares after := by
      have played : after = turn.play failures before := by
        simp [after, before, Server.play, Happening.play]
      rw [played]
      exact turn.spares_play failures mode before
    exact ⟨spared, fun path other object => spared.objects.get?_eq other⟩
  · intro path other object there
    induction history generalizing s with
    | nil => exact there
    | cons event rest ih =>
      refine ih (fun turn h => createOnly turn (List.mem_cons_of_mem _ h))
        (event.play failures s) ?_
      refine event.get?_play failures (fun turn h => ?_) s other there
      exact createOnly turn (h ▸ List.mem_cons_self)

/-- The storage driver's resource, as it is read, and a pass over it in create-only mode. -/
def driverTurn : Turn where
  resource := .driver { metadata := { name := some singletonName, uid := some "42" }, spec := {} }
  scene := { settings := { createOnly := true }, now := "2026-01-01T00:00:00Z" }

/-- A server with the manager and with a service account that somebody has changed by hand. -/
def editedServer : Server where
  objects := .ofList [
    (CustomKind.path .manager, .obj [("metadata", .obj [("name", .str singletonName)]),
      ("spec", (ManagerSpec.mk "example.org" "cluster" "spire-bundle").toJson)]),
    ("/api/v1/namespaces/zero-trust-workload-identity-manager/serviceaccounts/" ++
        "spire-spiffe-csi-driver",
      .obj [("metadata", .obj [("labels", .obj [("edited", .str "by hand")])])])]

theorem createOnly_spares_driverTurn :
    (∀ turn, Happening.pass turn ∈ [.pass driverTurn, .pass driverTurn] →
      turn.scene.settings.createOnly = true) ∧
    (editedServer.play (fun n => if n = 2 then some .dropped else none)
      [.pass driverTurn, .pass driverTurn]).objects.get?
        ("/api/v1/namespaces/zero-trust-workload-identity-manager/serviceaccounts/" ++
          "spire-spiffe-csi-driver") =
      some (.obj [("metadata", .obj [("labels", .obj [("edited", .str "by hand")])])]) := by
  have createOnly : ∀ turn, Happening.pass turn ∈ [.pass driverTurn, .pass driverTurn] →
      turn.scene.settings.createOnly = true := by
    intro turn h
    simp only [List.mem_cons, Happening.pass.injEq, List.not_mem_nil, or_false, or_self] at h
    subst h
    rfl
  have spares := createOnly_spares (fun n => if n = 2 then some .dropped else none) createOnly
    editedServer
  exact ⟨createOnly, spares.2 _ (by decide) _ (by decide)⟩

end WorkloadIdentity

import WorkloadIdentity.Api.Server
import WorkloadIdentity.Proofs.Applying
import WorkloadIdentity.Proofs.Convergence
import WorkloadIdentity.Proofs.Metadata
import WorkloadIdentity.Proofs.Requests
import WorkloadIdentity.Proofs.Texts

/-! Between the requests by which an object is applied, other clients may write and delete what they
like. The server gives each write a version of its own and refuses to replace an object in another
version than the current one, so that what is replaced is what the decision was taken on. -/

namespace WorkloadIdentity

open Exchange

namespace Server

/-- Whether a replacement is made of the version that is stored. -/
def isCurrent (s : Server) (r : Request) : Bool :=
  match s.objects.get? r.path with
  | some stored =>
    stored.version?.isSome && decide (stored.version? = (r.body.getD .null).version?)
  | none => true

def conflict (path : String) : Reply := refuse 409 "Conflict" (path ++ " has been modified")

/-- Answers a request, but replaces no other version than the current one. -/
def guarded (r : Request) (s : Server) : Reply × Server :=
  if r.method = .put && !s.isCurrent r then (conflict r.path, s) else s.handle r

end Server

/-- What another client does to an object. -/
inductive Write where
  | put (path : String) (object : Json)
  | delete (path : String)

def Server.write (s : Server) : Write → Server
  | .put path object => (s.store path 200 object).2
  | .delete path => { s with objects := s.objects.erase path }

/-- A request as it was answered, with the server right before and right after it. -/
structure Event where
  before : Server
  request : Request
  reply : Reply
  after : Server

namespace Event

/-- Whether an object was replaced. -/
def Replaces (e : Event) : Prop :=
  e.request.method = .put ∧ ∃ code body, e.reply = .answer code body ∧ Api.isRefusal code = false

end Event

/-- A server that is watched. -/
structure Watched where
  server : Server
  /-- All requests so far, the last one first. -/
  events : List Event := []

/-- Answers a request after others have written; `others n` are the writes before the request that
comes after `n` requests. -/
def Watched.answer (others : Nat → List Write) (r : Request) (w : Watched) : Reply × Watched :=
  let before := (others w.events.length).foldl Server.write w.server
  let (reply, after) := before.guarded r
  (reply, { server := after, events := ⟨before, r, reply, after⟩ :: w.events })

theorem toString_injective {m n : Nat} (h : toString m = toString n) : m = n := by
  have digits : Nat.toDigits 10 m = Nat.toDigits 10 n := by
    simpa using congrArg String.toList h
  exact Json.digits_inj digits

namespace Server

/-- No object has a version that is still to be given. -/
def IsFresh (s : Server) : Prop :=
  ∀ path object, s.objects.get? path = some object → ∀ n, s.version < n →
    object.version? ≠ some (toString n)

/-- What a server holds later: an object of before, or one with a version that was given since, if
it has one at all. -/
structure Precedes (s t : Server) : Prop where
  version : s.version ≤ t.version
  objects : ∀ path object, t.objects.get? path = some object →
    s.objects.get? path = some object ∨ object.version? = none ∨
      ∃ n, s.version < n ∧ n ≤ t.version ∧ object.version? = some (toString n)

theorem Precedes.refl (s : Server) : s.Precedes s := ⟨Nat.le_refl _, fun _ _ => .inl⟩

theorem Precedes.trans {s t u : Server} (first : s.Precedes t) (second : t.Precedes u) :
    s.Precedes u where
  version := Nat.le_trans first.version second.version
  objects path object there := by
    rcases second.objects path object there with before | none | ⟨n, above, below, given⟩
    · rcases first.objects path object before with h | h | ⟨n, above, below, given⟩
      · exact .inl h
      · exact .inr (.inl h)
      · exact .inr (.inr ⟨n, above, Nat.le_trans below second.version, given⟩)
    · exact .inr (.inl none)
    · exact .inr (.inr ⟨n, Nat.lt_of_le_of_lt first.version above, below, given⟩)

theorem precedes_store (s : Server) (path : String) (code : Nat) (object : Json) :
    s.Precedes (s.store path code object).2 where
  version := Nat.le_succ _
  objects other stored there := by
    simp only [store, StringMap.get?_insert] at there
    split at there
    · injection there with there
      rcases version?_versioned object (s.version + 1) with given | none
      · exact .inr (.inr ⟨s.version + 1, Nat.lt_succ_self _, Nat.le_refl _, there ▸ given⟩)
      · exact .inr (.inl (there ▸ none))
    · exact .inl there

theorem precedes_write (s : Server) (w : Write) : s.Precedes (s.write w) := by
  cases w with
  | put path object => exact s.precedes_store path 200 object
  | delete path =>
    refine ⟨Nat.le_refl _, fun other object there => ?_⟩
    simp only [write, StringMap.get?_erase] at there
    split at there
    · cases there
    · exact .inl there

theorem precedes_writes (s : Server) (writes : List Write) :
    s.Precedes (writes.foldl write s) := by
  induction writes generalizing s with
  | nil => exact .refl s
  | cons w rest ih => exact (s.precedes_write w).trans (ih _)

theorem IsFresh.of_precedes {s t : Server} (fresh : s.IsFresh) (h : s.Precedes t) : t.IsFresh := by
  intro path object there n above
  rcases h.objects path object there with before | none | ⟨m, -, below, given⟩
  · exact fresh path object before n (Nat.lt_of_le_of_lt h.version above)
  · simp [none]
  · rw [given]
    intro e
    have same : m = n := toString_injective (Option.some.inj e)
    omega

/-- Between a fetch and a replacement of the fetched version nobody has written the object. -/
theorem stored_of_version {s t : Server} (fresh : s.IsFresh) (h : s.Precedes t) {path : String}
    {fetched stored : Json} (was : s.objects.get? path = some fetched)
    (there : t.objects.get? path = some stored) (given : stored.version?.isSome)
    (same : stored.version? = fetched.version?) : stored = fetched := by
  rcases h.objects path stored there with before | none | ⟨n, above, -, since⟩
  · exact Option.some.inj (before.symm.trans was)
  · simp [none] at given
  · exact absurd (same.symm.trans since) (fresh path fetched was n above)

/-- What is answered to a fetch, and that it changes nothing. -/
theorem guarded_get (s : Server) (path : String) :
    (s.guarded { method := .get, path }).2 = s ∧
    ((∃ items, (s.guarded { method := .get, path }).1 = list items) ∨
      (∃ object, s.objects.get? path = some object ∧
        (s.guarded { method := .get, path }).1 = .answer 200 (.value object)) ∨
      (s.guarded { method := .get, path }).1 = notFound path) := by
  have answered : s.guarded { method := .get, path } =
      match s.objects.get? path with
      | some object => (.answer 200 (.value object), s)
      | none =>
        if isCollection path then (list (s.objectsBelow path), s) else (notFound path, s) := rfl
  rw [answered]
  split
  · rename_i object there
    exact ⟨rfl, .inr (.inl ⟨object, there, rfl⟩)⟩
  · split
    · exact ⟨rfl, .inl ⟨_, rfl⟩⟩
    · exact ⟨rfl, .inr (.inr rfl)⟩

/-- A replacement that is let through. -/
theorem replaced_of_guarded {s : Server} {r : Request} (put : r.method = .put) {code : Nat}
    {body : Body} (answered : (s.guarded r).1 = .answer code body)
    (success : Api.isRefusal code = false) :
    ∃ stored, s.objects.get? r.path = some stored ∧ stored.version?.isSome ∧
      stored.version? = (r.body.getD .null).version? ∧
      (s.guarded r).2.objects.get? r.path =
        some (versioned (keepStatus stored (r.body.getD .null)) (s.version + 1)) := by
  unfold guarded at answered ⊢
  unfold isCurrent at answered ⊢
  cases there : s.objects.get? r.path with
  | none =>
    simp only [put, there, decide_true, Bool.not_true, Bool.and_false, Bool.false_eq_true, if_false,
      handle, notFound, refuse] at answered
    injection answered with refused
    rw [← refused] at success
    cases success
  | some stored =>
    simp only [put, there, decide_true, Bool.true_and, Bool.not_eq_true'] at answered ⊢
    split at answered
    · injection answered with refused
      rw [← refused] at success
      cases success
    · rename_i current
      rw [if_neg current]
      simp only [Bool.not_eq_false, Bool.and_eq_true, decide_eq_true_eq] at current
      refine ⟨stored, rfl, current.1, current.2, ?_⟩
      simp only [handle, put, there, store, StringMap.get?_insert, if_pos]

end Server

section
variable {kind : ManagedKind} {c : Collection} {desired : kind.Object} {createOnly : Bool}
  {others : Nat → List Write}

/-- The requests of an exchange that follows a rule follow it. -/
theorem mem_events_run {α : Type} {rule : Request → Prop} {x : Exchange α} (h : Obeys rule x)
    (w : Watched) : ∀ e ∈ (run (Watched.answer others) x w).2.events,
      e ∈ w.events ∨ rule e.request := by
  refine run_preserves (R := fun w u => ∀ e ∈ u.events, e ∈ w.events ∨ rule e.request)
    (fun _ _ => .inl) (fun first second e he => ?_) (fun r w allowed e he => ?_) h w
  · exact (second e he).elim (first e) .inr
  · rcases List.mem_cons.1 he with rfl | he
    · exact .inr allowed
    · exact .inl he

/-- Only a plan to replace an object replaces one. -/
theorem obeys_carryOut {p : Plan kind.Object} (other : ∀ object, p ≠ .replace object)
    (name : String) : Obeys (fun r => r.method ≠ .put) (carryOut c name p).run := by
  cases p with
  | create object =>
    have creates (read : Json → Option kind.Object) :
        Obeys (fun r => r.method ≠ .put) (Api.create c (Managed.toJson object) read).run :=
      Api.obeys_send fun path _ => nofun
    exact (creates _).attempt.bind_run fun _ => obeys_pure_run _
  | replace object => exact absurd rfl (other object)
  | unchanged => exact obeys_pure_run _
  | skipped => exact obeys_pure_run _

/-- What others and a fetch leave behind, and the one event that the fetch makes. -/
theorem answer_get (s : Server) (path : String) :
    ∃ e : Event, Watched.answer others { method := .get, path } ⟨s, []⟩ =
        (e.reply, ⟨(others 0).foldl Server.write s, [e]⟩) ∧
      e.request.method = .get ∧
      e.reply = (((others 0).foldl Server.write s).guarded { method := .get, path }).1 := by
  let first := (others 0).foldl Server.write s
  have same : first.guarded { method := .get, path } =
      ((first.guarded { method := .get, path }).1, first) :=
    Prod.ext rfl (Server.guarded_get first path).1
  refine ⟨⟨first, { method := .get, path }, (first.guarded { method := .get, path }).1, first⟩,
    ?_, rfl, rfl⟩
  change (let (reply, after) := first.guarded { method := .get, path }
    (reply, Watched.mk after [Event.mk first { method := .get, path } reply after])) = _
  rw [same]

/-- A replacement is made of what was fetched before. -/
theorem fetched_of_replaces {s : Server} {e : Event}
    (h : e ∈ (run (Watched.answer others) (apply c desired createOnly).run ⟨s, []⟩).2.events)
    (put : e.request.method = .put) :
    ∃ (path : String) (live : kind.Object) (fetched : Server), s.Precedes fetched ∧
      readLive kind.Object (fetched.guarded { method := .get, path }).1 = .ok live ∧
      fetched.Precedes e.before ∧
      e.request = { method := .put, path,
                    body := some (Managed.toJson (Managed.prepare live desired)) } ∧
      e.reply = (e.before.guarded e.request).1 ∧ e.after = (e.before.guarded e.request).2 := by
  cases named : (Managed.metadata desired).name with
  | none =>
    rw [run_apply_of_noName named] at h
    cases h
  | some name =>
    cases found : Address.path? (Api.targetOf c name) with
    | none =>
      rw [run_apply_of_noAddress named found] at h
      cases h
    | some path =>
      obtain ⟨fetch, answered, got, reply⟩ := answer_get s path
      have other {p : Plan kind.Object} (other : ∀ object, p ≠ .replace object)
          (h : e ∈ (run (Watched.answer others) (carryOut c name p).run
            ⟨(others 0).foldl Server.write s, [fetch]⟩).2.events) : False := by
        rcases mem_events_run (obeys_carryOut other name) _ e h with here | notPut
        · rw [List.mem_singleton.1 here, got] at put
          cases put
        · exact notPut put
      rcases run_apply_cases named found (⟨s, []⟩ : Watched) with
        ⟨live, read, ran⟩ | ⟨fault, -, -, ran⟩ | ⟨fault, -, -, ran⟩
      · by_cases planned : ∃ object, plan (some live) desired createOnly = .replace object
        · obtain ⟨object, planned⟩ := planned
          rw [ran, planned, run_carryOut_replace object found, answered] at h
          rcases List.mem_cons.1 h with rfl | h
          · refine ⟨path, live, (others 0).foldl Server.write s, s.precedes_writes _, ?_, ?_, ?_,
              rfl, rfl⟩
            · rw [answered, reply] at read
              exact read
            · exact Server.precedes_writes _ _
            · rw [eq_prepare_of_plan_replace planned]
          · rw [List.mem_singleton.1 h, got] at put
            cases put
        · rw [ran, answered] at h
          exact (other (not_exists.1 planned) h).elim
      · rw [ran, answered] at h
        exact (other (by simp) h).elim
      · rw [ran, answered] at h
        rw [List.mem_singleton.1 h, got] at put
        cases put

end

/-- The labels or annotations of a stored object, none if it gives none. -/
def Json.marks (object : Json) (mark : Mark) : Labels := (object.marks? mark).getD ∅

theorem Mark.of_carry (existing desired : Meta) (mark : Mark) :
    mark.of (existing.carry desired) =
      Labels.mergeOptional (mark.of existing) (mark.of desired) := by
  cases mark <;> rfl

/-- What is read of a reply with a value is read of the value. -/
theorem read?_of_readLive {kind : ManagedKind} {value : Json} {live : kind.Object}
    (read : readLive kind.Object (.answer 200 (.value value)) = .ok live) :
    Managed.read? value = some live := by
  rw [readLive_value] at read
  split at read
  · rename_i here
    injection read with read
    rw [here, read]
  · cases read

/-- A live object that has a version was fetched as it was stored. -/
theorem fetched_object {kind : ManagedKind} {s : Server} {path : String} {live : kind.Object}
    (read : readLive kind.Object (s.guarded { method := .get, path }).1 = .ok live)
    (given : (Managed.metadata live).resourceVersion.isSome) :
    ∃ object, s.objects.get? path = some object ∧ Managed.read? object = some live := by
  rcases (s.guarded_get path).2 with ⟨items, answered⟩ | ⟨object, there, answered⟩ | answered
  · rw [answered] at read
    have none : (Managed.metadata live).resourceVersion = none :=
      (ManagedKind.agrees_of_read? (read?_of_readLive read)).version
    rw [none] at given
    cases given
  · rw [answered] at read
    exact ⟨object, there, read?_of_readLive read⟩
  · rw [answered] at read
    cases read

/-- **No label or annotation of others is lost.** However others write in between, whenever the
replacement of an object succeeds, the wanted labels and annotations have their wanted values right
after it, and all others are what they were right before it. -/
theorem apply_keeps_marks (kind : ManagedKind) (c : Collection) (desired : kind.Object)
    (createOnly : Bool) (proper : (Managed.metadata desired).others.Avoid Meta.fieldNames)
    (others : Nat → List Write) (s : Server) (fresh : s.IsFresh) :
    ∀ e ∈ (run (Watched.answer others) (apply c desired createOnly).run ⟨s, []⟩).2.events,
      e.Replaces →
      ∃ old new, e.before.objects.get? e.request.path = some old ∧
        e.after.objects.get? e.request.path = some new ∧
        ∀ mark key, (new.marks mark).get? key =
          (((mark.of (Managed.metadata desired)).getD ∅).get? key).or
            ((old.marks mark).get? key) := by
  rintro e h ⟨put, code, body, reply, success⟩
  obtain ⟨path, live, fetched, earlier, read, later, request, answered⟩ := fetched_of_replaces h put
  have proper' : (Managed.metadata (Managed.prepare live desired)).others.Avoid
      Meta.fieldNames := by
    rw [ManagedKind.metadata_prepare]
    exact proper
  rw [request] at answered ⊢
  have replied := reply
  rw [answered.1] at replied
  obtain ⟨stored, there, given, same, replaced⟩ := Server.replaced_of_guarded rfl replied success
  rw [← answered.2] at replaced
  have version : stored.version? = (Managed.metadata live).resourceVersion := by
    rw [same, Option.getD_some, Json.version?, ManagedKind.get?_toJson, Option.bind_some,
      Meta.textAt_toJson proper', ManagedKind.metadata_prepare]
    rfl
  obtain ⟨object, was, isLive⟩ := fetched_object read (version ▸ given)
  have agrees := ManagedKind.agrees_of_read? isLive
  have unchanged : stored = object :=
    Server.stored_of_version (fresh.of_precedes earlier) later was there given
      (version.trans agrees.version)
  refine ⟨stored, _, there, replaced, fun mark key => ?_⟩
  rw [Json.marks, Json.marks, Option.getD_some, Server.marks?_stored proper',
    ManagedKind.metadata_prepare, Mark.of_carry, Labels.get?_mergeOptional, agrees.marks, unchanged]

/-- The wanted account of an agent. -/
def agentAccount : ServiceAccount where
  metadata := { name := some "spire-agent", labels := some (.ofList [("app", "agent")]) }

/-- An account as it is stored, with labels, in the first version. -/
def labelledAccount (labels : List (String × Json)) : Json :=
  .obj [("metadata", .obj [("name", .str "spire-agent"), ("labels", .obj labels),
    ("resourceVersion", .str "1")])]

/-- A server with an account that is no longer as it is wanted. -/
def labelledServer : Server where
  objects := .ofList [("/api/v1/namespaces/spire/serviceaccounts/spire-agent",
    labelledAccount [("app", .str "edited"), ("team", .str "red")])]
  version := 1

/-- Another client labels the account once more before it is fetched. -/
def labelling (n : Nat) : List Write :=
  if n = 0 then [.put "/api/v1/namespaces/spire/serviceaccounts/spire-agent"
    (labelledAccount [("app", .str "edited"), ("team", .str "blue")])]
  else []

theorem labelledServer_isFresh : labelledServer.IsFresh := by
  intro path object there n above
  have only : labelledServer.objects =
      (∅ : StringMap Json).insert "/api/v1/namespaces/spire/serviceaccounts/spire-agent"
        (labelledAccount [("app", .str "edited"), ("team", .str "red")]) := rfl
  rw [only, StringMap.get?_insert, StringMap.get?_empty] at there
  split at there
  · injection there with there
    subst there
    intro given
    have same : 1 = n := toString_injective (Option.some.inj given)
    exact absurd above (by rw [← same]; decide)
  · cases there

/-- What happens as the account is applied meanwhile. -/
def accountEvents : List Event :=
  let desired : ManagedKind.Object .serviceAccount := agentAccount
  (run (Watched.answer labelling) (apply (.serviceAccounts "spire") desired false).run
    ⟨labelledServer, []⟩).2.events

/-- The account as it is stored at the end. -/
def keptAccount : Json :=
  .obj [("apiVersion", .str "v1"), ("kind", .str "ServiceAccount"),
    ("metadata", .obj [("name", .str "spire-agent"), ("resourceVersion", .str "3"),
      ("labels", .obj [("app", .str "agent"), ("team", .str "blue")])])]

theorem apply_keeps_marks_agentAccount :
    agentAccount.metadata.others.Avoid Meta.fieldNames ∧ labelledServer.IsFresh ∧
    ∃ e ∈ accountEvents, e.Replaces ∧
      ∃ old new, e.before.objects.get? e.request.path = some old ∧
        e.after.objects.get? e.request.path = some new ∧
        ∀ mark key, (new.marks mark).get? key =
          (((mark.of agentAccount.metadata).getD ∅).get? key).or ((old.marks mark).get? key) := by
  have proper : agentAccount.metadata.others.Avoid Meta.fieldNames := nofun
  obtain ⟨e, mem, put, reply⟩ : ∃ e ∈ accountEvents, e.request.method = .put ∧
      e.reply = .answer 200 (.value keptAccount) := by
    decide +kernel
  have replaces : e.Replaces := ⟨put, 200, .value keptAccount, reply, rfl⟩
  exact ⟨proper, labelledServer_isFresh, e, mem, replaces,
    apply_keeps_marks .serviceAccount (.serviceAccounts "spire") agentAccount false proper
      labelling labelledServer labelledServer_isFresh e mem replaces⟩

end WorkloadIdentity

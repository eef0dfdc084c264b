import WorkloadIdentity.Proofs.Places
import WorkloadIdentity.Proofs.Telling

namespace WorkloadIdentity

open Exchange

variable {α β : Type} {s : Server} {sight : String → Prop}

/-- At all servers that show the same as `s`, the attempt has the result, by harmless requests. -/
def Attempt.Rests (attempt : String → Attempt α) (s : Server) (sight : String → Prop)
    (result : Except Fault α) : Prop :=
  ∃ asked, Wanted.Harmless asked ∧ ∀ now t, s.Shows sight t →
    run Server.answer (attempt now).run t = (result, t.asking asked)

/-- At all servers that show the same as `s`, the part has the result and the notes, by harmless
requests. -/
def Pass.Rests (part : String → Pass α) (s : Server) (sight : String → Prop)
    (result : Except Fault α) (notes : List Note) : Prop :=
  ∃ asked, Wanted.Harmless asked ∧ ∀ t, s.Shows sight t →
    Tells Server.answer part t result notes (t.asking asked)

theorem Wanted.Harmless.append {first second : List Request} (h : Harmless first)
    (h' : Harmless second) : Harmless (first ++ second) :=
  fun r hr => (List.mem_append.1 hr).elim (h r) (h' r)

namespace Attempt

theorem rests_done (result : Except Fault α) : Rests (fun _ => .mk (pure result)) s sight result :=
  ⟨[], nofun, fun _ _ _ => rfl⟩

theorem Rests.bind {x : String → Attempt α} {f : α → String → Attempt β} {a : α}
    {result : Except Fault β} (first : Rests x s sight (.ok a))
    (second : Rests (f a) s sight result) :
    Rests (fun now => x now >>= fun a => f a now) s sight result := by
  obtain ⟨asked, harmless, ran⟩ := first
  obtain ⟨more, harmless', later⟩ := second
  refine ⟨more ++ asked, harmless'.append harmless, fun now t shows => ?_⟩
  rw [ExceptT.run_bind, run_bind_eq, ran now t shows, ← Server.asking_asking]
  exact later now _ (shows.asking asked)

theorem Rests.bind_of_error {x : String → Attempt α} {f : α → String → Attempt β} {fault : Fault}
    (first : Rests x s sight (.error fault)) :
    Rests (fun now => x now >>= fun a => f a now) s sight (.error fault) := by
  obtain ⟨asked, harmless, ran⟩ := first
  refine ⟨asked, harmless, fun now t shows => ?_⟩
  rw [ExceptT.run_bind, run_bind_eq, ran now t shows]
  rfl

theorem Rests.pass {x : String → Attempt α} {result : Except Fault α}
    (h : Rests x s sight result) :
    Pass.Rests (fun now => (x now).pass) s sight result [] := by
  obtain ⟨asked, harmless, ran⟩ := h
  refine ⟨asked, harmless, fun t shows now journal => ⟨journal.metrics, ?_⟩⟩
  refine (run_bind_eq (x now).run _ t).trans ?_
  rw [ran now t shows]
  rfl

end Attempt

namespace Pass

variable {notes more : List Note}

theorem rests_pure (a : α) : Rests (fun _ => pure a) s sight (.ok a) [] :=
  ⟨[], nofun, fun t _ => tells_pure a t⟩

theorem rests_throw (fault : Fault) :
    Rests (fun _ => (throw fault : Pass α)) s sight (.error fault) [] :=
  ⟨[], nofun, fun t _ => tells_throw fault t⟩

theorem Rests.bind {part : String → Pass α} {f : String → α → Pass β} {a : α}
    {result : Except Fault β} (first : Rests part s sight (.ok a) notes)
    (second : Rests (fun now => f now a) s sight result more) :
    Rests (fun now => part now >>= f now) s sight result (notes ++ more) := by
  obtain ⟨asked, harmless, told⟩ := first
  obtain ⟨asked', harmless', later⟩ := second
  refine ⟨asked' ++ asked, harmless'.append harmless, fun t shows => ?_⟩
  rw [← Server.asking_asking]
  exact tells_bind (told t shows) (later _ (shows.asking asked))

theorem Rests.bind_of_error {part : String → Pass α} {f : String → α → Pass β} {fault : Fault}
    (first : Rests part s sight (.error fault) notes) :
    Rests (fun now => part now >>= f now) s sight (.error fault) notes := by
  obtain ⟨asked, harmless, told⟩ := first
  exact ⟨asked, harmless, fun t shows => tells_bind_of_error (told t shows)⟩

theorem Rests.of_shows {part : String → Pass α} {result : Except Fault α} {t : Server}
    {sight' : String → Prop} (h : Rests part s sight result notes)
    (shows : ∀ u, t.Shows sight' u → s.Shows sight u) : Rests part t sight' result notes := by
  obtain ⟨asked, harmless, told⟩ := h
  exact ⟨asked, harmless, fun u shown => told u (shows u shown)⟩

/-- A part that asks, and goes on to ask whatever comes of it. -/
theorem exists_rests_bind {part : String → Pass α} {f : String → α → Pass β} {good : β → Prop}
    (first : ∃ result, Rests part s sight result [])
    (second : ∀ a, ∃ result, Rests (fun now => f now a) s sight result [] ∧
      ∀ b, result = .ok b → good b) :
    ∃ result, Rests (fun now => part now >>= f now) s sight result [] ∧
      ∀ b, result = .ok b → good b := by
  obtain ⟨fault | a, first⟩ := first
  · exact ⟨_, first.bind_of_error, nofun⟩
  · obtain ⟨result, second, ends⟩ := second a
    exact ⟨result, first.bind second, ends⟩

end Pass

section
variable {c : Collection} {name : String} (read : Json → Option α)
  (seen : ∀ path, Address.path? (Api.targetOf c name) = some path →
    Server.ReadsNoList read path ∧ sight path)

include seen

theorem Api.run_get_rests : ∃ result asked, Wanted.Harmless asked ∧ ∀ t, s.Shows sight t →
    run Server.answer (Api.get c name read).run t = (result, t.asking asked) := by
  cases found : Address.path? (Api.targetOf c name) with
  | none => exact ⟨_, [], nofun, fun t _ => run_send_of_none found t⟩
  | some path =>
    obtain ⟨noList, inSight⟩ := seen path found
    refine ⟨readReply read (s.fetched path), [{ method := .get, path }],
      by simp [Wanted.Harmless], fun t shows => ?_⟩
    refine (run_send found t).trans ?_
    rw [Server.answer_get shows.untroubled, shows.readReply_fetched inSight noList]

theorem Attempt.rests_get :
    ∃ result, Attempt.Rests (fun _ => Call.attempt (Api.get c name read)) s sight result := by
  obtain ⟨result, asked, harmless, ran⟩ := Api.run_get_rests (s := s) read seen
  refine ⟨result.mapError Fault.api, asked, harmless, fun _ t shows => ?_⟩
  rw [Call.run_attempt, ran t shows]

theorem Attempt.rests_find? :
    ∃ result, Attempt.Rests (fun _ => Call.attempt (Api.find? c name read)) s sight result := by
  obtain ⟨result, asked, harmless, ran⟩ := Api.run_get_rests (s := s) read seen
  refine ⟨(Api.orMissing result).mapError Fault.api, asked, harmless, fun _ t shows => ?_⟩
  rw [Call.run_attempt, Api.run_find?, ran t shows]

end

theorem CustomKind.isCollection_path (kind : CustomKind) :
    Server.isCollection kind.path = false := by
  have each : ∀ kind ∈ all, Server.isCollection kind.path = false := by decide +kernel
  exact each kind kind.mem_all

/-- Resources of different kinds live at different paths. -/
theorem CustomKind.eq_of_path_eq {kind other : CustomKind} (h : kind.path = other.path) :
    kind = other := by
  have each : ∀ a ∈ all, ∀ b ∈ all, a.path = b.path → a = b := by decide
  exact each kind kind.mem_all other other.mem_all h

/-- A resource of a user is fetched from its path. -/
theorem Attempt.rests_findCustom (kind : CustomKind) (read : Json → Option α)
    (seen : sight kind.path) : ∃ result, Attempt.Rests
      (fun _ => Call.attempt (Api.find? kind.collection singletonName read)) s sight result := by
  refine Attempt.rests_find? read fun path found => ?_
  have here : Address.path? kind.path = some kind.path := Address.path?_of_isPlain kind.isPlain_path
  cases here.symm.trans found
  exact ⟨fun listed => (by cases kind.isCollection_path.symm.trans listed), seen⟩

end WorkloadIdentity

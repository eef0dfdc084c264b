import WorkloadIdentity.Proofs.Status
import WorkloadIdentity.Proofs.Telling

namespace WorkloadIdentity

open Exchange

variable {α β τ : Type} {server : Request → τ → Reply × τ}

namespace Exchange

/-- The requests that an exchange sends to a server, in their order. -/
def sent (server : Request → τ → Reply × τ) : Exchange α → τ → List Request
  | done _, _ => []
  | ask request next, s =>
    request :: sent server (next (server request s).1) (server request s).2

theorem sent_bind (x : Exchange α) (f : α → Exchange β) (s : τ) :
    sent server (x >>= f) s =
      sent server x s ++ sent server (f (run server x s).1) (run server x s).2 := by
  change sent server (bind x f) s = _
  induction x generalizing s with
  | done a => rfl
  | ask request next ih =>
    simp only [bind, sent, List.cons_append]
    exact congrArg _ (ih _ _)

end Exchange

namespace Attempt

variable {x : Attempt α} {f : α → Attempt β} {a : α} {fault : Fault} {s t : τ}

theorem run_bind_of_ok (ran : run server x.run s = (.ok a, t)) :
    run server (x >>= f).run s = run server (f a).run t := by
  rw [ExceptT.run_bind, run_bind_eq, ran]

theorem run_bind_of_error (ran : run server x.run s = (.error fault, t)) :
    run server (x >>= f).run s = (.error fault, t) := by
  rw [ExceptT.run_bind, run_bind_eq, ran]
  rfl

theorem sent_bind_of_ok (ran : run server x.run s = (.ok a, t)) :
    sent server (x >>= f).run s = sent server x.run s ++ sent server (f a).run t := by
  rw [ExceptT.run_bind, sent_bind, ran]

/-- An attempt that fails sends no more. -/
theorem sent_bind_of_error (ran : run server x.run s = (.error fault, t)) :
    sent server (x >>= f).run s = sent server x.run s := by
  rw [ExceptT.run_bind, sent_bind, ran]
  exact List.append_nil _

/-- What is made of the result is no request. -/
theorem sent_bind_pure (x : Attempt α) (f : α → β) (s : τ) :
    sent server (x >>= fun a => pure (f a)).run s = sent server x.run s := by
  rw [ExceptT.run_bind, sent_bind]
  cases (run server x.run s).1 <;> exact List.append_nil _

end Attempt

theorem Call.sent_attempt (call : Call α) (s : τ) :
    sent server call.attempt.run s = sent server call.run s :=
  (sent_bind call.run _ s).trans (List.append_nil _)

namespace Api

variable {c : Collection} {name path : String} {read : Json → Option α}

theorem sent_send {method : Method} {target : String} {body : Option Json}
    (found : Address.path? target = some path) (s : τ) :
    sent server (send method target body read).run s = [{ method, path, body }] := by
  unfold send
  rw [found]
  rfl

theorem sent_find? (c : Collection) (name : String) (read : Json → Option α) (s : τ) :
    sent server (find? c name read).run s = sent server (get c name read).run s := by
  refine (sent_bind (get c name read).run _ s).trans ?_
  cases (run server (get c name read).run s).1 <;> exact List.append_nil _

end Api

/-- A resource of a user is fetched from its path. -/
theorem CustomKind.run_find? (kind : CustomKind) (read : Json → Option α) (s : τ) :
    run server (Call.attempt (Api.find? kind.collection singletonName read)).run s =
      ((Api.orMissing (Api.readReply read
          (server { method := .get, path := kind.path } s).1)).mapError Fault.api,
        (server { method := .get, path := kind.path } s).2) := by
  have found : Address.path? (Api.targetOf kind.collection singletonName) = some kind.path :=
    Address.path?_of_isPlain kind.isPlain_path
  rw [Call.run_attempt, Api.run_find?, Api.get, Api.run_send found]

/-- A resource of a user is fetched by one request. -/
theorem CustomKind.sent_find? (kind : CustomKind) (read : Json → Option α) (s : τ) :
    sent server (Call.attempt (Api.find? kind.collection singletonName read)).run s =
      [{ method := .get, path := kind.path }] := by
  rw [Call.sent_attempt, Api.sent_find?]
  exact Api.sent_send (Address.path?_of_isPlain kind.isPlain_path) s

/-- The status of a resource of a user is patched by one request. -/
theorem CustomKind.sent_patchStatus (kind : CustomKind) (patch : Json) (read : Json → Option α)
    (s : τ) :
    sent server (Call.attempt (Api.patchStatus kind.collection singletonName patch read)).run s =
      [{ method := .patch, path := kind.path ++ "/status", body := some patch }] := by
  rw [Call.sent_attempt]
  exact Api.sent_send kind.path?_status s

/-- Whatever the time is and whatever has been noted before, a part of a pass that starts at `s`
ends at `t` with a result and further notes, and sends the same requests. -/
structure Pass.Goes (server : Request → τ → Reply × τ) (part : String → Pass α) (s : τ)
    (result : Except Fault α) (notes : List Note) (asked : List Request) (t : τ) : Prop where
  told : Pass.Tells server part s result notes t
  sent : ∀ now (journal : Journal), Exchange.sent server ((part now).run journal) s = asked

namespace Pass

variable {s t u : τ} {notes more : List Note} {asked asked' : List Request}

theorem goes_pure (a : α) (s : τ) : Goes server (fun _ => pure a) s (.ok a) [] [] s :=
  ⟨tells_pure a s, fun _ _ => rfl⟩

theorem Goes.bind {part : String → Pass α} {f : String → α → Pass β} {a : α}
    {result : Except Fault β} (first : Goes server part s (.ok a) notes asked t)
    (second : Goes server (fun now => f now a) t result more asked' u) :
    Goes server (fun now => part now >>= f now) s result (notes ++ more) (asked ++ asked') u := by
  refine ⟨tells_bind first.told second.told, fun now journal => ?_⟩
  obtain ⟨metrics, ran⟩ := first.told now journal
  rw [ExceptT.run_bind]
  refine (sent_bind ((part now).run journal) _ s).trans ?_
  rw [ran, first.sent]
  exact congrArg _ (second.sent now _)

theorem Goes.bind_of_error {part : String → Pass α} {f : String → α → Pass β} {fault : Fault}
    (first : Goes server part s (.error fault) notes asked t) :
    Goes server (fun now => part now >>= f now) s (.error fault) notes asked t := by
  refine ⟨tells_bind_of_error first.told, fun now journal => ?_⟩
  obtain ⟨metrics, ran⟩ := first.told now journal
  rw [ExceptT.run_bind]
  refine (sent_bind ((part now).run journal) _ s).trans ?_
  rw [ran, first.sent]
  exact List.append_nil _

/-- An attempt notes nothing. -/
theorem goes_attempt {attempt : Attempt α} {result : Except Fault α}
    (ran : run server attempt.run s = (result, t)) :
    Goes server (fun _ => attempt.pass) s result [] (Exchange.sent server attempt.run s) t := by
  have told : Tells server (fun _ => attempt.pass) s _ [] _ := tells_attempt attempt s
  rw [ran] at told
  exact ⟨told, fun _ _ => (sent_bind attempt.run _ s).trans (List.append_nil _)⟩

end Pass

namespace Step

variable {settings : Settings} {step : Step} {s t : τ}

theorem goes_run_of_error {fault : Fault} (flawed : step.wanted = .error fault) (s : τ) :
    Pass.Goes server (fun now => step.run ⟨settings, now⟩) s (.error fault) [] [] s := by
  refine ⟨tells_run_of_error flawed s, fun now journal => ?_⟩
  unfold run
  rw [flawed]
  rfl

theorem goes_run_of_none (idle : step.wanted = .ok none) (s : τ) :
    Pass.Goes server (fun now => step.run ⟨settings, now⟩) s (.ok ()) [] [] s := by
  refine ⟨tells_run_of_none idle s, fun now journal => ?_⟩
  unfold run
  rw [idle]
  rfl

/-- A step with an object sends what the attempt to apply it sends. -/
theorem goes_run_of_some {w : Wanted} {result : Except Fault Outcome}
    (made : step.wanted = .ok (some w))
    (ran : Exchange.run server (w.attempt settings.createOnly).run s = (result, t)) :
    Pass.Goes server (fun now => step.run ⟨settings, now⟩) s (result.map fun _ => ())
      [w.note step.condition result]
      (Exchange.sent server (w.attempt settings.createOnly).run s) t := by
  refine ⟨tells_run_of_some made ran, fun now journal => ?_⟩
  unfold run
  rw [made]
  exact (sent_bind (w.attempt settings.createOnly).run _ s).trans (List.append_nil _)

end Step

namespace Attempt

variable {x : Attempt α}

theorem pass_pure (a : α) : (pure a : Attempt α).pass = pure a := rfl

/-- Parts that note nothing can be put together before they become part of a pass. -/
theorem pass_bind (x : Attempt α) (f : α → Attempt β) :
    (x >>= f).pass = x.pass >>= fun a => (f a).pass := by
  refine ExceptT.ext (funext fun journal => ?_)
  change ((x >>= f).run >>= fun result => pure (result, journal)) =
    (x.run >>= fun result => pure (result, journal)) >>= _
  rw [ExceptT.run_bind, LawfulMonad.bind_assoc, LawfulMonad.bind_assoc]
  refine congrArg _ (funext fun result => ?_)
  cases result <;> rfl

end Attempt

namespace Operand

variable {σ : Type} [OperandPass σ] {o : Operand σ} {s t : τ} {settings : Settings}
  {outcome : Except Fault Readiness} {notes : List Note} {asked : List Request}

/-- The conditions are patched by one request. -/
theorem sent_patchConditions (conditions : List Condition) (s : τ) :
    sent server (patchConditions σ singletonName conditions).run s =
      [statusRequest σ conditions] :=
  (Attempt.sent_bind_pure _ _ s).trans
    (CustomKind.sent_patchStatus (.operand (OperandSpec.kind σ)) _ _ s)

/-- After its own requests, a pass patches the status if and only if its notes change the
conditions. -/
theorem sent_look (named : o.metadata.anyName = singletonName)
    (goes : Pass.Goes server (fun now => drive ⟨settings, now⟩ o) s outcome notes asked t)
    (now : String) (elapsed : Nat) (ledger : Ledger) :
    let recorder := o.recorded now (notes ++ Recorder.closing outcome settings.createOnly)
    sent server (o.look ⟨settings, now⟩ elapsed ledger) s =
      asked ++ if recorder.changed then [statusRequest σ recorder.conditions] else [] := by
  intro recorder
  obtain ⟨metrics, ran⟩ := goes.told now
    { recorder := .start o.conditions o.metadata.generation, metrics := ledger.metrics }
  unfold look
  dsimp only
  rw [if_neg (not_not_intro named), named, sent_bind, goes.sent, ran]
  dsimp only
  have isRecorded : (Recorder.start o.conditions o.metadata.generation).write now
      (notes ++ Recorder.closing outcome settings.createOnly) = recorder := rfl
  rw [Recorder.conclude_eq_write, ← Recorder.write_append, isRecorded]
  refine congrArg (asked ++ ·) ?_
  by_cases changed : recorder.changed = true
  · rw [if_pos changed, if_pos changed, sent_bind, sent_patchConditions]
    cases outcome.bind fun _ =>
      (run server (patchConditions σ singletonName recorder.conditions).run t).1 <;> rfl
  · rw [if_neg changed, if_neg changed]
    cases outcome <;> rfl

/-- With one note for each type, a pass patches the status if and only if the conditions differ. -/
theorem sent_look_of_once (named : o.metadata.anyName = singletonName)
    (goes : Pass.Goes server (fun now => drive ⟨settings, now⟩ o) s outcome notes asked t)
    (once : ((notes ++ Recorder.closing outcome settings.createOnly).map (·.type)).Nodup)
    (now : String) (elapsed : Nat) (ledger : Ledger) :
    let final := (o.recorded now
      (notes ++ Recorder.closing outcome settings.createOnly)).conditions
    sent server (o.look ⟨settings, now⟩ elapsed ledger) s =
      asked ++ if final = o.conditions then [] else [statusRequest σ final] := by
  intro final
  rw [sent_look named goes]
  have changed : (o.recorded now (notes ++ Recorder.closing outcome settings.createOnly)).changed =
      true ↔ final ≠ o.conditions := Recorder.changed_write_iff once rfl
  by_cases same : final = o.conditions
  · rw [if_pos same, if_neg fun isChanged => changed.1 isChanged same]
  · rw [if_neg same, if_pos (changed.2 same)]

end Operand

end WorkloadIdentity

import WorkloadIdentity.Proofs.Applying
import WorkloadIdentity.Proofs.Notes
import WorkloadIdentity.Pass.Operand

namespace WorkloadIdentity

open Exchange

variable {α β τ : Type} {server : Request → τ → Reply × τ}

/-- Whatever the time is and whatever has been noted before, a part of a pass that starts at `s`
ends at `t` with a result and with further notes. -/
def Pass.Tells (server : Request → τ → Reply × τ) (part : String → Pass α) (s : τ)
    (result : Except Fault α) (notes : List Note) (t : τ) : Prop :=
  ∀ now (journal : Journal), ∃ metrics, run server ((part now).run journal) s =
    ((result, { recorder := journal.recorder.write now notes, metrics }), t)

namespace Pass

variable {s t u : τ} {notes more : List Note}

theorem tells_pure (a : α) (s : τ) : Tells server (fun _ => pure a) s (.ok a) [] s :=
  fun _ journal => ⟨journal.metrics, rfl⟩

theorem tells_throw (fault : Fault) (s : τ) :
    Tells server (fun _ => (throw fault : Pass α)) s (.error fault) [] s :=
  fun _ journal => ⟨journal.metrics, rfl⟩

section
variable {x : Pass α} {f : α → Pass β} {journal journal' : Journal}

theorem run_bind_of_ok {a : α} (ran : run server (x.run journal) s = ((.ok a, journal'), t)) :
    run server ((x >>= f).run journal) s = run server ((f a).run journal') t := by
  rw [ExceptT.run_bind]
  refine (run_bind_eq _ _ s).trans ?_
  rw [ran]

theorem run_bind_of_error {fault : Fault}
    (ran : run server (x.run journal) s = ((.error fault, journal'), t)) :
    run server ((x >>= f).run journal) s = ((.error fault, journal'), t) := by
  rw [ExceptT.run_bind]
  refine (run_bind_eq _ _ s).trans ?_
  rw [ran]
  rfl

end

theorem tells_bind {part : String → Pass α} {f : String → α → Pass β} {a : α}
    {result : Except Fault β} (first : Tells server part s (.ok a) notes t)
    (second : Tells server (fun now => f now a) t result more u) :
    Tells server (fun now => part now >>= f now) s result (notes ++ more) u := by
  intro now journal
  obtain ⟨metrics, ran⟩ := first now journal
  obtain ⟨metrics, later⟩ := second now { recorder := journal.recorder.write now notes, metrics }
  refine ⟨metrics, ?_⟩
  rw [run_bind_of_ok ran, Recorder.write_append]
  exact later

theorem tells_bind_of_error {part : String → Pass α} {f : String → α → Pass β} {fault : Fault}
    (first : Tells server part s (.error fault) notes t) :
    Tells server (fun now => part now >>= f now) s (.error fault) notes t := by
  intro now journal
  obtain ⟨metrics, ran⟩ := first now journal
  exact ⟨metrics, run_bind_of_error ran⟩

theorem tells_attempt (attempt : Attempt α) (s : τ) :
    Tells server (fun _ => attempt.pass) s (run server attempt.run s).1 []
      (run server attempt.run s).2 :=
  fun _ journal => ⟨journal.metrics, run_bind_eq attempt.run _ s⟩

end Pass

namespace Wanted

/-- What is noted when an object has been applied. -/
def note (w : Wanted) (condition : String) : Except Fault Outcome → Note
  | .ok outcome => ⟨condition, .isTrue, outcome.reason,
      w.kindName ++ " " ++ w.metadata.name.getD "" ++ " " ++ outcome.text⟩
  | .error fault => ⟨condition, .isFalse, fault.reason,
      w.kindName ++ " " ++ w.metadata.name.getD "" ++ ": " ++ fault.message⟩

@[simp]
theorem type_note (w : Wanted) (condition : String) (result : Except Fault Outcome) :
    (w.note condition result).type = condition := by
  cases result <;> rfl

/-- Brings the object to its wanted state. -/
def attempt (w : Wanted) (createOnly : Bool) : Attempt Outcome :=
  WorkloadIdentity.apply w.collection w.object createOnly

theorem tells_apply (server : Request → τ → Reply × τ) (w : Wanted) (settings : Settings)
    (condition : String) (s : τ) :
    Pass.Tells server (fun now => w.apply ⟨settings, now⟩ condition) s
      ((run server (w.attempt settings.createOnly).run s).1.map fun _ => ())
      [w.note condition (run server (w.attempt settings.createOnly).run s).1]
      (run server (w.attempt settings.createOnly).run s).2 := by
  intro now journal
  have noted : ∃ metrics, journal.note now condition w
      (run server (w.attempt settings.createOnly).run s).1 =
        { recorder := journal.recorder.write now
            [w.note condition (run server (w.attempt settings.createOnly).run s).1]
          metrics } := by
    cases (run server (w.attempt settings.createOnly).run s).1 <;> exact ⟨_, rfl⟩
  obtain ⟨metrics, noted⟩ := noted
  refine ⟨metrics, ?_⟩
  rw [← noted]
  exact run_bind_eq (w.attempt settings.createOnly).run _ s

end Wanted

namespace Step

variable {settings : Settings} {step : Step}

theorem tells_run_of_error {fault : Fault} (h : step.wanted = .error fault) (s : τ) :
    Pass.Tells server (fun now => step.run ⟨settings, now⟩) s (.error fault) [] s := by
  unfold run
  rw [h]
  exact Pass.tells_throw fault s

theorem tells_run_of_none (h : step.wanted = .ok none) (s : τ) :
    Pass.Tells server (fun now => step.run ⟨settings, now⟩) s (.ok ()) [] s := by
  unfold run
  rw [h]
  exact Pass.tells_pure () s

/-- A step with an object has the result of the attempt to apply it, and one note on it. -/
theorem tells_run_of_some {w : Wanted} {result : Except Fault Outcome} {s t : τ}
    (h : step.wanted = .ok (some w))
    (ran : Exchange.run server (w.attempt settings.createOnly).run s = (result, t)) :
    Pass.Tells server (fun now => step.run ⟨settings, now⟩) s (result.map fun _ => ())
      [w.note step.condition result] t := by
  unfold run
  rw [h]
  have told := w.tells_apply server settings step.condition s
  rw [ran] at told
  exact told

end Step

namespace Recorder

/-- What is noted at the end of a pass. -/
def closing (outcome : Except Fault Readiness) (createOnly : Bool) : List Note :=
  [match outcome with
    | .ok readiness =>
      if readiness.ready then
        ⟨Condition.ready, .isTrue, Condition.Reason.ready, readiness.message⟩
      else ⟨Condition.ready, .isFalse, Condition.Reason.workloadNotReady, readiness.message⟩
    | .error fault => ⟨Condition.ready, .isFalse, fault.reason, fault.message⟩,
    if createOnly then
      ⟨Condition.createOnlyMode, .isTrue, Condition.Reason.createOnlyEnabled,
        "Existing resources are not updated"⟩
    else
      ⟨Condition.createOnlyMode, .isFalse, Condition.Reason.createOnlyDisabled,
        "Existing resources are reconciled"⟩]

theorem types_closing (outcome : Except Fault Readiness) (createOnly : Bool) :
    (closing outcome createOnly).map (·.type) = [Condition.ready, Condition.createOnlyMode] := by
  cases createOnly <;> rcases outcome with fault | ⟨ready, message⟩
  case false.ok | true.ok => cases ready <;> rfl
  all_goals rfl

theorem conclude_eq_write (r : Recorder) (now : String) (outcome : Except Fault Readiness)
    (createOnly : Bool) :
    r.conclude now outcome createOnly = r.write now (closing outcome createOnly) := by
  cases createOnly <;> rcases outcome with fault | ⟨ready, message⟩
  case false.ok | true.ok => cases ready <;> rfl
  all_goals rfl

end Recorder

namespace Operand

variable {σ : Type} [OperandPass σ] {o : Operand σ} {s t : τ} {settings : Settings}
  {outcome : Except Fault Readiness} {notes : List Note}

/-- What a pass has recorded in the end. -/
def recorded (o : Operand σ) (now : String) (notes : List Note) : Recorder :=
  (Recorder.start o.conditions o.metadata.generation).write now notes

/-- A pass patches the status if and only if its notes change the conditions. -/
theorem run_look (named : o.metadata.anyName = singletonName)
    (told : Pass.Tells server (fun now => drive ⟨settings, now⟩ o) s outcome notes t)
    (now : String) (elapsed : Nat) (ledger : Ledger) :
    let recorder := o.recorded now (notes ++ Recorder.closing outcome settings.createOnly)
    let patched := if recorder.changed then
      run server (patchConditions σ singletonName recorder.conditions).run t else (.ok (), t)
    ∃ ledger', run server (o.look ⟨settings, now⟩ elapsed ledger) s =
      (((outcome.bind fun _ => patched.1).map fun _ => .after settings.intervalSeconds, ledger'),
        patched.2) := by
  intro recorder patched
  obtain ⟨metrics, ran⟩ := told now
    { recorder := .start o.conditions o.metadata.generation, metrics := ledger.metrics }
  unfold look
  dsimp only
  rw [if_neg (Decidable.not_not.2 named), named, run_bind_eq, ran]
  dsimp only
  have isRecorded : (Recorder.start o.conditions o.metadata.generation).write now
      (notes ++ Recorder.closing outcome settings.createOnly) = recorder := rfl
  rw [Recorder.conclude_eq_write, ← Recorder.write_append, isRecorded]
  by_cases changed : recorder.changed = true
  · have isPatched : patched =
        run server (patchConditions σ singletonName recorder.conditions).run t := if_pos changed
    rw [if_pos changed, run_bind_eq, ← isPatched]
    cases ended : outcome.bind fun _ => patched.1 with
    | ok a => exact ⟨_, rfl⟩
    | error fault => exact ⟨_, rfl⟩
  · have isPatched : patched = (.ok (), t) := if_neg changed
    rw [if_neg changed, isPatched]
    cases outcome with
    | ok a => exact ⟨_, rfl⟩
    | error fault => exact ⟨_, rfl⟩

end Operand

end WorkloadIdentity

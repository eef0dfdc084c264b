import WorkloadIdentity.Proofs.Course

/-! A pass over an operand writes objects only behind its approval: it has fetched the manager, and
has found the trust domain of the manager and the specification of the operand sound. A resource of
another name is not looked after at all. -/

namespace WorkloadIdentity

open Exchange

variable {τ : Type} {server : Request → τ → Reply × τ}

namespace Operand

variable {σ : Type} [OperandPass σ] {o : Operand σ} {settings : Settings} {s t : τ}

/-- A pass over the operand that starts at `s` fetches this manager, which is sound, as is the
operand. -/
structure IsApproved (server : Request → τ → Reply × τ) (s : τ) (o : Operand σ) (m : Manager) :
    Prop where
  named : o.metadata.anyName = singletonName
  fetched : (run server
    (Call.attempt (Api.find? .managers singletonName Manager.read?)).run s).1 = .ok (some m)
  trusted : TrustDomain.check m.spec.trustDomain = .ok ()
  sound : OperandSpec.flaw? o.spec = none

theorem flaw?_of_check (h : check o = .ok ()) : OperandSpec.flaw? o.spec = none := by
  unfold check at h
  cases flaw : OperandSpec.flaw? o.spec with
  | none => rfl
  | some text =>
    rw [flaw] at h
    cases h

/-- The part of an approval behind the fetched manager, which asks nothing. -/
def judge (o : Operand σ) (found : Option Manager) : Except Fault ManagerSpec := do
  let m ← found.elim (throw (.managerNotFound singletonName)) pure
  TrustDomain.check m.spec.trustDomain
  check o
  return m.spec

theorem approve_eq_judge (o : Operand σ) : approve o =
    Call.attempt (Api.find? .managers singletonName Manager.read?) >>= fun found =>
      .mk (pure (judge o found)) := by
  unfold approve
  refine congrArg _ (funext fun found => ?_)
  cases found with
  | none => rfl
  | some m =>
    unfold judge specOf
    simp only [Option.elim, pure_bind]
    generalize TrustDomain.check m.spec.trustDomain = trust
    generalize check o = soundness
    cases trust with
    | error fault => rfl
    | ok _ =>
      cases soundness with
      | error fault => rfl
      | ok _ => rfl

/-- What an approval says: the manager is there, and what the users wrote is sound. -/
theorem judge_inv {found : Option Manager} {spec : ManagerSpec} (h : judge o found = .ok spec) :
    ∃ m, found = some m ∧ TrustDomain.check m.spec.trustDomain = .ok () ∧
      OperandSpec.flaw? o.spec = none := by
  cases found with
  | none => cases h
  | some m =>
    obtain ⟨_, ⟨⟩, h⟩ := exists_of_bind_ok h
    obtain ⟨_, trusted, h⟩ := exists_of_bind_ok h
    obtain ⟨_, sound, -⟩ := exists_of_bind_ok h
    exact ⟨m, rfl, trusted, flaw?_of_check sound⟩

/-- An approval fetches the manager, and nothing else. -/
theorem sent_approve (o : Operand σ) (s : τ) :
    sent server (approve o).run s = [{ method := .get, path := CustomKind.manager.path }] := by
  rw [approve_eq_judge, ← CustomKind.sent_find? .manager Manager.read? s, ExceptT.run_bind,
    sent_bind]
  cases (run server
    (Call.attempt (Api.find? .managers singletonName Manager.read?)).run s).1 <;>
    exact List.append_nil _

theorem fetched_of_approved {spec : ManagerSpec}
    (approved : run server (approve o).run s = (.ok spec, t)) : ∃ m,
      (run server (Call.attempt (Api.find? .managers singletonName Manager.read?)).run s).1 =
        .ok (some m) ∧ TrustDomain.check m.spec.trustDomain = .ok () ∧
      OperandSpec.flaw? o.spec = none := by
  rw [approve_eq_judge] at approved
  cases fetched : run server
      (Call.attempt (Api.find? .managers singletonName Manager.read?)).run s with
  | mk result u =>
    cases result with
    | error fault =>
      rw [Attempt.run_bind_of_error fetched] at approved
      cases approved
    | ok found =>
      rw [Attempt.run_bind_of_ok fetched] at approved
      obtain ⟨m, rfl, trusted, sound⟩ := judge_inv (congrArg Prod.fst approved)
      exact ⟨m, rfl, trusted, sound⟩

/-- A resource of another name is left alone. -/
theorem look_of_other_name (other : o.metadata.anyName ≠ singletonName) (scene : Scene)
    (elapsed : Nat) (ledger : Ledger) :
    o.look scene elapsed ledger = pure (.ok .onChange, ledger) :=
  if_pos other

end Operand

section
variable {kind : OperandKind} {settings : Settings} {now : String} {o : Operand kind.Spec} {s : τ}

/-- After it has fetched the manager, a pass that is not approved does no more than patch its
status. -/
theorem Operand.sent_look_of_unapproved {fault : Fault} {t : τ}
    (named : o.metadata.anyName = singletonName)
    (refused : run server (approve o).run s = (.error fault, t)) (elapsed : Nat)
    (ledger : Ledger) :
    ∀ r ∈ sent server (o.look ⟨settings, now⟩ elapsed ledger) s,
      r.method = .get ∨ r.method = .patch := by
  have goes : Pass.Goes server (fun now => drive ⟨settings, now⟩ o) s (.error fault) []
      (sent server (approve o).run s) t := by
    simp only [drive_eq_approve]
    exact (Pass.goes_attempt refused).bind_of_error
  rw [sent_look named goes, sent_approve]
  intro r hr
  rcases List.mem_append.1 hr with fetches | patches
  · rw [List.mem_singleton.1 fetches]
    exact .inl rfl
  · split at patches
    · rw [List.mem_singleton.1 patches]
      exact .inr rfl
    · cases patches

/-- A pass that is approved fetches the manager first. -/
theorem Operand.sent_look_of_approved {spec : ManagerSpec} {t : τ}
    (named : o.metadata.anyName = singletonName)
    (approved : run server (approve o).run s = (.ok spec, t)) (elapsed : Nat) (ledger : Ledger) :
    ∃ later, sent server (o.look ⟨settings, now⟩ elapsed ledger) s =
      { method := .get, path := CustomKind.manager.path } :: later := by
  obtain ⟨course, u, takes⟩ := exists_takes kind.Spec settings
    (kind.follows server ⟨settings, now⟩ spec o) t
  rw [sent_look named (goes_drive approved takes), sent_approve]
  exact ⟨_, rfl⟩

end

/-- **Nothing is written without approval.** Whatever the server answers: if a pass over an operand
sends a request that creates or replaces an object, then the resource has the one name under which
it is looked after, and before that request the pass has fetched the manager, which exists and whose
trust domain is accepted, and has found the specification of the operand sound. A resource of
another name causes no request at all, and leaves the metrics and the counts of failures as they
are. -/
theorem writes_only_if_approved (kind : OperandKind) (server : Request → τ → Reply × τ) (s : τ)
    (scene : Scene) (elapsed : Nat) (ledger : Ledger) (o : Operand kind.Spec) :
    (∀ r ∈ sent server (o.look scene elapsed ledger) s, r.method = .post ∨ r.method = .put →
      ∃ m later, o.IsApproved server s m ∧
        sent server (o.look scene elapsed ledger) s =
          { method := .get, path := CustomKind.manager.path } :: later ∧ r ∈ later) ∧
    (o.metadata.anyName ≠ singletonName →
      sent server (o.look scene elapsed ledger) s = [] ∧
      run server (o.look scene elapsed ledger) s = ((.ok .onChange, ledger), s)) := by
  constructor
  · intro r hr writes
    by_cases named : o.metadata.anyName = singletonName
    · cases ran : run server (Operand.approve o).run s with
      | mk result t =>
        cases result with
        | error fault =>
          have harmless := Operand.sent_look_of_unapproved named ran elapsed ledger r hr
          grind
        | ok spec =>
          obtain ⟨m, fetched, trusted, sound⟩ := Operand.fetched_of_approved ran
          obtain ⟨later, all⟩ : ∃ later, sent server (o.look scene elapsed ledger) s = _ :: later :=
            Operand.sent_look_of_approved named ran elapsed ledger
          refine ⟨m, later, ⟨named, fetched, trusted, sound⟩, all, ?_⟩
          rw [all] at hr
          rcases List.mem_cons.1 hr with fetches | isLater
          · rw [fetches] at writes
            grind
          · exact isLater
    · rw [Operand.look_of_other_name named] at hr
      cases hr
  · intro other
    rw [Operand.look_of_other_name other]
    exact ⟨rfl, rfl⟩

/-- The first pass over the storage driver creates objects, and so it is approved. -/
theorem writes_only_if_approved_driver :
    ∃ r ∈ sent Server.answer
        (driverOperand.look ⟨{ operandNamespace := "spire" }, "2026-01-01T00:00:00Z"⟩ 0 {})
        driverServer,
      r.method = .post ∧ ∃ m, driverOperand.IsApproved Server.answer driverServer m := by
  have creates : (sent Server.answer
      (driverOperand.look ⟨{ operandNamespace := "spire" }, "2026-01-01T00:00:00Z"⟩ 0 {})
      driverServer).any (fun r => r.method = .post) = true := by decide +kernel
  obtain ⟨r, hr, posts⟩ := List.any_eq_true.1 creates
  have posts : r.method = .post := of_decide_eq_true posts
  obtain ⟨m, -, approved, -, -⟩ :=
    (writes_only_if_approved .driver Server.answer driverServer _ _ _ _).1 r hr (.inl posts)
  exact ⟨r, hr, posts, m, approved⟩

end WorkloadIdentity

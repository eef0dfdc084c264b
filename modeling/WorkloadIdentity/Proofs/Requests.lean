import WorkloadIdentity.Operator.Resource

namespace WorkloadIdentity

variable {α β ε : Type} {rule : Request → Prop}

/-- All requests of an exchange obey a rule, whatever the replies. -/
structure Exchange.Obeys (rule : Request → Prop) (x : Exchange α) : Prop where
  requests : x.AllRequests rule

/-- All requests of a part of a pass obey a rule, whatever was noted before. -/
def Pass.Obeys (rule : Request → Prop) (x : Pass α) : Prop :=
  ∀ journal : Journal, Exchange.Obeys rule (x.run journal)

namespace Exchange

theorem obeys_pure (a : α) : Obeys rule (pure a) := ⟨trivial⟩

theorem Obeys.bind {x : Exchange α} {f : α → Exchange β} (first : Obeys rule x)
    (second : ∀ a, Obeys rule (f a)) : Obeys rule (x >>= f) :=
  ⟨allRequests_bind first.requests fun a => (second a).requests⟩

/-- What each request changes is in a relation, and so is what the whole exchange changes. -/
theorem run_preserves {σ : Type} {server : Request → σ → Reply × σ} {R : σ → σ → Prop}
    (refl : ∀ s, R s s) (trans : ∀ {s t u}, R s t → R t u → R s u)
    (step : ∀ r s, rule r → R s (server r s).2) {x : Exchange α} (h : Obeys rule x) (s : σ) :
    R s (run server x s).2 := by
  obtain ⟨h⟩ := h
  induction x generalizing s with
  | done a => exact refl s
  | ask request next ih => exact trans (step request s h.1) (ih _ _ (h.2 _))

theorem obeys_pure_run (a : α) : Obeys rule (pure a : ExceptT ε Exchange α).run := ⟨trivial⟩

theorem obeys_mk_run (result : Except ε α) :
    Obeys rule (.mk (pure result) : ExceptT ε Exchange α).run := ⟨trivial⟩

theorem Obeys.bind_run {x : ExceptT ε Exchange α} {f : α → ExceptT ε Exchange β}
    (first : Obeys rule x.run) (second : ∀ a, Obeys rule (f a).run) : Obeys rule (x >>= f).run := by
  rw [ExceptT.run_bind]
  refine first.bind fun result => ?_
  cases result with
  | ok a => exact second a
  | error fault => exact ⟨trivial⟩

theorem Obeys.attempt {call : Call α} (h : Obeys rule call.run) : Obeys rule call.attempt.run :=
  h.bind fun _ => ⟨trivial⟩

end Exchange

open Exchange

namespace Pass

theorem obeys_pure (a : α) : Pass.Obeys rule (pure a) := fun _ => ⟨trivial⟩

theorem obeys_throw (fault : Fault) : Pass.Obeys rule (throw fault : Pass α) := fun _ => ⟨trivial⟩

theorem obeys_bind {x : Pass α} {f : α → Pass β} (first : Pass.Obeys rule x)
    (second : ∀ a, Pass.Obeys rule (f a)) : Pass.Obeys rule (x >>= f) := by
  intro journal
  rw [ExceptT.run_bind]
  refine (first journal).bind fun (result, journal) => ?_
  cases result with
  | ok a => exact second a journal
  | error fault => exact ⟨trivial⟩

theorem obeys_of_attempt {x : Attempt α} (h : Exchange.Obeys rule x.run) : Pass.Obeys rule x.pass :=
  fun _ => h.bind fun _ => ⟨trivial⟩

theorem obeys_of_result (result : Except Fault α) :
    Pass.Obeys rule (Attempt.pass (.mk (pure result))) :=
  obeys_of_attempt (obeys_mk_run result)

end Pass

namespace Api

theorem obeys_send {method : Method} {target : String} {body : Option Json} {read : Json → Option α}
    (h : ∀ path, Address.path? target = some path → rule { method, path, body }) :
    Obeys rule (send method target body read).run := by
  unfold send
  cases found : Address.path? target with
  | none => exact ⟨trivial⟩
  | some path => exact ⟨h path found, fun _ => trivial⟩

variable (reads : ∀ path, rule { method := .get, path })

include reads

theorem obeys_get (c : Collection) (name : String) (read : Json → Option α) :
    Obeys rule (get c name read).run :=
  obeys_send fun path _ => reads path

theorem obeys_find? (c : Collection) (name : String) (read : Json → Option α) :
    Obeys rule (find? c name read).run := by
  refine (obeys_get reads c name read).bind fun result => ?_
  cases result with
  | ok a => exact ⟨trivial⟩
  | error fault => dsimp only; split <;> exact ⟨trivial⟩

end Api

theorem Step.obeys_runAll {scene : Scene} {steps : List Step}
    (h : ∀ w : Wanted, Obeys rule (apply w.collection w.object scene.settings.createOnly).run) :
    Pass.Obeys rule (Step.runAll scene steps) := by
  induction steps with
  | nil => exact Pass.obeys_pure ()
  | cons step rest ih =>
    have one : Pass.Obeys rule (step.run scene) := by
      unfold Step.run
      split
      · exact Pass.obeys_throw _
      · exact Pass.obeys_pure ()
      · rename_i w _
        exact fun _ => (h w).bind fun _ => ⟨trivial⟩
    exact Pass.obeys_bind one fun _ => ih

namespace Operand

variable {σ : Type} [OperandPass σ]

theorem obeys_manager (reads : ∀ path, rule { method := .get, path }) :
    Pass.Obeys rule manager := by
  have found := (Api.obeys_find? reads .managers singletonName Manager.read?).attempt
  refine Pass.obeys_bind (Pass.obeys_of_attempt found) fun m => ?_
  cases m with
  | none => exact Pass.obeys_throw _
  | some m => exact Pass.obeys_pure _

/-- A pass asks what its steps ask; otherwise it reads, and writes its own status. -/
theorem obeys_look (reads : ∀ path, rule { method := .get, path })
    (plans : ∀ (scene : Scene) (m : ManagerSpec) (o : Operand σ),
      Obeys rule (OperandPass.steps scene m o).run)
    {scene : Scene}
    (applies : ∀ w : Wanted, Obeys rule (apply w.collection w.object scene.settings.createOnly).run)
    (patches : ∀ conditions : List Condition,
      Obeys rule (patchConditions σ singletonName conditions).run)
    (elapsed : Nat) (ledger : Ledger) (o : Operand σ) :
    Obeys rule (o.look scene elapsed ledger) := by
  have drives : Pass.Obeys rule (drive scene o) := by
    have got : Obeys rule (workload σ scene.settings).run := (Api.obeys_get reads _ _ _).attempt
    refine Pass.obeys_bind (obeys_manager reads) fun spec => ?_
    refine Pass.obeys_bind (Pass.obeys_of_result _) fun _ => ?_
    refine Pass.obeys_bind (Pass.obeys_of_result _) fun _ => ?_
    refine Pass.obeys_bind (Pass.obeys_of_attempt (plans scene spec o)) fun steps => ?_
    refine Pass.obeys_bind (Step.obeys_runAll applies) fun _ => ?_
    exact Pass.obeys_bind (Pass.obeys_of_attempt got) fun _ => Pass.obeys_pure _
  unfold look
  dsimp only
  split
  · exact obeys_pure _
  · rename_i named
    have named : o.metadata.anyName = singletonName := Decidable.not_not.1 named
    refine (drives _).bind fun (outcome, journal) => ?_
    dsimp only
    split
    · rw [named]
      refine (patches _).bind fun patched => ?_
      split <;> exact obeys_pure _
    · rw [pure_bind]
      split <;> exact obeys_pure _

end Operand

namespace Manager

theorem obeys_collect (reads : ∀ path, rule { method := .get, path }) (kinds : List OperandKind) :
    Obeys rule (Health.collect operandConditions kinds).run := by
  induction kinds with
  | nil => exact obeys_pure_run _
  | cons kind rest ih =>
    have conditions (σ : Type) [OperandSpec σ] : Obeys rule (conditionsOf σ).run :=
      (Api.obeys_find? reads _ _ _).attempt.bind_run fun _ => obeys_pure_run _
    have one : Obeys rule (operandConditions kind).run := by
      cases kind
      · exact conditions ServerSpec
      · exact conditions AgentSpec
      · exact conditions DiscoverySpec
      · exact conditions DriverSpec
    exact one.bind_run fun _ => ih.bind_run fun _ => obeys_pure_run _

theorem obeys_look (reads : ∀ path, rule { method := .get, path })
    (patches : ∀ status : ManagerStatus, Obeys rule (patchStatus singletonName status).run)
    (scene : Scene) (elapsed : Nat) (ledger : Ledger) (m : Manager) :
    Obeys rule (m.look scene elapsed ledger) := by
  unfold look
  dsimp only
  split
  · exact obeys_pure _
  · rename_i named
    have named : m.metadata.anyName = singletonName := Decidable.not_not.1 named
    have collected : Obeys rule (collectStatus operandConditions scene m).run :=
      (obeys_collect reads _).bind_run fun _ => obeys_pure_run _
    have syncs : Obeys rule (sync scene m).run := by
      refine collected.bind_run fun status => ?_
      split
      · rw [named]; exact patches status
      · exact obeys_pure_run _
    refine syncs.bind fun result => ?_
    cases result <;> exact obeys_pure _

end Manager

end WorkloadIdentity

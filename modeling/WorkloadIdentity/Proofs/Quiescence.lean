import WorkloadIdentity.Proofs.Driving

namespace WorkloadIdentity

open Exchange

/-- The resource as it is stored. -/
def Operand.stored? (σ : Type) [OperandSpec σ] (s : Server) : Option (Operand σ) :=
  (s.objects.get? (path σ)).bind Operand.read?

/-- What a pass at `s` has done that ends at `t`, if all it has written are conditions: all other
objects are as they were, and every request but the one for the conditions reads, or asks for a
creation in vain. -/
structure Server.OnlyConditions (σ : Type) [OperandSpec σ] (s t : Server) : Prop where
  objects : ∀ path ≠ Operand.path σ, t.objects.get? path = s.objects.get? path
  log : ∃ asked, Wanted.Harmless asked ∧ (t.log = asked ++ s.log ∨
    ∃ conditions, t.log = Operand.statusRequest σ conditions :: (asked ++ s.log))

namespace Operand

variable {σ : Type} [OperandPass σ] {o o' : Operand σ} {settings : Settings} {s t : Server}
  {outcome : Except Fault Readiness} {notes : List Note} {v : Json}

/-- The recorder at the end of a pass. -/
def recorderAt (scene : Scene) (ledger : Ledger) (s : Server) (o : Operand σ) : Recorder :=
  let start : Journal :=
    { recorder := .start o.conditions o.metadata.generation, metrics := ledger.metrics }
  let ended := (run Server.answer ((drive scene o).run start) s).1
  ended.2.recorder.conclude scene.now ended.1 scene.settings.createOnly

theorem recorderAt_eq
    (told : Pass.Tells Server.answer (fun now => drive ⟨settings, now⟩ o) s outcome notes t)
    (now : String) (ledger : Ledger) : o.recorderAt ⟨settings, now⟩ ledger s =
      o.recorded now (notes ++ Recorder.closing outcome settings.createOnly) := by
  obtain ⟨metrics, ran⟩ := told now
    { recorder := .start o.conditions o.metadata.generation, metrics := ledger.metrics }
  unfold recorderAt recorded
  dsimp only
  rw [ran, Recorder.conclude_eq_write, Recorder.write_append]

/-- What has been recorded can be read again, and is what has been there unless it has changed. -/
theorem recorderAt_spec (read : Operand.read? v = some o)
    (told : Pass.Tells Server.answer (fun now => drive ⟨settings, now⟩ o) s outcome notes t)
    (now : String) (ledger : Ledger) :
    (∀ c ∈ (o.recorderAt ⟨settings, now⟩ ledger s).conditions, c.IsWritable) ∧
    ((o.recorderAt ⟨settings, now⟩ ledger s).changed = false →
      (o.recorderAt ⟨settings, now⟩ ledger s).conditions = o.conditions) := by
  rw [recorderAt_eq told, recorded]
  obtain ⟨members, inner, -, -, readMeta, -, -⟩ := exists_of_read? read
  refine ⟨Recorder.isWritable_write ?_ (isWritable_conditions read) now _, fun unchanged => ?_⟩
  · exact Meta.generation_fits readMeta
  · rw [Recorder.eq_of_not_changed unchanged]
    rfl

/-- A pass ends with a patch of the conditions if they have changed. -/
theorem snd_run_look (named : o.metadata.anyName = singletonName)
    (told : Pass.Tells Server.answer (fun now => drive ⟨settings, now⟩ o) s outcome notes t)
    (now : String) (elapsed : Nat) (ledger : Ledger) :
    (run Server.answer (o.look ⟨settings, now⟩ elapsed ledger) s).2 =
      if (o.recorderAt ⟨settings, now⟩ ledger s).changed then
        (run Server.answer (patchConditions σ singletonName
          (o.recorderAt ⟨settings, now⟩ ledger s).conditions).run t).2
      else t := by
  obtain ⟨ledger', ran⟩ := run_look named told now elapsed ledger
  rw [recorderAt_eq told, ran]
  exact apply_ite Prod.snd _ _ _

/-- Apart from what it applies, a pass writes only conditions, which the resource has then. -/
theorem look_continues (named : o.metadata.anyName = singletonName)
    (told : Pass.Tells Server.answer (fun now => drive ⟨settings, now⟩ o) s outcome notes t)
    (untroubled : t.troubles = []) (stored : stored? σ t = some o) (now : String) (elapsed : Nat)
    (ledger : Ledger) : ∃ (u : Server) (o' : Operand σ),
      (run Server.answer (o.look ⟨settings, now⟩ elapsed ledger) s).2 = u ∧
      t.Shows (· ≠ path σ) u ∧ stored? σ u = some o' ∧ o.Continues o' ∧
      o'.conditions = (o.recorderAt ⟨settings, now⟩ ledger s).conditions ∧
      (u.log = t.log ∨ ∃ conditions, u.log = statusRequest σ conditions :: t.log) := by
  obtain ⟨v, there, read⟩ := Option.bind_eq_some_iff.1 stored
  obtain ⟨writable, kept⟩ := recorderAt_spec read told now ledger
  rw [snd_run_look named told]
  generalize o.recorderAt ⟨settings, now⟩ ledger s = r at writable kept ⊢
  cases changed : r.changed with
  | false =>
    exact ⟨t, o, rfl, Server.shows_self untroubled, stored, ⟨rfl, rfl, rfl, rfl, rfl⟩,
      (kept changed).symm, .inl rfl⟩
  | true =>
    obtain ⟨v', o', read', continues, same, patched⟩ :=
      run_patchConditions untroubled there read writable
    refine ⟨_, o', congrArg Prod.snd patched, ⟨untroubled, fun place ne => ?_⟩, ?_, continues,
      same, .inr ⟨_, rfl⟩⟩
    · exact (StringMap.get?_insert ..).trans (if_neg ne)
    · unfold stored?
      rw [StringMap.get?_insert, if_pos rfl]
      exact read'

section
variable (named : o.metadata.anyName = singletonName) (untroubled : s.troubles = [])
  (rests : Pass.Rests (fun now => drive ⟨settings, now⟩ o) s (· ≠ path σ) outcome notes)

include named untroubled rests

/-- A pass that only asks writes no more than conditions. -/
theorem onlyConditions_of_rests (stored : stored? σ s = some o) (now : String) (elapsed : Nat)
    (ledger : Ledger) : ∃ (u : Server) (o' : Operand σ),
      (run Server.answer (o.look ⟨settings, now⟩ elapsed ledger) s).2 = u ∧
      s.OnlyConditions σ u ∧ u.troubles = [] ∧ stored? σ u = some o' ∧ o.Continues o' ∧
      o'.conditions = (o.recorderAt ⟨settings, now⟩ ledger s).conditions := by
  obtain ⟨asked, harmless, told⟩ := rests
  obtain ⟨u, o', ran, shown, stored', continues, same, log⟩ := look_continues named
    (told s (Server.shows_self untroubled)) untroubled stored now elapsed ledger
  exact ⟨u, o', ran, ⟨shown.objects, asked, harmless, log⟩, shown.untroubled, stored', continues,
    same⟩

/-- A pass that only asks and has nothing new to say does nothing else. -/
theorem asking_of_rests {now : String} {ledger : Ledger}
    (unchanged : (o.recorderAt ⟨settings, now⟩ ledger s).changed = false) (elapsed : Nat) :
    ∃ asked, Wanted.Harmless asked ∧
      (run Server.answer (o.look ⟨settings, now⟩ elapsed ledger) s).2 = s.asking asked := by
  obtain ⟨asked, harmless, told⟩ := rests
  refine ⟨asked, harmless, ?_⟩
  rw [snd_run_look named (told s (Server.shows_self untroubled)), unchanged]
  rfl

end

/-- A pass over a resource that goes on only asks as well. -/
theorem rests_continues (settles : OperandPass.Settles σ) (continues : o.Continues o')
    (rests : Pass.Rests (fun now => drive ⟨settings, now⟩ o) s (· ≠ path σ) outcome notes)
    (same : ∀ place ≠ path σ, t.objects.get? place = s.objects.get? place) :
    Pass.Rests (fun now => drive ⟨settings, now⟩ o') t (· ≠ path σ) outcome notes := by
  simp only [drive_continues settles continues]
  refine rests.of_shows fun u shown => ⟨shown.untroubled, fun place ne => ?_⟩
  exact (shown.objects place ne).trans (same place ne)

/-- Behind a pass that succeeds, a pass over the resource as it is then only asks. -/
theorem rests_of_succeeded {now : String} {elapsed : Nat} {ledger : Ledger}
    {revisit : Revisit} (settles : OperandPass.Settles σ) (untroubled : s.troubles = [])
    (stored : stored? σ s = some o) (named : o.metadata.anyName = singletonName)
    (comparable : (OperandSpec.placement o.spec).IsComparable)
    (succeeded : (run Server.answer (o.look ⟨settings, now⟩ elapsed ledger) s).1.1 = .ok revisit)
    (ran : (run Server.answer (o.look ⟨settings, now⟩ elapsed ledger) s).2 = t) :
    t.troubles = [] ∧ ∃ o', stored? σ t = some o' ∧ o.Continues o' ∧ ∃ outcome notes,
      Pass.Rests (fun now => drive ⟨settings, now⟩ o') t (· ≠ path σ) outcome notes ∧
      (notes.map (·.type) ++ [Condition.ready, Condition.createOnlyMode]).Nodup := by
  obtain ⟨v, there, read⟩ := Option.bind_eq_some_iff.1 stored
  obtain ⟨members, inner, -, -, -, readSpec, -⟩ := exists_of_read? read
  obtain ⟨w, -, readSpec⟩ := Option.bind_eq_some_iff.1 readSpec
  obtain ⟨outcome, notes, u, told, settled⟩ := settles_drive settings settles
    untroubled (settles.proper w o.spec readSpec) comparable
  obtain ⟨readiness, rfl⟩ : ∃ readiness, outcome = .ok readiness := by
    obtain ⟨ledger', looked⟩ := run_look named told now elapsed ledger
    rw [looked] at succeeded
    cases outcome with
    | error fault => cases succeeded
    | ok readiness => exact ⟨readiness, rfl⟩
  obtain ⟨quiet, kept, outcome', notes', rests, once⟩ := settled readiness rfl
  have storedThere : stored? σ u = some o := by
    rw [stored?, kept]
    exact stored
  obtain ⟨t', o', ran', shown, stored', continues, -, -⟩ :=
    look_continues named told quiet storedThere now elapsed ledger
  obtain rfl : t = t' := ran.symm.trans ran'
  exact ⟨shown.untroubled, o', stored', continues, outcome', notes',
    rests_continues settles continues rests shown.objects, once⟩

/-- **A pass that tells the same again does not change the conditions.** -/
theorem recorderAt_again {s' t' : Server}
    (told : Pass.Tells Server.answer (fun now => drive ⟨settings, now⟩ o) s outcome notes t)
    (told' : Pass.Tells Server.answer (fun now => drive ⟨settings, now⟩ o') s' outcome notes t')
    (once : (notes.map (·.type) ++ [Condition.ready, Condition.createOnlyMode]).Nodup)
    (continues : o.Continues o') (now later : String) (ledger ledger' : Ledger)
    (same : o'.conditions = (o.recorderAt ⟨settings, now⟩ ledger s).conditions) :
    o'.recorderAt ⟨settings, later⟩ ledger' s' =
      .start o'.conditions o'.metadata.generation := by
  rw [recorderAt_eq told] at same
  rw [recorderAt_eq told', recorded, same, continues.metadata.generation]
  refine Recorder.write_again ?_ later
  rw [List.map_append, Recorder.types_closing]
  exact once

end Operand

namespace OperandKind

/-- The specification of the operands of a kind. -/
def Spec : OperandKind → Type
  | server => ServerSpec
  | agent => AgentSpec
  | discovery => DiscoverySpec
  | driver => DriverSpec

instance : (kind : OperandKind) → OperandPass kind.Spec
  | server => inferInstanceAs (OperandPass ServerSpec)
  | agent => inferInstanceAs (OperandPass AgentSpec)
  | discovery => inferInstanceAs (OperandPass DiscoverySpec)
  | driver => inferInstanceAs (OperandPass DriverSpec)

theorem settles (kind : OperandKind) : OperandPass.Settles kind.Spec := by
  cases kind with
  | server => exact ServerSpec.settles
  | agent => exact AgentSpec.settles
  | discovery => exact DiscoverySpec.settles
  | driver => exact DriverSpec.settles

end OperandKind

/-- **Passes come to rest.** If a pass over the resource of an operand succeeds at a server that
nothing disturbs, the next pass, over the resource as it is then, writes no more than conditions,
and the pass after that one does not write at all, at whatever times they are. -/
theorem passes_quiesce (kind : OperandKind) {settings : Settings} {s s₁ : Server}
    {o : Operand kind.Spec} {now : String} {elapsed : Nat} {ledger : Ledger} {revisit : Revisit}
    (untroubled : s.troubles = [])
    (stored : Operand.stored? kind.Spec s = some o)
    (named : o.metadata.anyName = singletonName)
    (comparable : (OperandSpec.placement o.spec).IsComparable)
    (succeeded : (run Server.answer (o.look ⟨settings, now⟩ elapsed ledger) s).1.1 = .ok revisit)
    (ran : (run Server.answer (o.look ⟨settings, now⟩ elapsed ledger) s).2 = s₁) :
    ∃ o₁ : Operand kind.Spec, Operand.stored? kind.Spec s₁ = some o₁ ∧
      ∀ now₁ elapsed₁ ledger₁, ∃ (s₂ : Server) (o₂ : Operand kind.Spec),
        (run Server.answer (o₁.look ⟨settings, now₁⟩ elapsed₁ ledger₁) s₁).2 = s₂ ∧
        s₁.OnlyConditions kind.Spec s₂ ∧ Operand.stored? kind.Spec s₂ = some o₂ ∧
        ∀ now₂ elapsed₂ ledger₂,
          (o₂.recorderAt ⟨settings, now₂⟩ ledger₂ s₂).changed = false ∧
          (o₂.recorderAt ⟨settings, now₂⟩ ledger₂ s₂).conditions = o₂.conditions ∧
          ∃ asked, Wanted.Harmless asked ∧
            (run Server.answer (o₂.look ⟨settings, now₂⟩ elapsed₂ ledger₂) s₂).2 =
              s₂.asking asked := by
  obtain ⟨quiet, o₁, stored, continues, outcome, notes, rests, once⟩ :=
    Operand.rests_of_succeeded kind.settles untroubled stored named comparable succeeded ran
  have named : o₁.metadata.anyName = singletonName := continues.metadata.anyName.trans named
  refine ⟨o₁, stored, fun now₁ elapsed₁ ledger₁ => ?_⟩
  obtain ⟨s₂, o₂, ran, onlyConditions, quiet₂, stored₂, continues, same⟩ :=
    Operand.onlyConditions_of_rests named quiet rests stored now₁ elapsed₁ ledger₁
  have rests₂ := Operand.rests_continues kind.settles continues rests onlyConditions.objects
  refine ⟨s₂, o₂, ran, onlyConditions, stored₂, fun now₂ elapsed₂ ledger₂ => ?_⟩
  obtain ⟨asked, -, told⟩ := id rests
  obtain ⟨asked₂, -, told₂⟩ := id rests₂
  have again : o₂.recorderAt ⟨settings, now₂⟩ ledger₂ s₂ =
      .start o₂.conditions o₂.metadata.generation :=
    Operand.recorderAt_again (told _ (Server.shows_self quiet)) (told₂ _ (Server.shows_self quiet₂))
      once continues now₁ now₂ ledger₁ ledger₂ same
  refine ⟨congrArg Recorder.changed again, congrArg Recorder.conditions again, ?_⟩
  exact Operand.asking_of_rests (continues.metadata.anyName.trans named) quiet₂ rests₂
    (congrArg Recorder.changed again) elapsed₂

/-- A server with the manager and with the resource of the storage driver. -/
def driverServer : Server where
  objects := .ofList [
    (CustomKind.path .manager, .obj [("metadata", .obj [("name", .str singletonName)]),
      ("spec", (ManagerSpec.mk "example.org" "cluster" "spire-bundle").toJson)]),
    (CustomKind.path (.operand .driver), .obj [
      ("metadata", .obj [("name", .str singletonName), ("uid", .str "42")]), ("spec", .obj [])])]

/-- The resource of the storage driver, as it is read. -/
def driverOperand : Operand OperandKind.driver.Spec :=
  { metadata := { name := some singletonName, uid := some "42" }, spec := ({} : DriverSpec) }

/-- The first pass over it, which creates its objects. -/
def driverPass : (Except Fault Revisit × Ledger) × Server :=
  run Server.answer (driverOperand.look ⟨{ operandNamespace := "spire" }, "2026-01-01T00:00:00Z"⟩
    0 {}) driverServer

theorem passes_quiesce_driver :
    driverPass.1.1.toBool = true ∧ ∃ o₁ : Operand OperandKind.driver.Spec,
      Operand.stored? OperandKind.driver.Spec driverPass.2 = some o₁ ∧
      ∀ now₁ elapsed₁ ledger₁, driverPass.2.OnlyConditions OperandKind.driver.Spec
        (run Server.answer (o₁.look ⟨{ operandNamespace := "spire" }, now₁⟩ elapsed₁ ledger₁)
          driverPass.2).2 := by
  have ended : driverPass.1.1.toBool = true := by decide +kernel
  obtain ⟨revisit, succeeded⟩ : ∃ revisit, driverPass.1.1 = .ok revisit := by
    cases result : driverPass.1.1 with
    | ok revisit => exact ⟨revisit, rfl⟩
    | error fault =>
      rw [result] at ended
      cases ended
  have stored : Operand.stored? OperandKind.driver.Spec driverServer = some driverOperand := rfl
  unfold driverPass at succeeded ended ⊢
  obtain ⟨o₁, stored₁, next⟩ := passes_quiesce .driver rfl stored rfl rfl succeeded rfl
  refine ⟨ended, o₁, stored₁, fun now₁ elapsed₁ ledger₁ => ?_⟩
  obtain ⟨s₂, o₂, rfl, onlyConditions, -⟩ := next now₁ elapsed₁ ledger₁
  exact onlyConditions

end WorkloadIdentity

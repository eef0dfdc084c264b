import WorkloadIdentity.Proofs.Approval
import WorkloadIdentity.Proofs.Requests

/-! A recorder does not compare the conditions at the end of a pass with those at its start: it
remembers whether one of the notes said something new. As each note of a pass is on a condition of
its own, this comes to the same. -/

namespace WorkloadIdentity

open Exchange

variable {τ : Type} {server : Request → τ → Reply × τ}

/-- A request that leaves the object at a path alone, and the status of every resource: it reads, or
creates or replaces an object elsewhere. -/
inductive Request.IsAside (path : String) : Request → Prop
  | reads (place : String) : IsAside path { method := .get, path := place }
  | creates (place : String) (object : Json) (away : place ++ "/" ++ Server.nameOf object ≠ path) :
      IsAside path { method := .post, path := place, body := some object }
  | replaces (place : String) (object : Json) (away : place ≠ path) :
      IsAside path { method := .put, path := place, body := some object }

namespace Request.IsAside

variable {path : String} {r : Request}

theorem not_patch (h : r.IsAside path) : r.method ≠ .patch := by
  cases h <;> exact nofun

/-- A request aside keeps the object, whether it is disturbed or not. -/
theorem get?_answer (h : r.IsAside path) (s : Server) :
    (Server.answer r s).2.objects.get? path = s.objects.get? path := by
  unfold Server.answer
  dsimp only
  split
  · rfl
  · have stored {place : String} (ne : place ≠ path) (code : Nat) (object : Json) (t : Server) :
        (t.store place code object).2.objects.get? path = t.objects.get? path :=
      (StringMap.get?_insert ..).trans (if_neg ne.symm)
    cases h with
    | reads place =>
      dsimp only [Server.handle]
      split
      · rfl
      · split <;> rfl
    | creates place object away =>
      dsimp only [Server.handle]
      split
      · rfl
      · exact stored away 201 object _
    | replaces place object away =>
      dsimp only [Server.handle]
      split
      · exact stored away 200 _ _
      · rfl

end Request.IsAside

namespace Exchange

variable {α : Type} {rule : Request → Prop} {x : Exchange α}

/-- All requests that are sent obey the rule of the exchange. -/
theorem Obeys.forall_sent (h : Obeys rule x) (s : τ) : ∀ r ∈ sent server x s, rule r := by
  obtain ⟨h⟩ := h
  induction x generalizing s with
  | done a => exact List.forall_mem_nil _
  | ask request next ih => exact List.forall_mem_cons.2 ⟨h.1, ih _ _ (h.2 _)⟩

/-- What every request that is sent preserves is preserved. -/
theorem run_preserves_of_sent {R : τ → τ → Prop} (refl : ∀ s, R s s)
    (trans : ∀ {s t u}, R s t → R t u → R s u) (step : ∀ r s, rule r → R s (server r s).2) (s : τ)
    (h : ∀ r ∈ sent server x s, rule r) : R s (run server x s).2 := by
  induction x generalizing s with
  | done a => exact refl s
  | ask request next ih =>
    obtain ⟨here, later⟩ := List.forall_mem_cons.1 h
    exact trans (step request s here) (ih _ _ later)

end Exchange

/-- Applying an object that lives elsewhere leaves the object at a path alone. -/
theorem Wanted.obeys_attempt {w : Wanted} {path : String}
    (away : w.address? ≠ some path ∧ w.birth? ≠ some path) (createOnly : Bool) :
    Obeys (Request.IsAside path) (w.attempt createOnly).run := by
  unfold attempt
  cases named : (Managed.metadata w.object).name with
  | none =>
    unfold WorkloadIdentity.apply
    rw [named]
    exact ⟨trivial⟩
  | some name =>
    rw [apply_of_name named]
    cases found : Address.path? (Api.targetOf w.collection name) with
    | none =>
      unfold Api.find? Api.get Api.send
      rw [found]
      exact ⟨trivial⟩
    | some place =>
      refine (Api.obeys_find? .reads _ _ _).attempt.bind_run fun live => ?_
      have creates (read : Json → Option w.kind.Object) : Obeys (Request.IsAside path)
          (Api.create w.collection (Managed.toJson w.object) read).run := by
        refine Api.obeys_send fun place posted => .creates place _ fun e => away.2 ?_
        rw [birth?_eq_some named posted, ← e, nameOf_toJson named]
      have replaces (object : Json) (read : Json → Option w.kind.Object) :
          Obeys (Request.IsAside path) (Api.replace w.collection name object read).run := by
        refine Api.obeys_send fun other put => .replaces other _ ?_
        rintro rfl
        refine away.1 (address?_eq_some_iff.2 ⟨name, named, ?_⟩)
        rw [found, ← put, Address.path?_mark found]
      cases live with
      | none => exact (creates _).attempt.bind_run fun _ => obeys_pure_run _
      | some live =>
        rcases plan_some_cases live w.object createOnly with
          ⟨-, planned | planned⟩ | ⟨-, -, planned⟩
        · rw [planned]
          exact obeys_pure_run _
        · rw [planned]
          exact obeys_pure_run _
        · rw [planned]
          exact (replaces _ _).attempt.bind_run fun _ => obeys_pure_run _

section
variable {scene : Scene} {manager : ManagerSpec} {steps : List Step} {s t : τ}

/-- Steps that are made from a site without asking are those at a site of the operand. -/
theorem OperandPass.exists_site {σ : Type} [OperandPass σ] {stepsAt : Site σ → List Step}
    (made : ∀ scene manager (o : Operand σ), OperandPass.steps scene manager o =
      .mk (pure ((Site.ofOperand o manager scene.settings).map stepsAt)))
    {o : Operand σ} (planned : run server (OperandPass.steps scene manager o).run s =
      (.ok steps, t)) :
    ∃ site, Site.ofOperand o manager scene.settings = .ok site ∧ steps = stepsAt site := by
  rw [made] at planned
  have planned : (Site.ofOperand o manager scene.settings).map stepsAt = .ok steps :=
    congrArg Prod.fst planned
  cases placed : Site.ofOperand o manager scene.settings with
  | error fault =>
    rw [placed] at planned
    cases planned
  | ok site =>
    rw [placed] at planned
    cases planned
    exact ⟨site, rfl, rfl⟩

theorem DiscoverySpec.exists_site {o : Operand DiscoverySpec}
    (planned : run server (OperandPass.steps scene manager o).run s = (.ok steps, t)) :
    ∃ site plugin config, Site.ofOperand o manager scene.settings = .ok site ∧
      steps = stepsAt site plugin config := by
  cases asked : run server (Call.attempt (Api.find? (.operands .driver) singletonName
      (Operand.read? : Json → Option (Operand DriverSpec)))).run s with
  | mk result u =>
    cases result with
    | error fault => cases (Attempt.run_bind_of_error asked).symm.trans planned
    | ok driver =>
      have planned := congrArg Prod.fst ((Attempt.run_bind_of_ok asked).symm.trans planned)
      obtain ⟨site, placed, planned⟩ := exists_of_bind_ok planned
      obtain ⟨config, -, planned⟩ := exists_of_bind_ok planned
      cases planned
      exact ⟨site, pluginName driver, config, placed, rfl⟩

/-- The objects of an operand are of known groups. -/
theorem OperandKind.isKnown_of_planned (kind : OperandKind) {o : Operand kind.Spec}
    (planned : run server (OperandPass.steps scene manager o).run s = (.ok steps, t)) :
    ∀ w ∈ Step.wanteds steps, w.collection.isKnown = true := by
  cases kind with
  | server =>
    obtain ⟨site, -, rfl⟩ := OperandPass.exists_site (fun _ _ _ => rfl) planned
    exact List.all_eq_true.1 rfl
  | agent =>
    obtain ⟨site, -, rfl⟩ := OperandPass.exists_site (fun _ _ _ => rfl) planned
    exact List.all_eq_true.1 rfl
  | driver =>
    obtain ⟨site, -, rfl⟩ := OperandPass.exists_site (fun _ _ _ => rfl) planned
    exact List.all_eq_true.1 rfl
  | discovery =>
    obtain ⟨site, plugin, config, -, rfl⟩ := DiscoverySpec.exists_site planned
    obtain ⟨identities, routes, list, identity, route⟩ :=
      DiscoverySpec.wanteds_stepsAt site plugin config
    rw [list]
    apply List.all_eq_true.1
    rcases identity with rfl | ⟨o, -, rfl⟩ <;> rcases route with rfl | ⟨r, -, rfl⟩ <;> rfl

/-- A plan only reads. -/
theorem OperandKind.obeys_steps (kind : OperandKind) {rule : Request → Prop}
    (reads : ∀ path, rule { method := .get, path }) (scene : Scene) (manager : ManagerSpec)
    (o : Operand kind.Spec) : Obeys rule (OperandPass.steps scene manager o).run := by
  cases kind with
  | discovery => exact (Api.obeys_find? reads _ _ _).attempt.bind_run fun _ => obeys_mk_run _
  | _ => exact obeys_mk_run _

end

theorem Step.wanteds_append (first second : List Step) :
    wanteds (first ++ second) = wanteds first ++ wanteds second :=
  List.filterMap_append ..

section
variable {path : String} {s t : τ} {steps : List Step} {createOnly : Bool}
  {applied : List Applied} {asked : List Request}

/-- Taking steps leaves the object at a path alone if their objects live elsewhere. -/
theorem Step.Completed.isAside (h : Step.Completed server createOnly steps s applied asked t)
    (away : ∀ w ∈ Step.wanteds steps, w.address? ≠ some path ∧ w.birth? ≠ some path) :
    ∀ r ∈ asked, r.IsAside path := by
  induction h with
  | nil s => exact List.forall_mem_nil _
  | cons made ran later ih =>
    rw [Step.wanteds_cons_of_some made] at away
    obtain ⟨here, away⟩ := List.forall_mem_cons.1 away
    exact List.forall_mem_append.2 ⟨(Wanted.obeys_attempt here createOnly).forall_sent _, ih away⟩

/-- A pass leaves the object at a path alone if its plan and the objects of its steps do. -/
theorem Operand.Takes.isAside {σ : Type} [OperandPass σ] {settings : Settings}
    {plan : Attempt (List Step)} {course : Course}
    (h : Operand.Takes σ server settings plan s course t)
    (plans : Obeys (Request.IsAside path) plan.run)
    (away : ∀ steps u, run server plan.run s = (.ok steps, u) →
      ∀ w ∈ Step.wanteds steps, w.address? ≠ some path ∧ w.birth? ≠ some path) :
    ∀ r ∈ course.asked, r.IsAside path := by
  have planning : ∀ r ∈ sent server plan.run s, r.IsAside path := plans.forall_sent s
  cases h with
  | unplanned planned => exact planning
  | unmade planned taken flawed =>
    refine List.forall_mem_append.2 ⟨planning, taken.isAside fun w hw => ?_⟩
    refine away _ _ planned w ?_
    rw [Step.wanteds_append]
    exact List.mem_append_left _ hw
  | @refused first after step w applied asked fault u v _ planned taken made failed =>
    have away := away _ _ planned
    rw [Step.wanteds_append, Step.wanteds_cons_of_some made] at away
    obtain ⟨before, here⟩ := List.forall_mem_append.1 away
    have here := (List.forall_mem_cons.1 here).1
    exact List.forall_mem_append.2 ⟨planning, List.forall_mem_append.2
      ⟨taken.isAside before, (Wanted.obeys_attempt here _).forall_sent _⟩⟩
  | observed planned none taken looked =>
    have away := away _ _ planned
    rw [Step.wanteds_append] at away
    have looks : Obeys (Request.IsAside path) (Operand.workload σ settings).run :=
      (Api.obeys_get .reads _ _ _).attempt
    exact List.forall_mem_append.2 ⟨planning, List.forall_mem_append.2
      ⟨taken.isAside (List.forall_mem_append.1 away).1, looks.forall_sent _⟩⟩

end

theorem Recorder.once_closing (outcome : Except Fault Readiness) (createOnly : Bool) :
    ((closing outcome createOnly).map (·.type)).Nodup := by
  rw [types_closing]
  decide

namespace Operand

section
variable {kind : OperandKind} {settings : Settings} {now : String} {o : Operand kind.Spec} {s : τ}

variable (server settings now o s) in
/-- A pass is refused, or takes a course. -/
theorem refused_or_takes :
    (∃ fault t, Pass.Goes server (fun now => drive ⟨settings, now⟩ o) s (.error fault) []
      (sent server (approve o).run s) t) ∨
    ∃ spec s₀ course t, run server (approve o).run s = (.ok spec, s₀) ∧
      Takes kind.Spec server settings (OperandPass.steps ⟨settings, now⟩ spec o) s₀ course t ∧
      Pass.Goes server (fun now => drive ⟨settings, now⟩ o) s course.outcome course.notes
        (sent server (approve o).run s ++ course.asked) t := by
  cases ran : run server (approve o).run s with
  | mk result s₀ =>
    cases result with
    | error fault =>
      refine .inl ⟨fault, s₀, ?_⟩
      simp only [drive_eq_approve]
      exact (Pass.goes_attempt ran).bind_of_error
    | ok spec =>
      obtain ⟨course, t, takes⟩ := exists_takes kind.Spec settings
        (kind.follows server ⟨settings, now⟩ spec o) s₀
      exact .inr ⟨spec, s₀, course, t, rfl, takes, goes_drive ran takes⟩

variable (server settings o s) in
/-- Before it writes the status of its resource, a pass leaves the resource alone, and whatever
becomes of it, each of its notes is on a condition of its own. -/
theorem exists_goes : ∃ outcome notes asked t,
    Pass.Goes server (fun now => drive ⟨settings, now⟩ o) s outcome notes asked t ∧
    ((notes ++ Recorder.closing outcome settings.createOnly).map (·.type)).Nodup ∧
    ∀ r ∈ asked, r.IsAside (path kind.Spec) := by
  have approves : ∀ r ∈ sent server (approve o).run s, r.IsAside (path kind.Spec) := by
    rw [sent_approve]
    exact List.forall_mem_singleton.2 (.reads _)
  rcases refused_or_takes server settings "" o s with
    ⟨fault, t, goes⟩ | ⟨spec, s₀, course, t, -, takes, goes⟩
  · exact ⟨_, _, _, t, goes, Recorder.once_closing (.error fault) settings.createOnly, approves⟩
  · obtain ⟨later, order⟩ := takes.reached_append (kind.follows server ⟨settings, ""⟩ spec o)
    refine ⟨_, _, _, t, goes, Course.once_notes order _ _, ?_⟩
    refine List.forall_mem_append.2 ⟨approves, takes.isAside ?_ fun steps u planned w hw => ?_⟩
    · exact kind.obeys_steps .reads _ spec o
    · exact Wanted.ne_customPath (kind.isKnown_of_planned planned w hw) (.operand _)

end

section
variable {σ : Type} [OperandPass σ] {o : Operand σ} {settings : Settings} {s t : τ}
  {outcome : Except Fault Readiness} {notes : List Note} {asked : List Request}

/-- The conditions that a pass at `s` ends with. -/
def ending (server : Request → τ → Reply × τ) (scene : Scene) (ledger : Ledger) (s : τ)
    (o : Operand σ) : List Condition :=
  let start : Journal :=
    { recorder := .start o.conditions o.metadata.generation, metrics := ledger.metrics }
  let ended := (run server ((drive scene o).run start) s).1
  (ended.2.recorder.conclude scene.now ended.1 scene.settings.createOnly).conditions

theorem ending_eq
    (told : Pass.Tells server (fun now => drive ⟨settings, now⟩ o) s outcome notes t)
    (now : String) (ledger : Ledger) : o.ending server ⟨settings, now⟩ ledger s =
      (o.recorded now (notes ++ Recorder.closing outcome settings.createOnly)).conditions := by
  obtain ⟨metrics, ran⟩ := told now
    { recorder := .start o.conditions o.metadata.generation, metrics := ledger.metrics }
  unfold ending recorded
  dsimp only
  rw [ran, Recorder.conclude_eq_write, Recorder.write_append]

/-- Requests aside leave the resource as it is stored. -/
theorem stored?_of_isAside {α : Type} {x : Exchange α} {s : Server} (stored : stored? σ s = some o)
    (aside : ∀ r ∈ sent Server.answer x s, r.IsAside (path σ)) :
    stored? σ (run Server.answer x s).2 = some o := by
  have kept : (run Server.answer x s).2.objects.get? (path σ) = s.objects.get? (path σ) :=
    run_preserves_of_sent
      (R := fun s t : Server => t.objects.get? (path σ) = s.objects.get? (path σ))
      (fun _ => rfl) (fun first second => second.trans first)
      (fun r s allowed => allowed.get?_answer s) s aside
  rw [stored?, kept]
  exact stored

/-- The request for the status comes last, if there is one. -/
theorem sent_look_eq (named : o.metadata.anyName = singletonName)
    (goes : Pass.Goes server (fun now => drive ⟨settings, now⟩ o) s outcome notes asked t)
    (once : ((notes ++ Recorder.closing outcome settings.createOnly).map (·.type)).Nodup)
    (now : String) (elapsed : Nat) (ledger : Ledger) :
    sent server (o.look ⟨settings, now⟩ elapsed ledger) s =
      asked ++ if o.ending server ⟨settings, now⟩ ledger s = o.conditions then []
        else [statusRequest σ (o.ending server ⟨settings, now⟩ ledger s)] := by
  rw [ending_eq goes.told]
  exact sent_look_of_once named goes once now elapsed ledger

/-- At the end of a pass, the `Ready` condition mentions the generation of the resource. -/
theorem exists_ready_ending
    (told : Pass.Tells server (fun now => drive ⟨settings, now⟩ o) s outcome notes t)
    (once : ((notes ++ Recorder.closing outcome settings.createOnly).map (·.type)).Nodup)
    (now : String) (ledger : Ledger) : ∃ c,
      Condition.find? Condition.ready (o.ending server ⟨settings, now⟩ ledger s) = some c ∧
      c.observedGeneration = o.metadata.generation := by
  have types : (Recorder.closing outcome settings.createOnly).map (·.type) =
      [Condition.ready, Condition.createOnlyMode] := Recorder.types_closing _ _
  obtain ⟨n, hn, type⟩ : ∃ n ∈ Recorder.closing outcome settings.createOnly,
      n.type = Condition.ready := by
    refine List.mem_map.1 ?_
    rw [types]
    exact List.mem_cons_self
  have said : Condition.Says
      (o.recorded now (notes ++ Recorder.closing outcome settings.createOnly)).conditions
      o.metadata.generation n := Recorder.says_write once (List.mem_append_right notes hn)
  obtain ⟨c, found, -, -, -, generation⟩ := said
  rw [ending_eq told]
  exact ⟨c, type ▸ found, generation⟩

end

/-- The only patch that a pass may send is that of the conditions that it ends with. -/
theorem patches_look {kind : OperandKind} {o : Operand kind.Spec}
    (named : o.metadata.anyName = singletonName) (scene : Scene) (elapsed : Nat) (ledger : Ledger)
    (s : τ) :
    (sent server (o.look scene elapsed ledger) s).filter (·.method = .patch) =
      if o.ending server scene ledger s = o.conditions then []
      else [statusRequest kind.Spec (o.ending server scene ledger s)] := by
  obtain ⟨outcome, notes, asked, t, goes, once, aside⟩ := exists_goes server scene.settings o s
  rw [sent_look_eq named goes once, List.filter_append,
    List.filter_eq_nil_iff.2 fun r hr => by simpa using (aside r hr).not_patch]
  split <;> rfl

end Operand

/-- **The status is patched exactly when it changes.** Whatever conditions a resource has, and
whatever becomes of the pass: among the requests of the pass there is a patch if and only if the
pass ends with other conditions than the resource has, times included, and the patch carries the
conditions that it ends with. So nothing is lost: behind a pass without a patch, the resource that
is stored has the conditions that the pass ends with. A pass patches the status whenever the
generation of the resource is another one than that of the pass that has written its conditions. -/
theorem status_patched_exactly_when_changed (kind : OperandKind) (server : Request → τ → Reply × τ)
    (scene : Scene) (elapsed : Nat) (ledger : Ledger) {o : Operand kind.Spec}
    (named : o.metadata.anyName = singletonName) :
    (∀ s : τ, (sent server (o.look scene elapsed ledger) s).filter (·.method = .patch) =
      if o.ending server scene ledger s = o.conditions then []
      else [Operand.statusRequest kind.Spec (o.ending server scene ledger s)]) ∧
    (∀ s : Server, Operand.stored? kind.Spec s = some o →
      (∀ r ∈ sent Server.answer (o.look scene elapsed ledger) s, r.method ≠ .patch) →
        Operand.stored? kind.Spec (run Server.answer (o.look scene elapsed ledger) s).2 = some o ∧
        o.conditions = o.ending Server.answer scene ledger s) ∧
    ∀ (earlier : Operand kind.Spec) (before : Scene) (past : Ledger) (s₀ s : τ),
      o.conditions = earlier.ending server before past s₀ →
      earlier.metadata.generation ≠ o.metadata.generation →
        Operand.statusRequest kind.Spec (o.ending server scene ledger s) ∈
          sent server (o.look scene elapsed ledger) s := by
  refine ⟨Operand.patches_look named scene elapsed ledger, fun s stored unpatched => ?_,
    fun earlier before past s₀ s same other => ?_⟩
  · obtain ⟨outcome, notes, asked, t, goes, once, aside⟩ :=
      Operand.exists_goes Server.answer scene.settings o s
    have whole := Operand.sent_look_eq named goes once scene.now elapsed ledger
    have same : o.ending Server.answer scene ledger s = o.conditions := by
      refine Decidable.byContradiction fun changed => ?_
      rw [if_neg changed] at whole
      have patches : Operand.statusRequest kind.Spec (o.ending Server.answer scene ledger s) ∈
          sent Server.answer (o.look scene elapsed ledger) s := by
        rw [whole]
        exact List.mem_append_right _ (List.mem_singleton_self _)
      exact unpatched _ patches rfl
    rw [if_pos same, List.append_nil] at whole
    exact ⟨Operand.stored?_of_isAside stored (whole ▸ aside), same.symm⟩
  · obtain ⟨outcome, notes, asked, t, goes, once, -⟩ :=
      Operand.exists_goes server scene.settings o s
    obtain ⟨_, _, _, _, goes₀, once₀, -⟩ := Operand.exists_goes server before.settings earlier s₀
    have changed : o.ending server scene ledger s ≠ o.conditions := by
      intro unchanged
      obtain ⟨c, found, mentions⟩ := Operand.exists_ready_ending goes.told once scene.now ledger
      obtain ⟨c₀, found₀, mentions₀⟩ :=
        Operand.exists_ready_ending goes₀.told once₀ before.now past
      rw [unchanged, same] at found
      cases found.symm.trans found₀
      exact other (mentions₀.symm.trans mentions)
    rw [Operand.sent_look_eq named goes once, if_neg changed]
    exact List.mem_append_right _ (List.mem_singleton_self _)

/-- A pass over the storage driver where there is no manager. -/
def managerlessScene : Scene := ⟨{ operandNamespace := "spire" }, "2026-01-01T00:00:00Z"⟩

/-- The conditions that such a pass ends with. -/
def driverEnding : List Condition := driverOperand.ending Server.answer managerlessScene {} {}

/-- The resource of the storage driver with these conditions. -/
def driverReported : Operand OperandKind.driver.Spec :=
  { driverOperand with status := some { conditions := driverEnding } }

/-- A server that stores nothing but this resource. -/
def reportedServer : Server where
  objects := .ofList [
    (CustomKind.path (.operand .driver), .obj [
      ("metadata", .obj [("name", .str singletonName), ("uid", .str "42")]), ("spec", .obj []),
      ("status", .obj [("conditions", Condition.listToJson driverEnding)])])]

/-- Without a manager, the first pass over the storage driver patches the status, the second one
does not, and one that comes after a change of the generation does. -/
theorem status_patched_exactly_when_changed_driver :
    driverOperand.metadata.anyName = singletonName ∧ driverEnding ≠ driverOperand.conditions ∧
    (sent Server.answer (driverOperand.look managerlessScene 0 {}) {}).filter (·.method = .patch) =
      [Operand.statusRequest OperandKind.driver.Spec driverEnding] ∧
    Operand.stored? OperandKind.driver.Spec reportedServer = some driverReported ∧
    (∀ r ∈ sent Server.answer (driverReported.look managerlessScene 0 {}) reportedServer,
      r.method ≠ .patch) ∧
    driverReported.conditions =
      driverReported.ending Server.answer managerlessScene {} reportedServer ∧
    ∀ g, let edited : Operand OperandKind.driver.Spec :=
        { driverReported with metadata := { driverReported.metadata with generation := some g } }
      ∃ r ∈ sent Server.answer (edited.look managerlessScene 0 {}) reportedServer,
        r.method = .patch := by
  have changed : driverEnding ≠ driverOperand.conditions := by decide +kernel
  have patches := (status_patched_exactly_when_changed .driver Server.answer managerlessScene 0 {}
    (o := driverOperand) rfl).1 {}
  have stored : @Eq (Option (Operand DriverSpec)) (Operand.stored? DriverSpec reportedServer)
      (some driverReported) := by decide +kernel
  have unpatched : (sent Server.answer (driverReported.look managerlessScene 0 {})
      reportedServer).all (·.method ≠ .patch) = true := by decide +kernel
  have unpatched : ∀ r ∈ sent Server.answer (driverReported.look managerlessScene 0 {})
      reportedServer, r.method ≠ .patch := by simpa using unpatched
  have kept := (status_patched_exactly_when_changed .driver Server.answer managerlessScene 0 {}
    (o := driverReported) rfl).2.1 reportedServer stored unpatched
  refine ⟨rfl, changed, patches.trans (if_neg changed), stored, unpatched, kept.2, fun g => ?_⟩
  intro edited
  have same : edited.conditions = driverEnding := by
    simp [edited, driverReported, Operand.conditions]
  have edited := (status_patched_exactly_when_changed .driver Server.answer managerlessScene 0 {}
    (o := edited) rfl).2.2 driverOperand managerlessScene {} {} reportedServer same nofun
  exact ⟨_, edited, rfl⟩

end WorkloadIdentity

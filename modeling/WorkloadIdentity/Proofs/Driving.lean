import WorkloadIdentity.Proofs.Asking
import WorkloadIdentity.Proofs.Manifests
import WorkloadIdentity.Proofs.Status

namespace WorkloadIdentity

/-- The steps of a pass that settles: their objects fit, each writes a condition of its own, and the
workload is among them. -/
structure Step.AreRegular (σ : Type) [OperandPass σ] (settings : Settings) (steps : List Step) :
    Prop where
  fits : Fits (wanteds steps)
  once : (steps.map (·.condition) ++ [Condition.ready, Condition.createOnlyMode]).Nodup
  workload : ∃ w ∈ wanteds steps, w.metadata.name = some (OperandSpec.kind σ).objectName ∧
    w.collection = .workloads (OperandPass.workload σ) settings.operandNamespace

/-- The paths of resources of other kinds. -/
def Operand.IsOther (σ : Type) [OperandSpec σ] (path : String) : Prop :=
  ∃ kind : CustomKind, kind ≠ .operand (OperandSpec.kind σ) ∧ path = kind.path

/-- A pass over an operand asks only for resources of other kinds before it knows its steps, and
its steps are regular. -/
structure OperandPass.Settles (σ : Type) [OperandPass σ] : Prop where
  proper : ∀ v (spec : σ), OperandSpec.read? v = some spec →
    (OperandSpec.placement spec).IsProper
  same : ∀ scene spec (o o' : Operand σ), o.Continues o' → steps scene spec o' = steps scene spec o
  rests : ∀ settings spec (o : Operand σ) (s : Server), ∃ result,
    Attempt.Rests (fun now => steps ⟨settings, now⟩ spec o) s (Operand.IsOther σ) result ∧
    ∀ steps, result = .ok steps → (OperandSpec.placement o.spec).IsProper →
      (OperandSpec.placement o.spec).IsComparable → Step.AreRegular σ settings steps

namespace Site

variable {σ : Type} [OperandSpec σ] {o o' : Operand σ} {manager : ManagerSpec}
  {settings : Settings} {site : Site σ}

theorem ofOperand_continues (h : o.Continues o') :
    ofOperand o' manager settings = ofOperand o manager settings := by
  unfold ofOperand OwnerReference.toController
  rw [h.spec, h.metadata.name, h.metadata.uid]

/-- A site is made of its operand, of what is given for all operands, and of the reference to the
resource. -/
theorem exists_owner (h : ofOperand o manager settings = .ok site) : ∃ owner,
    OwnerReference.toController (OperandSpec.kind σ).kindName o.metadata = .ok owner ∧
    site = {
      frame := {
        namespaceName := settings.operandNamespace
        labels := Label.standard (OperandSpec.kind σ).objectName (OperandSpec.kind σ).component
          (OperandSpec.placement o.spec).labels
        owner }
      spec := o.spec, manager, settings } := by
  unfold ofOperand at h
  dsimp only at h
  cases made : OwnerReference.toController (OperandSpec.kind σ).kindName o.metadata with
  | error fault =>
    rw [made] at h
    cases h
  | ok owner =>
    rw [made] at h
    cases h
    exact ⟨owner, rfl, rfl⟩

theorem of_ofOperand (h : ofOperand o manager settings = .ok site) :
    site.spec = o.spec ∧ site.settings = settings := by
  obtain ⟨owner, -, rfl⟩ := exists_owner h
  exact ⟨rfl, rfl⟩

end Site

/-- A pass settles if its steps are made from a site without asking and are regular at all sites. -/
theorem OperandPass.settles_of_steps {σ : Type} [OperandPass σ] {stepsAt : Site σ → List Step}
    (proper : ∀ v (spec : σ), OperandSpec.read? v = some spec →
      (OperandSpec.placement spec).IsProper)
    (made : ∀ scene spec (o : Operand σ), steps scene spec o =
      .mk (pure ((Site.ofOperand o spec scene.settings).map stepsAt)))
    (regular : ∀ site : Site σ, (OperandSpec.placement site.spec).IsProper →
      (OperandSpec.placement site.spec).IsComparable →
        Step.AreRegular σ site.settings (stepsAt site)) : OperandPass.Settles σ where
  proper := proper
  same scene spec o o' h := by rw [made, made, Site.ofOperand_continues h]
  rests settings spec o s := by
    simp only [made]
    refine ⟨_, Attempt.rests_done _, fun steps mapped proper comparable => ?_⟩
    cases found : Site.ofOperand o spec settings with
    | error fault =>
      rw [found] at mapped
      cases mapped
    | ok site =>
      rw [found] at mapped
      cases mapped
      obtain ⟨specified, rfl⟩ := Site.of_ofOperand found
      exact regular site (specified ▸ proper) (specified ▸ comparable)

theorem ServerSpec.isProper_read? {v : Json} {s : ServerSpec} (h : read? v = some s) :
    s.placement.IsProper := by
  simp only [read?, Option.bind_eq_bind, Option.bind_eq_some_iff, Option.pure_def,
    Option.some.injEq] at h
  obtain ⟨ms, -, _, -, _, -, _, -, _, -, _, -, _, -, _, -, _, -, _, -, _, -, placement, read,
    rfl⟩ := h
  exact Placement.isProper_ofMembers? read

theorem ServerSpec.settles : OperandPass.Settles ServerSpec := by
  refine OperandPass.settles_of_steps (fun _ _ => isProper_read?) (fun _ _ _ => rfl)
    fun site proper comparable => ?_
  refine ⟨fits site proper comparable, of_decide_eq_true rfl,
    .statefulSet site.settings.operandNamespace (ServerManifest.statefulSet site
      (Fingerprint.ofJson (ServerManifest.config site))
      (Fingerprint.ofJson (ServerManifest.controllerManagerConfig site))), ?_, rfl, rfl⟩
  simp [stepsAt, Step.wanteds, Step.of]

theorem AgentSpec.isProper_read? {v : Json} {s : AgentSpec} (h : read? v = some s) :
    s.placement.IsProper := by
  simp only [read?, Option.bind_eq_bind, Option.bind_eq_some_iff, Option.pure_def,
    Option.some.injEq] at h
  obtain ⟨ms, -, _, -, _, -, _, -, _, -, _, -, placement, read, rfl⟩ := h
  exact Placement.isProper_ofMembers? read

theorem AgentSpec.settles : OperandPass.Settles AgentSpec := by
  refine OperandPass.settles_of_steps (fun _ _ => isProper_read?) (fun _ _ _ => rfl)
    fun site proper comparable => ?_
  refine ⟨fits site proper comparable, of_decide_eq_true rfl,
    .daemonSet site.settings.operandNamespace (AgentManifest.daemonSet site
      (Fingerprint.ofJson (AgentManifest.config site))), ?_, rfl, rfl⟩
  simp [stepsAt, Step.wanteds, Step.of]

theorem DriverSpec.isProper_read? {v : Json} {s : DriverSpec} (h : read? v = some s) :
    s.placement.IsProper := by
  simp only [read?, Option.bind_eq_bind, Option.bind_eq_some_iff, Option.pure_def,
    Option.some.injEq] at h
  obtain ⟨ms, -, _, -, _, -, placement, read, rfl⟩ := h
  exact Placement.isProper_ofMembers? read

theorem DriverSpec.settles : OperandPass.Settles DriverSpec := by
  refine OperandPass.settles_of_steps (fun _ _ => isProper_read?) (fun _ _ _ => rfl)
    fun site proper comparable => ?_
  refine ⟨fits site proper comparable, of_decide_eq_true rfl,
    .daemonSet site.settings.operandNamespace (DriverManifest.daemonSet site), ?_, rfl, rfl⟩
  simp [stepsAt, Step.wanteds, Step.of]

theorem DiscoverySpec.isProper_read? {v : Json} {s : DiscoverySpec} (h : read? v = some s) :
    s.placement.IsProper := by
  simp only [read?, Option.bind_eq_bind, Option.bind_eq_some_iff, Option.pure_def,
    Option.some.injEq] at h
  obtain ⟨ms, -, _, -, _, -, _, -, _, -, _, -, placement, read, rfl⟩ := h
  exact Placement.isProper_ofMembers? read

/-- The discovery provider asks for the storage driver, whose name its pods mention. -/
theorem DiscoverySpec.settles : OperandPass.Settles DiscoverySpec where
  proper _ _ := isProper_read?
  same scene spec o o' h := by
    change (_ >>= fun _ => _) = (_ >>= fun _ => _)
    simp only [Site.ofOperand_continues h]
  rests settings spec o s := by
    have other : Operand.IsOther DiscoverySpec (CustomKind.operand .driver).path :=
      ⟨_, by decide, rfl⟩
    obtain ⟨fetched, rests⟩ := Attempt.rests_findCustom (s := s) (.operand .driver)
      (Operand.read? : Json → Option (Operand DriverSpec)) other
    cases fetched with
    | error fault => exact ⟨_, rests.bind_of_error, nofun⟩
    | ok driver =>
      refine ⟨_, rests.bind (Attempt.rests_done (do
        let site ← Site.ofOperand o spec settings
        let config ← DiscoveryManifest.config site
        return stepsAt site (pluginName driver) config)),
        fun steps made proper comparable => ?_⟩
      obtain ⟨site, found, made⟩ := exists_of_bind_ok made
      obtain ⟨config, -, made⟩ := exists_of_bind_ok made
      cases made
      obtain ⟨specified, rfl⟩ := Site.of_ofOperand found
      refine ⟨fits site (specified ▸ proper) (specified ▸ comparable) (pluginName driver) config,
        of_decide_eq_true rfl,
        .deployment site.settings.operandNamespace (DiscoveryManifest.deployment site
          (pluginName driver) (Fingerprint.ofJson config)), ?_, rfl, rfl⟩
      obtain ⟨identities, routes, list, -⟩ := wanteds_stepsAt site (pluginName driver) config
      simp [list]

namespace Operand

variable {σ : Type} [OperandPass σ] {o o' : Operand σ} {settings : Settings} {s : Server}

/-- The part of a pass that results in its steps. -/
def prepare (scene : Scene) (o : Operand σ) : Pass (List Step) := do
  let spec ← manager
  Attempt.pass (.mk (pure (TrustDomain.check spec.trustDomain)))
  Attempt.pass (.mk (pure (check o)))
  (OperandPass.steps scene spec o).pass

/-- The part of a pass that looks at the workload. -/
def observe (σ : Type) [OperandPass σ] (settings : Settings) : Pass Readiness := do
  let w ← (workload σ settings).pass
  return Readiness.ofWorkload w

theorem drive_eq (scene : Scene) (o : Operand σ) :
    drive scene o = prepare scene o >>= fun steps =>
      Step.runAll scene steps >>= fun _ => observe σ scene.settings := by
  simp only [drive, prepare, observe, bind_assoc]

/-- A resource that goes on is prepared as before. -/
theorem prepare_continues (settles : OperandPass.Settles σ) (h : o.Continues o') (scene : Scene) :
    prepare scene o' = prepare scene o := by
  simp only [prepare, check, h.spec, settles.same scene _ o o' h]

theorem drive_continues (settles : OperandPass.Settles σ) (h : o.Continues o') (scene : Scene) :
    drive scene o' = drive scene o := by
  rw [drive_eq, drive_eq, prepare_continues settles h]

theorem rests_manager (s : Server) : ∃ result,
    Pass.Rests (fun _ => manager) s (IsOther σ) result [] := by
  have other : IsOther σ CustomKind.manager.path := ⟨.manager, nofun, rfl⟩
  obtain ⟨fetched, rests⟩ := Attempt.rests_findCustom (s := s) .manager Manager.read? other
  rcases fetched with fault | _ | m
  · exact ⟨_, rests.pass.bind_of_error⟩
  · exact ⟨_, rests.pass.bind (Pass.rests_throw _)⟩
  · exact ⟨_, rests.pass.bind (Pass.rests_pure _)⟩

/-- The preparation only asks, for resources of other kinds. -/
theorem rests_prepare (settles : OperandPass.Settles σ) (settings : Settings) (o : Operand σ)
    (s : Server) : ∃ result,
      Pass.Rests (fun now => prepare ⟨settings, now⟩ o) s (IsOther σ) result [] ∧
      ∀ steps, result = .ok steps → (OperandSpec.placement o.spec).IsProper →
        (OperandSpec.placement o.spec).IsComparable → Step.AreRegular σ settings steps := by
  refine Pass.exists_rests_bind (rests_manager s) fun spec => ?_
  refine Pass.exists_rests_bind ⟨_, (Attempt.rests_done _).pass⟩ fun _ => ?_
  refine Pass.exists_rests_bind ⟨_, (Attempt.rests_done _).pass⟩ fun _ => ?_
  obtain ⟨result, rests, regular⟩ := settles.rests settings spec o s
  exact ⟨result, rests.pass, regular⟩

/-- Looking at the workload only asks, for one object. -/
theorem rests_observe {sight : String → Prop}
    (seen : ∀ path, Address.path? (Api.targetOf
        (.workloads (OperandPass.workload σ) settings.operandNamespace)
        (OperandSpec.kind σ).objectName) = some path → sight path) :
    ∃ result, Pass.Rests (fun _ => observe σ settings) s sight result [] := by
  have asked : ∃ result, Attempt.Rests (fun _ => workload σ settings) s sight result :=
    Attempt.rests_get _ fun path found =>
      ⟨@ManagedKind.readsNoList (.workload (OperandPass.workload σ)) _ rfl path,
        seen path found⟩
  obtain ⟨fault | w, fetched⟩ := asked
  · exact ⟨_, fetched.pass.bind_of_error⟩
  · exact ⟨_, fetched.pass.bind (Pass.rests_pure (Readiness.ofWorkload w))⟩

/-- The workload is looked at where its step has applied it. -/
theorem rests_observe_of_regular {steps : List Step} (regular : Step.AreRegular σ settings steps)
    (s : Server) :
    ∃ result, Pass.Rests (fun _ => observe σ settings) s (· ≠ path σ) result [] := by
  obtain ⟨w, mem, named, collection⟩ := regular.workload
  refine rests_observe fun place found e => ?_
  have address : w.address? = some place := by
    rw [Wanted.address?, named, collection]
    exact found
  exact (Wanted.ne_customPath (regular.fits.sound w mem).known _).1 (e ▸ address)

/-- A pass whose objects are settled only asks, and each of its notes is on a condition of its
own. -/
theorem rests_drive {steps : List Step} (regular : Step.AreRegular σ settings steps)
    (prepared : Pass.Rests (fun now => prepare ⟨settings, now⟩ o) s (· ≠ path σ) (.ok steps) [])
    (settled : Settled settings.createOnly s.objects [] (Step.wanteds steps)) :
    ∃ outcome notes,
      Pass.Rests (fun now => drive ⟨settings, now⟩ o) s (· ≠ path σ) outcome notes ∧
      (notes.map (·.type)).Sublist (steps.map (·.condition)) := by
  simp only [drive_eq]
  have seen : ∀ w ∈ Step.wanteds steps, ∀ place,
      w.address? = some place ∨ w.birth? = some place → place ≠ path σ := by
    rintro w mem place here rfl
    have away := Wanted.ne_customPath (regular.fits.sound w mem).known
      (.operand (OperandSpec.kind σ))
    exact here.elim away.1 away.2
  obtain ⟨result, notes, asked, harmless, types, told⟩ :=
    Step.rests_runAll settled (List.forall_mem_nil _)
      (fun w mem => (regular.fits.sound w mem).tells) seen
  have ran : Pass.Rests (fun now => Step.runAll ⟨settings, now⟩ steps) s (· ≠ path σ) result
      notes := ⟨asked, harmless, told⟩
  cases result with
  | error fault => exact ⟨_, _, prepared.bind ran.bind_of_error, types⟩
  | ok _ =>
    obtain ⟨outcome, observed⟩ := rests_observe_of_regular regular s
    refine ⟨outcome, _, prepared.bind (ran.bind observed), ?_⟩
    rw [List.append_nil]
    exact types

/-- A server with the same resources of all kinds has an operand prepared as before, whatever there
is of it. -/
theorem rests_prepare_again {t : Server} {result : Except Fault (List Step)}
    (rests : Pass.Rests (fun now => prepare ⟨settings, now⟩ o) s (IsOther σ) result [])
    (same : ∀ kind : CustomKind, t.objects.get? kind.path = s.objects.get? kind.path) :
    Pass.Rests (fun now => prepare ⟨settings, now⟩ o) t (· ≠ path σ) result [] := by
  refine rests.of_shows fun u shown => ⟨shown.untroubled, ?_⟩
  rintro place ⟨kind, other, rfl⟩
  rw [shown.objects kind.path fun e => other (CustomKind.eq_of_path_eq e)]
  exact same kind

/-- **Behind a pass that succeeds, a pass only asks.** The one that succeeds leaves the resource
itself alone. -/
theorem settles_drive (settings : Settings) (settles : OperandPass.Settles σ)
    (untroubled : s.troubles = [])
    (proper : (OperandSpec.placement o.spec).IsProper)
    (comparable : (OperandSpec.placement o.spec).IsComparable) :
    ∃ outcome notes t,
      Pass.Tells Server.answer (fun now => drive ⟨settings, now⟩ o) s outcome notes t ∧
      ∀ readiness, outcome = .ok readiness → t.troubles = [] ∧
        t.objects.get? (path σ) = s.objects.get? (path σ) ∧
        ∃ outcome' notes',
          Pass.Rests (fun now => drive ⟨settings, now⟩ o) t (· ≠ path σ) outcome' notes' ∧
          (notes'.map (·.type) ++ [Condition.ready, Condition.createOnlyMode]).Nodup := by
  obtain ⟨prepared, rests, regular⟩ := rests_prepare settles settings o s
  obtain ⟨asked, -, told⟩ := id rests
  have first := told s (Server.shows_self untroubled)
  cases prepared with
  | error fault =>
    refine ⟨.error fault, [], s.asking asked, ?_, nofun⟩
    simp only [drive_eq]
    exact Pass.tells_bind_of_error first
  | ok steps =>
    have regular := regular steps rfl proper comparable
    have nothing : Settled settings.createOnly s.objects [] [] := trivial
    obtain ⟨result, notes, t, told, -, settled⟩ := Step.settles_runAll (s := s.asking asked)
      untroubled nothing regular.fits.orderly
      (fun w mem => (regular.fits.sound w mem).tells)
      (fun w mem => (regular.fits.sound w mem).named)
      (fun w mem => (regular.fits.sound w mem).stable)
    cases result with
    | error fault =>
      refine ⟨.error fault, notes, t, ?_, nofun⟩
      simp only [drive_eq]
      exact Pass.tells_bind first (Pass.tells_bind_of_error told)
    | ok _ =>
      obtain ⟨quiet, settled, elsewhere⟩ := settled rfl
      obtain ⟨outcome, looked⟩ := rests_observe_of_regular regular t
      obtain ⟨asked', -, observed⟩ := looked
      have same (kind : CustomKind) : t.objects.get? kind.path = s.objects.get? kind.path :=
        elsewhere kind.path fun w mem =>
          Wanted.ne_customPath (regular.fits.sound w mem).known kind
      refine ⟨outcome, [] ++ (notes ++ []), t.asking asked', ?_,
        fun readiness _ => ⟨quiet, same _, ?_⟩⟩
      · have later : Pass.Tells Server.answer (fun now => Step.runAll ⟨settings, now⟩ steps >>=
            fun _ => observe σ settings) (s.asking asked) outcome (notes ++ []) (t.asking asked') :=
          Pass.tells_bind told (observed t (Server.shows_self quiet))
        simp only [drive_eq]
        exact Pass.tells_bind first later
      · obtain ⟨outcome', notes', rests', types⟩ :=
          rests_drive regular (rests_prepare_again (t := t.asking asked') rests same) settled
        exact ⟨outcome', notes', rests', regular.once.sublist (types.append_right _)⟩

end Operand

end WorkloadIdentity

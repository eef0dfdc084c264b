import WorkloadIdentity.Proofs.Approval
import WorkloadIdentity.Proofs.Collisions
import WorkloadIdentity.Proofs.Segments

/-! What users write is checked before anything is applied, and read again when the objects are
made: the host of an issuer, and the identity of the discovery provider. If the second reading
refused what the first one accepts, a pass would fail halfway. -/

namespace WorkloadIdentity

open Exchange

namespace DiscoveryManifest

variable {site : Site DiscoverySpec} {host : String}

theorem exists_issuerHost {issuer : String} (sound : Issuer.flaw? issuer = none) :
    ∃ host, issuerHost issuer = .ok host ∧ host ≠ "" := by
  unfold Issuer.flaw? at sound
  unfold issuerHost Issuer.host?
  cases parsed : Url.parse issuer with
  | error fault =>
    rw [parsed] at sound
    cases sound
  | ok url =>
    rw [parsed] at sound
    dsimp only at sound ⊢
    cases found : url.host with
    | none =>
      rw [found] at sound
      split at sound <;> cases sound
    | some host =>
      refine ⟨host, rfl, fun empty => ?_⟩
      rw [found, empty] at sound
      split at sound <;> cases sound

/-- The request can be made if and only if the trust domain is accepted, no segment of the namespace
is empty or relative, and the issuer has a host. -/
theorem exists_identity_iff : (∃ o, identity site = .ok o) ↔
    TrustDomain.check site.manager.trustDomain = .ok () ∧
      SpiffeId.HasSoundSegments site.settings.operandNamespace.toList ∧
      ∃ host, issuerHost site.spec.jwtIssuer = .ok host := by
  have account : SpiffeId.HasSoundSegments name.toList := by decide
  have identified : (∃ id, SpiffeId.forServiceAccount site.manager.trustDomain
      site.settings.operandNamespace name = .ok id) ↔
        TrustDomain.check site.manager.trustDomain = .ok () ∧
          SpiffeId.HasSoundSegments site.settings.operandNamespace.toList :=
    SpiffeId.exists_forServiceAccount_iff.trans
      (and_congr_right fun _ => and_iff_left account)
  rw [← and_assoc, ← identified]
  unfold identity
  dsimp only
  cases SpiffeId.forServiceAccount site.manager.trustDomain site.settings.operandNamespace name with
  | error fault => simp [Bind.bind, Except.bind]
  | ok id =>
    cases issuerHost site.spec.jwtIssuer with
    | error fault => simp [Bind.bind, Except.bind]
    | ok host => simp [Bind.bind, Except.bind, Pure.pure, Except.pure]

theorem exists_config (found : issuerHost site.spec.jwtIssuer = .ok host) :
    ∃ config, DiscoveryManifest.config site = .ok config := by
  unfold config
  rw [found]
  exact ⟨_, rfl⟩

theorem exists_route (found : issuerHost site.spec.jwtIssuer = .ok host) :
    ∃ o, route site = .ok o := by
  unfold route
  rw [found]
  cases site.spec.managedRoute with
  | false => exact ⟨_, rfl⟩
  | true => exact ⟨_, rfl⟩

end DiscoveryManifest

/-- An accepted specification names an accepted issuer. -/
theorem DiscoverySpec.exists_issuerHost {spec : DiscoverySpec}
    (sound : OperandSpec.flaw? spec = none) :
    ∃ host, DiscoveryManifest.issuerHost spec.jwtIssuer = .ok host ∧ host ≠ "" := by
  change flaw? spec = none at sound
  unfold flaw? at sound
  exact DiscoveryManifest.exists_issuerHost (Option.or_eq_none_iff.1 sound).1

/-- The object of a step can be made, if there is one, and it has a name to be applied under. -/
def Step.isMade (step : Step) : Bool :=
  match step.wanted with
  | .ok (some w) => w.metadata.name.isSome
  | .ok none => true
  | .error _ => false

/-- The configuration that the steps are planned with. Only that of the discovery provider is made
of what may be missing. -/
def OperandKind.configuration : (kind : OperandKind) → Site kind.Spec → Except Fault Json
  | .discovery, site => DiscoveryManifest.config site
  | _, _ => .ok .null

theorem DiscoverySpec.all_isMade {site : Site DiscoverySpec} {identity : Untyped}
    {route : Option Untyped} (identified : DiscoveryManifest.identity site = .ok identity)
    (routed : DiscoveryManifest.route site = .ok route) (plugin : String) (config : Json) :
    (stepsAt site plugin config).all Step.isMade = true := by
  have first : Step.isMade ⟨"ClusterSPIFFEIDAvailable",
      (DiscoveryManifest.identity site).map (fun o => some (.clusterIdentity o))⟩ = true := by
    obtain ⟨data, rfl⟩ := DiscoveryManifest.exists_data_identity identified
    rw [identified]
    rfl
  have last : Step.isMade ⟨"RouteAvailable", (DiscoveryManifest.route site).map
      (·.map (Wanted.route site.settings.operandNamespace))⟩ = true := by
    cases route with
    | none =>
      rw [routed]
      rfl
    | some o =>
      obtain ⟨data, rfl⟩ := DiscoveryManifest.exists_data_route routed
      rw [routed]
      rfl
  unfold stepsAt
  simp only [List.all_cons, first, last]
  rfl

theorem OperandKind.all_isMade (kind : OperandKind) {site : Site kind.Spec}
    (trusted : TrustDomain.check site.manager.trustDomain = .ok ())
    (segments : SpiffeId.HasSoundSegments site.settings.operandNamespace.toList)
    (sound : OperandSpec.flaw? site.spec = none) (plugin : String) (config : Json) :
    (kind.stepsAt site plugin config).all Step.isMade = true := by
  cases kind with
  | server => rfl
  | agent => rfl
  | discovery =>
    obtain ⟨host, found, -⟩ := DiscoverySpec.exists_issuerHost sound
    obtain ⟨identity, identified⟩ :=
      DiscoveryManifest.exists_identity_iff.2 ⟨trusted, segments, host, found⟩
    obtain ⟨route, routed⟩ := DiscoveryManifest.exists_route found
    exact DiscoverySpec.all_isMade identified routed plugin config
  | driver => rfl

theorem OperandKind.exists_configuration (kind : OperandKind) {site : Site kind.Spec}
    (sound : OperandSpec.flaw? site.spec = none) :
    ∃ config, kind.configuration site = .ok config := by
  cases kind with
  | server => exact ⟨.null, rfl⟩
  | agent => exact ⟨.null, rfl⟩
  | discovery =>
    obtain ⟨host, found, -⟩ := DiscoverySpec.exists_issuerHost sound
    exact DiscoveryManifest.exists_config found
  | driver => exact ⟨.null, rfl⟩

variable {α β : Type}

/-- Whatever server an attempt is made at, it fails by a fault of the API server or not at all. -/
def Attempt.FailsByApi (attempt : Attempt α) : Prop :=
  ∀ (τ : Type) (server : Request → τ → Reply × τ) (s : τ) (fault : Fault),
    (run server attempt.run s).1 = .error fault → ∃ api, fault = .api api

/-- The same of a part of a pass, whatever has been noted before. -/
def Pass.FailsByApi (part : Pass α) : Prop :=
  ∀ (τ : Type) (server : Request → τ → Reply × τ) (s : τ) (journal : Journal) (fault : Fault),
    (run server (part.run journal) s).1.1 = .error fault → ∃ api, fault = .api api

namespace Attempt

theorem failsByApi_pure (a : α) : FailsByApi (pure a) := by
  intro τ server s fault failed
  cases failed

theorem failsByApi_call (call : Call α) : FailsByApi call.attempt := by
  intro τ server s fault failed
  rw [Call.run_attempt] at failed
  cases result : (run server call.run s).1 with
  | ok a =>
    rw [result] at failed
    cases failed
  | error api =>
    rw [result] at failed
    cases failed
    exact ⟨api, rfl⟩

theorem FailsByApi.bind {x : Attempt α} {f : α → Attempt β} (first : x.FailsByApi)
    (second : ∀ a, (f a).FailsByApi) : (x >>= f).FailsByApi := by
  intro τ server s fault failed
  cases ran : run server x.run s with
  | mk result t =>
    cases result with
    | ok a =>
      rw [run_bind_of_ok ran] at failed
      exact second a τ server t fault failed
    | error fault' =>
      rw [run_bind_of_error ran] at failed
      cases failed
      exact first τ server s fault (by rw [ran])

end Attempt

/-- An object with a name is fetched, and then created or replaced, or left alone. -/
theorem Wanted.failsByApi_attempt {w : Wanted} {name : String}
    (named : w.metadata.name = some name) (createOnly : Bool) :
    (w.attempt createOnly).FailsByApi := by
  unfold attempt
  rw [apply_of_name named]
  refine (Attempt.failsByApi_call _).bind fun live => ?_
  cases plan live w.object createOnly with
  | create object => exact (Attempt.failsByApi_call _).bind fun _ => Attempt.failsByApi_pure _
  | replace object => exact (Attempt.failsByApi_call _).bind fun _ => Attempt.failsByApi_pure _
  | unchanged => exact Attempt.failsByApi_pure _
  | skipped => exact Attempt.failsByApi_pure _

section
variable {scene : Scene} {manager : ManagerSpec}

theorem OperandPass.failsByApi_steps {σ : Type} [OperandPass σ] {stepsAt : Site σ → List Step}
    (made : ∀ scene manager (o : Operand σ), OperandPass.steps scene manager o =
      .mk (pure ((Site.ofOperand o manager scene.settings).map stepsAt)))
    {o : Operand σ} {site : Site σ} (placed : Site.ofOperand o manager scene.settings = .ok site) :
    (OperandPass.steps scene manager o).FailsByApi := by
  rw [made, placed]
  exact Attempt.failsByApi_pure (stepsAt site)

/-- The steps for the discovery provider are planned by asking for the storage driver. -/
theorem DiscoverySpec.failsByApi_steps {o : Operand DiscoverySpec} {site : Site DiscoverySpec}
    {config : Json} (placed : Site.ofOperand o manager scene.settings = .ok site)
    (configured : DiscoveryManifest.config site = .ok config) :
    (OperandPass.steps scene manager o).FailsByApi := by
  intro τ server s fault failed
  cases asked : run server (Call.attempt (Api.find? (.operands .driver) singletonName
      (Operand.read? : Json → Option (Operand DriverSpec)))).run s with
  | mk result t =>
    cases result with
    | ok driver =>
      rw [run_steps asked placed configured] at failed
      cases failed
    | error fault' =>
      cases (congrArg Prod.fst (Attempt.run_bind_of_error asked)).symm.trans failed
      exact Attempt.failsByApi_call _ τ server s fault (by rw [asked])

theorem OperandKind.failsByApi_steps (kind : OperandKind) {o : Operand kind.Spec}
    {site : Site kind.Spec} {config : Json}
    (placed : Site.ofOperand o manager scene.settings = .ok site)
    (configured : kind.configuration site = .ok config) :
    (OperandPass.steps scene manager o).FailsByApi := by
  cases kind with
  | server => exact OperandPass.failsByApi_steps (fun _ _ _ => rfl) placed
  | agent => exact OperandPass.failsByApi_steps (fun _ _ _ => rfl) placed
  | discovery => exact DiscoverySpec.failsByApi_steps placed configured
  | driver => exact OperandPass.failsByApi_steps (fun _ _ _ => rfl) placed

end

/-- A pass whose plan can be made fails where the API server refuses something: no course ends at an
object that cannot be made. -/
theorem Operand.Takes.failsByApi {σ τ : Type} [OperandPass σ]
    {server : Request → τ → Reply × τ} {settings : Settings} {plan : Attempt (List Step)} {s t : τ}
    {course : Course} (takes : Takes σ server settings plan s course t) (plans : plan.FailsByApi)
    (made : ∀ {steps t}, run server plan.run s = (.ok steps, t) → steps.all Step.isMade = true)
    {fault : Fault} (failed : course.outcome = .error fault) : ∃ api, fault = .api api := by
  cases takes with
  | unplanned planned =>
    cases failed
    exact plans τ server s fault (by rw [planned])
  | unmade planned taken flawed =>
    have here := List.all_eq_true.1 (made planned) _ (List.mem_append_right _ List.mem_cons_self)
    unfold Step.isMade at here
    rw [flawed] at here
    cases here
  | refused planned taken makes refused =>
    cases failed
    have here := List.all_eq_true.1 (made planned) _ (List.mem_append_right _ List.mem_cons_self)
    unfold Step.isMade at here
    rw [makes] at here
    obtain ⟨name, named⟩ := Option.isSome_iff_exists.1 here
    exact Wanted.failsByApi_attempt named _ τ server _ fault (by rw [refused])
  | @observed before idle applied asked result _ _ _ planned none taken looked =>
    cases result with
    | ok w => cases failed
    | error fault' =>
      cases failed
      exact Attempt.failsByApi_call _ τ server _ fault (congrArg Prod.fst looked)

/-- **Behind the checks, only the API server makes a pass fail.** If the specification of an operand
and the trust domain of the manager are accepted, and no segment of the operands' namespace is empty
or relative, all objects of the operand can be made, and so can what they are made of: the host of
every accepted issuer, the identity of the discovery provider and its configuration. -/
theorem accepted_operands_can_be_made (kind : OperandKind) {o : Operand kind.Spec}
    {name uid : String} {manager : ManagerSpec} {settings : Settings}
    (named : o.metadata.name = some name) (identified : o.metadata.uid = some uid)
    (sound : OperandSpec.flaw? o.spec = none)
    (trusted : TrustDomain.check manager.trustDomain = .ok ())
    (segments : SpiffeId.HasSoundSegments settings.operandNamespace.toList) :
    (∀ issuer, Issuer.flaw? issuer = none →
      ∃ host, DiscoveryManifest.issuerHost issuer = .ok host ∧ host ≠ "") ∧
    (∃ id, SpiffeId.forServiceAccount manager.trustDomain settings.operandNamespace
      DiscoveryManifest.name = .ok id) ∧
    ∃ site config, Site.ofOperand o manager settings = .ok site ∧
      kind.configuration site = .ok config ∧
      (∀ plugin, ∀ step ∈ kind.stepsAt site plugin config, step.isMade = true) ∧
      ∀ now, Pass.FailsByApi (Operand.pursue kind.Spec ⟨settings, now⟩
        (OperandPass.steps ⟨settings, now⟩ manager o)) := by
  obtain ⟨site, placed⟩ : ∃ site, Site.ofOperand o manager settings = .ok site := by
    unfold Site.ofOperand OwnerReference.toController
    rw [named, identified]
    exact ⟨_, rfl⟩
  obtain ⟨rfl, rfl, -⟩ := Site.isUnder_of_ofOperand placed
  rw [← (Site.of_ofOperand placed).1] at sound
  have made := kind.all_isMade trusted segments sound
  obtain ⟨config, configured⟩ := kind.exists_configuration sound
  refine ⟨fun issuer => DiscoveryManifest.exists_issuerHost,
    SpiffeId.exists_forServiceAccount_iff.2 ⟨trusted, segments, by decide⟩, site, config, placed,
    configured, fun plugin => List.all_eq_true.1 (made plugin config), ?_⟩
  intro now τ server s journal fault failed
  have follows := kind.follows server ⟨site.settings, now⟩ site.manager o
  obtain ⟨course, t, takes⟩ := Operand.exists_takes kind.Spec site.settings follows s
  refine takes.failsByApi (kind.failsByApi_steps placed configured) ?_ ?_
  · intro steps t planned
    obtain ⟨site', plugin, config', placed', rfl⟩ := kind.exists_site planned
    cases placed.symm.trans placed'
    exact made plugin config'
  · obtain ⟨metrics, ran⟩ := takes.goes.told now journal
    rw [ran] at failed
    exact failed

theorem accepted_operands_can_be_made_discovery :
    ∃ site config, Site.ofOperand (plainInstallation "spire-bundle").discovery
        (plainInstallation "spire-bundle").manager (plainInstallation "spire-bundle").settings =
          .ok site ∧
      DiscoveryManifest.config site = .ok config ∧
      (∀ plugin, ∀ step ∈ DiscoverySpec.stepsAt site plugin config, step.isMade = true) ∧
      ∀ now, Pass.FailsByApi (Operand.pursue DiscoverySpec
        ⟨(plainInstallation "spire-bundle").settings, now⟩
        (OperandPass.steps ⟨(plainInstallation "spire-bundle").settings, now⟩
          (plainInstallation "spire-bundle").manager
          (plainInstallation "spire-bundle").discovery)) := by
  have accepted := isAccepted_plainInstallation "spire-bundle"
  have sound : OperandSpec.flaw? (plainInstallation "spire-bundle").discovery.spec = none :=
    Operand.flaw?_of_check (accepted.operands .discovery)
  have segments : SpiffeId.HasSoundSegments
      (plainInstallation "spire-bundle").settings.operandNamespace.toList := by decide
  exact (accepted_operands_can_be_made .discovery rfl rfl sound accepted.manager segments).2.2

end WorkloadIdentity

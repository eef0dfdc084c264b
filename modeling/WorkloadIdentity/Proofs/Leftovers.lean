import WorkloadIdentity.Proofs.Patching
import WorkloadIdentity.Proofs.Verdicts

/-!
# What is left over in the conditions

A pass writes the conditions of the steps that it takes and leaves the others as they are. So what
the conditions say is partly what earlier passes have found, maybe for another specification.

* `OperandKind.Reached` are the conditions that passes write one after the other, and
  `Reached.tidy` what they have in common: one for each type, and none of another type.
* `OperandKind.omitted` lists the conditions of the steps that an operand does without.
* `ready_beside_leftovers`: beside a true `Ready` only those can say that an object is missing, and
  what they say is left over.
-/

namespace WorkloadIdentity

open Exchange

variable {τ : Type} {server : Request → τ → Reply × τ}

/-! ## Types -/

/-- The conditions are of these types, each of them of another one. -/
structure Condition.AreTidy (types : List String) (conditions : List Condition) : Prop where
  once : (conditions.map (·.type)).Nodup
  known : ∀ c ∈ conditions, c.type ∈ types

namespace Condition.AreTidy

variable {types : List String} {conditions : List Condition} {c new : Condition}

theorem upsert (h : AreTidy types conditions) (known : new.type ∈ types) :
    AreTidy types (upsert new conditions) := by
  have each : ∀ t ∈ (Condition.upsert new conditions).map (·.type), t ∈ types := by
    rw [types_upsert new conditions]
    have old : ∀ t ∈ conditions.map (·.type), t ∈ types := List.forall_mem_map.2 h.known
    split
    · exact old
    · exact List.forall_mem_append.2 ⟨old, List.forall_mem_singleton.2 known⟩
  exact ⟨nodup_types_upsert new h.once, List.forall_mem_map.1 each⟩

/-- The conditions behind notes of these types. -/
theorem write (now : String) {notes : List Note} (known : ∀ n ∈ notes, n.type ∈ types)
    {r : Recorder} (h : AreTidy types r.conditions) :
    AreTidy types (r.write now notes).conditions := by
  induction notes generalizing r with
  | nil => exact h
  | cons n rest ih =>
    obtain ⟨here, later⟩ := List.forall_mem_cons.1 known
    exact ih later (r := r.put now n) (h.upsert here)

/-- A condition is the first one of its type. -/
theorem find?_eq_some (h : AreTidy types conditions) (hc : c ∈ conditions) :
    find? c.type conditions = some c := by
  obtain ⟨once, -⟩ := h
  induction conditions with
  | nil => cases hc
  | cons d rest ih =>
    obtain ⟨notIn, once⟩ := List.nodup_cons.1 once
    rw [find?_cons]
    rcases List.mem_cons.1 hc with rfl | later
    · exact if_pos rfl
    · have other : d.type ≠ c.type := fun same => notIn (List.mem_map.2 ⟨c, later, same.symm⟩)
      rw [if_neg other]
      exact ih later once

end Condition.AreTidy

/-! ## Passes one after the other -/

namespace OperandKind

variable {kind : OperandKind}

/-- The types of conditions that passes over an operand write. -/
def types (kind : OperandKind) : List String :=
  kind.order ++ [Condition.ready, Condition.createOnlyMode]

/-- Conditions that passes over an operand of a kind write one after the other, from none at all. A
pass may find a resource with any of them, with any specification, at any server. -/
inductive Reached (kind : OperandKind) : List Condition → Prop
  | none : Reached kind []
  | pass {τ : Type} (server : Request → τ → Reply × τ) (scene : Scene) (ledger : Ledger) (s : τ)
      {o : Operand kind.Spec} (named : o.metadata.anyName = singletonName)
      (before : Reached kind o.conditions) : Reached kind (o.ending server scene ledger s)

end OperandKind

/-- Tidy conditions are so behind a pass as well. -/
theorem Operand.tidy_ending {kind : OperandKind} {o : Operand kind.Spec}
    (tidy : Condition.AreTidy kind.types o.conditions) (scene : Scene) (ledger : Ledger) (s : τ) :
    Condition.AreTidy kind.types (o.ending server scene ledger s) := by
  have closes (outcome : Except Fault Readiness) :
      ∀ n ∈ Recorder.closing outcome scene.settings.createOnly, n.type ∈ kind.types := by
    refine List.forall_mem_map.1 ?_
    rw [Recorder.types_closing]
    exact fun type closing => List.mem_append_right _ closing
  have written {notes : List Note} (known : ∀ n ∈ notes, n.type ∈ kind.types) :
      Condition.AreTidy kind.types (o.recorded scene.now notes).conditions :=
    .write scene.now known (r := .start o.conditions o.metadata.generation) tidy
  rcases refused_or_takes server scene.settings scene.now o s with
    ⟨fault, t, goes⟩ | ⟨spec, s₀, course, t, -, takes, goes⟩
  · rw [ending_eq goes.told, List.nil_append]
    exact written (closes _)
  · obtain ⟨later, order⟩ := takes.reached_append (kind.follows server scene spec o)
    rw [ending_eq goes.told]
    refine written (List.forall_mem_append.2 ⟨List.forall_mem_map.1 ?_, closes _⟩)
    rw [Course.types_notes]
    intro type reached
    exact List.mem_append_left _ (order ▸ List.mem_append_left later reached)

theorem OperandKind.Reached.tidy {kind : OperandKind} {conditions : List Condition}
    (h : kind.Reached conditions) : Condition.AreTidy kind.types conditions := by
  induction h with
  | none => exact ⟨List.nodup_nil, List.forall_mem_nil _⟩
  | pass server scene ledger s named before ih => exact Operand.tidy_ending ih scene ledger s

/-! ## Steps that an operand does without -/

/-- The conditions of the steps that an operand does without: the discovery provider may have no
route. -/
def OperandKind.omitted : (kind : OperandKind) → kind.Spec → List String
  | .discovery, spec => if DiscoverySpec.managedRoute spec then [] else ["RouteAvailable"]
  | _, _ => []

section
variable {scene : Scene} {manager : ManagerSpec} {steps : List Step} {s t : τ}

theorem DiscoveryManifest.managedRoute_of_route {site : Site DiscoverySpec}
    (idle : route site = .ok none) : site.spec.managedRoute = false := by
  unfold route at idle
  cases managed : site.spec.managedRoute with
  | false => rfl
  | true =>
    rw [managed] at idle
    obtain ⟨_, -, made⟩ := exists_of_bind_ok idle
    cases made

/-- A step has no object only if the operand does without it. -/
theorem OperandKind.mem_omitted (kind : OperandKind) {o : Operand kind.Spec}
    (planned : run server (OperandPass.steps scene manager o).run s = (.ok steps, t)) :
    ∀ step ∈ steps, step.wanted = .ok none → step.condition ∈ kind.omitted o.spec := by
  cases kind with
  | server =>
    obtain ⟨site, -, rfl⟩ := OperandPass.exists_site (fun _ _ _ => rfl) planned
    simp [ServerSpec.stepsAt, Step.of]
  | agent =>
    obtain ⟨site, -, rfl⟩ := OperandPass.exists_site (fun _ _ _ => rfl) planned
    simp [AgentSpec.stepsAt, Step.of]
  | driver =>
    obtain ⟨site, -, rfl⟩ := OperandPass.exists_site (fun _ _ _ => rfl) planned
    simp [DriverSpec.stepsAt, Step.of]
  | discovery =>
    obtain ⟨site, plugin, config, placed, rfl⟩ := DiscoverySpec.exists_site planned
    have identity : (DiscoveryManifest.identity site).map
        (fun o => some (Wanted.clusterIdentity o)) ≠ .ok none := by
      cases DiscoveryManifest.identity site <;> simp [Except.map]
    have route (idle : (DiscoveryManifest.route site).map
        (·.map (Wanted.route site.settings.operandNamespace)) = .ok none) :
        "RouteAvailable" ∈ omitted .discovery o.spec := by
      have unmanaged : site.spec.managedRoute = false := by
        refine DiscoveryManifest.managedRoute_of_route ?_
        rcases made : DiscoveryManifest.route site with _ | _ | r
        · rw [made] at idle
          cases idle
        · rfl
        · rw [made] at idle
          cases idle
      rw [(Site.of_ofOperand placed).1] at unmanaged
      simp [omitted, unmanaged]
    simpa [DiscoverySpec.stepsAt, Step.of, identity] using route

end

/-! ## Beside a true Ready -/

namespace Operand

variable {σ : Type} [OperandPass σ] {settings : Settings} {plan : Attempt (List Step)} {s t : τ}
  {course : Course}

/-- A pass that ends without a fault has applied the objects of all steps that have one. -/
theorem Takes.applied_or_idle (h : Takes σ server settings plan s course t) {readiness : Readiness}
    (ended : course.outcome = .ok readiness) : course.refused = none ∧
    ∃ steps u, run server plan.run s = (.ok steps, u) ∧ ∀ step ∈ steps,
      (∃ a ∈ course.applied, a.condition = step.condition) ∨ step.wanted = .ok none := by
  cases h with
  | unplanned planned => cases ended
  | unmade planned taken flawed => cases ended
  | refused planned taken made failed => cases ended
  | @observed before idle applied asked result u v _ planned none taken looked =>
    refine ⟨rfl, before ++ idle, u, planned, fun step hstep => ?_⟩
    rcases List.mem_append.1 hstep with busy | idle
    · refine .inl (List.mem_map.1 ?_)
      rw [taken.conditions]
      exact List.mem_map_of_mem busy
    · exact .inr (none step idle)

end Operand

/-- A pass that has applied all its objects notes nothing else of any object. -/
theorem Course.isTrue_of_noted {course : Course} (unrefused : course.refused = none)
    (outcome : Except Fault Readiness) (createOnly : Bool) :
    ∀ n ∈ course.notes ++ Recorder.closing outcome createOnly,
      n.type.endsWith "Available" = true → n.status = .isTrue := by
  intro n hn onObject
  rcases List.mem_append.1 hn with applied | closing
  · rw [Course.notes, unrefused, Option.map_none, Option.toList_none, List.append_nil] at applied
    obtain ⟨a, -, rfl⟩ := List.mem_map.1 applied
    rfl
  · have type := List.mem_map_of_mem (f := (·.type)) closing
    rw [Recorder.types_closing] at type
    have ends : "Available".toList <:+ n.type.toList := by
      simpa [← String.endsWith_toSlice] using onObject
    have whole : ∀ t ∈ [Condition.ready, Condition.createOnlyMode],
        ¬ "Available".toList <:+ t.toList := by decide
    exact absurd ends (whole _ type)

namespace Operand

variable {kind : OperandKind} {scene : Scene} {o : Operand kind.Spec} {s : τ} {ledger : Ledger}

/-- A pass that ends with a true `Ready` ends without a fault. -/
theorem ended_of_ready {t : τ} {outcome : Except Fault Readiness} {notes : List Note}
    (told : Pass.Tells server (fun now => drive ⟨scene.settings, now⟩ o) s outcome notes t)
    (once : ((notes ++ Recorder.closing outcome scene.settings.createOnly).map (·.type)).Nodup)
    (ready : Condition.holds Condition.ready (o.ending server scene ledger s) = true) :
    ∃ readiness, outcome = .ok readiness := by
  rw [ending_eq told scene.now ledger] at ready
  cases outcome with
  | ok readiness => exact ⟨readiness, rfl⟩
  | error fault =>
    have said : Condition.Says (o.recorded scene.now (notes ++ Recorder.closing (.error fault)
        scene.settings.createOnly)).conditions o.metadata.generation
        ⟨Condition.ready, .isFalse, fault.reason, fault.message⟩ :=
      Recorder.says_write once (List.mem_append_right _ List.mem_cons_self)
    cases said.holds_eq.symm.trans ready

/-- A pass that ends with a true `Ready` has written a true condition on every object, except on
those that the operand does without. -/
theorem written_of_ready
    (ready : Condition.holds Condition.ready (o.ending server scene ledger s) = true) :
    ∃ notes, (notes.map (·.type)).Nodup ∧
      o.ending server scene ledger s = (o.recorded scene.now notes).conditions ∧
      (∀ n ∈ notes, n.type.endsWith "Available" = true → n.status = .isTrue) ∧
      ∀ type ∈ kind.types, type ∈ notes.map (·.type) ∨ type ∈ kind.omitted o.spec := by
  rcases refused_or_takes server scene.settings scene.now o s with
    ⟨fault, t, goes⟩ | ⟨spec, s₀, course, t, -, takes, goes⟩
  · obtain ⟨readiness, ended⟩ := ended_of_ready goes.told (Recorder.once_closing (.error fault) _)
      ready
    cases ended
  · have follows := kind.follows server scene spec o
    obtain ⟨later, order⟩ := takes.reached_append follows
    have once := Course.once_notes order course.outcome scene.settings.createOnly
    obtain ⟨readiness, ended⟩ := ended_of_ready goes.told once ready
    obtain ⟨unrefused, steps, u, planned, taken⟩ := takes.applied_or_idle ended
    refine ⟨course.notes ++ Recorder.closing course.outcome scene.settings.createOnly, once,
      ending_eq goes.told scene.now ledger, Course.isTrue_of_noted unrefused _ _,
      fun type known => ?_⟩
    rw [List.map_append, Course.types_notes, Recorder.types_closing]
    rcases List.mem_append.1 known with inOrder | closing
    · rw [← (follows _ _ _ planned).1] at inOrder
      obtain ⟨step, hstep, rfl⟩ := List.mem_map.1 inOrder
      rcases taken step hstep with ⟨a, ha, same⟩ | idle
      · refine .inl (List.mem_append_left _ (List.mem_append_left _ ?_))
        exact same ▸ List.mem_map_of_mem ha
      · exact .inr (kind.mem_omitted planned step hstep idle)
    · exact .inl (List.mem_append_right _ closing)

end Operand

/-! ## A route that is given up -/

theorem Operand.check_of_flaw? {σ : Type} [OperandPass σ] {o : Operand σ}
    (h : OperandSpec.flaw? o.spec = none) : check o = .ok () := by
  unfold check
  rw [h]

theorem Issuer.flaw?_letter : flaw? "https://x" = none := by
  unfold flaw?
  rw [Url.parse_letter]
  rfl

theorem DiscoverySpec.run_steps {scene : Scene} {m : ManagerSpec} {o : Operand DiscoverySpec}
    {site : Site DiscoverySpec} {driver : Option (Operand DriverSpec)} {config : Json} {s t : τ}
    (fetched : run server (Call.attempt (Api.find? (.operands .driver) singletonName
      (Operand.read? : Json → Option (Operand DriverSpec)))).run s = (.ok driver, t))
    (placed : Site.ofOperand o m scene.settings = .ok site)
    (configured : DiscoveryManifest.config site = .ok config) :
    run server (OperandPass.steps scene m o).run s =
      (.ok (stepsAt site (pluginName driver) config), t) := by
  refine (Attempt.run_bind_of_ok fetched).trans (congrArg (·, t) ?_)
  rw [placed]
  change (DiscoveryManifest.config site >>= _) = _
  rw [configured]
  rfl

/-- In create-only mode an object that is there is skipped. -/
theorem Wanted.run_attempt_of_live {w : Wanted} {name path : String} {live : w.kind.Object} {s : τ}
    (named : w.metadata.name = some name)
    (found : Address.path? (Api.targetOf w.collection name) = some path)
    (read : readLive w.kind.Object (server { method := .get, path } s).1 = .ok live) :
    run server (w.attempt true).run s = (.ok .skipped, (server { method := .get, path } s).2) := by
  unfold attempt
  rw [run_apply named found, read]
  rfl

/-- An object that cannot be fetched is not applied. -/
theorem Wanted.run_attempt_of_fault {w : Wanted} {name path : String} {fault : ApiFault} {s : τ}
    (named : w.metadata.name = some name)
    (found : Address.path? (Api.targetOf w.collection name) = some path)
    (read : readLive w.kind.Object (server { method := .get, path } s).1 = .error fault)
    (other : Api.isNotFound fault = false) (createOnly : Bool) :
    run server (w.attempt createOnly).run s =
      (.error (.api fault), (server { method := .get, path } s).2) := by
  unfold attempt
  rw [run_apply named found, read]
  simp [other]

theorem Operand.run_workload {σ : Type} [OperandPass σ] {settings : Settings} {path : String}
    {live : Workload (OperandPass.workload σ)} {s : τ}
    (found : Address.path? (Api.targetOf
      (.workloads (OperandPass.workload σ) settings.operandNamespace)
      (OperandSpec.kind σ).objectName) = some path)
    (read : readLive (Workload (OperandPass.workload σ))
      (server { method := .get, path } s).1 = .ok live) :
    run server (workload σ settings).run s = (.ok live, (server { method := .get, path } s).2) := by
  unfold workload Api.get
  rw [Call.run_attempt, Api.run_send found]
  unfold readLive at read
  rw [read]
  rfl

theorem Course.note_mem_of_refused {course : Course} {r : Refused} (h : course.refused = some r) :
    r.note ∈ course.notes := by
  unfold notes
  rw [h]
  exact List.mem_append_right _ (List.mem_singleton_self _)

theorem Condition.Says.exists_mem {conditions : List Condition} {generation : Option Int}
    {n : Note} (h : Says conditions generation n) :
    ∃ c ∈ conditions, c.type = n.type ∧ c.status = n.status := by
  obtain ⟨c, found, status, -⟩ := h
  exact ⟨c, List.mem_of_find?_eq_some found,
    of_decide_eq_true (List.find?_some (p := fun c : Condition => c.type = n.type) found), status⟩

/-- What a pass that takes a course says, and what it leaves alone. -/
theorem Operand.Takes.ending {kind : OperandKind} {scene : Scene} {o : Operand kind.Spec}
    {spec : ManagerSpec} {s s₀ t : τ} {course : Course}
    (takes : Takes kind.Spec server scene.settings (OperandPass.steps scene spec o) s₀ course t)
    (approved : run server (approve o).run s = (.ok spec, s₀)) (ledger : Ledger) :
    (∀ n ∈ course.notes ++ Recorder.closing course.outcome scene.settings.createOnly,
      Condition.Says (o.ending server scene ledger s) o.metadata.generation n) ∧
    ∀ type ∉ course.reached, type ≠ Condition.ready → type ≠ Condition.createOnlyMode →
      Condition.InPlace type o.conditions (o.ending server scene ledger s) := by
  obtain ⟨later, order⟩ := takes.reached_append (kind.follows server scene spec o)
  have whole := ending_eq (goes_drive approved takes).told scene.now ledger
  have whole : o.ending server scene ledger s = _ := whole
  rw [whole]
  refine ⟨fun n hn => Recorder.says_write (Course.once_notes order _ _) hn,
    fun type unreached notReady notMode => Recorder.inPlace_write ?_⟩
  rw [List.map_append, Course.types_notes, Recorder.types_closing]
  simp [unreached, notReady, notMode]

namespace BrokenRoute

-- In create-only mode all objects of a discovery provider are there but the route, whose fetch
-- breaks off. So its user does without a route.

def manager : ManagerSpec := ⟨"example.org", "cluster", "spire-bundle"⟩

def managerJson : Json := .obj [("metadata", .obj []), ("spec", manager.toJson)]

/-- An object of any kind; as a deployment it is ready. -/
def present : Json :=
  .obj [("metadata", .obj []), ("spec", .obj []), ("status", .obj [("readyReplicas", .int 1)])]

def routeTarget : String := Api.targetOf (.routes "spire") DiscoveryManifest.routeName

def workloadTarget : String := Api.targetOf (.deployments "spire") DiscoveryManifest.name

def answer (r : Request) (_ : Unit) : Reply × Unit :=
  (if r.path = CustomKind.manager.path then .answer 200 (.value managerJson)
    else if r.path = routeTarget then .dropped
    else .answer 200 (.value present), ())

def scene : Scene := ⟨{ operandNamespace := "spire", createOnly := true }, "2026-01-01T00:00:00Z"⟩

def operand (managedRoute : Bool) (conditions : List Condition) :
    Operand OperandKind.discovery.Spec where
  metadata := { name := some singletonName, uid := some "42" }
  spec := ({ jwtIssuer := "https://x", managedRoute } : DiscoverySpec)
  status := some { conditions }

def site (managedRoute : Bool) : Site DiscoverySpec where
  frame := {
    namespaceName := "spire"
    labels := Label.standard (OperandKind.objectName .discovery)
      (OperandKind.component .discovery) ∅
    owner := { apiVersion := customApiVersion, kind := OperandKind.kindName .discovery,
               name := singletonName, uid := "42", controller := some true,
               blockOwnerDeletion := none } }
  spec := (operand managedRoute []).spec
  manager
  settings := scene.settings

section
variable (managedRoute : Bool) (conditions : List Condition)

theorem sound : Operand.check (operand managedRoute conditions) = .ok () := by
  have flaw : DiscoverySpec.flaw? (operand managedRoute conditions).spec = none := by
    unfold DiscoverySpec.flaw? operand
    dsimp only
    rw [Issuer.flaw?_letter]
    decide +kernel
  exact Operand.check_of_flaw? flaw

theorem conditions_operand : (operand managedRoute conditions).conditions = conditions := rfl

theorem approved : run answer (Operand.approve (operand managedRoute conditions)).run () =
    (.ok manager, ()) := by
  have read : Manager.read? managerJson = some ⟨{}, manager, none⟩ := by decide +kernel
  have reply : (answer { method := .get, path := CustomKind.manager.path } ()).1 =
      .answer 200 (.value managerJson) := by decide +kernel
  have fetched : run answer
      (Call.attempt (Api.find? .managers singletonName Manager.read?)).run () =
      (.ok (some ⟨{}, manager, none⟩), ()) := by
    refine (CustomKind.run_find? .manager Manager.read? ()).trans ?_
    rw [reply, Api.readReply_value, read]
    rfl
  exact Operand.run_approve fetched rfl (sound managedRoute conditions)

theorem planned : ∃ plugin config,
    run answer (OperandPass.steps scene manager (operand managedRoute conditions)).run () =
      (.ok (DiscoverySpec.stepsAt (site managedRoute) plugin config), ()) := by
  have read : (Operand.read? present : Option (Operand DriverSpec)) = some ⟨{}, {}, some {}⟩ := by
    decide +kernel
  have reply : (answer { method := .get, path := CustomKind.path (.operand .driver) } ()).1 =
      .answer 200 (.value present) := by decide +kernel
  have fetched : run answer (Call.attempt (Api.find? (.operands .driver) singletonName
      (Operand.read? : Json → Option (Operand DriverSpec)))).run () =
        (.ok (some ⟨{}, {}, some {}⟩), ()) := by
    refine (CustomKind.run_find? (.operand .driver) _ ()).trans ?_
    rw [reply, Api.readReply_value, read]
    rfl
  have placed : Site.ofOperand (operand managedRoute conditions) manager scene.settings =
      .ok (site managedRoute) := rfl
  obtain ⟨config, configured⟩ :
      ∃ config, DiscoveryManifest.config (site managedRoute) = .ok config := by
    unfold DiscoveryManifest.config
    change ∃ config, (DiscoveryManifest.issuerHost "https://x" >>= _) = _
    rw [DiscoveryManifest.issuerHost_letter]
    exact ⟨_, rfl⟩
  exact ⟨_, config, DiscoverySpec.run_steps fetched placed configured⟩

theorem skips {w : Wanted} (c : Collection) (name : String) (within : w.collection = c)
    (named : w.metadata.name = some name) (plain : Address.IsPlain (Api.targetOf c name))
    (away : Api.targetOf c name ≠ CustomKind.manager.path ∧ Api.targetOf c name ≠ routeTarget)
    (readable : (Managed.read? present : Option w.kind.Object).isSome = true) :
    run answer (w.attempt true).run () = (.ok .skipped, ()) := by
  subst within
  obtain ⟨live, read⟩ := Option.isSome_iff_exists.1 readable
  have reply : (answer { method := .get, path := Api.targetOf w.collection name } ()).1 =
      .answer 200 (.value present) := (if_neg away.1).trans (if_neg away.2)
  have fetched : readLive w.kind.Object
      (answer { method := .get, path := Api.targetOf w.collection name } ()).1 = .ok live := by
    rw [reply]
    exact (Api.readReply_value _ _).trans (by rw [read])
  exact Wanted.run_attempt_of_live named (Address.path?_of_isPlain plain) fetched

/-- All steps but that of the route are taken. -/
theorem completed (plugin : String) (config : Json) : ∃ before applied asked,
    "RouteAvailable" ∉ before.map (·.condition) ∧
    DiscoverySpec.stepsAt (site managedRoute) plugin config = before ++ [⟨"RouteAvailable",
      (DiscoveryManifest.route (site managedRoute)).map (·.map (Wanted.route "spire"))⟩] ∧
    Step.Completed answer true before () applied asked () := by
  obtain ⟨i, identified, named⟩ : ∃ i, DiscoveryManifest.identity (site managedRoute) = .ok i ∧
      i.metadata.name = some DiscoveryManifest.identityName := by
    unfold DiscoveryManifest.identity
    change ∃ i, (SpiffeId.forServiceAccount manager.trustDomain "spire" DiscoveryManifest.name >>=
      fun id => DiscoveryManifest.issuerHost "https://x" >>= _) = _ ∧ _
    rw [DiscoveryManifest.issuerHost_letter]
    exact ⟨_, rfl, rfl⟩
  have made : (DiscoveryManifest.identity (site managedRoute)).map
      (fun o => some (Wanted.clusterIdentity o)) = .ok (some (.clusterIdentity i)) := by
    rw [identified]
    rfl
  refine ⟨_, _, _, ?_, rfl,
    .cons rfl (skips (.serviceAccounts "spire") DiscoveryManifest.name rfl rfl ?_ ?_ ?_) <|
    .cons rfl (skips (.services "spire") DiscoveryManifest.name rfl rfl ?_ ?_ ?_) <|
    .cons made (skips (w := .clusterIdentity i) .clusterIdentities DiscoveryManifest.identityName
      rfl named ?_ ?_ ?_) <|
    .cons rfl (skips (.configMaps "spire") DiscoveryManifest.name rfl rfl ?_ ?_ ?_) <|
    .cons rfl (skips (.deployments "spire") DiscoveryManifest.name rfl rfl ?_ ?_ ?_) <| .nil ()⟩
  case refine_4 =>
    exact (by decide +kernel : (Managed.read? present : Option ServiceAccount).isSome)
  case refine_7 => exact (by decide +kernel : (Managed.read? present : Option Service).isSome)
  case refine_10 => exact (by decide +kernel : (Managed.read? present : Option Untyped).isSome)
  case refine_13 => exact (by decide +kernel : (Managed.read? present : Option ConfigMap).isSome)
  case refine_16 => exact (by decide +kernel : (Managed.read? present : Option Deployment).isSome)
  case refine_1 => simp [Step.of]
  all_goals decide +kernel

end

/-- What is told when the route cannot be fetched. -/
def failed : List Condition := (operand true []).ending answer scene {} ()

/-- What is told when the operand does without it. -/
def healed : List Condition := (operand false failed).ending answer scene {} ()

theorem reached_failed :
    OperandKind.Reached .discovery (operand false failed).conditions := by
  rw [conditions_operand]
  exact .pass answer scene {} () (o := operand true []) rfl .none

/-- The route is told to be missing. -/
theorem mem_failed : ∃ c ∈ failed, c.type = "RouteAvailable" ∧ c.status = .isFalse := by
  obtain ⟨plugin, config, planned⟩ := planned true []
  obtain ⟨before, applied, asked, -, split, taken⟩ := completed true plugin config
  obtain ⟨r, routed, named⟩ : ∃ r, DiscoveryManifest.route (site true) = .ok (some r) ∧
      r.metadata.name = some DiscoveryManifest.routeName := by
    unfold DiscoveryManifest.route
    change ∃ r, (DiscoveryManifest.issuerHost "https://x" >>= _) = _ ∧ _
    rw [DiscoveryManifest.issuerHost_letter]
    exact ⟨_, rfl, rfl⟩
  have broken : run answer ((Wanted.route "spire" r).attempt scene.settings.createOnly).run () =
      (.error (.api (.connection "connection reset")), ()) := by
    have dropped : (answer { method := .get, path := routeTarget } ()).1 = .dropped := by
      decide +kernel
    have plain : Address.IsPlain routeTarget := by decide +kernel
    refine Wanted.run_attempt_of_fault (w := .route "spire" r) named
      (Address.path?_of_isPlain plain) ?_ rfl _
    change readLive Untyped (answer { method := .get, path := routeTarget } ()).1 = _
    rw [dropped]
    rfl
  rw [split, routed] at planned
  have takes := Operand.Takes.refused (σ := OperandKind.discovery.Spec) planned taken rfl broken
  have said := (takes.ending (approved true []) {}).1 _
    (List.mem_append_left _ (Course.note_mem_of_refused rfl))
  exact said.exists_mem

/-- Without a route, the operand is told to be ready, and the route to be missing. -/
theorem mem_healed : (∃ c ∈ healed, c.type = Condition.ready ∧ c.status = .isTrue) ∧
    ∃ c ∈ healed, c.type = "RouteAvailable" ∧ c.status = .isFalse := by
  obtain ⟨plugin, config, planned⟩ := planned false failed
  obtain ⟨before, applied, asked, unrouted, split, taken⟩ := completed false plugin config
  have present : ((Managed.read? present : Option Deployment).map fun live =>
      (Readiness.ofWorkload live).ready) = some true := by decide +kernel
  obtain ⟨live, read, ready⟩ := Option.map_eq_some_iff.1 present
  have looked : run answer (Operand.workload OperandKind.discovery.Spec scene.settings).run () =
      (.ok live, ()) := by
    have plain : Address.IsPlain workloadTarget := by decide +kernel
    have reply : (answer { method := .get, path := workloadTarget } ()).1 =
        .answer 200 (.value BrokenRoute.present) := by decide +kernel
    refine Operand.run_workload (Address.path?_of_isPlain plain) ?_
    change readLive Deployment (answer { method := .get, path := workloadTarget } ()).1 = _
    rw [reply]
    exact (Api.readReply_value _ _).trans (by rw [read])
  rw [split] at planned
  have takes := Operand.Takes.observed (σ := OperandKind.discovery.Spec) planned
    (List.forall_mem_singleton.2 rfl) taken looked
  obtain ⟨said, kept⟩ := takes.ending (approved false failed) {}
  constructor
  · let told : Note :=
      ⟨Condition.ready, .isTrue, Condition.Reason.ready, (Readiness.ofWorkload live).message⟩
    have closing : told ∈
        Recorder.closing (.ok (Readiness.ofWorkload live)) scene.settings.createOnly := by
      simp [told, Recorder.closing, ready]
    exact (said _ (List.mem_append_right _ closing)).exists_mem
  · obtain ⟨c, hc, type, status⟩ := mem_failed
    obtain ⟨i, here⟩ := List.mem_iff_getElem?.1 hc
    have kept := kept "RouteAvailable" (by
      change "RouteAvailable" ∉ applied.map (·.condition) ++ []
      rwa [List.append_nil, taken.conditions]) (by decide) (by decide)
    rw [conditions_operand] at kept
    exact ⟨c, List.mem_of_getElem? ((kept i c type).2 here), type, status⟩

theorem isOnObject : "RouteAvailable".endsWith "Available" = true := by
  have ends : "Available".toList <:+ "RouteAvailable".toList := by decide
  simpa [← String.endsWith_toSlice] using ends

end BrokenRoute

/-! ## The main results -/

/-- **Beside a true `Ready`, only leftovers are unavailable.** In whatever way passes over an
operand have followed each other, with whatever specifications and at whatever servers: if a pass
writes that the operand is ready, then every condition it writes on an object is true, except on an
object that the operand does without. Such a condition has not been written by this pass: it stays
where and as it has been before. -/
theorem ready_beside_leftovers (kind : OperandKind) (server : Request → τ → Reply × τ)
    (scene : Scene) (elapsed : Nat) (ledger : Ledger) (s : τ) {o : Operand kind.Spec}
    (named : o.metadata.anyName = singletonName) (reached : kind.Reached o.conditions) :
    let final := o.ending server scene ledger s
    (∀ r ∈ sent server (o.look scene elapsed ledger) s, r.method = .patch →
      r = Operand.statusRequest kind.Spec final) ∧
    ((∃ c ∈ final, c.type = Condition.ready ∧ c.status = .isTrue) →
      ∀ c ∈ final, c.type.endsWith "Available" = true → c.status ≠ .isTrue →
        c.type ∈ kind.omitted o.spec ∧ Condition.InPlace c.type o.conditions final ∧
        c ∈ o.conditions) := by
  intro final
  have tidy : Condition.AreTidy kind.types final :=
    Operand.tidy_ending reached.tidy scene ledger s
  refine ⟨fun r hr patch => ?_, fun ⟨first, hfirst, type, holds⟩ c hc onObject untrue => ?_⟩
  · have mem : r ∈ (sent server (o.look scene elapsed ledger) s).filter (·.method = .patch) :=
      List.mem_filter.2 ⟨hr, decide_eq_true patch⟩
    rw [Operand.patches_look named scene elapsed ledger s] at mem
    split at mem
    · cases mem
    · exact List.mem_singleton.1 mem
  · have ready : Condition.holds Condition.ready final = true := by
      rw [Condition.holds, ← type, tidy.find?_eq_some hfirst, Option.any_some]
      exact decide_eq_true holds
    obtain ⟨notes, once, whole, isTrue, written⟩ := Operand.written_of_ready ready
    have whole : final = (o.recorded scene.now notes).conditions := whole
    have notNoted : c.type ∉ notes.map (·.type) := by
      intro noted
      obtain ⟨n, hn, same⟩ := List.mem_map.1 noted
      have said : Condition.Says (o.recorded scene.now notes).conditions o.metadata.generation n :=
        Recorder.says_write once hn
      obtain ⟨d, found, status, -⟩ := said
      rw [← whole, same, tidy.find?_eq_some hc] at found
      cases found
      exact untrue (status.trans (isTrue n hn (same ▸ onObject)))
    have kept : Condition.InPlace c.type o.conditions final := by
      rw [whole]
      exact Recorder.inPlace_write notNoted
    obtain ⟨i, here⟩ := List.mem_iff_getElem?.1 hc
    exact ⟨(written _ (tidy.known c hc)).resolve_left notNoted, kept,
      List.mem_of_getElem? ((kept i c rfl).1 here)⟩

/-- A discovery provider that does without its route is told to be ready, and what has been told of
the route is left over. -/
theorem ready_beside_leftovers_route :
    (BrokenRoute.operand false BrokenRoute.failed).metadata.anyName = singletonName ∧
    OperandKind.Reached .discovery (BrokenRoute.operand false BrokenRoute.failed).conditions ∧
    ∃ c ∈ BrokenRoute.healed, c.type = "RouteAvailable" ∧ c.status ≠ .isTrue ∧
      c.type ∈ OperandKind.omitted .discovery (BrokenRoute.operand false BrokenRoute.failed).spec ∧
      c ∈ BrokenRoute.failed := by
  have reached := BrokenRoute.reached_failed
  obtain ⟨ready, c, hc, type, status⟩ := BrokenRoute.mem_healed
  have onObject : c.type.endsWith "Available" = true := type ▸ BrokenRoute.isOnObject
  have untrue : c.status ≠ .isTrue := by simp [status]
  obtain ⟨omitted, -, leftover⟩ := (ready_beside_leftovers .discovery BrokenRoute.answer
    BrokenRoute.scene 0 {} () (o := BrokenRoute.operand false BrokenRoute.failed) rfl reached).2
    ready c hc onObject untrue
  rw [BrokenRoute.conditions_operand] at leftover
  exact ⟨rfl, reached, c, hc, type, untrue, omitted, leftover⟩

/-- So a true `Ready` may stand beside an object that is told to have failed. -/
theorem unavailable_beside_ready :
    ¬ ∀ (kind : OperandKind) (conditions : List Condition), kind.Reached conditions →
      (∃ c ∈ conditions, c.type = Condition.ready ∧ c.status = .isTrue) →
        ∀ c ∈ conditions, c.type.endsWith "Available" = true → c.status ≠ .isFalse := by
  intro always
  have reached : OperandKind.Reached .discovery BrokenRoute.healed :=
    .pass BrokenRoute.answer BrokenRoute.scene {} ()
      (o := BrokenRoute.operand false BrokenRoute.failed) rfl BrokenRoute.reached_failed
  obtain ⟨ready, c, hc, type, status⟩ := BrokenRoute.mem_healed
  have onObject : c.type.endsWith "Available" = true := type ▸ BrokenRoute.isOnObject
  exact always .discovery _ reached ready c hc onObject status

end WorkloadIdentity

import Mathlib.Control.Monad.Basic
import WorkloadIdentity.Proofs.Quiescence
import WorkloadIdentity.Proofs.Sending

/-!
# The course of a pass

A pass over an operand takes the steps of the operand one after the other, and the first one that
fails ends it. What the conditions say afterwards is how far it has come.

* `Operand.approve` is the part of a pass before anything is made for the operand, and
  `Operand.pursue` the part after that.
* `Step.Completed` says that steps have been taken, and `Operand.Takes` which course the rest of a
  pass takes: what it applies, what it asks for, and how it ends.
* `OperandKind.order` lists the steps of each operand.
* `pass_stops_where_it_fails`: a pass takes such a course, and the conditions tell it.
-/

namespace WorkloadIdentity

open Exchange

variable {τ : Type} {server : Request → τ → Reply × τ}

/-! ## Steps -/

/-- An object that has been applied, the condition that tells so, and what became of the object. -/
structure Applied where
  condition : String
  wanted : Wanted
  outcome : Outcome

namespace Applied

def message (a : Applied) : String :=
  a.wanted.kindName ++ " " ++ a.wanted.metadata.name.getD "" ++ " " ++ a.outcome.text

def note (a : Applied) : Note := ⟨a.condition, .isTrue, a.outcome.reason, a.message⟩

end Applied

/-- An object that could not be applied, the condition that tells so, and why. -/
structure Refused where
  condition : String
  wanted : Wanted
  fault : Fault

namespace Refused

def message (r : Refused) : String :=
  r.wanted.kindName ++ " " ++ r.wanted.metadata.name.getD "" ++ ": " ++ r.fault.message

def note (r : Refused) : Note := ⟨r.condition, .isFalse, r.fault.reason, r.message⟩

end Refused

namespace Step

variable {settings : Settings} {before rest idle : List Step} {s t u : τ}
  {applied : List Applied} {asked asked' : List Request} {createOnly : Bool}

/-- Steps have been taken one after the other: the object of each has been applied, by the requests
that were asked. -/
inductive Completed (server : Request → τ → Reply × τ) (createOnly : Bool) :
    List Step → τ → List Applied → List Request → τ → Prop
  | nil (s : τ) : Completed server createOnly [] s [] [] s
  | cons {step : Step} {rest : List Step} {w : Wanted} {outcome : Outcome} {s t u : τ}
      {applied : List Applied} {asked : List Request}
      (made : step.wanted = .ok (some w))
      (ran : Exchange.run server (w.attempt createOnly).run s = (.ok outcome, t))
      (later : Completed server createOnly rest t applied asked u) :
      Completed server createOnly (step :: rest) s (⟨step.condition, w, outcome⟩ :: applied)
        (sent server (w.attempt createOnly).run s ++ asked) u

theorem Completed.conditions (h : Completed server createOnly before s applied asked t) :
    applied.map (·.condition) = before.map (·.condition) := by
  induction h with
  | nil s => rfl
  | cons made ran later ih => rw [List.map_cons, List.map_cons, ih]

/-- Behind steps that have been taken, the later ones go on. -/
theorem Completed.goes {result : Except Fault Unit} {notes : List Note}
    (h : Completed server settings.createOnly before s applied asked t)
    (later : Pass.Goes server (fun now => runAll ⟨settings, now⟩ rest) t result notes asked' u) :
    Pass.Goes server (fun now => runAll ⟨settings, now⟩ (before ++ rest)) s result
      (applied.map Applied.note ++ notes) (asked ++ asked') u := by
  induction h with
  | nil s => exact later
  | cons made ran _ ih =>
    rw [List.append_assoc]
    exact (goes_run_of_some made ran).bind (ih later)

/-- Steps without an object do nothing. -/
theorem goes_idle (none : ∀ step ∈ idle, step.wanted = .ok none) (s : τ) :
    Pass.Goes server (fun now => runAll ⟨settings, now⟩ idle) s (.ok ()) [] [] s := by
  induction idle with
  | nil => exact Pass.goes_pure () s
  | cons step rest ih =>
    obtain ⟨here, later⟩ := List.forall_mem_cons.1 none
    exact (goes_run_of_none here s).bind (ih later)

/-- A step whose object cannot be made ends the pass. -/
theorem goes_unmade {step : Step} {fault : Fault} (flawed : step.wanted = .error fault)
    (after : List Step) (s : τ) :
    Pass.Goes server (fun now => runAll ⟨settings, now⟩ (step :: after)) s (.error fault) [] [] s :=
  (goes_run_of_error flawed s).bind_of_error

/-- A step whose object cannot be applied ends the pass. -/
theorem goes_refused {step : Step} {w : Wanted} {fault : Fault}
    (made : step.wanted = .ok (some w))
    (ran : Exchange.run server (w.attempt settings.createOnly).run s = (.error fault, t))
    (after : List Step) :
    Pass.Goes server (fun now => runAll ⟨settings, now⟩ (step :: after)) s (.error fault)
      [w.note step.condition (.error fault)] (sent server (w.attempt settings.createOnly).run s)
      t :=
  (goes_run_of_some made ran).bind_of_error

variable (server) in
/-- Either all steps with objects can be taken, or there is a first one that cannot. -/
theorem completed_or_stops (createOnly : Bool) (busy : ∀ step ∈ before, step.wanted ≠ .ok none)
    (s : τ) :
    (∃ applied asked t, Completed server createOnly before s applied asked t) ∨
    ∃ first step after applied asked t fault, before = first ++ step :: after ∧
      Completed server createOnly first s applied asked t ∧
      (step.wanted = .error fault ∨ ∃ w u, step.wanted = .ok (some w) ∧
        Exchange.run server (w.attempt createOnly).run t = (.error fault, u)) := by
  induction before generalizing s with
  | nil => exact .inl ⟨[], [], s, .nil s⟩
  | cons step rest ih =>
    obtain ⟨here, later⟩ := List.forall_mem_cons.1 busy
    cases made : step.wanted with
    | error fault => exact .inr ⟨[], step, rest, [], [], s, fault, rfl, .nil s, .inl made⟩
    | ok wanted =>
      cases wanted with
      | none => exact absurd made here
      | some w =>
        cases ran : Exchange.run server (w.attempt createOnly).run s with
        | mk result t =>
          cases result with
          | error fault =>
            exact .inr ⟨[], step, rest, [], [], s, fault, rfl, .nil s, .inr ⟨w, t, made, ran⟩⟩
          | ok outcome =>
            rcases ih later t with ⟨applied, asked, u, taken⟩ |
              ⟨first, other, after, applied, asked, u, fault, rfl, taken, stopped⟩
            · exact .inl ⟨_, _, u, .cons made ran taken⟩
            · exact .inr ⟨step :: first, other, after, _, _, u, fault, rfl, .cons made ran taken,
                stopped⟩

end Step

/-! ## The rest of a pass -/

/-- What the rest of a pass does: the objects that it applies, the one that it could not apply, its
requests, and how it ends. -/
structure Course where
  applied : List Applied
  refused : Option Refused
  asked : List Request
  outcome : Except Fault Readiness

namespace Course

/-- The conditions of the objects that the pass has come to. -/
def reached (c : Course) : List String :=
  c.applied.map (·.condition) ++ (c.refused.map (·.condition)).toList

/-- What a pass notes on its course. -/
def notes (c : Course) : List Note :=
  c.applied.map Applied.note ++ (c.refused.map Refused.note).toList

theorem types_notes (c : Course) : c.notes.map (·.type) = c.reached := by
  obtain ⟨applied, refused, asked, outcome⟩ := c
  cases refused <;> simp [notes, reached, Applied.note, Refused.note, Function.comp_def]

end Course

namespace Operand

variable {σ : Type} [OperandPass σ] {settings : Settings} {plan : Attempt (List Step)} {s t : τ}
  {course : Course} {order : List String}

/-- The rest of a pass at `s` takes a course and ends at `t`. It plans its steps, takes them until
one fails, and looks at the workload if none does. -/
inductive Takes (σ : Type) [OperandPass σ] (server : Request → τ → Reply × τ)
    (settings : Settings) (plan : Attempt (List Step)) (s : τ) : Course → τ → Prop
  /-- The steps could not be planned. -/
  | unplanned {fault : Fault} {t : τ}
      (planned : run server plan.run s = (.error fault, t)) :
      Takes σ server settings plan s ⟨[], none, sent server plan.run s, .error fault⟩ t
  /-- The object of a step could not be made. -/
  | unmade {first after : List Step} {step : Step} {applied : List Applied}
      {asked : List Request} {fault : Fault} {t u : τ}
      (planned : run server plan.run s = (.ok (first ++ step :: after), t))
      (taken : Step.Completed server settings.createOnly first t applied asked u)
      (flawed : step.wanted = .error fault) :
      Takes σ server settings plan s
        ⟨applied, none, sent server plan.run s ++ asked, .error fault⟩ u
  /-- The object of a step could not be applied. -/
  | refused {first after : List Step} {step : Step} {w : Wanted} {applied : List Applied}
      {asked : List Request} {fault : Fault} {t u v : τ}
      (planned : run server plan.run s = (.ok (first ++ step :: after), t))
      (taken : Step.Completed server settings.createOnly first t applied asked u)
      (made : step.wanted = .ok (some w))
      (failed : run server (w.attempt settings.createOnly).run u = (.error fault, v)) :
      Takes σ server settings plan s
        ⟨applied, some ⟨step.condition, w, fault⟩, sent server plan.run s ++
          (asked ++ sent server (w.attempt settings.createOnly).run u), .error fault⟩ v
  /-- All steps with an object were taken, and the workload was looked at. -/
  | observed {before idle : List Step} {applied : List Applied} {asked : List Request}
      {result : Except Fault (Workload (OperandPass.workload σ))} {t u v : τ}
      (planned : run server plan.run s = (.ok (before ++ idle), t))
      (none : ∀ step ∈ idle, step.wanted = .ok none)
      (taken : Step.Completed server settings.createOnly before t applied asked u)
      (looked : run server (workload σ settings).run u = (result, v)) :
      Takes σ server settings plan s
        ⟨applied, .none, sent server plan.run s ++
          (asked ++ sent server (workload σ settings).run u), result.map Readiness.ofWorkload⟩ v

/-- The part of a pass that follows a plan. -/
def pursue (σ : Type) [OperandPass σ] (scene : Scene) (plan : Attempt (List Step)) :
    Pass Readiness := do
  let steps ← plan.pass
  Step.runAll scene steps
  observe σ scene.settings

/-- The workload is looked at by one attempt. -/
theorem goes_observe {result : Except Fault (Workload (OperandPass.workload σ))}
    (looked : run server (workload σ settings).run s = (result, t)) :
    Pass.Goes server (fun _ => observe σ settings) s (result.map Readiness.ofWorkload) []
      (sent server (workload σ settings).run s) t := by
  have goes := Pass.goes_attempt looked
  unfold observe
  cases result with
  | error fault => exact goes.bind_of_error
  | ok w =>
    have whole := goes.bind (f := fun _ w => pure (Readiness.ofWorkload w))
      (Pass.goes_pure (Readiness.ofWorkload w) t)
    rwa [List.append_nil, List.append_nil] at whole

/-- A pass does what its course says. -/
theorem Takes.goes (h : Takes σ server settings plan s course t) :
    Pass.Goes server (fun now => pursue σ ⟨settings, now⟩ plan) s course.outcome course.notes
      course.asked t := by
  unfold pursue
  cases h with
  | unplanned planned => exact (Pass.goes_attempt planned).bind_of_error
  | @unmade first after step applied asked fault u _ planned taken flawed =>
    have ran := taken.goes (Step.goes_unmade flawed after t)
    rw [List.append_nil asked] at ran
    exact (Pass.goes_attempt planned).bind ran.bind_of_error
  | @refused first after step w applied asked fault u v _ planned taken made failed =>
    have ran := taken.goes (Step.goes_refused made failed after)
    exact (Pass.goes_attempt planned).bind ran.bind_of_error
  | @observed before idle applied asked result u v _ planned none taken looked =>
    have ran := taken.goes (Step.goes_idle none v)
    rw [List.append_nil asked] at ran
    have later := ran.bind (f := fun _ _ => observe σ settings) (goes_observe looked)
    rw [List.append_nil (_ ++ _)] at later
    exact (Pass.goes_attempt planned).bind later

/-- A pass that could not apply an object fails as that did. -/
theorem Takes.outcome_of_refused {r : Refused} (h : Takes σ server settings plan s course t)
    (hr : r ∈ course.refused) : course.outcome = .error r.fault := by
  cases h with
  | unplanned planned => cases hr
  | unmade planned taken flawed => cases hr
  | refused planned taken made failed =>
    cases hr
    rfl
  | observed planned none taken looked => cases hr

/-- A plan follows an order: its steps tell of their objects by these conditions, one after the
other, and a step that has no object comes last. -/
def Follows (server : Request → τ → Reply × τ) (plan : Attempt (List Step)) (order : List String) :
    Prop :=
  ∀ s steps t, run server plan.run s = (.ok steps, t) → steps.map (·.condition) = order ∧
    ∃ before idle, steps = before ++ idle ∧ (∀ step ∈ before, step.wanted ≠ .ok none) ∧
      ∀ step ∈ idle, step.wanted = .ok none

variable (σ) in
/-- The rest of a pass takes some course. -/
theorem exists_takes (settings : Settings) (follows : Follows server plan order) (s : τ) :
    ∃ course t, Takes σ server settings plan s course t := by
  cases planned : run server plan.run s with
  | mk result t =>
    cases result with
    | error fault => exact ⟨_, t, .unplanned planned⟩
    | ok steps =>
      obtain ⟨-, before, idle, rfl, busy, none⟩ := follows s steps t planned
      rcases Step.completed_or_stops server settings.createOnly busy t with
        ⟨applied, asked, u, taken⟩ |
        ⟨first, step, after, applied, asked, u, fault, rfl, taken, flawed | ⟨w, v, made, failed⟩⟩
      · exact ⟨_, _, .observed planned none taken rfl⟩
      · rw [List.append_assoc, List.cons_append] at planned
        exact ⟨_, u, .unmade planned taken flawed⟩
      · rw [List.append_assoc, List.cons_append] at planned
        exact ⟨_, v, .refused planned taken made failed⟩

/-- A pass comes to the objects in their order. -/
theorem Takes.reached_append (h : Takes σ server settings plan s course t)
    (follows : Follows server plan order) : ∃ later, order = course.reached ++ later := by
  cases h with
  | unplanned planned => exact ⟨order, rfl⟩
  | @unmade first after step applied asked fault u _ planned taken flawed =>
    refine ⟨(step :: after).map (·.condition), ?_⟩
    rw [← (follows _ _ _ planned).1, List.map_append, ← taken.conditions]
    simp [Course.reached]
  | @refused first after step w applied asked fault u v _ planned taken made failed =>
    refine ⟨after.map (·.condition), ?_⟩
    rw [← (follows _ _ _ planned).1, List.map_append, ← taken.conditions]
    simp [Course.reached]
  | @observed before idle applied asked result u v _ planned none taken looked =>
    refine ⟨idle.map (·.condition), ?_⟩
    rw [← (follows _ _ _ planned).1, List.map_append, ← taken.conditions]
    simp [Course.reached]

/-! ## Before the rest -/

/-- The specification of the manager, which has to exist. -/
def specOf : Option Manager → Attempt ManagerSpec
  | some m => pure m.spec
  | none => throw (.managerNotFound singletonName)

/-- The part of a pass before anything is made for the operand: the manager has to exist, and what
the users wrote has to be sound. -/
def approve (o : Operand σ) : Attempt ManagerSpec := do
  let found ← Call.attempt (Api.find? .managers singletonName Manager.read?)
  let spec ← specOf found
  ExceptT.mk (pure (TrustDomain.check spec.trustDomain))
  ExceptT.mk (pure (check o))
  return spec

/-- A pass is approved if the manager is there and what the users wrote is sound. -/
theorem run_approve {m : Manager}
    (fetched : run server (Call.attempt (Api.find? .managers singletonName Manager.read?)).run s =
      (.ok (some m), t))
    (trusted : TrustDomain.check m.spec.trustDomain = .ok ()) {o : Operand σ}
    (sound : check o = .ok ()) : run server (approve o).run s = (.ok m.spec, t) := by
  have first : run server (ExceptT.mk (pure (TrustDomain.check m.spec.trustDomain))).run t =
      (.ok (), t) := congrArg (·, t) trusted
  have second : run server (ExceptT.mk (pure (check o))).run t = (.ok (), t) :=
    congrArg (·, t) sound
  unfold approve
  rw [Attempt.run_bind_of_ok fetched, Attempt.run_bind_of_ok (a := m.spec) (t := t) rfl,
    Attempt.run_bind_of_ok first, Attempt.run_bind_of_ok second]
  rfl

theorem manager_eq_pass : manager =
    (Call.attempt (Api.find? .managers singletonName Manager.read?)).pass >>= fun found =>
      (specOf found).pass := by
  unfold manager
  refine congrArg _ (funext fun found => ?_)
  cases found <;> rfl

/-- A pass consists of what comes before and of the rest. -/
theorem drive_eq_approve (scene : Scene) (o : Operand σ) :
    drive scene o = (approve o).pass >>= fun spec =>
      pursue σ scene (OperandPass.steps scene spec o) := by
  unfold drive approve pursue observe
  rw [manager_eq_pass]
  simp only [Attempt.pass_bind, Attempt.pass_pure, LawfulMonad.bind_assoc, pure_bind]

end Operand

/-! ## The order of the steps -/

/-- The conditions that tell of the objects of an operand, in the order in which these are
applied. -/
def OperandKind.order : OperandKind → List String
  | .server => ["ServiceAccountAvailable", "ClusterRoleAvailable", "ClusterRoleBindingAvailable",
      "ControllerManagerClusterRoleAvailable", "ControllerManagerClusterRoleBindingAvailable",
      "BundleRoleAvailable", "BundleRoleBindingAvailable", "ServiceAvailable",
      "ConfigMapAvailable", "ControllerManagerConfigMapAvailable", "BundleConfigMapAvailable",
      "StatefulSetAvailable"]
  | .agent => ["ServiceAccountAvailable", "ClusterRoleAvailable", "ClusterRoleBindingAvailable",
      "ServiceAvailable", "ConfigMapAvailable", "SecurityContextConstraintsAvailable",
      "DaemonSetAvailable"]
  | .discovery => ["ServiceAccountAvailable", "ServiceAvailable", "ClusterSPIFFEIDAvailable",
      "ConfigMapAvailable", "DeploymentAvailable", "RouteAvailable"]
  | .driver => ["ServiceAccountAvailable", "CSIDriverAvailable",
      "SecurityContextConstraintsAvailable", "DaemonSetAvailable"]

theorem OperandKind.once_order (kind : OperandKind) :
    (kind.order ++ [Condition.ready, Condition.createOnlyMode]).Nodup := by
  cases kind <;> decide

namespace Operand

variable {order : List String}

/-- A plan that is made from a site without asking follows an order if the steps at all sites do. -/
theorem follows_of_steps {σ : Type} [OperandSpec σ] {o : Operand σ} {spec : ManagerSpec}
    {settings : Settings} (stepsAt : Site σ → List Step)
    (ordered : ∀ site, (stepsAt site).map (·.condition) = order ∧
      ∀ step ∈ stepsAt site, step.wanted ≠ .ok none) :
    Follows server (.mk (pure ((Site.ofOperand o spec settings).map stepsAt))) order := by
  intro s steps t planned
  have made : (Site.ofOperand o spec settings).map stepsAt = .ok steps :=
    congrArg Prod.fst planned
  cases found : Site.ofOperand o spec settings with
  | error fault =>
    rw [found] at made
    cases made
  | ok site =>
    rw [found] at made
    cases made
    obtain ⟨conditions, busy⟩ := ordered site
    exact ⟨conditions, _, [], (List.append_nil _).symm, busy, List.forall_mem_nil _⟩

end Operand

/-- The route of the discovery provider comes last, if there is one. -/
theorem DiscoverySpec.split_stepsAt (site : Site DiscoverySpec) (plugin : String) (config : Json) :
    ∃ before idle, stepsAt site plugin config = before ++ idle ∧
      (∀ step ∈ before, step.wanted ≠ .ok none) ∧ ∀ step ∈ idle, step.wanted = .ok none := by
  have busy : ∀ step ∈ (stepsAt site plugin config).dropLast, step.wanted ≠ .ok none := by
    have identity : (DiscoveryManifest.identity site).map
        (fun o => some (Wanted.clusterIdentity o)) ≠ .ok none := by
      cases DiscoveryManifest.identity site <;> simp [Except.map]
    simp [stepsAt, Step.of, identity]
  have whole : stepsAt site plugin config = (stepsAt site plugin config).dropLast ++
      [⟨"RouteAvailable", (DiscoveryManifest.route site).map
        (·.map (Wanted.route site.settings.operandNamespace))⟩] := rfl
  by_cases idle : (DiscoveryManifest.route site).map
      (·.map (Wanted.route site.settings.operandNamespace)) = .ok none
  · exact ⟨_, _, whole, busy, by simp [idle]⟩
  · refine ⟨_, [], (List.append_nil _).symm, ?_, List.forall_mem_nil _⟩
    rw [whole]
    intro step hstep
    rcases List.mem_append.1 hstep with here | last
    · exact busy step here
    · obtain rfl := List.mem_singleton.1 last
      exact idle

theorem DiscoverySpec.follows (server : Request → τ → Reply × τ) (scene : Scene)
    (spec : ManagerSpec) (o : Operand DiscoverySpec) :
    Operand.Follows server (OperandPass.steps scene spec o) (OperandKind.order .discovery) := by
  intro s steps t planned
  cases ran : run server (Call.attempt (Api.find? (.operands .driver) singletonName
      (Operand.read? : Json → Option (Operand DriverSpec)))).run s with
  | mk result u =>
    cases result with
    | error fault =>
      have failed := (Attempt.run_bind_of_error ran).symm.trans planned
      cases failed
    | ok driver =>
      have made := congrArg Prod.fst ((Attempt.run_bind_of_ok ran).symm.trans planned)
      obtain ⟨site, -, made⟩ := exists_of_bind_ok made
      obtain ⟨config, -, made⟩ := exists_of_bind_ok made
      cases made
      exact ⟨rfl, split_stepsAt site (pluginName driver) config⟩

/-- The plans for all operands follow their orders. -/
theorem OperandKind.follows (kind : OperandKind) (server : Request → τ → Reply × τ) (scene : Scene)
    (spec : ManagerSpec) (o : Operand kind.Spec) :
    Operand.Follows server (OperandPass.steps scene spec o) kind.order := by
  cases kind with
  | server =>
    exact Operand.follows_of_steps ServerSpec.stepsAt fun site =>
      ⟨rfl, by simp [ServerSpec.stepsAt, Step.of]⟩
  | agent =>
    exact Operand.follows_of_steps AgentSpec.stepsAt fun site =>
      ⟨rfl, by simp [AgentSpec.stepsAt, Step.of]⟩
  | driver =>
    exact Operand.follows_of_steps DriverSpec.stepsAt fun site =>
      ⟨rfl, by simp [DriverSpec.stepsAt, Step.of]⟩
  | discovery => exact DiscoverySpec.follows server scene spec o

theorem OperandKind.steps_timeless (kind : OperandKind) (settings : Settings) (now later : String)
    (spec : ManagerSpec) (o : Operand kind.Spec) :
    OperandPass.steps ⟨settings, later⟩ spec o = OperandPass.steps ⟨settings, now⟩ spec o := by
  cases kind <;> rfl

/-! ## What the conditions tell -/

section
variable {kind : OperandKind} {settings : Settings} {now : String} {o : Operand kind.Spec}
  {spec : ManagerSpec} {s s₀ t : τ} {course : Course} {later : List String}

/-- A pass that is approved does what the course of its rest says. -/
theorem Operand.goes_drive (approved : run server (approve o).run s = (.ok spec, s₀))
    (takes : Takes kind.Spec server settings (OperandPass.steps ⟨settings, now⟩ spec o) s₀ course
      t) :
    Pass.Goes server (fun now => drive ⟨settings, now⟩ o) s course.outcome course.notes
      (sent server (approve o).run s ++ course.asked) t := by
  simp only [drive_eq_approve]
  refine (Pass.goes_attempt approved).bind (f := fun now spec =>
    pursue kind.Spec ⟨settings, now⟩ (OperandPass.steps ⟨settings, now⟩ spec o)) ?_
  simp only [kind.steps_timeless settings now]
  exact takes.goes

/-- Each note of a pass is on a condition of its own. -/
theorem Course.once_notes (order : kind.order = course.reached ++ later)
    (outcome : Except Fault Readiness) (createOnly : Bool) :
    ((course.notes ++ Recorder.closing outcome createOnly).map (·.type)).Nodup := by
  rw [List.map_append, Course.types_notes, Recorder.types_closing]
  refine List.Nodup.sublist ?_ kind.once_order
  rw [order]
  exact (List.sublist_append_left ..).append_right _

/-- The conditions of the later steps, and those of foreign types, are not among the notes. -/
theorem Course.not_mem_types (order : kind.order = course.reached ++ later) {type : String}
    (away : type ∈ later ∨ type ∉ kind.order ++ [Condition.ready, Condition.createOnlyMode])
    (outcome : Except Fault Readiness) (createOnly : Bool) :
    type ∉ (course.notes ++ Recorder.closing outcome createOnly).map (·.type) := by
  have once := kind.once_order
  rw [List.map_append, Course.types_notes, Recorder.types_closing]
  rw [order] at once away
  intro noted
  rcases away with isLater | foreign
  · grind
  · grind

end

/-- **A pass stops where it fails.** A pass that is approved takes the steps of its operand in their
order until one fails, and sends nothing for the later ones. The conditions tell of every object
that has been applied, and of the one that could not be applied; those of the later steps stay as
they are. A fault that ends the pass is told by the `Ready` condition, the conditions are patched if
they have changed, and the fault is the result of the pass even if the patch fails. -/
theorem pass_stops_where_it_fails (kind : OperandKind) {settings : Settings} {now : String}
    {o : Operand kind.Spec} {spec : ManagerSpec} {s s₀ : τ}
    (named : o.metadata.anyName = singletonName)
    (approved : run server (Operand.approve o).run s = (.ok spec, s₀)) (elapsed : Nat)
    (ledger : Ledger) :
    ∃ course t later final,
      Operand.Takes kind.Spec server settings (OperandPass.steps ⟨settings, now⟩ spec o) s₀ course
        t ∧
      kind.order = course.reached ++ later ∧
      (∀ a ∈ course.applied, Condition.Says final o.metadata.generation
        ⟨a.condition, .isTrue, a.outcome.reason, a.message⟩) ∧
      (∀ r ∈ course.refused, course.outcome = .error r.fault ∧
        Condition.Says final o.metadata.generation
          ⟨r.condition, .isFalse, r.fault.reason, r.message⟩) ∧
      (∀ type, type ∈ later ∨ type ∉ kind.order ++ [Condition.ready, Condition.createOnlyMode] →
        Condition.InPlace type o.conditions final) ∧
      (∀ fault, course.outcome = .error fault →
        Condition.Says final o.metadata.generation
          ⟨Condition.ready, .isFalse, fault.reason, fault.message⟩ ∧
        (run server (o.look ⟨settings, now⟩ elapsed ledger) s).1.1 = .error fault) ∧
      sent server (o.look ⟨settings, now⟩ elapsed ledger) s =
        sent server (Operand.approve o).run s ++ course.asked ++
          if final = o.conditions then [] else [Operand.statusRequest kind.Spec final] := by
  obtain ⟨course, t, takes⟩ := Operand.exists_takes kind.Spec settings
    (kind.follows server ⟨settings, now⟩ spec o) s₀
  obtain ⟨later, order⟩ := takes.reached_append (kind.follows server ⟨settings, now⟩ spec o)
  have goes := Operand.goes_drive approved takes
  have once := Course.once_notes order course.outcome settings.createOnly
  have said {n : Note}
      (hn : n ∈ course.notes ++ Recorder.closing course.outcome settings.createOnly) :
      Condition.Says (o.recorded now (course.notes ++ Recorder.closing course.outcome
        settings.createOnly)).conditions o.metadata.generation n := Recorder.says_write once hn
  refine ⟨course, t, later, _, takes, order, fun a ha => said ?_,
    fun r hr => ⟨takes.outcome_of_refused hr, said ?_⟩,
    fun type away => Recorder.inPlace_write ?_, fun fault failed => ⟨said ?_, ?_⟩, ?_⟩
  · exact List.mem_append_left _ (List.mem_append_left _ (List.mem_map_of_mem ha))
  · refine List.mem_append_left _ (List.mem_append_right _ ?_)
    rw [Option.mem_def.1 hr]
    exact List.mem_singleton_self _
  · exact Course.not_mem_types order away _ _
  · rw [failed]
    exact List.mem_append_right _ List.mem_cons_self
  · obtain ⟨ledger', ran⟩ := Operand.run_look named goes.told now elapsed ledger
    rw [ran, failed]
    rfl
  · exact Operand.sent_look_of_once named goes once now elapsed ledger

/-- The specification of a storage driver breaks no rule if its user leaves all to the defaults. -/
theorem DriverSpec.flaw?_default : flaw? {} = none := by
  have absolute : defaultSocketPath.startsWith "/" = true :=
    String.startsWith_string_iff.2 (by decide)
  have named : isPluginName defaultPluginName = true := by decide
  simp [flaw?, absolute, named]

/-- A server that knows the manager and the account of the storage driver, and drops all other
requests. -/
def droppingServer (r : Request) (s : Unit) : Reply × Unit :=
  (if r.path = CustomKind.manager.path then
    .answer 200 (.value (.obj [("metadata", .obj [("name", .str singletonName)]),
      ("spec", (ManagerSpec.mk "example.org" "cluster" "spire-bundle").toJson)]))
  else if r.path = "/api/v1/namespaces/spire/serviceaccounts/spire-spiffe-csi-driver" then
    .answer 200 (.value (.obj [("apiVersion", .str "v1"), ("kind", .str "ServiceAccount"),
      ("metadata", .obj [])]))
  else .dropped, s)

/-- Settings under which no object is changed. -/
def sparingSettings : Settings where
  operandNamespace := "spire"
  createOnly := true

/-- The account of the storage driver is left as it is, and the pass ends with the driver itself. -/
theorem pass_stops_where_it_fails_driver :
    run droppingServer (Operand.approve driverOperand).run () =
      (.ok { trustDomain := "example.org" }, ()) ∧
    ∃ course t later final,
      Operand.Takes OperandKind.driver.Spec droppingServer sparingSettings
        (OperandPass.steps ⟨sparingSettings, "2026-01-01T00:00:00Z"⟩
          { trustDomain := "example.org" } driverOperand) () course t ∧
      OperandKind.driver.order = course.reached ++ later ∧
      course.outcome = .error (.api (.connection "connection reset")) ∧
      Condition.Says final none ⟨Condition.ready, .isFalse, Condition.Reason.retrying,
        "Kubernetes API 错误: ServiceError: connection reset"⟩ ∧
      (run droppingServer (driverOperand.look
        ⟨sparingSettings, "2026-01-01T00:00:00Z"⟩ 0 {}) ()).1.1 =
          .error (.api (.connection "connection reset")) := by
  have fetched : run droppingServer
      (Call.attempt (Api.find? .managers singletonName Manager.read?)).run () =
        (.ok (some ⟨{ name := some singletonName }, { trustDomain := "example.org" }, none⟩), ()) :=
    (CustomKind.run_find? .manager Manager.read? ()).trans rfl
  have sound : Operand.check driverOperand = .ok () := by
    unfold Operand.check
    rw [show OperandSpec.flaw? driverOperand.spec = none from DriverSpec.flaw?_default]
  have approved := Operand.run_approve fetched rfl sound
  obtain ⟨course, t, later, final, takes, order, -, -, -, failed, -⟩ :=
    @pass_stops_where_it_fails _ droppingServer .driver sparingSettings "2026-01-01T00:00:00Z"
      driverOperand _ () () rfl approved 0 {}
  have ends : course.outcome = .error (.api (.connection "connection reset")) := by
    obtain ⟨metrics, ran⟩ := takes.goes.told "2026-01-01T00:00:00Z" ⟨.start [] none, {}⟩
    have outcome := congrArg (fun done => done.1.1) ran
    exact outcome.symm.trans (by decide +kernel)
  exact ⟨approved, course, t, later, final, takes, order, ends, failed _ ends⟩

end WorkloadIdentity

import WorkloadIdentity.Proofs.Convergence
import WorkloadIdentity.Proofs.Ownership

/-! The API server never lets the role of a binding change, and so the role is not compared. But a
replacement carries the role that is wanted, not the one of the live binding. -/

namespace WorkloadIdentity

namespace Binding

variable {reach : Reach} {existing desired o : Binding reach}

@[simp]
theorem roleRef_prepare (existing desired : Binding reach) :
    (existing.prepare desired).roleRef = desired.roleRef := rfl

theorem needsUpdate_iff : existing.needsUpdate desired = true ↔
    existing.metadata.differs desired.metadata = true ∨ existing.subjects ≠ desired.subjects := by
  rw [needsUpdate, Bool.or_eq_true, decide_eq_true_eq]

theorem roleRef_of_plan_replace (replaced : plan (some existing) desired false = .replace o) :
    o.roleRef = desired.roleRef := by
  rw [eq_prepare_of_plan_replace replaced]
  exact roleRef_prepare existing desired

/-- A replacement changes the role where another one is wanted, as soon as anything that is compared
differs. Before that, the other role goes unnoticed. -/
theorem replace_changes_role_iff :
    (∃ o, plan (some existing) desired false = .replace o ∧ o.roleRef ≠ existing.roleRef) ↔
      existing.roleRef ≠ desired.roleRef ∧
        (existing.metadata.differs desired.metadata = true ∨
          existing.subjects ≠ desired.subjects) := by
  rw [← needsUpdate_iff]
  constructor
  · rintro ⟨o, replaced, changed⟩
    rw [roleRef_of_plan_replace replaced] at changed
    refine ⟨changed.symm, ?_⟩
    cases differs : existing.needsUpdate desired with
    | true => rfl
    | false =>
      have kept : plan (some existing) desired false = .unchanged :=
        plan_of_not_needsUpdate differs
      cases kept.symm.trans replaced
  · rintro ⟨other, differs⟩
    exact ⟨existing.prepare desired, plan_of_needsUpdate differs, other.symm⟩

end Binding

/-- The role of the name of a binding. -/
def RoleRef.own : Reach → String → RoleRef
  | .cluster, name => .ofKind "ClusterRole" name
  | .namespaced, name => .ofKind "Role" name

/-- If the object is a binding, it gives the role of its own name. -/
def Wanted.GivesOwnRole (w : Wanted) : Prop :=
  match w with
  | ⟨.binding reach, o, _⟩ => ∃ name, o.metadata.name = some name ∧ o.roleRef = .own reach name
  | _ => True

theorem Frame.givesOwnRole_clusterBinding (f : Frame) (name account : String) :
    (Wanted.clusterRoleBinding (f.clusterBinding name account)).GivesOwnRole :=
  ⟨name, rfl, rfl⟩

theorem ServerSpec.givesOwnRole (site : Site ServerSpec) :
    ∀ w ∈ Step.wanteds (stepsAt site), w.GivesOwnRole := by
  simp only [stepsAt, Step.wanteds, Step.of, List.filterMap_cons, List.filterMap_nil,
    List.forall_mem_cons]
  refine ⟨?_, ?_, ?server, ?_, ?manager, ?_, ?bundle, ?_, ?_, ?_, ?_, ?_, List.forall_mem_nil _⟩
  case server => exact site.frame.givesOwnRole_clusterBinding _ _
  case manager => exact site.frame.givesOwnRole_clusterBinding _ _
  case bundle => exact ⟨ServerManifest.bundleRoleName, rfl, rfl⟩
  all_goals trivial

theorem AgentSpec.givesOwnRole (site : Site AgentSpec) :
    ∀ w ∈ Step.wanteds (stepsAt site), w.GivesOwnRole := by
  simp only [stepsAt, Step.wanteds, Step.of, List.filterMap_cons, List.filterMap_nil,
    List.forall_mem_cons]
  refine ⟨?_, ?_, ?agent, ?_, ?_, ?_, ?_, List.forall_mem_nil _⟩
  case agent => exact site.frame.givesOwnRole_clusterBinding _ _
  all_goals trivial

/-- The storage driver has no bindings, and neither has the discovery provider. -/
theorem DriverSpec.givesOwnRole (site : Site DriverSpec) :
    ∀ w ∈ Step.wanteds (stepsAt site), w.GivesOwnRole := by
  simp only [stepsAt, Step.wanteds, Step.of, List.filterMap_cons, List.filterMap_nil,
    List.forall_mem_cons]
  exact ⟨trivial, trivial, trivial, trivial, List.forall_mem_nil _⟩

theorem DiscoverySpec.givesOwnRole (site : Site DiscoverySpec) (plugin : String) (config : Json) :
    ∀ w ∈ Step.wanteds (stepsAt site plugin config), w.GivesOwnRole := by
  obtain ⟨identities, routes, list, identity, route⟩ := wanteds_stepsAt site plugin config
  rw [list]
  simp only [List.forall_mem_cons, List.forall_mem_append]
  refine ⟨trivial, trivial, ⟨?identities, trivial, trivial, List.forall_mem_nil _⟩, ?routes⟩
  case identities =>
    rcases identity with rfl | ⟨o, -, rfl⟩
    · exact List.forall_mem_nil _
    · exact List.forall_mem_singleton.2 trivial
  case routes =>
    rcases route with rfl | ⟨o, -, rfl⟩
    · exact List.forall_mem_nil _
    · exact List.forall_mem_singleton.2 trivial

theorem OperandKind.givesOwnRole (kind : OperandKind) (site : Site kind.Spec) (plugin : String)
    (config : Json) : ∀ w ∈ kind.objects site plugin config, w.GivesOwnRole := by
  cases kind with
  | server => exact ServerSpec.givesOwnRole site
  | agent => exact AgentSpec.givesOwnRole site
  | discovery => exact DiscoverySpec.givesOwnRole site plugin config
  | driver => exact DriverSpec.givesOwnRole site

/-- **Own roles are kept.** A replacement changes the role of a live binding if and only if another
role is wanted and something that is compared differs. What the operands want are the roles of the
bindings' own names, whatever their users write, so that a replacement keeps the role of every
binding that gives the role of its own name, and changes that of every other one. -/
theorem own_roles_are_kept {reach : Reach} (existing desired : Binding reach) :
    ((∃ o, plan (some existing) desired false = .replace o ∧ o.roleRef ≠ existing.roleRef) ↔
      existing.roleRef ≠ desired.roleRef ∧
        (existing.metadata.differs desired.metadata = true ∨
          existing.subjects ≠ desired.subjects)) ∧
    ∀ (kind : OperandKind) (site : Site kind.Spec) (plugin : String) (config : Json)
      (collection : Collection),
      ⟨.binding reach, desired, collection⟩ ∈ kind.objects site plugin config →
      ∃ name, desired.metadata.name = some name ∧ ∀ o,
        plan (some existing) desired false = .replace o →
        o.roleRef = .own reach name ∧
          (o.roleRef = existing.roleRef ↔ existing.roleRef = .own reach name) := by
  refine ⟨Binding.replace_changes_role_iff, ?_⟩
  intro kind site plugin config collection wanted
  obtain ⟨name, named, own⟩ := kind.givesOwnRole site plugin config _ wanted
  refine ⟨name, named, fun o replaced => ?_⟩
  have role : o.roleRef = .own reach name :=
    (Binding.roleRef_of_plan_replace replaced).trans own
  exact ⟨role, by rw [role]; exact eq_comm⟩

/-- What the agents of a user without wishes are made from. -/
def plainAgentSite : Site AgentSpec where
  frame := {
    namespaceName := "spire"
    labels := Label.standard AgentManifest.name "node-agent" ∅
    owner := {
      apiVersion := customApiVersion, kind := "SpireAgent", name := singletonName, uid := "42"
      controller := some true, blockOwnerDeletion := none } }
  spec := {}
  manager := ⟨"example.org", "cluster", "spire-bundle"⟩
  settings := { operandNamespace := "spire" }

/-- The binding of the agents as it stands in the cluster, without labels and with a role. -/
def liveAgentBinding (role : String) : Binding .cluster :=
  { AgentManifest.clusterRoleBinding plainAgentSite with
    metadata := { name := some AgentManifest.name, resourceVersion := some "7" }
    roleRef := .own .cluster role }

theorem own_roles_are_kept_agent :
    let desired := AgentManifest.clusterRoleBinding plainAgentSite
    ⟨.binding .cluster, desired, .clusterRoleBindings⟩ ∈
      OperandKind.agent.objects plainAgentSite "" .null ∧
    ∃ o, plan (some (liveAgentBinding "spire-agent")) desired false = .replace o ∧
      o.roleRef = (liveAgentBinding "spire-agent").roleRef := by
  intro desired
  have wanted : ⟨.binding .cluster, desired, .clusterRoleBindings⟩ ∈
      OperandKind.agent.objects plainAgentSite "" .null :=
    List.mem_of_getElem? (i := 2) rfl
  obtain ⟨name, named, kept⟩ := (own_roles_are_kept (liveAgentBinding "spire-agent") desired).2
    .agent plainAgentSite "" .null _ wanted
  have replaced : plan (some (liveAgentBinding "spire-agent")) desired false =
      .replace (Managed.prepare (liveAgentBinding "spire-agent") desired) := by decide +kernel
  cases named
  exact ⟨wanted, _, replaced, (kept _ replaced).2.2 rfl⟩

/-- A live binding of the agents with another role is sent back with their own one. -/
theorem other_role_is_changed :
    ¬ ∀ (reach : Reach) (existing desired o : Binding reach),
      plan (some existing) desired false = .replace o → o.roleRef = existing.roleRef := by
  intro keeps
  have changed : (∃ o, plan (some (liveAgentBinding "view"))
      (AgentManifest.clusterRoleBinding plainAgentSite) false = .replace o ∧
        o.roleRef ≠ (liveAgentBinding "view").roleRef) :=
    Binding.replace_changes_role_iff.2 (by decide +kernel)
  obtain ⟨o, replaced, other⟩ := changed
  exact other (keeps .cluster _ _ o replaced)

end WorkloadIdentity

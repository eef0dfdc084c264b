import WorkloadIdentity.Proofs.Convergence

/-!
# Requests that the server completes

The server lets a container ask for as much of a resource as its limit where no request is given,
and stores the limit as the request. What it has stored is compared with what is wanted name by name,
over the names of four maps, each of which may be missing.

* `Quantity.same_self_iff`: only `nan` is another quantity than itself.
* `Resources.completed` is what the server stores of the resources that are wanted.
* `Resources.differ_eq_false_iff`: the names that are compared are as good as all names.
* `Resources.differ_self_iff`: resources differ from themselves where a request is missing.
* `Resources.completed_requests_are_no_drift`: what the server completes makes no difference, but a
  limit or a request that has been added or removed does.
* `Workload.plan_completed`: so a workload is left alone when the server has completed its pods.
-/

namespace WorkloadIdentity

namespace Quantity

theorem close_self_iff {x : Binary64} : close x x = true ↔ x ≠ .nan := by
  constructor
  · rintro same rfl
    cases same
  · intro number
    rw [close, Binary64.sameValue_self number, Bool.true_or]

/-- Texts that are no numbers are compared as texts, so that only `nan` is another quantity than
itself. -/
theorem same_self_iff {q : String} : same q q = true ↔ value? q ≠ some .nan := by
  unfold same
  cases value? q with
  | none => simp
  | some x => simp [close_self_iff]

theorem isSome_eq_of_sameOptional {a b : Option String} (h : sameOptional a b = true) :
    a.isSome = b.isSome := by
  cases a <;> cases b
  case none.none => rfl
  case none.some => cases h
  case some.none => cases h
  case some.some => rfl

end Quantity

namespace Resources

variable {r : Resources} {existing desired : Option Resources} {name : String}

theorem limit_some (r : Resources) (name : String) :
    limit (some r) name = (r.limits.getD ∅).get? name := by
  cases h : r.limits <;> simp [limit, h]

theorem request_some (r : Resources) (name : String) :
    request (some r) name = (r.requests.getD ∅).get? name := by
  cases h : r.requests <;> simp [request, h]

theorem mem_names_iff {r : Option Resources} :
    name ∈ names r ↔ (limit r name).isSome = true ∨ (request r name).isSome = true := by
  have mentioned (m : Option Labels) :
      name ∈ (m.map (·.keys)).getD [] ↔ (m.bind (·.get? name)).isSome = true := by
    cases m with
    | none => simp
    | some m => exact StringMap.mem_keys_iff
  rw [names, List.mem_append, mentioned, mentioned]
  rfl

theorem differAt_of_notMem (inExisting : name ∉ names existing)
    (inDesired : name ∉ names desired) : differAt existing desired name = false := by
  simp only [mem_names_iff, not_or, Bool.not_eq_true, Option.isSome_eq_false_iff,
    Option.isNone_iff_eq_none] at inExisting inDesired
  simp [differAt, completedRequest, inExisting, inDesired, Quantity.sameOptional]

/-- Only mentioned names are compared, but a name that is not mentioned makes no difference. -/
theorem differ_eq_false_iff :
    differ existing desired = false ↔ ∀ name,
      Quantity.sameOptional (limit existing name) (limit desired name) = true ∧
        Quantity.sameOptional (request existing name) (completedRequest desired name) = true := by
  have everywhere : differ existing desired = false ↔
      ∀ name, differAt existing desired name = false := by
    rw [differ, List.any_eq_false]
    constructor
    · intro same name
      by_cases mentioned : name ∈ names existing ++ names desired
      · exact Bool.eq_false_iff.2 (same name mentioned)
      · rw [List.mem_append, not_or] at mentioned
        exact differAt_of_notMem mentioned.1 mentioned.2
    · intro same name _
      exact Bool.eq_false_iff.1 (same name)
  simp only [everywhere, differAt, Bool.or_eq_false_iff, Bool.not_eq_false']

/-- A limit on one side only is noticed, and so is a request on one side only, where the limit that
is wanted counts as a request. -/
theorem differ_of_isSome_ne
    (h : (limit existing name).isSome ≠ (limit desired name).isSome ∨
      (request existing name).isSome ≠ (completedRequest desired name).isSome) :
    differ existing desired = true := by
  cases same : differ existing desired with
  | true => rfl
  | false =>
    obtain ⟨limits, requests⟩ := differ_eq_false_iff.1 same name
    rcases h with h | h
    · exact absurd (Quantity.isSome_eq_of_sameOptional limits) h
    · exact absurd (Quantity.isSome_eq_of_sameOptional requests) h

/-- Each quantity is the same as itself, as all but `nan` are (`Quantity.same_self_iff`). -/
def IsMeasurable (r : Resources) : Prop :=
  ∀ e ∈ (r.limits.getD ∅).entries ++ (r.requests.getD ∅).entries, Quantity.same e.2 e.2 = true

theorem isMeasurable_iff : r.IsMeasurable ↔ ∀ name,
    Quantity.sameOptional (limit (some r) name) (limit (some r) name) = true ∧
      Quantity.sameOptional (request (some r) name) (request (some r) name) = true := by
  have measured (m : Labels) : (∀ e ∈ m.entries, Quantity.same e.2 e.2 = true) ↔
      ∀ name, Quantity.sameOptional (m.get? name) (m.get? name) = true := by
    constructor
    · intro each name
      cases found : m.get? name with
      | none => rfl
      | some q => exact each (name, q) (mem_of_lookup_eq_some found)
    · intro each e mem
      have found : m.get? e.1 = some e.2 := StringMap.get?_eq_some_of_mem mem
      have same := each e.1
      rwa [found] at same
  simp only [IsMeasurable, List.forall_mem_append, measured, limit_some, request_some, forall_and]

/-- Resources do not differ from themselves if and only if all quantities can be compared and a
request is given wherever there is a limit. -/
theorem differ_self_iff : differ (some r) (some r) = false ↔
    r.IsMeasurable ∧
      ∀ name, (limit (some r) name).isSome = true → (request (some r) name).isSome = true := by
  rw [differ_eq_false_iff, isMeasurable_iff, ← forall_and]
  refine forall_congr' fun name => ?_
  rw [completedRequest]
  cases limit (some r) name <;> cases request (some r) name <;> simp [Quantity.sameOptional]

/-- What the server stores: a limit is the request as well, unless one is given. -/
def completed (r : Resources) : Resources :=
  { r with requests := Labels.mergeOptional r.limits r.requests }

@[simp]
theorem limit_completed (r : Resources) (name : String) :
    limit (some r.completed) name = limit (some r) name := rfl

@[simp]
theorem request_completed (r : Resources) (name : String) :
    request (some r.completed) name = completedRequest (some r) name := by
  rw [completedRequest, request_some, request_some, limit_some]
  exact Labels.get?_mergeOptional r.limits r.requests name

theorem isMeasurable_completed_iff : r.completed.IsMeasurable ↔ r.IsMeasurable := by
  rw [isMeasurable_iff, isMeasurable_iff]
  refine forall_congr' fun name => ?_
  rw [limit_completed, request_completed, completedRequest]
  cases limit (some r) name <;> cases request (some r) name <;> simp [Quantity.sameOptional]

theorem differ_completed_iff : differ (some r.completed) (some r) = false ↔ r.IsMeasurable := by
  rw [differ_eq_false_iff, ← isMeasurable_completed_iff, isMeasurable_iff]
  simp only [limit_completed, request_completed]

theorem differ_completed_self_iff :
    differ (some r.completed) (some r.completed) = false ↔ r.IsMeasurable := by
  rw [differ_self_iff, isMeasurable_completed_iff, and_iff_left]
  intro name limited
  rw [limit_completed] at limited
  rw [request_completed, completedRequest, Option.isSome_or, limited, Bool.or_true]

/-- **Requests completed from limits are no drift.** If and only if all quantities can be compared
with themselves, what the server stores does not differ from what is wanted, and neither does it
differ from itself. But where only one of two sides has a limit, they differ, whatever else there
is; and so they do where the live side has a request and the wanted one neither a request nor a
limit. -/
theorem completed_requests_are_no_drift (r : Resources) :
    (differ (some r.completed) (some r) = false ↔ r.IsMeasurable) ∧
    (differ (some r.completed) (some r.completed) = false ↔ r.IsMeasurable) ∧
    ∀ (existing desired : Option Resources) (name : String),
      (limit existing name).isSome ≠ (limit desired name).isSome ∨
        ((request existing name).isSome = true ∧
          request desired name = none ∧ limit desired name = none) →
      differ existing desired = true := by
  refine ⟨differ_completed_iff, differ_completed_self_iff, ?_⟩
  intro existing desired name oneSided
  rcases oneSided with limits | ⟨asked, unasked, unlimited⟩
  · exact differ_of_isSome_ne (.inl limits)
  · have requests : (request existing name).isSome ≠ (completedRequest desired name).isSome := by
      rw [asked, completedRequest, unasked, unlimited]
      decide
    exact differ_of_isSome_ne (.inr requests)

/-- Resources with a request below one of two limits, and one for a resource without a limit. -/
def partialResources : Resources where
  limits := some (.ofList [("cpu", "500m"), ("memory", "1Gi")])
  requests := some (.ofList [("cpu", "0.25"), ("storage", "2Gi")])

/-- The same resources as someone else has stored them, with a request for a device. -/
def extendedResources : Resources :=
  { partialResources.completed with
    requests := some (.ofList
      [("cpu", "250m"), ("device", "1"), ("memory", "1024Mi"), ("storage", "2Gi")]) }

theorem completed_requests_are_no_drift_partial :
    partialResources.IsMeasurable ∧
    differ (some partialResources.completed) (some partialResources) = false ∧
    differ (some partialResources.completed) (some partialResources.completed) = false ∧
    (request (some extendedResources) "device").isSome = true ∧
    request (some partialResources) "device" = none ∧
    limit (some partialResources) "device" = none ∧
    differ (some extendedResources) (some partialResources) = true := by
  have measurable : partialResources.IsMeasurable := by
    unfold IsMeasurable
    decide
  have asked : (request (some extendedResources) "device").isSome = true := by decide
  have unasked : request (some partialResources) "device" = none := by decide
  have unlimited : limit (some partialResources) "device" = none := by decide
  obtain ⟨stored, again, noticed⟩ := completed_requests_are_no_drift partialResources
  exact ⟨measurable, stored.2 measurable, again.2 measurable, asked, unasked, unlimited,
    noticed _ _ "device" (.inr ⟨asked, unasked, unlimited⟩)⟩

end Resources

namespace Container

/-- The container with what the server makes of its resources. -/
def completed (c : Container) : Container :=
  { c with resources := c.resources.map Resources.completed }

/-- The quantities of a container can be compared. -/
def IsMeasurable (c : Container) : Prop := ∀ r, c.resources = some r → r.IsMeasurable

theorem differs_completed {c : Container} (measurable : c.IsMeasurable) :
    c.completed.differs c = false := by
  have resources : Resources.differ (c.resources.map Resources.completed) c.resources = false := by
    cases given : c.resources with
    | none => rfl
    | some r => exact Resources.differ_completed_iff.2 (measurable r given)
  simp [differs, completed, resources]

theorem listsDiffer_completed {containers : List Container}
    (once : (containers.map (·.name)).Nodup) (measurable : ∀ c ∈ containers, c.IsMeasurable) :
    listsDiffer (containers.map completed) containers = false :=
  listsDiffer_map (fun _ => rfl) once fun c mem => differs_completed (measurable c mem)

end Container

namespace PodSpec

def completed (pod : PodSpec) : PodSpec :=
  { pod with
    containers := pod.containers.map Container.completed
    initContainers := pod.initContainers.map (·.map Container.completed) }

/-- A pod whose containers are told apart by their names, whose quantities can be compared, and
whose volumes are proper values. Not every limit needs a request. -/
structure IsMeasurable (pod : PodSpec) : Prop where
  containers : (pod.containers.map (·.name)).Nodup
  initContainers : ((pod.initContainers.getD []).map (·.name)).Nodup
  resources : ∀ c ∈ pod.containers ++ pod.initContainers.getD [], c.IsMeasurable
  volumes : ∀ v ∈ pod.volumes.getD [], v.toJson.IsProper

theorem differs_completed {pod : PodSpec} (measurable : pod.IsMeasurable) :
    pod.completed.differs pod = false := by
  have main := Container.listsDiffer_completed measurable.containers
    fun c mem => measurable.resources c (List.mem_append_left _ mem)
  have init := Container.listsDiffer_completed measurable.initContainers
    fun c mem => measurable.resources c (List.mem_append_right _ mem)
  have volumes := Volume.listsDiffer_self measurable.volumes
  have initial : (pod.initContainers.map (·.map Container.completed)).getD [] =
      (pod.initContainers.getD []).map Container.completed := by
    cases pod.initContainers <;> rfl
  simp [differs, completed, main, initial, init, volumes]

end PodSpec

theorem PodTemplate.differs_completed {t : PodTemplate}
    (measurable : ∀ pod, t.spec = some pod → pod.IsMeasurable) :
    differs { t with spec := t.spec.map PodSpec.completed } t = false := by
  obtain ⟨metadata, spec⟩ := t
  cases spec with
  | none => simp [differs]
  | some pod => simp [differs, PodSpec.differs_completed (measurable pod rfl)]

/-- The workload with what the server makes of its pods. -/
def Workload.completed {kind : WorkloadKind} (o : Workload kind) : Workload kind :=
  { o with spec := o.spec.map fun s =>
      { s with template := { s.template with spec := s.template.spec.map PodSpec.completed } } }

/-- **A workload is left alone when the server has completed its pods.** Not even one that is stored
as it was sent is left alone where a limit has no request (`Resources.differ_self_iff`). -/
theorem Workload.plan_completed {kind : WorkloadKind} (o : Workload kind)
    (measurable : ∀ spec, o.spec = some spec → ∀ pod, spec.template.spec = some pod →
      pod.IsMeasurable) :
    plan (some o.completed) o false = .unchanged := by
  have same : needsUpdate o.completed o = false := by
    apply needsUpdate_of_template
    · exact Meta.differs_self o.metadata
    · exact Option.isSome_map
    · intro e d stored wanted
      rw [completed, wanted, Option.map_some, Option.some.injEq] at stored
      subst stored
      exact ⟨rfl, PodTemplate.differs_completed (measurable d wanted)⟩
  exact plan_of_not_needsUpdate same

end WorkloadIdentity

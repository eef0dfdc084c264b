import WorkloadIdentity.Proofs.Canonical
import WorkloadIdentity.Proofs.Indifference

/-!
# Drift at any depth

The data of an object that is known by name only may be nested to any depth. Coverage is tolerant
there: of what is added, of what is wanted empty, of how a number is written. None of this hides a
difference further inside.

* `Hop` and `Json.at?`: the places inside a value.
* `Json.Admits` says what may stand at one place.
* `coveredBy_iff_admits`: a value is covered if at every place stands what may stand there.
* `drift_at_any_depth_is_noticed`: so no scalar and no list of an object drifts unnoticed.
-/

namespace WorkloadIdentity

/-- One step into a value. -/
inductive Hop where
  | member (name : String)
  | item (place : Nat)
deriving DecidableEq, Repr

namespace Json

def inside? : Json → Hop → Option Json
  | obj members, .member name => lookup name members
  | arr items, .item place => items[place]?
  | _, _ => none

/-- The value at the end of a path. -/
def at? : Json → List Hop → Option Json
  | v, [] => some v
  | v, hop :: path => (v.inside? hop).bind (·.at? path)

@[simp]
theorem at?_nil (v : Json) : v.at? [] = some v := rfl

@[simp]
theorem at?_cons (v : Json) (hop : Hop) (path : List Hop) :
    v.at? (hop :: path) = (v.inside? hop).bind (·.at? path) := rfl

@[simp]
theorem inside?_obj (members : List (String × Json)) (name : String) :
    (obj members).inside? (.member name) = lookup name members := rfl

@[simp]
theorem inside?_arr (items : List Json) (place : Nat) :
    (arr items).inside? (.item place) = items[place]? := rfl

def isScalar : Json → Bool
  | null | arr _ | obj _ => false
  | _ => true

/-- Equal scalars: numbers are equal if they are one double. -/
inductive SameScalar : Json → Json → Prop where
  | bool (b : Bool) : SameScalar (bool b) (bool b)
  | str (s : String) : SameScalar (str s) (str s)
  | number {v w : Json} {x y : Binary64} (left : number? v = some x) (right : number? w = some y)
      (same : x.sameValue y = true) : SameScalar v w

/-- What may stand, if anything, where a value is wanted. What is wanted inside of arrays and
objects is left to the places inside. -/
inductive Admits : Json → Option Json → Prop where
  | null (live : Option Json) : Admits null live
  | scalar {v w : Json} (same : SameScalar v w) : Admits v (some w)
  | array {items others : List Json} (length : others.length = items.length) :
      Admits (arr items) (some (arr others))
  | object (members others : List (String × Json)) : Admits (obj members) (some (obj others))
  | missing {v : Json} (empty : v.isEmptyValue = true) : Admits v none

section
variable {v w : Json}

theorem SameScalar.coveredBy (same : SameScalar v w) : v.coveredBy w = true := by
  cases same with
  | bool b => rw [Json.coveredBy, beq_self_eq_true]
  | str s => rw [Json.coveredBy, beq_self_eq_true]
  | number left right same =>
    have numbers : sameNumber v w = true := by rw [sameNumber, left, right]; exact same
    cases v with
    | int i => rw [Json.coveredBy, numbers]
    | double d => rw [Json.coveredBy, numbers]
    | _ => cases left

theorem sameScalar_of_sameNumber (same : sameNumber v w = true) : SameScalar v w := by
  unfold sameNumber at same
  split at same
  case h_1 x y left right => exact .number left right same
  case h_2 => cases same

theorem membersCoveredBy_iff {wanted members : List (String × Json)} :
    membersCoveredBy wanted members = true ↔
      ∀ m ∈ wanted, m.2.fieldCoveredBy (lookup m.1 members) = true := by
  induction wanted with
  | nil => simp [membersCoveredBy]
  | cons m rest ih =>
    rw [membersCoveredBy_cons, Bool.and_eq_true, ih, List.forall_mem_cons]

theorem itemsCoveredBy_iff {wanted items : List Json} :
    itemsCoveredBy wanted items = true ↔ items.length = wanted.length ∧
      ∀ (place : Nat) (d v : Json), wanted[place]? = some d → items[place]? = some v →
        d.coveredBy v = true := by
  induction wanted generalizing items with
  | nil => cases items <;> simp [itemsCoveredBy]
  | cons d rest ih =>
    cases items with
    | nil => simp [itemsCoveredBy]
    | cons v others =>
      rw [itemsCoveredBy, Bool.and_eq_true, ih, List.length_cons, List.length_cons,
        Nat.add_right_cancel_iff]
      constructor
      · rintro ⟨first, length, later⟩
        refine ⟨length, fun place d v hd hv => ?_⟩
        cases place with
        | zero => cases hd; cases hv; exact first
        | succ place => exact later place d v hd hv
      · rintro ⟨length, all⟩
        exact ⟨all 0 d v rfl rfl, length, fun place => all (place + 1)⟩

/-- What covers a value covers what is inside it. A value that is wanted empty may be missing as
there is nothing inside it. -/
theorem fieldCoveredBy_inside {live : Option Json} {hop : Hop} {d : Json}
    (covered : v.fieldCoveredBy live = true) (here : v.inside? hop = some d) :
    d.fieldCoveredBy (live.bind (·.inside? hop)) = true := by
  cases v with
  | obj members =>
    cases hop with
    | item => cases here
    | member name =>
      have mem : (name, d) ∈ members := mem_of_lookup_eq_some here
      cases live with
      | none => rw [List.isEmpty_iff.1 covered] at mem; cases mem
      | some w =>
        cases w with
        | obj others =>
          rw [fieldCoveredBy, coveredBy] at covered
          exact membersCoveredBy_iff.1 covered (name, d) mem
        | _ => simp [fieldCoveredBy, coveredBy] at covered
  | arr items =>
    cases hop with
    | member => cases here
    | item place =>
      rw [inside?_arr] at here
      cases live with
      | none => rw [List.isEmpty_iff.1 covered] at here; cases here
      | some w =>
        cases w with
        | arr others =>
          rw [fieldCoveredBy, coveredBy, itemsCoveredBy_iff] at covered
          obtain ⟨length, all⟩ := covered
          have inItems : place < items.length := (List.getElem?_eq_some_iff.1 here).1
          have there : others[place]? = some others[place] := List.getElem?_eq_getElem (by omega)
          rw [Option.bind_some, inside?_arr, there]
          exact all place d _ here there
        | _ => simp [fieldCoveredBy, coveredBy] at covered
  | _ => cases hop <;> cases here

theorem fieldCoveredBy_at {live : Option Json} {path : List Hop} {d : Json}
    (covered : v.fieldCoveredBy live = true) (here : v.at? path = some d) :
    d.fieldCoveredBy (live.bind (·.at? path)) = true := by
  induction path generalizing v live with
  | nil =>
    cases here
    simpa using covered
  | cons hop path ih =>
    obtain ⟨u, step, here⟩ := Option.bind_eq_some_iff.1 here
    have next := ih (fieldCoveredBy_inside covered step) here
    rwa [Option.bind_assoc] at next

theorem admits_of_fieldCoveredBy {live : Option Json} (covered : v.fieldCoveredBy live = true) :
    v.Admits live := by
  cases live with
  | none => exact .missing covered
  | some w =>
    rw [fieldCoveredBy] at covered
    cases v with
    | null => exact .null _
    | bool b =>
      rw [coveredBy, beq_iff_eq] at covered
      exact covered ▸ .scalar (.bool b)
    | str s =>
      rw [coveredBy, beq_iff_eq] at covered
      exact covered ▸ .scalar (.str s)
    | int i => exact .scalar (sameScalar_of_sameNumber (by rwa [coveredBy] at covered))
    | double d => exact .scalar (sameScalar_of_sameNumber (by rwa [coveredBy] at covered))
    | arr items =>
      cases w with
      | arr others => exact .array (itemsCoveredBy_iff.1 (by rwa [coveredBy] at covered)).1
      | _ => simp [coveredBy] at covered
    | obj members =>
      cases w with
      | obj others => exact .object members others
      | _ => simp [coveredBy] at covered

/-- The converse, for values that hold each name once: a repeated name is at no place but the
first. -/
theorem fieldCoveredBy_of_admits (v : Json) {live : Option Json} (proper : v.IsProper)
    (admits : ∀ path d, v.at? path = some d → d.Admits (live.bind (·.at? path))) :
    v.fieldCoveredBy live = true := by
  have here : v.Admits live := by simpa using admits [] v rfl
  cases here with
  | null => cases live <;> simp [fieldCoveredBy, isEmptyValue, coveredBy]
  | scalar same => exact same.coveredBy
  | missing empty => exact empty
  | @object members others =>
    rw [IsProper] at proper
    rw [fieldCoveredBy, coveredBy, membersCoveredBy_iff]
    rintro ⟨name, u⟩ mem
    have found : lookup name members = some u := lookup_of_mem proper.1 mem
    apply fieldCoveredBy_of_admits u (membersProper_iff.1 proper.2 _ mem)
    intro path d there
    exact admits (.member name :: path) d (by rw [at?_cons, inside?_obj, found]; exact there)
  | @array items others length =>
    rw [IsProper] at proper
    rw [fieldCoveredBy, coveredBy, itemsCoveredBy_iff]
    refine ⟨length, fun place u v hu hv => ?_⟩
    have mem : u ∈ items := List.mem_of_getElem? hu
    have inside : u.fieldCoveredBy (some v) = true := by
      apply fieldCoveredBy_of_admits u (itemsProper_iff.1 proper _ mem)
      intro path d there
      have admits := admits (.item place :: path) d (by
        rw [at?_cons, inside?_arr, hu]; exact there)
      rwa [Option.bind_some, at?_cons, inside?_arr, hv] at admits
    exact inside
termination_by sizeOf v
decreasing_by
  all_goals
    have smaller := List.sizeOf_lt_of_mem mem
    simp_all
    omega

theorem admits_of_coveredBy {path : List Hop} {d : Json} (covered : v.coveredBy w = true)
    (here : v.at? path = some d) : d.Admits (w.at? path) := by
  have covered : v.fieldCoveredBy (some w) = true := covered
  exact admits_of_fieldCoveredBy (fieldCoveredBy_at covered here)

/-- **Coverage is judged place by place.** -/
theorem coveredBy_iff_admits (proper : v.IsProper) :
    v.coveredBy w = true ↔ ∀ path d, v.at? path = some d → d.Admits (w.at? path) := by
  refine ⟨fun covered path d here => admits_of_coveredBy covered here, fun admits => ?_⟩
  have covered : v.fieldCoveredBy (some w) = true := fieldCoveredBy_of_admits v proper admits
  exact covered

end

/-- A scalar that is wanted is gone or is another one, or a list that is wanted is gone or has
become longer or shorter. A list that is wanted empty may be missing. -/
inductive Drift (wanted live : Json) : Prop where
  | scalar (path : List Hop) {v : Json} (wants : wanted.at? path = some v)
      (scalar : v.isScalar = true) (other : ∀ w, live.at? path = some w → ¬ v.SameScalar w)
  | list (path : List Hop) {items : List Json} (wants : wanted.at? path = some (.arr items))
      (filled : items ≠ [])
      (other : ∀ others, live.at? path = some (.arr others) → others.length ≠ items.length)

section
variable {v : Json} {live : Option Json}

theorem Admits.exists_sameScalar (admits : v.Admits live) (scalar : v.isScalar = true) :
    ∃ w, live = some w ∧ v.SameScalar w := by
  cases admits with
  | scalar same => exact ⟨_, rfl, same⟩
  | missing empty => cases v <;> simp_all [isScalar, isEmptyValue]
  | _ => cases scalar

theorem Admits.exists_list {items : List Json} (admits : (arr items).Admits live)
    (filled : items ≠ []) : ∃ others, live = some (.arr others) ∧ others.length = items.length := by
  cases admits with
  | array length => exact ⟨_, rfl, length⟩
  | scalar same => cases same with | number left => cases left
  | missing empty => exact absurd (List.isEmpty_iff.1 empty) filled

end

end Json

namespace Untyped

variable {existing desired : Untyped}

theorem needsUpdate_eq_false_iff :
    existing.needsUpdate desired = false ↔ existing.metadata.differs desired.metadata = false ∧
      (Json.obj desired.data).coveredBy (.obj existing.data) = true := by
  rw [needsUpdate, Bool.or_eq_false_iff, Bool.not_eq_false']

theorem admits_of_not_needsUpdate (same : existing.needsUpdate desired = false) {path : List Hop}
    {v : Json} (wants : (Json.obj desired.data).at? path = some v) :
    v.Admits ((Json.obj existing.data).at? path) :=
  Json.admits_of_coveredBy (needsUpdate_eq_false_iff.1 same).2 wants

/-- **Drift at any depth is noticed.** An object that is left alone has, at every place, the scalar
that is wanted there, and a list as long as the one that is wanted. So a scalar that was changed,
removed or given another type, and a list that was made longer or shorter, bring about a
replacement; nothing does that stands where it may stand. -/
theorem drift_at_any_depth_is_noticed (existing desired : Untyped) :
    (existing.needsUpdate desired = false →
      (∀ path v, (Json.obj desired.data).at? path = some v → v.isScalar = true →
        ∃ w, (Json.obj existing.data).at? path = some w ∧ v.SameScalar w) ∧
      ∀ path items, (Json.obj desired.data).at? path = some (.arr items) → items ≠ [] →
        ∃ others, (Json.obj existing.data).at? path = some (.arr others) ∧
          others.length = items.length) ∧
    ((Json.obj desired.data).Drift (.obj existing.data) → existing.needsUpdate desired = true) ∧
    ((Json.obj desired.data).IsProper → existing.metadata.differs desired.metadata = false →
      (∀ path v, (Json.obj desired.data).at? path = some v →
        v.Admits ((Json.obj existing.data).at? path)) →
      existing.needsUpdate desired = false) := by
  have scalars (same : existing.needsUpdate desired = false) (path : List Hop) (v : Json)
      (wants : (Json.obj desired.data).at? path = some v) (scalar : v.isScalar = true) :
      ∃ w, (Json.obj existing.data).at? path = some w ∧ v.SameScalar w :=
    (admits_of_not_needsUpdate same wants).exists_sameScalar scalar
  have lists (same : existing.needsUpdate desired = false) (path : List Hop) (items : List Json)
      (wants : (Json.obj desired.data).at? path = some (.arr items)) (filled : items ≠ []) :
      ∃ others, (Json.obj existing.data).at? path = some (.arr others) ∧
        others.length = items.length :=
    (admits_of_not_needsUpdate same wants).exists_list filled
  refine ⟨fun same => ⟨scalars same, lists same⟩, fun drift => ?_, fun proper metadata admits =>
    needsUpdate_eq_false_iff.2 ⟨metadata, (Json.coveredBy_iff_admits proper).2 admits⟩⟩
  cases same : existing.needsUpdate desired with
  | true => rfl
  | false =>
    cases drift with
    | scalar path wants scalar other =>
      obtain ⟨w, there, equal⟩ := scalars same path _ wants scalar
      exact absurd equal (other w there)
    | list path wants filled other =>
      obtain ⟨others, there, length⟩ := lists same path _ wants filled
      exact absurd length (other others there)

/-- Security constraints with one user. -/
def oneUserConstraints : Untyped :=
  { type := some ("security.openshift.io/v1", "SecurityContextConstraints")
    metadata := { name := some "agents" }
    data := [
      ("allowPrivilegedContainer", .bool false),
      ("priority", .int 10),
      ("runAsUser", .obj [("type", .str "RunAsAny")]),
      ("users", Json.strings ["system:serviceaccount:spire:agents"]),
      ("volumes", .arr [])] }

/-- The same constraints as they stand in the cluster, under a rule for users and with users. -/
def liveConstraints (rule : String) (users : List String) : Untyped :=
  { oneUserConstraints with
    metadata := { name := some "agents", resourceVersion := some "7" }
    data := [
      ("allowPrivilegedContainer", .bool false),
      ("priority", .double (.ofInt 10)),
      ("runAsUser", .obj [("type", .str rule), ("uid", .int 0)]),
      ("users", Json.strings users)] }

theorem drift_of_liveConstraints :
    let agents := "system:serviceaccount:spire:agents"
    let intact := liveConstraints "RunAsAny" [agents]
    (intact.needsUpdate oneUserConstraints = false ∧
      ∃ w, (Json.obj intact.data).at? [.member "priority"] = some w ∧ (Json.int 10).SameScalar w) ∧
    (liveConstraints "MustRunAs" [agents]).needsUpdate oneUserConstraints = true ∧
    (liveConstraints "RunAsAny" [agents, "system:serviceaccount:other:guest"]).needsUpdate
      oneUserConstraints = true := by
  intro agents intact
  have proper : (Json.obj oneUserConstraints.data).IsProper := by
    simp [oneUserConstraints, Json.IsProper, Json.MembersProper, Json.ItemsProper, Json.strings]
  have covered : (Json.obj oneUserConstraints.data).coveredBy (.obj intact.data) = true := by decide
  have same := (drift_at_any_depth_is_noticed intact oneUserConstraints).2.2 proper (by decide)
    (fun path v wants => Json.admits_of_coveredBy covered wants)
  have rule : (Json.obj oneUserConstraints.data).at? [.member "runAsUser", .member "type"] =
      some (.str "RunAsAny") := by decide
  have users : (Json.obj oneUserConstraints.data).at? [.member "users"] =
      some (.arr [.str agents]) := by decide
  refine ⟨⟨same, ?_⟩, ?_, ?_⟩
  · exact ((drift_at_any_depth_is_noticed _ _).1 same).1 [.member "priority"] (.int 10)
      (by decide) rfl
  · refine (drift_at_any_depth_is_noticed _ _).2.1 (.scalar _ rule rfl ?_)
    rintro w ⟨⟩ equal
    exact absurd equal.coveredBy (by decide)
  · refine (drift_at_any_depth_is_noticed _ _).2.1 (.list _ users (by decide) ?_)
    rintro others ⟨⟩
    decide

end Untyped

end WorkloadIdentity

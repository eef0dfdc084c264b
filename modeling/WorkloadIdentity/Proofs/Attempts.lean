import WorkloadIdentity.Proofs.Answers
import WorkloadIdentity.Proofs.Convergence
import WorkloadIdentity.Proofs.Metadata
import WorkloadIdentity.Proofs.Telling

namespace WorkloadIdentity

open Exchange

namespace Wanted

/-- The path that the object is looked for at. -/
def address? (w : Wanted) : Option String :=
  w.metadata.name.bind fun name => Address.path? (Api.targetOf w.collection name)

/-- The path that the object would be created at. -/
def birth? (w : Wanted) : Option String :=
  (Address.path? (w.collection.path ++ "?")).map fun path => path ++ "/" ++ w.metadata.name.getD ""

/-- A collection that is found in place of the object is not read as the object. -/
def TellsLists (w : Wanted) : Prop :=
  ∀ path, w.address? = some path →
    Server.ReadsNoList (Managed.read? : Json → Option w.kind.Object) path

theorem nameOf_toJson {w : Wanted} {name : String} (named : w.metadata.name = some name) :
    Server.nameOf (Managed.toJson w.object) = name := by
  have written : w.metadata.toJson.get? "name" = some (.str name) := by
    simp [Meta.toJson, named]
  unfold Server.nameOf
  rw [ManagedKind.get?_toJson w.object, Option.bind_some]
  change ((Json.get? "name" w.metadata.toJson).bind Json.str?).getD "" = name
  rw [written]
  rfl

variable {w : Wanted} {createOnly : Bool} {s t : Server} {path : String}

theorem address?_eq_some_iff : w.address? = some path ↔
    ∃ name, w.metadata.name = some name ∧
      Address.path? (Api.targetOf w.collection name) = some path :=
  Option.bind_eq_some_iff

/-- An object without an address is refused without a request. -/
theorem run_attempt_of_noAddress (createOnly : Bool) (noAddress : w.address? = none) :
    ∃ fault, ∀ s : Server, run Server.answer (w.attempt createOnly).run s = (.error fault, s) := by
  unfold attempt
  cases named : (Managed.metadata w.object).name with
  | none => exact ⟨_, run_apply_of_noName named⟩
  | some name =>
    have noAddress : Address.path? (Api.targetOf w.collection name) = none := by
      unfold address? metadata at noAddress
      rw [named] at noAddress
      exact noAddress
    exact ⟨_, run_apply_of_noAddress named noAddress⟩

section
variable (untroubled : t.troubles = []) (address : w.address? = some path)

include untroubled address

theorem run_attempt_of_missing (single : Server.isCollection path = false)
    (missing : t.objects.get? path = none) :
    run Server.answer (w.attempt createOnly).run t =
      run Server.answer (carryOut w.collection (w.metadata.name.getD "") (.create w.object)).run
        (t.asking [{ method := .get, path }]) := by
  obtain ⟨name, named, found⟩ := address?_eq_some_iff.1 address
  unfold attempt
  rw [run_apply named found, Server.answer_get untroubled, Server.fetched_of_none single missing,
    readLive_notFound, named]
  rfl

/-- A collection is not taken for the object, so that nothing is created. -/
theorem run_attempt_of_list (createOnly : Bool) (tells : w.TellsLists)
    (listed : Server.isCollection path = true) (missing : t.objects.get? path = none) :
    run Server.answer (w.attempt createOnly).run t =
      (.error (.api .unreadable), t.asking [{ method := .get, path }]) := by
  obtain ⟨name, named, found⟩ := address?_eq_some_iff.1 address
  have unreadable : readLive w.kind.Object (Server.list (t.objectsBelow path)) =
      .error .unreadable := tells path address listed _
  unfold attempt
  rw [run_apply named found, Server.answer_get untroubled, Server.fetched_of_list listed missing,
    unreadable]
  rfl

theorem run_attempt_of_there (createOnly : Bool) {object : Json}
    (there : t.objects.get? path = some object) :
    run Server.answer (w.attempt createOnly).run t =
      match (Managed.read? object : Option w.kind.Object) with
      | some live =>
        run Server.answer (carryOut w.collection (w.metadata.name.getD "")
          (plan (some live) w.object createOnly)).run (t.asking [{ method := .get, path }])
      | none => (.error (.api .unreadable), t.asking [{ method := .get, path }]) := by
  obtain ⟨name, named, found⟩ := address?_eq_some_iff.1 address
  unfold attempt
  rw [run_apply named found, Server.answer_get untroubled, Server.fetched_of_some there,
    readLive_value, named]
  cases (Managed.read? object : Option w.kind.Object) <;> rfl

end

theorem run_create_of_noAddress {name : String}
    (noAddress : Address.path? (w.collection.path ++ "?") = none) (t : Server) :
    run Server.answer (carryOut w.collection name (.create w.object)).run t =
      (.error (.api .badAddress), t) :=
  run_carryOut_create_of_noAddress _ noAddress t

section
variable {name birth : String} {place : String} (untroubled : t.troubles = [])
  (named : w.metadata.name = some name)
  (posted : Address.path? (w.collection.path ++ "?") = some place)

include named posted

theorem birth?_eq_some : w.birth? = some (place ++ "/" ++ name) := by
  rw [birth?, posted, named]
  rfl

include untroubled

theorem run_create_of_taken {object : Json}
    (taken : t.objects.get? (place ++ "/" ++ name) = some object) :
    run Server.answer (carryOut w.collection name (.create w.object)).run t =
      (.error (.api (.refused 409 "Failure" (place ++ "/" ++ name ++ " already exists")
        "AlreadyExists")),
        t.asking [{ method := .post, path := place, body := some (Managed.toJson w.object) }]) := by
  rw [run_carryOut_create _ posted, Server.answer_post_of_taken untroubled
    (by rw [nameOf_toJson named]; exact taken), nameOf_toJson named, readLive_alreadyExists]
  rfl

theorem objects_create_of_free (free : t.objects.get? (place ++ "/" ++ name) = none) :
    (run Server.answer (carryOut w.collection name (.create w.object)).run t).2.troubles = [] ∧
    (run Server.answer (carryOut w.collection name (.create w.object)).run t).2.objects =
      t.objects.insert (place ++ "/" ++ name)
        (Server.versioned (Managed.toJson w.object) (t.version + 1)) := by
  rw [run_carryOut_create _ posted, Server.answer_post_of_free untroubled
    (by rw [nameOf_toJson named]; exact free), nameOf_toJson named]
  exact ⟨untroubled, rfl⟩

end

/-- A live object is left alone or replaced. -/
theorem plan_some_cases {α : Type} [Managed α] (live desired : α) (createOnly : Bool) :
    ((createOnly = true ∨ Managed.needsUpdate live desired = false) ∧
      (plan (some live) desired createOnly = .skipped ∨
        plan (some live) desired createOnly = .unchanged)) ∨
    (createOnly = false ∧ Managed.needsUpdate live desired = true ∧
      plan (some live) desired createOnly = .replace (Managed.prepare live desired)) := by
  cases createOnly with
  | true => exact .inl ⟨.inl rfl, .inl rfl⟩
  | false =>
    cases differs : Managed.needsUpdate live desired with
    | true => exact .inr ⟨rfl, rfl, by simp [plan, differs]⟩
    | false => exact .inl ⟨.inr rfl, .inr (plan_of_not_needsUpdate differs)⟩

/-- How a successful attempt changes the objects of a server. -/
inductive Applied (w : Wanted) (createOnly : Bool) (path : String) :
    StringMap Json → StringMap Json → Prop
  | kept {objects : StringMap Json} (object : Json) (live : w.kind.Object)
      (there : objects.get? path = some object) (read : Managed.read? object = some live)
      (enough : createOnly = true ∨ Managed.needsUpdate live w.object = false) :
      Applied w createOnly path objects objects
  | created {objects : StringMap Json} (birth : String) (version : Nat)
      (missing : objects.get? path = none) (born : w.birth? = some birth)
      (free : objects.get? birth = none) :
      Applied w createOnly path objects
        (objects.insert birth (Server.versioned (Managed.toJson w.object) version))
  | replaced {objects : StringMap Json} (object : Json) (live : w.kind.Object) (version : Nat)
      (there : objects.get? path = some object) (read : Managed.read? object = some live)
      (updates : createOnly = false) (differs : Managed.needsUpdate live w.object = true) :
      Applied w createOnly path objects
        (objects.insert path (Server.versioned
          (Server.keepStatus object (Managed.toJson (Managed.prepare live w.object))) version))

section
variable {outcome : Outcome} (untroubled : s.troubles = []) (address : w.address? = some path)
  (ran : run Server.answer (w.attempt createOnly).run s = (.ok outcome, t))

include untroubled address ran

/-- Where nothing is found, a successful attempt creates the object. -/
theorem applied_of_missing (tells : w.TellsLists) (missing : s.objects.get? path = none) :
    t.troubles = [] ∧ w.Applied createOnly path s.objects t.objects := by
  have single : Server.isCollection path = false := by
    cases listed : Server.isCollection path with
    | false => rfl
    | true =>
      have refused := run_attempt_of_list untroubled address createOnly tells listed missing
      cases refused.symm.trans ran
  let u := s.asking [{ method := .get, path }]
  have undisturbed : u.troubles = [] := untroubled
  obtain ⟨name, named, -⟩ := address?_eq_some_iff.1 address
  rw [run_attempt_of_missing untroubled address single missing, named] at ran
  change run Server.answer (carryOut w.collection name (.create w.object)).run u = _ at ran
  cases posted : Address.path? (w.collection.path ++ "?") with
  | none => cases (run_create_of_noAddress posted u).symm.trans ran
  | some place =>
    cases free : u.objects.get? (place ++ "/" ++ name) with
    | none =>
      obtain ⟨quiet, changed⟩ := objects_create_of_free undisturbed named posted free
      rw [ran] at quiet changed
      rw [changed]
      exact ⟨quiet, .created _ _ missing (birth?_eq_some named posted) free⟩
    | some object => cases (run_create_of_taken undisturbed named posted free).symm.trans ran

/-- What is found is left alone by a successful attempt, or replaced. -/
theorem applied_of_there {object : Json} (there : s.objects.get? path = some object) :
    t.troubles = [] ∧ w.Applied createOnly path s.objects t.objects := by
  let u := s.asking [{ method := .get, path }]
  have undisturbed : u.troubles = [] := untroubled
  obtain ⟨name, named, found⟩ := address?_eq_some_iff.1 address
  rw [run_attempt_of_there untroubled address createOnly there] at ran
  cases read : (Managed.read? object : Option w.kind.Object) with
  | none =>
    rw [read] at ran
    cases ran
  | some live =>
    rw [read, named] at ran
    change run Server.answer
      (carryOut w.collection name (plan (some live) w.object createOnly)).run u = _ at ran
    rcases plan_some_cases live w.object createOnly with
      ⟨enough, planned | planned⟩ | ⟨updates, differs, planned⟩
    · rw [planned] at ran
      obtain rfl : u = t := congrArg Prod.snd ran
      exact ⟨untroubled, .kept object live there read enough⟩
    · rw [planned] at ran
      obtain rfl : u = t := congrArg Prod.snd ran
      exact ⟨untroubled, .kept object live there read enough⟩
    · rw [planned, run_carryOut_replace _ found, Server.answer_put undisturbed there] at ran
      obtain rfl : _ = t := congrArg Prod.snd ran
      exact ⟨untroubled, .replaced object live _ there read updates differs⟩

end

/-- What a successful attempt changes. -/
theorem applied_of_run {outcome : Outcome} (untroubled : s.troubles = []) (tells : w.TellsLists)
    (ran : run Server.answer (w.attempt createOnly).run s = (.ok outcome, t)) :
    t.troubles = [] ∧ ∃ path, w.address? = some path ∧
      w.Applied createOnly path s.objects t.objects := by
  cases address : w.address? with
  | none =>
    obtain ⟨fault, refused⟩ := run_attempt_of_noAddress createOnly address
    cases (refused s).symm.trans ran
  | some path =>
    cases there : s.objects.get? path with
    | none =>
      obtain ⟨quiet, applied⟩ := applied_of_missing untroubled address ran tells there
      exact ⟨quiet, path, rfl, applied⟩
    | some object =>
      obtain ⟨quiet, applied⟩ := applied_of_there untroubled address ran there
      exact ⟨quiet, path, rfl, applied⟩

/-- Applying the object changes nothing: what is found at its path is enough or cannot be read, and
where nothing is found, the place of a creation is taken. -/
def IsStill (w : Wanted) (createOnly : Bool) (objects : StringMap Json) : Prop :=
  ∀ path, w.address? = some path →
    match objects.get? path with
    | some object => ∀ live : w.kind.Object, Managed.read? object = some live →
        createOnly = true ∨ Managed.needsUpdate live w.object = false
    | none => ∀ birth, w.birth? = some birth → (objects.get? birth).isSome

/-- What is found at the path of the object cannot be read, so that applying it fails. -/
def IsBlocked (w : Wanted) (objects : StringMap Json) : Prop :=
  ∃ path object, w.address? = some path ∧ objects.get? path = some object ∧
    (Managed.read? object : Option w.kind.Object) = none

/-- Requests that replace and patch nothing. -/
def Harmless (asked : List Request) : Prop := ∀ r ∈ asked, r.method = .get ∨ r.method = .post

/-- A result, with the requests it takes, that an attempt has at all servers that show the same. -/
def Rests (w : Wanted) (createOnly : Bool) (s : Server) (sight : String → Prop) : Prop :=
  ∃ result asked, Harmless asked ∧ (w.IsBlocked s.objects → ∃ fault, result = .error fault) ∧
    ∀ t, s.Shows sight t →
      run Server.answer (w.attempt createOnly).run t = (result, t.asking asked)

theorem rests_of_missing {sight : String → Prop} (address : w.address? = some path)
    (single : Server.isCollection path = false) (missing : s.objects.get? path = none)
    (taken : ∀ birth, w.birth? = some birth → (s.objects.get? birth).isSome)
    (seen : ∀ path, w.address? = some path ∨ w.birth? = some path → sight path) :
    w.Rests createOnly s sight := by
  obtain ⟨name, named, -⟩ := address?_eq_some_iff.1 address
  let get : Request := { method := .get, path }
  have fetched (t : Server) (h : s.Shows sight t) :
      run Server.answer (w.attempt createOnly).run t =
        run Server.answer (carryOut w.collection name (.create w.object)).run (t.asking [get]) := by
    have missing := (h.objects path (seen path (.inl address))).trans missing
    rw [run_attempt_of_missing h.untroubled address single missing, named]
    rfl
  cases posted : Address.path? (w.collection.path ++ "?") with
  | none =>
    refine ⟨.error (.api .badAddress), [get], by simp [Harmless, get], fun _ => ⟨_, rfl⟩,
      fun t h => ?_⟩
    rw [fetched t h, run_create_of_noAddress posted]
  | some place =>
    have birth := birth?_eq_some named posted
    obtain ⟨object, taken⟩ := Option.isSome_iff_exists.1 (taken _ birth)
    let post : Request := { method := .post, path := place, body := some (Managed.toJson w.object) }
    refine ⟨.error (.api (.refused 409 "Failure" (place ++ "/" ++ name ++ " already exists")
      "AlreadyExists")), [post, get], by simp [Harmless, get, post], fun _ => ⟨_, rfl⟩,
      fun t h => ?_⟩
    have taken : (t.asking [get]).objects.get? (place ++ "/" ++ name) = some object :=
      (h.objects _ (seen _ (.inr birth))).trans taken
    rw [fetched t h, run_create_of_taken (h.asking [get]).untroubled named posted taken,
      Server.asking_asking]
    rfl

theorem rests_of_list {sight : String → Prop} (address : w.address? = some path)
    (tells : w.TellsLists) (listed : Server.isCollection path = true)
    (missing : s.objects.get? path = none)
    (seen : ∀ path, w.address? = some path ∨ w.birth? = some path → sight path) :
    w.Rests createOnly s sight := by
  refine ⟨.error (.api .unreadable), [{ method := .get, path }], by simp [Harmless],
    fun _ => ⟨_, rfl⟩, fun t h => ?_⟩
  exact run_attempt_of_list h.untroubled address createOnly tells listed
    ((h.objects path (seen path (.inl address))).trans missing)

theorem rests_of_there {sight : String → Prop} {object : Json} (address : w.address? = some path)
    (there : s.objects.get? path = some object)
    (enough : ∀ live : w.kind.Object, Managed.read? object = some live →
      createOnly = true ∨ Managed.needsUpdate live w.object = false)
    (seen : ∀ path, w.address? = some path ∨ w.birth? = some path → sight path) :
    w.Rests createOnly s sight := by
  let get : Request := { method := .get, path }
  have fetched (t : Server) (h : s.Shows sight t) :=
    run_attempt_of_there h.untroubled address createOnly
      ((h.objects path (seen path (.inl address))).trans there)
  cases read : (Managed.read? object : Option w.kind.Object) with
  | none =>
    refine ⟨.error (.api .unreadable), [get], by simp [Harmless, get], fun _ => ⟨_, rfl⟩,
      fun t h => ?_⟩
    rw [fetched t h, read]
  | some live =>
    have readable : ¬ w.IsBlocked s.objects := by
      rintro ⟨path', object', address', there', unreadable⟩
      cases address.symm.trans address'
      cases there.symm.trans there'
      cases read.symm.trans unreadable
    rcases plan_some_cases live w.object createOnly with
      ⟨-, planned | planned⟩ | ⟨updates, differs, -⟩
    · refine ⟨.ok .skipped, [get], by simp [Harmless, get], (absurd · readable), fun t h => ?_⟩
      rw [fetched t h, read]
      dsimp only
      rw [planned]
      rfl
    · refine ⟨.ok .unchanged, [get], by simp [Harmless, get], (absurd · readable), fun t h => ?_⟩
      rw [fetched t h, read]
      dsimp only
      rw [planned]
      rfl
    · rcases enough live read with always | enough
      · cases updates.symm.trans always
      · cases differs.symm.trans enough

/-- When there is nothing to do, nothing is done: the attempt has the same result, with the same
requests, at all servers that show the same objects where it looks. -/
theorem rests_attempt (still : w.IsStill createOnly s.objects) (tells : w.TellsLists)
    {sight : String → Prop}
    (seen : ∀ path, w.address? = some path ∨ w.birth? = some path → sight path) :
    w.Rests createOnly s sight := by
  cases address : w.address? with
  | none =>
    obtain ⟨fault, refused⟩ := run_attempt_of_noAddress createOnly address
    exact ⟨.error fault, [], nofun, fun _ => ⟨_, rfl⟩, fun t _ => refused t⟩
  | some path =>
    have still := still path address
    cases there : s.objects.get? path with
    | none =>
      rw [there] at still
      cases listed : Server.isCollection path with
      | true => exact rests_of_list address tells listed there seen
      | false => exact rests_of_missing address listed there still seen
    | some object =>
      rw [there] at still
      exact rests_of_there address there still seen

end Wanted

end WorkloadIdentity

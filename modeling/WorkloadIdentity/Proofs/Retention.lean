import WorkloadIdentity.Proofs.Answers
import WorkloadIdentity.Proofs.Attempts
import WorkloadIdentity.Proofs.Concurrency
import WorkloadIdentity.Proofs.Holdings

namespace WorkloadIdentity

open Exchange

/-- Whether a disturbed request fails, so that nothing passes for an object. -/
def Disturbance.IsFailure : Disturbance → Prop
  | drop => True
  | reply code _ => Api.isRefusal code = true
  | refuse code _ _ => Api.isRefusal code = true

namespace Server

/-- Whether all disturbed requests fail. -/
def IsHonest (s : Server) : Prop := ∀ t ∈ s.troubles, t.disturbance.IsFailure

variable {s : Server} {r : Request}

theorem mem_of_disturb {troubles left : List Trouble} {d : Disturbance}
    (h : disturb r troubles = some (d, left)) :
    (∃ t ∈ troubles, t.disturbance = d) ∧
      ∀ t ∈ left, ∃ was ∈ troubles, was.disturbance = t.disturbance := by
  induction troubles generalizing left with
  | nil => cases h
  | cons t rest ih =>
    rw [disturb] at h
    split at h
    · injection h with h
      injection h with here later
      subst here later
      refine ⟨⟨t, List.mem_cons_self, rfl⟩, fun u mem => ?_⟩
      rcases List.mem_append.1 mem with next | mem
      · refine ⟨t, List.mem_cons_self, ?_⟩
        have next : t.next = some u := by simpa using next
        unfold Trouble.next at next
        split at next
        · rw [← Option.some.inj next]
        · split at next
          · cases next
          · rw [← Option.some.inj next]
      · exact ⟨u, List.mem_cons_of_mem _ mem, rfl⟩
    · obtain ⟨⟨d', left'⟩, found, e⟩ := Option.map_eq_some_iff.1 h
      injection e with here later
      subst here later
      obtain ⟨⟨u, mem, same⟩, kept⟩ := ih found
      refine ⟨⟨u, List.mem_cons_of_mem _ mem, same⟩, fun x mem => ?_⟩
      rcases List.mem_cons.1 mem with rfl | mem
      · exact ⟨x, List.mem_cons_self, rfl⟩
      · obtain ⟨was, mem, same⟩ := kept x mem
        exact ⟨was, List.mem_cons_of_mem _ mem, same⟩

theorem troubles_handle (s : Server) (r : Request) : (s.handle r).2.troubles = s.troubles := by
  unfold handle
  cases r.method <;> dsimp only <;> repeat (first | rfl | split)

/-- A request fails and changes nothing, or it is handled. -/
theorem answer_cases (honest : s.IsHonest) (r : Request) :
    (∃ d : Disturbance, d.IsFailure ∧ (s.answer r).1 = disturbedReply d ∧
      (s.answer r).2.objects = s.objects) ∨
    s.answer r = (s.asking [r]).handle r := by
  unfold answer
  dsimp only
  split
  · rename_i d troubles disturbed
    obtain ⟨⟨t, mem, rfl⟩, -⟩ := mem_of_disturb disturbed
    exact .inl ⟨t.disturbance, honest t mem, rfl, rfl⟩
  · exact .inr rfl

theorem IsHonest.answer (honest : s.IsHonest) (r : Request) : (s.answer r).2.IsHonest := by
  intro t mem
  unfold Server.answer at mem
  dsimp only at mem
  split at mem
  · rename_i d troubles disturbed
    obtain ⟨was, there, same⟩ := (mem_of_disturb disturbed).2 t mem
    exact same ▸ honest was there
  · rw [troubles_handle] at mem
    exact honest t mem

theorem readLive_disturbed {α : Type} [Managed α] {d : Disturbance} (failure : d.IsFailure)
    (live : α) : readLive α (disturbedReply d) ≠ .ok live := by
  cases d with
  | drop => exact nofun
  | reply code text =>
    have refused : Api.isRefusal code = true := failure
    simp [readLive, Api.readReply, disturbedReply, refused]
  | refuse code reason message =>
    have refused : Api.isRefusal code = true := failure
    simp [readLive, Api.readReply, disturbedReply, Server.refuse, refused]

/-- A fetch changes no object. -/
theorem objects_answer_get (honest : s.IsHonest) (path : String) :
    (s.answer { method := .get, path }).2.objects = s.objects := by
  rcases answer_cases honest { method := .get, path } with ⟨d, -, -, same⟩ | handled
  · exact same
  · rw [handled]
    unfold handle
    dsimp only
    split
    · rfl
    · split <;> rfl

variable {path : String} {v : Json}

/-- What is fetched where an object is stored is the object. -/
theorem read?_of_answer_get {α : Type} [Managed α] {live : α} (honest : s.IsHonest)
    (stored : s.objects.get? path = some v)
    (read : readLive α (s.answer { method := .get, path }).1 = .ok live) :
    Managed.read? v = some live := by
  rcases answer_cases honest { method := .get, path } with ⟨d, failure, reply, -⟩ | handled
  · rw [reply] at read
    exact absurd read (readLive_disturbed failure live)
  · have there : (s.asking [{ method := .get, path }]).objects.get? path = some v := stored
    simp only [handled, handle, there] at read
    rw [readLive_value] at read
    split at read
    · rename_i found
      injection read with read
      rw [found, read]
    · cases read

/-- No object is created where one is. -/
theorem get?_answer_post (honest : s.IsHonest) (stored : s.objects.get? path = some v)
    (collection : String) (body : Json) :
    (s.answer { method := .post, path := collection, body := some body }).2.objects.get? path =
      some v := by
  rcases answer_cases honest { method := .post, path := collection, body := some body } with
    ⟨d, -, -, same⟩ | handled
  · rw [same, stored]
  · have there : (s.asking [{ method := .post, path := collection, body := some body }]
        ).objects.get? path = some v := stored
    rw [handled]
    unfold handle
    dsimp only
    split
    · exact there
    · rename_i free
      have ne : path ≠ collection ++ "/" ++ nameOf ((some body).getD .null) := by
        rintro rfl
        rw [there] at free
        cases free
      simp only [store, StringMap.get?_insert, if_neg ne]
      exact there

/-- A replacement changes the object at its path, or nothing. -/
theorem get?_answer_put (honest : s.IsHonest) (stored : s.objects.get? path = some v)
    (target : String) (body : Json) :
    let after := (s.answer { method := .put, path := target, body := some body }).2
    after.objects.get? path = some v ∨
      target = path ∧ ∃ version,
        after.objects.get? path = some (versioned (keepStatus v body) version) := by
  intro after
  rcases answer_cases honest { method := .put, path := target, body := some body } with
    ⟨d, -, -, same⟩ | handled
  · exact .inl (by rw [same, stored])
  · have there : (s.asking [{ method := .put, path := target, body := some body }]
        ).objects.get? path = some v := stored
    by_cases here : target = path
    · subst here
      refine .inr ⟨rfl, s.version + 1, ?_⟩
      simp only [after, handled, handle, there, store, StringMap.get?_insert, if_true]
      rfl
    · refine .inl ?_
      simp only [after, handled, handle]
      split
      · simp only [store, StringMap.get?_insert, if_neg (Ne.symm here)]
        exact there
      · exact there

end Server

section
variable {kind : ManagedKind} {c : Collection} {desired : kind.Object} {s : Server} {path : String}
  {v : Json}

/-- Whether a stored object is as it was, or replaced by a wanted one with what is carried over. -/
def KeptOrReplaced (desired : kind.Object) (v : Json) (after : Option Json) : Prop :=
  after = some v ∨ ∃ (live : kind.Object) (version : Nat), Managed.read? v = some live ∧
    after = some (Server.versioned (Server.keepStatus v
      (Managed.toJson (Managed.prepare live desired))) version)

theorem stored_of_create (honest : s.IsHonest) (stored : s.objects.get? path = some v)
    (name : String) :
    let after := (run Server.answer (carryOut c name (.create desired)).run s).2
    after.IsHonest ∧ after.objects.get? path = some v := by
  intro after
  cases found : Address.path? (c.path ++ "?") with
  | none =>
    have atEnd : after = s := congrArg Prod.snd (run_carryOut_create_of_noAddress desired found s)
    rw [atEnd]
    exact ⟨honest, stored⟩
  | some collection =>
    have atEnd : after = _ := congrArg Prod.snd (run_carryOut_create desired found s)
    rw [atEnd]
    exact ⟨honest.answer _, Server.get?_answer_post honest stored collection _⟩

theorem stored_of_plan {live : kind.Object} {name target : String} (honest : s.IsHonest)
    (stored : s.objects.get? path = some v) (read : target = path → Managed.read? v = some live)
    (found : Address.path? (Api.targetOf c name) = some target) :
    let after := (run Server.answer (carryOut c name (plan (some live) desired false)).run s).2
    after.IsHonest ∧ KeptOrReplaced desired v (after.objects.get? path) := by
  intro after
  rcases Wanted.plan_some_cases live desired false with ⟨-, planned | planned⟩ | ⟨-, -, planned⟩
  · have atEnd : after = s := by
      simp only [after, planned]
      rfl
    rw [atEnd]
    exact ⟨honest, .inl stored⟩
  · have atEnd : after = s := by
      simp only [after, planned]
      rfl
    rw [atEnd]
    exact ⟨honest, .inl stored⟩
  · let body := Managed.toJson (Managed.prepare live desired)
    have atEnd : after = (s.answer { method := .put, path := target, body := some body }).2 := by
      simp only [after, planned]
      exact congrArg Prod.snd (run_carryOut_replace _ found s)
    rw [atEnd]
    refine ⟨honest.answer _, ?_⟩
    rcases Server.get?_answer_put honest stored target body with kept | ⟨here, version, replaced⟩
    · exact .inl kept
    · exact .inr ⟨live, version, read here, replaced⟩

/-- **What applying a wanted object can do to a stored one**: it is kept, or it is replaced by the
wanted object with what is carried over from what was read of it. -/
theorem stored_of_apply (desired : kind.Object) (honest : s.IsHonest)
    (stored : s.objects.get? path = some v) :
    let after := (run Server.answer (apply c desired false).run s).2
    after.IsHonest ∧ KeptOrReplaced desired v (after.objects.get? path) := by
  intro after
  cases named : (Managed.metadata desired).name with
  | none =>
    have atEnd : after = s := congrArg Prod.snd (run_apply_of_noName named s)
    rw [atEnd]
    exact ⟨honest, .inl stored⟩
  | some name =>
    cases found : Address.path? (Api.targetOf c name) with
    | none =>
      have atEnd : after = s := congrArg Prod.snd (run_apply_of_noAddress named found s)
      rw [atEnd]
      exact ⟨honest, .inl stored⟩
    | some target =>
      have honest' := honest.answer { method := .get, path := target }
      have stored' : (s.answer { method := .get, path := target }).2.objects.get? path =
          some v := by
        rw [Server.objects_answer_get honest, stored]
      rcases run_apply_cases named found s with ⟨live, read, ran⟩ | ⟨fault, -, -, ran⟩ |
        ⟨fault, -, -, ran⟩
      · have atEnd : after = _ := congrArg Prod.snd ran
        rw [atEnd]
        refine stored_of_plan honest' stored' (fun here => ?_) found
        subst here
        exact Server.read?_of_answer_get honest stored read
      · have atEnd : after = _ := congrArg Prod.snd ran
        rw [atEnd]
        obtain ⟨honest'', kept⟩ := stored_of_create honest' stored' name
        exact ⟨honest'', .inl kept⟩
      · have atEnd : after = _ := congrArg Prod.snd ran
        rw [atEnd]
        exact ⟨honest', .inl stored'⟩

end

namespace ManagedKind

/-- What a stored object keeps: all of it if it cannot be read, its labels and annotations, and what
it holds for others if that is left to them. -/
structure Retains (kind : ManagedKind) (leaves : Prop) (v v' : Json) : Prop where
  unread : (Managed.read? v : Option kind.Object) = none → v' = v
  marks : ∀ mark key, ((v.marks mark).get? key).isSome → ((v'.marks mark).get? key).isSome
  complete : leaves → kind.IsComplete v → kind.IsComplete v'
  holdings : leaves → kind.IsComplete v → kind.holdings v' = kind.holdings v

variable {kind : ManagedKind} {leaves : Prop} {u v v' : Json} {desired : kind.Object}

theorem Retains.refl (kind : ManagedKind) (leaves : Prop) (v : Json) : kind.Retains leaves v v where
  unread _ := rfl
  marks _ _ := id
  complete _ := id
  holdings _ _ := rfl

theorem Retains.trans (first : kind.Retains leaves u v) (second : kind.Retains leaves v v') :
    kind.Retains leaves u v' where
  unread unread := by
    have same := first.unread unread
    subst same
    exact second.unread unread
  marks mark key present := second.marks mark key (first.marks mark key present)
  complete left whole := second.complete left (first.complete left whole)
  holdings left whole :=
    (second.holdings left (first.complete left whole)).trans (first.holdings left whole)

theorem Retains.mono {less : Prop} (fewer : less → leaves) (retains : kind.Retains leaves v v') :
    kind.Retains less v v' where
  unread := retains.unread
  marks := retains.marks
  complete left := retains.complete (fewer left)
  holdings left := retains.holdings (fewer left)

/-- **One step**: what is stored after a replacement retains what was stored before it. -/
theorem retains_stored (once : kind.WritesOnce desired)
    (stored : KeptOrReplaced desired v (some v')) : kind.Retains (kind.Leaves desired) v v' := by
  rcases stored with kept | ⟨live, version, read, replaced⟩
  · rw [Option.some.inj kept]
    exact .refl kind _ v
  have proper : (Managed.metadata (Managed.prepare live desired)).others.Avoid
      Meta.fieldNames := by
    rw [metadata_prepare]
    exact once.metadata
  have stores := stores_kept proper v version
  rw [← Option.some.inj replaced] at stores
  constructor
  · intro unread
    rw [unread] at read
    cases read
  · intro mark key present
    rw [Json.marks, stores.marks, metadata_prepare, Mark.of_carry, Labels.get?_mergeOptional,
      (agrees_of_read? read).marks, Option.isSome_or, Bool.or_eq_true]
    exact .inr present
  · exact fun left _ => isComplete_of_stores left stores
  · exact fun left whole => holdings_of_stores read whole once left stores

end ManagedKind

section
variable {kind : ManagedKind}

/-- The server after wanted objects have been applied, one after the other, whatever became of the
single ones. -/
def applyAll (c : Collection) (desired : List kind.Object) (s : Server) : Server :=
  desired.foldl (fun s d => (run Server.answer (apply c d false).run s).2) s

/-- **What belongs to others survives every sequence of applies.** Whichever objects of its kind are
applied one after the other to a stored object, and whichever requests fail: no key of its labels
and annotations is lost; and if it has a specification where its kind has one, and the wanted
objects leave to others what is theirs, then it says of that what it has said, and what is read of
it holds what has been read before. -/
theorem applyAll_retains (kind : ManagedKind) (c : Collection) {desired : List kind.Object}
    (once : ∀ d ∈ desired, kind.WritesOnce d) {s : Server} (honest : s.IsHonest) {path : String}
    {v : Json} (stored : s.objects.get? path = some v) :
    ∃ v', (applyAll c desired s).objects.get? path = some v' ∧
      kind.Retains (∀ d ∈ desired, kind.Leaves d) v v' ∧
      ((∀ d ∈ desired, kind.Leaves d) → kind.IsComplete v → ∀ live live' : kind.Object,
        Managed.read? v = some live → Managed.read? v' = some live' →
          kind.HoldsAs live live') := by
  obtain ⟨v', there, retains⟩ : ∃ v', (applyAll c desired s).objects.get? path = some v' ∧
      kind.Retains (∀ d ∈ desired, kind.Leaves d) v v' := by
    induction desired generalizing s v with
    | nil => exact ⟨v, stored, .refl kind _ v⟩
    | cons d rest ih =>
      obtain ⟨onceHere, onceLater⟩ := List.forall_mem_cons.1 once
      obtain ⟨honest', after⟩ := stored_of_apply (c := c) d honest stored
      obtain ⟨next, there⟩ : ∃ next,
          (run Server.answer (apply c d false).run s).2.objects.get? path = some next := by
        rcases after with kept | ⟨live, version, -, replaced⟩
        · exact ⟨v, kept⟩
        · exact ⟨_, replaced⟩
      rw [there] at after
      have step := ManagedKind.retains_stored onceHere after
      obtain ⟨v', atEnd, retains⟩ := ih onceLater honest' there
      refine ⟨v', atEnd, (step.mono fun left => ?_).trans (retains.mono fun left => ?_)⟩
      · exact left d List.mem_cons_self
      · exact fun d' mem => left d' (List.mem_cons_of_mem _ mem)
  refine ⟨v', there, retains, fun left whole live live' read read' => ?_⟩
  exact ManagedKind.holdsAs_of_holdings read read' whole (retains.complete left whole)
    (retains.holdings left whole)

end

/-- A wanted service with a port, and with an address that it is not going to get. -/
def wantedService (port : Int) : Service where
  metadata := { name := some "spire-server", labels := some (.ofList [("app", "server")]) }
  spec := some { ports := some [{ name := some "grpc", port }], clusterIP := some "None" }

/-- A service as it is stored, with the address that the server has chosen. -/
def addressedService (labels : Members) (port : Int) (version : String) : Json :=
  .obj [("apiVersion", .str "v1"), ("kind", .str "Service"),
    ("metadata", .obj [("name", .str "spire-server"), ("resourceVersion", .str version),
      ("labels", .obj labels)]),
    ("spec", .obj [("clusterIP", .str "10.0.0.7"), ("clusterIPs", Json.strings ["10.0.0.7"]),
      ("ipFamilies", Json.strings ["IPv4"]), ("ipFamilyPolicy", .str "SingleStack"),
      ("ports", .arr [.obj [("name", .str "grpc"), ("port", .int port)]])])]

/-- A server that keeps the service, and that loses the first replacement. -/
def addressedServer : Server where
  objects := .ofList [("/api/v1/namespaces/spire/services/spire-server",
    addressedService [("team", .str "red")] 80 "1")]
  version := 1
  troubles := [{ method := .put, path := "/api/v1/namespaces/spire/services/spire-server",
                 remaining := some 1, disturbance := .drop }]

/-- What is wanted of the service, first and then. -/
def wantedServices : List (ManagedKind.Object .service) := [wantedService 8081, wantedService 8082]

theorem applyAll_retains_wantedServices :
    (∀ d ∈ wantedServices, ManagedKind.service.WritesOnce d) ∧ addressedServer.IsHonest ∧
    addressedServer.objects.get? "/api/v1/namespaces/spire/services/spire-server" =
      some (addressedService [("team", .str "red")] 80 "1") ∧
    ∃ v', (applyAll (.services "spire") wantedServices addressedServer).objects.get?
        "/api/v1/namespaces/spire/services/spire-server" = some v' ∧
      v' = addressedService [("app", .str "server"), ("team", .str "red")] 8082 "2" ∧
      ManagedKind.service.Retains True (addressedService [("team", .str "red")] 80 "1") v' ∧
      ManagedKind.service.holdings v' = [some (.str "10.0.0.7"), some (Json.strings ["10.0.0.7"]),
        some (Json.strings ["IPv4"]), some (.str "SingleStack")] := by
  have once : ∀ d ∈ wantedServices, ManagedKind.service.WritesOnce d := by
    have each : ∀ d ∈ wantedServices, Managed.read? (Managed.toJson d) = some d :=
      List.forall_mem_cons.2 ⟨rfl, List.forall_mem_singleton.2 rfl⟩
    exact fun d mem => ManagedKind.writesOnce_of_read? (each d mem)
  have honest : addressedServer.IsHonest := List.forall_mem_singleton.2 trivial
  have stored : addressedServer.objects.get? "/api/v1/namespaces/spire/services/spire-server" =
      some (addressedService [("team", .str "red")] 80 "1") := by
    decide +kernel
  have replaced : (applyAll (.services "spire") wantedServices addressedServer).objects.get?
      "/api/v1/namespaces/spire/services/spire-server" =
        some (addressedService [("app", .str "server"), ("team", .str "red")] 8082 "2") := by
    decide +kernel
  have left : ∀ d ∈ wantedServices, ManagedKind.service.Leaves d :=
    List.forall_mem_cons.2 ⟨rfl, List.forall_mem_singleton.2 rfl⟩
  have whole : ManagedKind.service.IsComplete (addressedService [("team", .str "red")] 80 "1") :=
    fun _ => ⟨_, rfl, rfl⟩
  obtain ⟨v', there, retains, -⟩ :=
    applyAll_retains .service (.services "spire") once honest stored
  refine ⟨once, honest, stored, v', there, ?_, retains.mono fun _ => left, ?_⟩
  · rw [replaced] at there
    exact (Option.some.inj there).symm
  · exact retains.holdings left whole

end WorkloadIdentity

import WorkloadIdentity.Proofs.Answers
import WorkloadIdentity.Proofs.Applying
import WorkloadIdentity.Proofs.Metadata
import WorkloadIdentity.Proofs.Normal
import WorkloadIdentity.Proofs.Notes
import WorkloadIdentity.Pass.Operand

namespace WorkloadIdentity

namespace Condition

/-- The generation that a condition mentions is a number of 64 bits. -/
def IsWritable (c : Condition) : Prop :=
  ∀ g, c.observedGeneration = some g → Json.int64? (.int g) = some g

variable {c : Condition} {conditions : List Condition} {v : Json}

theorem ofJson?_toJson (writable : c.IsWritable) : ofJson? c.toJson = some c := by
  obtain ⟨type, status, reason, message, since, generation⟩ := c
  have readStatus : readStatus (.str status.text) = some status :=
    ConditionStatus.ofText?_text status
  cases since <;> cases generation with
  | none =>
    simp [ofJson?, toJson, Json.record?, Members.required, Members.withDefault, Members.optional,
      Json.optional, readStatus]
  | some g =>
    simp [ofJson?, toJson, Json.record?, Members.required, Members.withDefault, Members.optional,
      Json.optional, readStatus, writable g rfl]

theorem listOfJson?_listToJson (writable : ∀ c ∈ conditions, c.IsWritable) :
    listOfJson? (listToJson conditions) = some conditions :=
  Json.list?_map fun c hc => ofJson?_toJson (writable c hc)

theorem int64?_of_int64? {g : Int} (h : Json.int64? v = some g) :
    Json.int64? (.int g) = some g :=
  Json.intIn?_again h

theorem isWritable_of_ofJson? (h : ofJson? v = some c) : c.IsWritable := by
  simp only [ofJson?, Option.bind_eq_bind, Option.bind_eq_some_iff, Option.pure_def,
    Option.some.injEq] at h
  obtain ⟨ms, -, type, -, status, -, reason, -, message, -, since, -, generation, read, rfl⟩ := h
  intro g mentioned
  cases mentioned
  obtain ⟨v, -, read⟩ := Members.exists_of_optional read
  exact int64?_of_int64? read

theorem isWritable_of_listOfJson? (h : listOfJson? v = some conditions) :
    ∀ c ∈ conditions, c.IsWritable := by
  cases v with
  | arr items =>
    simp only [listOfJson?, Json.list?] at h
    induction items generalizing conditions with
    | nil =>
      obtain rfl : [] = conditions := by simpa using h
      exact List.forall_mem_nil _
    | cons x rest ih =>
      obtain ⟨c, others, here, later, rfl⟩ := Shape.mapM_cons_eq_some h
      exact List.forall_mem_cons.2 ⟨isWritable_of_ofJson? here, ih later⟩
  | _ => cases h

/-- The conditions of a status that has been read can be written. -/
theorem isWritable_of_withDefault {members : Members}
    (h : members.withDefault "conditions" [] listOfJson? = some conditions) :
    ∀ c ∈ conditions, c.IsWritable := by
  refine Members.value_of_withDefault h ?_ fun v conditions => isWritable_of_listOfJson?
  exact List.forall_mem_nil _

theorem isWritable_upsert {new : Condition} (writable : ∀ c ∈ conditions, c.IsWritable)
    (here : new.IsWritable) : ∀ c ∈ upsert new conditions, c.IsWritable := by
  induction conditions with
  | nil => simpa [upsert] using here
  | cons c rest ih =>
    obtain ⟨first, rest⟩ := List.forall_mem_cons.1 writable
    rw [upsert]
    split
    · refine List.forall_mem_cons.2 ⟨?_, rest⟩
      unfold succeed
      split <;> exact here
    · exact List.forall_mem_cons.2 ⟨first, ih rest⟩

end Condition

/-- A pass over a resource whose generation fits writes only conditions that can be read again. -/
theorem Recorder.isWritable_write {r : Recorder} (fits : ∀ g, r.generation = some g →
      Json.int64? (.int g) = some g)
    (writable : ∀ c ∈ r.conditions, c.IsWritable) (now : String) (notes : List Note) :
    ∀ c ∈ (r.write now notes).conditions, c.IsWritable := by
  induction notes generalizing r with
  | nil => exact writable
  | cons n rest ih => exact ih (r := r.put now n) fits (Condition.isWritable_upsert writable fits)

namespace Shape

variable {fields : Fields} {name : String}

/-- Writing a text into a record that can be read leaves what is found under other names. -/
theorem readMembers_insert_text {always : Bool} {members found : Members}
    (once : (fields.map Prod.fst).Nodup)
    (known : List.lookup name fields = some (always, .text)) (t : String)
    (h : readMembers fields members = some found) :
    ∃ found', readMembers fields (Json.insertMember name (.str t) members) = some found' ∧
      ∀ k, k ≠ name → Json.lookup k found' = Json.lookup k found := by
  induction fields generalizing found with
  | nil => cases known
  | cons head rest ih =>
    obtain ⟨k, always', shape⟩ := head
    obtain ⟨notIn, once⟩ := List.nodup_cons.1 once
    rw [readMembers_cons] at h ⊢
    obtain ⟨others, later, h⟩ := Option.bind_eq_some_iff.1 h
    obtain ⟨here, fits, rfl⟩ := Option.map_eq_some_iff.1 h
    rw [WorkloadIdentity.lookup_cons_ite] at known
    rw [Json.lookup_insertMember]
    by_cases e : name = k
    · subst e
      rw [if_pos rfl] at known
      cases known
      have same : readMembers rest (Json.insertMember name (.str t) members) = some others := by
        rw [← later]
        refine readMembers_congr fun k hk => ?_
        have ne : k ≠ name := fun e => notIn (e ▸ hk)
        rw [Json.lookup_insertMember, if_neg ne]
      have written : readMember always text (some (.str t)) = some (some (.str t)) := rfl
      refine ⟨_, by rw [same, if_pos rfl, written]; rfl, fun k ne => ?_⟩
      rw [Json.lookup_append, Json.lookup_append, Json.lookup_optional, Json.lookup_optional,
        if_neg ne, if_neg ne]
    · rw [if_neg e] at known
      obtain ⟨others', later', same⟩ := ih once known later
      refine ⟨_, by rw [later', if_neg (Ne.symm e), fits]; rfl, fun j ne => ?_⟩
      rw [Json.lookup_append, Json.lookup_append, same j ne]

end Shape

namespace Meta

/-- What of the metadata of a resource a pass looks at. -/
structure Continues (m m' : Meta) : Prop where
  name : m'.name = m.name
  generateName : m'.generateName = m.generateName
  uid : m'.uid = m.uid
  generation : m'.generation = m.generation

variable {v : Json} {m m' : Meta}

theorem Continues.anyName (h : m.Continues m') : m'.anyName = m.anyName := by
  rw [Meta.anyName, h.name, h.generateName, Meta.anyName]

theorem read?_insert_version (h : Meta.read? v = some m) (version : String) :
    ∃ m', Meta.read? (v.insert "resourceVersion" (.str version)) = some m' ∧ m.Continues m' := by
  obtain ⟨w, read, rfl⟩ := Option.map_eq_some_iff.1 h
  obtain ⟨members, found, rfl, rfl, each⟩ := Shape.read_record_eq_some read
  obtain ⟨found', each', same⟩ := Shape.readMembers_insert_text (by decide)
    (rfl : List.lookup "resourceVersion" _ = some (_, Shape.text)) version each
  refine ⟨Meta.ofJson (.obj found'), ?_, ?_, ?_, ?_, ?_⟩
  · have read : Catalog.objectMeta.read
        (Json.obj (Json.insertMember "resourceVersion" (.str version) members)) =
        some (.obj found') := by
      rw [Catalog.objectMeta, Shape.read, each']
      rfl
    exact congrArg (Option.map Meta.ofJson) read
  · exact congrArg (·.bind Json.str?) (same "name" (by decide))
  · exact congrArg (·.bind Json.str?) (same "generateName" (by decide))
  · exact congrArg (·.bind Json.str?) (same "uid" (by decide))
  · exact congrArg (·.bind Json.int?) (same "generation" (by decide))

/-- The generation of metadata that has been read is a number of 64 bits. -/
theorem generation_fits (h : Meta.read? v = some m) (g : Int) (given : m.generation = some g) :
    Json.int64? (.int g) = some g := by
  obtain ⟨w, read, rfl⟩ := Option.map_eq_some_iff.1 h
  have each := Shape.readMember_get? (by decide) read (rfl : List.lookup "generation" _ = some _)
  obtain ⟨x, here, isInt⟩ := Option.bind_eq_some_iff.1 given
  rw [here] at each
  cases found : v.get? "generation" with
  | none =>
    rw [found] at each
    cases each
  | some y =>
    rw [found, Shape.readMember] at each
    split at each
    · cases each
    · obtain ⟨z, leaf, e⟩ := Option.map_eq_some_iff.1 each
      cases e
      obtain ⟨i, inside, rfl⟩ := Option.map_eq_some_iff.1 leaf
      cases isInt
      exact Condition.int64?_of_int64? inside

end Meta

namespace Json

theorem merge_arr (target : Json) (items : List Json) : target.merge (.arr items) = .arr items := by
  simp [merge]

/-- Arrays that are patched into an object are found there afterwards. -/
theorem lookup_mergeMembers_arrays {changes : List (String × List Json)}
    (once : (changes.map Prod.fst).Nodup) {change : String × List Json} (hc : change ∈ changes)
    (members : Members) :
    lookup change.1 (mergeMembers members (changes.map fun c => (c.1, .arr c.2))) =
      some (.arr change.2) := by
  induction changes generalizing members with
  | nil => cases hc
  | cons first rest ih =>
    obtain ⟨notIn, once⟩ := List.nodup_cons.1 once
    simp only [List.map_cons, mergeMembers]
    rcases List.mem_cons.1 hc with rfl | later
    · rw [lookup_mergeMembers_of_absent, merge_arr, lookup_insertMember, if_pos rfl]
      intro m hm same
      obtain ⟨c, mem, rfl⟩ := List.mem_map.1 hm
      exact notIn (same ▸ List.mem_map_of_mem mem)
    · exact ih once later _

/-- The same, of a patch of any value. -/
theorem exists_merge_arrays (target : Json) (changes : List (String × List Json))
    (once : (changes.map Prod.fst).Nodup) :
    ∃ members, target.merge (.obj (changes.map fun c => (c.1, .arr c.2))) = .obj members ∧
      ∀ change ∈ changes, lookup change.1 members = some (.arr change.2) := by
  obtain ⟨start, merged⟩ : ∃ start,
      target.merge (.obj (changes.map fun c => (c.1, .arr c.2))) =
        .obj (mergeMembers start (changes.map fun c => (c.1, .arr c.2))) := by
    cases target <;> exact ⟨_, by simp only [merge]; rfl⟩
  exact ⟨_, merged, fun change hc => lookup_mergeMembers_arrays once hc start⟩

end Json

namespace Custom

variable {σ τ : Type} {readSpec : Json → Option σ} {readStatus : Json → Option τ} {r : Custom σ τ}
  {v : Json}

theorem exists_of_read? (h : read? readSpec readStatus v = some r) :
    ∃ members inner, v = .obj members ∧ Json.lookup "metadata" members = some inner ∧
      Meta.read? inner = some r.metadata ∧
      Members.required members "spec" readSpec = some r.spec ∧
      Members.optional members "status" readStatus = some r.status := by
  simp only [read?, Option.bind_eq_bind, Option.bind_eq_some_iff, Option.pure_def,
    Option.some.injEq] at h
  obtain ⟨members, isObject, metadata, read, spec, readSpec, status, readStatus, rfl⟩ := h
  obtain ⟨inner, here, read⟩ := Option.bind_eq_some_iff.1 read
  cases v with
  | obj found =>
    cases isObject
    exact ⟨_, inner, rfl, here, read, readSpec, readStatus⟩
  | _ => cases isObject

/-- A status that is patched into a resource is read again, if it is read from every value that the
patch can make of a status; nothing else that a pass looks at has changed. -/
theorem read?_patched (h : read? readSpec readStatus v = some r) {changes : Members} {status : τ}
    (again : ∀ old : Json, readStatus (old.merge (.obj changes)) = some status) (version : Nat) :
    ∃ m, read? readSpec readStatus
        (Server.versioned (v.merge (.obj [("status", .obj changes)])) version) =
          some { metadata := m, spec := r.spec, status := some status } ∧
      r.metadata.Continues m := by
  obtain ⟨members, inner, rfl, here, read, spec, -⟩ := exists_of_read? h
  obtain ⟨found, merged⟩ : ∃ found,
      ((Json.lookup "status" members).getD .null).merge (.obj changes) = .obj found := by
    cases (Json.lookup "status" members).getD .null <;> exact ⟨_, by simp only [Json.merge]; rfl⟩
  obtain ⟨m, read', continues⟩ := Meta.read?_insert_version read (toString version)
  have patched : (Json.obj members).merge (.obj [("status", .obj changes)]) =
      .obj (Json.insertMember "status" (.obj found) members) := by
    rw [Json.merge]
    simp only [Json.mergeMembers, merged]
  have inner' : Json.lookup "metadata" (Json.insertMember "status" (.obj found) members) =
      some inner := by
    rw [Json.lookup_insertMember, if_neg (by decide), here]
  have stored : Server.versioned ((Json.obj members).merge (.obj [("status", .obj changes)]))
      version = .obj (Json.insertMember "metadata"
        (inner.insert "resourceVersion" (.str (toString version)))
        (Json.insertMember "status" (.obj found) members)) := by
    rw [patched]
    unfold Server.versioned
    dsimp only
    rw [Json.get?_obj, inner']
    rfl
  have readStatus' : readStatus (.obj found) = some status := merged ▸ again _
  refine ⟨m, ?_, continues⟩
  rw [stored]
  generalize toString version = text at read' ⊢
  simp only [read?, Json.members?, Members.required, Members.optional] at spec ⊢
  simp [Json.lookup_insertMember, read', spec, readStatus']

end Custom

namespace Operand

variable {σ : Type} [OperandSpec σ] {o : Operand σ} {v : Json} {conditions : List Condition}

/-- The resource `o'` differs from `o` only in its status and in what the server writes. -/
structure Continues (o o' : Operand σ) : Prop where
  spec : o'.spec = o.spec
  metadata : o.metadata.Continues o'.metadata

/-- What is patched to write conditions. -/
def statusPatch (conditions : List Condition) : Json :=
  .obj [("status", .obj [("conditions", Condition.listToJson conditions)])]

theorem exists_of_read? (h : Operand.read? v = some o) :
    ∃ members inner, v = .obj members ∧ Json.lookup "metadata" members = some inner ∧
      Meta.read? inner = some o.metadata ∧
      Members.required members "spec" OperandSpec.read? = some o.spec ∧
      Members.optional members "status" OperandStatus.read? = some o.status :=
  Custom.exists_of_read? h

/-- Conditions that are patched into the status of a resource are read again. -/
theorem read?_patched (h : Operand.read? v = some o) (writable : ∀ c ∈ conditions, c.IsWritable)
    (version : Nat) : ∃ o' : Operand σ,
      Operand.read? (Server.versioned (v.merge (statusPatch conditions)) version) = some o' ∧
      o.Continues o' ∧ o'.conditions = conditions := by
  have again (old : Json) : OperandStatus.read?
      (old.merge (.obj [("conditions", Condition.listToJson conditions)])) =
        some { conditions } := by
    obtain ⟨members, merged, found⟩ := old.exists_merge_arrays
      [("conditions", conditions.map Condition.toJson)] (by simp)
    have merged : old.merge (.obj [("conditions", Condition.listToJson conditions)]) =
      .obj members := merged
    have written := found _ List.mem_cons_self
    rw [merged]
    unfold OperandStatus.read? Members.withDefault
    simp only [Json.record?, Option.bind_eq_bind, Option.bind_some, written]
    change (Condition.listOfJson? (Condition.listToJson conditions)).bind _ = _
    rw [Condition.listOfJson?_listToJson writable]
    rfl
  obtain ⟨m, read, continues⟩ := Custom.read?_patched h again version
  exact ⟨_, read, ⟨rfl, continues⟩, rfl⟩

theorem isWritable_conditions (h : Operand.read? v = some o) :
    ∀ c ∈ o.conditions, c.IsWritable := by
  obtain ⟨members, inner, -, -, -, -, status⟩ := exists_of_read? h
  unfold conditions
  cases had : o.status with
  | none => exact List.forall_mem_nil _
  | some st =>
    rw [had] at status
    obtain ⟨w, -, read⟩ := Members.exists_of_optional status
    simp only [OperandStatus.read?, Option.bind_eq_bind, Option.bind_eq_some_iff, Option.pure_def,
      Option.some.injEq] at read
    obtain ⟨ms, -, conditions, read, rfl⟩ := read
    exact Condition.isWritable_of_withDefault read

/-- The path of the resource. -/
abbrev path (σ : Type) [OperandSpec σ] : String := (CustomKind.operand (OperandSpec.kind σ)).path

/-- The request that writes conditions. -/
def statusRequest (σ : Type) [OperandSpec σ] (conditions : List Condition) : Request :=
  { method := .patch, path := path σ ++ "/status", body := some (statusPatch conditions) }

end Operand

/-- A patch of the status of a resource succeeds at an undisturbed server, if what comes of it can
be read. -/
theorem CustomKind.run_patchStatus {α : Type} {read : Json → Option α} {again : α} {s : Server}
    {v patch : Json} (kind : CustomKind) (untroubled : s.troubles = [])
    (there : s.objects.get? kind.path = some v)
    (readAgain : read (Server.versioned (v.merge patch) (s.version + 1)) = some again) :
    Exchange.run Server.answer
        (Call.attempt (Api.patchStatus kind.collection singletonName patch read)).run s =
      (.ok again, { s with
        objects := s.objects.insert kind.path
          (Server.versioned (v.merge patch) (s.version + 1))
        version := s.version + 1
        log := { method := .patch, path := kind.path ++ "/status", body := some patch } ::
          s.log }) := by
  have sent : Exchange.run Server.answer
      (Api.send .patch (kind.path ++ "/status?") (some patch) read).run s = _ :=
    Api.run_send kind.path?_status s
  rw [Server.answer_patch untroubled there] at sent
  have replied : Api.readReply read (.answer 200 (.value
      (Server.versioned (v.merge patch) (s.version + 1)))) = .ok again := by
    rw [Api.readReply_value, readAgain]
  have patched : Exchange.run Server.answer
      (Api.patchStatus kind.collection singletonName patch read).run s = (.ok again, { s with
        objects := s.objects.insert kind.path
          (Server.versioned (v.merge patch) (s.version + 1))
        version := s.version + 1
        log := { method := .patch, path := kind.path ++ "/status", body := some patch } ::
          s.log }) := by
    refine sent.trans ?_
    rw [← replied]
    rfl
  rw [Call.run_attempt, patched]
  rfl

section
variable {σ : Type} [OperandPass σ] {o : Operand σ} {v : Json} {conditions : List Condition}
  {s : Server}

/-- A patch of the conditions succeeds at an undisturbed server, and the resource goes on. -/
theorem Operand.run_patchConditions (untroubled : s.troubles = [])
    (there : s.objects.get? (path σ) = some v) (read : Operand.read? v = some o)
    (writable : ∀ c ∈ conditions, c.IsWritable) :
    ∃ (v' : Json) (o' : Operand σ), Operand.read? v' = some o' ∧ o.Continues o' ∧
      o'.conditions = conditions ∧
      Exchange.run Server.answer (patchConditions σ singletonName conditions).run s =
        (.ok (), { s with
          objects := s.objects.insert (path σ) v'
          version := s.version + 1
          log := statusRequest σ conditions :: s.log }) := by
  obtain ⟨o', read', continues, same⟩ := read?_patched read writable (s.version + 1)
  have patched : Exchange.run Server.answer (Call.attempt (Api.patchStatus
      (.operands (OperandSpec.kind σ)) singletonName
      (.obj [("status", .obj [("conditions", Condition.listToJson conditions)])])
      (Operand.read? : _ → Option (Operand σ)))).run s = _ :=
    CustomKind.run_patchStatus (.operand (OperandSpec.kind σ)) untroubled there read'
  refine ⟨_, o', read', continues, same, ?_⟩
  unfold patchConditions
  dsimp only
  rw [ExceptT.run_bind, Exchange.run_bind_eq, patched]
  rfl

end

end WorkloadIdentity

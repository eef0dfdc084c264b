import WorkloadIdentity.Proofs.Attempts

/-! Once an object has been applied, nothing is left to do for it, and applying the later objects of
the pass leaves it so: they live elsewhere, or are of another kind, which only makes the object
unreadable. -/

namespace WorkloadIdentity

open Exchange

namespace ManagedKind

/-- The name of a kind that is more than a name. -/
def typeName? : ManagedKind → Option String
  | configMap => "ConfigMap"
  | serviceAccount => "ServiceAccount"
  | service => "Service"
  | role reach => Role.kindName reach
  | binding reach => Binding.kindName reach
  | workload kind => kind.name
  | csiDriver => "CSIDriver"
  | untyped => none

variable {kind : ManagedKind} {expected other : String} {v : Json}

theorem read_object_eq_none {apiVersion : String} {members : Shape.Fields}
    (told : v.get? "kind" = some (.str other)) (ne : other ≠ expected) :
    (Catalog.object apiVersion expected members).read v = none := by
  cases v with
  | obj found =>
    have unfit : Shape.readMember true (.constant expected) (Json.lookup "kind" found) = none := by
      have told : Json.lookup "kind" found = some (.str other) := told
      simp [told, Shape.readMember, Shape.nullMeansMissing, Shape.read, Shape.readLeaf, ne]
    have known : ("kind", true, Shape.constant expected) ∈ [
        Shape.must "apiVersion" (.constant apiVersion), Shape.must "kind" (.constant expected),
        Shape.must "metadata" Catalog.objectMeta] ++ members := by
      simp [Shape.must]
    rw [Catalog.object, Shape.read, Shape.readMembers_eq_none known unfit]
    rfl
  | _ => cases told

/-- An object that says it is of another kind cannot be read. -/
theorem read?_eq_none (typed : kind.typeName? = some expected)
    (told : v.get? "kind" = some (.str other)) (ne : other ≠ expected) :
    (Managed.read? v : Option kind.Object) = none := by
  cases kind with
  | untyped => cases typed
  | role reach =>
    cases reach <;> cases typed <;> exact congrArg (Option.map _) (read_object_eq_none told ne)
  | binding reach =>
    cases reach <;> cases typed <;> exact congrArg (Option.map _) (read_object_eq_none told ne)
  | workload kind =>
    cases kind <;> cases typed <;> exact congrArg (Option.map _) (read_object_eq_none told ne)
  | _ =>
    cases typed
    exact congrArg (Option.map _) (read_object_eq_none told ne)

/-- The name of a kind belongs to one kind only. -/
theorem eq_of_typeName? {kind other : ManagedKind} {name : String} (h : kind.typeName? = some name)
    (h' : other.typeName? = some name) : kind = other := by
  have found (k : ManagedKind) (typed : k.typeName? = some name) :
      named.lookup name = some k := by
    cases k with
    | untyped => cases typed
    | role reach => cases reach <;> cases typed <;> rfl
    | binding reach => cases reach <;> cases typed <;> rfl
    | workload kind => cases kind <;> cases typed <;> rfl
    | _ => cases typed; rfl
  exact Option.some.inj ((found kind h).symm.trans (found other h'))

theorem typeName?_kindName (typed : kind ≠ .untyped)
    (o : kind.Object) : kind.typeName? = some (Managed.kindName o) := by
  cases kind with
  | untyped => exact absurd rfl typed
  | _ => rfl

theorem typeName?_mem {name : String}
    (typed : kind.typeName? = some name) : name ∈ named.map Prod.fst := by
  cases kind with
  | untyped => cases typed
  | role reach => cases reach <;> cases typed <;> decide
  | binding reach => cases reach <;> cases typed <;> decide
  | workload kind => cases kind <;> cases typed <;> decide
  | _ => cases typed; decide

theorem typeName?_ne_list (kind : ManagedKind) : kind.typeName? ≠ some "List" := by
  cases kind with
  | role reach => cases reach <;> decide
  | binding reach => cases reach <;> decide
  | workload kind => cases kind <;> decide
  | _ => decide

/-- A collection is of another kind than its objects. -/
theorem readsNoList (typed : kind.typeName? = some expected) (path : String) :
    Server.ReadsNoList (Managed.read? : Json → Option kind.Object) path := by
  intro _ items
  have other : "List" ≠ expected := fun e => kind.typeName?_ne_list (e ▸ typed)
  rw [Server.list, Api.readReply_value, read?_eq_none typed rfl other]

/-- What an object says of its kind, it says with what is carried over as well. -/
theorem get?_kind_prepare {kind : ManagedKind} (live desired : kind.Object) :
    (Managed.toJson (Managed.prepare live desired)).get? "kind" =
      (Managed.toJson desired).get? "kind" := by
  cases kind with
  | untyped =>
    obtain ⟨type, metadata, data⟩ := desired
    cases type <;> rfl
  | _ => rfl

end ManagedKind

namespace Wanted

variable {u v w : Wanted} {createOnly : Bool} {objects after : StringMap Json} {path : String}

/-- An object says of which kind it is, and the name of its kind belongs to no other kind. -/
structure IsNamed (w : Wanted) : Prop where
  told : (Managed.toJson w.object).get? "kind" = some (.str w.kindName)
  alone : ∀ kind : ManagedKind, kind.typeName? = some w.kindName → w.kind = kind

/-- An object of a kind that is more than a name says so. -/
theorem isNamed_of_typed {w : Wanted} (typed : w.kind ≠ .untyped) : w.IsNamed where
  told := by
    obtain ⟨kind, object, collection⟩ := w
    cases kind with
    | untyped => exact absurd rfl typed
    | _ => rfl
  alone kind named :=
    ManagedKind.eq_of_typeName? (ManagedKind.typeName?_kindName typed w.object) named

theorem isNamed_of_untyped {o : Untyped} {c : Collection} {apiVersion kind : String}
    (type : o.type = some (apiVersion, kind)) (other : kind ∉ ManagedKind.named.map Prod.fst) :
    IsNamed ⟨.untyped, o, c⟩ where
  told := by
    obtain ⟨_, metadata, data⟩ := o
    cases type
    rfl
  alone kind named := by
    obtain ⟨_, metadata, data⟩ := o
    cases type
    exact absurd (ManagedKind.typeName?_mem named) other

/-- What is stored of an object is enough when it is read again. -/
structure IsStable (w : Wanted) : Prop where
  created : ∀ version (again : w.kind.Object),
    Managed.read? (Server.versioned (Managed.toJson w.object) version) = some again →
      Managed.needsUpdate again w.object = false
  replaced : ∀ object (live : w.kind.Object) version (again : w.kind.Object),
    Managed.read? object = some live →
      Managed.read? (Server.versioned
        (Server.keepStatus object (Managed.toJson (Managed.prepare live w.object))) version) =
          some again →
      Managed.needsUpdate again w.object = false

/-- What a successful attempt writes says of which kind it is. -/
theorem told_created (named : w.IsNamed) (version : Nat) :
    (Server.versioned (Managed.toJson w.object) version).get? "kind" = some (.str w.kindName) := by
  rw [Server.get?_versioned_of_ne (by decide)]
  exact named.told

theorem told_replaced (named : w.IsNamed) (object : Json) (live : w.kind.Object) (version : Nat) :
    (Server.versioned (Server.keepStatus object (Managed.toJson (Managed.prepare live w.object)))
      version).get? "kind" = some (.str w.kindName) := by
  rw [Server.get?_versioned_of_ne (by decide), Server.get?_keepStatus (by decide),
    ManagedKind.get?_kind_prepare]
  exact named.told

/-- An object stays still when another one is written elsewhere, or is enough for it. -/
theorem IsStill.insert (still : u.IsStill createOnly objects) {other : String} {object : Json}
    (enough : u.address? = some other → ∀ live : u.kind.Object, Managed.read? object = some live →
      createOnly = true ∨ Managed.needsUpdate live u.object = false) :
    u.IsStill createOnly (objects.insert other object) := by
  intro path address
  have still := still path address
  rw [StringMap.get?_insert]
  by_cases here : path = other
  · rw [if_pos here]
    exact enough (here ▸ address)
  · rw [if_neg here]
    cases there : objects.get? path with
    | some found =>
      rw [there] at still
      exact still
    | none =>
      rw [there] at still
      intro birth born
      rw [StringMap.get?_insert]
      split
      · rfl
      · exact still birth born

/-- An attempt changes nothing at other paths. -/
theorem Applied.get?_eq (applied : w.Applied createOnly path objects after)
    (address : w.address? = some path) {other : String}
    (away : w.address? ≠ some other ∧ w.birth? ≠ some other) :
    after.get? other = objects.get? other := by
  cases applied with
  | kept => rfl
  | created birth version missing born free =>
    have ne : other ≠ birth := fun e => away.2 (e ▸ born)
    rw [StringMap.get?_insert, if_neg ne]
  | replaced object live version there read updates differs =>
    have ne : other ≠ path := fun e => away.1 (e ▸ address)
    rw [StringMap.get?_insert, if_neg ne]

/-- An object that has just been applied is still. -/
theorem still_of_applied (stable : w.IsStable) (address : w.address? = some path)
    (applied : w.Applied createOnly path objects after) : w.IsStill createOnly after := by
  intro path' address'
  cases address.symm.trans address'
  cases applied with
  | kept object live there read enough =>
    rw [there]
    intro live' read'
    cases read.symm.trans read'
    exact enough
  | created birth version missing born free =>
    rw [StringMap.get?_insert]
    by_cases here : path = birth
    · rw [if_pos here]
      exact fun live read => .inr (stable.created version live read)
    · rw [if_neg here, missing]
      intro birth' born'
      cases born.symm.trans born'
      rw [StringMap.get?_insert, if_pos rfl]
      rfl
  | replaced object live version there read updates differs =>
    rw [StringMap.get?_insert, if_pos rfl]
    exact fun again read' => .inr (stable.replaced object live version again read read')

/-- Why applying `w` leaves `u` alone, which is applied before it, after some others. -/
inductive Aside (earlier : List Wanted) (u w : Wanted) : Prop
  /-- Whatever `w` writes cannot be read as `u`. -/
  | kinds (name : String) (typed : u.kind.typeName? = some name) (other : w.kindName ≠ name)
  | places (elsewhere : ∀ path, u.address? = some path →
      w.address? ≠ some path ∧ w.birth? ≠ some path)
  /-- What is enough for `u` is enough for `w`. -/
  | enough (born : u.birth? = u.address?)
      (easier : ∀ object (live' : w.kind.Object), Managed.read? object = some live' →
        ∃ live : u.kind.Object, Managed.read? object = some live ∧
          (Managed.needsUpdate live u.object = false → Managed.needsUpdate live' w.object = false))
  /-- If `w` is written in the place of `u`, a pass fails before it comes to `u`. -/
  | behind (v : Wanted) (before : v ∈ earlier) (name : String)
      (typed : v.kind.typeName? = some name) (other : w.kindName ≠ name)
      (address : v.address? = u.address?) (elsewhere : w.birth? ≠ u.address?)

/-- An object at which a pass fails. -/
def Stops (objects : StringMap Json) (v : Wanted) : Prop :=
  v.kind.typeName?.isSome ∧ v.IsBlocked objects

theorem stops_insert {name other : String} {object : Json} (typed : v.kind.typeName? = some name)
    (address : v.address? = some path) (told : object.get? "kind" = some (.str other))
    (ne : other ≠ name) : v.Stops (objects.insert path object) := by
  refine ⟨by rw [typed]; rfl, path, object, address, ?_, ManagedKind.read?_eq_none typed told ne⟩
  rw [StringMap.get?_insert, if_pos rfl]

/-- An object at which a pass fails stays one. -/
theorem Stops.applied (stops : v.Stops objects) (named : w.IsNamed)
    (applied : w.Applied createOnly path objects after) : v.Stops after := by
  obtain ⟨typed, path', object', address', there', unreadable⟩ := stops
  obtain ⟨name, typed⟩ := Option.isSome_iff_exists.1 typed
  have elsewhere {other : String} {object : Json} (ne : path' ≠ other) :
      v.Stops (objects.insert other object) := by
    refine ⟨by rw [typed]; rfl, path', object', address', ?_, unreadable⟩
    rw [StringMap.get?_insert, if_neg ne]
    exact there'
  cases applied with
  | kept => exact ⟨by rw [typed]; rfl, path', object', address', there', unreadable⟩
  | created birth version missing born free =>
    exact elsewhere fun e => by cases (e ▸ there').symm.trans free
  | replaced object live version there read updates differs =>
    by_cases here : path' = path
    · subst here
      cases there.symm.trans there'
      by_cases same : w.kindName = name
      · have kinds : w.kind = v.kind := named.alone v.kind (same ▸ typed)
        rw [kinds.symm] at unreadable
        cases read.symm.trans unreadable
      · exact stops_insert typed address' (told_replaced named _ live version) same
    · exact elsewhere here

/-- What one attempt leaves of an object before it. -/
theorem still_of_aside {earlier : List Wanted} (still : u.IsStill createOnly objects)
    (aside : Aside earlier u w) (named : w.IsNamed) (address : w.address? = some path)
    (applied : w.Applied createOnly path objects after) :
    u.IsStill createOnly after ∨ ∃ v ∈ earlier, v.Stops after := by
  have unreadable {name : String} (typed : u.kind.typeName? = some name) (other : w.kindName ≠ name)
      {object : Json} (told : object.get? "kind" = some (.str w.kindName)) (live : u.kind.Object)
      (read : Managed.read? object = some live) : False := by
    cases (ManagedKind.read?_eq_none typed told other).symm.trans read
  cases applied with
  | kept => exact .inl still
  | created birth version missing born free =>
    refine .inl (still.insert fun here live read => ?_)
    cases aside with
    | kinds name typed other =>
      exact (unreadable typed other (told_created named version) live read).elim
    | places elsewhere => exact absurd born (elsewhere birth here).2
    | enough same easier =>
      have taken := still birth here
      rw [free] at taken
      have taken := taken birth (same.trans here)
      rw [free] at taken
      cases taken
    | behind v before name typed other address elsewhere =>
      exact absurd (born.trans here.symm) elsewhere
  | replaced object live version there read updates differs =>
    have told := told_replaced named object live version
    cases aside with
    | kinds name typed other =>
      exact .inl (still.insert fun _ again read => (unreadable typed other told again read).elim)
    | places elsewhere =>
      exact .inl (still.insert fun here => absurd address (elsewhere path here).1)
    | enough same easier =>
      refine .inl (still.insert fun here => ?_)
      have still := still path here
      rw [there] at still
      obtain ⟨other, read', easier⟩ := easier object live read
      rcases still other read' with always | enough
      · cases updates.symm.trans always
      · cases differs.symm.trans (easier enough)
    | behind v before name typed other same elsewhere =>
      by_cases here : u.address? = some path
      · exact .inr ⟨v, before, stops_insert typed (same.trans here) told other⟩
      · exact .inl (still.insert fun here' => absurd here' here)

end Wanted

end WorkloadIdentity

import WorkloadIdentity.Digest.Fingerprint
import WorkloadIdentity.Proofs.Coverage
import WorkloadIdentity.Proofs.Texts

/-!
# What a fingerprint is taken of

Two configurations have one canonical form if and only if one arises from the other by reordering
the members of objects, at any depth. The compact text of a canonical form determines it, so that
the bytes that are hashed stand for a configuration up to that order.

* `Json.Reordered` says that a value arises from another in this way.
* `Json.canonical_eq_iff`: the canonical form is the same for these values and no others.
* `Fingerprint.hashedBytes_eq_iff`: so are the hashed bytes.
-/

namespace WorkloadIdentity

namespace Json

/-- The second value arises from the first by reordering members of objects, at any depth. -/
inductive Reordered : Json → Json → Prop
  | refl (v : Json) : Reordered v v
  | trans {u v w : Json} : Reordered u v → Reordered v w → Reordered u w
  | members {xs ys : List (String × Json)} : xs.Perm ys → Reordered (obj xs) (obj ys)
  | member {v w : Json} (before : List (String × Json)) (name : String)
      (after : List (String × Json)) : Reordered v w →
      Reordered (obj (before ++ (name, v) :: after)) (obj (before ++ (name, w) :: after))
  | item {v w : Json} (before after : List Json) : Reordered v w →
      Reordered (arr (before ++ v :: after)) (arr (before ++ w :: after))

theorem Reordered.symm {v w : Json} (h : Reordered v w) : Reordered w v := by
  induction h with
  | refl v => exact .refl v
  | trans _ _ first second => exact second.trans first
  | members perm => exact .members perm.symm
  | member before name after _ ih => exact .member before name after ih
  | item before after _ ih => exact .item before after ih

theorem itemsProper_iff {items : List Json} : ItemsProper items ↔ ∀ v ∈ items, v.IsProper := by
  induction items with
  | nil => simp [ItemsProper]
  | cons v rest ih => simp [ItemsProper, ih]

theorem membersProper_iff {members : List (String × Json)} :
    MembersProper members ↔ ∀ m ∈ members, m.2.IsProper := by
  induction members with
  | nil => simp [MembersProper]
  | cons m rest ih =>
    obtain ⟨k, v⟩ := m
    rw [MembersProper, ih, List.forall_mem_cons]

theorem itemsIntegral_iff {items : List Json} :
    ItemsIntegral items ↔ ∀ v ∈ items, v.IsIntegral := by
  induction items with
  | nil => simp [ItemsIntegral]
  | cons v rest ih => simp [ItemsIntegral, ih]

theorem membersIntegral_iff {members : List (String × Json)} :
    MembersIntegral members ↔ ∀ m ∈ members, m.2.IsIntegral := by
  induction members with
  | nil => simp [MembersIntegral]
  | cons m rest ih =>
    obtain ⟨k, v⟩ := m
    rw [MembersIntegral, ih, List.forall_mem_cons]

theorem Reordered.isProper {v w : Json} (h : Reordered v w) (hv : v.IsProper) : w.IsProper := by
  induction h with
  | refl => exact hv
  | trans _ _ first second => exact second (first hv)
  | members perm =>
    rw [IsProper, membersProper_iff] at hv ⊢
    constructor
    · exact (perm.map Prod.fst).nodup hv.1
    · intro m hm
      exact hv.2 m (perm.mem_iff.2 hm)
  | member before name after _ ih =>
    simp only [IsProper, membersProper_iff, List.map_append, List.map_cons,
      List.forall_mem_append, List.forall_mem_cons] at hv ⊢
    obtain ⟨once, left, here, right⟩ := hv
    exact ⟨once, left, ih here, right⟩
  | item before after _ ih =>
    simp only [IsProper, itemsProper_iff, List.forall_mem_append, List.forall_mem_cons] at hv ⊢
    obtain ⟨left, here, right⟩ := hv
    exact ⟨left, ih here, right⟩

theorem Reordered.isIntegral {v w : Json} (h : Reordered v w) (hv : v.IsIntegral) :
    w.IsIntegral := by
  induction h with
  | refl => exact hv
  | trans _ _ first second => exact second (first hv)
  | members perm =>
    rw [IsIntegral, membersIntegral_iff] at hv ⊢
    intro m hm
    exact hv m (perm.mem_iff.2 hm)
  | member before name after _ ih =>
    simp only [IsIntegral, membersIntegral_iff, List.forall_mem_append,
      List.forall_mem_cons] at hv ⊢
    obtain ⟨left, here, right⟩ := hv
    exact ⟨left, ih here, right⟩
  | item before after _ ih =>
    simp only [IsIntegral, itemsIntegral_iff, List.forall_mem_append, List.forall_mem_cons] at hv ⊢
    obtain ⟨left, here, right⟩ := hv
    exact ⟨left, ih here, right⟩

theorem insertSorted_perm (name : String) (value : Json) (members : List (String × Json)) :
    (insertSorted name value members).Perm ((name, value) :: members) := by
  induction members with
  | nil => exact List.Perm.refl _
  | cons m rest ih =>
    obtain ⟨k, v⟩ := m
    rw [insertSorted]
    by_cases below : k < name
    · rw [if_pos below]
      exact (ih.cons (k, v)).trans (List.Perm.swap _ _ _)
    · rw [if_neg below]

mutual

theorem reordered_canonical : ∀ v : Json, Reordered v v.canonical
  | obj members => by
    rw [canonical]
    exact reordered_canonicalMembers members []
  | arr items => by
    rw [canonical]
    exact reordered_canonicalItems items []
  | null | bool _ | int _ | double _ | str _ => by
    rw [canonical]
    exact .refl _

theorem reordered_canonicalItems : ∀ items before : List Json,
    Reordered (arr (before ++ items)) (arr (before ++ canonicalItems items))
  | [], before => .refl _
  | v :: rest, before => by
    have here : Reordered _ (arr (before ++ v.canonical :: rest)) :=
      .item before rest (reordered_canonical v)
    have later := reordered_canonicalItems rest (before ++ [v.canonical])
    rw [List.append_assoc, List.append_assoc] at later
    rw [canonicalItems]
    exact here.trans later

theorem reordered_canonicalMembers : ∀ members before : List (String × Json),
    Reordered (obj (before ++ members)) (obj (before ++ canonicalMembers members))
  | [], before => .refl _
  | (k, v) :: rest, before => by
    have here : Reordered _ (obj (before ++ (k, v.canonical) :: rest)) :=
      .member before k rest (reordered_canonical v)
    have later := reordered_canonicalMembers rest (before ++ [(k, v.canonical)])
    rw [List.append_assoc, List.append_assoc] at later
    rw [canonicalMembers]
    exact (here.trans later).trans
      (.members ((insertSorted_perm k v.canonical _).symm.append_left before))

end

theorem insertSorted_of_lt {k name : String} (h : k < name) (v value : Json)
    (rest : List (String × Json)) :
    insertSorted name value ((k, v) :: rest) = (k, v) :: insertSorted name value rest := by
  rw [insertSorted, if_pos h]

theorem insertSorted_of_not_lt {k name : String} (h : ¬ k < name) (v value : Json)
    (rest : List (String × Json)) :
    insertSorted name value ((k, v) :: rest) = (name, value) :: (k, v) :: rest := by
  rw [insertSorted, if_neg h]

/-- Members with different names are placed in either order. -/
theorem insertSorted_comm {k m : String} (lt : k < m) (v w : Json)
    (members : List (String × Json)) :
    insertSorted k v (insertSorted m w members) = insertSorted m w (insertSorted k v members) := by
  have notAbove : ¬ m < k := fun above => String.lt_irrefl k (String.lt_trans lt above)
  induction members with
  | nil => rw [insertSorted, insertSorted, insertSorted_of_not_lt notAbove, insertSorted_of_lt lt,
      insertSorted]
  | cons head rest ih =>
    obtain ⟨l, u⟩ := head
    by_cases belowK : l < k
    · have belowM : l < m := String.lt_trans belowK lt
      rw [insertSorted_of_lt belowM, insertSorted_of_lt belowK, insertSorted_of_lt belowK,
        insertSorted_of_lt belowM, ih]
    · by_cases belowM : l < m
      · rw [insertSorted_of_lt belowM, insertSorted_of_not_lt belowK,
          insertSorted_of_not_lt belowK, insertSorted_of_lt lt, insertSorted_of_lt belowM]
      · rw [insertSorted_of_not_lt belowM, insertSorted_of_not_lt notAbove,
          insertSorted_of_not_lt belowK, insertSorted_of_lt lt, insertSorted_of_not_lt belowM]

theorem canonicalMembers_perm {xs ys : List (String × Json)} (perm : xs.Perm ys)
    (once : (xs.map Prod.fst).Nodup) : canonicalMembers xs = canonicalMembers ys := by
  induction perm with
  | nil => rfl
  | cons m _ ih =>
    obtain ⟨k, v⟩ := m
    rw [canonicalMembers, canonicalMembers, ih (List.nodup_cons.1 once).2]
  | swap m n rest =>
    obtain ⟨k, v⟩ := m
    obtain ⟨l, w⟩ := n
    have ne : l ≠ k := by
      intro e
      exact (List.nodup_cons.1 once).1 (e ▸ List.mem_cons_self)
    simp only [canonicalMembers]
    by_cases lt : l < k
    · exact insertSorted_comm lt _ _ _
    · have gt : k < l := by
        apply Classical.byContradiction
        intro notAbove
        exact ne (String.le_antisymm (String.not_lt.1 notAbove) (String.not_lt.1 lt))
      exact (insertSorted_comm gt _ _ _).symm
  | trans first _ ih ih' => rw [ih once, ih' ((first.map Prod.fst).nodup once)]

theorem canonicalItems_append (xs ys : List Json) :
    canonicalItems (xs ++ ys) = canonicalItems xs ++ canonicalItems ys := by
  induction xs with
  | nil => rfl
  | cons x xs ih => rw [List.cons_append, canonicalItems, canonicalItems, ih, List.cons_append]

theorem canonicalMembers_congr {before xs ys : List (String × Json)}
    (h : canonicalMembers xs = canonicalMembers ys) :
    canonicalMembers (before ++ xs) = canonicalMembers (before ++ ys) := by
  induction before with
  | nil => exact h
  | cons m before ih =>
    obtain ⟨k, v⟩ := m
    rw [List.cons_append, List.cons_append, canonicalMembers, canonicalMembers, ih]

theorem Reordered.canonical_eq {v w : Json} (h : Reordered v w) (hv : v.IsProper) :
    v.canonical = w.canonical := by
  induction h with
  | refl => rfl
  | trans first _ ih ih' => rw [ih hv, ih' (first.isProper hv)]
  | members perm =>
    rw [IsProper] at hv
    rw [canonical, canonical, canonicalMembers_perm perm hv.1]
  | member before name after _ ih =>
    have here := membersProper_iff.1 hv.2 (name, _)
      (List.mem_append_right before List.mem_cons_self)
    rw [canonical, canonical]
    apply congrArg obj
    apply canonicalMembers_congr
    rw [canonicalMembers, canonicalMembers, ih here]
  | item before after _ ih =>
    have here := itemsProper_iff.1 hv _ (List.mem_append_right before List.mem_cons_self)
    simp only [canonical, canonicalItems_append, canonicalItems, ih here]

/-- Configurations have one canonical form if and only if they differ in the order of members. -/
theorem canonical_eq_iff {v w : Json} (hv : v.IsProper) :
    v.canonical = w.canonical ↔ Reordered v w := by
  constructor
  · intro h
    have back := (reordered_canonical w).symm
    rw [← h] at back
    exact (reordered_canonical v).trans back
  · intro h
    exact h.canonical_eq hv

end Json

namespace Fingerprint

/-- The bytes that the digest of a configuration is taken of. -/
def hashedBytes (config : Json) : List UInt8 := (hashedText config).toUTF8.toList

theorem ofJson_eq_ofBytes (config : Json) : ofJson config = ofBytes (hashedBytes config) := rfl

theorem toList_loop (bytes : ByteArray) (i : Nat) (done : List UInt8) :
    ByteArray.toList.loop bytes i done = done.reverse ++ bytes.data.toList.drop i := by
  induction i, done using ByteArray.toList.loop.induct bytes with
  | case1 i done inside ih =>
    have bound : i < bytes.data.toList.length := by simpa using inside
    rw [ByteArray.toList.loop, if_pos inside, ih, List.drop_eq_getElem_cons bound]
    simp [ByteArray.get!, getElem!_pos, inside]
  | case2 i done outside =>
    have bound : bytes.data.toList.length ≤ i := by simpa using outside
    rw [ByteArray.toList.loop, if_neg outside, List.drop_eq_nil_of_le bound, List.append_nil]

theorem utf8_inj {s t : String} (h : s.toUTF8.toList = t.toUTF8.toList) : s = t := by
  have stored (bytes : ByteArray) : bytes.toList = bytes.data.toList := by
    rw [ByteArray.toList, toList_loop, List.reverse_nil, List.nil_append, List.drop_zero]
  rw [stored, stored, Array.toList_inj] at h
  exact String.toByteArray_inj.1 (ByteArray.ext h)

theorem hashedText_inj {v w : Json} (hv : v.IsIntegral) (hw : w.IsIntegral)
    (h : hashedText v = hashedText w) : v.canonical = w.canonical :=
  Json.compact_inj ((Json.reordered_canonical v).isIntegral hv)
    ((Json.reordered_canonical w).isIntegral hw) h

/-- **The hashed bytes identify a configuration up to the order of members.** A configuration
without doubles, whose objects hold each name once, shares its canonical text and its hashed bytes
with its reorderings and with no other; a reordering has the same fingerprint. -/
theorem hashedBytes_eq_iff {v w : Json} (hv : v.IsIntegral) (hw : w.IsIntegral)
    (proper : v.IsProper) :
    (hashedText v = hashedText w ↔ Json.Reordered v w) ∧
    (hashedBytes v = hashedBytes w ↔ Json.Reordered v w) ∧
    (Json.Reordered v w → ofJson v = ofJson w) := by
  have texts : hashedText v = hashedText w ↔ Json.Reordered v w := by
    rw [← Json.canonical_eq_iff proper]
    constructor
    · exact hashedText_inj hv hw
    · intro h
      exact congrArg Json.compact h
  have bytes : hashedBytes v = hashedBytes w ↔ hashedText v = hashedText w := by
    constructor
    · exact utf8_inj
    · intro h
      rw [hashedBytes, hashedBytes, h]
  refine ⟨texts, bytes.trans texts, ?_⟩
  intro h
  rw [ofJson_eq_ofBytes, ofJson_eq_ofBytes, (bytes.trans texts).2 h]

/-- Attestors with the same settings, in an array. -/
def attestors (settings : List (String × Json)) (names : List String) : Json :=
  .obj [("plugins", .arr (names.map fun name => .obj [(name, .obj settings)])),
    ("level", .str "de\"bug")]

def portFirst : List (String × Json) := [("port", .int (-1)), ("path", .null)]

def pathFirst : List (String × Json) := [("path", .null), ("port", .int (-1))]

/-- Settings in another order have the same bytes, attestors in another order do not. -/
theorem hashedBytes_eq_iff_attestors :
    hashedBytes (attestors portFirst ["k8s", "unix"]) =
      hashedBytes (attestors pathFirst ["k8s", "unix"]) ∧
    ofJson (attestors portFirst ["k8s", "unix"]) = ofJson (attestors pathFirst ["k8s", "unix"]) ∧
    hashedBytes (attestors portFirst ["k8s", "unix"]) ≠
      hashedBytes (attestors portFirst ["unix", "k8s"]) := by
  have integral (names : List String) : (attestors portFirst names).IsIntegral := by
    simp [attestors, portFirst, Json.IsIntegral, Json.MembersIntegral, Json.itemsIntegral_iff]
  have integral' : (attestors pathFirst ["k8s", "unix"]).IsIntegral := by
    simp [attestors, pathFirst, Json.IsIntegral, Json.MembersIntegral, Json.itemsIntegral_iff]
  have proper : (attestors portFirst ["k8s", "unix"]).IsProper := by
    simp [attestors, portFirst, Json.IsProper, Json.MembersProper, Json.itemsProper_iff]
  have settings : Json.Reordered (.obj portFirst) (.obj pathFirst) :=
    .members (List.Perm.swap _ _ [])
  have reordered :
      Json.Reordered (attestors portFirst ["k8s", "unix"]) (attestors pathFirst ["k8s", "unix"]) :=
    .member [] "plugins" _ ((Json.Reordered.item [] _ (.member [] "k8s" [] settings)).trans
      (.item [_] [] (.member [] "unix" [] settings)))
  obtain ⟨-, same, fingerprint⟩ := hashedBytes_eq_iff (integral _) integral' proper
  obtain ⟨-, other, -⟩ := hashedBytes_eq_iff (integral _) (integral ["unix", "k8s"]) proper
  refine ⟨same.2 reordered, fingerprint reordered, fun e => ?_⟩
  have forms := (Json.canonical_eq_iff proper).2 (other.1 e)
  exact absurd forms (by decide +kernel)

end Fingerprint

end WorkloadIdentity

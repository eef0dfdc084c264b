import WorkloadIdentity.Plan.Coverage
import WorkloadIdentity.Proofs.Maps

/-! Coverage compares members by name and numbers as doubles, so that a value covers itself only if
its objects hold each name once and all its numbers are numbers. -/

namespace WorkloadIdentity

theorem Binary64.ofInt_ne_nan (i : Int) : Binary64.ofInt i ≠ .nan := by
  have rounded (s : Bool) (m : Nat) (e : Int) :
      (if 971 < e then Binary64.infinity s else .finite s m e) ≠ .nan := by
    split <;> simp
  unfold Binary64.ofInt Binary64.ofRatio
  split
  · simp [Binary64.zero]
  · exact rounded _ _ _

namespace Json

mutual

/-- Objects hold each name once, and no number is `nan`: what every JSON text can be read as. -/
def IsProper : Json → Prop
  | obj members => (members.map Prod.fst).Nodup ∧ MembersProper members
  | arr items => ItemsProper items
  | double d => d ≠ .nan
  | null => True
  | bool _ => True
  | int _ => True
  | str _ => True

def ItemsProper : List Json → Prop
  | [] => True
  | v :: rest => IsProper v ∧ ItemsProper rest

def MembersProper : List (String × Json) → Prop
  | [] => True
  | (_, v) :: rest => IsProper v ∧ MembersProper rest

end

/-- A member is found under its name where no name is repeated. -/
theorem lookup_of_mem {members : List (String × Json)} (once : (members.map Prod.fst).Nodup)
    {m : String × Json} (h : m ∈ members) : lookup m.1 members = some m.2 := by
  induction members with
  | nil => simp at h
  | cons head rest ih =>
    obtain ⟨k, v⟩ := head
    obtain ⟨notIn, once⟩ := List.nodup_cons.1 once
    rw [lookup, lookup_cons_ite]
    rcases List.mem_cons.1 h with h | h
    · rw [h, if_pos rfl]
    · have inRest : m.1 ∈ rest.map Prod.fst := List.mem_map_of_mem h
      have ne : m.1 ≠ k := fun e => notIn (e ▸ inRest)
      rw [if_neg ne]
      exact ih once h

mutual

theorem coveredBy_self : ∀ v : Json, v.IsProper → v.coveredBy v = true
  | obj members, h => by
    rw [IsProper] at h
    rw [coveredBy]
    exact membersCoveredBy_of_lookup members members h.2 (fun m hm => lookup_of_mem h.1 hm)
  | arr items, h => by
    rw [IsProper] at h
    rw [coveredBy]
    exact itemsCoveredBy_self items h
  | double d, h => by
    rw [IsProper] at h
    simp [coveredBy, sameNumber, number?, Binary64.sameValue_self h]
  | int i, _ => by
    simp [coveredBy, sameNumber, number?, Binary64.sameValue_self (Binary64.ofInt_ne_nan i)]
  | null, _ => by simp [coveredBy]
  | bool _, _ => by simp [coveredBy]
  | str _, _ => by simp [coveredBy]

theorem itemsCoveredBy_self : ∀ items : List Json, ItemsProper items →
    itemsCoveredBy items items = true
  | [], _ => by rw [itemsCoveredBy]
  | v :: rest, h => by
    rw [ItemsProper] at h
    rw [itemsCoveredBy, coveredBy_self v h.1, itemsCoveredBy_self rest h.2]
    rfl

/-- Proper members are covered by members among which they are found. -/
theorem membersCoveredBy_of_lookup : ∀ wanted members : List (String × Json),
    MembersProper wanted → (∀ m ∈ wanted, lookup m.1 members = some m.2) →
    membersCoveredBy wanted members = true
  | [], _, _, _ => by rw [membersCoveredBy]
  | (name, v) :: rest, members, h, found => by
    rw [MembersProper] at h
    have here : lookup name members = some v := found (name, v) List.mem_cons_self
    rw [membersCoveredBy, here]
    dsimp only
    rw [coveredBy_self v h.1,
      membersCoveredBy_of_lookup rest members h.2 (fun m hm => found m (List.mem_cons_of_mem _ hm))]
    rfl

end

end Json

end WorkloadIdentity

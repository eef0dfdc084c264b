import WorkloadIdentity.Proofs.Places

namespace WorkloadIdentity

variable {w : Wanted} {earlier later list : List Wanted}

theorem Wanted.Aside.mono {u : Wanted} (aside : Aside earlier u w)
    (more : ∀ v ∈ earlier, v ∈ later) : Aside later u w := by
  cases aside with
  | kinds name typed other => exact .kinds name typed other
  | places elsewhere => exact .places elsewhere
  | enough born easier => exact .enough born easier
  | behind v before name typed other address elsewhere =>
    exact .behind v (more v before) name typed other address elsewhere

theorem follows_of_forall (h : ∀ u ∈ list, Wanted.Aside earlier u w) : Follows w earlier list := by
  induction list generalizing earlier with
  | nil => trivial
  | cons u rest ih =>
    exact ⟨h u List.mem_cons_self, ih fun v hv =>
      (h v (List.mem_cons_of_mem _ hv)).mono fun _ => List.mem_append_left _⟩

namespace Wanted

/-- Whether two objects are of different kinds or of different groups. An object of a kind that is
only a name can be read as any other. -/
def isApart (u w : Wanted) : Bool :=
  u.collection.group ≠ w.collection.group || (u.kind ≠ .untyped && u.kindName ≠ w.kindName)

/-- The pairs of objects, in order, that are not told apart. -/
def touching : List Wanted → List (Wanted × Wanted)
  | [] => []
  | u :: rest => (rest.filter fun w => !u.isApart w).map (u, ·) ++ touching rest

variable {u v : Wanted}

theorem aside_of_isApart (hu : u.collection.isKnown = true) (hw : w.collection.isKnown = true)
    (apart : u.isApart w = true) : Aside earlier u w := by
  simp only [isApart, Bool.or_eq_true, Bool.and_eq_true, decide_eq_true_eq] at apart
  rcases apart with ne | ⟨typed, other⟩
  · exact .places (places_of_group_ne hu hw ne)
  · exact .kinds u.kindName (ManagedKind.typeName?_kindName typed u.object) (Ne.symm other)

theorem pairwise_of_touching (known : ∀ w ∈ list, w.collection.isKnown = true)
    (h : ∀ p ∈ touching list, Aside earlier p.1 p.2) : list.Pairwise (Aside earlier) := by
  induction list with
  | nil => exact List.Pairwise.nil
  | cons u rest ih =>
    rw [touching] at h
    refine List.Pairwise.cons (fun w hw => ?_)
      (ih (fun w hw => known w (List.mem_cons_of_mem _ hw)) fun p hp =>
        h p (List.mem_append_right _ hp))
    cases apart : u.isApart w with
    | true =>
      exact aside_of_isApart (known u List.mem_cons_self)
        (known w (List.mem_cons_of_mem _ hw)) apart
    | false =>
      refine h (u, w) (List.mem_append_left _ (List.mem_map_of_mem (List.mem_filter.2 ⟨hw, ?_⟩)))
      rw [apart]
      rfl

theorem orderly_of_pairwise {first : Wanted} {done todo : List Wanted}
    (untouched : ∀ w ∈ todo, Aside [] first w)
    (across : ∀ u ∈ done, ∀ w ∈ todo, Aside [first] u w) (pairs : todo.Pairwise (Aside [first])) :
    Orderly (first :: done) todo := by
  induction todo generalizing done with
  | nil => trivial
  | cons w rest ih =>
    obtain ⟨here, pairs⟩ := List.pairwise_cons.1 pairs
    refine ⟨⟨untouched w List.mem_cons_self, ?_⟩, ?_⟩
    · exact follows_of_forall fun u hu => across u hu w List.mem_cons_self
    · refine ih (fun v hv => untouched v (List.mem_cons_of_mem _ hv)) ?_ pairs
      intro u hu v hv
      rcases List.mem_append.1 hu with hu | hu
      · exact across u hu v (List.mem_cons_of_mem _ hv)
      · cases List.mem_singleton.1 hu
        exact here v hv

/-- Objects behind one that is apart from all of them. -/
theorem orderly_cons {first : Wanted} (known : ∀ w ∈ first :: list, w.collection.isKnown = true)
    (apart : list.all first.isApart = true) (touch : ∀ p ∈ touching list, Aside [first] p.1 p.2) :
    Orderly [] (first :: list) := by
  have knownRest : ∀ w ∈ list, w.collection.isKnown = true := fun w hw =>
    known w (List.mem_cons_of_mem _ hw)
  refine ⟨trivial, orderly_of_pairwise (fun w hw => ?_) (List.forall_mem_nil _)
    (pairwise_of_touching knownRest touch)⟩
  exact aside_of_isApart (known first List.mem_cons_self) (knownRest w hw)
    (List.all_eq_true.1 apart w hw)

end Wanted

end WorkloadIdentity

import WorkloadIdentity.Proofs.Settling

namespace WorkloadIdentity

open Exchange

/-- Applying `w` leaves all objects of a list alone, which come after some others. -/
def Follows (w : Wanted) : List Wanted → List Wanted → Prop
  | _, [] => True
  | earlier, u :: rest => Wanted.Aside earlier u w ∧ Follows w (earlier ++ [u]) rest

/-- Each object leaves those before it alone. -/
def Orderly : List Wanted → List Wanted → Prop
  | _, [] => True
  | before, w :: rest => Follows w [] before ∧ Orderly (before ++ [w]) rest

/-- Nothing is left to do for the objects of a list, except behind an object at which a pass
fails. -/
def Settled (createOnly : Bool) (objects : StringMap Json) : List Wanted → List Wanted → Prop
  | _, [] => True
  | earlier, u :: rest =>
    (u.IsStill createOnly objects ∨ ∃ v ∈ earlier, v.Stops objects) ∧
    Settled createOnly objects (earlier ++ [u]) rest

variable {w : Wanted} {createOnly : Bool} {objects after : StringMap Json} {path : String}
  {earlier list : List Wanted}

/-- One more attempt leaves settled objects settled. -/
theorem Settled.applied (settled : Settled createOnly objects earlier list)
    (follows : Follows w earlier list) (named : w.IsNamed) (address : w.address? = some path)
    (applied : w.Applied createOnly path objects after) :
    Settled createOnly after earlier list := by
  induction list generalizing earlier with
  | nil => exact trivial
  | cons u rest ih =>
    obtain ⟨here, later⟩ := settled
    obtain ⟨aside, follows⟩ := follows
    refine ⟨?_, ih later follows⟩
    rcases here with still | ⟨v, before, stops⟩
    · exact Wanted.still_of_aside still aside named address applied
    · exact .inr ⟨v, before, stops.applied named applied⟩

theorem Settled.append (settled : Settled createOnly objects earlier list)
    (still : w.IsStill createOnly objects) :
    Settled createOnly objects earlier (list ++ [w]) := by
  induction list generalizing earlier with
  | nil => exact ⟨.inl still, trivial⟩
  | cons u rest ih => exact ⟨settled.1, ih settled.2⟩

namespace Wanted

/-- **A successful attempt settles its object**, and leaves those before it settled. -/
theorem settles_attempt {before : List Wanted} {outcome : Outcome} {s t : Server}
    (untroubled : s.troubles = []) (settled : Settled createOnly s.objects [] before)
    (follows : Follows w [] before) (tells : w.TellsLists) (named : w.IsNamed)
    (stable : w.IsStable)
    (ran : run Server.answer (w.attempt createOnly).run s = (.ok outcome, t)) :
    t.troubles = [] ∧ Settled createOnly t.objects [] (before ++ [w]) ∧
      ∃ path, w.address? = some path ∧ w.Applied createOnly path s.objects t.objects := by
  obtain ⟨quiet, path, address, applied⟩ := applied_of_run untroubled tells ran
  have others : Settled createOnly t.objects [] before :=
    settled.applied follows named address applied
  exact ⟨quiet, others.append (still_of_applied stable address applied), path, address, applied⟩

end Wanted

namespace Step

/-- The objects of steps that have one. -/
def wanteds (steps : List Step) : List Wanted :=
  steps.filterMap fun step =>
    match step.wanted with
    | .ok wanted => wanted
    | .error _ => none

variable {settings : Settings} {steps : List Step} {step : Step} {before : List Wanted} {s : Server}

theorem wanteds_cons_of_some (h : step.wanted = .ok (some w)) :
    wanteds (step :: steps) = w :: wanteds steps := by
  simp [wanteds, h]

theorem wanteds_cons_of_none (h : step.wanted = .ok none) :
    wanteds (step :: steps) = wanteds steps := by
  simp [wanteds, h]

/-- The note of a step has the step's condition, before those of the steps after it. -/
theorem types_note_append (outcome : Except Fault Outcome) (notes : List Note)
    (types : (notes.map (·.type)).Sublist (steps.map (·.condition))) :
    (([w.note step.condition outcome] ++ notes).map (·.type)).Sublist
      ((step :: steps).map (·.condition)) := by
  rw [List.map_append, List.map_singleton, Wanted.type_note]
  exact types.cons_cons _

/-- **A successful run settles all its objects**, and changes nothing at other paths. -/
theorem settles_runAll (untroubled : s.troubles = [])
    (settled : Settled settings.createOnly s.objects [] before)
    (orderly : Orderly before (wanteds steps)) (tells : ∀ w ∈ wanteds steps, w.TellsLists)
    (named : ∀ w ∈ wanteds steps, w.IsNamed) (stable : ∀ w ∈ wanteds steps, w.IsStable) :
    ∃ result notes t,
      Pass.Tells Server.answer (fun now => runAll ⟨settings, now⟩ steps) s result notes t ∧
      (notes.map (·.type)).Sublist (steps.map (·.condition)) ∧
      (result = .ok () → t.troubles = [] ∧
        Settled settings.createOnly t.objects [] (before ++ wanteds steps) ∧
        ∀ path, (∀ w ∈ wanteds steps, w.address? ≠ some path ∧ w.birth? ≠ some path) →
          t.objects.get? path = s.objects.get? path) := by
  induction steps generalizing before s with
  | nil =>
    refine ⟨_, [], s, Pass.tells_pure () s, List.Sublist.refl _, fun _ => ⟨untroubled, ?_⟩⟩
    rw [wanteds, List.filterMap_nil, List.append_nil]
    exact ⟨settled, fun _ _ => rfl⟩
  | cons step rest ih =>
    cases made : step.wanted with
    | error fault =>
      exact ⟨_, [], s, Pass.tells_bind_of_error (tells_run_of_error made s), List.nil_sublist _,
        nofun⟩
    | ok wanted =>
      cases wanted with
      | none =>
        rw [wanteds_cons_of_none made] at orderly tells named stable ⊢
        obtain ⟨result, notes, t, told, types, settles⟩ :=
          ih untroubled settled orderly tells named stable
        exact ⟨result, notes, t, Pass.tells_bind (tells_run_of_none made s) told,
          types.trans (List.sublist_cons_self _ _), settles⟩
      | some w =>
        rw [wanteds_cons_of_some made] at orderly tells named stable ⊢
        obtain ⟨follows, orderly⟩ := orderly
        rcases ran : Exchange.run Server.answer (w.attempt settings.createOnly).run s with
          ⟨fault | outcome, t⟩
        · exact ⟨_, _, t, Pass.tells_bind_of_error (tells_run_of_some made ran),
            types_note_append _ [] (List.nil_sublist _), nofun⟩
        · have mem : w ∈ w :: wanteds rest := List.mem_cons_self
          obtain ⟨quiet, settledHere, path, address, applied⟩ :=
            Wanted.settles_attempt untroubled settled follows (tells w mem) (named w mem)
              (stable w mem) ran
          obtain ⟨result, notes, u, told, types, settles⟩ := ih quiet settledHere orderly
            (fun v hv => tells v (List.mem_cons_of_mem _ hv))
            (fun v hv => named v (List.mem_cons_of_mem _ hv))
            (fun v hv => stable v (List.mem_cons_of_mem _ hv))
          refine ⟨result, _, u, Pass.tells_bind (tells_run_of_some made ran) told,
            types_note_append _ notes types, fun ok => ?_⟩
          obtain ⟨quiet, settled, elsewhere⟩ := settles ok
          rw [List.append_assoc] at settled
          refine ⟨quiet, settled, fun other away => ?_⟩
          rw [elsewhere other fun v hv => away v (List.mem_cons_of_mem _ hv)]
          exact applied.get?_eq address (away w mem)

/-- **A run over settled objects only asks.** It has the same result and the same notes, with the
same requests, at all servers that show the same objects where it looks. -/
theorem rests_runAll {earlier : List Wanted} {sight : String → Prop}
    (settled : Settled settings.createOnly s.objects earlier (wanteds steps))
    (free : ∀ v ∈ earlier, ¬ v.Stops s.objects) (tells : ∀ w ∈ wanteds steps, w.TellsLists)
    (seen : ∀ w ∈ wanteds steps, ∀ path,
      w.address? = some path ∨ w.birth? = some path → sight path) :
    ∃ result notes asked, Wanted.Harmless asked ∧
      (notes.map (·.type)).Sublist (steps.map (·.condition)) ∧
      ∀ t, s.Shows sight t →
        Pass.Tells Server.answer (fun now => runAll ⟨settings, now⟩ steps) t result notes
          (t.asking asked) := by
  induction steps generalizing earlier with
  | nil => exact ⟨_, [], [], nofun, List.Sublist.refl _, fun t _ => Pass.tells_pure () t⟩
  | cons step rest ih =>
    cases made : step.wanted with
    | error fault =>
      exact ⟨_, [], [], nofun, List.nil_sublist _, fun t _ =>
        Pass.tells_bind_of_error (tells_run_of_error made t)⟩
    | ok wanted =>
      cases wanted with
      | none =>
        rw [wanteds_cons_of_none made] at settled tells seen
        obtain ⟨result, notes, asked, harmless, types, told⟩ := ih settled free tells seen
        exact ⟨result, notes, asked, harmless, types.trans (List.sublist_cons_self _ _),
          fun t shows => Pass.tells_bind (tells_run_of_none made t) (told t shows)⟩
      | some w =>
        rw [wanteds_cons_of_some made] at settled tells seen
        obtain ⟨here, settled⟩ := settled
        have still : w.IsStill settings.createOnly s.objects :=
          here.resolve_right fun ⟨v, before, stops⟩ => free v before stops
        obtain ⟨result, asked, harmless, fails, ran⟩ := Wanted.rests_attempt still
          (tells w List.mem_cons_self) (seen w List.mem_cons_self)
        cases result with
        | error fault =>
          exact ⟨_, _, asked, harmless, types_note_append _ [] (List.nil_sublist _), fun t shows =>
            Pass.tells_bind_of_error (tells_run_of_some made (ran t shows))⟩
        | ok outcome =>
          have passes : ¬ w.Stops s.objects := by
            intro stops
            obtain ⟨fault, failed⟩ := fails stops.2
            cases failed
          obtain ⟨result, notes, more, harmless', types, told⟩ := ih settled
            (by simpa [or_imp, forall_and] using ⟨free, passes⟩)
            (fun v hv => tells v (List.mem_cons_of_mem _ hv))
            (fun v hv => seen v (List.mem_cons_of_mem _ hv))
          refine ⟨result, [w.note step.condition (.ok outcome)] ++ notes, more ++ asked, ?_,
            types_note_append _ notes types, fun t shows => ?_⟩
          · intro r hr
            exact (List.mem_append.1 hr).elim (harmless' r) (harmless r)
          · rw [← Server.asking_asking]
            exact Pass.tells_bind (tells_run_of_some made (ran t shows))
              (told _ (shows.asking asked))

end Step

end WorkloadIdentity

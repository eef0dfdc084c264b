import WorkloadIdentity.Proofs.Ownership
import WorkloadIdentity.Proofs.Patching
import WorkloadIdentity.Proofs.Retries
import WorkloadIdentity.Proofs.Verdicts

/-!
# The books of a pass

A pass keeps four books: the counters of passes and of objects, the gauge of ready operands, and the
table of failures. They are written at different places, and a pass may fail at any of them, or in
the end when it patches the status.

* `Pass.Counts` says which objects a part of a pass counts.
* `Operand.Drives` says what becomes of a pass before the status is patched.
* `Operand.run_look_eq`: how a pass ends, given how it was driven.
* `Ledger.Enters` says what a pass enters into the books.
* `books_are_exact`: whatever fails, the entries are these.
-/

namespace WorkloadIdentity

open Exchange

theorem Counts.count_increment (c : Counts) (first second a b : String) :
    (c.increment first second).count a b =
      c.count a b + if a = first ∧ b = second then 1 else 0 := by
  unfold increment
  rw [count, StringMap.get?_insert]
  by_cases outer : a = first
  · subst outer
    rw [if_pos rfl, Option.bind_some, StringMap.get?_insert]
    by_cases inner : b = second
    · subst inner
      rw [if_pos rfl, if_pos ⟨rfl, rfl⟩, Option.getD_some]
    · rw [if_neg inner, if_neg fun both => inner both.2, Nat.add_zero, count]
      cases c.get? a <;> rfl
  · rw [if_neg outer, if_neg fun both => outer both.1, Nat.add_zero, count]

namespace Applied

/-- The object has counted for a kind and an outcome. -/
def isOf (kindName outcome : String) (a : Applied) : Bool :=
  a.wanted.kindName = kindName ∧ a.outcome.text = outcome

end Applied

/-- Counts objects that have been applied. -/
def Metrics.observeAll (m : Metrics) (applied : List Applied) : Metrics :=
  applied.foldl (fun m a => m.observeApply a.wanted.kindName a.outcome.text) m

namespace Metrics

variable (m : Metrics) (applied more : List Applied)

theorem observeAll_append :
    m.observeAll (applied ++ more) = (m.observeAll applied).observeAll more :=
  List.foldl_append

/-- Objects are counted each once, and nothing else is touched. -/
theorem observeAll_spec :
    (∀ kindName outcome, (m.observeAll applied).applied.count kindName outcome =
      m.applied.count kindName outcome + applied.countP (·.isOf kindName outcome)) ∧
    (m.observeAll applied).reconciliations = m.reconciliations ∧
    (m.observeAll applied).ready = m.ready := by
  induction applied generalizing m with
  | nil => exact ⟨fun _ _ => rfl, rfl, rfl⟩
  | cons a rest ih =>
    obtain ⟨objects, passes, ready⟩ := ih (m.observeApply a.wanted.kindName a.outcome.text)
    refine ⟨fun kindName outcome => ?_, passes, ready⟩
    have here : (m.observeApply a.wanted.kindName a.outcome.text).applied.count kindName outcome =
        m.applied.count kindName outcome +
          if kindName = a.wanted.kindName ∧ outcome = a.outcome.text then 1 else 0 :=
      Counts.count_increment ..
    have counted : a.isOf kindName outcome =
        decide (kindName = a.wanted.kindName ∧ outcome = a.outcome.text) := by
      simp [Applied.isOf, eq_comm]
    rw [observeAll, List.foldl_cons, ← observeAll, objects, here, List.countP_cons, counted]
    simp only [decide_eq_true_eq]
    omega

end Metrics

section
variable {α β τ : Type} {server : Request → τ → Reply × τ} {s t u : τ}
  {applied more : List Applied}

/-- Whatever the time is and whatever has been noted before, a part of a pass that starts at `s`
ends at `t` with a result, and counts some objects as applied. -/
def Pass.Counts (server : Request → τ → Reply × τ) (part : String → Pass α) (s : τ)
    (result : Except Fault α) (applied : List Applied) (t : τ) : Prop :=
  ∀ now (journal : Journal), ∃ recorder, run server ((part now).run journal) s =
    ((result, { recorder, metrics := journal.metrics.observeAll applied }), t)

namespace Pass

theorem counts_pure (a : α) (s : τ) : Counts server (fun _ => pure a) s (.ok a) [] s :=
  fun _ journal => ⟨journal.recorder, rfl⟩

theorem Counts.bind {part : String → Pass α} {f : String → α → Pass β} {a : α}
    {result : Except Fault β} (first : Counts server part s (.ok a) applied t)
    (second : Counts server (fun now => f now a) t result more u) :
    Counts server (fun now => part now >>= f now) s result (applied ++ more) u := by
  intro now journal
  obtain ⟨recorder, ran⟩ := first now journal
  obtain ⟨recorder, later⟩ :=
    second now { recorder, metrics := journal.metrics.observeAll applied }
  refine ⟨recorder, ?_⟩
  rw [run_bind_of_ok ran, Metrics.observeAll_append]
  exact later

theorem Counts.bind_of_error {part : String → Pass α} {f : String → α → Pass β} {fault : Fault}
    (first : Counts server part s (.error fault) applied t) :
    Counts server (fun now => part now >>= f now) s (.error fault) applied t := by
  intro now journal
  obtain ⟨recorder, ran⟩ := first now journal
  exact ⟨recorder, run_bind_of_error ran⟩

/-- An attempt by itself counts nothing. -/
theorem counts_attempt {attempt : Attempt α} {result : Except Fault α}
    (ran : run server attempt.run s = (result, t)) :
    Counts server (fun _ => attempt.pass) s result [] t := by
  intro _ journal
  refine ⟨journal.recorder, (run_bind_eq attempt.run _ s).trans ?_⟩
  rw [ran]
  rfl

end Pass

namespace Step

variable {settings : Settings} {step : Step} {before idle rest : List Step} {asked : List Request}

theorem counts_of_none (nothing : step.wanted = .ok none) (s : τ) :
    Pass.Counts server (fun now => step.run ⟨settings, now⟩) s (.ok ()) [] s := by
  unfold run
  rw [nothing]
  exact Pass.counts_pure () s

theorem counts_of_flawed {fault : Fault} (flawed : step.wanted = .error fault) (s : τ) :
    Pass.Counts server (fun now => step.run ⟨settings, now⟩) s (.error fault) [] s := by
  unfold run
  rw [flawed]
  exact fun _ journal => ⟨journal.recorder, rfl⟩

section
variable {w : Wanted} (made : step.wanted = .ok (some w))

include made

/-- A step with an object makes one note of the attempt to apply it. -/
theorem run_of_some {result : Except Fault Outcome}
    (ran : Exchange.run server (w.attempt settings.createOnly).run s = (result, t)) (now : String)
    (journal : Journal) :
    Exchange.run server ((step.run ⟨settings, now⟩).run journal) s =
      ((result.map fun _ => (), journal.note now step.condition w result), t) := by
  unfold run
  rw [made]
  refine (run_bind_eq (w.attempt settings.createOnly).run _ s).trans ?_
  rw [ran]
  rfl

/-- An object that is applied counts once. -/
theorem counts_of_applied {outcome : Outcome}
    (ran : Exchange.run server (w.attempt settings.createOnly).run s = (.ok outcome, t)) :
    Pass.Counts server (fun now => step.run ⟨settings, now⟩) s (.ok ())
      [⟨step.condition, w, outcome⟩] t :=
  fun now journal => ⟨_, run_of_some made ran now journal⟩

/-- An object that cannot be applied does not count. -/
theorem counts_of_refused {fault : Fault}
    (ran : Exchange.run server (w.attempt settings.createOnly).run s = (.error fault, t)) :
    Pass.Counts server (fun now => step.run ⟨settings, now⟩) s (.error fault) [] t :=
  fun now journal => ⟨_, run_of_some made ran now journal⟩

end

/-- Steps that have been taken count their objects, each once. -/
theorem Completed.counts {result : Except Fault Unit}
    (h : Completed server settings.createOnly before s applied asked t)
    (later : Pass.Counts server (fun now => runAll ⟨settings, now⟩ rest) t result more u) :
    Pass.Counts server (fun now => runAll ⟨settings, now⟩ (before ++ rest)) s result
      (applied ++ more) u := by
  induction h with
  | nil s => exact later
  | cons made ran _ ih => exact (counts_of_applied made ran).bind (ih later)

theorem counts_idle (nothing : ∀ step ∈ idle, step.wanted = .ok none) (s : τ) :
    Pass.Counts server (fun now => runAll ⟨settings, now⟩ idle) s (.ok ()) [] s := by
  induction idle with
  | nil => exact Pass.counts_pure () s
  | cons step rest ih =>
    obtain ⟨here, later⟩ := List.forall_mem_cons.1 nothing
    exact (counts_of_none here s).bind (ih later)

end Step

namespace Operand

section
variable {σ : Type} [OperandPass σ] {settings : Settings} {plan : Attempt (List Step)}
  {course : Course}

/-- Looking at the workload counts nothing. -/
theorem counts_observe {result : Except Fault (Workload (OperandPass.workload σ))}
    (looked : run server (workload σ settings).run s = (result, t)) :
    Pass.Counts server (fun _ => observe σ settings) s (result.map Readiness.ofWorkload) [] t := by
  have counts := Pass.counts_attempt looked
  unfold observe
  cases result with
  | error fault => exact counts.bind_of_error
  | ok w =>
    exact counts.bind (f := fun _ w => pure (Readiness.ofWorkload w))
      (Pass.counts_pure (Readiness.ofWorkload w) t)

/-- A pass counts the objects that its course has applied. -/
theorem Takes.counts (h : Takes σ server settings plan s course t) :
    Pass.Counts server (fun now => pursue σ ⟨settings, now⟩ plan) s course.outcome course.applied
      t := by
  unfold pursue
  cases h with
  | unplanned planned => exact (Pass.counts_attempt planned).bind_of_error
  | @unmade first after step applied asked fault u _ planned taken flawed =>
    have stops : Pass.Counts server (fun now => Step.runAll ⟨settings, now⟩ (step :: after)) t
        (.error fault) [] t := (Step.counts_of_flawed flawed t).bind_of_error
    have ran := taken.counts stops
    rw [List.append_nil] at ran
    exact (Pass.counts_attempt planned).bind ran.bind_of_error
  | @refused first after step w applied asked fault u v _ planned taken made failed =>
    have stops : Pass.Counts server (fun now => Step.runAll ⟨settings, now⟩ (step :: after)) v
        (.error fault) [] t := (Step.counts_of_refused made failed).bind_of_error
    have ran := taken.counts stops
    rw [List.append_nil] at ran
    exact (Pass.counts_attempt planned).bind ran.bind_of_error
  | @observed before idle applied asked result u v _ planned nothing taken looked =>
    have ran := taken.counts (Step.counts_idle nothing v)
    rw [List.append_nil] at ran
    have later := ran.bind (f := fun _ _ => observe σ settings) (counts_observe looked)
    rw [List.append_nil] at later
    exact (Pass.counts_attempt planned).bind later

end

/-- What becomes of a pass before the status is patched: it is not approved and applies nothing, or
its rest takes a course. -/
inductive Drives (σ : Type) [OperandPass σ] (server : Request → τ → Reply × τ) (scene : Scene)
    (o : Operand σ) (s : τ) : List Applied → Except Fault Readiness → τ → Prop
  | disapproved {fault : Fault} {t : τ} (ran : run server (approve o).run s = (.error fault, t)) :
    Drives σ server scene o s [] (.error fault) t
  | approved {spec : ManagerSpec} {course : Course} {s₀ t : τ}
    (ran : run server (approve o).run s = (.ok spec, s₀))
    (takes : Takes σ server scene.settings (OperandPass.steps scene spec o) s₀ course t) :
    Drives σ server scene o s course.applied course.outcome t

variable {kind : OperandKind} {settings : Settings} {now : String} {o : Operand kind.Spec}
  {outcome : Except Fault Readiness}

theorem Drives.counts (h : Drives kind.Spec server ⟨settings, now⟩ o s applied outcome t) :
    Pass.Counts server (fun now => drive ⟨settings, now⟩ o) s outcome applied t := by
  simp only [drive_eq_approve]
  cases h with
  | disapproved ran => exact (Pass.counts_attempt ran).bind_of_error
  | approved ran takes =>
    refine (Pass.counts_attempt ran).bind (f := fun now spec =>
      pursue kind.Spec ⟨settings, now⟩ (OperandPass.steps ⟨settings, now⟩ spec o)) ?_
    simp only [kind.steps_timeless settings now]
    exact takes.counts

variable (server kind) in
/-- Something becomes of every pass, and each of its notes is on a condition of its own. -/
theorem exists_drives (scene : Scene) (o : Operand kind.Spec) (s : τ) : ∃ applied outcome notes t,
    Drives kind.Spec server scene o s applied outcome t ∧
    Pass.Tells server (fun now => drive ⟨scene.settings, now⟩ o) s outcome notes t ∧
    ((notes ++ Recorder.closing outcome scene.settings.createOnly).map (·.type)).Nodup := by
  cases ran : run server (approve o).run s with
  | mk result s₀ =>
    cases result with
    | error fault =>
      refine ⟨_, _, [], _, .disapproved ran, ?_, Recorder.once_closing (.error fault) _⟩
      simp only [drive_eq_approve]
      exact (Pass.goes_attempt ran).bind_of_error.told
    | ok spec =>
      have follows := kind.follows server scene spec o
      obtain ⟨course, t, takes⟩ := exists_takes kind.Spec scene.settings follows s₀
      obtain ⟨later, order⟩ := takes.reached_append follows
      exact ⟨_, _, _, _, .approved ran takes, (goes_drive ran takes).told,
        Course.once_notes order _ _⟩

section
variable {σ : Type} [OperandPass σ]

/-- The outcome and the journal of a pass at `s` before the status is patched. -/
def driven (server : Request → τ → Reply × τ) (scene : Scene) (ledger : Ledger) (s : τ)
    (o : Operand σ) : (Except Fault Readiness × Journal) × τ :=
  run server ((drive scene o).run
    { recorder := .start o.conditions o.metadata.generation, metrics := ledger.metrics }) s

/-- The result of a pass: its own fault comes before that of the patch. -/
def result (settings : Settings) : Except Fault Readiness → Except Fault Unit →
    Except Fault Revisit
  | .error fault, _ => .error fault
  | .ok _, .error fault => .error fault
  | .ok _, .ok _ => .ok (.after settings.intervalSeconds)

/-- How a pass ends, given how it was driven and what became of the patch, if there was one. -/
theorem run_look_eq {o : Operand σ} (named : o.metadata.anyName = singletonName) {scene : Scene}
    {ledger : Ledger} {s t u : τ} {outcome : Except Fault Readiness} {journal : Journal}
    {recorder : Recorder} {patched : Except Fault Unit}
    (driven : o.driven server scene ledger s = ((outcome, journal), t))
    (concluded : journal.recorder.conclude scene.now outcome scene.settings.createOnly = recorder)
    (patch : (if recorder.changed = true then
      run server (patchConditions σ singletonName recorder.conditions).run t
      else (.ok (), t)) = (patched, u)) (elapsed : Nat) :
    run server (o.look scene elapsed ledger) s =
      ((result scene.settings outcome patched, {
        metrics := conclude σ journal.metrics (endedReady outcome)
          (result scene.settings outcome patched).toBool elapsed
        failures := ledger.failures.afterPass
          (Retry.key (OperandSpec.kind σ).kindName singletonName)
          (result scene.settings outcome patched) }), u) := by
  unfold Operand.driven at driven
  unfold look
  dsimp only
  rw [if_neg (not_not_intro named), named, run_bind_eq, driven]
  dsimp only
  rw [concluded]
  by_cases changed : recorder.changed = true
  · rw [if_pos changed] at patch
    rw [if_pos changed, run_bind_eq, patch]
    cases outcome <;> cases patched <;> rfl
  · rw [if_neg changed] at patch
    cases patch
    rw [if_neg changed]
    cases outcome <;> rfl

end

section
variable {scene : Scene} {ledger : Ledger} {notes : List Note}

/-- How a pass ends that takes one note for each type. -/
theorem run_look_of_once (named : o.metadata.anyName = singletonName) {journal : Journal}
    {patched : Except Fault Unit}
    (told : Pass.Tells server (fun now => drive ⟨scene.settings, now⟩ o) s outcome notes t)
    (once : ((notes ++ Recorder.closing outcome scene.settings.createOnly).map (·.type)).Nodup)
    (driven : o.driven server scene ledger s = ((outcome, journal), t))
    (patch : (if o.ending server scene ledger s = o.conditions then (.ok (), t)
      else run server (patchConditions kind.Spec singletonName
        (o.ending server scene ledger s)).run t) = (patched, u)) (elapsed : Nat) :
    run server (o.look scene elapsed ledger) s =
      ((result scene.settings outcome patched, {
        metrics := conclude kind.Spec journal.metrics (endedReady outcome)
          (result scene.settings outcome patched).toBool elapsed
        failures := ledger.failures.afterPass (Retry.key kind.kindName singletonName)
          (result scene.settings outcome patched) }), u) := by
  let recorder := o.recorded scene.now (notes ++ Recorder.closing outcome scene.settings.createOnly)
  have concluded :
      journal.recorder.conclude scene.now outcome scene.settings.createOnly = recorder := by
    obtain ⟨metrics, ran⟩ := told scene.now
      { recorder := .start o.conditions o.metadata.generation, metrics := ledger.metrics }
    cases driven.symm.trans ran
    rw [Recorder.conclude_eq_write, ← Recorder.write_append]
    rfl
  have isEnding : o.ending server scene ledger s = recorder.conditions :=
    ending_eq told scene.now ledger
  have changed : recorder.changed = true ↔ recorder.conditions ≠ o.conditions :=
    Recorder.changed_write_iff once rfl
  have patch : (if recorder.changed = true then
      run server (patchConditions kind.Spec singletonName recorder.conditions).run t
      else (.ok (), t)) = (patched, u) := by
    simp only [changed, ne_eq, ite_not]
    rwa [isEnding] at patch
  have ended := run_look_eq named driven concluded patch elapsed
  rwa [kind.kind_spec] at ended

/-- The `Ready` condition holds at the end of a pass if and only if the pass has found the operand
ready. -/
theorem holds_ready_ending
    (told : Pass.Tells server (fun now => drive ⟨scene.settings, now⟩ o) s outcome notes t)
    (once : ((notes ++ Recorder.closing outcome scene.settings.createOnly).map (·.type)).Nodup)
    (ledger : Ledger) :
    Condition.holds Condition.ready (o.ending server scene ledger s) = endedReady outcome := by
  have said {n : Note} (noted : n ∈ Recorder.closing outcome scene.settings.createOnly) :
      Condition.Says (o.ending server scene ledger s) o.metadata.generation n := by
    rw [ending_eq told]
    exact Recorder.says_write once (List.mem_append_right notes noted)
  rcases outcome with fault | ⟨ready, message⟩
  · exact (said List.mem_cons_self).holds_eq
  · cases ready
    · exact (said List.mem_cons_self).holds_eq
    · exact (said List.mem_cons_self).holds_eq

end

end Operand

end

/-- What a pass over an operand enters into the books: that it was made and how it ended, the
objects that it has applied, whether the operand is ready, and, if the pass has succeeded, that no
failure counts any longer. -/
structure Ledger.Enters (kind : OperandKind) (before after : Ledger) (applied : List Applied)
    (ready : Bool) (result : Except Fault Revisit) : Prop where
  passes : ∀ controller text, after.metrics.reconciliations.count controller text =
    before.metrics.reconciliations.count controller text +
      if controller = kind.label ∧ text = Metrics.resultText result.toBool then 1 else 0
  objects : ∀ kindName outcome, after.metrics.applied.count kindName outcome =
    before.metrics.applied.count kindName outcome + applied.countP (·.isOf kindName outcome)
  ready : ∀ operand, after.metrics.ready.get? operand =
    if operand = kind.label then some ready else before.metrics.ready.get? operand
  failures : ∀ key, after.failures.get? key =
    if result.toBool = true ∧ key = Retry.key kind.kindName singletonName then none
    else before.failures.get? key

theorem Ledger.enters_conclude (before : Ledger) (kind : OperandKind) (applied : List Applied)
    (ready : Bool) (elapsed : Nat) (settings : Settings) (outcome : Except Fault Readiness)
    (patched : Except Fault Unit) :
    let result := Operand.result settings outcome patched
    Ledger.Enters kind before {
      metrics := Operand.conclude kind.Spec (before.metrics.observeAll applied) ready
        result.toBool elapsed
      failures := before.failures.afterPass (Retry.key kind.kindName singletonName) result }
      applied ready result := by
  intro result
  obtain ⟨objects, passes, readies⟩ := before.metrics.observeAll_spec applied
  have label : (OperandSpec.kind kind.Spec).label = kind.label := by rw [kind.kind_spec]
  refine ⟨fun controller text => ?_, objects, fun operand => ?_, fun key => ?_⟩
  · rw [← label, ← passes]
    exact Counts.count_increment ..
  · rw [← label, ← readies]
    exact StringMap.get?_insert ..
  · rcases outcome with fault | readiness
    · exact (if_neg (by simp [result, Operand.result, Except.toBool])).symm
    · rcases patched with fault | _
      · exact (if_neg (by simp [result, Operand.result, Except.toBool])).symm
      · simp only [result, Operand.result, Except.toBool, true_and]
        exact StringMap.get?_erase ..

/-- **The books are exact.** Whatever fails in a pass over an operand, it is counted once, as a
success if and only if its result is one; it counts each object that it has applied, once and under
its kind and outcome, and no other one; and the gauge says that the operand is ready if and only if
the `Ready` condition does that the pass ends with. The result is the fault of the pass, else that
of the patch of the status, if there is one, and else when to look again. Only then the failures of
the resource are cleared; all others are left as they are. -/
theorem books_are_exact {τ : Type} (kind : OperandKind) (server : Request → τ → Reply × τ)
    (scene : Scene) (elapsed : Nat) (ledger : Ledger) (s : τ) {o : Operand kind.Spec}
    (named : o.metadata.anyName = singletonName) :
    let driven := o.driven server scene ledger s
    let ending := o.ending server scene ledger s
    let patched := if ending = o.conditions then (.ok (), driven.2)
      else run server (Operand.patchConditions kind.Spec singletonName ending).run driven.2
    let result := Operand.result scene.settings driven.1.1 patched.1
    ∃ applied after,
      Operand.Drives kind.Spec server scene o s applied driven.1.1 driven.2 ∧
      run server (o.look scene elapsed ledger) s = ((result, after), patched.2) ∧
      ledger.Enters kind after applied (Condition.holds Condition.ready ending) result := by
  obtain ⟨applied, outcome, notes, t, drives, told, once⟩ :=
    Operand.exists_drives server kind scene o s
  obtain ⟨recorder, ran⟩ := drives.counts scene.now
    { recorder := .start o.conditions o.metadata.generation, metrics := ledger.metrics }
  have isDriven : o.driven server scene ledger s =
      ((outcome, { recorder, metrics := ledger.metrics.observeAll applied }), t) := by
    unfold Operand.driven
    exact ran
  rw [isDriven]
  dsimp only
  generalize patch : (if o.ending server scene ledger s = o.conditions then (.ok (), t)
    else run server (Operand.patchConditions kind.Spec singletonName
      (o.ending server scene ledger s)).run t) = patched
  obtain ⟨patched, u⟩ := patched
  refine ⟨applied, _, drives, Operand.run_look_of_once named told once isDriven patch elapsed, ?_⟩
  rw [Operand.holds_ready_ending told once ledger]
  exact ledger.enters_conclude kind applied (endedReady outcome) elapsed scene.settings outcome
    patched

/-- A pass that leaves existing objects alone. -/
def sparingScene : Scene := ⟨sparingSettings, "2026-01-01T00:00:00Z"⟩

/-- The books after one failure of the storage driver. -/
def failedOnce : Ledger where
  failures := (∅ : FailureCounts).increment (Retry.key "SpiffeCSIDriver" singletonName)

/-- Where all requests are dropped behind the one for the account, both the pass and the patch fail,
and one object has been applied. -/
theorem books_are_exact_driver :
    driverOperand.metadata.anyName = singletonName ∧
    ∃ applied after,
      Operand.Drives OperandKind.driver.Spec droppingServer sparingScene driverOperand () applied
        (driverOperand.driven droppingServer sparingScene failedOnce ()).1.1
        (driverOperand.driven droppingServer sparingScene failedOnce ()).2 ∧
      (run droppingServer (driverOperand.look sparingScene 0 failedOnce) ()).1.2 = after ∧
      applied.countP (·.isOf "ServiceAccount" "skipped") = 1 ∧
      after.metrics.reconciliations.count "spiffe-csi-driver" "error" = 1 ∧
      after.metrics.reconciliations.count "spiffe-csi-driver" "success" = 0 ∧
      after.metrics.ready.get? "spiffe-csi-driver" = some false ∧
      after.failures.get? (Retry.key "SpiffeCSIDriver" singletonName) = some 1 := by
  obtain ⟨applied, after, drives, ran, entered⟩ :=
    books_are_exact .driver droppingServer sparingScene 0 failedOnce () (o := driverOperand) rfl
  obtain ⟨failed, counted, unready⟩ :
      (run droppingServer (driverOperand.look sparingScene 0 failedOnce) ()).1.1.toBool = false ∧
      Counts.count (run droppingServer (driverOperand.look sparingScene 0 failedOnce)
        ()).1.2.metrics.applied "ServiceAccount" "skipped" = 1 ∧
      Condition.holds Condition.ready
        (driverOperand.ending droppingServer sparingScene failedOnce ()) = false := by
    decide +kernel
  rw [ran] at failed counted
  refine ⟨rfl, applied, after, drives, congrArg (·.1.2) ran, ?_, ?_, ?_, ?_, ?_⟩
  · have objects := entered.objects "ServiceAccount" "skipped"
    rw [counted] at objects
    have none : failedOnce.metrics.applied.count "ServiceAccount" "skipped" = 0 := rfl
    omega
  · exact (entered.passes _ _).trans (by rw [failed]; rfl)
  · exact (entered.passes _ _).trans (by rw [failed]; rfl)
  · exact (entered.ready _).trans (by rw [unready]; rfl)
  · exact (entered.failures _).trans (by rw [failed]; rfl)

end WorkloadIdentity

import Mathlib.Algebra.Group.Nat.Defs
import WorkloadIdentity.Operator.Resource
import WorkloadIdentity.Proofs.Applying
import WorkloadIdentity.Proofs.Maps

/-!
# Failures are counted exactly

All controllers share one table of failures. A failed pass counts up under the key of its resource,
and a pass that succeeds clears the entry under a key that it puts together itself. So the counts are
right only if both keys are the same, and if no two resources share one.

* `Retry.failuresSince` reads off a history how often a resource has failed since it succeeded.
* `Ledger.Reachable` are the ledgers that failures and passes lead to, in any order.
* `CustomResource.run_look`: all that a pass does to the counts is to clear an entry if it succeeds.
* `Ledger.Reachable.count_eq`: the counts are those of the history.
* `failures_are_counted`: the delays follow the counts, and a success clears what a failure counts.
-/

namespace WorkloadIdentity

open Exchange

namespace Retry

/-- What failures are counted for: a resource, by its kind and its name. -/
structure Target where
  kind : CustomKind
  name : String
deriving DecidableEq, Repr

def Target.key (x : Target) : String := Retry.key x.kind.kindName x.name

inductive Entry where
  | failed (x : Target)
  | succeeded (x : Target)
deriving DecidableEq, Repr

namespace Entry

def target : Entry → Target
  | failed x => x
  | succeeded x => x

def isFailure : Entry → Bool
  | failed _ => true
  | succeeded _ => false

/-- What a pass adds to the history. A pass that fails adds nothing by itself, since its failure is
handled later on. -/
def ofPass (x : Target) : Except Fault Revisit → List Entry
  | .ok (.after _) => [.succeeded x]
  | .ok .onChange => []
  | .error _ => []

end Entry

/-- The failures of a resource since it last succeeded; the latest entry comes first. -/
def failuresSince (history : List Entry) (x : Target) : Nat :=
  ((history.filter (·.target = x)).takeWhile Entry.isFailure).length

/-- All failures of a resource. -/
def failures (history : List Entry) (x : Target) : Nat := history.count (.failed x)

variable {history : List Entry} {x y : Target}

theorem failuresSince_failed :
    failuresSince (.failed y :: history) x =
      if x = y then failuresSince history x + 1 else failuresSince history x := by
  unfold failuresSince
  by_cases same : x = y
  · subst same
    have own : decide ((Entry.failed x).target = x) = true := decide_eq_true rfl
    rw [if_pos rfl, List.filter_cons, if_pos own, List.takeWhile_cons_of_pos rfl, List.length_cons]
  · have other : ¬ y = x := fun h => same h.symm
    simp [Entry.target, same, other]

theorem failuresSince_succeeded :
    failuresSince (.succeeded y :: history) x =
      if x = y then 0 else failuresSince history x := by
  unfold failuresSince
  by_cases same : x = y
  · subst same
    simp [Entry.target, Entry.isFailure]
  · have other : ¬ y = x := fun h => same h.symm
    simp [Entry.target, same, other]

theorem failuresSince_le_failures (history : List Entry) (x : Target) :
    failuresSince history x ≤ failures history x := by
  induction history with
  | nil => exact Nat.le_refl _
  | cons entry earlier ih =>
    unfold failures at ih ⊢
    cases entry with
    | failed y =>
      rw [failuresSince_failed, List.count_cons]
      by_cases same : x = y
      · simp only [same, if_true, beq_self_eq_true] at ih ⊢
        omega
      · rw [if_neg same]
        omega
    | succeeded y =>
      rw [failuresSince_succeeded, List.count_cons]
      by_cases same : x = y
      · rw [if_pos same]
        omega
      · rw [if_neg same]
        omega

end Retry

namespace CustomKind

theorem slash_notMem_kindName (k : CustomKind) : '/' ∉ k.kindName.toList := by
  rcases k with _ | k
  · decide
  · cases k <;> decide

end CustomKind

/-- What stands before the first slash of a key is the kind. -/
theorem Retry.takeWhile_key (x : Target) :
    x.key.toList.takeWhile (· ≠ '/') = x.kind.kindName.toList := by
  have all : ∀ c ∈ x.kind.kindName.toList, decide (c ≠ '/') = true := by
    intro c mem
    have ne : c ≠ '/' := fun same => x.kind.slash_notMem_kindName (same ▸ mem)
    exact decide_eq_true ne
  have slash : "/".toList = ['/'] := rfl
  rw [Target.key, key, String.toList_append, String.toList_append, slash, List.append_assoc,
    List.takeWhile_append_of_pos all]
  simp

/-- No two resources share a key. -/
theorem Retry.Target.eq_of_key_eq {x y : Target} (h : x.key = y.key) : x = y := by
  have names : x.kind.kindName.toList = y.kind.kindName.toList := by
    rw [← takeWhile_key, ← takeWhile_key, h]
  have kinds : x.kind = y.kind := CustomKind.eq_of_kindName_eq (String.toList_inj.1 names)
  have rest : x.name = y.name := by
    unfold key Retry.key at h
    rw [kinds] at h
    exact (String.append_right_inj _).1 h
  cases x
  cases y
  cases kinds
  cases rest
  rfl

namespace FailureCounts

variable (counts : FailureCounts)

theorem count_increment (key other : String) :
    (counts.increment key).count other =
      if other = key then counts.count key + 1 else counts.count other := by
  unfold increment count
  rw [StringMap.get?_insert]
  split <;> rfl

theorem count_reset (key other : String) :
    (counts.reset key).count other = if other = key then 0 else counts.count other := by
  unfold reset count
  rw [StringMap.get?_erase]
  split <;> rfl

/-- The counts after a pass: one that succeeds clears its entry. -/
def afterPass (key : String) : Except Fault Revisit → FailureCounts
  | .ok (.after _) => counts.reset key
  | .ok .onChange => counts
  | .error _ => counts

end FailureCounts

section
variable {τ : Type} (server : Request → τ → Reply × τ)

theorem Operand.run_look_counts {σ : Type} [OperandPass σ] (o : Operand σ) (scene : Scene)
    (elapsed : Nat) (metrics : Metrics) (s : τ) : ∃ result metrics' t, ∀ counts,
      run server (o.look scene elapsed ⟨metrics, counts⟩) s =
        ((result, ⟨metrics', counts.afterPass
          (Retry.key (OperandSpec.kind σ).kindName o.metadata.anyName) result⟩), t) := by
  by_cases named : o.metadata.anyName = singletonName
  · unfold look
    dsimp only
    simp only [if_neg (not_not_intro named), run_bind_eq]
    generalize run server ((drive scene o).run _) s = driven
    obtain ⟨⟨outcome, journal⟩, t⟩ := driven
    dsimp only
    -- Whether the conditions are patched or not, the counts are changed only afterwards.
    by_cases changed :
        (journal.recorder.conclude scene.now outcome scene.settings.createOnly).changed = true
    · simp only [if_pos changed, run_bind_eq]
      generalize run server (patchConditions σ _ _).run t = patch
      obtain ⟨patched, u⟩ := patch
      dsimp only
      cases outcome.bind fun _ => patched with
      | ok a => exact ⟨_, _, _, fun counts => rfl⟩
      | error fault => exact ⟨_, _, _, fun counts => rfl⟩
    · simp only [if_neg changed]
      cases outcome with
      | ok a => exact ⟨_, _, _, fun counts => rfl⟩
      | error fault => exact ⟨_, _, _, fun counts => rfl⟩
  · refine ⟨.ok .onChange, metrics, s, fun counts => ?_⟩
    unfold look
    dsimp only
    rw [if_pos named]
    rfl

theorem Manager.run_look_counts (m : Manager) (scene : Scene) (elapsed : Nat) (metrics : Metrics)
    (s : τ) : ∃ result metrics' t, ∀ counts,
      run server (m.look scene elapsed ⟨metrics, counts⟩) s =
        ((result, ⟨metrics', counts.afterPass
          (Retry.key Manager.kindName m.metadata.anyName) result⟩), t) := by
  by_cases named : m.metadata.anyName = singletonName
  · unfold look
    dsimp only
    simp only [if_neg (not_not_intro named), run_bind_eq]
    generalize run server (sync scene m).run s = synced
    obtain ⟨result, t⟩ := synced
    cases result with
    | ok a => exact ⟨_, _, _, fun counts => rfl⟩
    | error fault => exact ⟨_, _, _, fun counts => rfl⟩
  · refine ⟨.ok .onChange, metrics, s, fun counts => ?_⟩
    unfold look
    dsimp only
    rw [if_pos named]
    rfl

namespace CustomResource

/-- What the failures of the resource are counted for. -/
def target (r : CustomResource) : Retry.Target := ⟨r.kind, r.metadata.anyName⟩

/-- All that a pass does to the counts is to clear its entry if it succeeds, and the counts make no
difference to the pass; so it does not matter when other passes and failures change them. -/
theorem run_look (r : CustomResource) (scene : Scene) (elapsed : Nat) (metrics : Metrics) (s : τ) :
    ∃ result metrics' t, ∀ counts,
      run server (r.look scene elapsed ⟨metrics, counts⟩) s =
        ((result, ⟨metrics', counts.afterPass r.target.key result⟩), t) := by
  cases r with
  | manager m => exact m.run_look_counts server scene elapsed metrics s
  | server o => exact o.run_look_counts server scene elapsed metrics s
  | agent o => exact o.run_look_counts server scene elapsed metrics s
  | discovery o => exact o.run_look_counts server scene elapsed metrics s
  | driver o => exact o.run_look_counts server scene elapsed metrics s

theorem failures_look {r : CustomResource} {scene : Scene} {elapsed : Nat} {l l' : Ledger} {s : τ}
    {result : Except Fault Revisit}
    (ran : (run server (r.look scene elapsed l) s).1 = (result, l')) :
    l'.failures = l.failures.afterPass r.target.key result := by
  obtain ⟨_, _, _, ends⟩ := r.run_look server scene elapsed l.metrics s
  have ended := ends l.failures
  rw [ended] at ran
  cases ran
  rfl

end CustomResource

end

namespace Ledger

open Retry

/-- A failure is counted, or a pass over a resource ends, against any server. -/
inductive Step : Ledger → List Entry → Ledger → Prop where
  | fail (l : Ledger) (r : CustomResource) (fault : Fault) :
    Step l [.failed r.target] (r.fail l fault).1
  | look {τ : Type} {server : Request → τ → Reply × τ} {s : τ} {scene : Scene} {elapsed : Nat}
    {l l' : Ledger} {r : CustomResource} {result : Except Fault Revisit}
    (ran : (run server (r.look scene elapsed l) s).1 = (result, l')) :
    Step l (Entry.ofPass r.target result) l'

/-- The ledgers that failures and passes lead to, with what has happened. -/
inductive Reachable : Ledger → List Entry → Prop where
  | start (metrics : Metrics) : Reachable { metrics } []
  | next {l l' : Ledger} {history entries : List Entry} :
    Reachable l history → Step l entries l' → Reachable l' (entries ++ history)

variable {l l' : Ledger} {history entries : List Entry}

/-- The counts are those of a history. -/
def IsExact (l : Ledger) (history : List Entry) : Prop :=
  ∀ x : Target, l.failures.count x.key = failuresSince history x

theorem failures_fail (l : Ledger) (r : CustomResource) (fault : Fault) :
    (r.fail l fault).1.failures = l.failures.increment r.target.key := rfl

theorem IsExact.step (exact : l.IsExact history) (step : Step l entries l') :
    l'.IsExact (entries ++ history) := by
  intro x
  have before := exact x
  cases step with
  | fail _ r fault =>
    rw [failures_fail, FailureCounts.count_increment, List.singleton_append, failuresSince_failed]
    by_cases same : x = r.target
    · subst same
      rw [if_pos rfl, if_pos rfl, before]
    · have apart : x.key ≠ r.target.key := fun keys => same (Target.eq_of_key_eq keys)
      rw [if_neg same, if_neg apart, before]
  | @look _ _ _ _ _ _ _ r result ran =>
    rw [CustomResource.failures_look _ ran]
    rcases result with fault | (seconds | _)
    · exact before
    · change (l.failures.reset r.target.key).count x.key = _
      rw [FailureCounts.count_reset]
      change _ = failuresSince (.succeeded r.target :: history) x
      rw [failuresSince_succeeded]
      by_cases same : x = r.target
      · subst same
        rw [if_pos rfl, if_pos rfl]
      · have apart : x.key ≠ r.target.key := fun keys => same (Target.eq_of_key_eq keys)
        rw [if_neg same, if_neg apart, before]
    · exact before

theorem Reachable.count_eq (reachable : Reachable l history) (x : Target) :
    l.failures.count x.key = failuresSince history x := by
  have exact : l.IsExact history := by
    induction reachable with
    | start metrics => exact fun x => rfl
    | next _ step ih => exact ih.step step
  exact exact x

end Ledger

namespace Retry

/-- The delay doubles with each failure, until it is as long as it may be. -/
theorem delay_eq (failures : Nat) : delay failures = min 600 (30 * 2 ^ (failures - 1)) := by
  unfold delay firstDelay longestDelay
  rw [Nat.pow_eq, Nat.min_comm]
  by_cases small : failures - 1 ≤ 5
  · rw [Nat.min_eq_left small]
  · have longest : 5 ≤ failures - 1 := by omega
    have large : 2 ^ 5 ≤ 2 ^ (failures - 1) := Nat.pow_le_pow_right (by omega) longest
    rw [Nat.min_eq_right longest]
    omega

theorem delay_mono {m n : Nat} (h : m ≤ n) : delay m ≤ delay n := by
  have exponents : m - 1 ≤ n - 1 := by omega
  have powers : 2 ^ (m - 1) ≤ 2 ^ (n - 1) := Nat.pow_le_pow_right (by omega) exponents
  rw [delay_eq, delay_eq]
  omega

theorem delay_bounds (n : Nat) : 30 ≤ delay n ∧ delay n ≤ 600 := by
  have positive : 0 < 2 ^ (n - 1) := Nat.pow_pos (by omega)
  rw [delay_eq]
  omega

theorem wordDelay?_eq (failures : UInt32) : wordDelay? failures = some (delay failures.toNat) := by
  have exponent : min (failures.toNat - 1) 5 ≤ 5 := Nat.min_le_right _ _
  have factor : 2 ^ min (failures.toNat - 1) 5 ≤ 2 ^ 5 := Nat.pow_le_pow_right (by omega) exponent
  unfold wordDelay? word? firstDelay
  simp only [Nat.pow_eq]
  rw [if_pos (by omega), Option.bind_eq_bind, Option.bind_some, if_pos (by omega)]
  rfl

end Retry

open Retry

/-- What the failure of a resource does, after a history. -/
structure CustomResource.IsCounted (r : CustomResource) (fault : Fault) (l : Ledger)
    (history : List Entry) : Prop where
  /-- The count is that of the failures since the last success, this one being the latest. -/
  count : (r.fail l fault).1.failures.count r.target.key =
    failuresSince (.failed r.target :: history) r.target
  /-- It is not lost in a word, if there have not been too many failures. -/
  fits : failures (.failed r.target :: history) r.target < 2 ^ 32 →
    (r.fail l fault).1.failures.count r.target.key < 2 ^ 32
  /-- No other resource is affected. -/
  others : ∀ x ≠ r.target, (r.fail l fault).1.failures.count x.key = l.failures.count x.key
  delay : (r.fail l fault).2 = if fault.isRetryable then
    min 600 (30 * 2 ^ (failuresSince (.failed r.target :: history) r.target - 1)) else 300
  atLeast : 30 ≤ (r.fail l fault).2
  atMost : (r.fail l fault).2 ≤ 600

theorem Ledger.Reachable.isCounted {l : Ledger} {history : List Entry}
    (reachable : Reachable l history) (r : CustomResource) (fault : Fault) :
    r.IsCounted fault l history := by
  have count : (r.fail l fault).1.failures.count r.target.key =
      failuresSince (.failed r.target :: history) r.target :=
    (reachable.next (.fail l r fault)).count_eq r.target
  have delay : (r.fail l fault).2 = if fault.isRetryable then
      min 600 (30 * 2 ^ (failuresSince (.failed r.target :: history) r.target - 1)) else 300 := by
    rw [← count, ← delay_eq]
    change (fault.fixedDelay?.getD (Retry.delay
      ((l.failures.increment r.target.key).count r.target.key))) = _
    unfold Fault.fixedDelay?
    split <;> rfl
  have bounds : 30 ≤ (r.fail l fault).2 ∧ (r.fail l fault).2 ≤ 600 := by
    rw [delay, ← delay_eq]
    split
    · exact delay_bounds _
    · omega
  refine ⟨count, ?fits, ?others, delay, bounds.1, bounds.2⟩
  case fits =>
    intro few
    rw [count]
    exact Nat.lt_of_le_of_lt (failuresSince_le_failures _ _) few
  case others =>
    intro x other
    have apart : x.key ≠ r.target.key := fun keys => other (Target.eq_of_key_eq keys)
    rw [failures_fail, FailureCounts.count_increment, if_neg apart]

/-- **Failures are counted exactly.** Whatever failures and passes have happened, in any order:

* a failure is counted, and the resource is tried again after a delay that follows its count;
* each resource has a key of its own, under which a failure counts and a success clears, and no
  other entry changes;
* a pass ends in the same way whatever becomes of the counts meanwhile;
* delays are those of the numbers of failures, never get shorter with more of them, and are computed
  without overflow;
* a fault that passes by itself is one that trying again may help with. -/
theorem failures_are_counted {l : Ledger} {history : List Entry} (reachable : l.Reachable history) :
    (∀ (r : CustomResource) fault, r.IsCounted fault l history) ∧
    (∃ key : Target → String, Function.Injective key ∧
      (∀ (r : CustomResource) fault other, (r.fail l fault).1.failures.get? other =
        if other = key r.target then some (failuresSince history r.target + 1)
        else l.failures.get? other) ∧
      ∀ (τ : Type) (server : Request → τ → Reply × τ) s (r : CustomResource) scene elapsed seconds
        l', (run server (r.look scene elapsed l) s).1 = (.ok (.after seconds), l') →
        ∀ other, l'.failures.get? other =
          if other = key r.target then none else l.failures.get? other) ∧
    (∀ (τ : Type) (server : Request → τ → Reply × τ) s (r : CustomResource) scene elapsed metrics,
      ∃ result metrics' t, ∀ counts, run server (r.look scene elapsed ⟨metrics, counts⟩) s =
        ((result, ⟨metrics', counts.afterPass r.target.key result⟩), t)) ∧
    (∀ n : UInt32, wordDelay? n = some (delay n.toNat) ∧
      delay n.toNat = min 600 (30 * 2 ^ (n.toNat - 1)) ∧
      ∀ more : UInt32, n ≤ more → delay n.toNat ≤ delay more.toNat) ∧
    ∀ fault : Fault, fault.isTransient = true → fault.isRetryable = true := by
  have cleared (τ : Type) (server : Request → τ → Reply × τ) (s : τ) (r : CustomResource)
      (scene : Scene) (elapsed seconds : Nat) (l' : Ledger)
      (ran : (run server (r.look scene elapsed l) s).1 = (.ok (.after seconds), l'))
      (other : String) : l'.failures.get? other =
        if other = r.target.key then none else l.failures.get? other := by
    rw [CustomResource.failures_look server ran]
    exact StringMap.get?_erase ..
  have counted (r : CustomResource) (fault : Fault) (other : String) :
      (r.fail l fault).1.failures.get? other =
        if other = r.target.key then some (failuresSince history r.target + 1)
        else l.failures.get? other := by
    rw [Ledger.failures_fail, FailureCounts.increment, StringMap.get?_insert,
      reachable.count_eq r.target]
  exact ⟨reachable.isCounted, ⟨Target.key, fun _ _ => Target.eq_of_key_eq, counted, cleared⟩,
    fun τ server s r scene elapsed metrics => r.run_look server scene elapsed metrics s,
    fun n => ⟨wordDelay?_eq n, delay_eq n.toNat, fun more more_of => delay_mono more_of⟩,
    fun fault => Fault.isRetryable_of_isTransient⟩

/-- A server that knows no resource and takes every status. -/
def obligingServer (r : Request) (s : Unit) : Reply × Unit :=
  (if r.method = .patch then
    .answer 200 (.value (.obj [("metadata", .obj [("name", .str singletonName)]),
      ("spec", (ManagerSpec.mk "example.org" "cluster" "spire-bundle").toJson)]))
  else .answer 404 (.value (.obj [("status", .str "Failure"), ("message", .str "not found"),
    ("reason", .str "NotFound"), ("code", .int 404)])), s)

def retriedManager : CustomResource :=
  .manager { metadata := { name := some singletonName }, spec := { trustDomain := "example.org" } }

def retriedDriver : CustomResource :=
  .driver { metadata := { name := some singletonName }, spec := {} }

/-- The manager and the storage driver fail in turn and the manager succeeds in between: its count
starts again, and that of the storage driver goes on. -/
theorem failures_are_counted_in_turn : ∃ l : Ledger,
    l.Reachable [.failed retriedDriver.target, .succeeded retriedManager.target,
      .failed retriedManager.target, .failed retriedDriver.target,
      .failed retriedManager.target] ∧
    (retriedManager.fail l (.managerNotFound singletonName)).2 = 30 ∧
    (retriedDriver.fail l (.managerNotFound singletonName)).2 = 120 ∧
    (retriedDriver.fail l (.invalidSpec "no path")).2 = 300 := by
  let missing := Fault.managerNotFound singletonName
  let scene : Scene := ⟨{ operandNamespace := "spire" }, "now"⟩
  obtain ⟨result, metrics, t, ends⟩ := retriedManager.run_look obligingServer scene 0 {} ()
  have succeeds : (run obligingServer (retriedManager.look scene 0 ⟨{}, ∅⟩) ()).1.1.toOption =
      some (.after 300) := by decide +kernel
  obtain rfl : result = .ok (.after 300) := by
    rw [ends ∅] at succeeds
    cases result with
    | error fault => cases succeeds
    | ok revisit => exact congrArg Except.ok (Option.some.inj succeeds)
  let failing (l : Ledger) (r : CustomResource) : Ledger := (r.fail l missing).1
  let before := failing (failing (failing {} retriedManager) retriedDriver) retriedManager
  have reached := (((Ledger.Reachable.start {}).next (.fail _ retriedManager missing)).next
    (.fail _ retriedDriver missing)).next (.fail _ retriedManager missing)
  have ran : (run obligingServer (retriedManager.look scene 0 before) ()).1 = _ :=
    congrArg Prod.fst (ends before.failures)
  have reached := (reached.next (.look ran)).next (.fail _ retriedDriver missing)
  obtain ⟨counted, -⟩ := failures_are_counted reached
  exact ⟨_, reached, (counted retriedManager _).delay, (counted retriedDriver _).delay,
    (counted retriedDriver _).delay⟩

end WorkloadIdentity

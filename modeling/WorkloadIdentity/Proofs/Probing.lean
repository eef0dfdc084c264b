import Mathlib.Data.Nat.Find
import WorkloadIdentity.Operator.Gate
import WorkloadIdentity.Operator.Resource
import WorkloadIdentity.Proofs.Applying

/-! The replies to the gate's requests, one after the other, decide everything: how far each round
gets, at which request the next one begins, and which round is the first that finds all kinds. -/

namespace WorkloadIdentity.Gate

open Exchange

/-- The kinds in the order in which a round asks for them. -/
def kinds : List CustomKind := .manager :: OperandKind.all.map .operand

/-- The request for the resources of a kind. -/
def listing (kind : CustomKind) : Request := { method := .get, path := kind.collection.path }

/-- Whether a reply lists resources of a kind. -/
def isListed (kind : CustomKind) (reply : Reply) : Bool :=
  (Api.readReply (Api.readList? (CustomResource.read? kind)) reply).toBool

/-- Answers the requests in turn from a sequence of replies, and keeps what has been asked. -/
def answer (replies : Nat → Reply) (r : Request) (asked : List Request) : Reply × List Request :=
  (replies asked.length, asked ++ [r])

/-- How far a round gets whose first reply has the given number: up to the first kind that is not
listed, which is asked for in vain. -/
def heard (replies : Nat → Reply) (first : Nat) : List CustomKind → List CustomKind
  | [] => []
  | kind :: rest =>
    kind :: if isListed kind (replies first) then heard replies (first + 1) rest else []

/-- The number of the first reply of a round, as long as there are rounds. -/
def start (replies : Nat → Reply) : Nat → Nat
  | 0 => 0
  | k + 1 => start replies k + (heard replies (start replies k) kinds).length

/-- What a round asks. -/
def questions (replies : Nat → Reply) (k : Nat) : List Request :=
  (heard replies (start replies k) kinds).map listing

/-- What is asked in the rounds before a round. -/
def questionsBefore (replies : Nat → Reply) (n : Nat) : List Request :=
  (List.range n).flatMap (questions replies)

/-- Kinds that are all listed, the replies being taken from a number on. -/
def AreListed (replies : Nat → Reply) (first : Nat) (kinds : List CustomKind) : Prop :=
  ∀ i (h : i < kinds.length), isListed kinds[i] (replies (first + i)) = true

/-- All kinds are listed in the round. -/
def IsFull (replies : Nat → Reply) (k : Nat) : Prop := AreListed replies (start replies k) kinds

/-- The gate after so many rounds, and what has been asked until then. -/
def after (replies : Nat → Reply) (n : Nat) : Gate × List Request :=
  run (answer replies) (rounds n (closed 0)) []

variable {replies : Nat → Reply} {first k n : Nat} {kind : CustomKind} {rest : List CustomKind}

theorem areListed_nil : AreListed replies first [] := nofun

theorem areListed_cons : AreListed replies first (kind :: rest) ↔
    isListed kind (replies first) = true ∧ AreListed replies (first + 1) rest := by
  unfold AreListed
  constructor
  · intro all
    refine ⟨all 0 (Nat.succ_pos _), fun i h => ?_⟩
    rw [Nat.add_assoc, Nat.add_comm 1 i]
    exact all (i + 1) (Nat.succ_lt_succ h)
  · rintro ⟨here, later⟩ (_ | i) h
    · exact here
    · rw [← Nat.add_assoc, Nat.add_right_comm]
      exact later i (Nat.lt_of_succ_lt_succ h)

instance (replies : Nat → Reply) (first : Nat) (list : List CustomKind) :
    Decidable (AreListed replies first list) :=
  inferInstanceAs
    (Decidable (∀ i (h : i < list.length), isListed list[i] (replies (first + i)) = true))

instance (replies : Nat → Reply) (k : Nat) : Decidable (IsFull replies k) :=
  inferInstanceAs (Decidable (AreListed replies (start replies k) kinds))

/-- A round ends with the last kind, or with the first one that is not listed. -/
theorem heard_eq_take (replies : Nat → Reply) (first : Nat) {list : List CustomKind}
    (nonempty : list ≠ []) : ∃ m, ∃ h : m < list.length,
    heard replies first list = list.take (m + 1) ∧ AreListed replies first (list.take m) ∧
    (isListed list[m] (replies (first + m)) = true → m + 1 = list.length) := by
  induction list generalizing first with
  | nil => exact absurd rfl nonempty
  | cons kind rest ih =>
    cases listed : isListed kind (replies first) with
    | false =>
      refine ⟨0, Nat.succ_pos _, by simp [heard, listed], areListed_nil, fun h => ?_⟩
      exact absurd h (by simp [listed])
    | true =>
      cases rest with
      | nil => exact ⟨0, Nat.one_pos, by simp [heard], areListed_nil, fun _ => rfl⟩
      | cons next others =>
        obtain ⟨m, short, shape, before, last⟩ := ih (first + 1) (List.cons_ne_nil _ _)
        refine ⟨m + 1, Nat.succ_lt_succ short, ?_, ?_, ?_⟩
        · rw [heard, if_pos listed, shape]
          rfl
        · exact areListed_cons.2 ⟨listed, before⟩
        · intro h
          rw [← Nat.add_assoc, Nat.add_right_comm] at h
          exact congrArg Nat.succ (last h)

theorem questionsBefore_succ (replies : Nat → Reply) (n : Nat) :
    questionsBefore replies (n + 1) = questionsBefore replies n ++ questions replies n := by
  simp [questionsBefore, List.range_succ]

theorem length_questionsBefore (replies : Nat → Reply) (n : Nat) :
    (questionsBefore replies n).length = start replies n := by
  induction n with
  | zero => rfl
  | succ n ih =>
    rw [questionsBefore_succ, List.length_append, ih, start, questions, List.length_map]

section
variable {α β : Type}

/-- A part of a round asks for some kinds one after the other, and succeeds if and only if all of
them are listed. -/
def Asks (x : Attempt α) (list : List CustomKind) : Prop :=
  ∀ replies asked, ∃ result, run (answer replies) x.run asked =
      (result, asked ++ (heard replies asked.length list).map listing) ∧
    (result.toBool = true ↔ AreListed replies asked.length list)

theorem asks_pure (a : α) : Asks (pure a) [] :=
  fun _ asked => ⟨.ok a, by simp [heard]; rfl, fun _ => areListed_nil, fun _ => rfl⟩

theorem Asks.bind {x : Attempt α} {f : α → Attempt β} (one : Asks x [kind])
    (others : ∀ a, Asks (f a) rest) : Asks (x >>= f) (kind :: rest) := by
  intro replies asked
  obtain ⟨result, ran, listed⟩ := one replies asked
  rw [areListed_cons, and_iff_left areListed_nil] at listed
  have once : asked ++ (heard replies asked.length [kind]).map listing =
      asked ++ [listing kind] := by
    simp [heard]
  rw [once] at ran
  cases result with
  | error fault =>
    have missing : ¬ isListed kind (replies asked.length) = true := fun h => nomatch listed.2 h
    refine ⟨.error fault, ?_, nofun, fun all => absurd (areListed_cons.1 all).1 missing⟩
    rw [ExceptT.run_bind, run_bind_eq, ran, heard, if_neg missing]
    rfl
  | ok a =>
    have here : isListed kind (replies asked.length) = true := listed.1 rfl
    obtain ⟨result, ran', listed'⟩ := others a replies (asked ++ [listing kind])
    rw [List.length_append, List.length_singleton] at ran' listed'
    refine ⟨result, ?_, ?_⟩
    · rw [ExceptT.run_bind, run_bind_eq, ran, heard, if_pos here]
      dsimp only
      rw [ran', List.map_cons, List.append_assoc]
      rfl
    · rw [listed', areListed_cons, and_iff_right here]

theorem toBool_mapError {ε ε' γ : Type} (f : ε → ε') (result : Except ε γ) :
    (result.mapError f).toBool = result.toBool := by
  cases result <;> rfl

theorem mapM_map_wrap (wrap : α → β) (read : Json → Option α) (items : List Json) :
    items.mapM (fun v => (read v).map wrap) = (items.mapM read).map (·.map wrap) := by
  induction items with
  | nil => rfl
  | cons v rest ih =>
    rw [List.mapM_cons, List.mapM_cons, ih]
    cases read v with
    | none => rfl
    | some a => cases rest.mapM read <;> rfl

theorem readList?_map (wrap : α → β) (read : Json → Option α) (v : Json) :
    Api.readList? (fun v => (read v).map wrap) v = (Api.readList? read v).map (·.map wrap) := by
  have list (v : Json) : Json.list? (fun v => (read v).map wrap) v =
      (Json.list? read v).map (·.map wrap) := by
    cases v with
    | arr items => exact mapM_map_wrap wrap read items
    | _ => rfl
  have required (ms : Members) : ms.required "items" (Json.list? fun v => (read v).map wrap) =
      (ms.required "items" (Json.list? read)).map (·.map wrap) := by
    unfold Members.required
    cases Json.lookup "items" ms with
    | none => rfl
    | some v => exact list v
  unfold Api.readList?
  cases v.record? ["metadata", "items"] with
  | none => rfl
  | some ms =>
    dsimp only [Option.bind_eq_bind, Option.bind_some]
    cases ms.required "metadata" Api.listMeta.read with
    | none => rfl
    | some _ => exact required ms

/-- Whether a reply is a list does not depend on what its items are wrapped in. -/
theorem toBool_readReply_map (wrap : α → β) (read : Json → Option α) (reply : Reply) :
    (Api.readReply (Api.readList? fun v => (read v).map wrap) reply).toBool =
      (Api.readReply (Api.readList? read) reply).toBool := by
  cases reply with
  | dropped => rfl
  | answer code body =>
    unfold Api.readReply
    dsimp only
    split
    · rfl
    · cases body.value? with
      | none => rfl
      | some v =>
        dsimp only [Option.bind_some]
        rw [readList?_map]
        cases Api.readList? read v <;> rfl

theorem path?_listing (kind : CustomKind) :
    Address.path? (kind.collection.path ++ "?&limit=1") = some kind.collection.path := by
  have plain : Address.IsPlain kind.collection.path := fun c mem =>
    kind.isPlain_path c (by simp [CustomKind.path, Api.targetOf, mem])
  have query : Address.path? "?&limit=1" = some "" := by decide
  rw [Address.path?_append_of_isPlain plain, query, Option.map_some,
    String.append_empty]

/-- One call for a list. -/
theorem asks_listOne (kind : CustomKind) (wrap : α → CustomResource) (read : Json → Option α)
    (reads : CustomResource.read? kind = fun v => (read v).map wrap) :
    Asks (Call.attempt (Api.listOne kind.collection read)) [kind] := by
  intro replies asked
  have listed : AreListed replies asked.length [kind] ↔
      (Api.readReply (Api.readList? read) (replies asked.length)).toBool = true := by
    rw [areListed_cons, and_iff_left areListed_nil, isListed, reads, toBool_readReply_map]
  refine ⟨(Api.readReply (Api.readList? read) (replies asked.length)).mapError Fault.api, ?_, ?_⟩
  · rw [Call.run_attempt, Api.listOne, Api.run_send (path?_listing kind)]
    simp [answer, heard, listing]
  · rw [toBool_mapError, listed]

theorem asks_served (σ : Type) [OperandSpec σ] (wrap : Operand σ → CustomResource)
    (reads : CustomResource.read? (.operand (OperandSpec.kind σ)) =
      fun v => (Operand.read? v).map wrap) :
    Asks (served σ) [.operand (OperandSpec.kind σ)] :=
  (asks_listOne _ wrap Operand.read? reads).bind fun _ => asks_pure ()

end

/-- A round asks for all kinds, up to the first one that is not listed. -/
theorem asks_probe : Asks probe kinds := by
  have manager : Asks (Call.attempt (Api.listOne .managers Manager.read?)) [.manager] :=
    asks_listOne .manager .manager Manager.read? rfl
  have server := asks_served ServerSpec .server rfl
  have agent := asks_served AgentSpec .agent rfl
  have discovery := asks_served DiscoverySpec .discovery rfl
  have driver := asks_served DriverSpec .driver rfl
  exact manager.bind fun _ => server.bind fun _ => agent.bind fun _ =>
    discovery.bind fun _ => driver

theorem run_round_opened (since : Nat) (asked : List Request) :
    run (answer replies) (round (opened since)) asked = (opened since, asked) := rfl

/-- What a round makes of a closed gate. -/
theorem run_round_closed (next : Nat) (asked : List Request) :
    run (answer replies) (round (closed next)) asked =
      (if AreListed replies asked.length kinds then opened next else closed (next + retryDelay),
        asked ++ (heard replies asked.length kinds).map listing) := by
  obtain ⟨result, ran, listed⟩ := asks_probe replies asked
  unfold round
  rw [run_bind_eq, ran]
  cases result with
  | ok a => rw [if_pos (listed.1 rfl)]; rfl
  | error fault => rw [if_neg fun all => nomatch listed.2 all]; rfl

/-- The last round of several comes after the others. -/
theorem rounds_succ (n : Nat) (g : Gate) : rounds (n + 1) g = rounds n g >>= round := by
  induction n generalizing g with
  | zero => rw [rounds, rounds, pure_bind]; exact bind_pure (round g)
  | succ n ih =>
    change (round g >>= rounds (n + 1)) = (round g >>= rounds n) >>= round
    rw [LawfulMonad.bind_assoc]
    exact bind_congr ih

theorem after_succ (replies : Nat → Reply) (n : Nat) :
    after replies (n + 1) =
      run (answer replies) (round (after replies n).1) (after replies n).2 := by
  unfold after
  rw [rounds_succ, run_bind_eq]

/-- As long as no round is full, the gate is closed, and the next round follows after the delay. -/
theorem after_of_not_full (missing : ∀ k < n, ¬ IsFull replies k) :
    after replies n = (closed (n * retryDelay), questionsBefore replies n) := by
  induction n with
  | zero => rfl
  | succ n ih =>
    have here : ¬ AreListed replies (questionsBefore replies n).length kinds := by
      rw [length_questionsBefore]
      exact missing n (Nat.lt_succ_self n)
    rw [after_succ, ih fun k less => missing k (Nat.lt_succ_of_lt less), run_round_closed,
      if_neg here, length_questionsBefore, ← questions, ← questionsBefore_succ, Nat.succ_mul]

/-- The first full round opens the gate, and nothing happens any more. -/
theorem after_of_full (full : IsFull replies k) (missing : ∀ j < k, ¬ IsFull replies j)
    (later : k < n) :
    after replies n = (opened (k * retryDelay), questionsBefore replies (k + 1)) := by
  induction later with
  | refl =>
    have here : AreListed replies (questionsBefore replies k).length kinds := by
      rw [length_questionsBefore]
      exact full
    rw [after_succ, after_of_not_full missing, run_round_closed, if_pos here,
      length_questionsBefore, ← questions, ← questionsBefore_succ]
  | step _ ih => rw [after_succ, ih, run_round_opened]

theorem isOpen_after_iff : (after replies n).1.isOpen = true ↔ ∃ k < n, IsFull replies k := by
  constructor
  · intro isOpen
    by_contra missing
    rw [after_of_not_full fun k less full => missing ⟨k, less, full⟩] at isOpen
    cases isOpen
  · intro exists_full
    obtain ⟨less, full⟩ := Nat.find_spec exists_full
    have missing : ∀ j < Nat.find exists_full, ¬ IsFull replies j := fun j before full =>
      Nat.find_min exists_full before ⟨Nat.lt_trans before less, full⟩
    rw [after_of_full full missing less]
    rfl

/-- A round takes place before a time if and only if it begins before it. -/
theorem lt_roundsBefore_iff {limit : Nat} : k < roundsBefore limit ↔ k * retryDelay < limit := by
  simp only [roundsBefore, retryDelay]
  omega

/-- **The gate is opened by the first full round, and by nothing else.** Before, it is closed, and
one round follows the other after the delay; a round ends at the first kind that is not listed. The
first full round opens the gate at its end; from then on, the gate stays open and asks nothing. -/
theorem opened_by_the_first_full_round (replies : Nat → Reply) :
    (∀ limit, (run (answer replies) (runUntil limit) []).1.isOpen = true ↔
      ∃ k, k * retryDelay < limit ∧ IsFull replies k) ∧
    (∀ n, (∀ k < n, ¬ IsFull replies k) →
      after replies n = (closed (n * retryDelay), questionsBefore replies n)) ∧
    (∀ k, IsFull replies k → (∀ j < k, ¬ IsFull replies j) → ∀ n, k < n →
      after replies n = (opened (k * retryDelay), questionsBefore replies (k + 1))) ∧
    (∀ k, ∃ m, ∃ h : m < kinds.length, questions replies k = (kinds.take (m + 1)).map listing ∧
      AreListed replies (start replies k) (kinds.take m) ∧
      (isListed kinds[m] (replies (start replies k + m)) = true → m + 1 = kinds.length)) := by
  refine ⟨fun limit => ?_, fun n => after_of_not_full,
    fun k full missing n => after_of_full full missing, fun k => ?_⟩
  · change (after replies (roundsBefore limit)).1.isOpen = true ↔ _
    simp only [isOpen_after_iff, lt_roundsBefore_iff]
  · obtain ⟨m, short, shape, before, last⟩ :=
      heard_eq_take replies (start replies k) (List.cons_ne_nil _ _)
    exact ⟨m, short, congrArg (List.map listing) shape, before, last⟩

/-- The first request is lost; the second round finds that all kinds are served. -/
example : after (fun n => if n = 0 then .dropped
      else .answer 200 (.value (.obj [("metadata", .obj []), ("items", .arr [])]))) 2 =
    (opened 5, listing .manager :: kinds.map listing) := by
  decide +kernel

end WorkloadIdentity.Gate

import Mathlib.Data.List.Basic
import Mathlib.Data.List.Induction
import WorkloadIdentity.Proofs.Notes

namespace WorkloadIdentity

namespace Condition

variable {type : String} {new c : Condition} {conditions news said : List Condition}

theorem succeed_eq (old new : Condition) : succeed old new = { new with
    lastTransitionTime :=
      if old.status = new.status then old.lastTransitionTime else new.lastTransitionTime } := by
  unfold succeed
  split <;> rfl

theorem differs_succeed (old new : Condition) : differs (succeed old new) new = false := by
  simp [succeed_eq, differs]

/-- A write is reported as a change unless it leaves everything as it is. -/
theorem changes_eq_false_iff :
    changes new conditions = false ↔ upsert new conditions = conditions := by
  refine ⟨upsert_of_not_changes, fun same => ?_⟩
  have found : find? new.type (upsert new conditions) =
      some (((find? new.type conditions).map (succeed · new)).getD new) :=
    find?_upsert.trans (if_pos rfl)
  rw [same] at found
  unfold changes
  cases had : find? new.type conditions with
  | none =>
    rw [had] at found
    cases found
  | some old =>
    rw [had] at found
    have same : old = succeed old new := Option.some.inj found
    dsimp only
    rw [same]
    exact differs_succeed old new

/-- The conditions of a type behind a write: only the first one is another. -/
theorem filter_upsert (type : String) (new : Condition) (conditions : List Condition) :
    (upsert new conditions).filter (·.type = type) =
      if new.type = type then
        ((find? type conditions).map (succeed · new)).getD new ::
          (conditions.filter (·.type = type)).tail
      else conditions.filter (·.type = type) := by
  induction conditions with
  | nil => by_cases e : new.type = type <;> simp [upsert, find?_nil, e]
  | cons c rest ih =>
    rw [upsert, find?_cons]
    by_cases here : c.type = new.type
    · by_cases e : new.type = type <;> simp [here, e, type_succeed]
    · by_cases e : new.type = type
      · have other : c.type ≠ type := fun e' => here (e'.trans e.symm)
        simp [e, other, ih]
      · simp [here, e, ih, List.filter_cons]

/-- Writes conditions, one after the other. -/
def writeAll (conditions news : List Condition) : List Condition :=
  news.foldl (fun conditions new => upsert new conditions) conditions

theorem writeAll_concat (conditions news : List Condition) (new : Condition) :
    writeAll conditions (news ++ [new]) = upsert new (writeAll conditions news) := by
  simp [writeAll]

/-- What is said of a type: by the first condition of it, and then by those that are written. -/
def history (type : String) (conditions news : List Condition) : List Condition :=
  (find? type conditions).toList ++ news.filter (·.type = type)

theorem history_concat (type : String) (conditions news : List Condition) (new : Condition) :
    history type conditions (news ++ [new]) =
      if new.type = type then history type conditions news ++ [new]
      else history type conditions news := by
  by_cases e : new.type = type <;> simp [history, List.filter_append, e]

/-- The types that are not among those of the conditions, in the order of their first use. -/
def newTypes (conditions news : List Condition) : List String :=
  ((news.map (·.type)).filter (· ∉ conditions.map (·.type))).eraseDups

theorem newTypes_concat (conditions news : List Condition) (new : Condition) :
    newTypes conditions (news ++ [new]) =
      if new.type ∈ conditions.map (·.type) ++ newTypes conditions news then
        newTypes conditions news
      else newTypes conditions news ++ [new.type] := by
  unfold newTypes
  rw [List.map_append, List.filter_append, List.eraseDups_append, List.map_singleton]
  generalize conditions.map (·.type) = before, news.map (·.type) = used, new.type = type
  by_cases known : type ∈ before
  · simp [known]
  · by_cases again : type ∈ used <;> simp [known, again, List.removeAll, List.eraseDups_cons]

/-- Types stay where they are, and those that are new come behind them. -/
theorem types_writeAll (conditions news : List Condition) :
    (writeAll conditions news).map (·.type) =
      conditions.map (·.type) ++ newTypes conditions news := by
  induction news using List.reverseRecOn with
  | nil => simp [writeAll, newTypes]
  | append_singleton news new ih =>
    rw [writeAll_concat, types_upsert, newTypes_concat, ih]
    split
    · rfl
    · rw [List.append_assoc]

theorem nodup_types_writeAll (once : (conditions.map (·.type)).Nodup) (news : List Condition) :
    ((writeAll conditions news).map (·.type)).Nodup := by
  induction news using List.reverseRecOn with
  | nil => exact once
  | append_singleton news new ih =>
    rw [writeAll_concat]
    exact nodup_types_upsert new ih

/-- Conditions of a type that is not written stay in place. -/
theorem inPlace_writeAll (other : type ∉ news.map (·.type)) :
    InPlace type conditions (writeAll conditions news) := by
  induction news using List.reverseRecOn with
  | nil => exact fun _ _ _ => Iff.rfl
  | append_singleton news new ih =>
    rw [List.map_append, List.mem_append, not_or] at other
    have otherHere : new.type ≠ type := fun e => other.2 (by simp [e])
    rw [writeAll_concat]
    exact (ih other.1).trans (inPlace_upsert otherHere)

/-- Of the conditions of a type all but the first one stay. -/
theorem tail_filter_writeAll (type : String) (conditions news : List Condition) :
    ((writeAll conditions news).filter (·.type = type)).tail =
      (conditions.filter (·.type = type)).tail := by
  induction news using List.reverseRecOn with
  | nil => rfl
  | append_singleton news new ih =>
    rw [writeAll_concat, filter_upsert]
    split <;> exact ih

/-- The condition is the earliest of those at the end of a history that have one status. -/
def StartsBlock (said : List Condition) (first : Condition) : Prop :=
  ∃ before after, said = before ++ first :: after ∧
    (∀ c ∈ after, c.status = first.status) ∧ ∀ c ∈ before.getLast?, c.status ≠ first.status

/-- What stands at the end of a history: what has been said last, since it has been said without a
break. -/
def Stands (said : List Condition) (c : Condition) : Prop :=
  ∃ first last, StartsBlock said first ∧ said.getLast? = some last ∧
    c = { last with lastTransitionTime := first.lastTransitionTime }

theorem stands_singleton (c : Condition) : Stands [c] c :=
  ⟨c, c, ⟨[], [], rfl, by simp, by simp⟩, rfl, rfl⟩

/-- The last condition has the status of the block. -/
theorem StartsBlock.status_last {first last : Condition} (starts : StartsBlock said first)
    (isLast : said.getLast? = some last) : last.status = first.status := by
  obtain ⟨before, after, rfl, same, -⟩ := starts
  have isLast : last ∈ (first :: after).getLast? := by simpa using isLast
  rcases List.mem_cons.1 (List.mem_of_getLast? isLast) with rfl | later
  · rfl
  · exact same last later

/-- What stands succeeds what stood before it. -/
theorem Stands.succeed (stands : Stands said c) (new : Condition) :
    Stands (said ++ [new]) (succeed c new) := by
  obtain ⟨first, last, starts, isLast, rfl⟩ := stands
  have status := starts.status_last isLast
  rw [succeed_eq]
  dsimp only
  by_cases same : last.status = new.status
  · obtain ⟨before, after, rfl, block, apart⟩ := starts
    refine ⟨first, new, ⟨before, after ++ [new], by simp, ?_, apart⟩, List.getLast?_concat, ?_⟩
    · exact List.forall_mem_append.2 ⟨block, by simp [← same, status]⟩
    · rw [if_pos same]
  · refine ⟨new, new, ⟨said, [], rfl, by simp, ?_⟩, List.getLast?_concat, ?_⟩
    · simpa [isLast] using same
    · rw [if_neg same]

/-- What is found at the end is what stands, if anything has been said. -/
theorem stands_writeAll (type : String) (conditions news : List Condition) :
    (history type conditions news = [] ∧ find? type (writeAll conditions news) = none) ∨
      ∃ c, find? type (writeAll conditions news) = some c ∧
        Stands (history type conditions news) c := by
  induction news using List.reverseRecOn with
  | nil =>
    unfold history writeAll
    cases had : find? type conditions with
    | none => exact .inl ⟨rfl, had⟩
    | some c => exact .inr ⟨c, had, stands_singleton c⟩
  | append_singleton news new ih =>
    rw [writeAll_concat, find?_upsert, history_concat]
    by_cases e : new.type = type
    · rw [if_pos e, if_pos e]
      rcases ih with ⟨unsaid, absent⟩ | ⟨c, found, stands⟩
      · rw [unsaid, absent]
        exact .inr ⟨new, rfl, stands_singleton new⟩
      · rw [found]
        exact .inr ⟨_, rfl, stands.succeed new⟩
    · rw [if_neg e, if_neg e]
      exact ih

/-- What has been said last is what has been written last. -/
theorem getLast?_history (conditions : List Condition) (written : type ∈ news.map (·.type)) :
    (history type conditions news).getLast? = (news.filter (·.type = type)).getLast? := by
  obtain ⟨c, mem, rfl⟩ := List.mem_map.1 written
  have nonempty : news.filter (·.type = c.type) ≠ [] :=
    List.ne_nil_of_mem (List.mem_filter.2 ⟨mem, by simp⟩)
  rw [history, List.getLast?_append_of_ne_nil _ nonempty]

end Condition

open Condition

/-- **Conditions tell histories.** Whatever conditions there are, and whichever are written, one
after the other: types stay in place and new ones come behind them in the order of their first use,
so that each of them stands once if it did; conditions of types that are not written stay as they
are; the first condition of a type that is written is the last one written, since the earliest of
those that have had its status without a break, and the others of its type stay; and a write is
reported as no change exactly if it leaves everything as it is. -/
theorem conditions_tell_histories (conditions news : List Condition) :
    (writeAll conditions news).map (·.type) =
      conditions.map (·.type) ++ newTypes conditions news ∧
    ((conditions.map (·.type)).Nodup → ((writeAll conditions news).map (·.type)).Nodup) ∧
    (∀ type, type ∉ news.map (·.type) → InPlace type conditions (writeAll conditions news)) ∧
    (∀ type, type ∈ news.map (·.type) → ∃ first last,
      StartsBlock (history type conditions news) first ∧
      (news.filter (·.type = type)).getLast? = some last ∧
      let standing := { last with lastTransitionTime := first.lastTransitionTime }
      (writeAll conditions news).filter (·.type = type) =
        standing :: (conditions.filter (·.type = type)).tail ∧
      find? type (writeAll conditions news) = some standing) ∧
    ∀ earlier new later, news = earlier ++ new :: later →
      (changes new (writeAll conditions earlier) = false ↔
        writeAll conditions (earlier ++ [new]) = writeAll conditions earlier) := by
  refine ⟨types_writeAll conditions news, fun once => nodup_types_writeAll once news,
    fun type other => inPlace_writeAll other, fun type written => ?_, ?_⟩
  · have isLast := getLast?_history conditions written
    rcases stands_writeAll type conditions news with ⟨unsaid, -⟩ | ⟨c, found, first, last, starts,
      said, rfl⟩
    · obtain ⟨c, mem, rfl⟩ := List.mem_map.1 written
      have here : c ∈ history c.type conditions news :=
        List.mem_append_right _ (List.mem_filter.2 ⟨mem, by simp⟩)
      rw [unsaid] at here
      cases here
    · refine ⟨first, last, starts, isLast ▸ said, ?_, found⟩
      rw [find?, ← List.head?_filter] at found
      rw [List.eq_cons_of_mem_head? found, tail_filter_writeAll]
  · rintro earlier new later -
    rw [writeAll_concat]
    exact changes_eq_false_iff

/-- A condition of the type `Ready` that is said at a time. -/
example :
    let said (status : ConditionStatus) (reason now : String) : Condition :=
      .new now ready status reason "" none
    writeAll [said .isFalse "a" "1"]
        [said .isTrue "b" "2", said .isFalse "c" "3", said .isFalse "d" "4"] =
      [said .isFalse "d" "3"] := by
  decide

end WorkloadIdentity

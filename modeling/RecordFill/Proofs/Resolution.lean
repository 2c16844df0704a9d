import RecordFill.Proofs.Store.Query
import RecordFill.Selector
import Mathlib.Data.Finset.Card

namespace RecordFill

section Outcome

variable {ids : List RecordId}

theorem outcomeOf_eq_ok_iff {id : RecordId} : outcomeOf ids = .ok id ↔ ids = [id] := by
  unfold outcomeOf
  split <;> simp_all

theorem outcomeOf_eq_noRecord_iff : outcomeOf ids = .error .noRecord ↔ ids = [] := by
  unfold outcomeOf
  split <;> simp_all

theorem outcomeOf_eq_severalRecords_iff {count : Nat} :
    outcomeOf ids = .error (.severalRecords count) ↔ 2 ≤ count ∧ ids.length = count := by
  match ids with
  | [] =>
    simp only [outcomeOf, List.length_nil, Except.error.injEq, reduceCtorEq, false_iff]
    omega
  | [_] =>
    simp only [outcomeOf, List.length_singleton, reduceCtorEq, false_iff]
    omega
  | _ :: _ :: _ =>
    simp only [outcomeOf, List.length_cons, Except.error.injEq, Unresolved.severalRecords.injEq]
    omega

/-- Answers leave a record exactly when it is the only one among them. -/
theorem outcomeOf_ascending_eq_ok_iff {id : RecordId} :
    outcomeOf (RecordId.ascending ids) = .ok id ↔ ∀ other, other ∈ ids ↔ other = id := by
  rw [outcomeOf_eq_ok_iff]
  constructor
  · intro alone other
    rw [← RecordId.mem_ascending, alone, List.mem_singleton]
  · intro members
    apply RecordId.eq_of_ascending (RecordId.pairwise_ascending ids) (List.pairwise_singleton _ _)
    intro other
    rw [RecordId.mem_ascending, members other, List.mem_singleton]

/-- Answers in ascending order are as many as the distinct ones among them. -/
theorem RecordId.length_ascending (ids : List RecordId) : (ascending ids).length = ids.toFinset.card := by
  have same : (ascending ids).toFinset = ids.toFinset := by
    ext id
    simp only [List.mem_toFinset, mem_ascending]
  rw [← same, List.toFinset_card_of_nodup (nodup_of_pairwise (pairwise_ascending ids))]

theorem outcomeOf_ascending_eq_noRecord_iff :
    outcomeOf (RecordId.ascending ids) = .error .noRecord ↔ ids.toFinset = ∅ := by
  rw [outcomeOf_eq_noRecord_iff, ← List.length_eq_zero_iff, RecordId.length_ascending, Finset.card_eq_zero]

theorem outcomeOf_ascending_eq_severalRecords_iff {count : Nat} :
    outcomeOf (RecordId.ascending ids) = .error (.severalRecords count) ↔ 2 ≤ count ∧ ids.toFinset.card = count := by
  rw [outcomeOf_eq_severalRecords_iff, RecordId.length_ascending]

/-- The number of records that an outcome stands for. -/
def recordCount : Except Unresolved RecordId → Nat
  | .ok _ => 1
  | .error .noRecord => 0
  | .error (.severalRecords count) => count

theorem recordCount_outcomeOf (ids : List RecordId) : recordCount (outcomeOf ids) = ids.length := by
  match ids with
  | [] => rfl
  | [_] => rfl
  | _ :: _ :: _ => rfl

/-- An outcome stands for the distinct ids that were answered. -/
theorem recordCount_outcomeOf_ascending (ids : List RecordId) :
    recordCount (outcomeOf (RecordId.ascending ids)) = ids.toFinset.card := by
  rw [recordCount_outcomeOf, RecordId.length_ascending]

end Outcome

namespace Source

variable {ε : Type} {source : Source ε} {conditions : List Condition} {filter : Filter} {ids : List RecordId}

/-- The source is asked for the records of conditions and does not fail. -/
def AnswersQuery (source : Source ε) (conditions : List Condition) (ids : List RecordId) : Prop :=
  ∃ filter, Filter.chain conditions = some filter ∧ source.query filter = .ok ids

theorem resolve_byQuery_of_chain (source : Source ε) (chained : Filter.chain conditions = some filter) :
    source.resolve (.byQuery conditions) =
      (source.query filter).map fun ids => outcomeOf (RecordId.ascending ids) := by
  simp only [resolve, chained]

/-- What was answered leaves the outcome of its distinct ids. -/
theorem AnswersQuery.resolve_eq (answered : source.AnswersQuery conditions ids) :
    source.resolve (.byQuery conditions) = .ok (outcomeOf (RecordId.ascending ids)) := by
  obtain ⟨filter, chained, selected⟩ := answered
  rw [source.resolve_byQuery_of_chain chained, selected]
  rfl

/-- An outcome is that of a query exactly if it is the one of the distinct ids. -/
theorem AnswersQuery.resolve_eq_ok_iff (answered : source.AnswersQuery conditions ids)
    {outcome : Except Unresolved RecordId} :
    source.resolve (.byQuery conditions) = .ok outcome ↔ outcomeOf (RecordId.ascending ids) = outcome := by
  rw [answered.resolve_eq]
  exact ⟨Except.ok.inj, congrArg Except.ok⟩

end Source

namespace Dataset

variable [RegexCompiler] {dataset : Dataset} {conditions : List Condition}

theorem source_query (dataset : Dataset) : dataset.source.query = dataset.query := rfl

/-- Where all conditions compile the dataset answers with the records that meet all of them. -/
theorem exists_answersQuery (dataset : Dataset) (asked : conditions ≠ [])
    (compile : ∀ condition ∈ conditions, ∃ test, condition.test = .ok test) :
    ∃ ids, dataset.source.AnswersQuery conditions ids ∧
      ∀ id, id ∈ ids ↔ ∀ condition ∈ conditions, dataset.Meets condition id := by
  obtain ⟨filter, ids, chained, selected, members⟩ := dataset.exists_query_eq_ok asked compile
  exact ⟨ids, ⟨filter, chained, selected⟩, members⟩

/-- Conditions that compile leave some outcome. -/
theorem exists_resolve_byQuery (dataset : Dataset)
    (compile : ∀ condition ∈ conditions, ∃ test, condition.test = .ok test) :
    ∃ outcome, dataset.source.resolve (.byQuery conditions) = .ok outcome := by
  by_cases asked : conditions = []
  · rw [asked]
    exact ⟨.error .noRecord, rfl⟩
  · obtain ⟨ids, answered, -⟩ := dataset.exists_answersQuery asked compile
    exact ⟨_, answered.resolve_eq⟩

/-- Conditions leave the same in any order and however often each of them is repeated. -/
theorem resolve_byQuery_congr (dataset : Dataset) {others : List Condition}
    (same : ∀ condition, condition ∈ conditions ↔ condition ∈ others) :
    dataset.source.resolve (.byQuery conditions) = dataset.source.resolve (.byQuery others) := by
  by_cases asked : conditions = []
  · subst asked
    have empty : others = [] := List.eq_nil_iff_forall_not_mem.mpr fun condition => by simp [← same]
    rw [empty]
  · have askedOthers : others ≠ [] := List.ne_nil_of_mem ((same _).mp (List.head_mem asked))
    obtain ⟨filter, chained⟩ := Filter.exists_chain_eq_some asked
    obtain ⟨other, chainedOthers⟩ := Filter.exists_chain_eq_some askedOthers
    have sameConditions (condition : Condition) : condition ∈ filter.conditions ↔ condition ∈ other.conditions := by
      rw [Filter.conditions_of_chain chained, Filter.conditions_of_chain chainedOthers, same]
    have selected : dataset.query filter = dataset.query other :=
      Answers.unique sameConditions (dataset.answers_query filter) (dataset.answers_query other)
    rw [Source.resolve_byQuery_of_chain _ chained, Source.resolve_byQuery_of_chain _ chainedOthers, source_query,
      selected]

/-- More conditions leave at most as many records, and none where there was none. -/
theorem recordCount_le_of_subset (dataset : Dataset) {others : List Condition} (asked : conditions ≠ [])
    (compile : ∀ condition ∈ others, ∃ test, condition.test = .ok test) (narrows : conditions ⊆ others) :
    ∃ outcome narrower, dataset.source.resolve (.byQuery conditions) = .ok outcome ∧
      dataset.source.resolve (.byQuery others) = .ok narrower ∧ recordCount narrower ≤ recordCount outcome ∧
      (outcome = .error .noRecord → narrower = .error .noRecord) := by
  obtain ⟨ids, answered, members⟩ :=
    dataset.exists_answersQuery asked fun condition member => compile condition (narrows member)
  obtain ⟨fewer, answeredOthers, membersOthers⟩ :=
    dataset.exists_answersQuery (List.ne_nil_of_mem (narrows (List.head_mem asked))) compile
  have within : fewer.toFinset ⊆ ids.toFinset := by
    intro id member
    rw [List.mem_toFinset, membersOthers] at member
    rw [List.mem_toFinset, members]
    exact fun condition asks => member condition (narrows asks)
  refine ⟨_, _, answered.resolve_eq, answeredOthers.resolve_eq, ?_, ?_⟩
  · rw [recordCount_outcomeOf_ascending, recordCount_outcomeOf_ascending]
    exact Finset.card_le_card within
  · intro none
    rw [outcomeOf_ascending_eq_noRecord_iff] at none ⊢
    exact Finset.subset_empty.mp (none ▸ within)

end Dataset

/-- The distinct ids that a source answers to a query decide what the query leaves: a record if they are this one alone,
no record if there are none, and their number otherwise. For a dataset, conditions that compile leave the same in any
order and with any repetitions, and one more condition neither raises the number of records nor leaves a record where
there was none. Only the first of all conditions can: without conditions the source is not asked. -/
theorem resolve_byQuery_decided [RegexCompiler] {ε : Type} (source : Source ε) (dataset : Dataset)
    (conditions : List Condition) :
    (∀ ids, source.AnswersQuery conditions ids →
      (∀ id, source.resolve (.byQuery conditions) = .ok (.ok id) ↔ ids.toFinset = {id}) ∧
      (source.resolve (.byQuery conditions) = .ok (.error .noRecord) ↔ ids.toFinset = ∅) ∧
      ∀ count, source.resolve (.byQuery conditions) = .ok (.error (.severalRecords count)) ↔
        2 ≤ count ∧ ids.toFinset.card = count) ∧
    ((∀ condition ∈ conditions, ∃ test, condition.test = .ok test) →
      ∃ outcome, dataset.source.resolve (.byQuery conditions) = .ok outcome ∧
        (∀ others : List Condition, (∀ condition, condition ∈ conditions ↔ condition ∈ others) →
          dataset.source.resolve (.byQuery others) = .ok outcome) ∧
        (conditions ≠ [] → ∀ further : Condition, (∃ test, further.test = .ok test) →
          ∃ narrower, dataset.source.resolve (.byQuery (conditions ++ [further])) = .ok narrower ∧
            recordCount narrower ≤ recordCount outcome ∧
            (outcome = .error .noRecord → narrower = .error .noRecord))) := by
  constructor
  · intro ids answered
    refine ⟨?_, ?_, ?_⟩
    · intro id
      rw [answered.resolve_eq_ok_iff, outcomeOf_ascending_eq_ok_iff]
      simp [Finset.ext_iff]
    · rw [answered.resolve_eq_ok_iff, outcomeOf_ascending_eq_noRecord_iff]
    · intro count
      rw [answered.resolve_eq_ok_iff, outcomeOf_ascending_eq_severalRecords_iff]
  · intro compile
    obtain ⟨outcome, resolves⟩ := dataset.exists_resolve_byQuery compile
    refine ⟨outcome, resolves, ?_, ?_⟩
    · intro others same
      rw [← dataset.resolve_byQuery_congr same, resolves]
    · intro asked further compiles
      have compileAll : ∀ condition ∈ conditions ++ [further], ∃ test, condition.test = .ok test := by
        intro condition member
        rcases List.mem_append.mp member with member | member
        · exact compile condition member
        · exact List.mem_singleton.mp member ▸ compiles
      obtain ⟨outcome', narrower, resolves', narrowed, fewer, none⟩ :=
        dataset.recordCount_le_of_subset asked compileAll (List.subset_append_left conditions [further])
      obtain rfl : outcome = outcome' := Except.ok.inj (resolves.symm.trans resolves')
      exact ⟨narrower, narrowed, fewer, none⟩

/-- Two records of a name are told apart by one more condition, and a source that repeats itself leaves the one record
that it answers. -/
theorem resolve_byQuery_decided_narrowed :
    let dataset : Dataset := ⟨[⟨1, "last", ""⟩, ⟨2, "first", ""⟩],
      [⟨⟨2⟩, 1, "Ray"⟩, ⟨⟨1⟩, 1, "Ray"⟩, ⟨⟨2⟩, 2, "Ann"⟩, ⟨⟨2⟩, 2, "Ann"⟩]⟩
    let last : Condition := ⟨"last", .equal, "Ray"⟩
    let first : Condition := ⟨"first", .equal, "Ann"⟩
    let repeating : Source QueryError := ⟨id, fun _ => .ok [⟨5⟩, ⟨5⟩], fun _ => .ok []⟩
    repeating.AnswersQuery [last] [⟨5⟩, ⟨5⟩] ∧ repeating.resolve (.byQuery [last]) = .ok (.ok ⟨5⟩) ∧
      dataset.source.resolve (.byQuery [last]) = .ok (.error (.severalRecords 2)) ∧
      dataset.source.resolve (.byQuery [last, last]) = .ok (.error (.severalRecords 2)) ∧
      ∃ narrower, dataset.source.resolve (.byQuery [last, first]) = .ok narrower ∧ recordCount narrower ≤ 2 := by
  intro dataset last first repeating
  have answered : repeating.AnswersQuery [last] [⟨5⟩, ⟨5⟩] := ⟨.single last, rfl, rfl⟩
  obtain ⟨decided, compiling⟩ := resolve_byQuery_decided repeating dataset [last]
  have several : dataset.source.resolve (.byQuery [last]) = .ok (.error (.severalRecords 2)) := by
    have both : RecordId.ascending (dataset.matching "last" (.equals "Ray") fun _ => true) = [⟨1⟩, ⟨2⟩] := by
      simp [dataset, Dataset.matching, Dataset.fieldIds, Test.accepts, RecordId.ascending, List.mergeSort,
        List.MergeSort.Internal.splitInTwo, RecordId.insert]
    exact congrArg (fun ids => Except.ok (outcomeOf ids)) both
  obtain ⟨outcome, resolves, reordered, narrowing⟩ := compiling (by simp [last, Condition.test, Comparison.test])
  obtain rfl : .error (.severalRecords 2) = outcome := Except.ok.inj (several.symm.trans resolves)
  obtain ⟨narrower, narrowed, fewer, -⟩ := narrowing (List.cons_ne_nil _ _) first ⟨.equals "Ann", rfl⟩
  exact ⟨answered, ((decided _ answered).1 ⟨5⟩).mpr (by decide), several, reordered [last, last] (by simp), narrower,
    narrowed, fewer⟩

end RecordFill

import RecordFill.Proofs.Attempts
import RecordFill.Store.Dataset
import Std.Data.HashSet.Lemmas

namespace RecordFill

theorem RecordId.nodup_of_pairwise {ids : List RecordId} (ordered : ids.Pairwise (·.number < ·.number)) :
    ids.Nodup := by
  apply ordered.imp
  intro one other less equal
  exact Int64.lt_irrefl (equal ▸ less)

/-- Lists of ids in strictly ascending order are told apart by their members. -/
theorem RecordId.eq_of_ascending {ids others : List RecordId} (ordered : ids.Pairwise (·.number < ·.number))
    (othersOrdered : others.Pairwise (·.number < ·.number)) (same : ∀ id, id ∈ ids ↔ id ∈ others) : ids = others := by
  have permuted : ids.Perm others :=
    (List.perm_ext_iff_of_nodup (nodup_of_pairwise ordered) (nodup_of_pairwise othersOrdered)).mpr same
  refine List.Perm.eq_of_pairwise ?_ ordered othersOrdered permuted
  intro one other _ _ less greater
  exact absurd (Int64.lt_trans less greater) Int64.lt_irrefl

theorem Dataset.mem_fieldIds {dataset : Dataset} {name : String} {id : UInt64} :
    id ∈ dataset.fieldIds name ↔ ∃ field ∈ dataset.fields, field.name = name ∧ field.id = id := by
  simp [fieldIds, and_assoc]

variable [RegexCompiler]

theorem Condition.test_eq_error_iff (condition : Condition) (refusal : PatternError) :
    condition.test = .error refusal ↔
      condition.comparison = .like ∧ Like.Pattern.ofString condition.value = .error refusal := by
  unfold Condition.test
  cases condition.comparison with
  | equal => simp [Comparison.test]
  | like =>
    show (Like.Pattern.ofString condition.value).map Test.matching = _ ↔ _
    rw [map_eq_error_iff]
    simp

namespace Dataset

/-- A record meets a condition with a stored value, in any field of the name, that passes the test. -/
def Meets (dataset : Dataset) (condition : Condition) (id : RecordId) : Prop :=
  ∃ field ∈ dataset.fields, field.name = condition.field ∧
    ∃ entry ∈ dataset.entries, entry.record = id ∧ entry.field = field.id ∧
      ∃ test, condition.test = .ok test ∧ test.accepts entry.value = true

/-- A record is among the matching ones if it is admitted and one of its values passes. -/
theorem mem_matching {dataset : Dataset} {condition : Condition} {test : Test} (compiled : condition.test = .ok test)
    {admits : RecordId → Bool} {id : RecordId} :
    id ∈ dataset.matching condition.field test admits ↔ admits id = true ∧ dataset.Meets condition id := by
  rw [matching, RecordId.mem_ascending, List.mem_map]
  constructor
  · rintro ⟨entry, passes, rfl⟩
    simp only [List.mem_filter, Bool.and_eq_true, List.contains_iff_mem, mem_fieldIds] at passes
    obtain ⟨stored, ⟨⟨field, defined, named, same⟩, admitted⟩, accepted⟩ := passes
    exact ⟨admitted, field, defined, named, entry, stored, rfl, same.symm, test, compiled, accepted⟩
  · rintro ⟨admitted, field, defined, named, entry, stored, rfl, same, test', compiled', accepted⟩
    obtain rfl : test = test' := Except.ok.inj (compiled.symm.trans compiled')
    refine ⟨entry, ?_, rfl⟩
    simp only [List.mem_filter, Bool.and_eq_true, List.contains_iff_mem, mem_fieldIds]
    exact ⟨stored, ⟨⟨field, defined, named, same.symm⟩, admitted⟩, accepted⟩

/-- A condition by itself is asked of all records. -/
theorem query_single (dataset : Dataset) {condition : Condition} {test : Test} (compiled : condition.test = .ok test) :
    dataset.query (.single condition) = .ok (dataset.matching condition.field test fun _ => true) := by
  rw [query, compiled]
  rfl

/-- A narrowing condition is asked of the records that the inner filter selects. -/
theorem query_narrow (dataset : Dataset) {condition : Condition} {within : Filter} {test : Test}
    {selected : List RecordId} (inner : dataset.query within = .ok selected) (compiled : condition.test = .ok test) :
    dataset.query (.narrow condition within) =
      .ok (dataset.matching condition.field test (Std.HashSet.ofList selected).contains) := by
  rw [query, inner, compiled]
  rfl

/-- Conditions are answered by a failure if one of them is refused, and else by the records that meet them all. -/
def Answers (dataset : Dataset) (conditions : List Condition) : Except QueryError (List RecordId) → Prop
  | .error _ => ∃ condition ∈ conditions, ∃ refusal, condition.test = .error refusal
  | .ok ids => (∀ condition ∈ conditions, ∃ test, condition.test = .ok test) ∧
      ids.Pairwise (·.number < ·.number) ∧
      ∀ id, id ∈ ids ↔ ∀ condition ∈ conditions, dataset.Meets condition id

theorem answers_single (dataset : Dataset) (condition : Condition) :
    dataset.Answers [condition] (dataset.query (.single condition)) := by
  cases compiled : condition.test with
  | error refusal =>
    have fails : dataset.query (.single condition) = .error (.invalidPattern refusal) := by
      rw [query, compiled]
      rfl
    rw [fails]
    exact ⟨condition, List.mem_singleton_self condition, refusal, compiled⟩
  | ok test =>
    rw [dataset.query_single compiled]
    refine ⟨?_, RecordId.pairwise_ascending _, ?_⟩
    · intro other member
      exact ⟨test, List.mem_singleton.mp member ▸ compiled⟩
    · intro id
      simp [mem_matching compiled]

/-- One more condition is answered together with those that it narrows. -/
theorem answers_narrow {dataset : Dataset} {conditions : List Condition} {within : Filter} (condition : Condition)
    (answered : dataset.Answers conditions (dataset.query within)) :
    dataset.Answers (conditions ++ [condition]) (dataset.query (.narrow condition within)) := by
  cases inner : dataset.query within with
  | error failure =>
    have fails : dataset.query (.narrow condition within) = .error failure := by
      rw [query, inner]
      rfl
    rw [inner] at answered
    rw [fails]
    obtain ⟨refused, member, refusal, error⟩ := answered
    exact ⟨refused, List.mem_append_left _ member, refusal, error⟩
  | ok selected =>
    rw [inner] at answered
    obtain ⟨compile, -, members⟩ := answered
    cases compiled : condition.test with
    | error refusal =>
      have fails : dataset.query (.narrow condition within) = .error (.invalidPattern refusal) := by
        rw [query, inner, compiled]
        rfl
      rw [fails]
      exact ⟨condition, List.mem_append_right _ (List.mem_singleton_self condition), refusal, compiled⟩
    | ok test =>
      rw [dataset.query_narrow inner compiled]
      refine ⟨?_, RecordId.pairwise_ascending _, ?_⟩
      · intro other member
        rcases List.mem_append.mp member with member | member
        · exact compile other member
        · exact ⟨test, List.mem_singleton.mp member ▸ compiled⟩
      · intro id
        rw [mem_matching compiled, Std.HashSet.contains_ofList, List.contains_iff_mem, members id]
        simp [or_imp, forall_and]

theorem answers_query (dataset : Dataset) (filter : Filter) :
    dataset.Answers filter.conditions (dataset.query filter) := by
  induction filter with
  | single condition => exact dataset.answers_single condition
  | narrow condition within step =>
    rw [Filter.conditions_narrow]
    exact answers_narrow condition step

/-- Where all conditions compile none is refused. -/
theorem not_refused {conditions : List Condition}
    (compile : ∀ condition ∈ conditions, ∃ test, condition.test = .ok test) :
    ¬ ∃ condition ∈ conditions, ∃ refusal, condition.test = .error refusal := by
  rintro ⟨condition, member, refusal, error⟩
  obtain ⟨test, compiled⟩ := compile condition member
  rw [error] at compiled
  contradiction

/-- Where all conditions compile their filter selects the records that meet all of them. -/
theorem exists_query_eq_ok (dataset : Dataset) {conditions : List Condition} (asked : conditions ≠ [])
    (compile : ∀ condition ∈ conditions, ∃ test, condition.test = .ok test) :
    ∃ filter ids, Filter.chain conditions = some filter ∧ dataset.query filter = .ok ids ∧
      ∀ id, id ∈ ids ↔ ∀ condition ∈ conditions, dataset.Meets condition id := by
  obtain ⟨filter, chained⟩ := Filter.exists_chain_eq_some asked
  have answers := dataset.answers_query filter
  rw [Filter.conditions_of_chain chained] at answers
  cases answered : dataset.query filter with
  | error failure =>
    rw [answered] at answers
    exact (not_refused compile answers).elim
  | ok ids =>
    rw [answered] at answers
    exact ⟨filter, ids, chained, answered, answers.2.2⟩

/-- A query fails exactly when one of its conditions is refused. -/
theorem query_error_iff {dataset : Dataset} {filter : Filter} :
    (∃ failure, dataset.query filter = .error failure) ↔
      ∃ condition ∈ filter.conditions, ∃ refusal, condition.test = .error refusal := by
  have answers := dataset.answers_query filter
  cases answered : dataset.query filter with
  | error failure =>
    rw [answered] at answers
    exact ⟨fun _ => answers, fun _ => ⟨failure, rfl⟩⟩
  | ok ids =>
    rw [answered] at answers
    constructor
    · rintro ⟨failure, fails⟩
      contradiction
    · intro refused
      exact (not_refused answers.1 refused).elim

/-- A condition by itself selects a record exactly if the record meets it. -/
theorem selects_single_iff {dataset : Dataset} {condition : Condition} {id : RecordId} :
    (∃ alone, dataset.query (.single condition) = .ok alone ∧ id ∈ alone) ↔ dataset.Meets condition id := by
  constructor
  · rintro ⟨alone, selected, member⟩
    have answers := dataset.answers_single condition
    rw [selected] at answers
    exact (answers.2.2 id).mp member condition (List.mem_singleton_self condition)
  · intro meets
    have compiles : ∃ test, condition.test = .ok test := by
      obtain ⟨_, _, _, _, _, _, _, test, compiled, _⟩ := meets
      exact ⟨test, compiled⟩
    obtain ⟨test, compiled⟩ := compiles
    exact ⟨_, dataset.query_single compiled, (mem_matching compiled).mpr ⟨rfl, meets⟩⟩

/-- There is only one answer to conditions, whatever their order and however often each is asked. -/
theorem Answers.unique {dataset : Dataset} {conditions others : List Condition}
    {answer answer' : Except QueryError (List RecordId)}
    (same : ∀ condition, condition ∈ conditions ↔ condition ∈ others) (answers : dataset.Answers conditions answer)
    (answers' : dataset.Answers others answer') : answer = answer' := by
  match answer, answer' with
  | .error (.invalidPattern .tooLarge), .error (.invalidPattern .tooLarge) => rfl
  | .error _, .ok _ =>
    obtain ⟨condition, member, error⟩ := answers
    exact (not_refused answers'.1 ⟨condition, (same condition).mp member, error⟩).elim
  | .ok _, .error _ =>
    obtain ⟨condition, member, error⟩ := answers'
    exact (not_refused answers.1 ⟨condition, (same condition).mpr member, error⟩).elim
  | .ok ids, .ok ids' =>
    obtain ⟨-, ordered, members⟩ := answers
    obtain ⟨-, ordered', members'⟩ := answers'
    have sameMembers (id : RecordId) : id ∈ ids ↔ id ∈ ids' := by
      rw [members id, members' id]
      exact forall_congr' fun condition => by rw [same condition]
    rw [RecordId.eq_of_ascending ordered ordered' sameMembers]

/-- A query fails exactly if one of its match patterns is refused, and otherwise selects in ascending order the
records that meet every condition, which are those that each condition by itself selects. The order of the conditions
and their repetition do not matter. -/
theorem query_meets (dataset : Dataset) (filter : Filter) :
    ((∃ failure, dataset.query filter = .error failure) ↔ ∃ condition ∈ filter.conditions,
      condition.comparison = .like ∧ ∃ refusal, Like.Pattern.ofString condition.value = .error refusal) ∧
    (∀ ids, dataset.query filter = .ok ids →
      ids.Pairwise (·.number < ·.number) ∧
      (∀ id, id ∈ ids ↔ ∀ condition ∈ filter.conditions, dataset.Meets condition id) ∧
      ∀ id, id ∈ ids ↔ ∀ condition ∈ filter.conditions,
        ∃ alone, dataset.query (.single condition) = .ok alone ∧ id ∈ alone) ∧
    ∀ other : Filter, (∀ condition, condition ∈ filter.conditions ↔ condition ∈ other.conditions) →
      dataset.query filter = dataset.query other := by
  refine ⟨?_, ?_, ?_⟩
  · simp only [query_error_iff, Condition.test_eq_error_iff, exists_and_left]
  · intro ids selected
    have answers := dataset.answers_query filter
    rw [selected] at answers
    obtain ⟨-, ordered, members⟩ := answers
    refine ⟨ordered, members, ?_⟩
    intro id
    simp only [selects_single_iff]
    exact members id
  · intro other same
    exact Answers.unique same (dataset.answers_query filter) (dataset.answers_query other)

end Dataset

end RecordFill

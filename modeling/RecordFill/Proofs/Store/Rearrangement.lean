import RecordFill.Proofs.Store.Query
import RecordFill.Proofs.Store.Rows
import RecordFill.Renderer
import Mathlib.Data.List.Nodup

namespace RecordFill.Dataset

/-- Two datasets define the same fields, each id once, and every record has the same values in every defined field,
in the same order. -/
structure Rearranged (one other : Dataset) : Prop where
  fields : one.fields.Perm other.fields
  distinct : (one.fields.map (·.id)).Nodup
  values : ∀ record, ∀ field ∈ one.fields, one.valuesOf record field.id = other.valuesOf record field.id

theorem field?_eq_some_iff {dataset : Dataset} (distinct : (dataset.fields.map (·.id)).Nodup) {id : UInt64}
    {field : Field} : dataset.field? id = some field ↔ field ∈ dataset.fields ∧ field.id = id := by
  constructor
  · intro found
    exact ⟨List.mem_of_find?_eq_some found, id_of_field? found⟩
  · rintro ⟨member, rfl⟩
    obtain ⟨first, found⟩ := exists_field?_eq member
    obtain rfl : first = field :=
      List.inj_on_of_nodup_map distinct (List.mem_of_find?_eq_some found) member (id_of_field? found)
    exact found

/-- A record meets a condition with one of the values that it has in a field of the name. -/
theorem meets_iff_valuesOf [RegexCompiler] {dataset : Dataset} {condition : Condition} {id : RecordId} :
    dataset.Meets condition id ↔ ∃ field ∈ dataset.fields, field.name = condition.field ∧
      ∃ value ∈ dataset.valuesOf id field.id,
        ∃ test, condition.test = .ok test ∧ test.accepts value = true := by
  simp only [Meets, mem_valuesOf]
  constructor
  · rintro ⟨field, defined, named, entry, stored, own, same, passes⟩
    exact ⟨field, defined, named, entry.value, ⟨entry, stored, own, same, rfl⟩, passes⟩
  · rintro ⟨field, defined, named, _, ⟨entry, stored, own, same, rfl⟩, passes⟩
    exact ⟨field, defined, named, entry, stored, own, same, passes⟩

/-- Conditions that the same records meet have the same answers. -/
theorem Answers.congr [RegexCompiler] {one other : Dataset}
    (same : ∀ condition id, one.Meets condition id ↔ other.Meets condition id) {conditions : List Condition}
    {answer : Except QueryError (List RecordId)} (answers : one.Answers conditions answer) :
    other.Answers conditions answer := by
  match answer with
  | .error _ => exact answers
  | .ok ids =>
    obtain ⟨compile, ordered, members⟩ := answers
    refine ⟨compile, ordered, fun id => (members id).trans ?_⟩
    exact forall_congr' fun condition => by rw [same condition id]

namespace Rearranged

variable {one other : Dataset}

theorem field?_eq (rearranged : one.Rearranged other) (id : UInt64) : one.field? id = other.field? id := by
  have distinct : (other.fields.map (·.id)).Nodup := (rearranged.fields.map (·.id)).nodup_iff.mp rearranged.distinct
  apply Option.ext
  intro field
  rw [field?_eq_some_iff rearranged.distinct, field?_eq_some_iff distinct, rearranged.fields.mem_iff]

theorem meets_iff [RegexCompiler] (rearranged : one.Rearranged other) (condition : Condition) (id : RecordId) :
    one.Meets condition id ↔ other.Meets condition id := by
  rw [meets_iff_valuesOf, meets_iff_valuesOf]
  constructor
  · rintro ⟨field, member, named, value, stored, passes⟩
    rw [rearranged.values id field member] at stored
    exact ⟨field, rearranged.fields.mem_iff.mp member, named, value, stored, passes⟩
  · rintro ⟨field, member, named, value, stored, passes⟩
    have member := rearranged.fields.mem_iff.mpr member
    rw [← rearranged.values id field member] at stored
    exact ⟨field, member, named, value, stored, passes⟩

theorem query_eq [RegexCompiler] (rearranged : one.Rearranged other) (filter : Filter) :
    one.query filter = other.query filter :=
  Answers.unique (fun _ => Iff.rfl) ((one.answers_query filter).congr rearranged.meets_iff) (other.answers_query filter)

theorem rows_eq (rearranged : one.Rearranged other) (id : RecordId) : one.rows id = other.rows id :=
  rows_congr rearranged.field?_eq fun key field found => by
    rw [← id_of_field? found]
    exact rearranged.values id field (List.mem_of_find?_eq_some found)

/-- As sources of records the datasets are the same. -/
theorem source_eq [RegexCompiler] (rearranged : one.Rearranged other) : one.source = other.source := by
  have query : one.query = other.query := funext rearranged.query_eq
  have rows : one.rows = other.rows := funext rearranged.rows_eq
  rw [source, source, query, rows]

end Rearranged

/-- Rearranged datasets select the same records, show them alike, and render every text alike. -/
theorem agree_of_rearranged [RegexCompiler] {one other : Dataset} (rearranged : one.Rearranged other) :
    (∀ filter, one.query filter = other.query filter) ∧ (∀ id, one.rows id = other.rows id) ∧
      ∀ config text, render one.source config text = render other.source config text :=
  ⟨rearranged.query_eq, rearranged.rows_eq, fun config text => by rw [rearranged.source_eq]⟩

/-- Fields may be defined in any order, values of different fields may be exchanged, and values without a definition
may come and go. -/
theorem agree_of_rearranged_mixed :
    let one : Dataset := ⟨[⟨2, "first", ""⟩, ⟨1, "last", ""⟩], [⟨⟨5⟩, 1, "Ray"⟩, ⟨⟨5⟩, 2, "Ann"⟩, ⟨⟨5⟩, 2, "Bo"⟩]⟩
    let other : Dataset :=
      ⟨[⟨1, "last", ""⟩, ⟨2, "first", ""⟩], [⟨⟨5⟩, 2, "Ann"⟩, ⟨⟨7⟩, 9, "x"⟩, ⟨⟨5⟩, 1, "Ray"⟩, ⟨⟨5⟩, 2, "Bo"⟩]⟩
    one.Rearranged other ∧ (∀ filter, one.query filter = other.query filter) ∧
      (∀ id, one.rows id = other.rows id) ∧
      ∀ config text, render one.source config text = render other.source config text := by
  intro one other
  have rearranged : one.Rearranged other := by
    refine ⟨List.Perm.swap _ _ _, by decide, ?_⟩
    intro record field member
    by_cases own : record = ⟨5⟩
    · subst own
      revert field
      decide
    · have none : ⟨5⟩ ≠ record := fun same => own same.symm
      rcases List.mem_cons.mp member with rfl | member
      · simp [valuesOf, one, other, none]
      · obtain rfl := List.mem_singleton.mp member
        simp [valuesOf, one, other, none]
  exact ⟨rearranged, agree_of_rearranged rearranged⟩

end RecordFill.Dataset

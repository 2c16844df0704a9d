import RecordFill.Proofs.Store.Loading
import RecordFill.Proofs.Store.Query
import RecordFill.Proofs.Store.Rows
import Mathlib.Data.List.Nodup

namespace RecordFill.Dataset

/-- A record has a row of the name whose value passes the test. -/
def Shows (dataset : Dataset) (name : String) (test : Test) (id : RecordId) : Prop :=
  ∃ row ∈ dataset.rows id, row.name = name ∧ test.accepts row.value = true

/-- No definition of the name is shadowed by an earlier one with its id. -/
def Unshadowed (dataset : Dataset) (name : String) : Prop :=
  ∀ field ∈ dataset.fields, field.name = name → dataset.field? field.id = some field

variable {dataset : Dataset} {condition : Condition} {test : Test} {id : RecordId}

/-- A row of a name is a value whose first definition has the name. -/
theorem shows_iff {name : String} :
    dataset.Shows name test id ↔ ∃ entry ∈ dataset.entries, entry.record = id ∧
      ∃ field, dataset.field? entry.field = some field ∧ field.name = name ∧ test.accepts entry.value = true := by
  simp only [Shows, mem_rows]
  constructor
  · rintro ⟨_, ⟨entry, stored, own, field, found, rfl⟩, named, accepted⟩
    exact ⟨entry, stored, own, field, found, named, accepted⟩
  · rintro ⟨entry, stored, own, field, found, named, accepted⟩
    exact ⟨_, ⟨entry, stored, own, field, found, rfl⟩, named, accepted⟩

section Found

variable [RegexCompiler]

theorem meets_of_shows (compiled : condition.test = .ok test) (shows : dataset.Shows condition.field test id) :
    dataset.Meets condition id := by
  obtain ⟨entry, stored, own, field, found, named, accepted⟩ := shows_iff.mp shows
  exact ⟨field, List.mem_of_find?_eq_some found, named, entry, stored, own, (id_of_field? found).symm, test, compiled,
    accepted⟩

/-- What is found by a definition is shown under the first one with its id. -/
theorem exists_shows_of_meets (compiled : condition.test = .ok test) (meets : dataset.Meets condition id) :
    ∃ field ∈ dataset.fields, field.name = condition.field ∧
      ∃ first, dataset.field? field.id = some first ∧ dataset.Shows first.name test id := by
  obtain ⟨field, defined, named, entry, stored, own, same, test', compiled', accepted⟩ := meets
  obtain rfl : test = test' := Except.ok.inj (compiled.symm.trans compiled')
  obtain ⟨first, found⟩ := exists_field?_eq defined
  rw [← same] at found
  exact ⟨field, defined, named, first, same ▸ found, shows_iff.mpr ⟨entry, stored, own, first, found, rfl, accepted⟩⟩

/-- Where names are distinct the first definition of an id stands for all that have it. -/
theorem meets_iff_exists_shows (distinct : (dataset.fields.map (·.name)).Nodup) (compiled : condition.test = .ok test) :
    dataset.Meets condition id ↔ ∃ field ∈ dataset.fields, field.name = condition.field ∧
      ∃ first, dataset.field? field.id = some first ∧ dataset.Shows first.name test id := by
  refine ⟨exists_shows_of_meets compiled, ?_⟩
  rintro ⟨field, defined, named, first, found, shows⟩
  obtain ⟨entry, stored, own, shown, found', same, accepted⟩ := shows_iff.mp shows
  -- The row's name belongs to one definition only, so the value has the id that was looked up.
  obtain rfl : shown = first :=
    List.inj_on_of_nodup_map distinct (List.mem_of_find?_eq_some found') (List.mem_of_find?_eq_some found) same
  have key : entry.field = field.id := (id_of_field? found').symm.trans (id_of_field? found)
  exact ⟨field, defined, named, entry, stored, own, key, test, compiled, accepted⟩

/-- Where a name is not shadowed the same is found by it and shown under it. -/
theorem meets_iff_shows (unshadowed : dataset.Unshadowed condition.field) (compiled : condition.test = .ok test) :
    dataset.Meets condition id ↔ dataset.Shows condition.field test id := by
  refine ⟨fun meets => ?_, meets_of_shows compiled⟩
  obtain ⟨field, defined, named, first, found, shows⟩ := exists_shows_of_meets compiled meets
  obtain rfl : field = first := Option.some.inj ((unshadowed field defined named).symm.trans found)
  exact named ▸ shows

/-- In a loaded dataset, a condition by itself selects the records that show a value under the first definition with
the id of the condition's field. What a record shows under the field's own name is always found, and the name finds
nothing else unless an earlier definition shadows it. -/
theorem query_single_iff_shows {format : DataFormat} {source : String} (loaded : ofSource format source = .ok dataset)
    (compiled : condition.test = .ok test) :
    ∃ ids, dataset.query (.single condition) = .ok ids ∧ ∀ id,
      (id ∈ ids ↔ ∃ field ∈ dataset.fields, field.name = condition.field ∧
        ∃ first, dataset.field? field.id = some first ∧ dataset.Shows first.name test id) ∧
      (dataset.Shows condition.field test id → id ∈ ids) ∧
      (dataset.Unshadowed condition.field → (id ∈ ids ↔ dataset.Shows condition.field test id)) := by
  have distinct := (ofSource_eq_ok_iff.mp loaded).2
  refine ⟨_, dataset.query_single compiled, fun id => ?_⟩
  have found : id ∈ dataset.matching condition.field test (fun _ => true) ↔ dataset.Meets condition id := by
    simp [mem_matching compiled]
  rw [found]
  exact ⟨meets_iff_exists_shows distinct compiled, meets_of_shows compiled,
    fun unshadowed => meets_iff_shows unshadowed compiled⟩

end Found

/-- Records are found by a field that is not the first to be defined and not the one with the least id. -/
theorem query_single_iff_shows_unshadowed :
    let source := "\x7b\"fields\":[\x7b\"id\":2,\"name\":\"last\"\x7d,\x7b\"id\":3,\"name\":\"first\"\x7d]," ++
      "\"values\":[\x7b\"item_id\":5,\"field_id\":3,\"value\":\"Ann\"\x7d]\x7d"
    let dataset : Dataset := ⟨[⟨2, "last", ""⟩, ⟨3, "first", ""⟩], [⟨⟨5⟩, 3, "Ann"⟩]⟩
    let condition : Condition := ⟨"first", .equal, "Ann"⟩
    ofSource .json source = .ok dataset ∧ condition.test = .ok (.equals "Ann") ∧ dataset.Unshadowed "first" ∧
      ∃ ids, dataset.query (.single condition) = .ok ids ∧
        ∀ id, id ∈ ids ↔ dataset.Shows "first" (.equals "Ann") id := by
  intro source dataset condition
  have loaded : ofSource .json source = .ok dataset :=
    ofSource_eq_ok_iff.mpr ⟨by decide +kernel, by decide⟩
  have unshadowed : dataset.Unshadowed "first" := by
    unfold Unshadowed
    decide
  have compiled : condition.test = .ok (.equals "Ann") := rfl
  obtain ⟨ids, selected, members⟩ := query_single_iff_shows loaded compiled
  exact ⟨loaded, compiled, unshadowed, ids, selected, fun id => (members id).2.2 unshadowed⟩

/-- A record that is found by a shadowed name has no row of that name. -/
theorem found_and_not_shown :
    let source := "\x7b\"fields\":[\x7b\"id\":1,\"name\":\"a\"\x7d,\x7b\"id\":1,\"name\":\"b\"\x7d]," ++
      "\"values\":[\x7b\"item_id\":1,\"field_id\":1,\"value\":\"x\"\x7d]\x7d"
    let dataset : Dataset := ⟨[⟨1, "a", ""⟩, ⟨1, "b", ""⟩], [⟨⟨1⟩, 1, "x"⟩]⟩
    let condition : Condition := ⟨"b", .equal, "x"⟩
    ofSource .json source = .ok dataset ∧ condition.test = .ok (.equals "x") ∧
      dataset.query (.single condition) = .ok [⟨1⟩] ∧ dataset.rows ⟨1⟩ = [⟨"a", "", "x"⟩] ∧
        ¬ dataset.Shows "b" (.equals "x") ⟨1⟩ := by
  intro source dataset condition
  have compiled : condition.test = .ok (.equals "x") := rfl
  have rows : dataset.rows ⟨1⟩ = [⟨"a", "", "x"⟩] := by decide +kernel
  have selected : dataset.matching "b" (.equals "x") (fun _ => true) = [⟨1⟩] := by decide +kernel
  refine ⟨ofSource_eq_ok_iff.mpr ⟨by decide +kernel, by decide⟩, compiled, ?_, rows, ?_⟩
  · rw [dataset.query_single compiled, selected]
  · unfold Shows
    rw [rows]
    decide

end RecordFill.Dataset

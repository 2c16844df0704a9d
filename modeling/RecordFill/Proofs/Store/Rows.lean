import RecordFill.Store.Dataset

namespace RecordFill

section Sorted

variable {α : Type} {key : α → UInt64}

/-- Items are in the order of their keys. -/
def keyOrder (key : α → UInt64) (one other : α) : Bool :=
  key one ≤ key other

theorem keyOrder_trans (one other third : α) :
    keyOrder key one other = true → keyOrder key other third = true → keyOrder key one third = true := by
  simpa [keyOrder] using UInt64.le_trans

theorem keyOrder_total (one other : α) : (keyOrder key one other || keyOrder key other one) = true := by
  simpa [keyOrder] using UInt64.le_total (key one) (key other)

/-- Sorting by a key keeps the items of each key in their order. -/
theorem filter_mergeSort (key : α → UInt64) (items : List α) (k : UInt64) :
    (items.mergeSort (keyOrder key)).filter (key · = k) = items.filter (key · = k) := by
  have alike : (items.filter (key · = k)).Pairwise fun one other => keyOrder key one other = true := by
    rw [List.pairwise_filter]
    apply List.pairwise_of_forall
    intro one other
    simp only [keyOrder, decide_eq_true_eq]
    rintro rfl same
    exact UInt64.le_of_eq same.symm
  have kept : (items.filter (key · = k)).Sublist (items.mergeSort (keyOrder key)) :=
    List.sublist_mergeSort keyOrder_trans keyOrder_total alike List.filter_sublist
  have inOrder := kept.filter (key · = k)
  rw [List.filter_filter] at inOrder
  simp only [Bool.and_self] at inOrder
  exact (inOrder.eq_of_length ((List.mergeSort_perm items _).filter _).length_eq.symm).symm

/-- A list that is sorted by a key is determined by its items of each key. -/
theorem eq_of_filter_eq {items others : List α} (sorted : items.Pairwise fun one other => keyOrder key one other = true)
    (othersSorted : others.Pairwise fun one other => keyOrder key one other = true)
    (same : ∀ k, items.filter (key · = k) = others.filter (key · = k)) : items = others := by
  have least {first : α} {rest list : List α}
      (ordered : (first :: rest).Pairwise fun one other => keyOrder key one other = true)
      (alike : ∀ k, (first :: rest).filter (key · = k) = list.filter (key · = k)) :
      ∀ item ∈ list, key first ≤ key item := by
    intro item member
    have found : item ∈ (first :: rest).filter (key · = key item) := by
      rw [alike (key item)]
      exact List.mem_filter.mpr ⟨member, by simp⟩
    rcases List.mem_cons.mp (List.mem_filter.mp found).1 with rfl | behind
    · exact UInt64.le_refl _
    · simpa [keyOrder] using (List.pairwise_cons.mp ordered).1 item behind
  induction items generalizing others with
  | nil =>
    cases others with
    | nil => rfl
    | cons other others => simpa using same (key other)
  | cons first items step =>
    cases others with
    | nil => simpa using same (key first)
    | cons other others =>
      have equal : key first = key other :=
        UInt64.le_antisymm (least sorted same other List.mem_cons_self)
          (least othersSorted (fun k => (same k).symm) first List.mem_cons_self)
      have fronts := same (key first)
      rw [List.filter_cons_of_pos (by simp), List.filter_cons_of_pos (by simp [equal])] at fronts
      obtain ⟨rfl, -⟩ := List.cons.inj fronts
      have behind : ∀ k, items.filter (key · = k) = others.filter (key · = k) := by
        intro k
        have whole := same k
        by_cases here : key first = k
        · rw [List.filter_cons_of_pos (by simpa using here), List.filter_cons_of_pos (by simpa using here)] at whole
          exact (List.cons.inj whole).2
        · rwa [List.filter_cons_of_neg (by simpa using here), List.filter_cons_of_neg (by simpa using here)] at whole
      rw [step (List.pairwise_cons.mp sorted).2 (List.pairwise_cons.mp othersSorted).2 behind]

/-- Two lists with the same items of each key are sorted alike. -/
theorem mergeSort_eq_of_filter_eq {items others : List α}
    (same : ∀ k, items.filter (key · = k) = others.filter (key · = k)) :
    items.mergeSort (keyOrder key) = others.mergeSort (keyOrder key) := by
  have sorted (list : List α) :
      (list.mergeSort (keyOrder key)).Pairwise fun one other => keyOrder key one other = true :=
    List.pairwise_mergeSort keyOrder_trans keyOrder_total list
  apply eq_of_filter_eq (sorted items) (sorted others)
  intro k
  rw [filter_mergeSort, filter_mergeSort, same k]

end Sorted

namespace Dataset

/-- The values that a record has in the fields with an id, in their order. -/
def valuesOf (dataset : Dataset) (record : RecordId) (field : UInt64) : List String :=
  (dataset.entries.filter fun entry => entry.record = record ∧ entry.field = field).map (·.value)

theorem mem_valuesOf {dataset : Dataset} {record : RecordId} {field : UInt64} {value : String} :
    value ∈ dataset.valuesOf record field ↔
      ∃ entry ∈ dataset.entries, entry.record = record ∧ entry.field = field ∧ entry.value = value := by
  simp [valuesOf, and_assoc]

/-- The rows of a record with the ids of their definitions, in the order of the values. -/
def keyedRows (dataset : Dataset) (id : RecordId) : List (UInt64 × Row) :=
  (dataset.entries.filter (·.record = id)).filterMap dataset.row?

/-- The row that a definition makes of a value. -/
def rowOf (field : Field) (value : String) : Row :=
  ⟨field.name, field.title, value⟩

theorem id_of_field? {dataset : Dataset} {id : UInt64} {field : Field} (found : dataset.field? id = some field) :
    field.id = id := by
  simpa using List.find?_some found

/-- A definition's id has a first definition. -/
theorem exists_field?_eq {dataset : Dataset} {field : Field} (defined : field ∈ dataset.fields) :
    ∃ first, dataset.field? field.id = some first := by
  rw [← Option.isSome_iff_exists, field?, List.find?_isSome]
  exact ⟨field, defined, by simp⟩

theorem row?_eq (dataset : Dataset) (entry : Entry) :
    dataset.row? entry = (dataset.field? entry.field).map fun field => (entry.field, rowOf field entry.value) := by
  unfold row?
  cases found : dataset.field? entry.field with
  | none => rfl
  | some field => simp [id_of_field? found, rowOf]

/-- The rows under one key are those that its first definition makes of the record's values in that field. -/
theorem filter_keyedRows (dataset : Dataset) (id : RecordId) (key : UInt64) :
    (dataset.keyedRows id).filter (·.1 = key) =
      (dataset.field? key).elim [] fun field =>
        (dataset.valuesOf id key).map fun value => (key, rowOf field value) := by
  unfold keyedRows valuesOf
  induction dataset.entries with
  | nil => cases dataset.field? key <;> rfl
  | cons entry entries step =>
    by_cases own : entry.record = id
    · rw [List.filter_cons_of_pos (by simpa using own), List.filterMap_cons, row?_eq]
      by_cases here : entry.field = key
      · rw [List.filter_cons_of_pos (by simp [own, here]), here]
        cases found : dataset.field? key with
        | none =>
          rw [found] at step
          exact step
        | some field =>
          rw [found] at step
          simp only [Option.map_some, List.filter_cons, decide_true, if_true, step, Option.elim_some, List.map_cons]
      · rw [List.filter_cons_of_neg (by simp [here]), ← step]
        cases dataset.field? entry.field with
        | none => rfl
        | some field => exact List.filter_cons_of_neg (by simpa using here)
    · rw [List.filter_cons_of_neg (by simpa using own), List.filter_cons_of_neg (by simp [own]), step]

/-- A record has the rows that first definitions make of its values. -/
theorem mem_rows {dataset : Dataset} {id : RecordId} {row : Row} :
    row ∈ dataset.rows id ↔ ∃ entry ∈ dataset.entries, entry.record = id ∧
      ∃ field, dataset.field? entry.field = some field ∧ row = rowOf field entry.value := by
  have sorted : dataset.rows id = ((dataset.keyedRows id).mergeSort (keyOrder Prod.fst)).map (·.2) := rfl
  rw [sorted, List.mem_map]
  simp only [List.mem_mergeSort, keyedRows, List.mem_filterMap, List.mem_filter, decide_eq_true_eq, row?_eq,
    Option.map_eq_some_iff]
  constructor
  · rintro ⟨_, ⟨entry, ⟨stored, own⟩, field, found, rfl⟩, rfl⟩
    exact ⟨entry, stored, own, field, found, rfl⟩
  · rintro ⟨entry, stored, own, field, found, rfl⟩
    exact ⟨_, ⟨entry, ⟨stored, own⟩, field, found, rfl⟩, rfl⟩

/-- The rows of a record depend on the first definitions of ids and on the values under each of them. -/
theorem rows_congr {one other : Dataset} {id : RecordId} (fields : ∀ key, one.field? key = other.field? key)
    (values : ∀ key field, one.field? key = some field → one.valuesOf id key = other.valuesOf id key) :
    one.rows id = other.rows id := by
  have same :
      (one.keyedRows id).mergeSort (keyOrder Prod.fst) = (other.keyedRows id).mergeSort (keyOrder Prod.fst) := by
    apply mergeSort_eq_of_filter_eq
    intro key
    rw [filter_keyedRows, filter_keyedRows, ← fields key]
    cases found : one.field? key with
    | none => rfl
    | some field => rw [values key field found]
  exact congrArg (List.map (·.2)) same

end Dataset

end RecordFill

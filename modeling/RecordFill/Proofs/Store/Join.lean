import RecordFill.Proofs.Store.Rows
import Mathlib.Data.List.FinRange
import Mathlib.Data.List.Forall2

namespace RecordFill

section Sorted

variable {α β : Type} {items : List α}

/-- Sorting by a key leaves items of one key in the order in which they were. -/
theorem pairwise_mergeSort_keyOrder (key : α → UInt64) {precedes : α → α → Prop} (ordered : items.Pairwise precedes) :
    (items.mergeSort (keyOrder key)).Pairwise fun one other =>
      key one < key other ∨ key one = key other ∧ precedes one other := by
  rw [List.pairwise_iff_forall_sublist]
  intro one other stand
  have ascending : key one ≤ key other := by
    have sorted : (items.mergeSort (keyOrder key)).Pairwise fun one other => keyOrder key one other = true :=
      List.pairwise_mergeSort keyOrder_trans keyOrder_total items
    simpa [keyOrder] using List.pairwise_iff_forall_sublist.mp sorted stand
  by_cases same : key one = key other
  · -- Both items are of one key, so they stand in the part of the items that sorting keeps.
    have kept := stand.filter (key · = key one)
    rw [filter_mergeSort, List.filter_cons_of_pos (by simp), List.filter_cons_of_pos (by simp [same]),
      List.filter_nil] at kept
    exact .inr ⟨same, List.pairwise_iff_forall_sublist.mp ordered (kept.trans List.filter_sublist)⟩
  · exact .inl (UInt64.lt_of_le_of_ne ascending same)

/-- Lists whose items belong together are sorted alike where the keys are the same. -/
theorem forall₂_mergeSort (key : α → UInt64) (key' : β → UInt64) {belongs : α → β → Prop} {others : List β}
    (same : ∀ item other, belongs item other → key item = key' other) (together : List.Forall₂ belongs items others) :
    List.Forall₂ belongs (items.mergeSort (keyOrder key)) (others.mergeSort (keyOrder key')) := by
  let pairs := items.zip others
  have inPairs : ∀ pair ∈ pairs, belongs pair.1 pair.2 := fun _ member => List.forall₂_zip together member
  have first : (pairs.mergeSort (keyOrder (key ·.1))).map Prod.fst = items.mergeSort (keyOrder key) := by
    rw [← List.map_fst_zip together.length_eq.le]
    exact List.map_mergeSort fun _ _ _ _ => rfl
  have second : (pairs.mergeSort (keyOrder (key ·.1))).map Prod.snd = others.mergeSort (keyOrder key') := by
    rw [← List.map_snd_zip together.length_eq.ge]
    apply List.map_mergeSort
    intro one member other member'
    simp only [keyOrder, same _ _ (inPairs one member), same _ _ (inPairs other member')]
  rw [← first, ← second, List.forall₂_map_left_iff, List.forall₂_map_right_iff, List.forall₂_same]
  intro pair member
  exact inPairs pair (List.mem_mergeSort.mp member)

/-- What a partial function makes of a list belongs to the items where it is defined. -/
theorem forall₂_filterMap (make? : α → Option β) (items : List α) :
    List.Forall₂ (fun item made => make? item = some made) (items.filter fun item => (make? item).isSome)
      (items.filterMap make?) := by
  induction items with
  | nil => exact .nil
  | cons item items step =>
    cases made : make? item with
    | none => rwa [List.filter_cons_of_neg (by simp [made]), List.filterMap_cons_none made]
    | some value =>
      rw [List.filter_cons_of_pos (by simp [made]), List.filterMap_cons_some made]
      exact .cons made step

end Sorted

namespace Dataset

variable {dataset : Dataset} {id : RecordId}

def entryAt (dataset : Dataset) (place : Fin dataset.entries.length) : Entry :=
  dataset.entries.get place

/-- A definition has an id, and none before it has the same. -/
def FirstDefines (dataset : Dataset) (field : Field) (id : UInt64) : Prop :=
  field.id = id ∧ ∃ earlier later, dataset.fields = earlier ++ field :: later ∧ ∀ other ∈ earlier, other.id ≠ id

/-- A row shows the value at a place under the first definition of its field. -/
def RowAt (dataset : Dataset) (place : Fin dataset.entries.length) (row : Row) : Prop :=
  ∃ field, dataset.FirstDefines field (dataset.entryAt place).field ∧
    row = ⟨field.name, field.title, (dataset.entryAt place).value⟩

/-- Values of lesser field ids come first, and of one field those that were given first. -/
def ComesBefore (dataset : Dataset) (one other : Fin dataset.entries.length) : Prop :=
  (dataset.entryAt one).field < (dataset.entryAt other).field ∨
    (dataset.entryAt one).field = (dataset.entryAt other).field ∧ one < other

/-- The places of a record's values that have a definition, each of them once, in the order of the rows. -/
structure InRowOrder (dataset : Dataset) (id : RecordId) (places : List (Fin dataset.entries.length)) : Prop where
  members : ∀ place, place ∈ places ↔ (dataset.entryAt place).record = id ∧
    ∃ field ∈ dataset.fields, field.id = (dataset.entryAt place).field
  ordered : places.Pairwise dataset.ComesBefore

theorem field?_eq_some_iff_firstDefines {key : UInt64} {field : Field} :
    dataset.field? key = some field ↔ dataset.FirstDefines field key := by
  simp [field?, FirstDefines, List.find?_eq_some_iff_append]

/-- The row at a place is the one that is made of its value. -/
theorem rowAt_iff {place : Fin dataset.entries.length} {row : Row} :
    dataset.RowAt place row ↔ ∃ key, dataset.row? (dataset.entryAt place) = some (key, row) := by
  simp only [RowAt, ← field?_eq_some_iff_firstDefines, row?_eq, Option.map_eq_some_iff, Prod.mk.injEq, rowOf]
  constructor
  · rintro ⟨field, found, rfl⟩
    exact ⟨_, field, found, rfl, rfl⟩
  · rintro ⟨key, field, found, -, rfl⟩
    exact ⟨field, found, rfl⟩

/-- There is one row at most at a place. -/
theorem rightUnique_rowAt (dataset : Dataset) : Relator.RightUnique dataset.RowAt := by
  intro place row other shows shows'
  obtain ⟨key, made⟩ := rowAt_iff.mp shows
  obtain ⟨key', made'⟩ := rowAt_iff.mp shows'
  exact (Prod.mk.inj (Option.some.inj (made.symm.trans made'))).2

theorem ComesBefore.asymm {one other : Fin dataset.entries.length} (before : dataset.ComesBefore one other) :
    ¬ dataset.ComesBefore other one := by
  intro after
  rcases before with less | ⟨same, less⟩
  · rcases after with greater | ⟨same, -⟩
    · exact UInt64.lt_asymm less greater
    · exact UInt64.lt_irrefl _ (same ▸ less)
  · rcases after with greater | ⟨-, greater⟩
    · exact UInt64.lt_irrefl _ (same ▸ greater)
    · exact lt_asymm less greater

theorem InRowOrder.nodup {places : List (Fin dataset.entries.length)} (order : dataset.InRowOrder id places) :
    places.Nodup := by
  apply order.ordered.imp
  intro one other before equal
  subst equal
  exact before.asymm before

/-- Places are put in row order in one way only. -/
theorem InRowOrder.unique {places others : List (Fin dataset.entries.length)} (order : dataset.InRowOrder id places)
    (order' : dataset.InRowOrder id others) : places = others := by
  have permuted : places.Perm others := by
    rw [List.perm_ext_iff_of_nodup order.nodup order'.nodup]
    intro place
    rw [order.members, order'.members]
  refine List.Perm.eq_of_pairwise ?_ order.ordered order'.ordered permuted
  intro one other _ _ before after
  exact absurd after before.asymm

/-- The places of a record's values that have a definition, as they were given. -/
def definedPlaces (dataset : Dataset) (id : RecordId) : List (Fin dataset.entries.length) :=
  ((List.finRange dataset.entries.length).filter fun place => (dataset.entryAt place).record = id).filter
    fun place => (dataset.row? (dataset.entryAt place)).isSome

theorem mem_definedPlaces {place : Fin dataset.entries.length} :
    place ∈ dataset.definedPlaces id ↔ (dataset.entryAt place).record = id ∧
      ∃ field ∈ dataset.fields, field.id = (dataset.entryAt place).field := by
  simp [definedPlaces, row?, field?, List.find?_isSome, and_comm]

/-- The keyed rows of a record are those of its values with a definition. -/
theorem forall₂_keyedRows (dataset : Dataset) (id : RecordId) :
    List.Forall₂ (fun place keyed => dataset.row? (dataset.entryAt place) = some keyed) (dataset.definedPlaces id)
      (dataset.keyedRows id) := by
  have entries : dataset.entries = (List.finRange dataset.entries.length).map dataset.entryAt :=
    (List.map_get_finRange dataset.entries).symm
  have rows : dataset.keyedRows id =
      ((List.finRange dataset.entries.length).filter fun place => (dataset.entryAt place).record = id).filterMap
        fun place => dataset.row? (dataset.entryAt place) := by
    unfold keyedRows
    conv_lhs => rw [entries]
    rw [List.filter_map, List.filterMap_map]
    rfl
  rw [rows]
  exact forall₂_filterMap _ _

/-- Sorted by the field, the places of a record's values are in row order. -/
theorem inRowOrder_mergeSort (dataset : Dataset) (id : RecordId) :
    dataset.InRowOrder id
      ((dataset.definedPlaces id).mergeSort (keyOrder fun place => (dataset.entryAt place).field)) where
  members place := by rw [List.mem_mergeSort, mem_definedPlaces]
  ordered := by
    have given : (dataset.definedPlaces id).Pairwise (· < ·) :=
      ((List.pairwise_lt_finRange dataset.entries.length).filter _).filter _
    exact pairwise_mergeSort_keyOrder _ given

/-- The sorted rows show the values at the sorted places. -/
theorem forall₂_rows (dataset : Dataset) (id : RecordId) :
    List.Forall₂ dataset.RowAt
      ((dataset.definedPlaces id).mergeSort (keyOrder fun place => (dataset.entryAt place).field))
      (dataset.rows id) := by
  have rows : dataset.rows id = ((dataset.keyedRows id).mergeSort (keyOrder Prod.fst)).map (·.2) := rfl
  have keyed : ∀ place keyed, dataset.row? (dataset.entryAt place) = some keyed →
      (dataset.entryAt place).field = keyed.1 := by
    intro place keyed made
    rw [row?_eq] at made
    obtain ⟨field, -, rfl⟩ := Option.map_eq_some_iff.mp made
    rfl
  have sorted := forall₂_mergeSort (fun place => (dataset.entryAt place).field) Prod.fst keyed
    (dataset.forall₂_keyedRows id)
  rw [rows, List.forall₂_map_right_iff]
  exact sorted.imp fun place keyed made => rowAt_iff.mpr ⟨keyed.1, made⟩

/-- The rows of a record are the only list that has one row for each of the record's values with a definition and no
other row: each with the name and the title of the first definition of the value's field, by ascending id of the field,
and within one field in the order in which the values were given. -/
theorem rows_eq_iff_inRowOrder (dataset : Dataset) (id : RecordId) (rows : List Row) :
    dataset.rows id = rows ↔ ∃ places, dataset.InRowOrder id places ∧ List.Forall₂ dataset.RowAt places rows := by
  constructor
  · rintro rfl
    exact ⟨_, dataset.inRowOrder_mergeSort id, dataset.forall₂_rows id⟩
  · rintro ⟨places, order, shown⟩
    obtain rfl := order.unique (dataset.inRowOrder_mergeSort id)
    exact List.right_unique_forall₂' dataset.rightUnique_rowAt (dataset.forall₂_rows id) shown

end Dataset

end RecordFill

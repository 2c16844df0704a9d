namespace RecordFill

/-- The id of a record that owns field values. -/
structure RecordId where
  number : Int64
  deriving DecidableEq, Hashable

namespace RecordId

/-- The id that names no record. -/
def unresolved : RecordId := ⟨-1⟩

/-- The id in decimal digits, after a minus sign if it is negative. -/
def decimal (id : RecordId) : String :=
  toString id.number.toInt

/-- The id at its place in an ascending list, where it is kept once. -/
def insert (id : RecordId) : List RecordId → List RecordId
  | [] => [id]
  | next :: rest =>
    if id = next then next :: rest
    else if id.number < next.number then id :: next :: rest
    else next :: insert id rest

/-- The distinct ids of a list in ascending order. -/
def ascending (ids : List RecordId) : List RecordId :=
  (ids.mergeSort (·.number ≤ ·.number)).foldr insert []

theorem mem_insert {id other : RecordId} {ids : List RecordId} :
    other ∈ insert id ids ↔ other = id ∨ other ∈ ids := by
  induction ids with
  | nil => simp [insert]
  | cons next rest step =>
    unfold insert
    split
    · next same => simp [same]
    · split
      · simp
      · simp only [List.mem_cons, step, or_left_comm]

theorem mem_foldr_insert {id : RecordId} {ids : List RecordId} : id ∈ ids.foldr insert [] ↔ id ∈ ids := by
  induction ids with
  | nil => simp
  | cons next rest step => rw [List.foldr_cons, mem_insert, step, List.mem_cons]

theorem mem_ascending {id : RecordId} {ids : List RecordId} : id ∈ ascending ids ↔ id ∈ ids := by
  rw [ascending, mem_foldr_insert, List.mem_mergeSort]

theorem pairwise_insert (id : RecordId) {ids : List RecordId} (ordered : ids.Pairwise (·.number < ·.number)) :
    (insert id ids).Pairwise (·.number < ·.number) := by
  induction ids with
  | nil => simp [insert]
  | cons next rest step =>
    obtain ⟨above, ordered⟩ := List.pairwise_cons.mp ordered
    unfold insert
    split
    · exact List.pairwise_cons.mpr ⟨above, ordered⟩
    · next differs =>
      split
      · next less =>
        refine List.pairwise_cons.mpr ⟨?_, List.pairwise_cons.mpr ⟨above, ordered⟩⟩
        intro other member
        rcases List.mem_cons.mp member with rfl | member
        · exact less
        · exact Int64.lt_trans less (above other member)
      · next notLess =>
        refine List.pairwise_cons.mpr ⟨?_, step ordered⟩
        intro other member
        rcases (mem_insert).mp member with rfl | member
        · have distinct : other.number ≠ next.number := fun same => differs (by cases other; cases next; simp_all)
          exact Int64.lt_of_le_of_ne (Int64.not_lt.mp notLess) distinct.symm
        · exact above other member

theorem pairwise_ascending (ids : List RecordId) : (ascending ids).Pairwise (·.number < ·.number) := by
  unfold ascending
  induction ids.mergeSort (·.number ≤ ·.number) with
  | nil => exact .nil
  | cons next rest step => exact pairwise_insert next step

end RecordId

/-- One field of a record with its name, its title and its value. -/
structure Row where
  name : String
  title : String
  value : String
  deriving DecidableEq

/-- A record with its rows in the order in which a template is filled. -/
structure Record where
  id : RecordId
  rows : List Row
  deriving DecidableEq

namespace Record

/-- The name and the title of the row that holds a record's id. -/
def idName : String := "id"

/-- The row that holds a record's id. -/
def idRow (id : RecordId) : Row := ⟨idName, idName, id.decimal⟩

/-- A record has its stored rows first and its id last. -/
def ofRows (id : RecordId) (rows : List Row) : Record :=
  ⟨id, rows ++ [idRow id]⟩

/-- The first row with the name. -/
def row? (record : Record) (name : String) : Option Row :=
  record.rows.find? (·.name = name)

/-- A stored row named like the id comes before the row of the id itself. -/
theorem row?_ofRows (id : RecordId) (rows : List Row) (name : String) :
    (ofRows id rows).row? name =
      (rows.find? (·.name = name)).or (if idName = name then some (idRow id) else none) := by
  by_cases same : idName = name <;> simp [row?, ofRows, idRow, same]

end Record

end RecordFill

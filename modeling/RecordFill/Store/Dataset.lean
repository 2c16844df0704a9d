import RecordFill.Query
import Std.Data.HashSet.Basic

namespace RecordFill

/-- The definition of a field with its name and its title. -/
structure Field where
  id : UInt64
  name : String
  title : String
  deriving DecidableEq

/-- A value that a record has in a field. -/
structure Entry where
  record : RecordId
  field : UInt64
  value : String
  deriving DecidableEq

/-- The definitions and the values of a store. -/
structure Dataset where
  fields : List Field := []
  entries : List Entry := []
  deriving DecidableEq

/-- A query fails only when one of its patterns is refused. -/
inductive QueryError where
  | invalidPattern (refusal : PatternError)
  deriving DecidableEq

def QueryError.message : QueryError → String
  | .invalidPattern refusal => "invalid match pattern: " ++ refusal.message

instance : Failure QueryError where
  message := QueryError.message
  causes := fun | .invalidPattern refusal => Failure.chain refusal

namespace Dataset

def addField (dataset : Dataset) (field : Field) : Dataset :=
  { dataset with fields := dataset.fields ++ [field] }

def addEntry (dataset : Dataset) (entry : Entry) : Dataset :=
  { dataset with entries := dataset.entries ++ [entry] }

/-- The first name that repeats an earlier one. -/
def firstRepeat (earlier : Std.HashSet String) : List String → Option String
  | [] => none
  | name :: rest => if earlier.contains name then some name else firstRepeat (earlier.insert name) rest

/-- The first field name that is defined a second time. -/
def repeatedName? (dataset : Dataset) : Option String :=
  firstRepeat {} (dataset.fields.map (·.name))

/-- Every record that has a value, in ascending order. -/
def recordIds (dataset : Dataset) : List RecordId :=
  RecordId.ascending (dataset.entries.map (·.record))

/-- The first definition with an id. -/
def field? (dataset : Dataset) (id : UInt64) : Option Field :=
  dataset.fields.find? (·.id = id)

/-- The ids of the definitions with a name. -/
def fieldIds (dataset : Dataset) (name : String) : List UInt64 :=
  (dataset.fields.filter (·.name = name)).map (·.id)

/-- The records that have a value, in a field with the name, that passes the test, if they are admitted. -/
def matching (dataset : Dataset) (name : String) (test : Test) (admits : RecordId → Bool) : List RecordId :=
  let ids := dataset.fieldIds name
  let passing := dataset.entries.filter fun entry =>
    ids.contains entry.field && admits entry.record && test.accepts entry.value
  RecordId.ascending (passing.map (·.record))

/-- The records that a filter selects; the innermost condition is compiled and asked first. -/
def query [RegexCompiler] (dataset : Dataset) : Filter → Except QueryError (List RecordId)
  | .single condition => do
    let test ← condition.test.mapError .invalidPattern
    return dataset.matching condition.field test fun _ => true
  | .narrow condition within => do
    let selected ← dataset.query within
    let test ← condition.test.mapError .invalidPattern
    return dataset.matching condition.field test (Std.HashSet.ofList selected).contains

/-- The row of a value together with the id of its definition, if it has one. -/
def row? (dataset : Dataset) (entry : Entry) : Option (UInt64 × Row) :=
  (dataset.field? entry.field).map fun field => (field.id, ⟨field.name, field.title, entry.value⟩)

/-- The rows of a record by ascending id of their definitions; rows of one definition keep their order. -/
def rows (dataset : Dataset) (id : RecordId) : List Row :=
  let own := dataset.entries.filter (·.record = id)
  ((own.filterMap dataset.row?).mergeSort (·.1 ≤ ·.1)).map (·.2)

/-- A dataset as a source of records, whose rows never fail. -/
def source [RegexCompiler] (dataset : Dataset) : Source QueryError where
  query := dataset.query
  rows id := .ok (dataset.rows id)

end Dataset

end RecordFill

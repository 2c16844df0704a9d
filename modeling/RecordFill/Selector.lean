import RecordFill.Query
import RecordFill.Record
import RecordFill.Text.Numeral
import RecordFill.Text.Search

namespace RecordFill

/-- A record is named by its id, or found as the only one that meets all conditions. -/
inductive Selector where
  | byId (id : RecordId)
  | byQuery (conditions : List Condition)
  deriving DecidableEq

namespace Selector

open Text (cut? pieces leadingInteger)

/-- What separates the conditions of a query: an ampersand as it stands in escaped content. -/
def separator : List Char := ['&', 'a', 'm', 'p', ';']

/-- The condition that a field's name and a value, divided by the first colon, write. -/
def readCondition (comparison : Comparison) (text : List Char) : Condition :=
  let (field, value) := (cut? [':'] text).getD (text, [])
  ⟨String.ofList field, comparison, String.ofList value⟩

/-- The conditions of a query, of which there is always one. -/
def readConditions (comparison : Comparison) (text : List Char) : List Condition :=
  (pieces separator (List.cons_ne_nil _ _) text).map (readCondition comparison)

/-- The selector that a text writes. A kind other than these two, or the id of no record, selects nothing. -/
def ofString? (comparison : Comparison) (text : String) : Option Selector :=
  let (kind, rest) := (cut? ['='] text.toList).getD (text.toList, [])
  if kind = ['i', 'd'] then
    let id : RecordId := ⟨leadingInteger rest⟩
    if id = .unresolved then none else some (.byId id)
  else if kind = ['q', 'u', 'e', 'r', 'y'] then some (.byQuery (readConditions comparison rest))
  else none

end Selector

/-- A query that matched no record, or several. -/
inductive Unresolved where
  | noRecord
  | severalRecords (count : Nat)
  deriving DecidableEq

/-- An outcome that names no record, in words. -/
def Unresolved.message : Unresolved → String
  | .noRecord => "query matched no record"
  | .severalRecords count => "query matched " ++ toString count ++ " records"

/-- The outcome of distinct ids. -/
def outcomeOf : List RecordId → Except Unresolved RecordId
  | [] => .error .noRecord
  | [id] => .ok id
  | ids => .error (.severalRecords ids.length)

/-- The one record that a selector names in a source. -/
def Source.resolve {ε : Type} (source : Source ε) : Selector → Except ε (Except Unresolved RecordId)
  | .byId id => .ok (.ok (source.byId id))
  | .byQuery conditions =>
    match Filter.chain conditions with
    | none => .ok (.error .noRecord)
    | some filter => (source.query filter).map fun ids => outcomeOf (RecordId.ascending ids)

end RecordFill

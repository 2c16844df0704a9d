import RecordFill.Text.Numeral
import RecordFill.Text.Search

namespace RecordFill

/-- What a decoder asks for: a value without parts, a list whose items have a shape, or a record whose fields have
shapes under one or more spellings of their names. -/
inductive Shape where
  | scalar
  | list (item : Shape)
  | record (fields : List (List String × Shape))

/-- The spellings of the names of a record's fields. -/
def Shape.names : Shape → List (List String)
  | .record fields => fields.map (·.1)
  | _ => []

/-- The parts of a record: under names, or in the order of the record's fields. -/
inductive Parts (ν : Type) where
  | named (parts : List (String × ν))
  | inOrder (parts : List ν)

/-- A switch may be a truth value, a number or a text. -/
inductive Switch where
  | truth (value : Bool)
  | number (value : Int64)
  | text (value : String)

/-- A number is on unless it is zero. A text is on if it is the word "true" in any case, or else if the number
that it begins with is. -/
def Switch.isOn : Switch → Bool
  | .truth value => value
  | .number value => value ≠ 0
  | .text value =>
    (Text.trim value.toList).map Char.toLower = ['t', 'r', 'u', 'e'] || Text.leadingInteger value.toList ≠ 0

/-- A number as a switch, if it has at most 64 bits. -/
def switchNumber? (number : Int) : Option Switch :=
  (Text.int64? number).map .number

/-- What a decoder may ask of a value. -/
class Datum (ν : Type) where
  /-- The text of the value. -/
  text? : ν → Option String
  /-- The unsigned number of the value, however large. -/
  natural? : ν → Option Nat
  /-- The signed number of the value, however large. -/
  integer? : ν → Option Int
  /-- The items of the value. -/
  items? : ν → Option (List ν)
  /-- The parts of the value as a record. -/
  parts? : ν → Option (Parts ν)
  /-- The name that the value gives to one of several alternatives without parts. -/
  alternative? : ν → Option String
  /-- The value as a switch. -/
  switch? : ν → Option Switch
  /-- Whether the value says that there is none. -/
  absent? : ν → Option Bool

namespace Datum

variable {ν : Type} [Datum ν]

def unsigned? (value : ν) : Option UInt64 := do
  let number ← natural? value
  if number < UInt64.size then return UInt64.ofNat number else none

def signed? (value : ν) : Option Int64 := do
  Text.int64? (← integer? value)

/-- The list of values that all have the shape asked for. -/
def list? {α : Type} (decode : ν → Option α) (value : ν) : Option (List α) := do
  (← items? value).mapM decode

/-- The value of one of several alternatives. -/
def choice? {α : Type} (alternatives : List (String × α)) (value : ν) : Option α := do
  alternatives.lookup (← alternative? value)

/-- The part under any of the spellings of one name, which may be missing but may not be given twice. -/
def part? (parts : List (String × ν)) (spellings : List String) : Option (Option ν) :=
  match parts.filter fun part => spellings.contains part.1 with
  | [] => some none
  | [part] => some (some part.2)
  | _ => none

/-- The parts of a record for its fields, in their order. Parts under other names are passed over; parts in order
may end early but may not go on after the last field. -/
def fields? (shape : Shape) (value : ν) : Option (List (Option ν)) := do
  match ← parts? value with
  | .named parts => shape.names.mapM (part? parts)
  | .inOrder parts =>
    if parts.length ≤ shape.names.length then
      return parts.map some ++ List.replicate (shape.names.length - parts.length) none
    else none

/-- The decoded part, or what stands for a missing one. -/
def withDefault {α : Type} (default : α) (decode : ν → Option α) (part : Option ν) : Option α :=
  part.elim (some default) decode

/-- The decoded value, unless it says that there is none. -/
def optional? {α : Type} (decode : ν → Option α) (value : ν) : Option (Option α) := do
  if ← absent? value then return none else return some (← decode value)

end Datum

end RecordFill

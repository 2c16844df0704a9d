import RecordFill.Datum
import RecordFill.Json.Text

namespace RecordFill.Json

def Content.text? : Content → Option String
  | .text characters => some characters
  | .illFormed _ => none

namespace Value

/-- Only strings are texts. -/
def text? : Value → Option String
  | .scalar (.string content) => content.text?
  | _ => none

/-- Only integers are numbers. -/
def integer? : Value → Option Int
  | .scalar (.integer number) => some number
  | _ => none

/-- Integers that are not negative are unsigned. -/
def natural? (value : Value) : Option Nat := do
  let number ← value.integer?
  if 0 ≤ number then return number.toNat else none

/-- Only arrays are lists. -/
def items? : Value → Option (List Value)
  | .array items => some items
  | _ => none

/-- The members under keys that are texts, or the items in order. -/
def parts? : Value → Option (Parts Value)
  | .object members => do
    return .named (← members.mapM fun (key, value) => do return (← key.text?, value))
  | .array items => some (.inOrder items)
  | _ => none

/-- A string, or the only key of an object over null. -/
def alternative? : Value → Option String
  | .scalar (.string content) => content.text?
  | .object [(key, .scalar .null)] => key.text?
  | _ => none

/-- A truth value, an integer of 64 bits or a string. -/
def switch? : Value → Option Switch
  | .scalar (.bool value) => some (.truth value)
  | .scalar (.integer number) => switchNumber? number
  | .scalar (.string content) => content.text?.map .text
  | _ => none

/-- Null says that there is no value. -/
def absent? : Value → Option Bool
  | .scalar .null => some true
  | _ => some false

end Value

instance : Datum Value where
  text? := Value.text?
  natural? := Value.natural?
  integer? := Value.integer?
  items? := Value.items?
  parts? := Value.parts?
  alternative? := Value.alternative?
  switch? := Value.switch?
  absent? := Value.absent?

end RecordFill.Json

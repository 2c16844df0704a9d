import RecordFill.Datum
import RecordFill.Yaml.CoreSchema
import RecordFill.Yaml.Document

namespace RecordFill.Yaml

/-- A node of a document, in which it may refer to others. A document without content has none. -/
structure Value where
  document : Document
  node : Option Node

def Document.value (document : Document) : Value :=
  ⟨document, document.root⟩

/-- The tags of null, truth values, integers and floats. -/
def nullTag : TagBytes := commonTag "null"

@[inherit_doc nullTag] def boolTag : TagBytes := commonTag "bool"

@[inherit_doc nullTag] def intTag : TagBytes := commonTag "int"

@[inherit_doc nullTag] def floatTag : TagBytes := commonTag "float"

/-- The bytes after the exclamation mark that leads a local tag. -/
def localBytes? (tag : TagBytes) : Option TagBytes :=
  match tag with
  | [] => none
  | first :: rest => if [first] = bareTag then some rest else none

/-- The name of a local tag, if its bytes make up a text. -/
def localName? (tag : TagBytes) : Option String := do
  String.fromUTF8? ⟨(← localBytes? tag).toArray⟩

namespace Value

/-- The node that a value stands for; a reference stands for the node that it refers to. -/
def node? (value : Value) : Option Node := do
  match ← value.node with
  | .reference number => value.document.definition? number
  | node => some node

/-- Another node of the same document. -/
def sibling (value : Value) (node : Node) : Value :=
  { value with node := some node }

def isEmpty (value : Value) : Bool :=
  match value.node? with
  | none => value.node.isNone
  | some (.scalar _ style text) => style = .plain && text.isEmpty
  | some _ => false

/-- Every scalar is a text. -/
def text? (value : Value) : Option String :=
  match value.node? with
  | some (.scalar _ _ text) => some text
  | _ => none

/-- The text of a scalar that may be an integer: a plain one, or a literal one that is tagged as an integer. -/
def numeral? (value : Value) : Option (List Char) :=
  match value.node? with
  | some (.scalar tag style text) =>
    if style = .plain || (style = .literal && tag = some intTag) then some text.toList else none
  | _ => none

/-- The unsigned integer that a scalar writes. -/
def natural? (value : Value) : Option Nat := do
  CoreSchema.natural? (← value.numeral?)

/-- The signed integer that a scalar writes. -/
def integer? (value : Value) : Option Int := do
  CoreSchema.integer? (← value.numeral?)

def items? (value : Value) : Option (List Value) :=
  match value.node? with
  | some (.sequence items) => some (items.map value.sibling)
  | _ => if value.isEmpty then some [] else none

/-- The entries of a mapping under keys that are scalars. -/
def parts? (value : Value) : Option (Parts Value) :=
  match value.node? with
  | some (.mapping entries) => do
    return .named (← entries.mapM fun (key, node) => do return (← (value.sibling key).text?, value.sibling node))
  | _ => if value.isEmpty then some (.named []) else none

/-- The name of a local tag over nothing or null, or else the text of a scalar. -/
def alternative? (value : Value) : Option String :=
  match value.node? with
  | some (.scalar tag style text) =>
    match tag.bind localName? with
    | some name =>
      if style = .plain && (text.isEmpty || CoreSchema.isNull text) then some name else none
    | none => some text
  | _ => none

/-- What a plain text is by the core schema, where integers may have up to 128 bits but a switch only 64. -/
def plainSwitch? (text : String) : Option Switch :=
  let characters := text.toList
  if text.isEmpty || CoreSchema.isNull text then none
  else if let some value := CoreSchema.bool? text then some (.truth value)
  else if let some number := (CoreSchema.integer? characters).filter CoreSchema.isInteger128 then
    switchNumber? number
  else if CoreSchema.isFloat characters then none
  else some (.text text)

/-- A scalar is typed by its tag, or if it has none and is plain, by the core schema. A local tag without a name
counts as none, and other tags make a text. -/
def switch? (value : Value) : Option Switch :=
  match value.node? with
  | some (.scalar none style text) => if style = .plain then plainSwitch? text else some (.text text)
  | some (.scalar (some tag) style text) =>
    if (localName? tag).isSome || tag = nullTag || tag = floatTag then none
    else if tag = boolTag then (CoreSchema.bool? text).map .truth
    else if tag = intTag then (CoreSchema.integer? text.toList).bind switchNumber?
    else if (localBytes? tag).isSome && style = .plain then plainSwitch? text
    else some (.text text)
  | _ => none

/-- Nothing and null say that there is no value. A scalar tagged as null has to be spelled as null. -/
def absent? (value : Value) : Option Bool :=
  match value.node? with
  | some (.scalar none .plain text) => some (text.isEmpty || CoreSchema.isNull text)
  | some (.scalar (some tag) .plain text) =>
    if tag = nullTag then (if CoreSchema.isNull text then some true else none) else some false
  | some _ => some false
  | none => some value.node.isNone

end Value

instance : Datum Value where
  text? := Value.text?
  natural? := Value.natural?
  integer? := Value.integer?
  items? := Value.items?
  parts? := Value.parts?
  alternative? := Value.alternative?
  switch? := Value.switch?
  absent? := Value.absent?

end RecordFill.Yaml

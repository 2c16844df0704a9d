import Std.Data.HashMap.Basic

namespace RecordFill.Yaml

inductive Style where
  | plain
  | singleQuoted
  | doubleQuoted
  | literal
  | folded
  deriving DecidableEq

/-- The bytes of a tag. They need not make up a text, since escapes may write any bytes. -/
abbrev TagBytes := List UInt8

def TagBytes.ofString (tag : String) : TagBytes :=
  tag.toUTF8.toList

/-- A tag of the common schemas by its name. -/
def commonTag (name : String) : TagBytes :=
  .ofString ("tag:yaml.org,2002:" ++ name)

/-- A token. A tag has a handle, which stands for the beginning of the full tag, and the rest of it. -/
inductive Token where
  | version (major minor : Nat)
  | handle (handle : String) (beginning : TagBytes)
  | documentStart
  | documentEnd
  | blockSequence
  | blockMapping
  | blockEnd
  | openSequence
  | closeSequence
  | openMapping
  | closeMapping
  | entry
  | comma
  | key
  | value
  | reference (name : String)
  | anchor (name : String)
  | tag (handle : String) (suffix : TagBytes)
  | scalar (style : Style) (text : String)
  | textEnd
  deriving DecidableEq

/-- A node. A scalar may have a tag, and a reference holds the number that its anchor had where it stands. -/
inductive Node where
  | scalar (tag : Option TagBytes) (style : Style) (text : String)
  | sequence (items : List Node)
  | mapping (entries : List (Node × Node))
  | reference (number : Nat)

def Node.empty : Node := .scalar none .plain ""

/-- A node defined under an anchor, with the number of definitions that begin before it. -/
structure Definition where
  order : Nat
  node : Node

/-- Nodes by the numbers of their anchors. -/
abbrev Definitions := Std.HashMap Nat Definition

/-- The definitions with one more. Of several under one number, the one that begins last counts. -/
def Definitions.add (definitions : Definitions) (number : Nat) (definition : Definition) : Definitions :=
  match definitions[number]? with
  | some other => if other.order < definition.order then definitions.insert number definition else definitions
  | none => definitions.insert number definition

/-- What a document holds: its root and the nodes defined under anchors. A document without content has no
root. -/
structure Document where
  root : Option Node
  definitions : Definitions := {}

/-- The node defined under a number. -/
def Document.definition? (document : Document) (number : Nat) : Option Node :=
  (document.definitions[number]?).map (·.node)

end RecordFill.Yaml

import RecordFill.Command.Arguments
import RecordFill.Config.Basic
import RecordFill.Record

namespace RecordFill.Command

/-- What to render: the input and the data, and the settings that differ from those of a file. -/
structure Rendering where
  input : String
  data : String
  config : Option String
  styled : Bool
  classPrefix : Option String
  tag : Option String
  language : Option Language
  like : Bool
  context : Option String

/-- What to list: the fields of a record in the data, as JSON or as a table. -/
structure Listing where
  id : RecordId
  data : String
  json : Bool

/-- A command with what it is given. -/
inductive Invocation where
  | render (rendering : Rendering)
  | fields (listing : Listing)

/-- The name that stands for standard input. -/
def standardInput : String := "-"

/-- No file has an empty name. -/
def isPath (text : String) : Bool :=
  !text.isEmpty

def languageOf? (code : String) : Option Language :=
  [Language.english, .german].find? (·.code = code)

/-- The record id that decimal digits write after an optional sign. -/
def recordId? (text : String) : Option RecordId := do
  let (negative, digits) := Text.cutSign text.toList
  if digits.isEmpty || !digits.all Char.isDigit then none else
  let size : Int := Text.cappedMagnitude UInt64.size digits
  return ⟨← Text.int64? (if negative then -size else size)⟩

/-- The options of every command. -/
def commonFlags : List Flag :=
  [⟨"verbose", some 'v', .switch⟩, ⟨"help", some 'h', .help⟩]

/-- The options before a command. -/
def mainForm : Form where
  flags := ⟨"version", some 'V', .version⟩ :: commonFlags
  acceptsOperand _ := true

/-- The form of the command that renders. -/
def renderForm : Form where
  flags := [⟨"data", some 'd', .value isPath⟩, ⟨"config", some 'c', .value isPath⟩,
    ⟨"styling", none, .switch⟩, ⟨"prefix", none, .value fun _ => true⟩, ⟨"tag", none, .value fun _ => true⟩,
    ⟨"lang", none, .value fun code => (languageOf? code).isSome⟩, ⟨"like", none, .switch⟩,
    ⟨"context", none, .value fun _ => true⟩] ++ commonFlags
  acceptsOperand := isPath

/-- The form of the command that lists fields. -/
def fieldsForm : Form where
  flags := [⟨"data", some 'd', .value isPath⟩, ⟨"json", none, .switch⟩] ++ commonFlags
  acceptsOperand text := (recordId? text).isSome
  negativeOperand := true

/-- What is given to render. The data are needed, and without an input the standard one is rendered. -/
def rendering (arguments : List String) : Except Detour Rendering := do
  let given ← renderForm.read arguments
  let some data := given.option? "data" | .error .wrongUsage
  return {
    input := given.operand.getD standardInput
    data
    config := given.option? "config"
    styled := given.has "styling"
    classPrefix := given.option? "prefix"
    tag := given.option? "tag"
    language := (given.option? "lang").bind languageOf?
    like := given.has "like"
    context := given.option? "context" }

/-- What is given to list. The record and the data are needed. -/
def listing (arguments : List String) : Except Detour Listing := do
  let given ← fieldsForm.read arguments
  let some id := given.operand.bind recordId? | .error .wrongUsage
  let some data := given.option? "data" | .error .wrongUsage
  return { id, data, json := given.has "json" }

/-- The names of the commands, of which one calls for help. -/
def commands : List (String × (List String → Except Detour Invocation)) :=
  [("render", fun arguments => (rendering arguments).map .render),
    ("fields", fun arguments => (listing arguments).map .fields),
    ("help", fun arguments => .error (match arguments with
      | [] => .help
      | [name] => if ["render", "fields", "help"].contains name then .help else .wrongUsage
      | _ => .wrongUsage))]

/-- The command that the arguments name, after options that concern all of them. -/
def invocationAfter (given : Given) : List String → Except Detour Invocation
  | [] => .error .wrongUsage
  | argument :: rest => do
    let given ← given.add mainForm argument
    match given.operand with
    | none => if given.operandsOnly then .error .wrongUsage else invocationAfter given rest
    | some name =>
      match commands.lookup name with
      | some read => read rest
      | none => .error .wrongUsage

def invocation (arguments : List String) : Except Detour Invocation :=
  invocationAfter {} arguments

end RecordFill.Command

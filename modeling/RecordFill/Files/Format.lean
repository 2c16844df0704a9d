import RecordFill.Failure
import RecordFill.Json.Datum
import RecordFill.Text.Search
import RecordFill.Yaml.Datum
import RecordFill.Yaml.References

namespace RecordFill.Path

/-- The names along a path; slashes at the end and before one another leave empty ones. -/
def names (path : List Char) : List (List Char) :=
  Text.pieces ['/'] (List.cons_ne_nil _ _) path

/-- Whether a name stands for the place where it is met. -/
def isHere (name : List Char) : Bool :=
  name = [] || name = ['.']

/-- The name of a file, which is the last one that stands for another place. -/
def fileName? (path : List Char) : Option (List Char) :=
  ((names path).filter fun name => !isHere name).getLast?.filter (· ≠ ['.', '.'])

/-- What follows the last point of a file's name, unless the point begins the name. -/
def extension? (path : List Char) : Option (List Char) := do
  let name ← fileName? path
  let reversed := name.reverse
  let ending := reversed.takeWhile (· ≠ '.')
  let stem := reversed.drop (ending.length + 1)
  if stem.isEmpty then none else return ending.reverse

example : extension? "a/.b/c.d.json/".toList = some "json".toList ∧ extension? ".yaml".toList = none := by
  decide +kernel

end RecordFill.Path

namespace RecordFill

inductive DataFormat where
  | json
  | yaml
  deriving DecidableEq

namespace DataFormat

/-- The endings of the names of data files. -/
def endings : List (String × DataFormat) :=
  [("json", .json), ("yaml", .yaml), ("yml", .yaml)]

/-- The format of a file by its name. -/
def ofPath? (path : String) : Option DataFormat := do
  endings.lookup (String.ofList (← Path.extension? path.toList))

def name : DataFormat → String
  | .json => "JSON"
  | .yaml => "YAML"

/-- What a text in the format decodes to, for a decoder that asks for a shape. -/
def decode? {α : Type} (shape : Shape) (decode : (ν : Type) → [Datum ν] → ν → Option α) (source : String) :
    DataFormat → Option α
  | .json => (Json.Value.read? source).bind (decode Json.Value)
  | .yaml => do
    let document ← Yaml.Document.read? source
    if document.permits shape then decode Yaml.Value document.value else none

end DataFormat

/-- What a data file is read for: the records of a store, or settings. -/
inductive Purpose where
  | store
  | config
  deriving DecidableEq

/-- A data file that cannot be read, has no known format, or does not hold what its format and its purpose ask
for. -/
inductive FileError where
  | unreadable (path : String) (trouble : FileTrouble)
  | unsupported (path : String)
  | malformed (format : DataFormat)
  deriving DecidableEq

namespace FileError

/-- The purposes, as they qualify a file. -/
def fileOf : Purpose → String
  | .store => "store file"
  | .config => "config file"

/-- The purposes, as they qualify a text. -/
def textOf : Purpose → String
  | .store => "store data"
  | .config => "config"

/-- The failure names the purpose. -/
def message (purpose : Purpose) : FileError → String
  | .unreadable path trouble => "failed to read " ++ fileOf purpose ++ " " ++ path ++ ": " ++ trouble.message
  | .unsupported path => "unsupported " ++ fileOf purpose ++ " format: " ++ path
  | .malformed format => "invalid " ++ format.name ++ " " ++ textOf purpose

/-- What made the file unreadable. -/
def causes : FileError → List String
  | .unreadable _ trouble => [trouble.message]
  | .unsupported _ | .malformed _ => []

end FileError

/-- The text and the format of a data file. The file is read before its name is looked at. -/
def dataFile (path : String) (contents : Except FileTrouble ByteArray) :
    Except FileError (DataFormat × String) := do
  let source ← (contents.bind textOfBytes).mapError (.unreadable path)
  match DataFormat.ofPath? path with
  | some format => return (format, source)
  | none => .error (.unsupported path)

end RecordFill

import RecordFill.Datum
import RecordFill.Files.Format
import RecordFill.Json.Value
import RecordFill.Record
import RecordFill.Store.Dataset

namespace RecordFill

open Json (Value)

/-- A record id is a signed number. -/
def RecordId.ofDatum? {ν : Type} [Datum ν] (value : ν) : Option RecordId :=
  (Datum.signed? value).map RecordId.mk

def RecordId.toJson (id : RecordId) : Value :=
  .ofInt id.number.toInt

def Row.shape : Shape :=
  .record [(["name"], .scalar), (["title"], .scalar), (["value"], .scalar)]

/-- A row needs all of its fields. -/
def Row.ofDatum? {ν : Type} [Datum ν] (value : ν) : Option Row := do
  match ← Datum.fields? Row.shape value with
  | [some name, some title, some content] =>
    return ⟨← Datum.text? name, ← Datum.text? title, ← Datum.text? content⟩
  | _ => none

def Row.toJson (row : Row) : Value :=
  .ofMembers [("name", .ofText row.name), ("title", .ofText row.title), ("value", .ofText row.value)]

def Field.shape : Shape :=
  .record [(["id"], .scalar), (["name"], .scalar), (["title"], .scalar)]

/-- A definition needs its id and its name. -/
def Field.ofDatum? {ν : Type} [Datum ν] (value : ν) : Option Field := do
  match ← Datum.fields? Field.shape value with
  | [some id, some name, title] =>
    return ⟨← Datum.unsigned? id, ← Datum.text? name, ← Datum.withDefault "" Datum.text? title⟩
  | _ => none

def Field.toJson (field : Field) : Value :=
  .ofMembers [("id", .ofInt field.id.toNat), ("name", .ofText field.name), ("title", .ofText field.title)]

def Entry.shape : Shape :=
  .record [(["item_id"], .scalar), (["field_id"], .scalar), (["value"], .scalar)]

/-- A value needs its record, its field and its text. -/
def Entry.ofDatum? {ν : Type} [Datum ν] (value : ν) : Option Entry := do
  match ← Datum.fields? Entry.shape value with
  | [some record, some field, some content] =>
    return ⟨← RecordId.ofDatum? record, ← Datum.unsigned? field, ← Datum.text? content⟩
  | _ => none

def Entry.toJson (entry : Entry) : Value :=
  .ofMembers [("item_id", entry.record.toJson), ("field_id", .ofInt entry.field.toNat),
    ("value", .ofText entry.value)]

namespace Dataset

def shape : Shape :=
  .record [(["fields"], .list Field.shape), (["values"], .list Entry.shape)]

/-- A dataset whose names may still repeat. -/
def ofDatum? {ν : Type} [Datum ν] (value : ν) : Option Dataset := do
  match ← Datum.fields? shape value with
  | [fields, entries] =>
    return ⟨← Datum.withDefault [] (Datum.list? Field.ofDatum?) fields,
      ← Datum.withDefault [] (Datum.list? Entry.ofDatum?) entries⟩
  | _ => none

def toJson (dataset : Dataset) : Value :=
  .ofMembers [("fields", .array (dataset.fields.map Field.toJson)),
    ("values", .array (dataset.entries.map Entry.toJson))]

end Dataset

/-- A dataset that cannot be read, or that defines a name twice. -/
inductive DatasetError where
  | file (error : FileError)
  | repeatedName (name : String)
  deriving DecidableEq

def DatasetError.message : DatasetError → String
  | .file error => error.message .store
  | .repeatedName name => "field name '" ++ name ++ "' is defined more than once"

instance : Failure DatasetError where
  message := DatasetError.message
  causes
    | .file error => error.causes
    | .repeatedName _ => []

namespace Dataset

/-- The dataset itself, unless one of its names is defined twice. -/
def validated (dataset : Dataset) : Except DatasetError Dataset :=
  match dataset.repeatedName? with
  | some name => .error (.repeatedName name)
  | none => .ok dataset

/-- The dataset that a text writes. -/
def ofSource (format : DataFormat) (source : String) : Except DatasetError Dataset :=
  match format.decode? shape (fun _ => Dataset.ofDatum?) source with
  | some dataset => dataset.validated
  | none => .error (.file (.malformed format))

/-- The dataset in a file with the given contents. -/
def ofFile (path : String) (contents : Except FileTrouble ByteArray) : Except DatasetError Dataset := do
  let (format, source) ← (dataFile path contents).mapError .file
  ofSource format source

end Dataset

end RecordFill

import RecordFill.Config.Basic
import RecordFill.Datum
import RecordFill.Files.Format
import RecordFill.Json.Value

namespace RecordFill

open Json (Value)

/-- The short names of the comparisons, of which equality has two. -/
def Comparison.ofDatum? {ν : Type} [Datum ν] (value : ν) : Option Comparison :=
  Datum.choice? [("eq", .equal), ("exact", .equal), ("like", .like)] value

/-- A language is given by its code. -/
def Language.ofDatum? {ν : Type} [Datum ν] (value : ν) : Option Language :=
  Datum.choice? [("en", .english), ("de", .german)] value

def Messages.shape : Shape :=
  .record [(["not_unique"], .scalar), (["no_record"], .scalar)]

/-- A text that is missing is the English one. -/
def Messages.ofDatum? {ν : Type} [Datum ν] (value : ν) : Option Messages := do
  let default := Messages.ofLanguage .english
  match ← Datum.fields? Messages.shape value with
  | [severalRecords, noRecord] =>
    return ⟨← Datum.withDefault default.severalRecords Datum.text? severalRecords,
      ← Datum.withDefault default.noRecord Datum.text? noRecord⟩
  | _ => none

def Messages.toJson (messages : Messages) : Value :=
  .ofMembers [("not_unique", .ofText messages.severalRecords), ("no_record", .ofText messages.noRecord)]

namespace Config

/-- The shape of settings, one of which has two names. -/
def shape : Shape :=
  .record [(["tag"], .scalar), (["css_prefix", "prefix_class"], .scalar), (["use_css_styling"], .scalar),
    (["match_mode"], .scalar), (["contexts"], .list .scalar), (["language"], .scalar),
    (["messages"], Messages.shape)]

/-- The settings given by a value. -/
def ofDatum? {ν : Type} [Datum ν] (value : ν) : Option Config := do
  let default : Config := {}
  match ← Datum.fields? shape value with
  | [tag, classPrefix, styled, comparison, contexts, language, messages] =>
    return {
      tag := ← Datum.withDefault default.tag Datum.text? tag
      classPrefix := ← Datum.withDefault default.classPrefix Datum.text? classPrefix
      styled := ← Datum.withDefault default.styled (fun value => (Datum.switch? value).map Switch.isOn) styled
      comparison := ← Datum.withDefault default.comparison Comparison.ofDatum? comparison
      contexts := ← Datum.withDefault default.contexts (Datum.list? Datum.text?) contexts
      language := ← Datum.withDefault default.language Language.ofDatum? language
      messages := ← Datum.withDefault default.messages (Datum.optional? Messages.ofDatum?) messages }
  | _ => none

def toJson (config : Config) : Value :=
  .ofMembers [("tag", .ofText config.tag), ("css_prefix", .ofText config.classPrefix),
    ("use_css_styling", .ofBool config.styled), ("match_mode", .ofText config.comparison.name),
    ("contexts", .array (config.contexts.map .ofText)), ("language", .ofText config.language.code),
    ("messages", config.messages.elim .null Messages.toJson)]

end Config

/-- Settings that cannot be read. -/
structure ConfigError where
  file : FileError
  deriving DecidableEq

def ConfigError.message (error : ConfigError) : String :=
  error.file.message .config

instance : Failure ConfigError where
  message := ConfigError.message
  causes error := error.file.causes

namespace Config

/-- The settings that a text writes. -/
def ofSource (format : DataFormat) (source : String) : Except ConfigError Config :=
  if format = .yaml && source.toList.all Text.isBlank then .ok {}
  else
    match format.decode? shape (fun _ => Config.ofDatum?) source with
    | some config => .ok config
    | none => .error ⟨.malformed format⟩

/-- The settings in a file with the given contents. -/
def ofFile (path : String) (contents : Except FileTrouble ByteArray) : Except ConfigError Config := do
  let (format, source) ← (dataFile path contents).mapError ConfigError.mk
  ofSource format source

end Config

end RecordFill

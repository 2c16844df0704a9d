import RecordFill.Selector
import RecordFill.Template
import RecordFill.Text.Search

namespace RecordFill

/-- The languages with texts of their own. -/
inductive Language where
  | english
  | german
  deriving DecidableEq

def Language.code : Language → String
  | .english => "en"
  | .german => "de"

/-- The texts for a query that matches several records and for one that matches none. -/
structure Messages where
  severalRecords : String
  noRecord : String
  deriving DecidableEq

namespace Messages

/-- What stands for the number of records in a text. -/
def countMark : List Char :=
  ['{', 'c', 'o', 'u', 'n', 't', '}']

/-- The texts of a language. -/
def ofLanguage : Language → Messages
  | .english => ⟨"The query is not unique: \x7bcount\x7d records found.", "No record found for the query."⟩
  | .german =>
    ⟨"Die Abfrage ist nicht eindeutig: \x7bcount\x7d Datensätze gefunden.",
      "Zu der Abfrage wurde kein Datensatz gefunden."⟩

/-- The text for an outcome, with every mark replaced by the number of records. -/
def diagnostic (messages : Messages) : Unresolved → String
  | .noRecord => messages.noRecord
  | .severalRecords count =>
    String.ofList (Text.replace countMark (List.cons_ne_nil _ _) (toString count).toList
      messages.severalRecords.toList)

end Messages

/-- The settings of a renderer. -/
structure Config where
  /-- The name of the tag around a region. -/
  tag : String := "wickedteamcontactinfo"
  /-- How the class names of styled elements begin. -/
  classPrefix : String := "wci_"
  /-- Whether regions and fields are wrapped in elements. -/
  styled : Bool := false
  /-- How the conditions of a query compare values. -/
  comparison : Comparison := .equal
  /-- The contexts in which content is rendered. -/
  contexts : List String := ["com_content.article", "mod_custom.content"]
  /-- The language of the diagnostics. -/
  language : Language := .english
  /-- The diagnostics in place of the language's own. -/
  messages : Option Messages := none
  deriving DecidableEq

namespace Config

/-- The diagnostics given, or else those of the language. -/
def diagnostics (config : Config) : Messages :=
  config.messages.getD (.ofLanguage config.language)

/-- The styling that the settings ask for. -/
def styling (config : Config) : Styling :=
  ⟨config.classPrefix, config.styled⟩

/-- Whether content is rendered in a context. -/
def handles (config : Config) (context : String) : Bool :=
  config.contexts.contains context

end Config

end RecordFill

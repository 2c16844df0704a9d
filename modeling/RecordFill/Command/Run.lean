import RecordFill.Command.Invocation
import RecordFill.Config.Load
import RecordFill.Json.Text
import RecordFill.Record
import RecordFill.Renderer
import RecordFill.Store.Load

namespace RecordFill.Command

/-- A text followed by blanks up to a number of characters. -/
def pad (width : Nat) (text : String) : String :=
  text ++ String.ofList (List.replicate (width - text.length) ' ')

/-- The width of a column: the most bytes that one of its texts takes, which is never less than the most
characters. -/
def columnWidth (texts : List String) : Nat :=
  texts.foldl (fun width text => max width text.utf8ByteSize) 0

/-- The line of a row in columns of the given widths. -/
def line (names titles : Nat) (row : Row) : String :=
  pad names row.name ++ "  " ++ pad titles row.title ++ "  " ++ row.value ++ "\n"

def table (rows : List Row) : String :=
  let names := columnWidth (rows.map (·.name))
  let titles := columnWidth (rows.map (·.title))
  String.join (rows.map (line names titles))

/-- What a command may read: files by their paths, and standard input. -/
structure Surroundings (m : Type → Type) where
  file : String → m (Except FileTrouble ByteArray)
  input : m (Except FileTrouble ByteArray)

/-- The messages of a failure, outermost first. -/
abbrev Report := List String

/-- A failure with what was being done when it happened. -/
def during {ε α : Type} [Failure ε] (doing : String) (result : Except ε α) : Except Report α :=
  result.mapError fun failure => doing :: Failure.chain failure

variable {m : Type → Type} [Monad m] (surroundings : Surroundings m)

/-- The dataset in a file. -/
def loadData (path : String) : ExceptT Report m Dataset := do
  let contents ← surroundings.file path
  during ("failed to load data " ++ path) (Dataset.ofFile path contents)

/-- The settings in a file, and without a file the defaults. -/
def loadConfig : Option String → ExceptT Report m Config
  | none => return {}
  | some path => do
    let contents ← surroundings.file path
    during ("failed to load config " ++ path) (Config.ofFile path contents)

/-- The text to be rendered. -/
def readInput (path : String) : ExceptT Report m String := do
  if path = standardInput then
    during "failed to read stdin" ((← surroundings.input).bind textOfBytes)
  else
    during ("failed to read " ++ path) ((← surroundings.file path).bind textOfBytes)

/-- The settings of a file as the options change them. -/
def Rendering.override (rendering : Rendering) (config : Config) : Config where
  tag := rendering.tag.getD config.tag
  classPrefix := rendering.classPrefix.getD config.classPrefix
  styled := rendering.styled || config.styled
  comparison := if rendering.like then .like else config.comparison
  contexts := config.contexts
  language := rendering.language.getD config.language
  messages := config.messages

/-- The rendered text: all of it, or in a context only where the settings handle that. -/
def Rendering.text [RegexCompiler] {ε : Type} (rendering : Rendering) (renderer : Renderer ε) (text : String) :
    Except ε String :=
  match rendering.context with
  | none => renderer.render text
  | some context =>
    let (result, content) := (renderer.prepare context).run text
    result.map fun _ => content

/-- Renders the input. -/
def render [RegexCompiler] (rendering : Rendering) : ExceptT Report m String := do
  let dataset ← loadData surroundings rendering.data
  let config ← loadConfig surroundings rendering.config
  let text ← readInput surroundings rendering.input
  let renderer ← during "failed to set up renderer"
    ((Renderer.ofConfig dataset.source (rendering.override config)).mapError (RenderError.tag (ε := QueryError)))
  during "failed to render content" ((rendering.text renderer text).mapError RenderError.source)

/-- Lists the fields of a record. -/
def fields [RegexCompiler] (listing : Listing) : ExceptT Report m String := do
  let dataset ← loadData surroundings listing.data
  let record ← during ("failed to fetch record " ++ listing.id.decimal)
    ((dataset.source.record listing.id).mapError RenderError.source)
  if listing.json then
    return (Json.Value.array (record.rows.map Row.toJson)).toText .indented ++ "\n"
  else return table record.rows

/-- What a call of the program comes to. -/
inductive Outcome where
  | printed (text : String)
  | failed (report : Report)
  | help
  | wrongUsage

def versionLine : String := "contactinfo 0.1.0\n"

/-- The outcome of a call with arguments. -/
def run [RegexCompiler] (arguments : List String) : m Outcome := do
  match invocation arguments with
  | .error .help => return .help
  | .error .version => return .printed versionLine
  | .error .wrongUsage => return .wrongUsage
  | .ok (.render rendering) => finish <$> (render surroundings rendering).run
  | .ok (.fields listing) => finish <$> (fields surroundings listing).run
where
  finish : Except Report String → Outcome
    | .ok text => .printed text
    | .error report => .failed report

namespace Outcome

def exitCode : Outcome → UInt8
  | .printed _ | .help => 0
  | .failed _ => 1
  | .wrongUsage => 2

/-- What a call prints; help and usage are described elsewhere. -/
def standardOutput : Outcome → String
  | .printed text => text
  | _ => ""

/-- What a call says about its failure. -/
def standardError : Outcome → String
  | .failed report => "Error: " ++ ": ".intercalate report
  | _ => ""

end Outcome

end RecordFill.Command

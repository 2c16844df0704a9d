namespace RecordFill

/-- A failure has a message, and below it the messages of its causes, nearest first. -/
class Failure (ε : Type) where
  message : ε → String
  causes : ε → List String

/-- The message of a failure and those of its causes. -/
def Failure.chain {ε : Type} [Failure ε] (failure : ε) : List String :=
  Failure.message failure :: Failure.causes failure

/-- The most bytes that a compiled expression may take. -/
def patternLimit : Nat := 10485760

/-- An expression is refused when its compiled form exceeds the limit. -/
inductive PatternError where
  | tooLarge
  deriving DecidableEq

def PatternError.message : PatternError → String
  | .tooLarge => "Compiled regex exceeds size limit of " ++ toString patternLimit ++ " bytes."

instance : Failure PatternError where
  message := PatternError.message
  causes _ := []

/-- What compiles regular expressions. All that the program minds of a compiled form is the bytes that it takes. -/
class RegexCompiler where
  compiledBytes : List Char → Nat

namespace RegexCompiler

/-- An expression is compiled before it is used, unless that takes too many bytes. -/
def compile [RegexCompiler] (expression : List Char) : Except PatternError Unit :=
  if compiledBytes expression ≤ patternLimit then .ok () else .error .tooLarge

/-- The bytes of a literal, and of a point in an expression. Under a flag that ignores case literals take more. -/
def partBytes (caseless : Bool) (c : Char) : Nat :=
  if c = '.' then 416 else if caseless then 80 else 32 * c.utf8Size

/-- An estimate to run the program with. What is proved of the program holds for every compiler. -/
instance estimate : RegexCompiler where
  compiledBytes expression :=
    let caseless := ['(', '?', 'i'].isPrefixOf expression
    expression.foldl (fun bytes c => bytes + partBytes caseless c) 0

end RegexCompiler

/-- The reasons for which a file cannot be read as a text. -/
inductive FileTrouble where
  | missing
  | directory
  | notDirectory
  | notText
  | other (reason : String) (code : Nat)
  deriving DecidableEq

/-- A reason that the system gives names its number. -/
def FileTrouble.message : FileTrouble → String
  | .missing => "No such file or directory (os error 2)"
  | .directory => "Is a directory (os error 21)"
  | .notDirectory => "Not a directory (os error 20)"
  | .notText => "stream did not contain valid UTF-8"
  | .other reason code => reason ++ " (os error " ++ toString code ++ ")"

instance : Failure FileTrouble where
  message := FileTrouble.message
  causes _ := []

/-- The text that bytes write in UTF-8. -/
def textOfBytes (bytes : ByteArray) : Except FileTrouble String :=
  match String.fromUTF8? bytes with
  | some text => .ok text
  | none => .error .notText

end RecordFill

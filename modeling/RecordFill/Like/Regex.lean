import RecordFill.Failure

namespace RecordFill.Like

/-- A pattern is read as a sequence of pieces. -/
inductive Piece where
  | anyRun
  | anyOne
  | literal (c : Char)
  deriving DecidableEq

/-- The pieces of a pattern after those already read, latest first. -/
def readAfter (done : List Piece) : List Char → List Piece
  | [] => done.reverse
  | ['\\'] => (.literal '\\' :: done).reverse
  | '\\' :: escaped :: rest => readAfter (.literal escaped :: done) rest
  | '%' :: rest => readAfter (.anyRun :: done) rest
  | '_' :: rest => readAfter (.anyOne :: done) rest
  | c :: rest => readAfter (.literal c :: done) rest

/-- The pieces of a pattern; a backslash at its end stands for itself. -/
def read (pattern : List Char) : List Piece :=
  readAfter [] pattern

example : read "a\\%%_\\".toList = [.literal 'a', .literal '%', .anyRun, .anyOne, .literal '\\'] := by decide

/-- The characters that mean something else in a regular expression than themselves. -/
def metacharacters : List Char :=
  ['\\', '.', '+', '*', '?', '(', ')', '|', '[', ']', '\x7b', '\x7d', '^', '$', '#', '&', '-', '~']

/-- A backslash stands before a metacharacter and before nothing else. -/
def escape (c : Char) : List Char :=
  if metacharacters.contains c then ['\\', c] else [c]

/-- The expression of one piece. -/
def Piece.regex : Piece → List Char
  | .anyRun => ['.', '*']
  | .anyOne => ['.']
  | .literal c => escape c

/-- The expression of a pattern, under flags that ignore case and let a point take a line break. -/
def regex (pattern : List Char) : List Char :=
  "(?is)^".toList ++ (read pattern).flatMap Piece.regex ++ ['$']

example : regex "50\\%_%".toList = "(?is)^50%..*$".toList := by decide

/-- A pattern whose expression is compiled. -/
structure Pattern where
  pieces : List Piece

/-- The pattern that a text writes, unless its expression is refused. -/
def Pattern.ofString [RegexCompiler] (text : String) : Except PatternError Pattern :=
  (RegexCompiler.compile (regex text.toList)).map fun _ => ⟨read text.toList⟩

end RecordFill.Like

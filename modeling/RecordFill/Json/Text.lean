import RecordFill.Json.Token

namespace RecordFill.Json

/-- How a value is laid out. -/
inductive Layout where
  | compact
  | indented

/-- What begins a new item inside as many arrays and objects. -/
def Layout.lineStart (depth : Nat) : Layout → List Char
  | .compact => []
  | .indented => '\n' :: List.replicate (2 * depth) ' '

def Layout.colon : Layout → List Char
  | .compact => [':']
  | .indented => [':', ' ']

def Scalar.print : Scalar → List Char
  | .null => ['n', 'u', 'l', 'l']
  | .bool true => ['t', 'r', 'u', 'e']
  | .bool false => ['f', 'a', 'l', 's', 'e']
  | .integer value => (toString value).toList
  | .float spelling => spelling.toList
  | .string content => content.quoted

mutual

/-- A value as it is written inside as many arrays and objects. -/
def Value.print (layout : Layout) (depth : Nat) : Value → List Char
  | .scalar scalar => scalar.print
  | .array [] => ['[', ']']
  | .array (first :: rest) =>
    '[' :: layout.lineStart (depth + 1) ++ first.print layout (depth + 1) ++
      printItems layout (depth + 1) rest ++ layout.lineStart depth ++ [']']
  | .object [] => ['{', '}']
  | .object ((key, value) :: rest) =>
    '{' :: layout.lineStart (depth + 1) ++ key.quoted ++ layout.colon ++ value.print layout (depth + 1) ++
      printMembers layout (depth + 1) rest ++ layout.lineStart depth ++ ['}']

/-- The items after the first one. -/
def printItems (layout : Layout) (depth : Nat) : List Value → List Char
  | [] => []
  | item :: rest => ',' :: layout.lineStart depth ++ item.print layout depth ++ printItems layout depth rest

/-- The members after the first one. -/
def printMembers (layout : Layout) (depth : Nat) : List (Content × Value) → List Char
  | [] => []
  | (key, value) :: rest =>
    ',' :: layout.lineStart depth ++ key.quoted ++ layout.colon ++ value.print layout depth ++
      printMembers layout depth rest

end

def Value.toText (layout : Layout) (value : Value) : String :=
  String.ofList (value.print layout 0)

/-- An array or object whose next item or member value is being read, with the earlier ones, latest first. -/
inductive Frame where
  | item (done : List Value)
  | member (done : List (Content × Value)) (key : Content)

/-- What may come next, inside the open frames. -/
inductive Expected where
  | anyValue (frames : List Frame)
  | firstItem (frames : List Frame)
  | firstKey (frames : List Frame)
  | nextKey (done : List (Content × Value)) (frames : List Frame)
  | colonAfter (done : List (Content × Value)) (key : Content) (frames : List Frame)
  | afterItem (done : List Value) (frames : List Frame)
  | afterMember (done : List (Content × Value)) (frames : List Frame)
  | nothing (value : Value)

namespace Expected

/-- A finished value goes to the innermost frame, or is the whole. -/
def deliver (value : Value) : List Frame → Expected
  | [] => .nothing value
  | .item done :: frames => .afterItem (value :: done) frames
  | .member done key :: frames => .afterMember ((key, value) :: done) frames

/-- A token begins a value. -/
def begin? (frames : List Frame) : Token → Option Expected
  | .scalar scalar => some (deliver (.scalar scalar) frames)
  | .openArray => some (.firstItem frames)
  | .openObject => some (.firstKey frames)
  | _ => none

/-- What may come after one more token. -/
def step? : Expected → Token → Option Expected
  | .anyValue frames, token => begin? frames token
  | .firstItem frames, .closeArray => some (deliver (.array []) frames)
  | .firstItem frames, token => begin? (.item [] :: frames) token
  | .firstKey frames, .closeObject => some (deliver (.object []) frames)
  | .firstKey frames, .scalar (.string key) => some (.colonAfter [] key frames)
  | .nextKey done frames, .scalar (.string key) => some (.colonAfter done key frames)
  | .colonAfter done key frames, .colon => some (.anyValue (.member done key :: frames))
  | .afterItem done frames, .comma => some (.anyValue (.item done :: frames))
  | .afterItem done frames, .closeArray => some (deliver (.array done.reverse) frames)
  | .afterMember done frames, .comma => some (.nextKey done frames)
  | .afterMember done frames, .closeObject => some (deliver (.object done.reverse) frames)
  | _, _ => none

end Expected

/-- The value that tokens write. -/
def Value.ofTokens? (tokens : List Token) : Option Value :=
  match tokens.foldlM Expected.step? (.anyValue []) with
  | some (.nothing value) => some value
  | _ => none

def Value.read? (text : String) : Option Value := do
  Value.ofTokens? (← Token.read? text.toList)

end RecordFill.Json

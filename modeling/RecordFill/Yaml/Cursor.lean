import RecordFill.Text.Search

namespace RecordFill.Yaml

/-- The characters that end a line. -/
def isLineBreak (c : Char) : Bool :=
  c = '\n' || c = '\r' || c = '\x85' || c = '\u2028' || c = '\u2029'

/-- The characters that separate words within a line. -/
def isSpacing (c : Char) : Bool :=
  c = ' ' || c = '\t'

/-- A line ends at a line break and at the end of the text. -/
def endsLine (next : Option Char) : Bool :=
  next.all isLineBreak

/-- A word ends at a space, a tab, a line break and the end of the text. -/
def endsWord (next : Option Char) : Bool :=
  next.all fun c => isSpacing c || isLineBreak c

/-- The characters that may stand in a YAML text. -/
def isAllowed (c : Char) : Bool :=
  let code := c.toNat
  code = 0x09 || code = 0x0A || code = 0x0D || (0x20 ≤ code && code ≤ 0x7E) || code = 0x85 ||
    (0xA0 ≤ code && code ≤ 0xFFFD) || 0x10000 ≤ code

/-- What is left to read of a text, with the line and the column that it begins in and the number of the
bytes before it. -/
structure Cursor where
  rest : List Char
  line : Nat := 0
  column : Nat := 0
  index : Nat := 0

namespace Cursor

/-- The character some distance ahead. -/
def ahead (cursor : Cursor) (distance : Nat) : Option Char :=
  cursor.rest[distance]?

def next (cursor : Cursor) : Option Char :=
  cursor.rest.head?

def isAt (cursor : Cursor) (c : Char) : Bool :=
  cursor.next = some c

def skip (cursor : Cursor) (count : Nat) : Cursor :=
  { cursor with
    rest := cursor.rest.drop count
    column := cursor.column + count
    index := cursor.index + Text.byteLength (cursor.rest.take count) }

/-- The characters of a class that come next in the line, and the place after them. -/
def span (cursor : Cursor) (belongs : Char → Bool) : List Char × Cursor :=
  let run := cursor.rest.takeWhile belongs
  (run, cursor.skip run.length)

/-- The place after the characters of a class that come next in the line. -/
def skipWhile (cursor : Cursor) (belongs : Char → Bool) : Cursor :=
  (cursor.span belongs).2

/-- The place after the byte order mark that may begin a line, where it takes up a column. -/
def skipOrderMark (cursor : Cursor) : Cursor :=
  if cursor.column = 0 && cursor.isAt '\ufeff' then cursor.skip 1 else cursor

/-- The start of the next line, some bytes further on. -/
def newLine (cursor : Cursor) (rest : List Char) (count : Nat) : Cursor :=
  ⟨rest, cursor.line + 1, 0, cursor.index + count⟩

/-- The line break that comes next, and the line after it. Two separators of Unicode are kept; every other
break counts as a line feed. -/
def lineBreak? (cursor : Cursor) : Option (Char × Cursor) :=
  match cursor.rest with
  | '\r' :: '\n' :: rest => some ('\n', cursor.newLine rest 2)
  | c :: rest =>
    if c = '\u2028' || c = '\u2029' then some (c, cursor.newLine rest c.utf8Size)
    else if isLineBreak c then some ('\n', cursor.newLine rest c.utf8Size)
    else none
  | [] => none

/-- The line after the break that comes next, or the same place if none does. -/
def skipLineBreak (cursor : Cursor) : Cursor :=
  match cursor.lineBreak? with
  | some (_, after) => after
  | none => cursor

/-- The place after the spaces and the comment that may close a line, if nothing else is left in the line. -/
def skipLineEnd? (cursor : Cursor) : Option Cursor :=
  let blank := cursor.skipWhile isSpacing
  let ended := if blank.isAt '#' then blank.skipWhile (!isLineBreak ·) else blank
  if endsLine ended.next then some ended.skipLineBreak else none

/-- Whether a line begins with three of the characters that mark the borders of documents. -/
def isAtBorder (cursor : Cursor) (mark : Char) : Bool :=
  cursor.column = 0 && cursor.rest.take 3 = [mark, mark, mark] && endsWord (cursor.ahead 3)

/-- Whether a line begins with a mark of a document's start or end. -/
def isAtDocumentMark (cursor : Cursor) : Bool :=
  cursor.isAtBorder '-' || cursor.isAtBorder '.'

end Cursor

end RecordFill.Yaml

import RecordFill.Text.Numeral
import RecordFill.Yaml.Basic
import RecordFill.Yaml.Cursor

namespace RecordFill.Yaml

/-- What separates two words of a scalar: spaces within a line, or line breaks, all latest first. -/
structure Spacing where
  spaces : List Char := []
  broken : Bool := false
  first : Option Char := none
  further : List Char := []

namespace Spacing

/-- One more space; spaces around line breaks count for nothing. -/
def addSpace (spacing : Spacing) (c : Char) : Spacing :=
  if spacing.broken then spacing else { spacing with spaces := c :: spacing.spaces }

/-- One more line break. -/
def addBreak (spacing : Spacing) (c : Char) : Spacing :=
  if spacing.broken then { spacing with further := c :: spacing.further }
  else { broken := true, first := some c }

/-- What the spacing contributes to the scalar: a single line feed becomes a space, and the first of several
is dropped. -/
def text (spacing : Spacing) : List Char :=
  if spacing.broken then
    match spacing.first with
    | some '\n' => if spacing.further.isEmpty then [' '] else spacing.further.reverse
    | some c => c :: spacing.further.reverse
    | none => spacing.further.reverse
  else spacing.spaces.reverse

/-- The spacing that comes next, after some that was read already. In a later line, a tab before the given
column is refused. -/
def read? (fuel : Nat) (column : Nat) (spacing : Spacing) (cursor : Cursor) : Option (Spacing × Cursor) :=
  match fuel with
  | 0 => none
  | fuel + 1 =>
    match cursor.lineBreak? with
    | some (c, after) => read? fuel column (spacing.addBreak c) after
    | none =>
      match cursor.next with
      | some c =>
        if !isSpacing c then some (spacing, cursor)
        else if spacing.broken && cursor.column < column && c = '\t' then none
        else read? fuel column (spacing.addSpace c) (cursor.skip 1)
      | none => some (spacing, cursor)

end Spacing

/-- The characters that hold a flow collection together. -/
def isFlowMark (c : Char) : Bool :=
  c = ',' || c = '[' || c = ']' || c = '{' || c = '}'

/-- The word of a plain scalar that comes next, after characters already read, latest first. A colon before a
blank ends it, and so does a mark of a flow collection inside one, where such a mark may not follow a colon. -/
def plainWord? (inFlow : Bool) (done : List Char) : List Char → Option (List Char)
  | [] => some done.reverse
  | c :: rest =>
    if endsWord (some c) then some done.reverse
    else if c = ':' && inFlow && rest.head?.any (fun next => isFlowMark next || next = '?') then none
    else if (c = ':' && endsWord rest.head?) || (inFlow && isFlowMark c) then some done.reverse
    else plainWord? inFlow (c :: done) rest

/-- A plain scalar, the place after it and the spacing behind it, and whether that spacing ends a line. Outside
of flow collections, only lines indented to the given column go on with it. -/
def plainScalar? (fuel : Nat) (inFlow : Bool) (column : Nat) (done : List Char) (spacing : Spacing)
    (cursor : Cursor) : Option (List Char × Cursor × Bool) :=
  match fuel with
  | 0 => none
  | fuel + 1 =>
    if cursor.isAtDocumentMark || cursor.isAt '#' then some (done.reverse, cursor, spacing.broken)
    else do
      let word ← plainWord? inFlow [] cursor.rest
      let after := cursor.skip word.length
      if word.isEmpty then return (done.reverse, after, spacing.broken) else
      let done := word.reverse ++ spacing.text.reverse ++ done
      let (next, start) ← Spacing.read? fuel column {} after
      if !endsWord after.next || after.next.isNone || (!inFlow && start.column < column) then
        return (done.reverse, start, next.broken)
      else plainScalar? fuel inFlow column done next start

/-- The character that the letter after a backslash stands for in double quotes. -/
def escapes : List (Char × Char) :=
  [('0', '\x00'), ('a', '\x07'), ('b', '\x08'), ('t', '\t'), ('\t', '\t'), ('n', '\n'), ('v', '\x0b'),
    ('f', '\x0c'), ('r', '\r'), ('e', '\x1b'), (' ', ' '), ('"', '"'), ('/', '/'), ('\\', '\\'),
    ('N', '\x85'), ('_', '\xa0'), ('L', '\u2028'), ('P', '\u2029')]

/-- The number of hexadecimal digits that follow a letter after a backslash. -/
def escapeDigits : List (Char × Nat) :=
  [('x', 2), ('u', 4), ('U', 8)]

/-- The character that an escape writes after its backslash, and the number of characters that it takes. A
surrogate is no character. -/
def escape? (cursor : Cursor) : Option (Char × Nat) := do
  let letter ← cursor.next
  match escapes.lookup letter with
  | some c => return (c, 1)
  | none =>
    let count ← escapeDigits.lookup letter
    let digits := (cursor.rest.drop 1).take count
    if digits.length < count then none else
    let code ← Text.hexNumber? digits
    if code.isValidChar then return (Char.ofNat code, count + 1) else none

/-- The characters of a quoted scalar up to its closing quote or a blank, after those already read, latest
first, and whether they end with a line break that was escaped. -/
def quotedWord? (fuel : Nat) (quote : Char) (done : List Char) (cursor : Cursor) :
    Option (List Char × Cursor × Bool) :=
  match fuel with
  | 0 => none
  | fuel + 1 =>
    match cursor.next with
    | none => some (done, cursor, false)
    | some c =>
      if endsWord (some c) then some (done, cursor, false)
      else if c = quote then
        if quote = '\x27' && cursor.ahead 1 = some quote then quotedWord? fuel quote (c :: done) (cursor.skip 2)
        else some (done, cursor, false)
      else if c = '\\' && quote = '\x22' then
        match (cursor.skip 1).lineBreak? with
        | some (_, after) => some (done, after, true)
        | none => do
          let (escaped, count) ← escape? (cursor.skip 1)
          quotedWord? fuel quote (escaped :: done) (cursor.skip (count + 1))
      else quotedWord? fuel quote (c :: done) (cursor.skip 1)

/-- A quoted scalar after its opening quote and the characters already read, latest first, and the place after
its closing quote. No mark of a document may begin a line inside it. -/
def quotedScalar? (fuel : Nat) (quote : Char) (done : List Char) (cursor : Cursor) :
    Option (List Char × Cursor) :=
  match fuel with
  | 0 => none
  | fuel + 1 =>
    if cursor.isAtDocumentMark || cursor.rest.isEmpty then none
    else do
      let (done, after, escaped) ← quotedWord? fuel quote done cursor
      if after.isAt quote then return (done.reverse, after.skip 1) else
      let (spacing, start) ← Spacing.read? fuel 0 { broken := escaped } after
      quotedScalar? fuel quote (spacing.text.reverse ++ done) start

/-- What a block scalar does with the line breaks at its end. -/
inductive Chomping where
  | strip
  | clip
  | keep
  deriving DecidableEq

/-- The chomping that a mark asks for. -/
def chompings : List (Char × Chomping) :=
  [('+', .keep), ('-', .strip)]

def chomping? (cursor : Cursor) : Option (Chomping × Cursor) := do
  return (← chompings.lookup (← cursor.next), cursor.skip 1)

/-- The indentation at a place, and the place after its digit, if there is one. -/
def indentation? (cursor : Cursor) : Option (Nat × Cursor) := do
  let digit ← cursor.next
  if digit.isDigit then return (Text.digitValue digit, cursor.skip 1) else none

/-- The header of a block scalar, whose two parts may come in either order, and the line after it. -/
def blockHeader? (cursor : Cursor) : Option (Chomping × Option Nat × Cursor) := do
  let (chomping, indentation, after) :=
    match chomping? cursor with
    | some (chomping, after) =>
      match indentation? after with
      | some (digit, after) => (chomping, some digit, after)
      | none => (chomping, none, after)
    | none =>
      match indentation? cursor with
      | some (digit, after) =>
        match chomping? after with
        | some (chomping, after) => (chomping, some digit, after)
        | none => (.clip, some digit, after)
      | none => (.clip, none, cursor)
  if indentation = some 0 then none else
  return (chomping, indentation, ← after.skipLineEnd?)

/-- The empty lines that come next, as their breaks, latest first; the deepest column reached in them; and the
place where the next line's text begins. Indentation reaches to the given column, or if none is given, as far
as the spaces go; a tab may not take its place. -/
def emptyLines? (fuel : Nat) (column : Option Nat) (deepest : Nat) (breaks : List Char) (cursor : Cursor) :
    Option (List Char × Nat × Cursor) :=
  match fuel with
  | 0 => none
  | fuel + 1 =>
    let spaces := (cursor.rest.takeWhile (· = ' ')).length
    let start := cursor.skip (column.elim spaces fun column => min spaces (column - cursor.column))
    let deepest := max deepest start.column
    if column.all (start.column < ·) && start.isAt '\t' then none
    else
      match start.lineBreak? with
      | some (c, after) => emptyLines? fuel column deepest (c :: breaks) after
      | none => some (breaks, deepest, start)

/-- The text of a block scalar's lines, latest character first, with the breaks after its last line. -/
structure BlockText where
  done : List Char := []
  lastBreak : List Char := []
  emptyBreaks : List Char := []
  afterSpaced : Bool := false

/-- The text with one more line. A folded scalar turns the break between two lines into a space, unless one
of them begins with a blank, and drops it before empty lines. -/
def BlockText.addLine (text : BlockText) (folds : Bool) (line : List Char) : BlockText :=
  let spaced := line.head?.any isSpacing
  let between :=
    if folds && text.lastBreak = ['\n'] && !text.afterSpaced && !spaced then
      if text.emptyBreaks.isEmpty then [' '] else []
    else text.lastBreak
  { done := line.reverse ++ text.emptyBreaks ++ between ++ text.done, afterSpaced := spaced }

/-- The text as its chomping leaves it. -/
def BlockText.finish (text : BlockText) : Chomping → List Char
  | .strip => text.done.reverse
  | .clip => (text.lastBreak ++ text.done).reverse
  | .keep => (text.emptyBreaks ++ text.lastBreak ++ text.done).reverse

/-- The lines of a block scalar that begin at its column. -/
def blockLines? (fuel : Nat) (folds : Bool) (column : Nat) (text : BlockText) (cursor : Cursor) :
    Option (BlockText × Cursor) :=
  match fuel with
  | 0 => none
  | fuel + 1 =>
    if cursor.column = column && !cursor.rest.isEmpty then do
      let (line, after) := cursor.span (!isLineBreak ·)
      let text := text.addLine folds line
      let (lastBreak, start) := match after.lineBreak? with
        | some (c, start) => ([c], start)
        | none => ([], after)
      let (breaks, _, start) ← emptyLines? fuel (some column) 0 [] start
      blockLines? fuel folds column { text with lastBreak, emptyBreaks := breaks } start
    else some (text, cursor)

/-- A block scalar after its mark, and the place after it. Its column is counted from the block around it, of
which the least column for content is given; without an indentation of its own it has that of its first line. -/
def blockScalar? (fuel : Nat) (folds : Bool) (column : Nat) (cursor : Cursor) :
    Option (List Char × Cursor) := do
  let (chomping, indentation, start) ← blockHeader? cursor
  let given := indentation.map fun digit => (column - 1) + digit
  let (breaks, deepest, start) ← emptyLines? fuel given 0 [] start
  let column := given.getD (max (max deepest column) 1)
  let (text, after) ← blockLines? fuel folds column { emptyBreaks := breaks } start
  return (text.finish chomping, after)

end RecordFill.Yaml

import RecordFill.Yaml.Basic
import RecordFill.Yaml.Cursor

namespace RecordFill.Yaml

/-- A place where a key may have begun, with the number of tokens before it. A key that is required has to be
followed by a colon, since nothing else may stand at its column. -/
structure PossibleKey where
  start : Cursor
  tokens : Nat
  required : Bool

/-- The most bytes that a key may take. -/
def keyLimit : Nat := 1024

/-- A key stays in one line and within the limit. -/
def PossibleKey.reaches (key : PossibleKey) (cursor : Cursor) : Bool :=
  key.start.line = cursor.line && cursor.index ≤ key.start.index + keyLimit

/-- What has been read of a text: the tokens so far, latest first, and their number; the columns of the open
block collections, innermost first; and where a key may have begun, inside the innermost flow collection and
around each of the open ones. -/
structure Layout where
  cursor : Cursor
  tokens : List Token := []
  count : Nat := 0
  columns : List Nat := []
  key : Option PossibleKey := none
  outerKeys : List (Option PossibleKey) := []
  keyAllowed : Bool := true

namespace Layout

/-- Whether a flow collection is open. -/
def inFlow (layout : Layout) : Bool :=
  !layout.outerKeys.isEmpty

/-- The least column of content inside the innermost block collection. -/
def contentColumn (layout : Layout) : Nat :=
  layout.columns.head?.elim 0 (· + 1)

def emit (layout : Layout) (token : Token) : Layout :=
  { layout with tokens := token :: layout.tokens, count := layout.count + 1 }

/-- One more token before the last ones, behind as many tokens as given. -/
def emitAt (layout : Layout) (number : Nat) (token : Token) : Layout :=
  let later := layout.count - number
  { layout with
    tokens := layout.tokens.take later ++ token :: layout.tokens.drop later
    count := layout.count + 1 }

/-- The columns of the block collections that stay open at a column, and the number of those that close. -/
def closing (column : Nat) : List Nat → Nat × List Nat
  | [] => (0, [])
  | innermost :: outer =>
    if column < innermost then
      let (closed, left) := closing column outer
      (closed + 1, left)
    else (0, innermost :: outer)

/-- Fewer block collections are open, and each of the others is closed by a token. -/
def closeBlocks (layout : Layout) (closed : Nat) (left : List Nat) : Layout :=
  { layout with
    tokens := List.replicate closed .blockEnd ++ layout.tokens
    count := layout.count + closed
    columns := left }

/-- The block collections deeper than the current column are closed; in a flow collection columns count for
nothing. -/
def closeDeeper (layout : Layout) : Layout :=
  if layout.inFlow then layout
  else
    let (closed, left) := closing layout.cursor.column layout.columns
    layout.closeBlocks closed left

def closeAll (layout : Layout) : Layout :=
  if layout.inFlow then layout else layout.closeBlocks layout.columns.length []

/-- A block collection is opened by a token, behind as many tokens as given, if the column is deeper than the
open ones. -/
def openBlock (layout : Layout) (column number : Nat) (token : Token) : Layout :=
  if layout.inFlow || column < layout.contentColumn then layout
  else { layout.emitAt number token with columns := column :: layout.columns }

/-- No key begins here any more. A required one may not be given up. -/
def dropKey? (layout : Layout) : Option Layout :=
  if layout.key.any (·.required) then none else some { layout with key := none }

/-- A key may begin here, if one is allowed. -/
def markKey? (layout : Layout) : Option Layout :=
  if layout.keyAllowed then do
    let layout ← layout.dropKey?
    let required := !layout.inFlow && layout.columns.head? = some layout.cursor.column
    return { layout with key := some ⟨layout.cursor, layout.count, required⟩ }
  else some layout

/-- A token is read up to a place, and whether a key may begin after it is known. -/
def advance (layout : Layout) (token : Token) (cursor : Cursor) (keyAllowed : Bool) : Layout :=
  { layout.emit token with cursor, keyAllowed }

/-- The blanks, comments and line breaks before the next token are passed over. Outside of flow collections a
new line may begin with a key, and a tab may not stand where a key may begin. -/
def skipBlanks (fuel : Nat) (layout : Layout) : Layout :=
  match fuel with
  | 0 => layout
  | fuel + 1 =>
    let tabsPass := layout.inFlow || !layout.keyAllowed
    let blank := layout.cursor.skipOrderMark.skipWhile fun c => c = ' ' || (tabsPass && c = '\t')
    let ended := if blank.isAt '#' then blank.skipWhile (!isLineBreak ·) else blank
    match ended.lineBreak? with
    | some (_, after) =>
      skipBlanks fuel { layout with cursor := after, keyAllowed := layout.keyAllowed || !layout.inFlow }
    | none => { layout with cursor := ended }

/-- The colon after a key. If a key began before it in the same line, the tokens that mark it are put in
front of it; otherwise the colon stands where a key might begin, and the key is empty. -/
def colon? (layout : Layout) : Option Layout := do
  let stale := layout.key.any fun key => !key.reaches layout.cursor
  if stale && layout.key.any (·.required) then none else
  let after := layout.cursor.skip 1
  match layout.key.filter fun _ => !stale with
  | some key =>
    let marked := (layout.emitAt key.tokens .key).openBlock key.start.column key.tokens .blockMapping
    return { marked with key := none }.advance .value after false
  | none =>
    if !layout.inFlow && !layout.keyAllowed then none else
    let opened := layout.openBlock layout.cursor.column layout.count .blockMapping
    return { opened with key := none }.advance .value after !layout.inFlow

end Layout

end RecordFill.Yaml

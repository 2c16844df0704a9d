import RecordFill.Yaml.Layout
import RecordFill.Yaml.Scalar
import RecordFill.Yaml.Tag

namespace RecordFill.Yaml

namespace Layout

/-- The characters that begin no plain scalar. -/
def indicators : List Char :=
  ['-', '?', ':', ',', '[', ']', '{', '}', '#', '&', '*', '!', '|', '>', '\x27', '\x22', '%', '@', '\x60']

/-- The opening mark of a flow collection, which may itself be a key. -/
def openFlow? (layout : Layout) (token : Token) : Option Layout := do
  let layout ← layout.markKey?
  let inner := { layout with key := none, outerKeys := layout.key :: layout.outerKeys }
  return inner.advance token (layout.cursor.skip 1) true

/-- The closing mark of a flow collection. -/
def closeFlow? (layout : Layout) (token : Token) : Option Layout := do
  let layout ← layout.dropKey?
  let outer := match layout.outerKeys with
    | key :: outerKeys => { layout with key, outerKeys }
    | [] => layout
  return outer.advance token (layout.cursor.skip 1) false

/-- The mark of a block collection's next entry or key, which stands where a key might begin. -/
def blockMark? (layout : Layout) (collection mark : Token) (keyAllowed : Bool) : Option Layout := do
  if !layout.inFlow && !layout.keyAllowed then none else
  let layout ← (layout.openBlock layout.cursor.column layout.count collection).dropKey?
  return layout.advance mark (layout.cursor.skip 1) keyAllowed

/-- A mark that ends every block collection, with the place after it. -/
def border? (layout : Layout) (token : Token) (after : Cursor) : Option Layout := do
  let layout ← layout.closeAll.dropKey?
  return layout.advance token after false

/-- A scalar, an anchor or a tag, which may begin a key. -/
def part? (layout : Layout) (read : Cursor → Option (Token × Cursor)) : Option Layout := do
  let layout ← layout.markKey?
  let (token, after) ← read layout.cursor
  return layout.advance token after false

/-- A scalar between quotes, which may begin a key. -/
def quoted? (fuel : Nat) (layout : Layout) (style : Style) (quote : Char) : Option Layout :=
  layout.part? fun cursor => do
    let (text, after) ← quotedScalar? fuel quote [] (cursor.skip 1)
    return (.scalar style (String.ofList text), after)

/-- A block scalar, which begins no key but may be followed by one. -/
def block? (fuel : Nat) (layout : Layout) (style : Style) : Option Layout := do
  let layout ← layout.dropKey?
  let (text, after) ←
    blockScalar? fuel (style = .folded) layout.contentColumn (layout.cursor.skip 1)
  return layout.advance (.scalar style (String.ofList text)) after true

/-- A plain scalar, which may begin a key. If it ends with a line, a key may follow. -/
def plain? (fuel : Nat) (layout : Layout) : Option Layout := do
  let layout ← layout.markKey?
  let (text, after, broken) ← plainScalar? fuel layout.inFlow layout.contentColumn [] {} layout.cursor
  return layout.advance (.scalar .plain (String.ofList text)) after broken

/-- Whether a plain scalar begins with a character: no indicator does, but for a dash before anything but a
blank, and outside of flow collections a colon or a question mark before a character of a word. -/
def beginsPlain (layout : Layout) (c : Char) : Bool :=
  let next := layout.cursor.ahead 1
  !(endsWord (some c) || indicators.contains c) || (c = '-' && !next.any isSpacing) ||
    (!layout.inFlow && (c = '?' || c = ':') && !endsWord next)

def token? (fuel : Nat) (layout : Layout) (c : Char) : Option Layout :=
  let cursor := layout.cursor
  let alone := endsWord (cursor.ahead 1)
  if cursor.column = 0 && c = '%' then do
    let (token, after) ← directive? fuel (cursor.skip 1)
    layout.border? token after
  else if cursor.isAtBorder '-' then layout.border? .documentStart (cursor.skip 3)
  else if cursor.isAtBorder '.' then layout.border? .documentEnd (cursor.skip 3)
  else if c = '[' then layout.openFlow? .openSequence
  else if c = '{' then layout.openFlow? .openMapping
  else if c = ']' then layout.closeFlow? .closeSequence
  else if c = '}' then layout.closeFlow? .closeMapping
  else if c = ',' then do
    let layout ← layout.dropKey?
    return layout.advance .comma (cursor.skip 1) true
  else if c = '-' && alone then layout.blockMark? .blockSequence .entry true
  else if c = '?' && (layout.inFlow || alone) then layout.blockMark? .blockMapping .key !layout.inFlow
  else if c = ':' && (layout.inFlow || alone) then layout.colon?
  else if c = '*' then
    layout.part? fun cursor => (anchorName? (cursor.skip 1)).map fun (name, after) => (.reference name, after)
  else if c = '&' then
    layout.part? fun cursor => (anchorName? (cursor.skip 1)).map fun (name, after) => (.anchor name, after)
  else if c = '!' then layout.part? (tag? fuel layout.inFlow)
  else if c = '|' && !layout.inFlow then layout.block? fuel .literal
  else if c = '>' && !layout.inFlow then layout.block? fuel .folded
  else if c = '\x27' then layout.quoted? fuel .singleQuoted '\x27'
  else if c = '\x22' then layout.quoted? fuel .doubleQuoted '\x22'
  else if layout.beginsPlain c then layout.plain? fuel
  else none

/-- All tokens of the text that is left, if there is fuel for each of its characters. -/
def tokens? (fuel : Nat) (layout : Layout) : Option (List Token) :=
  match fuel with
  | 0 => none
  | fuel + 1 =>
    let layout := (skipBlanks (fuel + 1) layout).closeDeeper
    match layout.cursor.next with
    | none => do
      let layout ← layout.closeAll.dropKey?
      return (layout.emit .textEnd).tokens.reverse
    | some c => do tokens? fuel (← layout.token? (fuel + 1) c)

end Layout

/-- The tokens of a text, all of whose characters have to be allowed. -/
def Token.ofText? (text : List Char) : Option (List Token) :=
  if text.all isAllowed then
    Layout.tokens? (text.length + 2) { cursor := { rest := text } }
  else none

end RecordFill.Yaml

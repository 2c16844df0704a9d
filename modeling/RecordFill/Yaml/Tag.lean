import RecordFill.Text.Numeral
import RecordFill.Yaml.Basic
import RecordFill.Yaml.Cursor

namespace RecordFill.Yaml

/-- The characters of names. -/
def isNameChar (c : Char) : Bool :=
  c.isAlphanum || c = '_' || c = '-'

/-- The characters of tags, of which a tag between angle brackets may also have flow marks. -/
def isTagChar (inBrackets : Bool) (c : Char) : Bool :=
  isNameChar c || [';', '/', '?', ':', '@', '&', '=', '+', '$', '.', '!', '~', '*', '\x27', '(', ')'].contains c ||
    (inBrackets && (c = ',' || c = '[' || c = ']'))

/-- The name of an anchor, and the place after it. It ends with a word or before one of a few marks. -/
def anchorName? (cursor : Cursor) : Option (String × Cursor) :=
  let (name, after) := cursor.span isNameChar
  let ended := endsWord after.next ||
    after.next.any fun c => ['?', ':', ',', ']', '}', '%', '@', '\x60'].contains c
  if name.isEmpty || !ended then none else some (String.ofList name, after)

/-- The bytes that escapes write, each as a percent sign and two hexadecimal digits, up to a number of them. -/
def escapedBytes? : Nat → Cursor → Option (List UInt8 × Cursor)
  | 0, cursor => some ([], cursor)
  | count + 1, cursor =>
    match cursor.rest with
    | '%' :: high :: low :: _ => do
      let byte ← Text.hexNumber? [high, low]
      let (bytes, after) ← escapedBytes? count (cursor.skip 3)
      return (UInt8.ofNat byte :: bytes, after)
    | _ => none

/-- The number of bytes in a character's UTF-8 form by the first of them. -/
def formLength? (byte : UInt8) : Option Nat :=
  if byte < 0x80 then some 1
  else if 0xC0 ≤ byte && byte < 0xE0 then some 2
  else if 0xE0 ≤ byte && byte < 0xF0 then some 3
  else if 0xF0 ≤ byte && byte < 0xF8 then some 4
  else none

/-- Whether a byte goes on with the form of a character that an earlier one begins. -/
def continuesForm (byte : UInt8) : Bool :=
  0x80 ≤ byte && byte < 0xC0

/-- The bytes that escapes write, as many as the first one announces, and the place after them. That they are
the form of a character is not asked. -/
def escapedForm? (cursor : Cursor) : Option (TagBytes × Cursor) := do
  let (first, _) ← escapedBytes? 1 cursor
  let (bytes, after) ← escapedBytes? (← formLength? (← first.head?)) cursor
  if bytes.tail.all continuesForm then return (bytes, after) else none

def asciiByte (c : Char) : UInt8 :=
  UInt8.ofNat c.toNat

/-- The bytes of a tag that come next, after those already read, latest first. -/
def tagBytes? (fuel : Nat) (inBrackets : Bool) (done : TagBytes) (cursor : Cursor) :
    Option (TagBytes × Cursor) :=
  match fuel with
  | 0 => none
  | fuel + 1 =>
    match cursor.next with
    | some '%' => do
      let (bytes, after) ← escapedForm? cursor
      tagBytes? fuel inBrackets (bytes.reverse ++ done) after
    | some c =>
      if isTagChar inBrackets c then tagBytes? fuel inBrackets (asciiByte c :: done) (cursor.skip 1)
      else some (done.reverse, cursor)
    | none => some (done.reverse, cursor)

/-- The bytes of a tag count up to the first zero, if an escape writes one. -/
def beforeZero (bytes : TagBytes) : TagBytes :=
  bytes.takeWhile (· ≠ 0)

/-- The tag that is a mere exclamation mark. -/
def bareTag : TagBytes := .ofString "!"

/-- The handle of a tag, whose second exclamation mark may be missing, and the place after it. -/
def tagHandle? (cursor : Cursor) : Option (List Char × Cursor) :=
  if cursor.isAt '!' then
    let (name, after) := (cursor.skip 1).span isNameChar
    if after.isAt '!' then some ('!' :: name ++ ['!'], after.skip 1) else some ('!' :: name, after)
  else none

/-- A tag and the place after it: in full between angle brackets, or short, with a handle that has two
exclamation marks or is the local one. A tag ends with a word, or in a flow collection before a comma. -/
def tag? (fuel : Nat) (inFlow : Bool) (cursor : Cursor) : Option (Token × Cursor) := do
  let (token, after) ←
    if cursor.ahead 1 = some '<' then do
      let (bytes, after) ← tagBytes? fuel true [] (cursor.skip 2)
      if bytes.isEmpty || !after.isAt '>' then none else
      pure (Token.tag "" (beforeZero bytes), after.skip 1)
    else do
      let (handle, after) ← tagHandle? cursor
      if 1 < handle.length && handle.getLast? = some '!' then
        let (bytes, after) ← tagBytes? fuel false [] after
        if bytes.isEmpty then none else
        pure (.tag (String.ofList handle) (beforeZero bytes), after)
      else
        let (bytes, after) ← tagBytes? fuel false (handle.tail.reverse.map asciiByte) after
        let suffix := beforeZero bytes
        pure (if suffix.isEmpty then .tag "" bareTag else .tag "!" suffix, after)
  if endsWord after.next || (inFlow && after.isAt ',') then return (token, after) else none

/-- A number of a version, which has at most nine digits, and the place after it. -/
def versionNumber? (cursor : Cursor) : Option (Nat × Cursor) :=
  let (digits, after) := cursor.span Char.isDigit
  if digits.isEmpty || 9 < digits.length then none else some (Nat.ofDigitChars 10 digits 0, after)

/-- A directive after its percent sign, and the line after it. -/
def directive? (fuel : Nat) (cursor : Cursor) : Option (Token × Cursor) := do
  let (name, after) := cursor.span isNameChar
  if !endsWord after.next then none else
  let start := after.skipWhile isSpacing
  let (token, after) ←
    if name = ['Y', 'A', 'M', 'L'] then do
      let (major, point) ← versionNumber? start
      if !point.isAt '.' then none else
      let (minor, after) ← versionNumber? (point.skip 1)
      pure (Token.version major minor, after)
    else if name = ['T', 'A', 'G'] then do
      let (handle, after) ← tagHandle? start
      if !(handle = ['!'] || (1 < handle.length && handle.getLast? = some '!')) then none else
      if !after.next.any isSpacing then none else
      let (beginning, after) ← tagBytes? fuel true [] (after.skipWhile isSpacing)
      if beginning.isEmpty || !endsWord after.next then none else
      pure (.handle (String.ofList handle) (beforeZero beginning), after)
    else none
  return (token, ← after.skipLineEnd?)

end RecordFill.Yaml

import RecordFill.Text.Numeral

namespace RecordFill.Json

/-- What a string holds: a text, or a spelling that leaves a surrogate without its other half. -/
inductive Content where
  | text (text : String)
  | illFormed (spelling : String)
  deriving DecidableEq

/-- A value without parts. A number with a fraction or an exponent, minus zero, and a number of more than twenty
digits, which is out of any range, are no integers. -/
inductive Scalar where
  | null
  | bool (value : Bool)
  | integer (value : Int)
  | float (spelling : String)
  | string (content : Content)
  deriving DecidableEq

/-- A value. The members of an object keep their order, and a key may return. -/
inductive Value where
  | scalar (scalar : Scalar)
  | array (items : List Value)
  | object (members : List (Content × Value))

namespace Value

def null : Value := .scalar .null

def ofBool (value : Bool) : Value := .scalar (.bool value)

def ofInt (value : Int) : Value := .scalar (.integer value)

/-- A string that holds a text. -/
def ofText (text : String) : Value := .scalar (.string (.text text))

/-- An object whose keys are texts. -/
def ofMembers (members : List (String × Value)) : Value :=
  .object (members.map fun (key, value) => (.text key, value))

end Value

open Text (hexNumber?)

/-- The lower-case digit of a value below sixteen. -/
def hexDigit (value : Nat) : Char :=
  Nat.digitChar value

/-- The character that the letter after a backslash stands for. -/
def escaped? : Char → Option Char
  | '"' => some '"'
  | '\\' => some '\\'
  | '/' => some '/'
  | 'b' => some '\x08'
  | 'f' => some '\x0c'
  | 'n' => some '\n'
  | 'r' => some '\r'
  | 't' => some '\t'
  | _ => none

/-- A character between quotes. Quotes, backslashes and control characters are escaped, and nothing else is. -/
def quotedChar (c : Char) : List Char :=
  match c with
  | '"' => ['\\', '"']
  | '\\' => ['\\', '\\']
  | '\x08' => ['\\', 'b']
  | '\x0c' => ['\\', 'f']
  | '\n' => ['\\', 'n']
  | '\r' => ['\\', 'r']
  | '\t' => ['\\', 't']
  | c =>
    if c < ' ' then ['\\', 'u', '0', '0', hexDigit (c.toNat / 16), hexDigit (c.toNat % 16)]
    else [c]

/-- What a string has been read to hold so far: its characters, latest first, unless a surrogate was alone. -/
abbrev Held := Option (List Char)

/-- Whether a code unit is the first half of a pair. -/
def isHighSurrogate (unit : Nat) : Bool := 0xD800 ≤ unit && unit < 0xDC00

/-- Whether a code unit is the second half of a pair. -/
def isLowSurrogate (unit : Nat) : Bool := 0xDC00 ≤ unit && unit < 0xE000

/-- The character of a pair of surrogates. -/
def pairedChar (high low : Nat) : Char :=
  Char.ofNat (0x10000 + (high - 0xD800) * 0x400 + (low - 0xDC00))

/-- The second half of a pair, if its escape comes next, and what follows it. -/
def lowSurrogate? : List Char → Option (Nat × List Char)
  | '\\' :: 'u' :: first :: second :: third :: fourth :: rest =>
    match hexNumber? [first, second, third, fourth] with
    | some unit => if isLowSurrogate unit then some (unit, rest) else none
    | none => none
  | _ => none

theorem lowSurrogate?_shorter {text rest : List Char} {unit : Nat}
    (found : lowSurrogate? text = some (unit, rest)) : rest.length < text.length := by
  unfold lowSurrogate? at found
  split at found
  · split at found
    · split at found
      · obtain ⟨_, rfl⟩ := Prod.mk.inj (Option.some.inj found)
        simp only [List.length_cons]
        omega
      · contradiction
    · contradiction
  · contradiction

/-- What a string holds and what follows its closing quote. Control characters stand in no string, and neither
do unknown escapes. -/
def readQuoted (held : Held) (text : List Char) : Option (Held × List Char) :=
  match text with
  | [] => none
  | '"' :: rest => some (held, rest)
  | '\\' :: 'u' :: first :: second :: third :: fourth :: rest =>
    match hexNumber? [first, second, third, fourth] with
    | none => none
    | some unit =>
      if isHighSurrogate unit then
        match _low : lowSurrogate? rest with
        | some (low, rest) => readQuoted (held.map (pairedChar unit low :: ·)) rest
        | none => readQuoted none rest
      else if isLowSurrogate unit then readQuoted none rest
      else readQuoted (held.map (Char.ofNat unit :: ·)) rest
  | '\\' :: letter :: rest =>
    match escaped? letter with
    | none => none
    | some c => readQuoted (held.map (c :: ·)) rest
  | c :: rest => if c < ' ' then none else readQuoted (held.map (c :: ·)) rest
termination_by text.length
decreasing_by
  all_goals simp only [List.length_cons]
  · have := lowSurrogate?_shorter _low
    omega
  all_goals omega

/-- The content of a string after its opening quote, and what follows the closing one. -/
def content? (text : List Char) : Option (Content × List Char) := do
  let (held, rest) ← readQuoted (some []) text
  match held with
  | some characters => return (.text (String.ofList characters.reverse), rest)
  | none => return (.illFormed (String.ofList (text.take (text.length - rest.length - 1))), rest)

/-- What follows a string is shorter than what it begins. -/
theorem readQuoted_shorter {held after : Held} {text rest : List Char}
    (found : readQuoted held text = some (after, rest)) : rest.length < text.length := by
  fun_induction readQuoted held text <;> simp_all <;> try omega
  next paired _ =>
    have := lowSurrogate?_shorter paired
    omega

theorem content?_shorter {content : Content} {text rest : List Char}
    (found : content? text = some (content, rest)) : rest.length < text.length := by
  simp only [content?, Option.bind_eq_bind, Option.bind_eq_some_iff, Prod.exists] at found
  obtain ⟨held, after, read, found⟩ := found
  have shorter := readQuoted_shorter read
  cases held <;> simp_all

def Content.quoted : Content → List Char
  | .text characters => '"' :: characters.toList.flatMap quotedChar ++ ['"']
  | .illFormed spelling => '"' :: spelling.toList ++ ['"']

end RecordFill.Json

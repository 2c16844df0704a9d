import RecordFill.Json.Value
import RecordFill.Text.Search

namespace RecordFill.Json

/-- A mark of the grammar or a scalar. -/
inductive Token where
  | openArray
  | closeArray
  | openObject
  | closeObject
  | comma
  | colon
  | scalar (scalar : Scalar)
  deriving DecidableEq

/-- The four characters that may stand between tokens. -/
def isSpace (c : Char) : Bool :=
  c = ' ' || c = '\n' || c = '\r' || c = '\t'

/-- A nonempty run of digits and what follows it. -/
def digits? (text : List Char) : Option (List Char × List Char) :=
  match text with
  | [] => none
  | first :: rest =>
    if first.isDigit then some (first :: rest.takeWhile Char.isDigit, rest.dropWhile Char.isDigit) else none

theorem digits?_shorter {text digits rest : List Char} (found : digits? text = some (digits, rest)) :
    rest.length < text.length := by
  unfold digits? at found
  split at found
  · contradiction
  · next first after =>
    split at found
    · obtain ⟨_, rfl⟩ := Prod.mk.inj (Option.some.inj found)
      exact Nat.lt_succ_of_le ((List.dropWhile_sublist _).length_le)
    · contradiction

/-- The fraction of a number as it is spelled, and what follows it. A point needs a digit after it. -/
def fraction? : List Char → Option (List Char × List Char)
  | '.' :: rest => (digits? rest).map fun (digits, rest) => ('.' :: digits, rest)
  | rest => some ([], rest)

theorem fraction?_le {text fraction rest : List Char} (found : fraction? text = some (fraction, rest)) :
    rest.length ≤ text.length := by
  unfold fraction? at found
  split at found
  · obtain ⟨⟨digits, after⟩, read, same⟩ := Option.map_eq_some_iff.mp found
    obtain ⟨_, rfl⟩ := Prod.mk.inj same
    exact Nat.le_succ_of_le (Nat.le_of_lt (digits?_shorter read))
  · obtain ⟨_, rfl⟩ := Prod.mk.inj (Option.some.inj found)
    exact Nat.le_refl _

/-- The sign of an exponent, if there is one, and what follows it. -/
def exponentSign : List Char → List Char × List Char
  | '+' :: rest => (['+'], rest)
  | '-' :: rest => (['-'], rest)
  | rest => ([], rest)

theorem exponentSign_le (text : List Char) : (exponentSign text).2.length ≤ text.length := by
  unfold exponentSign
  split <;> simp

/-- The exponent of a number as it is spelled, and what follows it. -/
def exponent? : List Char → Option (List Char × List Char)
  | letter :: rest =>
    if letter = 'e' || letter = 'E' then
      let signed := exponentSign rest
      (digits? signed.2).map fun (digits, after) => (letter :: signed.1 ++ digits, after)
    else some ([], letter :: rest)
  | [] => some ([], [])

theorem exponent?_le {text exponent rest : List Char} (found : exponent? text = some (exponent, rest)) :
    rest.length ≤ text.length := by
  unfold exponent? at found
  split at found
  · next letter after =>
    split at found
    · obtain ⟨⟨digits, last⟩, read, same⟩ := Option.map_eq_some_iff.mp found
      obtain ⟨_, rfl⟩ := Prod.mk.inj same
      have signed := exponentSign_le after
      have shorter := digits?_shorter read
      simp only [List.length_cons]
      omega
    · obtain ⟨_, rfl⟩ := Prod.mk.inj (Option.some.inj found)
      exact Nat.le_refl _
  · obtain ⟨_, rfl⟩ := Prod.mk.inj (Option.some.inj found)
    exact Nat.le_refl _

/-- The most digits that an integer has. -/
def integerDigits : Nat := 20

/-- The number that digits write, if it is an integer. -/
def integer? (negative : Bool) (digits : List Char) : Option Int :=
  if integerDigits < digits.length then none
  else
    let size := Nat.ofDigitChars 10 digits 0
    if negative then (if size = 0 then none else some (-size)) else some size

/-- The number without its sign at the front of a text. No further digit may follow a leading zero. -/
def magnitude? (negative : Bool) (text : List Char) : Option (Scalar × List Char) := do
  let (digits, rest) ← digits? text
  if digits.length > 1 && digits.head? = some '0' then none else
  let (fraction, rest) ← fraction? rest
  let (exponent, rest) ← exponent? rest
  let sign := if negative then ['-'] else []
  let float : Scalar := .float (String.ofList (sign ++ digits ++ fraction ++ exponent))
  if fraction.isEmpty && exponent.isEmpty then return ((integer? negative digits).elim float .integer, rest)
  else return (float, rest)

theorem magnitude?_shorter {negative : Bool} {text rest : List Char} {number : Scalar}
    (found : magnitude? negative text = some (number, rest)) : rest.length < text.length := by
  simp only [magnitude?, Option.bind_eq_bind, Option.bind_eq_some_iff, Prod.exists] at found
  obtain ⟨digits, afterDigits, readDigits, found⟩ := found
  split at found
  · contradiction
  simp only [Option.bind_eq_some_iff, Prod.exists] at found
  obtain ⟨fraction, afterFraction, readFraction, exponent, afterExponent, readExponent, found⟩ := found
  have first := digits?_shorter readDigits
  have second := fraction?_le readFraction
  have third := exponent?_le readExponent
  split at found <;>
    · obtain ⟨_, rfl⟩ := Prod.mk.inj (Option.some.inj found)
      omega

/-- The words among the scalars. -/
def words : List (List Char × Scalar) :=
  [(['n', 'u', 'l', 'l'], .null), (['t', 'r', 'u', 'e'], .bool true),
    (['f', 'a', 'l', 's', 'e'], .bool false)]

/-- The word at the front of a text. -/
def word? (text : List Char) : Option (Scalar × List Char) :=
  words.findSome? fun (word, scalar) => (Text.remainder? word text).map (scalar, ·)

theorem word?_shorter {text rest : List Char} {scalar : Scalar} (found : word? text = some (scalar, rest)) :
    rest.length < text.length := by
  obtain ⟨⟨word, value⟩, listed, read⟩ := List.exists_of_findSome?_eq_some found
  obtain ⟨after, matched, same⟩ := Option.map_eq_some_iff.mp read
  obtain ⟨_, rfl⟩ := Prod.mk.inj same
  rw [Text.remainder?_eq_some_iff.mp matched, List.length_append]
  have nonempty : ∀ entry ∈ words, 0 < entry.1.length := by decide
  have positive := nonempty _ listed
  dsimp only at positive
  omega

namespace Token

/-- The token that a text begins with. -/
def next? : List Char → Option (Token × List Char)
  | [] => none
  | '[' :: rest => some (.openArray, rest)
  | ']' :: rest => some (.closeArray, rest)
  | '{' :: rest => some (.openObject, rest)
  | '}' :: rest => some (.closeObject, rest)
  | ',' :: rest => some (.comma, rest)
  | ':' :: rest => some (.colon, rest)
  | '"' :: rest => (content? rest).map fun (content, rest) => (.scalar (.string content), rest)
  | '-' :: rest => (magnitude? true rest).map fun (number, rest) => (.scalar number, rest)
  | text => ((magnitude? false text).or (word? text)).map fun (value, rest) => (.scalar value, rest)

theorem next?_shorter {text rest : List Char} {token : Token} (found : next? text = some (token, rest)) :
    rest.length < text.length := by
  unfold next? at found
  split at found
  case h_1 => contradiction
  case h_8 =>
    obtain ⟨⟨content, after⟩, read, same⟩ := Option.map_eq_some_iff.mp found
    obtain ⟨_, rfl⟩ := Prod.mk.inj same
    exact Nat.lt_succ_of_lt (content?_shorter read)
  case h_9 =>
    obtain ⟨⟨number, after⟩, read, same⟩ := Option.map_eq_some_iff.mp found
    obtain ⟨_, rfl⟩ := Prod.mk.inj same
    exact Nat.lt_succ_of_lt (magnitude?_shorter read)
  case h_10 =>
    obtain ⟨⟨scalar, after⟩, read, same⟩ := Option.map_eq_some_iff.mp found
    obtain ⟨_, rfl⟩ := Prod.mk.inj same
    rcases Option.or_eq_some_iff.mp read with number | ⟨_, word⟩
    · exact magnitude?_shorter number
    · exact word?_shorter word
  all_goals
    obtain ⟨_, rfl⟩ := Prod.mk.inj (Option.some.inj found)
    exact Nat.lt_succ_self _

/-- The tokens of a text after those already read, latest first. -/
def readAfter (done : List Token) (text : List Char) : Option (List Token) :=
  let trimmed := text.dropWhile isSpace
  if trimmed.isEmpty then some done.reverse
  else
    match _found : next? trimmed with
    | none => none
    | some (token, rest) => readAfter (token :: done) rest
termination_by text.length
decreasing_by exact Nat.lt_of_lt_of_le (next?_shorter _found) ((List.dropWhile_sublist _).length_le)

def read? (text : List Char) : Option (List Token) :=
  readAfter [] text

end Token

end RecordFill.Json

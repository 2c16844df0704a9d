import RecordFill.Text.Numeral
import RecordFill.Text.Search

namespace RecordFill.Yaml.CoreSchema

def isNull (text : String) : Bool :=
  ["null", "Null", "NULL", "~"].contains text

def bool? (text : String) : Option Bool :=
  [("true", true), ("True", true), ("TRUE", true), ("false", false), ("False", false),
    ("FALSE", false)].lookup text

/-- A text without the plus sign that may lead it. Another sign may not follow. -/
def dropPlus? : List Char → Option (List Char)
  | '+' :: '+' :: _ | '+' :: '-' :: _ => none
  | '+' :: rest => some rest
  | text => some text

/-- A text without the sign that may lead it. -/
def dropSign : List Char → List Char
  | '+' :: rest => rest
  | '-' :: rest => rest
  | text => text

/-- Whether a text has several digits of which the first is a zero, which make up no number. -/
def isZeroLed (text : List Char) : Bool :=
  match dropSign text with
  | '0' :: rest => !rest.isEmpty && rest.all Char.isDigit
  | _ => false

/-- The first number that is too large for an integer. -/
def integerLimit : Nat := 1 <<< 128

/-- Whether an integer is in the range of the signed or of the unsigned 128-bit integers. -/
def isInteger128 (number : Int) : Bool :=
  -Int.ofNat (integerLimit / 2) ≤ number && number < Int.ofNat integerLimit

/-- The number that digits of a base write, of which there is at least one, held at the limit. -/
def digits? (base : Nat) (text : List Char) : Option Nat :=
  if text.isEmpty then none
  else text.foldlM (fun value digit => do
    let digit ← Text.hexValue? digit
    if digit < base then return min (base * value + digit) integerLimit else none) 0

/-- The letters after a zero that announce a base. -/
def bases : List (Char × Nat) :=
  [('x', 16), ('o', 8), ('b', 2)]

/-- The number without a sign that a text writes, in base ten unless it announces another one. -/
def magnitude? (text : List Char) : Option Nat :=
  match text with
  | '0' :: letter :: rest =>
    match bases.lookup letter with
    | some base => digits? base rest
    | none => digits? 10 text
  | text => digits? 10 text

/-- The unsigned integer that a text writes. -/
def natural? (text : List Char) : Option Nat := do
  let unsigned ← dropPlus? text
  if isZeroLed text then none else magnitude? unsigned

/-- The negative integer that a text writes, where zero may be negative. -/
def negative? : List Char → Option Int
  | '-' :: rest => if isZeroLed rest then none else (magnitude? rest).map fun size => -(size : Int)
  | _ => none

/-- The integer that a text writes, held at the limit on either side. -/
def integer? (text : List Char) : Option Int :=
  ((natural? text).map Int.ofNat).or (negative? text)

/-- A decimal number: its digits without leading zeros, as a whole number, and the power of ten that this is
multiplied with. -/
structure Decimal where
  digits : List Char
  power : Int

/-- The size of an exponent, whose further digits do not count once it is far out of any range. -/
def exponentSize (digits : List Char) : Nat :=
  digits.foldl (fun size digit => if size < 0x10000 then 10 * size + Text.digitValue digit else size) 0

/-- The power of ten after a mantissa, if an exponent is written. -/
def exponent? : List Char → Option Int
  | [] => some 0
  | letter :: rest =>
    let (isNegative, digits) := Text.cutSign rest
    if (letter = 'e' || letter = 'E') && !digits.isEmpty && digits.all Char.isDigit then
      some (if isNegative then -exponentSize digits else exponentSize digits)
    else none

/-- The decimal number that a text writes, without its sign. The point may stand at either end of the digits,
of which there is at least one. -/
def decimal? (text : List Char) : Option Decimal := do
  let mantissa := text.takeWhile fun c => c.isDigit || c = '.'
  let power ← exponent? (text.drop mantissa.length)
  let (whole, fraction) := (Text.cut? ['.'] mantissa).getD (mantissa, [])
  let digits := (whole ++ fraction).dropWhile (· = '0')
  if (whole ++ fraction).isEmpty || fraction.contains '.' then none else
  return ⟨digits, power - fraction.length⟩

/-- The middle between the largest finite float and the power of two after it, a whole number of 309 digits. -/
def floatLimit : Nat := 1 <<< 1024 - 1 <<< 970

/-- Whether the nearest float is finite: the number lies below the limit, which its first 309 digits tell if it
has as many before the point. -/
def Decimal.isFinite (decimal : Decimal) : Bool :=
  let places := decimal.power + decimal.digits.length
  decimal.digits.isEmpty || places < 309 ||
    (places = 309 && Nat.ofDigitChars 10 ((decimal.digits ++ List.replicate 309 '0').take 309) 0 < floatLimit)

example : floatLimit < 10 ^ 309 ∧ 10 ^ 308 ≤ floatLimit := by decide +kernel

/-- The spellings of infinity and of what is not a number. -/
def specialFloats : List String :=
  [".inf", ".Inf", ".INF", "+.inf", "+.Inf", "+.INF", "-.inf", "-.Inf", "-.INF", ".nan", ".NaN", ".NAN"]

/-- Whether a text writes a float, which no integer is needed to be. -/
def isFloat (text : List Char) : Bool :=
  specialFloats.contains (String.ofList text) ||
    (!isZeroLed text && (dropPlus? text).isSome && (decimal? (dropSign text)).any Decimal.isFinite)

end RecordFill.Yaml.CoreSchema

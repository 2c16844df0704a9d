import RecordFill.Text.Search

namespace RecordFill.Text

def digitValue (c : Char) : Nat :=
  c.toNat - '0'.toNat

/-- The value of a hexadecimal digit of either case. -/
def hexValue? (c : Char) : Option Nat :=
  if c.isDigit then some (digitValue c)
  else if 'a' ≤ c && c ≤ 'f' then some (c.toNat - 'a'.toNat + 10)
  else if 'A' ≤ c && c ≤ 'F' then some (c.toNat - 'A'.toNat + 10)
  else none

/-- The number that hexadecimal digits write. -/
def hexNumber? (digits : List Char) : Option Nat :=
  digits.foldlM (fun value digit => (hexValue? digit).map (16 * value + ·)) 0

/-- The magnitude that digits write, held at the limit as soon as it passes it. -/
def cappedMagnitude (limit : Nat) (digits : List Char) : Nat :=
  digits.foldl (fun value digit => min (10 * value + digitValue digit) limit) 0

/-- Whether a minus sign leads, and what follows the sign if there is one. -/
def cutSign : List Char → Bool × List Char
  | '-' :: rest => (true, rest)
  | '+' :: rest => (false, rest)
  | rest => (false, rest)

/-- A number as a signed 64-bit one, if it is in their range. -/
def int64? (number : Int) : Option Int64 :=
  if Int64.minValue.toInt ≤ number && number ≤ Int64.maxValue.toInt then some (Int64.ofInt number) else none

/-- The number that one more digit makes, on the side of zero that the sign gives. It is missing if moving the digits
up or adding the new one leads out of the 64-bit range. -/
def appendDigit? (negative : Bool) (number : Int64) (digit : Char) : Option Int64 := do
  let tenfold ← int64? (number.toInt * 10)
  int64? (if negative then tenfold.toInt - digitValue digit else tenfold.toInt + digitValue digit)

/-- The number that digits make behind those of a number. The first one that leads out of the 64-bit range ends the
reading, at the end of the range where the sign leads. -/
def readDigits (negative : Bool) (number : Int64) : List Char → Int64
  | [] => number
  | digit :: rest =>
    match appendDigit? negative number digit with
    | some number => readDigits negative number rest
    | none => if negative then Int64.minValue else Int64.maxValue

/-- The number that a text begins with after ASCII blanks and a sign, nearest in the 64-bit range, or zero. -/
def leadingInteger (text : List Char) : Int64 :=
  let (negative, rest) := cutSign (text.dropWhile isAsciiBlank)
  readDigits negative 0 (rest.takeWhile Char.isDigit)

example : leadingInteger " -12x".toList = -12 ∧ leadingInteger "+-1".toList = 0 := by decide

example : leadingInteger "9223372036854775808".toList = 9223372036854775807 := by decide

end RecordFill.Text

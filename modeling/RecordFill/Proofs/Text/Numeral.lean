import RecordFill.Proofs.Text.Search
import RecordFill.Record
import RecordFill.Text.Numeral
import Mathlib.Algebra.Group.Int.Defs

namespace RecordFill.Text

/-- Once the limit is reached, further digits cannot lead below it. -/
theorem foldl_capped (limit value : Nat) (digits : List Char) :
    digits.foldl (fun value digit => min (10 * value + digitValue digit) limit) (min value limit) =
      min (Nat.ofDigitChars 10 digits value) limit := by
  induction digits generalizing value with
  | nil => rw [List.foldl_nil, Nat.ofDigitChars_nil]
  | cons digit digits step =>
    have reached : min (10 * min value limit + digitValue digit) limit =
        min (10 * value + digitValue digit) limit := by omega
    rw [List.foldl_cons, reached, step, Nat.ofDigitChars_cons, digitValue]

/-- The digits are read as far as the limit. -/
theorem cappedMagnitude_eq_min (limit : Nat) (digits : List Char) :
    cappedMagnitude limit digits = min (Nat.ofDigitChars 10 digits 0) limit := by
  have start := foldl_capped limit 0 digits
  rwa [Nat.zero_min] at start

/-- A negative number has a minus sign before the digits of its magnitude. -/
theorem toList_toString_int (number : Int) :
    (toString number).toList =
      if 0 ≤ number then Nat.toDigits 10 number.toNat else '-' :: Nat.toDigits 10 (-number).toNat := by
  rw [Int.toString_eq_repr, Int.repr_eq_if]
  split
  · exact Nat.toList_repr
  · rw [String.toList_append, Nat.toList_repr]
    rfl

theorem toList_toString_int_ne_nil (number : Int) : (toString number).toList ≠ [] := by
  rw [toList_toString_int]
  split
  · exact Nat.toDigits_ne_nil
  · exact List.cons_ne_nil _ _

theorem isDigit_of_mem_decimal {c : Char} {magnitude : Nat} (member : c ∈ Nat.toDigits 10 magnitude) :
    c.isDigit = true :=
  Nat.isDigit_of_mem_toDigits (by decide) (by decide) member

/-- A number in decimal digits holds nothing but digits and a minus sign. -/
theorem mem_toString_int {c : Char} {number : Int} (member : c ∈ (toString number).toList) :
    c = '-' ∨ c.isDigit = true := by
  rw [toList_toString_int] at member
  split at member
  · exact .inr (isDigit_of_mem_decimal member)
  · rcases List.mem_cons.mp member with sign | member
    · exact .inl sign
    · exact .inr (isDigit_of_mem_decimal member)

theorem isAsciiBlank_of_isDigit {c : Char} (digit : c.isDigit = true) : isAsciiBlank c = false := by
  have atLeastZero : '0'.toNat ≤ c.toNat := (Bool.and_eq_true_iff.mp digit).1 |> of_decide_eq_true
  have notSpace : c ≠ ' ' := by
    intro same
    subst same
    exact absurd atLeastZero (by decide)
  have aboveReturn : ¬ c ≤ '\x0d' := by
    intro below
    have below : c.toNat ≤ '\x0d'.toNat := below
    have separated : '\x0d'.toNat < '0'.toNat := by decide
    omega
  simp [isAsciiBlank, notSpace, aboveReturn]

theorem cutSign_of_isDigit {first : Char} {rest : List Char} (digit : first.isDigit = true) :
    cutSign (first :: rest) = (false, first :: rest) := by
  unfold cutSign
  split
  · next same =>
    obtain ⟨rfl, -⟩ := List.cons.inj same
    exact absurd digit (by decide)
  · next same =>
    obtain ⟨rfl, -⟩ := List.cons.inj same
    exact absurd digit (by decide)
  · rfl

/-- A number in decimal digits has a sign if it is negative, and behind it the digits of its magnitude. -/
theorem cutSign_toString_int (number : Int) (rest : List Char) :
    cutSign ((toString number).toList ++ rest) = (decide (number < 0), Nat.toDigits 10 number.natAbs ++ rest) := by
  rw [toList_toString_int]
  split
  · next nonnegative =>
    have magnitude : number.toNat = number.natAbs := by omega
    rw [magnitude, decide_eq_false (by omega)]
    cases digits : Nat.toDigits 10 number.natAbs with
    | nil => exact absurd digits Nat.toDigits_ne_nil
    | cons first others => exact cutSign_of_isDigit (isDigit_of_mem_decimal (digits ▸ List.mem_cons_self))
  · next negative =>
    have magnitude : (-number).toNat = number.natAbs := by omega
    rw [magnitude, decide_eq_true (by omega)]
    rfl

/-- A magnitude on the side of zero that a sign gives. -/
def signed (negative : Bool) (magnitude : Nat) : Int :=
  if negative then -magnitude else magnitude

@[simp] theorem signed_true (magnitude : Nat) : signed true magnitude = -magnitude := rfl

@[simp] theorem signed_false (magnitude : Nat) : signed false magnitude = magnitude := rfl

/-- A number is its magnitude on its side of zero. -/
theorem signed_natAbs (number : Int) : signed (number < 0) number.natAbs = number := by
  by_cases negative : number < 0
  · rw [decide_eq_true negative, signed_true]
    omega
  · rw [decide_eq_false negative, signed_false]
    omega

section Reading

variable {negative : Bool} {number : Int64} {magnitude : Nat}

theorem toInt_minValue : Int64.minValue.toInt = -2 ^ 63 := rfl

theorem toInt_maxValue : Int64.maxValue.toInt = 2 ^ 63 - 1 := rfl

/-- A number of the range is the signed 64-bit one that stands for it. -/
theorem int64?_eq_some_iff {exact : Int} : int64? exact = some number ↔ number.toInt = exact := by
  have lower := number.le_toInt
  have upper := number.toInt_lt
  simp only [int64?, toInt_minValue, toInt_maxValue, Bool.and_eq_true, decide_eq_true_eq]
  constructor
  · intro found
    split at found
    · obtain rfl := Option.some.inj found
      exact Int64.toInt_ofInt_of_le (by omega) (by omega)
    · contradiction
  · rintro rfl
    rw [if_pos (by omega), Int64.ofInt_toInt]

theorem int64?_eq_none_iff {exact : Int} : int64? exact = none ↔ exact < -2 ^ 63 ∨ 2 ^ 63 ≤ exact := by
  simp only [int64?, toInt_minValue, toInt_maxValue, Bool.and_eq_true, decide_eq_true_eq, ite_eq_right_iff,
    reduceCtorEq, imp_false]
  omega

/-- A digit is appended exactly if the number with it is in the range. Both steps lead to the side of the sign, so the
first one does not leave the range unless the two together do. -/
theorem appendDigit?_eq (same : number.toInt = signed negative magnitude) (digit : Char) :
    appendDigit? negative number digit = int64? (signed negative (10 * magnitude + digitValue digit)) := by
  rw [appendDigit?, same]
  cases tenfold : int64? (signed negative magnitude * 10) with
  | none =>
    have beyond := int64?_eq_none_iff.mp tenfold
    symm
    rw [Option.bind_eq_bind, Option.bind_none, int64?_eq_none_iff]
    cases negative with
    | false =>
      rw [signed_false] at beyond ⊢
      omega
    | true =>
      rw [signed_true] at beyond ⊢
      omega
  | some moved =>
    have exact := int64?_eq_some_iff.mp tenfold
    rw [Option.bind_eq_bind, Option.bind_some, exact]
    apply congrArg
    cases negative with
    | false =>
      rw [if_neg Bool.false_ne_true, signed_false, signed_false]
      omega
    | true =>
      rw [if_pos rfl, signed_true, signed_true]
      omega

/-- Further digits do not lower a magnitude. -/
theorem le_ofDigitChars (digits : List Char) (magnitude : Nat) : magnitude ≤ Nat.ofDigitChars 10 digits magnitude := by
  rw [Nat.ofDigitChars_eq_ofDigitChars_zero]
  exact Nat.le_add_right_of_le (Nat.le_mul_of_pos_left magnitude (Nat.pow_pos (by decide)))

/-- Digits read behind a number make the number of the range that is nearest to the one that all of them write. -/
theorem toInt_readDigits (same : number.toInt = signed negative magnitude) (digits : List Char) :
    (readDigits negative number digits).toInt =
      max (-2 ^ 63) (min (signed negative (Nat.ofDigitChars 10 digits magnitude)) (2 ^ 63 - 1)) := by
  induction digits generalizing number magnitude with
  | nil =>
    have lower := number.le_toInt
    have upper := number.toInt_lt
    rw [readDigits, Nat.ofDigitChars_nil]
    omega
  | cons digit rest step =>
    rw [readDigits, appendDigit?_eq same, Nat.ofDigitChars_cons, ← digitValue]
    cases appended : int64? (signed negative (10 * magnitude + digitValue digit)) with
    | some next => exact step (int64?_eq_some_iff.mp appended)
    | none =>
      -- the digits not read lead further to the side where the range was left
      have beyond := int64?_eq_none_iff.mp appended
      have further := le_ofDigitChars rest (10 * magnitude + digitValue digit)
      cases negative with
      | false =>
        rw [signed_false] at beyond ⊢
        simp only [Bool.false_eq_true, if_false, toInt_maxValue]
        omega
      | true =>
        rw [signed_true] at beyond ⊢
        simp only [if_true, toInt_minValue]
        omega

/-- Digits by themselves make the number nearest to the one that they write. -/
theorem toInt_readDigits_zero (negative : Bool) (digits : List Char) :
    (readDigits negative 0 digits).toInt =
      max (-2 ^ 63) (min (signed negative (Nat.ofDigitChars 10 digits 0)) (2 ^ 63 - 1)) :=
  toInt_readDigits (by cases negative <;> rfl) digits

/-- A number in the range is read back from the digits of its magnitude, wherever they end. -/
theorem readDigits_decimal (same : number.toInt = signed negative magnitude) {rest : List Char}
    (ends : ∀ c ∈ rest.head?, c.isDigit = false) :
    readDigits negative 0 ((Nat.toDigits 10 magnitude ++ rest).takeWhile Char.isDigit) = number := by
  have lower := number.le_toInt
  have upper := number.toInt_lt
  have digits : ∀ c ∈ Nat.toDigits 10 magnitude, c.isDigit = true := fun _ member => isDigit_of_mem_decimal member
  rw [(run_append digits ends).1, ← Int64.toInt_inj, toInt_readDigits_zero, Nat.ofDigitChars_ten_toDigits, ← same]
  omega

end Reading

/-- A number in decimal digits is read as itself behind blanks and in front of anything but a digit. -/
theorem leadingInteger_decimal (number : Int64) {rest : List Char} (ends : ∀ c ∈ rest.head?, c.isDigit = false) :
    leadingInteger ((toString number.toInt).toList ++ rest) = number := by
  have solid : ((toString number.toInt).toList ++ rest).dropWhile isAsciiBlank =
      (toString number.toInt).toList ++ rest := by
    cases written : (toString number.toInt).toList with
    | nil => exact absurd written (toList_toString_int_ne_nil number.toInt)
    | cons first others =>
      apply List.dropWhile_cons_of_neg
      rcases mem_toString_int (written ▸ List.mem_cons_self) with rfl | digit
      · decide
      · simp [isAsciiBlank_of_isDigit digit]
  rw [leadingInteger, solid, cutSign_toString_int]
  exact readDigits_decimal (signed_natAbs number.toInt).symm ends

/-- Blanks in front of a numeral make no difference. -/
theorem leadingInteger_append_of_blank {blanks : List Char} (blank : ∀ c ∈ blanks, isAsciiBlank c = true)
    (rest : List Char) : leadingInteger (blanks ++ rest) = leadingInteger rest := by
  rw [leadingInteger, leadingInteger, List.dropWhile_append_of_pos blank]

end RecordFill.Text

namespace RecordFill.RecordId

/-- The digits of an id hold no character but digits and the minus sign. -/
theorem not_mem_decimal {c : Char} (noSign : c ≠ '-') (noDigit : c.isDigit = false) (id : RecordId) :
    c ∉ id.decimal.toList := by
  intro member
  rcases Text.mem_toString_int member with sign | digit
  · exact noSign sign
  · rw [noDigit] at digit
    contradiction

end RecordFill.RecordId

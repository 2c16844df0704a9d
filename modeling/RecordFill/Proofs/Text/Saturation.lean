import RecordFill.Proofs.Text.Numeral

namespace RecordFill.Text

/-- A text in four parts: ASCII blanks, at most one sign, decimal digits, and what follows. Each of the first three goes
as far as it can. -/
@[ext]
structure Numeral where
  blanks : List Char
  sign : List Char
  digits : List Char
  rest : List Char
  blank : ∀ c ∈ blanks, isAsciiBlank c = true
  blanksEnd : ∀ c ∈ (sign ++ (digits ++ rest)).head?, isAsciiBlank c = false
  single : sign = [] ∨ sign = ['+'] ∨ sign = ['-']
  signEnds : sign = [] → ∀ c ∈ (digits ++ rest).head?, c ≠ '+' ∧ c ≠ '-'
  digit : ∀ c ∈ digits, c.isDigit = true
  digitsEnd : ∀ c ∈ rest.head?, c.isDigit = false

namespace Numeral

def text (numeral : Numeral) : List Char :=
  numeral.blanks ++ (numeral.sign ++ (numeral.digits ++ numeral.rest))

/-- The integer that the digits write behind the sign, whatever its size; it is zero if there are none. -/
def number (numeral : Numeral) : Int :=
  signed (numeral.sign = ['-']) (Nat.ofDigitChars 10 numeral.digits 0)

theorem cutSign_sign (numeral : Numeral) :
    cutSign (numeral.sign ++ (numeral.digits ++ numeral.rest)) =
      (decide (numeral.sign = ['-']), numeral.digits ++ numeral.rest) := by
  obtain unsigned | plus | minus := numeral.single
  · have ends := numeral.signEnds unsigned
    rw [unsigned, List.nil_append]
    unfold cutSign
    split
    · next same => exact absurd rfl (ends '-' (by rw [same]; rfl)).2
    · next same => exact absurd rfl (ends '+' (by rw [same]; rfl)).1
    · rfl
  · rw [plus]
    rfl
  · rw [minus]
    rfl

/-- Behind the blanks a text has what the other parts make. -/
theorem blanks_text (numeral : Numeral) :
    numeral.text.takeWhile isAsciiBlank = numeral.blanks ∧
      numeral.text.dropWhile isAsciiBlank = numeral.sign ++ (numeral.digits ++ numeral.rest) :=
  run_append numeral.blank numeral.blanksEnd

/-- The digits are those in front of what follows. -/
theorem digits_rest (numeral : Numeral) :
    (numeral.digits ++ numeral.rest).takeWhile Char.isDigit = numeral.digits ∧
      (numeral.digits ++ numeral.rest).dropWhile Char.isDigit = numeral.rest :=
  run_append numeral.digit numeral.digitsEnd

/-- The parts of a text are determined. -/
theorem text_injective : Function.Injective text := by
  intro numeral other same
  have blanks := numeral.blanks_text
  have blanks' := other.blanks_text
  rw [same] at blanks
  have behind := blanks.2.symm.trans blanks'.2
  have cut := numeral.cutSign_sign
  rw [behind, other.cutSign_sign] at cut
  have unsigned := (Prod.mk.inj cut).2
  have digits := numeral.digits_rest
  rw [← unsigned, other.digits_rest.1, other.digits_rest.2] at digits
  rw [unsigned] at behind
  exact Numeral.ext (blanks.1.symm.trans blanks'.1) (List.append_cancel_right behind) digits.1.symm digits.2.symm

theorem exists_sign (text : List Char) :
    ∃ sign rest, sign ++ rest = text ∧ (sign = [] ∨ sign = ['+'] ∨ sign = ['-']) ∧
      (sign = [] → ∀ c ∈ rest.head?, c ≠ '+' ∧ c ≠ '-') := by
  cases text with
  | nil => exact ⟨[], [], rfl, .inl rfl, by simp⟩
  | cons first rest =>
    by_cases plus : first = '+'
    · exact ⟨['+'], rest, by rw [plus]; rfl, .inr (.inl rfl), by simp⟩
    · by_cases minus : first = '-'
      · exact ⟨['-'], rest, by rw [minus]; rfl, .inr (.inr rfl), by simp⟩
      · exact ⟨[], first :: rest, rfl, .inl rfl, by simp [plus, minus]⟩

/-- Every text has these parts. -/
theorem exists_text_eq (text : List Char) : ∃ numeral : Numeral, numeral.text = text := by
  have stops (class? : Char → Bool) (text : List Char) : ∀ c ∈ (text.dropWhile class?).head?, class? c = false := by
    intro c first
    have outside := List.head?_dropWhile_not class? text
    rw [Option.mem_def.mp first] at outside
    exact outside
  obtain ⟨sign, unsigned, behind, single, signEnds⟩ := exists_sign (text.dropWhile isAsciiBlank)
  have inside (class? : Char → Bool) (text : List Char) : ∀ c ∈ text.takeWhile class?, class? c = true :=
    List.all_eq_true.mp List.all_takeWhile
  have digits : unsigned.takeWhile Char.isDigit ++ unsigned.dropWhile Char.isDigit = unsigned :=
    List.takeWhile_append_dropWhile
  refine ⟨⟨text.takeWhile isAsciiBlank, sign, unsigned.takeWhile Char.isDigit, unsigned.dropWhile Char.isDigit,
    inside _ _, ?_, single, ?_, inside _ _, stops _ _⟩, ?_⟩
  · rw [digits, behind]
    exact stops _ _
  · rwa [digits]
  · show text.takeWhile isAsciiBlank ++
      (sign ++ (unsigned.takeWhile Char.isDigit ++ unsigned.dropWhile Char.isDigit)) = text
    rw [digits, behind, List.takeWhile_append_dropWhile]

/-- The leading integer of a text is read from its digits. -/
theorem leadingInteger_text (numeral : Numeral) :
    leadingInteger numeral.text = readDigits (numeral.sign = ['-']) 0 numeral.digits := by
  rw [leadingInteger, numeral.blanks_text.2, numeral.cutSign_sign]
  exact congrArg _ numeral.digits_rest.1

theorem toInt_leadingInteger_text (numeral : Numeral) :
    (leadingInteger numeral.text).toInt = max (-2 ^ 63) (min numeral.number (2 ^ 63 - 1)) := by
  rw [leadingInteger_text, toInt_readDigits_zero, number]

/-- The numeral with zeros in front of its digits. -/
def padded (numeral : Numeral) (zeros : Nat) : Numeral where
  blanks := numeral.blanks
  sign := numeral.sign
  digits := List.replicate zeros '0' ++ numeral.digits
  rest := numeral.rest
  blank := numeral.blank
  blanksEnd := by
    have ends := numeral.blanksEnd
    obtain unsigned | plus | minus := numeral.single
    · rw [unsigned] at ends ⊢
      cases zeros with
      | zero => exact ends
      | succ zeros => simp [List.replicate_succ, isAsciiBlank_of_isDigit]
    · simp [plus, isAsciiBlank]
    · simp [minus, isAsciiBlank]
  single := numeral.single
  signEnds unsigned := by
    have ends := numeral.signEnds unsigned
    cases zeros with
    | zero => exact ends
    | succ zeros => simp [List.replicate_succ]
  digit := by
    intro c member
    rcases List.mem_append.mp member with zero | member
    · rw [List.eq_of_mem_replicate zero]
      rfl
    · exact numeral.digit c member
  digitsEnd := numeral.digitsEnd

/-- Zeros in front of the digits leave the number as it is. -/
theorem number_padded (numeral : Numeral) (zeros : Nat) : (numeral.padded zeros).number = numeral.number := by
  have same : Nat.ofDigitChars 10 (List.replicate zeros '0' ++ numeral.digits) 0 =
      Nat.ofDigitChars 10 numeral.digits 0 := by
    rw [Nat.ofDigitChars_append, Nat.ofDigitChars_replicate_zero, Nat.mul_zero]
  exact congrArg (signed _) same

end Numeral

/-- A text divides in one way into blanks, a sign, digits and what follows. The leading integer is the number that all
of the digits write, held at the ends of the range: these are reached by the numbers at them and beyond, and however
many zeros stand in front of the digits, they change nothing. -/
theorem leadingInteger_saturates (text : List Char) :
    ∃ numeral : Numeral, numeral.text = text ∧ (∀ other : Numeral, other.text = text → other = numeral) ∧
      (leadingInteger text).toInt = max (-2 ^ 63) (min numeral.number (2 ^ 63 - 1)) ∧
      (leadingInteger text = Int64.maxValue ↔ 2 ^ 63 - 1 ≤ numeral.number) ∧
      (leadingInteger text = Int64.minValue ↔ numeral.number ≤ -2 ^ 63) ∧
      ∀ zeros, leadingInteger (numeral.blanks ++
        (numeral.sign ++ (List.replicate zeros '0' ++ numeral.digits ++ numeral.rest))) = leadingInteger text := by
  obtain ⟨numeral, rfl⟩ := Numeral.exists_text_eq text
  have value := numeral.toInt_leadingInteger_text
  refine ⟨numeral, rfl, fun _ same => Numeral.text_injective same, value, ?_, ?_, ?_⟩
  · rw [← Int64.toInt_inj, value, toInt_maxValue]
    omega
  · rw [← Int64.toInt_inj, value, toInt_minValue]
    omega
  · intro zeros
    have padded := (numeral.padded zeros).toInt_leadingInteger_text
    rw [numeral.number_padded, ← value] at padded
    exact Int64.toInt_inj.mp padded

end RecordFill.Text

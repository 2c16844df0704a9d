import RecordFill.Json.Value

namespace RecordFill.Json

open Text (hexNumber? hexValue?)

theorem hexValue?_hexDigit : ∀ value < 16, hexValue? (hexDigit value) = some value := by decide

/-- The four digits of a control character write its code point. -/
theorem hexNumber?_control {c : Char} (control : c < ' ') :
    hexNumber? ['0', '0', hexDigit (c.toNat / 16), hexDigit (c.toNat % 16)] = some c.toNat := by
  have below : c.toNat < 0x20 := control
  have high := hexValue?_hexDigit (c.toNat / 16) (by omega)
  have low := hexValue?_hexDigit (c.toNat % 16) (by omega)
  have zero : hexValue? '0' = some 0 := by decide
  simp only [hexNumber?, List.foldlM_cons, List.foldlM_nil, high, low, zero, Option.map_some, Option.bind_eq_bind,
    Option.bind_some, Option.pure_def]
  congr 1
  omega

/-- A control character is no half of a pair. -/
theorem readQuoted_control (held : Held) {c : Char} (control : c < ' ') (rest : List Char) :
    readQuoted held ('\\' :: 'u' :: '0' :: '0' :: hexDigit (c.toNat / 16) :: hexDigit (c.toNat % 16) :: rest) =
      readQuoted (held.map (c :: ·)) rest := by
  have below : c.toNat < 0x20 := control
  have noHigh : isHighSurrogate c.toNat = false := by simp [isHighSurrogate]; omega
  have noLow : isLowSurrogate c.toNat = false := by simp [isLowSurrogate]; omega
  rw [readQuoted]
  simp only [hexNumber?_control control, noHigh, noLow, Bool.false_eq_true, if_false, Char.ofNat_toNat]

/-- A character that needs no escape is read as it stands. -/
theorem readQuoted_plain (held : Held) {c : Char} (noQuote : c ≠ '"') (noBackslash : c ≠ '\\') (solid : ¬ c < ' ')
    (rest : List Char) : readQuoted held (c :: rest) = readQuoted (held.map (c :: ·)) rest := by
  rw [readQuoted]
  · rw [if_neg solid]
  all_goals simp_all

/-- A character between quotes is read as itself. -/
theorem readQuoted_quotedChar (held : Held) (c : Char) (rest : List Char) :
    readQuoted held (quotedChar c ++ rest) = readQuoted (held.map (c :: ·)) rest := by
  unfold quotedChar
  split
  case h_8 =>
    split
    · next control => exact readQuoted_control held control rest
    · next noQuote noBackslash _ _ _ _ _ solid => exact readQuoted_plain held noQuote noBackslash solid rest
  all_goals
    simp only [List.cons_append, List.nil_append]
    rw [readQuoted]
    · simp only [escaped?]
    · simp

theorem readQuoted_flatMap (held : List Char) (text rest : List Char) :
    readQuoted (some held) (text.flatMap quotedChar ++ '"' :: rest) = some (some (text.reverse ++ held), rest) := by
  induction text generalizing held with
  | nil =>
    rw [List.flatMap_nil, List.nil_append, readQuoted]
    rfl
  | cons c text step =>
    rw [List.flatMap_cons, List.append_assoc, readQuoted_quotedChar, Option.map_some, step, List.reverse_cons,
      List.append_assoc]
    rfl

/-- A text between quotes is the content of a string. -/
theorem content?_flatMap (text : String) (rest : List Char) :
    content? (text.toList.flatMap quotedChar ++ '"' :: rest) = some (.text text, rest) := by
  simp only [content?, readQuoted_flatMap, Option.bind_eq_bind, Option.bind_some, Option.pure_def, List.append_nil,
    List.reverse_reverse, String.ofList_toList]

end RecordFill.Json

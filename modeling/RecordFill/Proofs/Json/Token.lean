import RecordFill.Json.Token
import RecordFill.Proofs.Json.Quoted
import RecordFill.Proofs.Text.Numeral

namespace RecordFill.Json

/-- A character that may go on with a number behind a digit. -/
def continuesNumber (c : Char) : Bool :=
  c.isDigit || c = '.' || c = 'e' || c = 'E'

/-- No number goes on in a text. -/
def EndsNumber (text : List Char) : Prop :=
  ∀ c ∈ text.head?, continuesNumber c = false

theorem endsNumber_nil : EndsNumber [] := by
  intro c first
  contradiction

theorem endsNumber_cons {c : Char} (stops : continuesNumber c = false) (text : List Char) : EndsNumber (c :: text) := by
  intro first same
  obtain rfl := Option.some.inj same
  exact stops

theorem endsNumber_of_isSpace {spaces : List Char} (blank : ∀ c ∈ spaces, isSpace c = true) : EndsNumber spaces := by
  intro c first
  have space := blank c (List.mem_of_mem_head? first)
  simp only [isSpace, Bool.or_eq_true, decide_eq_true_eq] at space
  rcases space with ((rfl | rfl) | rfl) | rfl <;> rfl

theorem EndsNumber.append {text more : List Char} (ends : EndsNumber text) (endsMore : EndsNumber more) :
    EndsNumber (text ++ more) := by
  cases text with
  | nil => exact endsMore
  | cons c text => exact endsNumber_cons (ends c rfl) (text ++ more)

section Numbers

variable {number : Nat} {rest : List Char}

/-- The digits of a number do not begin with a zero unless they are this zero. -/
theorem head_decimal_ne_zero (positive : 0 < number) : (Nat.toDigits 10 number).head? ≠ some '0' := by
  induction number using Nat.strongRecOn with
  | ind number step =>
    rw [Nat.toDigits_eq_if (by decide)]
    split
    · next small =>
      have leading : ∀ digit < 10, 0 < digit → digit.digitChar ≠ '0' := by decide
      simpa using leading number small positive
    · next large =>
      have front := step (number / 10) (by omega) (by omega)
      cases written : Nat.toDigits 10 (number / 10) with
      | nil => exact absurd written Nat.toDigits_ne_nil
      | cons first others =>
        rw [written] at front
        exact front

/-- Only zero is written with a zero in front. -/
theorem noLeadingZero_decimal (number : Nat) :
    ¬ ((Nat.toDigits 10 number).length > 1 ∧ (Nat.toDigits 10 number).head? = some '0') := by
  intro ⟨long, leading⟩
  cases number with
  | zero => simp at long
  | succ number => exact head_decimal_ne_zero (Nat.succ_pos number) leading

theorem digits?_decimal (ends : EndsNumber rest) :
    digits? (Nat.toDigits 10 number ++ rest) = some (Nat.toDigits 10 number, rest) := by
  have digits : ∀ c ∈ Nat.toDigits 10 number, c.isDigit = true := fun _ member => Text.isDigit_of_mem_decimal member
  have noDigit : ∀ c ∈ rest.head?, c.isDigit = false := by
    intro c first
    have stops := ends c first
    simp only [continuesNumber, Bool.or_eq_false_iff] at stops
    exact stops.1.1.1
  cases written : Nat.toDigits 10 number with
  | nil => exact absurd written Nat.toDigits_ne_nil
  | cons first others =>
    rw [written] at digits
    obtain ⟨taken, dropped⟩ :=
      Text.run_append (fun c member => digits c (List.mem_cons_of_mem first member)) noDigit
    rw [List.cons_append, digits?, if_pos (digits first List.mem_cons_self), taken, dropped]

theorem fraction?_of_endsNumber (ends : EndsNumber rest) : fraction? rest = some ([], rest) := by
  unfold fraction?
  split
  · exact absurd (ends '.' rfl) (by decide)
  · rfl

theorem exponent?_of_endsNumber (ends : EndsNumber rest) : exponent? rest = some ([], rest) := by
  unfold exponent?
  split
  · next letter after =>
    have stops := ends letter rfl
    simp only [continuesNumber, Bool.or_eq_false_iff, decide_eq_false_iff_not] at stops
    simp [stops.1.2, stops.2]
  · rfl

/-- The integer that a magnitude and a sign make, where minus zero is none. -/
theorem integer?_decimal (short : (Nat.toDigits 10 number).length ≤ integerDigits) {negative : Bool}
    (signed : negative = true → 0 < number) :
    integer? negative (Nat.toDigits 10 number) = some (if negative then -(number : Int) else number) := by
  rw [integer?, if_neg (Nat.not_lt.mpr short), Nat.ofDigitChars_ten_toDigits]
  cases negative with
  | false => rfl
  | true =>
    have nonzero : number ≠ 0 := Nat.ne_of_gt (signed rfl)
    simp [nonzero]

/-- A number in decimal digits is read as itself where no number goes on. -/
theorem magnitude?_decimal (short : (Nat.toDigits 10 number).length ≤ integerDigits) {negative : Bool}
    (signed : negative = true → 0 < number) (ends : EndsNumber rest) :
    magnitude? negative (Nat.toDigits 10 number ++ rest) =
      some (.integer (if negative then -(number : Int) else number), rest) := by
  have noLeadingZero : ((Nat.toDigits 10 number).length > 1 && (Nat.toDigits 10 number).head? = some '0') = false := by
    simpa using noLeadingZero_decimal number
  simp only [magnitude?, digits?_decimal ends, fraction?_of_endsNumber ends, exponent?_of_endsNumber ends,
    integer?_decimal short signed, noLeadingZero, Option.bind_eq_bind, Option.bind_some, Option.pure_def,
    Bool.false_eq_true, if_false, List.isEmpty_nil, Bool.and_self, if_true, Option.elim_some]

end Numbers

namespace Token

theorem next?_of_isDigit {first : Char} {rest : List Char} (digit : first.isDigit = true) :
    next? (first :: rest) =
      ((magnitude? false (first :: rest)).or (word? (first :: rest))).map fun (value, rest) =>
        (.scalar value, rest) := by
  rw [next?]
  · intro nothing
    contradiction
  all_goals
    intro _ same
    obtain ⟨rfl, -⟩ := List.cons.inj same
    exact absurd digit (by decide)

theorem next?_of_word {word : List Char} {scalar : Scalar} (listed : (word, scalar) ∈ words) (rest : List Char) :
    next? (word ++ rest) = some (.scalar scalar, rest) := by
  simp only [words, List.mem_cons, Prod.mk.injEq, List.not_mem_nil, or_false] at listed
  rcases listed with ⟨rfl, rfl⟩ | ⟨rfl, rfl⟩ | ⟨rfl, rfl⟩ <;> rfl

/-- No token begins with a blank. -/
theorem isSpace_of_next? {first : Char} {rest after : List Char} {token : Token}
    (found : next? (first :: rest) = some (token, after)) : isSpace first = false := by
  cases space : isSpace first with
  | false => rfl
  | true =>
    simp only [isSpace, Bool.or_eq_true, decide_eq_true_eq] at space
    rcases space with ((rfl | rfl) | rfl) | rfl <;>
      simp [next?, magnitude?, digits?, word?, words, Text.remainder?] at found

/-- Behind its blanks a text is read one token at a time. -/
theorem readAfter_eq (done : List Token) (text : List Char) :
    readAfter done text =
      if (text.dropWhile isSpace).isEmpty then some done.reverse
      else (next? (text.dropWhile isSpace)).bind fun (token, rest) => readAfter (token :: done) rest := by
  rw [readAfter]
  dsimp only
  split
  · rfl
  · split
    · next missing => rw [missing, Option.bind_none]
    · next found => rw [found, Option.bind_some]

/-- A token is read before what follows it. -/
theorem readAfter_of_next? {text rest : List Char} {token : Token} (found : next? text = some (token, rest))
    (done : List Token) : readAfter done text = readAfter (token :: done) rest := by
  cases text with
  | nil => contradiction
  | cons first others =>
    have solid : ¬ isSpace first = true := by simp [isSpace_of_next? found]
    rw [readAfter_eq, List.dropWhile_cons_of_neg solid, found, Option.bind_some]
    rfl

theorem readAfter_of_isSpace {c : Char} (space : isSpace c = true) (done : List Token) (text : List Char) :
    readAfter done (c :: text) = readAfter done text := by
  rw [readAfter_eq, readAfter_eq, List.dropWhile_cons_of_pos space]

theorem readAfter_nil (done : List Token) : readAfter done [] = some done.reverse := by
  rw [readAfter_eq]
  rfl

end Token

open Token

/-- Characters spell tokens when they are read as these wherever no number goes on behind them. -/
def Spells (text : List Char) (tokens : List Token) : Prop :=
  ∀ done rest, EndsNumber rest → readAfter done (text ++ rest) = readAfter (tokens.reverse ++ done) rest

namespace Spells

variable {text more : List Char} {tokens others : List Token}

theorem nil : Spells [] [] := by
  intro done rest ends
  rfl

theorem read? (spells : Spells text tokens) : Token.read? text = some tokens := by
  have whole := spells [] [] endsNumber_nil
  rw [List.append_nil, List.append_nil, readAfter_nil, List.reverse_reverse] at whole
  exact whole

/-- Spellings may be put together where no number goes on from the first into the second. -/
theorem append (spells : Spells text tokens) (behind : Spells more others) (ends : EndsNumber more) :
    Spells (text ++ more) (tokens ++ others) := by
  intro done rest endsRest
  rw [List.append_assoc, spells done _ (ends.append endsRest), behind _ rest endsRest, List.reverse_append,
    List.append_assoc]

/-- One token is spelled by what it is read from. -/
theorem single {token : Token} (found : ∀ rest, EndsNumber rest → next? (text ++ rest) = some (token, rest)) :
    Spells text [token] := by
  intro done rest ends
  exact readAfter_of_next? (found rest ends) done

/-- A mark stands in front of anything. -/
theorem mark {c : Char} {token : Token} (found : ∀ rest, next? (c :: rest) = some (token, rest))
    (behind : Spells more others) : Spells (c :: more) (token :: others) := by
  intro done rest ends
  rw [List.cons_append, readAfter_of_next? (found _) done, behind _ rest ends, List.reverse_cons, List.append_assoc]
  rfl

/-- Blanks stand in front of anything. -/
theorem blanks {spaces : List Char} (blank : ∀ c ∈ spaces, isSpace c = true) (behind : Spells more others) :
    Spells (spaces ++ more) others := by
  intro done rest ends
  induction spaces with
  | nil => exact behind done rest ends
  | cons c spaces step =>
    rw [List.cons_append, List.cons_append, readAfter_of_isSpace (blank c List.mem_cons_self)]
    exact step fun c member => blank c (List.mem_cons_of_mem _ member)

theorem quoted (text : String) : Spells (Content.text text).quoted [.scalar (.string (.text text))] := by
  apply single
  intro rest ends
  have content := content?_flatMap text rest
  simp only [Content.quoted, List.cons_append, List.append_assoc, List.nil_append, next?, content, Option.map_some]

/-- An integer of at most twenty digits is spelled by its decimal digits and a sign. -/
theorem integer {number : Int} (short : (Nat.toDigits 10 number.natAbs).length ≤ integerDigits) :
    Spells (toString number).toList [.scalar (.integer number)] := by
  apply single
  intro rest ends
  rw [Text.toList_toString_int]
  split
  · next nonnegative =>
    have absolute : number.natAbs = number.toNat := by omega
    have read : magnitude? false (Nat.toDigits 10 number.toNat ++ rest) = some (.integer number.toNat, rest) :=
      magnitude?_decimal (absolute ▸ short) (by simp) ends
    cases written : Nat.toDigits 10 number.toNat with
    | nil => exact absurd written Nat.toDigits_ne_nil
    | cons first digits =>
      have digit : first.isDigit = true := Text.isDigit_of_mem_decimal (written ▸ List.mem_cons_self)
      rw [written, List.cons_append] at read
      rw [List.cons_append, next?_of_isDigit digit, read]
      simp [Int.toNat_of_nonneg nonnegative]
  · next negative =>
    have absolute : number.natAbs = (-number).toNat := by omega
    have read : magnitude? true (Nat.toDigits 10 (-number).toNat ++ rest) =
        some (.integer (-((-number).toNat : Int)), rest) :=
      magnitude?_decimal (absolute ▸ short) (by omega) ends
    have signed : -((-number).toNat : Int) = number := by omega
    rw [List.cons_append, next?, read, signed, Option.map_some]

end Spells

end RecordFill.Json

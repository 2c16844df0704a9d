import RecordFill.Proofs.Attempts
import RecordFill.Proofs.Like.Expression
import RecordFill.Proofs.Like.Reading

namespace RecordFill.Like

/-- The piece that an element stands for; a bound stands for none. -/
def Element.piece? : Element → Option Piece
  | .point => some .anyOne
  | .points => some .anyRun
  | .letter c => some (.literal c)
  | .start | .stop => none

/-- The pieces that the text between the bounds of an expression stands for. -/
def Expression.pieces? (written : List Char) : Option (List Piece) :=
  (readElements? written).bind fun elements => elements.mapM Element.piece?

theorem Expression.pieces?_regex (pieces : List Piece) : pieces? (pieces.flatMap Piece.regex) = some pieces := by
  have nothing : ∀ rest, ([] : List Char) ≠ '*' :: rest := by simp
  have elements : readElements? (pieces.flatMap Piece.regex) = some (pieces.map Piece.element) := by
    simpa [readElements?] using readElements?_regex_append nothing pieces
  rw [pieces?, elements, Option.bind_some]
  apply mapM_map_of_inverse
  intro piece
  cases piece <;> rfl

/-- Patterns with the same expression have the same pieces. -/
theorem regex_eq_iff {pattern other : List Char} : regex pattern = regex other ↔ read pattern = read other := by
  unfold regex
  rw [List.append_left_inj, List.append_right_inj]
  constructor
  · intro same
    have readings := congrArg Expression.pieces? same
    rw [Expression.pieces?_regex, Expression.pieces?_regex] at readings
    exact Option.some.inj readings
  · intro same
    rw [same]

/-- The number of backslashes that a text ends with. -/
def closingBackslashes (text : List Char) : Nat :=
  (text.reverse.takeWhile (· = '\\')).length

theorem closingBackslashes_concat (text : List Char) (c : Char) :
    closingBackslashes (text ++ [c]) = if c = '\\' then closingBackslashes text + 1 else 0 := by
  by_cases backslash : c = '\\' <;> simp [closingBackslashes, backslash]

/-- A character is escaped by an odd number of backslashes before it, since escaped backslashes are pairs. -/
def EscapedBehind (before : List Char) : Prop :=
  closingBackslashes before % 2 = 1

/-- One more piece escapes nothing behind it where nothing was escaped before. -/
theorem not_escapedBehind_append_piece {before : List Char} (whole : ¬ EscapedBehind before) (piece : Piece) :
    ¬ EscapedBehind (before ++ piece.regex) := by
  unfold EscapedBehind at *
  cases piece with
  | anyRun =>
    rw [Piece.regex, List.append_cons, closingBackslashes_concat]
    simp
  | anyOne => simp [Piece.regex, closingBackslashes_concat]
  | literal c =>
    rw [Piece.regex, escape]
    -- An escaped backslash adds two to the run, and any other letter ends it.
    split
    · rw [List.append_cons, closingBackslashes_concat, closingBackslashes_concat, if_pos rfl]
      split <;> omega
    · next plain =>
      have noBackslash : c ≠ '\\' := by
        rintro rfl
        exact plain (by decide)
      simp [closingBackslashes_concat, noBackslash]

/-- Whole pieces escape nothing behind them. -/
theorem not_escapedBehind_append_regex {before : List Char} (whole : ¬ EscapedBehind before) (pieces : List Piece) :
    ¬ EscapedBehind (before ++ pieces.flatMap Piece.regex) := by
  induction pieces generalizing before with
  | nil => simpa using whole
  | cons piece pieces step =>
    rw [List.flatMap_cons, ← List.append_assoc]
    exact step (not_escapedBehind_append_piece whole piece)

/-- A letter behind whole pieces is escaped exactly if it is a metacharacter. -/
theorem exists_place_of_letter (front : List Piece) (c : Char) :
    ∃ before, (front ++ [Piece.literal c]).flatMap Piece.regex = before ++ [c] ∧
      (EscapedBehind before ↔ c ∈ metacharacters) := by
  have nothing : ¬ EscapedBehind [] := by simp [EscapedBehind, closingBackslashes]
  have whole : ¬ EscapedBehind (front.flatMap Piece.regex) := not_escapedBehind_append_regex nothing front
  rw [List.flatMap_append, List.flatMap_singleton, Piece.regex, escape]
  split
  · next special =>
    refine ⟨front.flatMap Piece.regex ++ ['\\'], by simp, ?_⟩
    have escaped : EscapedBehind (front.flatMap Piece.regex ++ ['\\']) := by
      unfold EscapedBehind at *
      rw [closingBackslashes_concat, if_pos rfl]
      omega
    exact iff_of_true escaped (by simpa using special)
  · next plain => exact ⟨front.flatMap Piece.regex, rfl, iff_of_false whole (by simpa using plain)⟩

/-- Patterns have the same expression exactly if they write the same pieces. Between its bounds the expression gives
them back, and each letter stands there escaped if it is a metacharacter and unescaped if it is none. -/
theorem regex_readsBack (pattern : List Char) :
    ∃ pieces body, Writes pattern pieces ∧ (∀ others, Writes pattern others → others = pieces) ∧
      regex pattern = "(?is)^".toList ++ body ++ ['$'] ∧
      (∀ other, regex other = regex pattern ↔ Writes other pieces) ∧
      Expression.pieces? body = some pieces ∧
      ∀ front c back, pieces = front ++ .literal c :: back →
        ∃ before after, body = before ++ c :: after ∧
          Expression.pieces? (before ++ [c]) = some (front ++ [.literal c]) ∧
          Expression.pieces? after = some back ∧ (EscapedBehind before ↔ c ∈ metacharacters) := by
  refine ⟨read pattern, (read pattern).flatMap Piece.regex, writes_read pattern, ?_, rfl, ?_,
    Expression.pieces?_regex _, ?_⟩
  · intro others writes
    exact writes.unique (writes_read pattern)
  · intro other
    rw [writes_iff_read, regex_eq_iff]
  · intro front c back divides
    obtain ⟨before, written, escaped⟩ := exists_place_of_letter front c
    refine ⟨before, back.flatMap Piece.regex, ?_, ?_, Expression.pieces?_regex back, escaped⟩
    · rw [divides, List.append_cons, List.flatMap_append, written]
      simp
    · rw [← written, Expression.pieces?_regex]

-- A backslash at the end of a pattern writes the same letter as an escaped one.
example : regex "\\".toList = regex "\\\\".toList := by decide

end RecordFill.Like

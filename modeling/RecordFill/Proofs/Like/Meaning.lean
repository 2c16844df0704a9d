import RecordFill.Proofs.Like.Expression
import RecordFill.Proofs.Like.Reading
import RecordFill.Proofs.Text.Folding
import RecordFill.Query

namespace RecordFill.Like

open Text (fold fold_eq_iff)

/-- A pattern describes a value that divides into one part for each of its units. A percent sign takes any run, an
underscore any one character, an escaped character one that folds like it, and a backslash at the end a backslash. -/
inductive Describes : (pattern value : List Char) → Prop where
  | nothing : Describes [] []
  | anyRun {pattern value} (run : List Char) : Describes pattern value → Describes ('%' :: pattern) (run ++ value)
  | anyOne {pattern value} (c : Char) : Describes pattern value → Describes ('_' :: pattern) (c :: value)
  | escaped {pattern value} {expected found : Char} : fold found = fold expected → Describes pattern value →
      Describes ('\\' :: expected :: pattern) (found :: value)
  | lastBackslash : Describes ['\\'] ['\\']
  | ordinary {pattern value} {expected found : Char} : expected ≠ '%' → expected ≠ '_' → expected ≠ '\\' →
      fold found = fold expected → Describes pattern value → Describes (expected :: pattern) (found :: value)

theorem describes_nothing_iff {value : List Char} : Describes [] value ↔ value = [] := by
  constructor
  · intro describes
    cases describes
    rfl
  · rintro rfl
    exact .nothing

theorem describes_anyRun_iff {pattern value : List Char} :
    Describes ('%' :: pattern) value ↔ ∃ run behind, value = run ++ behind ∧ Describes pattern behind := by
  constructor
  · intro describes
    cases describes with
    | anyRun run behind => exact ⟨run, _, rfl, behind⟩
    | ordinary noPercent => contradiction
  · rintro ⟨run, behind, rfl, describes⟩
    exact .anyRun run describes

theorem describes_anyOne_iff {pattern value : List Char} :
    Describes ('_' :: pattern) value ↔ ∃ c behind, value = c :: behind ∧ Describes pattern behind := by
  constructor
  · intro describes
    cases describes with
    | anyOne c behind => exact ⟨c, _, rfl, behind⟩
    | ordinary _ noUnderscore => contradiction
  · rintro ⟨c, behind, rfl, describes⟩
    exact .anyOne c describes

theorem describes_escaped_iff {expected : Char} {pattern value : List Char} :
    Describes ('\\' :: expected :: pattern) value ↔
      ∃ found behind, value = found :: behind ∧ fold found = fold expected ∧ Describes pattern behind := by
  constructor
  · intro describes
    cases describes with
    | escaped same behind => exact ⟨_, _, rfl, same, behind⟩
    | ordinary _ _ noBackslash => contradiction
  · rintro ⟨found, behind, rfl, same, describes⟩
    exact .escaped same describes

/-- Nothing but a backslash folds like one, so the last backslash is a letter like others. -/
theorem describes_lastBackslash_iff {value : List Char} :
    Describes ['\\'] value ↔
      ∃ found behind, value = found :: behind ∧ fold found = fold '\\' ∧ Describes [] behind := by
  constructor
  · intro describes
    cases describes with
    | lastBackslash => exact ⟨'\\', [], rfl, rfl, .nothing⟩
    | ordinary _ _ noBackslash => contradiction
  · rintro ⟨found, behind, rfl, same, describes⟩
    have folded : fold '\\' = '\\' := by decide
    obtain rfl := (fold_eq_iff (by decide)).mp (same.trans folded)
    obtain rfl := describes_nothing_iff.mp describes
    exact .lastBackslash

theorem describes_ordinary_iff {expected : Char} (noPercent : expected ≠ '%') (noUnderscore : expected ≠ '_')
    (noBackslash : expected ≠ '\\') {pattern value : List Char} :
    Describes (expected :: pattern) value ↔
      ∃ found behind, value = found :: behind ∧ fold found = fold expected ∧ Describes pattern behind := by
  constructor
  · intro describes
    cases describes with
    | anyRun => contradiction
    | anyOne => contradiction
    | escaped => contradiction
    | lastBackslash => contradiction
    | ordinary _ _ _ same behind => exact ⟨_, _, rfl, same, behind⟩
  · rintro ⟨found, behind, rfl, same, describes⟩
    exact .ordinary noPercent noUnderscore noBackslash same describes

/-- What a pattern describes is what the pieces that it writes match, piece by piece. -/
theorem Writes.describes_iff_matches {pattern : List Char} {pieces : List Piece} (writes : Writes pattern pieces)
    (value : List Char) : Describes pattern value ↔ Matches pieces value := by
  induction writes generalizing value with
  | nothing => rw [describes_nothing_iff, matches_nil_iff]
  | anyRun _ step => simp only [describes_anyRun_iff, matches_anyRun_iff, step]
  | anyOne _ step => simp only [describes_anyOne_iff, matches_anyOne_iff, step]
  | escaped _ step => simp only [describes_escaped_iff, matches_literal_iff, step]
  | lastBackslash =>
    simp only [describes_lastBackslash_iff, matches_literal_iff, describes_nothing_iff, matches_nil_iff]
  | ordinary noPercent noUnderscore noBackslash _ step =>
    simp only [describes_ordinary_iff noPercent noUnderscore noBackslash, matches_literal_iff, step]

/-- A pattern describes the values that its pieces match. -/
theorem describes_iff_matches {pattern value : List Char} :
    Describes pattern value ↔ Matches (read pattern) value :=
  (writes_read pattern).describes_iff_matches value

theorem Pattern.pieces_of_ofString [RegexCompiler] {text : String} {pattern : Pattern}
    (made : Pattern.ofString text = .ok pattern) : pattern.pieces = read text.toList := by
  rw [Pattern.ofString] at made
  cases compiled : RegexCompiler.compile (regex text.toList) with
  | error refusal =>
    rw [compiled] at made
    contradiction
  | ok =>
    rw [compiled] at made
    rw [← Except.ok.inj made]

/-- A test made from a match pattern accepts exactly the values that the pattern describes, character by character.
They are the values in which the regular expression of the pattern is found, as it is written. -/
theorem accepts_iff_describes [RegexCompiler] {text : String} {test : Test}
    (compiles : Comparison.like.test text = .ok test) (value : String) :
    (test.accepts value = true ↔ Describes text.toList value.toList) ∧
      (test.accepts value = true ↔ ∃ expression,
        Expression.read? (regex text.toList) = some expression ∧ expression.FoundIn value.toList) := by
  obtain ⟨pattern, made, rfl⟩ : ∃ pattern, Pattern.ofString text = .ok pattern ∧ Test.matching pattern = test := by
    cases made : Pattern.ofString text with
    | error refusal =>
      rw [Comparison.test, made] at compiles
      contradiction
    | ok pattern =>
      rw [Comparison.test, made] at compiles
      exact ⟨pattern, rfl, Except.ok.inj compiles⟩
  have accepts : (Test.matching pattern).accepts value = true ↔ Matches (read text.toList) value.toList := by
    rw [Test.accepts, Pattern.accepts_iff_matches, Pattern.pieces_of_ofString made]
  exact ⟨accepts.trans describes_iff_matches.symm, accepts.trans Expression.foundIn_regex_iff.symm⟩

/-- Runs take line feeds, an escaped percent sign and a last backslash take themselves, and letters mind no case. -/
theorem accepts_iff_describes_escaped :
    ∃ test, Comparison.like.test "a%_\\%\\" = .ok test ∧ test.accepts "A\n\nß%\\" = true ∧
      Describes "a%_\\%\\".toList "A\n\nß%\\".toList := by
  have compiles : Comparison.like.test "a%_\\%\\" =
      .ok (.matching ⟨Like.read "a%_\\%\\".toList⟩) := rfl
  have accepted : (Test.matching ⟨Like.read "a%_\\%\\".toList⟩).accepts "A\n\nß%\\" = true := by decide
  exact ⟨_, compiles, accepted, (accepts_iff_describes compiles _).1.mp accepted⟩

end RecordFill.Like

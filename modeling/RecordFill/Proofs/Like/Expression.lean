import RecordFill.Like.Regex
import RecordFill.Proofs.Like.Segments

namespace RecordFill.Like

open Text (fold)

/-- An element of an expression: a bound of the text, any one character, any run of characters, or a letter. -/
inductive Element where
  | start
  | stop
  | point
  | points
  | letter (c : Char)
  deriving DecidableEq

/-- An expression with the flags that apply to all of it. -/
structure Expression where
  flags : List Char
  elements : List Element
  deriving DecidableEq

namespace Expression

/-- The characters that cannot be read by themselves: they repeat, group, choose or escape. -/
def operators : List Char :=
  ['\\', '*', '+', '?', '(', ')', '|', '[', ']', '\x7b', '\x7d']

/-- The element that a character writes by itself. -/
def element? (c : Char) : Option Element :=
  if c = '^' then some .start
  else if c = '$' then some .stop
  else if c = '.' then some .point
  else if operators.contains c then none
  else some (.letter c)

/-- The elements that characters write. An escaped character is a letter if it could mean something else. -/
def readElements? : List Char → Option (List Element)
  | [] => some []
  | [c] => (element? c).map ([·])
  | c :: next :: rest =>
    if c = '\\' then
      if metacharacters.contains next then (readElements? rest).map (.letter next :: ·) else none
    else if c = '.' ∧ next = '*' then (readElements? rest).map (.points :: ·)
    else (element? c).bind fun element => (readElements? (next :: rest)).map (element :: ·)

/-- The expression that characters write, with its flags in front. -/
def read? : List Char → Option Expression
  | '(' :: '?' :: rest =>
    (readElements? (rest.dropWhile (· ≠ ')')).tail).map (⟨rest.takeWhile (· ≠ ')'), ·⟩)
  | elements => (readElements? elements).map (⟨[], ·⟩)

example : read? "(?i)^a\\.b.*".toList =
    some ⟨['i'], [.start, .letter 'a', .letter '.', .letter 'b', .points]⟩ := by decide

/-- A point takes any character, but a line feed only under a flag. -/
def PointTakes (flags : List Char) (c : Char) : Prop :=
  's' ∈ flags ∨ c ≠ '\n'

/-- A letter takes itself, and under a flag every character that folds alike. -/
def LetterTakes (flags : List Char) (expected found : Char) : Prop :=
  found = expected ∨ 'i' ∈ flags ∧ fold found = fold expected

/-- Elements take characters one after another, between those already passed and the rest of a text. -/
inductive Takes (flags : List Char) : List Element → (passed rest : List Char) → Prop where
  | nil {passed rest} : Takes flags [] passed rest
  | start {elements rest} : Takes flags elements [] rest → Takes flags (.start :: elements) [] rest
  | stop {elements passed} : Takes flags elements passed [] → Takes flags (.stop :: elements) passed []
  | point {elements passed rest} {c : Char} : PointTakes flags c → Takes flags elements (passed ++ [c]) rest →
      Takes flags (.point :: elements) passed (c :: rest)
  | points {elements passed rest} (run : List Char) : (∀ c ∈ run, PointTakes flags c) →
      Takes flags elements (passed ++ run) rest → Takes flags (.points :: elements) passed (run ++ rest)
  | letter {elements passed rest} {expected found : Char} : LetterTakes flags expected found →
      Takes flags elements (passed ++ [found]) rest → Takes flags (.letter expected :: elements) passed (found :: rest)

/-- An expression is found in a text where its elements take characters from some place on. -/
def FoundIn (expression : Expression) (text : List Char) : Prop :=
  ∃ passed rest, text = passed ++ rest ∧ Takes expression.flags expression.elements passed rest

/-- A character that escapes and repeats nothing is read by itself. -/
theorem readElements?_cons {c : Char} {rest : List Char} (noEscape : c ≠ '\\')
    (single : c = '.' → ∀ behind, rest ≠ '*' :: behind) :
    readElements? (c :: rest) = (element? c).bind fun element => (readElements? rest).map (element :: ·) := by
  cases rest with
  | nil => cases found : element? c <;> simp [readElements?, found]
  | cons next rest =>
    have noRun : ¬ (c = '.' ∧ next = '*') := by
      rintro ⟨point, rfl⟩
      exact single point rest rfl
    rw [readElements?, if_neg noEscape, if_neg noRun]

theorem readElements?_letter {c : Char} (plain : c ∉ metacharacters) (rest : List Char) :
    readElements? (c :: rest) = (readElements? rest).map (.letter c :: ·) := by
  have different {other : Char} (special : other ∈ metacharacters) : c ≠ other := by
    rintro rfl
    exact plain special
  have letter : c ∉ operators := by
    intro member
    have special : operators.all metacharacters.contains = true := by decide
    exact plain (by simpa using List.all_eq_true.mp special c member)
  have noPoint : c ≠ '.' := different (by decide)
  have element : element? c = some (.letter c) := by
    rw [element?, if_neg (different (by decide)), if_neg (different (by decide)), if_neg noPoint,
      if_neg (by simpa using letter)]
  rw [readElements?_cons (different (by decide)) fun point => absurd point noPoint, element, Option.bind_some]

/-- The expression of a letter is read as that letter, whatever it would mean without an escape. -/
theorem readElements?_escape (c : Char) (rest : List Char) :
    readElements? (escape c ++ rest) = (readElements? rest).map (.letter c :: ·) := by
  unfold escape
  split
  · next special =>
    show readElements? ('\\' :: c :: rest) = _
    rw [readElements?, if_pos rfl, if_pos special]
  · next plain => exact readElements?_letter (by simpa using plain) rest

end Expression

def Piece.element : Piece → Element
  | .anyRun => .points
  | .anyOne => .point
  | .literal c => .letter c

namespace Expression

section Behind

variable {behind : List Char} (noStar : ∀ rest, behind ≠ '*' :: rest)
include noStar

/-- What follows a point in the expression of pieces is no repetition of it. -/
theorem regex_append_ne_star (pieces : List Piece) (rest : List Char) :
    pieces.flatMap Piece.regex ++ behind ≠ '*' :: rest := by
  cases pieces with
  | nil => exact noStar rest
  | cons piece pieces =>
    cases piece with
    | anyRun => simp [Piece.regex]
    | anyOne => simp [Piece.regex]
    | literal c =>
      rw [List.flatMap_cons, Piece.regex, escape]
      split
      · simp
      · next plain =>
        have letter : c ≠ '*' := by
          rintro rfl
          exact plain (by decide)
        simp [letter]

/-- The expression of pieces is read as their elements, whatever it is that goes on behind it. -/
theorem readElements?_regex_append (pieces : List Piece) :
    readElements? (pieces.flatMap Piece.regex ++ behind) =
      (readElements? behind).map (pieces.map Piece.element ++ ·) := by
  induction pieces with
  | nil => cases found : readElements? behind <;> simp [found]
  | cons piece pieces step =>
    have joined : (readElements? (pieces.flatMap Piece.regex ++ behind)).map (piece.element :: ·) =
        (readElements? behind).map ((piece :: pieces).map Piece.element ++ ·) := by
      rw [step, Option.map_map]
      rfl
    rw [List.flatMap_cons, List.append_assoc, ← joined]
    cases piece with
    | anyRun =>
      show readElements? ('.' :: '*' :: (pieces.flatMap Piece.regex ++ behind)) = _
      rw [readElements?, if_neg (by decide), if_pos ⟨rfl, rfl⟩]
      rfl
    | anyOne =>
      show readElements? ('.' :: (pieces.flatMap Piece.regex ++ behind)) = _
      rw [readElements?_cons (by decide) fun _ => regex_append_ne_star noStar pieces]
      rfl
    | literal c =>
      rw [Piece.regex, readElements?_escape]
      rfl

end Behind

/-- The expression of a pattern is read as the elements of its pieces between the bounds of the text. -/
theorem read?_regex (pattern : List Char) :
    read? (regex pattern) = some ⟨['i', 's'], .start :: ((read pattern).map Piece.element ++ [.stop])⟩ := by
  have flags : "(?is)^".toList = ['(', '?', 'i', 's', ')', '^'] := by decide
  have written : regex pattern =
      ['(', '?', 'i', 's', ')', '^'] ++ ((read pattern).flatMap Piece.regex ++ ['$']) := by
    unfold regex
    rw [List.append_assoc, flags]
  have body : readElements? ('^' :: ((read pattern).flatMap Piece.regex ++ ['$'])) =
      some (.start :: ((read pattern).map Piece.element ++ [.stop])) := by
    rw [readElements?_cons (by decide) fun point => absurd point (by decide), readElements?_regex_append (by simp)]
    rfl
  rw [written]
  exact congrArg (Option.map (Expression.mk ['i', 's'])) body

section Flags

variable {flags : List Char}

/-- Under the flag for line feeds a point takes every character. -/
theorem pointTakes (anyLine : 's' ∈ flags) (c : Char) : PointTakes flags c :=
  .inl anyLine

/-- Under the flag for case a letter takes what folds alike. -/
theorem letterTakes_iff (anyCase : 'i' ∈ flags) {expected found : Char} :
    LetterTakes flags expected found ↔ fold found = fold expected := by
  constructor
  · rintro (rfl | ⟨-, same⟩)
    · rfl
    · exact same
  · intro same
    exact .inr ⟨anyCase, same⟩

/-- The elements of pieces take a text to its end exactly if the pieces match it. -/
theorem takes_iff_matches (anyCase : 'i' ∈ flags) (anyLine : 's' ∈ flags) {pieces : List Piece}
    {passed rest : List Char} :
    Takes flags (pieces.map Piece.element ++ [.stop]) passed rest ↔ Matches pieces rest := by
  induction pieces generalizing passed rest with
  | nil =>
    rw [matches_nil_iff]
    constructor
    · intro takes
      cases takes
      rfl
    · rintro rfl
      exact .stop .nil
  | cons piece pieces step =>
    rw [List.map_cons, List.cons_append]
    cases piece with
    | anyRun =>
      rw [matches_anyRun_iff]
      constructor
      · intro takes
        cases takes with
        | points run _ behind => exact ⟨run, _, rfl, step.mp behind⟩
      · rintro ⟨run, behind, rfl, matching⟩
        exact .points run (fun c _ => pointTakes anyLine c) (step.mpr matching)
    | anyOne =>
      rw [matches_anyOne_iff]
      constructor
      · intro takes
        cases takes with
        | point _ behind => exact ⟨_, _, rfl, step.mp behind⟩
      · rintro ⟨c, behind, rfl, matching⟩
        exact .point (pointTakes anyLine c) (step.mpr matching)
    | literal expected =>
      rw [matches_literal_iff]
      constructor
      · intro takes
        cases takes with
        | letter same behind => exact ⟨_, _, rfl, (letterTakes_iff anyCase).mp same, step.mp behind⟩
      · rintro ⟨found, behind, rfl, same, matching⟩
        exact .letter ((letterTakes_iff anyCase).mpr same) (step.mpr matching)

end Flags

/-- The expression of a pattern is found in a text exactly if the pattern's pieces match all of it. -/
theorem foundIn_regex_iff {pattern text : List Char} :
    (∃ expression, read? (regex pattern) = some expression ∧ expression.FoundIn text) ↔
      Matches (read pattern) text := by
  have bounded {passed rest : List Char} :
      Takes ['i', 's'] (.start :: ((read pattern).map Piece.element ++ [.stop])) passed rest ↔
        passed = [] ∧ Matches (read pattern) rest := by
    constructor
    · intro takes
      cases takes with
      | start behind => exact ⟨rfl, (takes_iff_matches (by decide) (by decide)).mp behind⟩
    · rintro ⟨rfl, matching⟩
      exact .start ((takes_iff_matches (by decide) (by decide)).mpr matching)
  constructor
  · rintro ⟨expression, written, passed, rest, rfl, takes⟩
    obtain rfl := Option.some.inj ((read?_regex pattern).symm.trans written)
    obtain ⟨rfl, matching⟩ := bounded.mp takes
    exact matching
  · intro matching
    exact ⟨_, read?_regex pattern, [], text, rfl, bounded.mpr ⟨rfl, matching⟩⟩

end Expression

end RecordFill.Like

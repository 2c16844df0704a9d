import RecordFill.Proofs.Like.Meaning

namespace RecordFill

namespace Like

open Text (FoldAlike fold fold_eq_iff foldAlike_iff)

/-- A piece with its letter folded. -/
def Piece.folded : Piece → Piece
  | .literal c => .literal (fold c)
  | piece => piece

/-- A folded pattern writes the folded pieces of the pattern. -/
theorem Writes.map_fold {pattern : List Char} {pieces : List Piece} (writes : Writes pattern pieces) :
    Writes (pattern.map fold) (pieces.map Piece.folded) := by
  have percent : fold '%' = '%' := (fold_eq_iff (by decide)).mpr rfl
  have underscore : fold '_' = '_' := (fold_eq_iff (by decide)).mpr rfl
  have backslash : fold '\\' = '\\' := (fold_eq_iff (by decide)).mpr rfl
  induction writes with
  | nothing => exact .nothing
  | anyRun _ step =>
    rw [List.map_cons, percent]
    exact .anyRun step
  | anyOne _ step =>
    rw [List.map_cons, underscore]
    exact .anyOne step
  | escaped _ step =>
    rw [List.map_cons, List.map_cons, backslash]
    exact .escaped step
  | lastBackslash =>
    rw [List.map_singleton, List.map_singleton, Piece.folded, backslash]
    exact .lastBackslash
  | @ordinary _ _ c noPercent noUnderscore noBackslash _ step =>
    have noMark {mark : Char} (special : mark ∈ ['%', '_', '\\']) (other : c ≠ mark) : fold c ≠ mark :=
      mt (fold_eq_iff special).mp other
    exact .ordinary (noMark (by decide) noPercent) (noMark (by decide) noUnderscore) (noMark (by decide) noBackslash)
      step

/-- Pieces whose letters fold to the same characters add the same to the segments behind them. -/
theorem Segments.cons_congr {piece other : Piece} (same : piece.folded = other.folded) :
    cons piece = cons other := by
  funext segments
  cases piece <;> cases other <;> simp_all [Piece.folded, cons]

theorem Segments.ofPieces_congr {pieces others : List Piece}
    (same : pieces.map Piece.folded = others.map Piece.folded) : ofPieces pieces = ofPieces others := by
  induction pieces generalizing others with
  | nil =>
    obtain rfl := List.map_eq_nil_iff.mp same.symm
    rfl
  | cons piece pieces step =>
    obtain ⟨other, others, rfl, front, behind⟩ := List.map_eq_cons_iff.mp same.symm
    have later : pieces.foldr cons {} = others.foldr cons {} := step behind.symm
    rw [ofPieces, ofPieces, List.foldr_cons, List.foldr_cons, cons_congr front, later]

/-- Patterns that fold alike have the same segments. -/
theorem segments_congr {pattern other : List Char} (alike : pattern.map fold = other.map fold) :
    Segments.ofPieces (read pattern) = Segments.ofPieces (read other) := by
  apply Segments.ofPieces_congr
  have pieces := (writes_read pattern).map_fold
  have others := (writes_read other).map_fold
  rw [alike] at pieces
  exact pieces.unique others

end Like

open Text (FoldAlike foldAlike_iff)

/-- Patterns that fold alike accept values that fold alike together. -/
theorem Comparison.accepts_congr [RegexCompiler] {text text' value value' : String} {test test' : Test}
    (compiles : Comparison.like.test text = .ok test) (compiles' : Comparison.like.test text' = .ok test')
    (patterns : FoldAlike text text') (values : FoldAlike value value') :
    test.accepts value = test'.accepts value' := by
  obtain ⟨pattern, made, rfl⟩ := Comparison.test_like_eq_ok_iff.mp compiles
  obtain ⟨pattern', made', rfl⟩ := Comparison.test_like_eq_ok_iff.mp compiles'
  rw [Test.accepts, Test.accepts, Like.Pattern.accepts, Like.Pattern.accepts, Like.Pattern.pieces_of_ofString made,
    Like.Pattern.pieces_of_ofString made', Like.segments_congr (foldAlike_iff.mp patterns), foldAlike_iff.mp values]

end RecordFill

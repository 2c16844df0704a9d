import RecordFill.Like.Regex

namespace RecordFill.Like

/-- A pattern writes one piece with each of its units: a percent sign, an underscore, an escaped character, a
backslash at the end, or any other character. -/
inductive Writes : (pattern : List Char) → (pieces : List Piece) → Prop where
  | nothing : Writes [] []
  | anyRun {pattern pieces} : Writes pattern pieces → Writes ('%' :: pattern) (.anyRun :: pieces)
  | anyOne {pattern pieces} : Writes pattern pieces → Writes ('_' :: pattern) (.anyOne :: pieces)
  | escaped {pattern pieces} {c : Char} : Writes pattern pieces → Writes ('\\' :: c :: pattern) (.literal c :: pieces)
  | lastBackslash : Writes ['\\'] [.literal '\\']
  | ordinary {pattern pieces} {c : Char} : c ≠ '%' → c ≠ '_' → c ≠ '\\' → Writes pattern pieces →
      Writes (c :: pattern) (.literal c :: pieces)

/-- A pattern writes only one sequence of pieces. -/
theorem Writes.unique {pattern : List Char} {pieces others : List Piece} (one : Writes pattern pieces)
    (other : Writes pattern others) : pieces = others := by
  induction one generalizing others with
  | nothing =>
    cases other
    rfl
  | anyRun _ step =>
    cases other with
    | anyRun behind => rw [step behind]
    | ordinary noPercent => contradiction
  | anyOne _ step =>
    cases other with
    | anyOne behind => rw [step behind]
    | ordinary _ noUnderscore => contradiction
  | escaped _ step =>
    cases other with
    | escaped behind => rw [step behind]
    | ordinary _ _ noBackslash => contradiction
  | lastBackslash =>
    cases other with
    | lastBackslash => rfl
    | ordinary _ _ noBackslash => contradiction
  | ordinary noPercent noUnderscore noBackslash _ step =>
    cases other with
    | anyRun => contradiction
    | anyOne => contradiction
    | escaped => contradiction
    | lastBackslash => contradiction
    | ordinary _ _ _ behind => rw [step behind]

/-- A character that neither ends a pattern as a backslash nor escapes another one is no backslash. -/
theorem ne_backslash {c : Char} {rest : List Char} (notLast : c = '\\' → rest = [] → False)
    (noEscape : ∀ escaped behind, c = '\\' → rest = escaped :: behind → False) : c ≠ '\\' := by
  intro backslash
  cases rest with
  | nil => exact notLast backslash rfl
  | cons escaped behind => exact noEscape escaped behind backslash rfl

/-- What is read from a pattern behind the pieces already read is what the pattern writes. -/
theorem exists_writes (done : List Piece) (pattern : List Char) :
    ∃ pieces, readAfter done pattern = done.reverse ++ pieces ∧ Writes pattern pieces := by
  fun_induction readAfter done pattern with
  | case1 done => exact ⟨[], by simp, .nothing⟩
  | case2 done => exact ⟨[.literal '\\'], by simp, .lastBackslash⟩
  | case3 done escaped rest step =>
    obtain ⟨pieces, reads, writes⟩ := step
    exact ⟨.literal escaped :: pieces, by simpa using reads, .escaped writes⟩
  | case4 done rest step =>
    obtain ⟨pieces, reads, writes⟩ := step
    exact ⟨.anyRun :: pieces, by simpa using reads, .anyRun writes⟩
  | case5 done rest step =>
    obtain ⟨pieces, reads, writes⟩ := step
    exact ⟨.anyOne :: pieces, by simpa using reads, .anyOne writes⟩
  | case6 done c rest notLast noEscape noPercent noUnderscore step =>
    obtain ⟨pieces, reads, writes⟩ := step
    have noBackslash := ne_backslash notLast noEscape
    exact ⟨.literal c :: pieces, by simpa using reads, .ordinary noPercent noUnderscore noBackslash writes⟩

theorem writes_read (pattern : List Char) : Writes pattern (read pattern) := by
  obtain ⟨pieces, reads, writes⟩ := exists_writes [] pattern
  rw [read, reads]
  exact writes

theorem writes_iff_read {pattern : List Char} {pieces : List Piece} :
    Writes pattern pieces ↔ read pattern = pieces := by
  constructor
  · exact (writes_read pattern).unique
  · rintro rfl
    exact writes_read pattern

end RecordFill.Like

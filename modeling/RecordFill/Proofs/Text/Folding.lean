import RecordFill.Text.Folding
import Mathlib.Data.List.Forall2

namespace RecordFill.Text

/-- A folded code point is the code point itself or lies at or above the target of a run. -/
theorem foldCode_eq_or_le (code : Nat) (runs : List FoldingRun) :
    foldCode code runs = code ∨ ∃ run ∈ runs, run.target ≤ foldCode code runs := by
  induction runs with
  | nil => exact .inl rfl
  | cons run rest step =>
    rw [foldCode]
    split
    · exact .inl rfl
    · cases folded : run.folded? code with
      | none =>
        rcases step with same | ⟨other, member, below⟩
        · exact .inl same
        · exact .inr ⟨other, List.mem_cons_of_mem _ member, below⟩
      | some target =>
        refine .inr ⟨run, List.mem_cons_self, ?_⟩
        unfold FoldingRun.folded? at folded
        split at folded
        · obtain rfl := Option.some.inj folded
          exact Nat.le_add_right _ _
        · contradiction

/-- A character in front of all targets is folded to by itself only. -/
theorem eq_of_fold_eq {c mark : Char} (above : ∀ run ∈ foldingRuns, mark.toNat < run.target)
    (nonzero : mark ≠ '\x00') (folds : fold c = mark) : c = mark := by
  rcases foldCode_eq_or_le c.toNat foldingRuns with same | ⟨run, member, below⟩
  · rwa [fold, same, Char.ofNat_toNat] at folds
  · have beyond := Nat.lt_of_lt_of_le (above run member) below
    rw [fold] at folds
    generalize foldCode c.toNat foldingRuns = code at beyond folds
    by_cases valid : code.isValidChar
    · rw [Char.ofNat, dif_pos valid] at folds
      have number : code = mark.toNat := congrArg Char.toNat folds
      omega
    · rw [Char.ofNat, dif_neg valid] at folds
      exact absurd folds.symm nonzero

/-- The marks of match patterns stand in front of all targets, so each is folded to by itself only. -/
theorem fold_eq_iff {c mark : Char} (special : mark ∈ ['%', '_', '\\']) : fold c = mark ↔ c = mark := by
  have above : ∀ run ∈ foldingRuns, '_'.toNat < run.target := by decide +kernel
  obtain ⟨below, nonzero, fixed⟩ : mark.toNat ≤ '_'.toNat ∧ mark ≠ '\x00' ∧ fold mark = mark := by
    simp only [List.mem_cons, List.not_mem_nil, or_false] at special
    rcases special with rfl | rfl | rfl <;> decide +kernel
  constructor
  · intro folds
    exact eq_of_fold_eq (fun run member => Nat.lt_of_le_of_lt below (above run member)) nonzero folds
  · rintro rfl
    exact fixed

/-- Two texts fold alike when they have as many characters and those in the same places fold to the same character. -/
def FoldAlike (one other : String) : Prop :=
  List.Forall₂ (fun c d => fold c = fold d) one.toList other.toList

/-- Texts fold alike exactly if their characters fold to the same ones in order. -/
theorem foldAlike_iff {one other : String} :
    FoldAlike one other ↔ one.toList.map fold = other.toList.map fold := by
  rw [← List.forall₂_eq_eq_eq, List.forall₂_map_left_iff, List.forall₂_map_right_iff, FoldAlike]

end RecordFill.Text

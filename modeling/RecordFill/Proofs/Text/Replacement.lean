import RecordFill.Proofs.Text.Pieces

namespace RecordFill.Text

theorem replace_of_none {word : List Char} (nonempty : word ≠ []) (replacement : List Char) {text : List Char}
    (absent : cut? word text = none) : replace word nonempty replacement text = text := by
  rw [replace, pieces_of_none nonempty absent, List.intercalate_singleton]

/-- The first occurrence of the word gives way, and the text behind it is gone through in the same way. -/
theorem replace_of_some {word : List Char} (nonempty : word ≠ []) (replacement : List Char)
    {text before after : List Char} (found : cut? word text = some (before, after)) :
    replace word nonempty replacement text = before ++ replacement ++ replace word nonempty replacement after := by
  rw [replace, pieces_of_some nonempty found, replace]
  cases behind : pieces word nonempty after with
  | nil => exact absurd behind (pieces_ne_nil nonempty after)
  | cons first rest => simp

theorem replace_nil {word : List Char} (nonempty : word ≠ []) (replacement : List Char) :
    replace word nonempty replacement [] = [] := by
  apply replace_of_none
  rw [cut?_eq_none_iff]
  intro inside
  exact nonempty (List.eq_nil_of_infix_nil inside)

/-- A character that begins no occurrence of the word is copied. -/
theorem replace_cons_of_none {word : List Char} (nonempty : word ≠ []) (replacement : List Char) {next : Char}
    {rest : List Char} (front : remainder? word (next :: rest) = none) :
    replace word nonempty replacement (next :: rest) = next :: replace word nonempty replacement rest := by
  cases found : cut? word rest with
  | none =>
    have absent : cut? word (next :: rest) = none := by rw [cut?_cons, front, found]; rfl
    rw [replace_of_none nonempty replacement absent, replace_of_none nonempty replacement found]
  | some sides =>
    have behind : cut? word (next :: rest) = some (next :: sides.1, sides.2) := by rw [cut?_cons, front, found]; rfl
    rw [replace_of_some nonempty replacement behind, replace_of_some nonempty replacement found]
    rfl

/-- A word at the front gives way. -/
theorem replace_append_self {word : List Char} (nonempty : word ≠ []) (replacement rest : List Char) :
    replace word nonempty replacement (word ++ rest) = replacement ++ replace word nonempty replacement rest := by
  have front : cut? word (word ++ rest) = some ([], rest) :=
    cut?_eq_some_iff.mpr ⟨rfl, fun _ _ _ => Nat.zero_le _⟩
  rw [replace_of_some nonempty replacement front]
  rfl

/-- Characters other than the word's first one are copied. -/
theorem replace_append_of_not_mem {first : Char} {others : List Char} (replacement : List Char) {front : List Char}
    (absent : first ∉ front) (rest : List Char) :
    replace (first :: others) (List.cons_ne_nil _ _) replacement (front ++ rest) =
      front ++ replace (first :: others) (List.cons_ne_nil _ _) replacement rest := by
  induction front with
  | nil => rfl
  | cons next front step =>
    obtain ⟨differs, absent⟩ := not_or.mp (mt List.mem_cons.mpr absent)
    have elsewhere : remainder? (first :: others) (next :: (front ++ rest)) = none := by
      rw [remainder?, if_neg differs]
    rw [List.cons_append, replace_cons_of_none _ _ elsewhere, step absent]
    rfl

theorem replace_of_not_mem {first : Char} {others : List Char} (replacement : List Char) {text : List Char}
    (absent : first ∉ text) :
    replace (first :: others) (List.cons_ne_nil _ _) replacement text = text := by
  have copied : replace (first :: others) (List.cons_ne_nil _ _) replacement (text ++ []) = _ :=
    replace_append_of_not_mem replacement absent []
  simpa [replace_nil] using copied

end RecordFill.Text

import RecordFill.Proofs.Text.Search

namespace RecordFill.Text

/-- The pieces found before only stand in front of those still to be found. -/
theorem piecesAfter_eq (word : List Char) (nonempty : word ≠ []) (found : List (List Char)) (text : List Char) :
    piecesAfter word nonempty found text = found.reverse ++ pieces word nonempty text := by
  induction size : text.length using Nat.strongRecOn generalizing found text with
  | ind length step =>
    rw [pieces, piecesAfter, piecesAfter]
    split
    · simp
    · next before after cut =>
      have shorter : after.length < length := size ▸ cut?_shorter nonempty cut
      rw [step after.length shorter (before :: found) after rfl, step after.length shorter [before] after rfl]
      simp

theorem pieces_of_none {word : List Char} (nonempty : word ≠ []) {text : List Char}
    (absent : cut? word text = none) : pieces word nonempty text = [text] := by
  rw [pieces, piecesAfter]
  split
  · rfl
  · next found => simp [found] at absent

/-- The first piece ends at the first occurrence of the word. -/
theorem pieces_of_some {word : List Char} (nonempty : word ≠ []) {text before after : List Char}
    (found : cut? word text = some (before, after)) :
    pieces word nonempty text = before :: pieces word nonempty after := by
  rw [pieces, piecesAfter]
  split
  · next absent => simp [found] at absent
  · next before' after' found' =>
    obtain ⟨rfl, rfl⟩ : before = before' ∧ after = after' := by simpa [found] using found'
    rw [piecesAfter_eq]
    rfl

theorem pieces_ne_nil {word : List Char} (nonempty : word ≠ []) (text : List Char) :
    pieces word nonempty text ≠ [] := by
  cases found : cut? word text with
  | none => simp [pieces_of_none nonempty found]
  | some sides =>
    obtain ⟨before, after⟩ := sides
    simp [pieces_of_some nonempty found]

/-- The first side of a first occurrence does not have the word in it. -/
theorem FirstCut.word_absent {word text before after : List Char} (nonempty : word ≠ [])
    (cut : FirstCut word text before after) : ¬ word <:+: before := by
  rintro ⟨earlier, later, rfl⟩
  have shorter := cut.first earlier (later ++ word ++ after) (by simp [cut.divides])
  have positive := List.length_pos_iff.mpr nonempty
  simp only [List.length_append] at shorter
  omega

/-- No piece has the word in it. -/
theorem not_infix_of_mem_pieces {word : List Char} (nonempty : word ≠ []) {text piece : List Char}
    (member : piece ∈ pieces word nonempty text) : ¬ word <:+: piece := by
  induction size : text.length using Nat.strongRecOn generalizing text with
  | ind length step =>
    cases found : cut? word text with
    | none =>
      rw [pieces_of_none nonempty found, List.mem_singleton] at member
      exact member ▸ cut?_eq_none_iff.mp found
    | some sides =>
      obtain ⟨before, after⟩ := sides
      rw [pieces_of_some nonempty found, List.mem_cons] at member
      rcases member with rfl | behind
      · exact (cut?_eq_some_iff.mp found).word_absent nonempty
      · exact step after.length (size ▸ cut?_shorter nonempty found) behind rfl

/-- A word does not begin with a proper part that it also ends with. -/
def Unbordered (word : List Char) : Prop :=
  ∀ border, border <+: word → border <:+ word → border = [] ∨ border = word

/-- A word that does not overlap itself is first found behind a text without it. -/
theorem Unbordered.firstCut {word before : List Char} (unbordered : Unbordered word) (absent : ¬ word <:+: before)
    (after : List Char) : FirstCut word (before ++ word ++ after) before after := by
  refine ⟨rfl, ?_⟩
  intro earlier later divides
  rw [List.append_assoc, List.append_assoc] at divides
  rcases List.append_eq_append_iff.mp divides with ⟨between, rfl, -⟩ | ⟨between, rfl, behind⟩
  · simp
  · -- An earlier occurrence is in the text in front, or ends with a beginning of the word.
    rcases List.append_eq_append_iff.mp behind with ⟨rest, rfl, -⟩ | ⟨border, divided, follows⟩
    · exact absurd ⟨earlier, rest, by simp⟩ absent
    · have ends : border <:+ word := ⟨between, divided.symm⟩
      have begins : border <+: word :=
        List.prefix_of_prefix_length_le ⟨later, follows.symm⟩ (List.prefix_append word after) ends.length_le
      rcases unbordered border begins ends with rfl | rfl
      · rw [List.append_nil] at divided
        exact absurd ⟨earlier, [], by simp [divided]⟩ absent
      · have nothing : between = [] := by simpa using divided
        simp [nothing]

/-- Joined by a word that does not overlap itself and is in none of them, the pieces of a text are found again. -/
theorem Unbordered.pieces_intercalate {word : List Char} (unbordered : Unbordered word) (nonempty : word ≠ [])
    {parts : List (List Char)} (given : parts ≠ []) (absent : ∀ part ∈ parts, ¬ word <:+: part) :
    pieces word nonempty (word.intercalate parts) = parts := by
  induction parts with
  | nil => contradiction
  | cons first rest step =>
    obtain ⟨notFirst, notRest⟩ := List.forall_mem_cons.mp absent
    cases rest with
    | nil => rw [List.intercalate_singleton, pieces_of_none nonempty (cut?_eq_none_iff.mpr notFirst)]
    | cons second rest =>
      rw [List.intercalate_cons_cons,
        pieces_of_some nonempty (cut?_eq_some_iff.mpr (unbordered.firstCut notFirst _)),
        step (List.cons_ne_nil _ _) notRest]

end RecordFill.Text

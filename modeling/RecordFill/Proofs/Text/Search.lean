import RecordFill.Text.Search

namespace RecordFill.Text

/-- A run of characters of a class ends in front of the first character that is not of it. -/
theorem run_append {class? : Char → Bool} {run rest : List Char} (inside : ∀ c ∈ run, class? c = true)
    (ends : ∀ c ∈ rest.head?, class? c = false) :
    (run ++ rest).takeWhile class? = run ∧ (run ++ rest).dropWhile class? = rest := by
  rw [List.takeWhile_append_of_pos inside, List.dropWhile_append_of_pos inside]
  cases rest with
  | nil => simp
  | cons first rest =>
    have outside : class? first = false := ends first rfl
    simp [outside]

/-- A word without a character ends before that character where it stands in front. -/
theorem prefix_of_prefix_append_cons {word front back : List Char} {c : Char} (absent : c ∉ word)
    (stands : word <+: front ++ c :: back) : word <+: front := by
  obtain ⟨later, divides⟩ := stands
  rcases List.append_eq_append_iff.mp divides with ⟨rest, rfl, -⟩ | ⟨reach, rfl, follows⟩
  · exact List.prefix_append word rest
  · cases reach with
    | nil => simp
    | cons first reach =>
      obtain ⟨rfl, -⟩ := List.cons.inj follows
      exact absurd (List.mem_append_right front List.mem_cons_self) absent

/-- A word without a character does not reach over that character. -/
theorem infix_or_infix_of_not_mem {word front back : List Char} {c : Char} (absent : c ∉ word)
    (within : word <:+: front ++ c :: back) : word <:+: front ∨ word <:+: back := by
  obtain ⟨earlier, later, divides⟩ := within
  rw [List.append_assoc] at divides
  rcases List.append_eq_append_iff.mp divides with ⟨between, rfl, behind⟩ | ⟨between, rfl, behind⟩
  · have stands : word <+: between := prefix_of_prefix_append_cons absent ⟨later, behind⟩
    exact .inl (stands.isInfix.trans (List.suffix_append earlier between).isInfix)
  · cases between with
    | nil =>
      cases word with
      | nil => exact .inl List.nil_infix
      | cons first word =>
        obtain ⟨rfl, -⟩ := List.cons.inj behind
        exact absurd List.mem_cons_self absent
    | cons first between =>
      obtain ⟨-, rfl⟩ := List.cons.inj behind
      exact .inr ⟨between, later, List.append_assoc _ _ _⟩

/-- A word divides a text at its first occurrence. -/
structure FirstCut (word text before after : List Char) : Prop where
  divides : text = before ++ word ++ after
  first : ∀ earlier later, text = earlier ++ word ++ later → before.length ≤ earlier.length

theorem FirstCut.unique {word text before after before' after' : List Char}
    (one : FirstCut word text before after) (other : FirstCut word text before' after') :
    before = before' ∧ after = after' := by
  have same : before ++ word ++ after = before' ++ word ++ after' := one.divides ▸ other.divides
  have lengths : before.length = before'.length :=
    Nat.le_antisymm (one.first before' after' other.divides) (other.first before after one.divides)
  rw [List.append_assoc, List.append_assoc] at same
  obtain ⟨front, back⟩ := List.append_inj same lengths
  exact ⟨front, List.append_cancel_left back⟩

/-- What follows any occurrence of a word also follows its first one. -/
theorem FirstCut.suffix_of_divides {word text before after earlier later : List Char}
    (cut : FirstCut word text before after) (divides : text = earlier ++ word ++ later) : later <:+ after := by
  have same : before ++ (word ++ after) = earlier ++ (word ++ later) := by
    rw [← List.append_assoc, ← List.append_assoc, ← cut.divides, divides]
  rcases List.append_eq_append_iff.mp same with ⟨between, rfl, behind⟩ | ⟨between, rfl, behind⟩
  · have room : word ++ later <:+ word ++ after := ⟨between, behind.symm⟩
    exact List.suffix_of_suffix_length_le ((List.suffix_append word later).trans room) (List.suffix_append word after)
      (by simpa using room.length_le)
  · have nothing : between = [] := by
      have shorter := cut.first earlier later divides
      rw [List.length_append] at shorter
      exact List.eq_nil_of_length_eq_zero (by omega)
    subst nothing
    rw [List.nil_append] at behind
    exact List.append_cancel_left behind ▸ List.suffix_rfl

/-- A word divides a text where its first character has not stood before. -/
theorem firstCut_of_not_mem {first : Char} (others : List Char) {before : List Char} (absent : first ∉ before)
    (after : List Char) :
    FirstCut (first :: others) (before ++ first :: others ++ after) before after := by
  refine ⟨rfl, ?_⟩
  intro earlier later divides
  rw [List.append_assoc, List.append_assoc] at divides
  rcases List.append_eq_append_iff.mp divides with ⟨between, rfl, -⟩ | ⟨between, rfl, behind⟩
  · simp
  · cases between with
    | nil => simp
    | cons c between =>
      have same : first = c := (List.cons.inj behind).1
      exact absurd (by simp [same]) absent

/-- A character divides a text where it has not stood before. -/
theorem firstCut_singleton_iff {c : Char} {before after : List Char} :
    FirstCut [c] (before ++ c :: after) before after ↔ c ∉ before := by
  constructor
  · intro cut member
    obtain ⟨earlier, later, rfl⟩ := List.append_of_mem member
    have shorter := cut.first earlier (later ++ c :: after) (by simp)
    simp only [List.length_append, List.length_cons] at shorter
    omega
  · intro absent
    simpa using firstCut_of_not_mem [] absent after

/-- The characters already passed only stand before the first side. -/
theorem cutAfter_eq_map (word passed text : List Char) :
    cutAfter word passed text = (cut? word text).map fun sides => (passed.reverse ++ sides.1, sides.2) := by
  induction text generalizing passed with
  | nil =>
    rw [cut?, cutAfter, cutAfter]
    cases remainder? word [] <;> simp
  | cons next rest step =>
    rw [cut?, cutAfter, cutAfter]
    cases remainder? word (next :: rest) with
    | some after => simp
    | none =>
      dsimp only
      rw [step (next :: passed), step [next]]
      cases cut? word rest <;> simp

/-- The search in a text either ends at its front or goes on behind its first character. -/
theorem cut?_cons (word : List Char) (next : Char) (rest : List Char) :
    cut? word (next :: rest) =
      match remainder? word (next :: rest) with
      | some after => some ([], after)
      | none => (cut? word rest).map fun sides => (next :: sides.1, sides.2) := by
  rw [cut?, cutAfter]
  cases remainder? word (next :: rest) with
  | some after => rfl
  | none => exact cutAfter_eq_map word [next] rest

theorem cut?_nil (word : List Char) : cut? word [] = (remainder? word []).map ([], ·) := rfl

theorem cut?_isSome_of_divides {word text before after : List Char} (divides : text = before ++ word ++ after) :
    (cut? word text).isSome := by
  induction before generalizing text with
  | nil =>
    have front : remainder? word text = some after := remainder?_eq_some_iff.mpr divides
    cases text with
    | nil => simp [cut?_nil, front]
    | cons next rest => simp [cut?_cons, front]
  | cons first before step =>
    subst divides
    rw [List.cons_append, List.cons_append, cut?_cons]
    cases remainder? word (first :: (before ++ word ++ after)) with
    | some _ => rfl
    | none => simpa using step rfl

/-- The search finds nothing exactly in the texts without the word. -/
theorem cut?_eq_none_iff {word text : List Char} : cut? word text = none ↔ ¬ word <:+: text := by
  constructor
  · rintro missing ⟨before, after, divides⟩
    simpa [missing] using cut?_isSome_of_divides divides.symm
  · intro absent
    cases found : cut? word text with
    | none => rfl
    | some sides => exact absurd ⟨sides.1, sides.2, (cut?_sides found).symm⟩ absent

/-- No occurrence of a word begins before the one that the search finds. -/
theorem cut?_first {word text before after : List Char} (found : cut? word text = some (before, after)) :
    ∀ earlier later, text = earlier ++ word ++ later → before.length ≤ earlier.length := by
  induction text generalizing before with
  | nil =>
    intro earlier later divides
    have sides := cut?_sides found
    simp only [List.nil_eq, List.append_eq_nil_iff] at sides
    simp [sides.1.1]
  | cons next rest step =>
    intro earlier later divides
    rw [cut?_cons] at found
    cases front : remainder? word (next :: rest) with
    | some _ =>
      rw [front] at found
      obtain ⟨rfl, -⟩ := Prod.mk.inj (Option.some.inj found)
      exact Nat.zero_le _
    | none =>
      rw [front] at found
      obtain ⟨⟨before', after'⟩, inRest, same⟩ := Option.map_eq_some_iff.mp found
      obtain ⟨rfl, rfl⟩ := Prod.mk.inj same
      cases earlier with
      | nil =>
        have stands : remainder? word (next :: rest) = some later := remainder?_eq_some_iff.mpr divides
        simp [stands] at front
      | cons first earlier =>
        have divides : rest = earlier ++ word ++ later := (List.cons.inj divides).2
        exact Nat.succ_le_succ (step inRest earlier later divides)

/-- The search divides a text at the first occurrence of the word and nowhere else. -/
theorem cut?_eq_some_iff {word text before after : List Char} :
    cut? word text = some (before, after) ↔ FirstCut word text before after := by
  constructor
  · intro found
    exact ⟨cut?_sides found, cut?_first found⟩
  · intro cut
    obtain ⟨⟨before', after'⟩, found⟩ := Option.isSome_iff_exists.mp (cut?_isSome_of_divides cut.divides)
    obtain ⟨rfl, rfl⟩ := FirstCut.unique cut ⟨cut?_sides found, cut?_first found⟩
    exact found

end RecordFill.Text

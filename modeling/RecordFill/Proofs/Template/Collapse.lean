import RecordFill.Proofs.Text.Replacement
import RecordFill.Template

namespace RecordFill.Template

open Text (FirstCut cut? cut?_cons cut?_eq_some_iff cut?_nil firstCut_singleton_iff remainder?)

/-- The first described token begins at the first opener and ends at the first closing bracket behind it. -/
theorem firstDescribed?_eq_some_iff {name text before description rest : List Char} :
    firstDescribed? name text = some (before, description, rest) ↔
      FirstCut (describedOpener name) text before (description ++ ']' :: rest) ∧ ']' ∉ description := by
  simp only [firstDescribed?, Option.bind_eq_bind, Option.bind_eq_some_iff, Option.pure_def, Option.some.injEq,
    Prod.mk.injEq, Prod.exists]
  constructor
  · rintro ⟨_, body, opened, here, after, closed, rfl, rfl, rfl⟩
    obtain ⟨divides, first⟩ := cut?_eq_some_iff.mp closed
    obtain rfl : body = here ++ ']' :: after := by simpa using divides
    exact ⟨cut?_eq_some_iff.mp opened, firstCut_singleton_iff.mp ⟨divides, first⟩⟩
  · rintro ⟨opener, absent⟩
    exact ⟨before, _, cut?_eq_some_iff.mpr opener, description, rest,
      cut?_eq_some_iff.mpr (firstCut_singleton_iff.mpr absent), rfl, rfl, rfl⟩

/-- There is no described token exactly if nothing closes the first opener. -/
theorem firstDescribed?_eq_none_iff {name text : List Char} :
    firstDescribed? name text = none ↔
      ∀ before body, FirstCut (describedOpener name) text before body → ']' ∉ body := by
  constructor
  · intro missing before body opener closing
    obtain ⟨description, rest, rfl, absent⟩ := List.eq_append_cons_of_mem closing
    simp [firstDescribed?_eq_some_iff.mpr ⟨opener, absent⟩] at missing
  · intro unclosed
    cases found : firstDescribed? name text with
    | none => rfl
    | some sides =>
      obtain ⟨opener, -⟩ := firstDescribed?_eq_some_iff.mp found
      exact absurd (by simp) (unclosed _ _ opener)

/-- The parts copied and the description met before only stand in front of what is still to come. -/
theorem collapseAfter_eq (name : List Char) (done : List (List Char)) (description : Option (List Char))
    (text : List Char) :
    collapseAfter name done description text =
      (done.reverse.flatten ++ (collapse name text).1, description.or (collapse name text).2) := by
  induction size : text.length using Nat.strongRecOn generalizing done description text with
  | ind length step =>
    rw [collapse, collapseAfter, collapseAfter]
    split
    · simp
    · next before here rest found =>
      have shorter : rest.length < length := size ▸ firstDescribed?_shorter found
      rw [step rest.length shorter (plainToken name :: before :: done) (description.or (some here)) rest rfl,
        step rest.length shorter [plainToken name, before] (Option.or none (some here)) rest rfl]
      cases description <;> simp

theorem collapse_of_none {name text : List Char} (missing : firstDescribed? name text = none) :
    collapse name text = (text, none) := by
  rw [collapse, collapseAfter]
  split
  · simp
  · next found => simp [found] at missing

/-- The first described token becomes plain and gives the description. -/
theorem collapse_of_some {name text before description rest : List Char}
    (found : firstDescribed? name text = some (before, description, rest)) :
    collapse name text = (before ++ plainToken name ++ (collapse name rest).1, some description) := by
  rw [collapse, collapseAfter]
  split
  · next missing => simp [missing] at found
  · next before' description' rest' found' =>
    obtain ⟨rfl, rfl, rfl⟩ : before = before' ∧ description = description' ∧ rest = rest' := by
      simpa [found] using found'
    rw [collapseAfter_eq]
    simp

theorem collapse_nil (name : List Char) : collapse name [] = ([], none) := by
  apply collapse_of_none
  rw [firstDescribed?, cut?_nil]
  rfl

/-- A character that begins no described token is copied. -/
theorem collapse_cons_of_none {name : List Char} {next : Char} {rest : List Char}
    (front : remainder? (describedOpener name) (next :: rest) = none) :
    collapse name (next :: rest) = (next :: (collapse name rest).1, (collapse name rest).2) := by
  have behind : firstDescribed? name (next :: rest) =
      (firstDescribed? name rest).map fun sides => (next :: sides.1, sides.2) := by
    rw [firstDescribed?, firstDescribed?, cut?_cons, front]
    cases cut? (describedOpener name) rest with
    | none => rfl
    | some sides => cases found : cut? [']'] sides.2 <;> simp [found]
  cases found : firstDescribed? name rest with
  | none =>
    rw [found] at behind
    rw [collapse_of_none behind, collapse_of_none found]
  | some sides =>
    obtain ⟨before, description, after⟩ := sides
    rw [found] at behind
    rw [collapse_of_some behind, collapse_of_some found]
    rfl

/-- Characters other than an opening bracket are copied. -/
theorem collapse_append_of_not_mem (name : List Char) {front : List Char} (absent : '[' ∉ front)
    (rest : List Char) :
    collapse name (front ++ rest) = (front ++ (collapse name rest).1, (collapse name rest).2) := by
  induction front with
  | nil => rfl
  | cons next front step =>
    obtain ⟨differs, absent⟩ := not_or.mp (mt List.mem_cons.mpr absent)
    have elsewhere : remainder? (describedOpener name) (next :: (front ++ rest)) = none := by
      rw [describedOpener, List.cons_append, remainder?, if_neg differs]
    rw [List.cons_append, collapse_cons_of_none elsewhere, step absent]
    rfl

theorem collapse_of_not_mem (name : List Char) {text : List Char} (absent : '[' ∉ text) :
    collapse name text = (text, none) := by
  simpa [collapse_nil] using collapse_append_of_not_mem name absent []

/-- A described token at the front becomes plain. -/
theorem collapse_append_described (name : List Char) {description : List Char} (absent : ']' ∉ description)
    (rest : List Char) :
    collapse name (describedOpener name ++ description ++ ']' :: rest) =
      (plainToken name ++ (collapse name rest).1, some description) := by
  have found : firstDescribed? name (describedOpener name ++ description ++ ']' :: rest) =
      some ([], description, rest) :=
    firstDescribed?_eq_some_iff.mpr ⟨⟨List.append_assoc _ _ _, fun _ _ _ => Nat.zero_le _⟩, absent⟩
  rw [collapse_of_some found]
  rfl

end RecordFill.Template

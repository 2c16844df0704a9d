import RecordFill.Proofs.Template.Scan

namespace RecordFill.Template

open Text (FirstCut prefix_of_prefix_append_cons remainder? remainder?_eq_some_iff)

/-- A described token by its description, and the gap before it. -/
@[ext]
structure Described where
  gap : List Char
  description : List Char

/-- The gap and the token as they are described. -/
def Described.text (name : List Char) (part : Described) : List Char :=
  part.gap ++ describedOpener name ++ part.description ++ [']']

/-- The gap and the token made plain. -/
def Described.collapsed (name : List Char) (part : Described) : List Char :=
  part.gap ++ plainToken name

/-- Described tokens, each behind its gap, and the tail behind the last one. -/
structure Division where
  parts : List Described
  tail : List Char

namespace Division

def text (name : List Char) (division : Division) : List Char :=
  division.parts.flatMap (Described.text name) ++ division.tail

def collapsed (name : List Char) (division : Division) : List Char :=
  division.parts.flatMap (Described.collapsed name) ++ division.tail

/-- The description of the first token. -/
def description? (division : Division) : Option (List Char) :=
  division.parts.head?.map Described.description

/-- A division is that of a text: descriptions end at the first closing bracket, each token is at the first opener
that remains, and in the tail nothing closes the first opener. -/
structure Of (name text : List Char) (division : Division) : Prop where
  divides : text = division.text name
  closed : ∀ part ∈ division.parts, ']' ∉ part.description
  first : ∀ earlier part later, division.parts = earlier ++ part :: later →
    ∃ body, FirstCut (describedOpener name) (Division.text name ⟨part :: later, division.tail⟩) part.gap body
  unclosed : ∀ before body, FirstCut (describedOpener name) division.tail before body → ']' ∉ body

variable {name : List Char}

theorem text_cons (part : Described) (parts : List Described) (tail : List Char) :
    text name ⟨part :: parts, tail⟩ =
      part.gap ++ describedOpener name ++ (part.description ++ ']' :: text name ⟨parts, tail⟩) := by
  simp [text, Described.text]

theorem collapsed_cons (part : Described) (parts : List Described) (tail : List Char) :
    collapsed name ⟨part :: parts, tail⟩ = part.gap ++ plainToken name ++ collapsed name ⟨parts, tail⟩ := by
  simp [collapsed, Described.collapsed]

/-- A text is all tail exactly if it has no described token. -/
theorem of_nil_iff {text tail : List Char} :
    Of name text ⟨[], tail⟩ ↔ text = tail ∧ firstDescribed? name text = none := by
  rw [firstDescribed?_eq_none_iff]
  constructor
  · intro division
    obtain rfl : text = tail := division.divides
    exact ⟨rfl, division.unclosed⟩
  · rintro ⟨rfl, unclosed⟩
    exact ⟨rfl, by simp, by simp, unclosed⟩

/-- A division begins with the first described token and goes on as a division of what follows the token. -/
theorem of_cons_iff {text tail : List Char} {part : Described} {parts : List Described} :
    Of name text ⟨part :: parts, tail⟩ ↔
      ∃ rest, firstDescribed? name text = some (part.gap, part.description, rest) ∧ Of name rest ⟨parts, tail⟩ := by
  simp only [firstDescribed?_eq_some_iff]
  constructor
  · intro division
    have closed := List.forall_mem_cons.mp division.closed
    refine ⟨Division.text name ⟨parts, tail⟩, ⟨?_, closed.1⟩, rfl, closed.2, ?_, division.unclosed⟩
    · obtain ⟨body, cut⟩ := division.first [] part parts rfl
      rw [← division.divides] at cut
      have same := cut.divides.symm.trans (division.divides.trans (text_cons part parts tail))
      rwa [List.append_cancel_left same] at cut
    · intro earlier next later behind
      exact division.first (part :: earlier) next later (congrArg (part :: ·) behind)
  · rintro ⟨rest, ⟨cut, closed⟩, division⟩
    have divides : text = Division.text name ⟨part :: parts, tail⟩ := by
      rw [text_cons, ← division.divides, cut.divides]
    refine ⟨divides, List.forall_mem_cons.mpr ⟨closed, division.closed⟩, ?_, division.unclosed⟩
    intro earlier next later same
    cases earlier with
    | nil =>
      obtain ⟨rfl, rfl⟩ := List.cons.inj same
      exact ⟨_, divides ▸ cut⟩
    | cons before earlier => exact division.first earlier next later (List.cons.inj same).2

theorem exists_of (name text : List Char) : ∃ division, Of name text division := by
  induction size : text.length using Nat.strongRecOn generalizing text with
  | ind length step =>
    cases found : firstDescribed? name text with
    | none => exact ⟨⟨[], text⟩, of_nil_iff.mpr ⟨rfl, found⟩⟩
    | some sides =>
      obtain ⟨gap, description, rest⟩ := sides
      obtain ⟨⟨parts, tail⟩, behind⟩ := step rest.length (size ▸ firstDescribed?_shorter found) rest rfl
      exact ⟨⟨⟨gap, description⟩ :: parts, tail⟩, of_cons_iff.mpr ⟨rest, found, behind⟩⟩

/-- A text has only one division. -/
theorem Of.unique {text : List Char} {division other : Division} (one : Of name text division)
    (another : Of name text other) : division = other := by
  obtain ⟨parts, tail⟩ := division
  obtain ⟨others, otherTail⟩ := other
  induction parts generalizing text others with
  | nil =>
    obtain ⟨rfl, missing⟩ := of_nil_iff.mp one
    cases others with
    | nil => rw [(of_nil_iff.mp another).1]
    | cons part others =>
      obtain ⟨rest, found, -⟩ := of_cons_iff.mp another
      simp [missing] at found
  | cons part parts step =>
    obtain ⟨rest, found, behind⟩ := of_cons_iff.mp one
    cases others with
    | nil => simp [(of_nil_iff.mp another).2] at found
    | cons otherPart others =>
      obtain ⟨otherRest, otherFound, otherBehind⟩ := of_cons_iff.mp another
      obtain ⟨gaps, descriptions, rfl⟩ : part.gap = otherPart.gap ∧ part.description = otherPart.description ∧
          rest = otherRest := by simpa using found.symm.trans otherFound
      obtain rfl : part = otherPart := Described.ext gaps descriptions
      obtain ⟨rfl, rfl⟩ := Division.mk.inj (step behind others otherBehind)
      rfl

/-- Collapsing makes the tokens of the division plain and gives the first description. -/
theorem Of.collapse_eq {text : List Char} {division : Division} (of : Of name text division) :
    collapse name text = (division.collapsed name, division.description?) := by
  obtain ⟨parts, tail⟩ := division
  induction parts generalizing text with
  | nil =>
    obtain ⟨rfl, missing⟩ := of_nil_iff.mp of
    exact collapse_of_none missing
  | cons part parts step =>
    obtain ⟨rest, found, behind⟩ := of_cons_iff.mp of
    rw [collapse_of_some found, step behind, collapsed_cons]
    rfl

/-- Each token loses at least its semicolon when it is made plain. -/
theorem length_collapsed_add_le (name : List Char) (division : Division) :
    (division.collapsed name).length + division.parts.length ≤ (division.text name).length := by
  obtain ⟨parts, tail⟩ := division
  induction parts with
  | nil => exact Nat.le_refl _
  | cons part parts step =>
    rw [text_cons, collapsed_cons]
    simp only [List.length_append, List.length_cons, describedOpener, plainToken] at step ⊢
    omega

/-- Only a division without tokens leaves the text as it was. -/
theorem collapsed_eq_text_iff (division : Division) :
    division.collapsed name = division.text name ↔ division.description? = none := by
  obtain ⟨parts, tail⟩ := division
  cases parts with
  | nil => exact iff_of_true rfl rfl
  | cons part parts =>
    refine iff_of_false ?_ (by simp [description?])
    intro same
    have lengths := length_collapsed_add_le name ⟨part :: parts, tail⟩
    rw [same, List.length_cons] at lengths
    omega

end Division

/-- An opener of a name without opening brackets does not reach from a gap over the next opening bracket. -/
theorem collapse_append_gap {name gap : List Char} (noOpening : '[' ∉ name)
    (absent : ¬ describedOpener name <:+: gap) (rest : List Char) :
    collapse name (gap ++ '[' :: rest) =
      (gap ++ (collapse name ('[' :: rest)).1, (collapse name ('[' :: rest)).2) := by
  induction gap with
  | nil => rfl
  | cons next gap step =>
    have front : remainder? (describedOpener name) (next :: (gap ++ '[' :: rest)) = none := by
      cases opened : remainder? (describedOpener name) (next :: (gap ++ '[' :: rest)) with
      | none => rfl
      | some after =>
        have stands : next :: (gap ++ '[' :: rest) = '[' :: (name ++ [';'] ++ after) := by
          simpa [describedOpener] using remainder?_eq_some_iff.mp opened
        obtain ⟨same, behind⟩ := List.cons.inj stands
        have inside : describedOpener name <+: next :: gap := by
          show '[' :: (name ++ [';']) <+: next :: gap
          rw [same, List.cons_prefix_cons]
          have solid : '[' ∉ name ++ [';'] := by simp [noOpening]
          exact ⟨rfl, prefix_of_prefix_append_cons solid ⟨after, behind.symm⟩⟩
        exact absurd inside.isInfix absent
    have behind : ¬ describedOpener name <:+: gap := by
      intro inside
      exact absent (inside.trans (List.suffix_cons next gap).isInfix)
    rw [List.cons_append, collapse_cons_of_none front, step behind]
    rfl

namespace Division

/-- Collapsing what was collapsed finds no token: in a gap there was none, and none arises between gaps and tokens. -/
theorem Of.collapse_collapsed {name text : List Char} (noOpening : '[' ∉ name) {division : Division}
    (of : Of name text division) :
    collapse name (division.collapsed name) = (division.collapsed name, none) := by
  obtain ⟨parts, tail⟩ := division
  induction parts generalizing text with
  | nil =>
    obtain ⟨rfl, missing⟩ := of_nil_iff.mp of
    exact collapse_of_none missing
  | cons part parts step =>
    obtain ⟨rest, found, behind⟩ := of_cons_iff.mp of
    have absent : ¬ describedOpener name <:+: part.gap :=
      (firstDescribed?_eq_some_iff.mp found).1.word_absent (by simp [describedOpener])
    have token : collapse name (plainToken name ++ collapsed name ⟨parts, tail⟩) =
        (plainToken name ++ collapsed name ⟨parts, tail⟩, none) := by
      rw [collapse_append_plain noOpening, step behind]
    rw [collapsed_cons, List.append_assoc]
    have gap := collapse_append_gap noOpening absent (name ++ [']'] ++ collapsed name ⟨parts, tail⟩)
    have whole : plainToken name ++ collapsed name ⟨parts, tail⟩ =
        '[' :: (name ++ [']'] ++ collapsed name ⟨parts, tail⟩) := rfl
    rw [← whole, token] at gap
    exact gap

end Division

/-- A text has one division at the described tokens of a name, and collapsing makes its tokens plain and gives the
first description. It leaves the text as it is exactly if there is no description, and if the name has no opening
bracket, collapsing once is enough. -/
theorem collapse_divides (name text : List Char) :
    (∃ division, Division.Of name text division ∧ (∀ other, Division.Of name text other → other = division) ∧
      collapse name text = (division.collapsed name, division.description?)) ∧
    ((collapse name text).1 = text ↔ (collapse name text).2 = none) ∧
    ('[' ∉ name → collapse name (collapse name text).1 = ((collapse name text).1, none)) := by
  obtain ⟨division, of⟩ := Division.exists_of name text
  have collapsed := of.collapse_eq
  refine ⟨⟨division, of, fun other another => another.unique of, collapsed⟩, ?_, ?_⟩
  · rw [collapsed]
    exact of.divides ▸ division.collapsed_eq_text_iff
  · intro noOpening
    rw [collapsed]
    exact of.collapse_collapsed noOpening

end RecordFill.Template

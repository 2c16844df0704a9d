import RecordFill.Proofs.Template.Collapse
import RecordFill.Template

namespace RecordFill.Template

open Text (remainder? remainder?_eq_some_iff replace replace_append_of_not_mem replace_append_self
  replace_cons_of_none replace_nil)

/-- The name in a token, in which no bracket and no semicolon stands. -/
structure TokenName where
  chars : List Char
  noOpening : '[' ∉ chars
  noClosing : ']' ∉ chars
  noSemicolon : ';' ∉ chars
  deriving DecidableEq

/-- The description in a token, in which no bracket stands. -/
structure TokenDescription where
  chars : List Char
  noOpening : '[' ∉ chars
  noClosing : ']' ∉ chars

/-- A character outside of tokens, or a plain token. -/
inductive PlainSegment where
  | char (c : Char) (noOpening : c ≠ '[')
  | token (name : TokenName)

/-- A segment of a template: one of a text with plain tokens only, or a described token. -/
inductive Segment where
  | plain (segment : PlainSegment)
  | described (name : TokenName) (description : TokenDescription)

namespace Segment

def text : Segment → List Char
  | .plain (.char c _) => [c]
  | .plain (.token name) => plainToken name.chars
  | .described name description => describedOpener name.chars ++ description.chars ++ [']']

def name? : Segment → Option TokenName
  | .plain (.char _ _) => none
  | .plain (.token name) => some name
  | .described name _ => some name

/-- The name of a plain token. -/
def plainName? : Segment → Option TokenName
  | .plain (.char _ _) => none
  | .plain (.token name) => some name
  | .described _ _ => none

/-- The description in a described token of a name. -/
def descriptionFor? (name : TokenName) : Segment → Option TokenDescription
  | .plain _ => none
  | .described other description => if other = name then some description else none

/-- A segment with a described token of a name made plain. -/
def collapsed (name : TokenName) : Segment → Segment
  | .plain segment => .plain segment
  | .described other description => if other = name then .plain (.token name) else .described other description

end Segment

/-- The text that segments make up. -/
def textOf (segments : List Segment) : List Char :=
  segments.flatMap Segment.text

@[simp] theorem textOf_nil : textOf [] = [] := rfl

@[simp] theorem textOf_cons (segment : Segment) (segments : List Segment) :
    textOf (segment :: segments) = segment.text ++ textOf segments := rfl

@[simp] theorem textOf_append (front back : List Segment) :
    textOf (front ++ back) = textOf front ++ textOf back := by
  simp [textOf]

/-- The description in the leftmost described token of a name. -/
def description? (name : TokenName) (segments : List Segment) : Option TokenDescription :=
  segments.findSome? (Segment.descriptionFor? name)

theorem description?_cons (name : TokenName) (segment : Segment) (segments : List Segment) :
    description? name (segment :: segments) = (segment.descriptionFor? name).or (description? name segments) := by
  rw [description?, description?, List.findSome?_cons]
  cases segment.descriptionFor? name <;> rfl

theorem description?_append (name : TokenName) (front back : List Segment) :
    description? name (front ++ back) = (description? name front).or (description? name back) :=
  List.findSome?_append

/-- A segment that is no token of a name does not describe it. -/
theorem descriptionFor?_eq_none {name : TokenName} {segment : Segment} (notNamed : segment.name? ≠ some name) :
    segment.descriptionFor? name = none := by
  match segment with
  | .plain _ => rfl
  | .described other _ =>
    have differs : other ≠ name := fun same => notNamed (congrArg some same)
    rw [Segment.descriptionFor?, if_neg differs]

/-- A name ends where its token says so: at the first closing bracket or semicolon. -/
theorem name_end_unique {name other : TokenName} {c c' : Char} {rest rest' : List Char}
    (ends : c = ']' ∨ c = ';') (ends' : c' = ']' ∨ c' = ';')
    (same : name.chars ++ c :: rest = other.chars ++ c' :: rest') : name = other ∧ c = c' := by
  have outside (token : TokenName) {end' : Char} (stop : end' = ']' ∨ end' = ';') : end' ∉ token.chars := by
    rcases stop with rfl | rfl
    · exact token.noClosing
    · exact token.noSemicolon
  have chars : name.chars = other.chars ∧ c = c' := by
    rcases List.append_eq_append_iff.mp same with ⟨between, longer, behind⟩ | ⟨between, longer, behind⟩
    · cases between with
      | nil => exact ⟨by simpa using longer.symm, (List.cons.inj behind).1⟩
      | cons first between =>
        obtain ⟨rfl, -⟩ := List.cons.inj behind
        exact absurd (by simp [longer]) (outside other ends)
    · cases between with
      | nil => exact ⟨by simpa using longer, (List.cons.inj behind).1.symm⟩
      | cons first between =>
        obtain ⟨rfl, -⟩ := List.cons.inj behind
        exact absurd (by simp [longer]) (outside name ends')
  refine ⟨?_, chars.2⟩
  cases name
  cases other
  simpa using chars.1

/-- A token of one name does not begin like one of another name, and a plain one not like a described one. -/
theorem remainder?_token_eq_none {name other : TokenName} {c c' : Char} (ends : c = ']' ∨ c = ';')
    (ends' : c' = ']' ∨ c' = ';') (differ : name = other → c ≠ c') (rest : List Char) :
    remainder? ('[' :: name.chars ++ [c]) ('[' :: (other.chars ++ c' :: rest)) = none := by
  cases front : remainder? ('[' :: name.chars ++ [c]) ('[' :: (other.chars ++ c' :: rest)) with
  | none => rfl
  | some after =>
    have divides := remainder?_eq_some_iff.mp front
    have same : name.chars ++ c :: after = other.chars ++ c' :: rest := by
      simpa using divides.symm
    obtain ⟨sameName, sameEnd⟩ := name_end_unique ends ends' same
    exact absurd sameEnd (differ sameName)

/-- Collapsing passes over a token that is no described token of the name. -/
theorem collapse_other {name other : TokenName} {c : Char} {tail : List Char} (ends : c = ']' ∨ c = ';')
    (differ : name = other → ';' ≠ c) (absent : '[' ∉ tail) (rest : List Char) :
    collapse name.chars ('[' :: (other.chars ++ c :: tail) ++ rest) =
      ('[' :: (other.chars ++ c :: tail) ++ (collapse name.chars rest).1, (collapse name.chars rest).2) := by
  have front : remainder? (describedOpener name.chars) ('[' :: (other.chars ++ c :: (tail ++ rest))) = none :=
    remainder?_token_eq_none (.inr rfl) ends differ _
  have noOpening : '[' ∉ other.chars ++ c :: tail := by
    rcases ends with rfl | rfl <;> simp [other.noOpening, absent]
  rw [List.cons_append, collapse_cons_of_none (by simpa using front), collapse_append_of_not_mem _ noOpening]
  rfl

/-- Replacing passes over a token that is no plain token of the name. -/
theorem replace_other {name other : TokenName} {c : Char} {tail : List Char} (content : List Char)
    (ends : c = ']' ∨ c = ';') (differ : name = other → ']' ≠ c) (absent : '[' ∉ tail) (rest : List Char) :
    replace (plainToken name.chars) (plainToken_ne_nil _) content ('[' :: (other.chars ++ c :: tail) ++ rest) =
      '[' :: (other.chars ++ c :: tail) ++
        replace (plainToken name.chars) (plainToken_ne_nil _) content rest := by
  have front : remainder? (plainToken name.chars) ('[' :: (other.chars ++ c :: (tail ++ rest))) = none :=
    remainder?_token_eq_none (.inl rfl) ends differ _
  have noOpening : '[' ∉ other.chars ++ c :: tail := by
    rcases ends with rfl | rfl <;> simp [other.noOpening, absent]
  have copied : replace (plainToken name.chars) (plainToken_ne_nil _) content (other.chars ++ c :: tail ++ rest) =
      other.chars ++ c :: tail ++ replace (plainToken name.chars) (plainToken_ne_nil _) content rest :=
    replace_append_of_not_mem content noOpening rest
  rw [List.cons_append, replace_cons_of_none _ _ (by simpa using front), copied]
  rfl

/-- Collapsing goes through one segment and on to those behind it. -/
theorem collapse_text_append (name : TokenName) (segment : Segment) (rest : List Char) :
    collapse name.chars (segment.text ++ rest) =
      ((segment.collapsed name).text ++ (collapse name.chars rest).1,
        ((segment.descriptionFor? name).map (·.chars)).or (collapse name.chars rest).2) := by
  match segment with
  | .plain (.char c noOpening) =>
    have absent : '[' ∉ [c] := by simpa using noOpening.symm
    exact collapse_append_of_not_mem name.chars absent rest
  | .plain (.token other) => exact collapse_other (.inl rfl) (fun _ => by decide) List.not_mem_nil rest
  | .described other description =>
    have whole : (Segment.described other description).text =
        '[' :: (other.chars ++ ';' :: (description.chars ++ [']'])) := by
      simp [Segment.text, describedOpener]
    by_cases same : other = name
    · subst same
      have found := collapse_append_described other.chars description.noClosing rest
      simpa [Segment.text, Segment.collapsed, Segment.descriptionFor?] using found
    · have absent : '[' ∉ description.chars ++ [']'] := by simp [description.noOpening]
      have differ : name = other → ';' ≠ ';' := fun equal => absurd equal.symm same
      have passed := collapse_other (.inr rfl) differ absent rest
      rw [Segment.collapsed, if_neg same, Segment.descriptionFor?, if_neg same, whole]
      exact passed

theorem replace_text_append (name : TokenName) (content : List Char) (segment : Segment) (rest : List Char) :
    replace (plainToken name.chars) (plainToken_ne_nil _) content (segment.text ++ rest) =
      (if segment.plainName? = some name then content else segment.text) ++
        replace (plainToken name.chars) (plainToken_ne_nil _) content rest := by
  match segment with
  | .plain (.char c noOpening) =>
    have absent : '[' ∉ [c] := by simpa using noOpening.symm
    exact replace_append_of_not_mem content absent rest
  | .plain (.token other) =>
    by_cases same : other = name
    · subst same
      rw [Segment.plainName?, if_pos rfl]
      exact replace_append_self _ content rest
    · rw [Segment.plainName?, if_neg (fun equal => same (Option.some.inj equal))]
      exact replace_other content (.inl rfl) (fun equal => absurd equal.symm same) List.not_mem_nil rest
  | .described other description =>
    have whole : (Segment.described other description).text =
        '[' :: (other.chars ++ ';' :: (description.chars ++ [']'])) := by
      simp [Segment.text, describedOpener]
    have absent : '[' ∉ description.chars ++ [']'] := by simp [description.noOpening]
    rw [Segment.plainName?, if_neg (by simp), whole]
    exact replace_other content (.inr rfl) (fun _ => by decide) absent rest

/-- Collapsing makes the described tokens of the name plain, and gives the leftmost one's description. -/
theorem collapse_textOf (name : TokenName) (segments : List Segment) :
    collapse name.chars (textOf segments) =
      (textOf (segments.map (Segment.collapsed name)), (description? name segments).map (·.chars)) := by
  induction segments with
  | nil => exact collapse_nil name.chars
  | cons segment segments step =>
    rw [textOf_cons, collapse_text_append, step, List.map_cons, textOf_cons, description?_cons, Option.map_or]

/-- Replacing makes the plain tokens of the name give way. -/
theorem replace_textOf (name : TokenName) (content : List Char) (segments : List Segment) :
    replace (plainToken name.chars) (plainToken_ne_nil _) content (textOf segments) =
      segments.flatMap fun segment => if segment.plainName? = some name then content else segment.text := by
  induction segments with
  | nil => exact replace_nil _ content
  | cons segment segments step => rw [textOf_cons, replace_text_append, step, List.flatMap_cons]

/-- A token of the name gives way to plain content whether it is described or not. -/
theorem plainName?_collapsed (name : TokenName) (segment : Segment) (content : List Char) :
    (if (segment.collapsed name).plainName? = some name then content else (segment.collapsed name).text) =
      if segment.name? = some name then content else segment.text := by
  match segment with
  | .plain (.char _ _) => rfl
  | .plain (.token other) => rfl
  | .described other description =>
    by_cases same : other = name
    · simp [Segment.collapsed, Segment.plainName?, Segment.name?, same]
    · simp [Segment.collapsed, Segment.plainName?, Segment.name?, same]

/-- In a row's turn every token of its name gives way to the leftmost description and the value. -/
theorem fillRow_textOf (styling : Styling) {row : Row} {name : TokenName} (named : row.name.toList = name.chars)
    (segments : List Segment) :
    fillRow styling (textOf segments) row =
      segments.flatMap fun segment =>
        if segment.name? = some name then
          (styling.wrapField row.name
            (String.ofList (((description? name segments).map (·.chars)).getD []) ++ row.value)).toList
        else segment.text := by
  simp only [fillRow, named, collapse_textOf, replace_textOf, List.flatMap_map, plainName?_collapsed]

end RecordFill.Template

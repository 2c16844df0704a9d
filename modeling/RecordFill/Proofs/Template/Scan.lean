import RecordFill.Proofs.Template.Collapse
import RecordFill.Template

namespace RecordFill.Template

open Text (FirstCut cut? cut?_eq_some_iff cut?_isSome_of_divides cut?_sides firstCut_singleton_iff remainder?
  remainder?_eq_some_iff replace replace_append_self replace_cons_of_none replace_nil)

/-- What a scan meets: a character that is no part of a token, or a token of the name. -/
inductive Met where
  | copied (c : Char)
  | plain
  | described (description : List Char)

namespace Met

/-- The description in a described token. -/
def description? : Met → Option (List Char)
  | .described description => some description
  | _ => none

/-- A character is copied, and a token gives way to the content. -/
def filled (content : List Char) : Met → List Char
  | .copied c => [c]
  | _ => content

end Met

/-- The token of a name at the front of a text, and what follows it. A described token goes on to the first closing
bracket; without one there is no token. -/
def frontToken? (name text : List Char) : Option (Met × List Char) :=
  match remainder? (plainToken name) text with
  | some rest => some (.plain, rest)
  | none => do
    let body ← remainder? (describedOpener name) text
    let (description, rest) ← cut? [']'] body
    return (.described description, rest)

theorem text_of_frontToken? {name text rest : List Char} {met : Met}
    (found : frontToken? name text = some (met, rest)) :
    met = .plain ∧ text = plainToken name ++ rest ∨
      ∃ description, met = .described description ∧ ']' ∉ description ∧
        text = describedOpener name ++ description ++ ']' :: rest := by
  unfold frontToken? at found
  split at found
  · next after plain =>
    obtain ⟨rfl, rfl⟩ := Prod.mk.inj (Option.some.inj found)
    exact .inl ⟨rfl, remainder?_eq_some_iff.mp plain⟩
  · simp only [Option.bind_eq_bind, Option.bind_eq_some_iff, Option.pure_def, Option.some.injEq, Prod.mk.injEq,
      Prod.exists, remainder?_eq_some_iff] at found
    obtain ⟨body, opened, description, after, closed, rfl, rfl⟩ := found
    have divides : body = description ++ ']' :: after := by simpa using cut?_sides closed
    refine .inr ⟨description, rfl, ?_, ?_⟩
    · rw [divides, cut?_eq_some_iff, firstCut_singleton_iff] at closed
      exact closed
    · rw [opened, divides, List.append_assoc]

/-- Without a token at the front, no plain one begins there, and behind the opener of a described one no bracket
closes it. -/
theorem frontToken?_eq_none {name text : List Char} (missing : frontToken? name text = none) :
    remainder? (plainToken name) text = none ∧
      ∀ body, text = describedOpener name ++ body → ']' ∉ body := by
  unfold frontToken? at missing
  split at missing
  · contradiction
  · next absent =>
    refine ⟨absent, ?_⟩
    rintro body opened closing
    have opener : remainder? (describedOpener name) text = some body := remainder?_eq_some_iff.mpr opened
    obtain ⟨before, after, divides⟩ := List.append_of_mem closing
    rw [List.append_cons] at divides
    obtain ⟨sides, found⟩ := Option.isSome_iff_exists.mp (cut?_isSome_of_divides divides)
    simp [opener, found] at missing

theorem frontToken?_shorter {name text rest : List Char} {met : Met}
    (found : frontToken? name text = some (met, rest)) : rest.length < text.length := by
  rcases text_of_frontToken? found with ⟨-, rfl⟩ | ⟨description, -, -, rfl⟩
  · simp [plainToken]
    omega
  · simp [describedOpener]
    omega

/-- All that a scan of a text for the tokens of a name meets from left to right. -/
def scan (name : List Char) : List Char → List Met
  | [] => []
  | c :: text =>
    match _found : frontToken? name (c :: text) with
    | some (met, rest) => met :: scan name rest
    | none => .copied c :: scan name text
termination_by text => text.length
decreasing_by
  · exact frontToken?_shorter _found
  · exact Nat.lt_succ_self _

/-- The text after one scan: the tokens of the row give way to the first description that is met and the value. -/
def scanRow (styling : Styling) (text : List Char) (row : Row) : List Char :=
  let met := scan row.name.toList text
  let description := (met.findSome? Met.description?).getD []
  met.flatMap (Met.filled (styling.wrapField row.name (String.ofList description ++ row.value)).toList)

/-- A text without closing brackets has no described token. -/
theorem collapse_of_noClosing (name : List Char) {text : List Char} (noClosing : ']' ∉ text) :
    collapse name text = (text, none) := by
  apply collapse_of_none
  rw [firstDescribed?_eq_none_iff]
  intro before body opener closing
  exact noClosing (opener.divides ▸ List.mem_append_right _ closing)

section Passes

variable {name : List Char} (noOpening : '[' ∉ name)
include noOpening

/-- Collapsing leaves a plain token of the name at the front of a text. -/
theorem collapse_append_plain (rest : List Char) :
    collapse name (plainToken name ++ rest) =
      (plainToken name ++ (collapse name rest).1, (collapse name rest).2) := by
  have whole : plainToken name ++ rest = '[' :: (name ++ [']'] ++ rest) := by simp [plainToken]
  have front : remainder? (describedOpener name) ('[' :: (name ++ [']'] ++ rest)) = none := by
    cases opened : remainder? (describedOpener name) ('[' :: (name ++ [']'] ++ rest)) with
    | none => rfl
    | some after => simpa [describedOpener] using remainder?_eq_some_iff.mp opened
  have noOpeningBehind : '[' ∉ name ++ [']'] := by simp [noOpening]
  have copied := collapse_append_of_not_mem name noOpeningBehind rest
  rw [whole, collapse_cons_of_none front, copied]
  simp [plainToken]

/-- Collapsing copies a character that begins no token. -/
theorem collapse_cons_of_frontToken? {c : Char} {text : List Char} (missing : frontToken? name (c :: text) = none) :
    collapse name (c :: text) = (c :: (collapse name text).1, (collapse name text).2) := by
  cases opened : remainder? (describedOpener name) (c :: text) with
  | none => exact collapse_cons_of_none opened
  | some body =>
    -- The opener is never closed, so that no described token follows it either.
    have divides := remainder?_eq_some_iff.mp opened
    have noClosing := (frontToken?_eq_none missing).2 body divides
    have front : FirstCut (describedOpener name) (c :: text) [] body := ⟨divides, fun _ _ _ => Nat.zero_le _⟩
    have never : firstDescribed? name (c :: text) = none := by
      rw [firstDescribed?_eq_none_iff]
      intro before later opener
      obtain ⟨-, rfl⟩ := opener.unique front
      exact noClosing
    have behind : text = name ++ [';'] ++ body := by simpa [describedOpener] using (List.cons.inj divides).2
    have noOpeningBehind : '[' ∉ name ++ [';'] := by simp [noOpening]
    have copied := collapse_append_of_not_mem name noOpeningBehind body
    rw [collapse_of_none never, behind, copied, collapse_of_noClosing name noClosing]

/-- Collapsing makes plain what a scan meets as described. -/
theorem collapse_eq_scan (text : List Char) :
    collapse name text =
      ((scan name text).flatMap (Met.filled (plainToken name)), (scan name text).findSome? Met.description?) := by
  fun_induction scan name text with
  | case1 => exact collapse_nil name
  | case2 c text met rest found step =>
    rcases text_of_frontToken? found with ⟨rfl, divides⟩ | ⟨description, rfl, noClosing, divides⟩
    · rw [divides, collapse_append_plain noOpening, step]
      rfl
    · rw [divides, collapse_append_described name noClosing, step]
      rfl
  | case3 c text missing step =>
    rw [collapse_cons_of_frontToken? noOpening missing, step]
    rfl

omit noOpening in
/-- A token gives way to the content whether it is plain or described. -/
theorem filled_of_frontToken? {text rest : List Char} {met : Met} (found : frontToken? name text = some (met, rest))
    (content : List Char) : met.filled content = content := by
  rcases text_of_frontToken? found with ⟨rfl, -⟩ | ⟨description, rfl, -⟩ <;> rfl

omit noOpening in
/-- A word without opening brackets stands in front of a collapsed text only if it stood there before. -/
theorem prefix_of_prefix_scan {word text : List Char} (solid : '[' ∉ word)
    (stands : word <+: (scan name text).flatMap (Met.filled (plainToken name))) : word <+: text := by
  fun_induction scan name text generalizing word with
  | case1 => exact stands
  | case2 c text met rest found step =>
    cases word with
    | nil => exact List.nil_prefix
    | cons first word =>
      rw [List.flatMap_cons, filled_of_frontToken? found] at stands
      have opening : first = '[' := (List.cons_prefix_cons.mp stands).1
      exact absurd (opening ▸ List.mem_cons_self) solid
  | case3 c text missing step =>
    cases word with
    | nil => exact List.nil_prefix
    | cons first word =>
      obtain ⟨same, behind⟩ := List.cons_prefix_cons.mp stands
      exact List.cons_prefix_cons.mpr ⟨same, step (fun member => solid (List.mem_cons_of_mem _ member)) behind⟩

/-- Replacing the plain tokens of a collapsed text fills in what a scan meets. -/
theorem replace_eq_scan (content text : List Char) :
    replace (plainToken name) (plainToken_ne_nil name) content
        ((scan name text).flatMap (Met.filled (plainToken name))) =
      (scan name text).flatMap (Met.filled content) := by
  fun_induction scan name text with
  | case1 => exact replace_nil _ content
  | case2 c text met rest found step =>
    rw [List.flatMap_cons, List.flatMap_cons, filled_of_frontToken? found, filled_of_frontToken? found,
      replace_append_self, step]
  | case3 c text missing step =>
    -- Collapsing what follows can complete no token here, as a token has no opening bracket behind its first.
    have front :
        remainder? (plainToken name) (c :: (scan name text).flatMap (Met.filled (plainToken name))) = none := by
      cases token : remainder? (plainToken name) (c :: (scan name text).flatMap (Met.filled (plainToken name))) with
      | none => rfl
      | some after =>
        obtain ⟨rfl, behind⟩ := List.cons.inj (remainder?_eq_some_iff.mp token)
        have stands : name ++ [']'] <+: text := prefix_of_prefix_scan (by simp [noOpening]) ⟨after, behind.symm⟩
        obtain ⟨rest, divides⟩ := stands
        have plain : remainder? (plainToken name) ('[' :: text) = some rest :=
          remainder?_eq_some_iff.mpr (congrArg ('[' :: ·) divides.symm)
        rw [(frontToken?_eq_none missing).1] at plain
        contradiction
    exact (replace_cons_of_none _ content front).trans (congrArg (c :: ·) step)

end Passes

/-- A row's turn in two passes is one scan. -/
theorem fillRow_eq_scanRow (styling : Styling) {row : Row} (noOpening : '[' ∉ row.name.toList) (text : List Char) :
    fillRow styling text row = scanRow styling text row := by
  simp only [fillRow, scanRow, collapse_eq_scan noOpening, replace_eq_scan noOpening]

/-- The turns of rows in two passes each are as many scans. -/
theorem foldl_fillRow_eq_foldl_scanRow (styling : Styling) {rows : List Row}
    (noOpening : ∀ row ∈ rows, '[' ∉ row.name.toList) (text : List Char) :
    rows.foldl (fillRow styling) text = rows.foldl (scanRow styling) text := by
  induction rows generalizing text with
  | nil => rfl
  | cons row rows step =>
    obtain ⟨here, later⟩ := List.forall_mem_cons.mp noOpening
    rw [List.foldl_cons, List.foldl_cons, fillRow_eq_scanRow styling here, step later]

/-- A template is filled by one scan for each row in turn, over what the scans before it left. -/
theorem fill_eq_foldl_scanRow (styling : Styling) (record : Record) (template : String)
    (noOpening : ∀ row ∈ record.rows, '[' ∉ row.name.toList) :
    fill styling record template =
      String.ofList (record.rows.foldl (scanRow styling) (styling.wrapRegion template).toList) := by
  rw [fill, foldl_fillRow_eq_foldl_scanRow styling noOpening]

/-- A name with a semicolon and an empty one, a bracket in a description, a value with its own token, and an opener
that is never closed. -/
theorem fill_eq_foldl_scanRow_unclosed :
    let record := Record.ofRows ⟨5⟩ [⟨"a;b", "", "[a;b]x"⟩, ⟨"", "", "E"⟩]
    let template := "[a;b;D [] ][a;b][] [a;b;never"
    (∀ row ∈ record.rows, '[' ∉ row.name.toList) ∧
      fill {} record template = String.ofList (record.rows.foldl (scanRow {}) template.toList) ∧
      fill {} record template = "D [[a;b]x ]D [[a;b]xE [a;b;never" := by
  intro record template
  have noOpening : ∀ row ∈ record.rows, '[' ∉ row.name.toList := by decide
  exact ⟨noOpening, fill_eq_foldl_scanRow {} record template noOpening, by decide +kernel⟩

end RecordFill.Template

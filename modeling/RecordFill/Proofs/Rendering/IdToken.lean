import RecordFill.Proofs.Rendering.Selection
import RecordFill.Proofs.Store.Loading
import RecordFill.Proofs.Template.Scan

namespace RecordFill

open Text (cut? cut?_eq_some_iff firstCut_of_not_mem remainder? remainder?_eq_some_iff replace_append_of_not_mem
  replace_append_self replace_cons_of_none replace_of_not_mem)

namespace Template

/-- Replacing tokens copies what stands in front of the first opening bracket. -/
theorem replace_plainToken_append (name content : List Char) {front : List Char} (absent : '[' ∉ front)
    (rest : List Char) :
    Text.replace (plainToken name) (plainToken_ne_nil name) content (front ++ rest) =
      front ++ Text.replace (plainToken name) (plainToken_ne_nil name) content rest :=
  replace_append_of_not_mem content absent rest

theorem replace_plainToken_of_not_mem (name content : List Char) {text : List Char} (absent : '[' ∉ text) :
    Text.replace (plainToken name) (plainToken_ne_nil name) content text = text :=
  replace_of_not_mem content absent

variable (styling : Styling)

theorem fillRow_of_not_mem (row : Row) {text : List Char} (absent : '[' ∉ text) : fillRow styling text row = text := by
  simp only [fillRow, collapse_of_not_mem _ absent, replace_plainToken_of_not_mem _ _ absent]

theorem foldl_fillRow_of_not_mem (rows : List Row) {text : List Char} (absent : '[' ∉ text) :
    rows.foldl (fillRow styling) text = text := by
  induction rows with
  | nil => rfl
  | cons row rows step => rw [List.foldl_cons, fillRow_of_not_mem styling row absent, step]

section Alone

variable {before after : List Char} (noOpeningBefore : '[' ∉ before) (noOpeningAfter : '[' ∉ after)
include noOpeningBefore noOpeningAfter

/-- No row has a turn in a text of one opening bracket where no token of its name stands. -/
theorem fillRow_of_frontToken? {row : Row} (missing : frontToken? row.name.toList ('[' :: after) = none) :
    fillRow styling (before ++ '[' :: after) row = before ++ '[' :: after := by
  obtain ⟨noPlain, -⟩ := frontToken?_eq_none missing
  have collapsed : collapse row.name.toList ('[' :: after) = ('[' :: after, none) := by
    have behind := collapse_of_not_mem row.name.toList noOpeningAfter
    cases opened : remainder? (describedOpener row.name.toList) ('[' :: after) with
    | none => rw [collapse_cons_of_none opened, behind]
    | some rest =>
      -- An opener in this text has its name behind the only opening bracket.
      have divides : after = row.name.toList ++ [';'] ++ rest := by
        simpa [describedOpener] using remainder?_eq_some_iff.mp opened
      have noOpeningInside : '[' ∉ row.name.toList := fun member => noOpeningAfter (by simp [divides, member])
      rw [collapse_cons_of_frontToken? noOpeningInside missing, behind]
  simp only [fillRow, collapse_append_of_not_mem _ noOpeningBefore, collapsed,
    replace_plainToken_append _ _ noOpeningBefore, replace_cons_of_none _ _ noPlain,
    replace_plainToken_of_not_mem _ _ noOpeningAfter]

/-- The only token of a text gives way to the value of a row of its name. -/
theorem fillRow_plainToken {row : Row} (noOpening : '[' ∉ row.name.toList) :
    fillRow styling (before ++ (plainToken row.name.toList ++ after)) row =
      before ++ ((styling.wrapField row.name row.value).toList ++ after) := by
  simp only [fillRow, collapse_append_of_not_mem _ noOpeningBefore, collapse_append_plain noOpening,
    collapse_of_not_mem _ noOpeningAfter, replace_plainToken_append _ _ noOpeningBefore, replace_append_self,
    replace_plainToken_of_not_mem _ _ noOpeningAfter, Option.getD_none, String.ofList_nil, String.empty_append]

/-- The only token of a text gives way to the value of the first row of its name, where no token of another name
stands and the value begins none. -/
theorem foldl_fillRow_plainToken {name : String} (noOpening : '[' ∉ name.toList) {rows : List Row} {row : Row}
    (first : rows.find? (·.name = name) = some row) (value : '[' ∉ (styling.wrapField row.name row.value).toList)
    (others : ∀ other ∈ rows, other.name ≠ name →
      frontToken? other.name.toList (plainToken name.toList ++ after) = none) :
    rows.foldl (fillRow styling) (before ++ (plainToken name.toList ++ after)) =
      before ++ ((styling.wrapField row.name row.value).toList ++ after) := by
  induction rows with
  | nil => contradiction
  | cons next rows step =>
    obtain ⟨here, later⟩ := List.forall_mem_cons.mp others
    rw [List.foldl_cons]
    by_cases named : next.name = name
    · obtain rfl : next = row := by simpa [named] using first
      subst named
      rw [fillRow_plainToken styling noOpeningBefore noOpeningAfter noOpening]
      exact foldl_fillRow_of_not_mem styling rows (by simp [noOpeningBefore, noOpeningAfter, value])
    · have noOpeningBehind : '[' ∉ name.toList ++ [']'] ++ after := by simp [noOpening, noOpeningAfter]
      have passed : fillRow styling (before ++ (plainToken name.toList ++ after)) next =
          before ++ (plainToken name.toList ++ after) :=
        fillRow_of_frontToken? styling noOpeningBefore noOpeningBehind (here named)
      rw [passed]
      exact step (by simpa [named] using first) later

end Alone

/-- Without styling, a template of the one token is filled with the value of the first row of the token's name. -/
theorem fill_idToken {styling : Styling} (unstyled : styling.enabled = false) (record : Record) {before after : String}
    (noOpeningBefore : '[' ∉ before.toList) (noOpeningAfter : '[' ∉ after.toList) {row : Row}
    (first : record.row? Record.idName = some row) (value : '[' ∉ row.value.toList)
    (others : ∀ other ∈ record.rows, other.name ≠ Record.idName →
      frontToken? other.name.toList ("[id]" ++ after).toList = none) :
    fill styling record (before ++ "[id]" ++ after) = before ++ row.value ++ after := by
  have region (content : String) : styling.wrapRegion content = content := by simp [Styling.wrapRegion, unstyled]
  have field (name content : String) : styling.wrapField name content = content := by
    simp [Styling.wrapField, unstyled]
  have whole : (before ++ "[id]" ++ after).toList =
      before.toList ++ (plainToken Record.idName.toList ++ after.toList) := by
    simp [plainToken, Record.idName]
  have token : ("[id]" ++ after).toList = plainToken Record.idName.toList ++ after.toList := by
    simp [plainToken, Record.idName]
  have value : '[' ∉ (styling.wrapField row.name row.value).toList := by rwa [field]
  rw [token] at others
  have filled :=
    foldl_fillRow_plainToken styling noOpeningBefore noOpeningAfter (by decide) first value others
  rw [fill, region, whole, filled, field]
  simp [String.append_assoc]

end Template

namespace Renderer

variable [RegexCompiler] {ε : Type} (renderer : Renderer ε)

/-- A region that addresses a record gives way to its template, where no opening brace is, filled with that record. -/
theorem render_byId {id : RecordId} (named : id ≠ .unresolved) {template : String} (noBrace : '{' ∉ template.toList) :
    renderer.render ("\x7b" ++ renderer.tag.name ++ " " ++ ("id=" ++ id.decimal) ++ "\x7d" ++
        (template ++ "\x7b/" ++ renderer.tag.name ++ "\x7d")) =
      (renderer.source.record (renderer.source.byId id)).map fun record =>
        Template.fill renderer.config.styling record template := by
  have closes : cut? renderer.tag.closer (template ++ "\x7b/" ++ renderer.tag.name ++ "\x7d").toList =
      some (template.toList, []) := by
    refine cut?_eq_some_iff.mpr ?_
    have cut := firstCut_of_not_mem ('/' :: renderer.tag.name.toList ++ ['}']) noBrace []
    simpa [Tag.closer] using cut
  have resolves : renderer.source.resolve (.byId id) = .ok (.ok (renderer.source.byId id)) := rfl
  have read := Selector.ofString?_decimal renderer.config.comparison named
  rw [renderer.render_opener (Selector.noBrace_decimal id) (Selector.noBlank_decimal id) closes read resolves,
    String.ofList_nil, renderer.render_empty, String.ofList_toList]
  cases renderer.source.record (renderer.source.byId id) with
  | error failure => rfl
  | ok record =>
    show Except.ok (Template.fill renderer.config.styling record template ++ "") = _
    rw [String.append_empty]
    rfl

end Renderer

section IdRegion

variable [RegexCompiler] (dataset : Dataset) (config : Config) (id : RecordId) (before after : String)

/-- A region with the address of a record around the token of its id. -/
def idRegion : String :=
  "\x7b" ++ config.tag ++ " id=" ++ id.decimal ++ "\x7d" ++ before ++ "[id]" ++ after ++ "\x7b/" ++ config.tag ++ "\x7d"

/-- What is rendered where a value takes the place of the token; a tag may still be refused. -/
def shownAs (value : String) : Except (RenderError QueryError) String :=
  ((Tag.ofName config.tag).mapError .tag).map fun _ => before ++ value ++ after

variable {dataset config id before after} (unstyled : config.styled = false) (named : id ≠ .unresolved)
  (noOpening : '[' ∉ (before ++ after).toList) (noBrace : '{' ∉ (before ++ after).toList)
  (others : ∀ row ∈ dataset.rows id, row.name ≠ Record.idName →
    Template.frontToken? row.name.toList ("[id]" ++ after).toList = none)
include unstyled named noOpening noBrace others

/-- The value of the first row named `id`, stored or not, is rendered in place of the token. -/
theorem render_idRegion_of_first {row : Row}
    (first : (Record.ofRows id (dataset.rows id)).row? Record.idName = some row) (value : '[' ∉ row.value.toList) :
    render dataset.source config (idRegion config id before after) = shownAs config before after row.value := by
  let record := Record.ofRows id (dataset.rows id)
  have noOpening : '[' ∉ before.toList ∧ '[' ∉ after.toList := by simpa [not_or] using noOpening
  have noBrace : '{' ∉ (before ++ "[id]" ++ after).toList := by simpa [not_or] using noBrace
  have apart : ∀ other ∈ record.rows, other.name ≠ Record.idName →
      Template.frontToken? other.name.toList ("[id]" ++ after).toList = none := by
    intro other member differs
    rcases List.mem_append.mp member with stored | own
    · exact others other stored differs
    · obtain rfl := List.mem_singleton.mp own
      exact absurd rfl differs
  unfold shownAs
  cases made : Tag.ofName config.tag with
  | error refusal => exact render_of_refused made _ _
  | ok tag =>
    have tagName : tag.name = config.tag := Tag.name_of_ofName made
    let renderer : Renderer QueryError := ⟨dataset.source, config, tag, made⟩
    have region : idRegion config id before after =
        "\x7b" ++ renderer.tag.name ++ " " ++ ("id=" ++ id.decimal) ++ "\x7d" ++
          ((before ++ "[id]" ++ after) ++ "\x7b/" ++ renderer.tag.name ++ "\x7d") := by
      rw [← String.toList_inj]
      simp [idRegion, renderer, tagName]
    have rendered : renderer.render (idRegion config id before after) = .ok (before ++ row.value ++ after) := by
      rw [region, renderer.render_byId named noBrace]
      exact congrArg Except.ok (Template.fill_idToken unstyled record noOpening.1 noOpening.2 first value apart)
    exact (render_of_accepted made _ _).trans (congrArg (Except.mapError RenderError.source) rendered)

/-- Without styling, the token of the id gives way to the record's id if no stored row has the name `id`, and else to
the value of the first one that has it. A name that goes on behind a closing bracket may have a token of its own in
this place. -/
theorem render_idRegion :
    ((∀ row ∈ dataset.rows id, row.name ≠ Record.idName) →
        render dataset.source config (idRegion config id before after) = shownAs config before after id.decimal) ∧
      ∀ row, (dataset.rows id).find? (·.name = Record.idName) = some row → '[' ∉ row.value.toList →
        render dataset.source config (idRegion config id before after) = shownAs config before after row.value := by
  refine ⟨fun unshadowed => ?_, fun row stored value => ?_⟩
  · have missing : (dataset.rows id).find? (·.name = Record.idName) = none :=
      List.find?_eq_none.mpr fun row member => by simpa using unshadowed row member
    have first : (Record.ofRows id (dataset.rows id)).row? Record.idName = some (Record.idRow id) := by
      simp [Record.row?_ofRows, missing]
    -- which row this is about only the search for it tells, so it is settled before the goal is met
    have rendered := render_idRegion_of_first unstyled named noOpening noBrace others first
      (RecordId.not_mem_decimal (by decide) (by decide) id)
    exact rendered
  · have first : (Record.ofRows id (dataset.rows id)).row? Record.idName = some row := by
      simp [Record.row?_ofRows, stored]
    exact render_idRegion_of_first unstyled named noOpening noBrace others first value

end IdRegion

/-- The id of a record is rendered although another record has a value in a field named `id`. -/
theorem render_idRegion_unshadowed :
    let dataset : Dataset := ⟨[⟨1, "id", ""⟩, ⟨2, "last", ""⟩], [⟨⟨5⟩, 1, "x"⟩, ⟨⟨-7⟩, 2, "Ray"⟩]⟩
    dataset.rows ⟨-7⟩ = [⟨"last", "", "Ray"⟩] ∧
      render dataset.source {} "\x7bwickedteamcontactinfo id=-7\x7d#[id].\x7b/wickedteamcontactinfo\x7d" =
        .ok "#-7." := by
  intro dataset
  have rows : dataset.rows ⟨-7⟩ = [⟨"last", "", "Ray"⟩] := by decide +kernel
  have others : ∀ row ∈ dataset.rows ⟨-7⟩, row.name ≠ Record.idName →
      Template.frontToken? row.name.toList ("[id]" ++ ".").toList = none := by
    rw [rows]
    decide
  have unshadowed : ∀ row ∈ dataset.rows ⟨-7⟩, row.name ≠ Record.idName := by
    rw [rows]
    decide
  have noOpening : '[' ∉ ("#" ++ ".").toList := by decide
  have noBrace : '{' ∉ ("#" ++ ".").toList := by decide
  exact ⟨rows, (render_idRegion rfl (by decide) noOpening noBrace others).1 unshadowed⟩

/-- A stored value is rendered in place of the id of its record. -/
theorem render_idRegion_shadowed :
    let source := "\x7b\"fields\":[\x7b\"id\":1,\"name\":\"id\"\x7d]," ++
      "\"values\":[\x7b\"item_id\":5,\"field_id\":1,\"value\":\"x\"\x7d]\x7d"
    let dataset : Dataset := ⟨[⟨1, "id", ""⟩], [⟨⟨5⟩, 1, "x"⟩]⟩
    let config : Config := {}
    Dataset.ofSource .json source = .ok dataset ∧ config.styled = false ∧ (⟨5⟩ : RecordId) ≠ .unresolved ∧
      render dataset.source config "\x7bwickedteamcontactinfo id=5\x7d[id]\x7b/wickedteamcontactinfo\x7d" = .ok "x" ∧
        RecordId.decimal ⟨5⟩ = "5" := by
  intro source dataset config
  have loaded : Dataset.ofSource .json source = .ok dataset :=
    Dataset.ofSource_eq_ok_iff.mpr ⟨by decide +kernel, by decide⟩
  have rows : dataset.rows ⟨5⟩ = [⟨"id", "", "x"⟩] := by decide +kernel
  have others : ∀ row ∈ dataset.rows ⟨5⟩, row.name ≠ Record.idName →
      Template.frontToken? row.name.toList ("[id]" ++ "").toList = none := by
    rw [rows]
    decide
  have first : (Record.ofRows ⟨5⟩ (dataset.rows ⟨5⟩)).row? Record.idName = some ⟨"id", "", "x"⟩ := by
    rw [rows]
    decide
  have unstyled : config.styled = false := rfl
  have noOpening : '[' ∉ ("" ++ "").toList := by decide
  have noBrace : '{' ∉ ("" ++ "").toList := by decide
  have rendered := render_idRegion_of_first unstyled (by decide) noOpening noBrace others first (by decide)
  have shown : shownAs {} "" "" "x" = .ok "x" := rfl
  exact ⟨loaded, unstyled, by decide, rendered.trans shown, by decide⟩

end RecordFill

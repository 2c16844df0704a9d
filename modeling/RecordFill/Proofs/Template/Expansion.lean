import RecordFill.Proofs.Template.Segments
import RecordFill.Proofs.Text.Numeral

namespace RecordFill

namespace Styling

def opening (styling : Styling) (className : String) : List Char :=
  if styling.enabled then ("<span class=\"" ++ className ++ "\">").toList else []

def closing (styling : Styling) : List Char :=
  if styling.enabled then "</span>".toList else []

theorem toList_wrapField (styling : Styling) (name content : String) :
    (styling.wrapField name content).toList =
      styling.opening (styling.fieldClass name) ++ content.toList ++ styling.closing := by
  unfold wrapField opening closing element
  split <;> simp

theorem toList_wrapRegion (styling : Styling) (content : String) :
    (styling.wrapRegion content).toList =
      styling.opening styling.regionClass ++ content.toList ++ styling.closing := by
  unfold wrapRegion opening closing element
  split <;> simp

/-- An element of a class without opening brackets begins no token. -/
theorem noOpening_opening (styling : Styling) {className : String} (noOpening : '[' ∉ className.toList) :
    '[' ∉ styling.opening className := by
  unfold opening
  split
  · simp [noOpening]
  · exact List.not_mem_nil

theorem noOpening_closing (styling : Styling) : '[' ∉ styling.closing := by
  unfold closing
  split <;> decide

end Styling

namespace Template

/-- A text without opening brackets as segments. -/
def literal (text : List Char) (noOpening : '[' ∉ text) : List PlainSegment :=
  text.pmap PlainSegment.char fun c member => by
    intro same
    exact noOpening (same ▸ member)

/-- A row whose name can stand in tokens, and whose value is a template with plain tokens only. -/
structure PlainRow where
  name : TokenName
  title : String
  value : List PlainSegment

namespace PlainRow

/-- The value of a row as the segments of a template. -/
def segments (row : PlainRow) : List Segment :=
  row.value.map .plain

/-- The row with its value as a text. -/
def toRow (row : PlainRow) : Row :=
  ⟨String.ofList row.name.chars, row.title, String.ofList (textOf row.segments)⟩

end PlainRow

/-- A segment whose token gives way to the content that its name has, if it has any. -/
def Segment.expand (content? : TokenName → Option (List Char)) (segment : Segment) : List Char :=
  (segment.name?.bind content?).getD segment.text

/-- A template with each token expanded by itself. -/
def expand (content? : TokenName → Option (List Char)) (segments : List Segment) : List Char :=
  segments.flatMap (Segment.expand content?)

/-- The content of a name's tokens among the rows behind the given names: that of the first row of the name. The
description goes with the first such row of the whole record, and the tokens in a value mean rows behind its own. -/
def meaning? (styling : Styling) (template : List Segment) :
    List TokenName → List PlainRow → TokenName → Option (List Char)
  | _, [], _ => none
  | earlier, row :: later, name =>
    if name = row.name then
      let description := if name ∈ earlier then none else description? name template
      let value := expand (meaning? styling template (row.name :: earlier) later) row.segments
      let content := (description.map (·.chars)).getD [] ++ value
      some (styling.wrapField (String.ofList name.chars) (String.ofList content)).toList
    else meaning? styling template (row.name :: earlier) later name

/-- A segment whose token of a name gives way to other segments. -/
def Segment.turned (name : TokenName) (content : List PlainSegment) (segment : Segment) : List Segment :=
  if segment.name? = some name then content.map .plain else [segment]

@[simp] theorem expand_nil (content? : TokenName → Option (List Char)) : expand content? [] = [] := rfl

@[simp] theorem expand_cons (content? : TokenName → Option (List Char)) (segment : Segment)
    (segments : List Segment) :
    expand content? (segment :: segments) = segment.expand content? ++ expand content? segments := rfl

@[simp] theorem expand_append (content? : TokenName → Option (List Char)) (front back : List Segment) :
    expand content? (front ++ back) = expand content? front ++ expand content? back := by
  simp [expand]

/-- A text without tokens stands for itself. -/
@[simp] theorem expand_literal (content? : TokenName → Option (List Char)) {text : List Char}
    (noOpening : '[' ∉ text) : expand content? ((literal text noOpening).map .plain) = text := by
  induction text with
  | nil => rfl
  | cons c text step =>
    have rest := step fun member => noOpening (List.mem_cons_of_mem c member)
    rw [literal, List.pmap_cons, List.map_cons, expand_cons]
    exact congrArg (c :: ·) rest

theorem expand_none (segments : List Segment) : expand (fun _ => none) segments = textOf segments := by
  induction segments with
  | nil => rfl
  | cons segment segments step =>
    rw [expand_cons, step, textOf_cons, Segment.expand, Option.bind_fun_none]
    rfl

@[simp] theorem textOf_literal {text : List Char} (noOpening : '[' ∉ text) :
    textOf ((literal text noOpening).map .plain) = text := by
  rw [← expand_none, expand_literal]

@[simp] theorem description?_plain (name : TokenName) (segments : List PlainSegment) :
    description? name (segments.map .plain) = none := by
  rw [description?, List.findSome?_eq_none_iff]
  intro segment member
  obtain ⟨plain, -, rfl⟩ := List.mem_map.mp member
  rfl

theorem noOpening_description (description : Option TokenDescription) :
    '[' ∉ (description.map (·.chars)).getD [] := by
  cases description with
  | none => exact List.not_mem_nil
  | some description => exact description.noOpening

/-- After its turn a name has no described token left, and the other names have those they had. -/
theorem description?_turned (name row : TokenName) (content : List PlainSegment) (segments : List Segment) :
    description? name (segments.flatMap (Segment.turned row content)) =
      if name = row then none else description? name segments := by
  induction segments with
  | nil => simp [description?]
  | cons segment segments step =>
    rw [List.flatMap_cons, description?_append, step, description?_cons, Segment.turned]
    by_cases named : segment.name? = some row
    · rw [if_pos named, description?_plain, Option.none_or]
      by_cases same : name = row
      · rw [if_pos same, if_pos same]
      · have notNamed : segment.name? ≠ some name := by
          rw [named]
          exact fun equal => same (Option.some.inj equal).symm
        rw [if_neg same, if_neg same, descriptionFor?_eq_none notNamed, Option.none_or]
    · rw [if_neg named, description?, List.findSome?_singleton]
      by_cases same : name = row
      · subst same
        rw [if_pos rfl, if_pos rfl, descriptionFor?_eq_none named, Option.none_or]
      · rw [if_neg same, if_neg same]

/-- In a row's turn the text becomes that of the turned segments. -/
theorem textOf_turned (name : TokenName) (content : List PlainSegment) (segments : List Segment) :
    textOf (segments.flatMap (Segment.turned name content)) =
      segments.flatMap fun segment =>
        if segment.name? = some name then textOf (content.map .plain) else segment.text := by
  induction segments with
  | nil => rfl
  | cons segment segments step =>
    rw [List.flatMap_cons, textOf_append, step, List.flatMap_cons, Segment.turned]
    by_cases named : segment.name? = some name
    · rw [if_pos named, if_pos named]
    · rw [if_neg named, if_neg named, textOf_cons, textOf_nil, List.append_nil]

/-- Turned segments mean what they did if the content put in means what its name did. -/
theorem expand_turned {before? after? : TokenName → Option (List Char)} {name : TokenName}
    {content : List PlainSegment} (atName : before? name = some (expand after? (content.map .plain)))
    (elsewhere : ∀ other, other ≠ name → before? other = after? other) (segments : List Segment) :
    expand after? (segments.flatMap (Segment.turned name content)) = expand before? segments := by
  induction segments with
  | nil => rfl
  | cons segment segments step =>
    rw [List.flatMap_cons, expand_append, step, expand_cons, Segment.turned]
    by_cases named : segment.name? = some name
    · rw [if_pos named, Segment.expand, named, Option.bind_some, atName, Option.getD_some]
    · rw [if_neg named, expand_cons, expand_nil, List.append_nil, Segment.expand, Segment.expand]
      cases same : segment.name? with
      | none => rfl
      | some other =>
        have differs : other ≠ name := fun equal => named (same.trans (congrArg some equal))
        rw [Option.bind_some, Option.bind_some, elsewhere other differs]

/-- The description and the value of a field, in the element of the field. -/
def fieldContent (styling : Styling) (prefixPlain : '[' ∉ styling.classPrefix.toList) (row : PlainRow)
    (description : Option TokenDescription) : List PlainSegment :=
  literal (styling.opening (styling.fieldClass (String.ofList row.name.chars)))
      (styling.noOpening_opening (by simp [Styling.fieldClass, prefixPlain, row.name.noOpening])) ++
    literal ((description.map (·.chars)).getD []) (noOpening_description description) ++ row.value ++
    literal styling.closing styling.noOpening_closing

/-- A field means its description and what its value means, in the element of the field. -/
theorem expand_fieldContent (content? : TokenName → Option (List Char)) (styling : Styling)
    (prefixPlain : '[' ∉ styling.classPrefix.toList) (row : PlainRow) (description : Option TokenDescription) :
    expand content? ((fieldContent styling prefixPlain row description).map .plain) =
      (styling.wrapField (String.ofList row.name.chars)
        (String.ofList ((description.map (·.chars)).getD [] ++ expand content? row.segments))).toList := by
  rw [Styling.toList_wrapField, String.toList_ofList]
  simp only [fieldContent, List.map_append, expand_append, expand_literal, PlainRow.segments, List.append_assoc]

/-- A template in the element of the region. -/
def regionContent (styling : Styling) (prefixPlain : '[' ∉ styling.classPrefix.toList) (template : List Segment) :
    List Segment :=
  (literal (styling.opening styling.regionClass)
      (styling.noOpening_opening (by simp [Styling.regionClass, prefixPlain]))).map .plain ++
    template ++ (literal styling.closing styling.noOpening_closing).map .plain

/-- The element of the region stands for itself. -/
theorem expand_regionContent (content? : TokenName → Option (List Char)) (styling : Styling)
    (prefixPlain : '[' ∉ styling.classPrefix.toList) (template : List Segment) :
    expand content? (regionContent styling prefixPlain template) =
      (styling.wrapRegion (String.ofList (expand content? template))).toList := by
  rw [Styling.toList_wrapRegion, String.toList_ofList, regionContent, expand_append, expand_append, expand_literal,
    expand_literal]

/-- The element of the region describes nothing. -/
theorem description?_regionContent (styling : Styling) (prefixPlain : '[' ∉ styling.classPrefix.toList)
    (template : List Segment) (name : TokenName) :
    description? name (regionContent styling prefixPlain template) = description? name template := by
  rw [regionContent, description?_append, description?_append, description?_plain, description?_plain, Option.none_or,
    Option.or_none]

/-- A row's turn over the text of a template is a turn over its segments. -/
theorem fillRow_toRow (styling : Styling) (prefixPlain : '[' ∉ styling.classPrefix.toList) (row : PlainRow)
    (segments : List Segment) :
    fillRow styling (textOf segments) row.toRow =
      textOf (segments.flatMap
        (Segment.turned row.name (fieldContent styling prefixPlain row (description? row.name segments)))) := by
  have named : row.toRow.name.toList = row.name.chars := String.toList_ofList
  have content : textOf ((fieldContent styling prefixPlain row (description? row.name segments)).map .plain) =
      (styling.wrapField row.toRow.name
        (String.ofList (((description? row.name segments).map (·.chars)).getD []) ++ row.toRow.value)).toList := by
    rw [← expand_none, expand_fieldContent, expand_none, String.ofList_append]
    rfl
  rw [fillRow_textOf styling named, textOf_turned, content]

/-- The rows' turns over a template whose described tokens are those of names not yet met come to its meaning. -/
theorem foldl_fillRow (styling : Styling) (prefixPlain : '[' ∉ styling.classPrefix.toList) (template : List Segment)
    (rows : List PlainRow) (earlier : List TokenName) (segments : List Segment)
    (descriptions : ∀ name,
      description? name segments = if name ∈ earlier then none else description? name template) :
    (rows.map PlainRow.toRow).foldl (fillRow styling) (textOf segments) =
      expand (meaning? styling template earlier rows) segments := by
  induction rows generalizing earlier segments with
  | nil => exact (expand_none segments).symm
  | cons row later step =>
    rw [List.map_cons, List.foldl_cons, fillRow_toRow styling prefixPlain]
    have descriptionsAfter (name : TokenName) :
        description? name (segments.flatMap
          (Segment.turned row.name (fieldContent styling prefixPlain row (description? row.name segments)))) =
          if name ∈ row.name :: earlier then none else description? name template := by
      rw [description?_turned, descriptions name]
      by_cases same : name = row.name
      · simp [same]
      · simp [same]
    rw [step (row.name :: earlier) _ descriptionsAfter]
    apply expand_turned
    · rw [expand_fieldContent, descriptions row.name, meaning?, if_pos rfl]
    · intro other differs
      rw [meaning?, if_neg differs]

/-- The row of a record's own id, whose digits hold no token. -/
def PlainRow.ofId (id : RecordId) : PlainRow where
  name := ⟨Record.idName.toList, by decide, by decide, by decide⟩
  title := Record.idName
  value := literal id.decimal.toList (RecordId.not_mem_decimal (by decide) (by decide) id)

theorem PlainRow.toRow_ofId (id : RecordId) : (PlainRow.ofId id).toRow = Record.idRow id := by
  have value : String.ofList (textOf (PlainRow.ofId id).segments) = id.decimal := by
    rw [PlainRow.segments, PlainRow.ofId, textOf_literal, String.ofList_toList]
  rw [PlainRow.toRow, value]
  rfl

/-- A filled template is its expansion, in the element of the region: a token of the template means the first row
of its name in the record, and a token of a value the first such row behind that value. -/
theorem fill_textOf (styling : Styling) (prefixPlain : '[' ∉ styling.classPrefix.toList) (id : RecordId)
    (rows : List PlainRow) (template : List Segment) :
    fill styling (Record.ofRows id (rows.map PlainRow.toRow)) (String.ofList (textOf template)) =
      styling.wrapRegion
        (String.ofList (expand (meaning? styling template [] (rows ++ [PlainRow.ofId id])) template)) := by
  have wrapped : (styling.wrapRegion (String.ofList (textOf template))).toList =
      textOf (regionContent styling prefixPlain template) := by
    rw [← expand_none, ← expand_none, expand_regionContent]
  have records : (Record.ofRows id (rows.map PlainRow.toRow)).rows =
      (rows ++ [PlainRow.ofId id]).map PlainRow.toRow := by
    rw [List.map_append, List.map_singleton, PlainRow.toRow_ofId]
    rfl
  have descriptions (name : TokenName) :
      description? name (regionContent styling prefixPlain template) =
        if name ∈ ([] : List TokenName) then none else description? name template := by
    rw [description?_regionContent, if_neg List.not_mem_nil]
  rw [fill, wrapped, records, foldl_fillRow styling prefixPlain template _ [] _ descriptions, expand_regionContent,
    String.ofList_toList]

/-- A value may name a row behind it, and a name that an earlier row had is not met again. -/
theorem fill_textOf_nested :
    '[' ∉ ({} : Styling).classPrefix.toList ∧
      fill {} (Record.ofRows ⟨7⟩ [⟨"last", "Name", "[title] Ray"⟩, ⟨"title", "Title", "Dr. [last]"⟩])
        "[last;To ], [id]" = "To Dr. [last] Ray, 7" := by
  have prefixPlain : '[' ∉ ({} : Styling).classPrefix.toList := by decide
  let last : TokenName := ⟨"last".toList, by decide, by decide, by decide⟩
  let title : TokenName := ⟨"title".toList, by decide, by decide, by decide⟩
  let rows : List PlainRow :=
    [⟨last, "Name", .token title :: literal " Ray".toList (by decide)⟩,
      ⟨title, "Title", literal "Dr. ".toList (by decide) ++ [.token last]⟩]
  let id : TokenName := ⟨Record.idName.toList, by decide, by decide, by decide⟩
  let template : List Segment :=
    .described last ⟨"To ".toList, by decide, by decide⟩ ::
      (literal ", ".toList (by decide)).map .plain ++ [.plain (.token id)]
  have filled := fill_textOf {} prefixPlain ⟨7⟩ rows template
  exact ⟨prefixPlain, filled.trans (by decide)⟩

end Template

end RecordFill

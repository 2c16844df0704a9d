import RecordFill.Proofs.Text.Numeral
import RecordFill.Proofs.Text.Pieces
import RecordFill.Selector
import Mathlib.Data.List.Infix

namespace RecordFill.Selector

open Text (Unbordered cut? cut?_cons cut?_eq_none_iff cut?_eq_some_iff cut?_sides firstCut_singleton_iff
  infix_or_infix_of_not_mem isAsciiBlank isBlank leadingInteger leadingInteger_append_of_blank leadingInteger_decimal
  not_infix_of_mem_pieces pieces pieces_ne_nil remainder?)

/-- The kind of a selector and what follows it, divided by the first equals sign. -/
def sidesOf (text : String) : List Char × List Char :=
  (cut? ['='] text.toList).getD (text.toList, [])

theorem prefix_sidesOf (text : String) : (sidesOf text).1 <+: text.toList := by
  rw [sidesOf]
  cases found : cut? ['='] text.toList with
  | none => exact List.prefix_rfl
  | some sides =>
    rw [Option.getD_some, cut?_sides found, List.append_assoc]
    exact List.prefix_append _ _

/-- What addresses an id is of that kind, and not the id of no record. -/
theorem ofString?_eq_byId_iff {comparison : Comparison} {text : String} {id : RecordId} :
    ofString? comparison text = some (.byId id) ↔
      (sidesOf text).1 = ['i', 'd'] ∧ id = ⟨leadingInteger (sidesOf text).2⟩ ∧ id ≠ .unresolved := by
  rw [ofString?, ← sidesOf]
  obtain ⟨kind, rest⟩ := sidesOf text
  by_cases address : kind = ['i', 'd']
  · by_cases resolved : (⟨leadingInteger rest⟩ : RecordId) = .unresolved
    · simp [address, resolved]
    · simp only [address, resolved, if_true, if_false, Option.some.injEq, byId.injEq, true_and]
      exact ⟨fun same => ⟨same.symm, same ▸ resolved⟩, fun ⟨same, _⟩ => same.symm⟩
  · simp only [address, if_false, false_and, iff_false]
    split <;> simp

/-- What writes a query is of that kind, and its conditions are read from what follows. -/
theorem ofString?_eq_byQuery_iff {comparison : Comparison} {text : String} {conditions : List Condition} :
    ofString? comparison text = some (.byQuery conditions) ↔
      (sidesOf text).1 = ['q', 'u', 'e', 'r', 'y'] ∧ readConditions comparison (sidesOf text).2 = conditions := by
  rw [ofString?, ← sidesOf]
  obtain ⟨kind, rest⟩ := sidesOf text
  by_cases query : kind = ['q', 'u', 'e', 'r', 'y']
  · simp [query]
  · simp only [query, if_false, false_and, iff_false]
    split
    · split <;> simp
    · simp

section Address

/-- The digits of an id address it behind blanks and in front of anything but a digit, unless it is the id of no
record. -/
theorem ofString?_id (comparison : Comparison) (blanks trailing : String) {id : RecordId} (resolved : id ≠ .unresolved)
    (blank : ∀ c ∈ blanks.toList, isAsciiBlank c = true) (ends : ∀ c ∈ trailing.toList.head?, c.isDigit = false) :
    ofString? comparison ("id=" ++ blanks ++ id.decimal ++ trailing) = some (.byId id) := by
  have sides : sidesOf ("id=" ++ blanks ++ id.decimal ++ trailing) =
      (['i', 'd'], blanks.toList ++ (id.decimal.toList ++ trailing.toList)) := by
    simp [sidesOf, cut?_cons, remainder?]
  rw [ofString?_eq_byId_iff, sides, leadingInteger_append_of_blank blank, RecordId.decimal,
    leadingInteger_decimal id.number ends]
  exact ⟨rfl, rfl, resolved⟩

/-- The digits of an id address it, unless it is the id of no record. -/
theorem ofString?_decimal (comparison : Comparison) {id : RecordId} (resolved : id ≠ .unresolved) :
    ofString? comparison ("id=" ++ id.decimal) = some (.byId id) := by
  have bare := ofString?_id comparison "" "" resolved (by simp) (by simp)
  simpa using bare

theorem ne_unresolved_of_ofString? {comparison : Comparison} {text : String} {id : RecordId}
    (written : ofString? comparison text = some (.byId id)) : id ≠ .unresolved :=
  (ofString?_eq_byId_iff.mp written).2.2

end Address

section Query

/-- A field's name and a value keep clear of the marks that divide a query. -/
def Separable (field value : String) : Prop :=
  ':' ∉ field.toList ∧ ¬ separator <:+: field.toList ∧ ¬ separator <:+: value.toList

/-- The query for pairs of a field's name and a value. -/
def queryText (pairs : List (String × String)) : String :=
  "query=" ++ "&amp;".intercalate (pairs.map fun (field, value) => field ++ ":" ++ value)

theorem unbordered_separator : Unbordered separator := by
  have borders : ∀ border ∈ separator.inits, border <:+ separator → border = [] ∨ border = separator := by decide
  intro border begins
  exact borders border ((List.mem_inits border separator).mpr begins)

/-- A colon keeps the separator from reaching over it. -/
theorem Separable.separator_absent {field value : String} (separable : Separable field value) :
    ¬ separator <:+: field.toList ++ ':' :: value.toList := by
  intro within
  rcases infix_or_infix_of_not_mem (by decide) within with inField | inValue
  · exact separable.2.1 inField
  · exact separable.2.2 inValue

/-- A name and a value are read back from the condition that they write. -/
theorem readCondition_append (comparison : Comparison) {field value : String} (noColon : ':' ∉ field.toList) :
    readCondition comparison (field.toList ++ ':' :: value.toList) = ⟨field, comparison, value⟩ := by
  have divides : cut? [':'] (field.toList ++ ':' :: value.toList) = some (field.toList, value.toList) :=
    cut?_eq_some_iff.mpr (firstCut_singleton_iff.mpr noColon)
  simp only [readCondition, divides, Option.getD_some, String.ofList_toList]

/-- What is read from a piece of a query keeps clear of the marks. -/
theorem separable_readCondition (comparison : Comparison) {piece : List Char} (absent : ¬ separator <:+: piece) :
    Separable (readCondition comparison piece).field (readCondition comparison piece).value := by
  rw [readCondition]
  cases found : cut? [':'] piece with
  | none =>
    have noColon : ':' ∉ piece := fun member => cut?_eq_none_iff.mp found ((List.singleton_infix_iff _ _).mpr member)
    have nothing : ¬ separator <:+: [] := by decide
    simp [Separable, noColon, absent, nothing]
  | some sides =>
    obtain ⟨field, value⟩ := sides
    have noColon : ':' ∉ field := fun member =>
      (cut?_eq_some_iff.mp found).word_absent (List.cons_ne_nil _ _) ((List.singleton_infix_iff _ _).mpr member)
    have divides : piece = field ++ [':'] ++ value := cut?_sides found
    have notField : ¬ separator <:+: field := fun within =>
      absent (within.trans ⟨[], [':'] ++ value, by simp [divides]⟩)
    have notValue : ¬ separator <:+: value := fun within =>
      absent (within.trans ⟨field ++ [':'], [], by simp [divides]⟩)
    simp [Separable, noColon, notField, notValue]

/-- Every condition that is read compares as asked and keeps clear of the marks. -/
theorem separable_of_mem_readConditions {comparison : Comparison} {text : List Char} {condition : Condition}
    (member : condition ∈ readConditions comparison text) :
    condition.comparison = comparison ∧ Separable condition.field condition.value := by
  obtain ⟨piece, within, rfl⟩ := List.mem_map.mp member
  exact ⟨rfl, separable_readCondition comparison (not_infix_of_mem_pieces _ within)⟩

theorem readConditions_ne_nil (comparison : Comparison) (text : List Char) : readConditions comparison text ≠ [] := by
  simpa [readConditions] using pieces_ne_nil _ text

/-- Pairs that keep clear of the marks are read back from the query that they make. -/
theorem ofString?_queryText (comparison : Comparison) {pairs : List (String × String)} (given : pairs ≠ [])
    (separable : ∀ pair ∈ pairs, Separable pair.1 pair.2) :
    ofString? comparison (queryText pairs) =
      some (.byQuery (pairs.map fun (field, value) => ⟨field, comparison, value⟩)) := by
  let parts : List (List Char) := pairs.map fun (field, value) => field.toList ++ ':' :: value.toList
  have sides : sidesOf (queryText pairs) = (['q', 'u', 'e', 'r', 'y'], separator.intercalate parts) := by
    have joined : ("&amp;".intercalate (pairs.map fun (field, value) => field ++ ":" ++ value)).toList =
        separator.intercalate parts := by
      simp [parts, separator, Function.comp_def, String.toList_intercalate]
    simp [sidesOf, queryText, cut?_cons, remainder?, joined]
  have read : pieces separator (List.cons_ne_nil _ _) (separator.intercalate parts) = parts := by
    apply unbordered_separator.pieces_intercalate _ (by simpa [parts] using given)
    intro part member
    obtain ⟨pair, within, rfl⟩ := List.mem_map.mp member
    exact (separable pair within).separator_absent
  rw [ofString?_eq_byQuery_iff, sides]
  refine ⟨rfl, ?_⟩
  rw [readConditions, read, List.map_map]
  apply List.map_congr_left
  intro pair member
  exact readCondition_append comparison (separable pair member).1

end Query

/-- No blank stands in front of a query. -/
theorem noBlank_of_ofString?_byQuery {comparison : Comparison} {text : String} {conditions : List Condition}
    (written : ofString? comparison text = some (.byQuery conditions)) :
    ∀ c ∈ text.toList.head?, isBlank c = false := by
  obtain ⟨behind, begins⟩ := prefix_sidesOf text
  rw [(ofString?_eq_byQuery_iff.mp written).1] at begins
  intro c first
  rw [← begins] at first
  obtain rfl : 'q' = c := Option.some.inj first
  decide

theorem noBlank_decimal (id : RecordId) : ∀ c ∈ ("id=" ++ id.decimal).toList.head?, isBlank c = false := by
  intro c first
  rw [String.toList_append] at first
  obtain rfl : 'i' = c := Option.some.inj first
  decide

theorem noBrace_decimal (id : RecordId) : '}' ∉ ("id=" ++ id.decimal).toList := by
  have noBraceInDigits : '}' ∉ id.decimal.toList := RecordId.not_mem_decimal (by decide) (by decide) id
  simp [noBraceInDigits]

/-- Pairs of names and values that keep clear of the marks are read back from their query as they are. Whatever text
writes a query, it has a condition, and every condition compares as asked and keeps clear of the marks. The digits of an
id address it behind ASCII blanks and in front of anything but a digit, and nothing addresses the id of no record. -/
theorem ofString?_readsBack (comparison : Comparison) :
    (∀ pairs : List (String × String), pairs ≠ [] → (∀ pair ∈ pairs, Separable pair.1 pair.2) →
      ofString? comparison (queryText pairs) =
        some (.byQuery (pairs.map fun (field, value) => ⟨field, comparison, value⟩))) ∧
    (∀ text conditions, ofString? comparison text = some (.byQuery conditions) →
      conditions ≠ [] ∧ ∀ condition ∈ conditions,
        condition.comparison = comparison ∧ Separable condition.field condition.value) ∧
    (∀ (id : RecordId) (blanks trailing : String), id ≠ .unresolved → (∀ c ∈ blanks.toList, isAsciiBlank c = true) →
      (∀ c ∈ trailing.toList.head?, c.isDigit = false) →
      ofString? comparison ("id=" ++ blanks ++ id.decimal ++ trailing) = some (.byId id)) ∧
    ∀ text, ofString? comparison text ≠ some (.byId .unresolved) := by
  refine ⟨?_, ?_, ?_, ?_⟩
  · intro pairs given separable
    exact ofString?_queryText comparison given separable
  · intro text conditions written
    obtain ⟨-, rfl⟩ := ofString?_eq_byQuery_iff.mp written
    exact ⟨readConditions_ne_nil comparison _, fun _ => separable_of_mem_readConditions⟩
  · intro id blanks trailing resolved blank ends
    exact ofString?_id comparison blanks trailing resolved blank ends
  · intro text written
    exact ne_unresolved_of_ofString? written rfl

/-- A value may end like the separator begins and have further colons, and the least id is read back like others. -/
theorem ofString?_readsBack_almost_separated :
    let pairs := [("time", "10:30&am"), ("", "a=b;")]
    let conditions : List Condition := [⟨"time", .like, "10:30&am"⟩, ⟨"", .like, "a=b;"⟩]
    let least : RecordId := ⟨Int64.minValue⟩
    (∀ pair ∈ pairs, Separable pair.1 pair.2) ∧ queryText pairs = "query=time:10:30&am&amp;:a=b;" ∧
      ofString? .like (queryText pairs) = some (.byQuery conditions) ∧
      (∀ condition ∈ conditions, condition.comparison = .like ∧ Separable condition.field condition.value) ∧
      least ≠ .unresolved ∧ ofString? .like ("id=" ++ " \t" ++ least.decimal ++ "-7") = some (.byId least) := by
  intro pairs conditions least
  obtain ⟨queries, conversely, addresses, -⟩ := ofString?_readsBack .like
  have separable : ∀ pair ∈ pairs, Separable pair.1 pair.2 := by
    unfold Separable
    decide
  have written : ofString? .like (queryText pairs) = some (.byQuery conditions) :=
    queries pairs (List.cons_ne_nil _ _) separable
  have resolved : least ≠ .unresolved := by decide
  have blank : ∀ c ∈ " \t".toList, isAsciiBlank c = true := by simp [isAsciiBlank]
  have ends : ∀ c ∈ "-7".toList.head?, c.isDigit = false := by simp
  exact ⟨separable, by decide +kernel, written, (conversely _ _ written).2, resolved,
    addresses least " \t" "-7" resolved blank ends⟩

end RecordFill.Selector

import RecordFill.Proofs.Command.Stages
import RecordFill.Proofs.Text.Bytes
import Mathlib.Data.List.Forall2

namespace RecordFill.Command

/-- The search for the widest text never goes below what it has found. -/
theorem le_foldl_utf8ByteSize (width : Nat) (texts : List String) :
    width ≤ texts.foldl (fun width text => max width text.utf8ByteSize) width := by
  induction texts generalizing width with
  | nil => exact Nat.le_refl width
  | cons first rest step => exact Nat.le_trans (Nat.le_max_left width _) (step _)

/-- Every text of a column fits into it. -/
theorem length_le_columnWidth {text : String} {texts : List String} (member : text ∈ texts) :
    text.length ≤ columnWidth texts := by
  obtain ⟨front, back, rfl⟩ := List.append_of_mem member
  rw [columnWidth, List.foldl_append, List.foldl_cons]
  calc
    text.length ≤ text.utf8ByteSize := Text.length_le_utf8ByteSize text
    _ ≤ max _ text.utf8ByteSize := Nat.le_max_right _ _
    _ ≤ _ := le_foldl_utf8ByteSize _ back

def blanks (count : Nat) : String :=
  String.ofList (List.replicate count ' ')

@[simp] theorem length_blanks (count : Nat) : (blanks count).length = count := by
  rw [blanks, String.length_ofList, List.length_replicate]

theorem blanks_add (count more : Nat) : blanks (count + more) = blanks count ++ blanks more := by
  rw [blanks, List.replicate_add, String.ofList_append, blanks, blanks]

/-- A text that fits into a column ends in front of a gap that ends two characters behind the column. -/
theorem pad_append {text : String} {width : Nat} (fits : text.length ≤ width) :
    ∃ gap, 2 ≤ gap ∧ pad width text ++ "  " = text ++ blanks gap ∧ (text ++ blanks gap).length = width + 2 := by
  refine ⟨width - text.length + 2, Nat.le_add_left 2 _, ?_, ?_⟩
  · rw [blanks_add, ← String.append_assoc]
    rfl
  · rw [String.length_append, length_blanks]
    omega

/-- An entry shows a row with its title and its value at the given columns. It holds the name, the title and the value
in full, with gaps between them and the end of the line behind them. -/
def ShownAt (titles values : Nat) (row : Row) (entry : String) : Prop :=
  ∃ gap gap', 2 ≤ gap ∧ 2 ≤ gap' ∧
    entry = row.name ++ blanks gap ++ row.title ++ blanks gap' ++ row.value ++ "\n" ∧
    (row.name ++ blanks gap).length = titles ∧
    (row.name ++ blanks gap ++ row.title ++ blanks gap').length = values

/-- A row whose name and title fit into their columns is shown behind these. -/
theorem shownAt_line {row : Row} {names titles : Nat} (name : row.name.length ≤ names)
    (title : row.title.length ≤ titles) :
    ShownAt (names + 2) (names + 2 + (titles + 2)) row (line names titles row) := by
  obtain ⟨gap, wide, padded, column⟩ := pad_append name
  obtain ⟨gap', wide', padded', column'⟩ := pad_append title
  have divided : line names titles row =
      (pad names row.name ++ "  ") ++ (pad titles row.title ++ "  ") ++ row.value ++ "\n" := by
    simp only [line, String.append_assoc]
  refine ⟨gap, gap', wide, wide', ?_, column, ?_⟩
  · rw [divided, padded, padded', ← String.append_assoc]
  · rw [String.append_assoc, String.length_append, column, column']

/-- A table has an entry for each of its rows. -/
theorem table_eq_join (rows : List Row) :
    let names := columnWidth (rows.map (·.name))
    let titles := columnWidth (rows.map (·.title))
    ∃ entries, table rows = String.join entries ∧
      List.Forall₂ (ShownAt (names + 2) (names + 2 + (titles + 2))) rows entries := by
  intro names titles
  refine ⟨rows.map (line names titles), rfl, ?_⟩
  rw [List.forall₂_map_right_iff, List.forall₂_same]
  intro row member
  exact shownAt_line (length_le_columnWidth (List.mem_map_of_mem member))
    (length_le_columnWidth (List.mem_map_of_mem member))

/-- A call that does not ask for JSON prints an entry for each row of the record in their order, and the entries have
their titles at one column and their values at another. -/
theorem run_fields_aligned [RegexCompiler] {files : Surroundings Id} {arguments : List String} {listing : Listing}
    {dataset : Dataset} (written : invocation arguments = .ok (.fields listing)) (asTable : listing.json = false)
    (loads : Dataset.ofFile listing.data (files.file listing.data) = .ok dataset) :
    let outcome := Id.run (run files arguments)
    let rows := dataset.rows listing.id ++ [Record.idRow listing.id]
    let titles := columnWidth (rows.map (·.name)) + 2
    let values := titles + (columnWidth (rows.map (·.title)) + 2)
    outcome.exitCode = 0 ∧ ∃ entries, outcome.standardOutput = String.join entries ∧
      List.Forall₂ (ShownAt titles values) rows entries := by
  intro outcome rows titles values
  have printed : outcome = .printed (table rows) := by
    rw [show outcome = _ from run_fields written loads, if_neg (by simp [asTable])]
  rw [printed]
  exact ⟨rfl, table_eq_join rows⟩

/-- Names and titles of one byte for each character stand among others, and one title goes over two lines. -/
theorem run_fields_aligned_mixed :
    let source := "\x7b\"fields\":[\x7b\"id\":2,\"name\":\"größe\",\"title\":\"Körper\\ngröße\"\x7d," ++
      "\x7b\"id\":1,\"name\":\"name\",\"title\":\"名\"\x7d],\"values\":[" ++
      "[7,2,\"ß\"],[7,1,\"Ray\"]]\x7d"
    let files : Surroundings Id := ⟨fun _ => .ok source.toUTF8, .ok .empty⟩
    let outcome := Id.run (run files ["fields", "-dd.json", "7"])
    outcome.exitCode = 0 ∧ ∃ entries, outcome.standardOutput = String.join entries ∧
      List.Forall₂ (ShownAt 9 26)
        [⟨"name", "名", "Ray"⟩, ⟨"größe", "Körper\ngröße", "ß"⟩, ⟨"id", "id", "7"⟩] entries := by
  intro source files outcome
  let dataset : Dataset :=
    ⟨[⟨2, "größe", "Körper\ngröße"⟩, ⟨1, "name", "名"⟩], [⟨⟨7⟩, 2, "ß"⟩, ⟨⟨7⟩, 1, "Ray"⟩]⟩
  have named : DataFormat.ofPath? "d.json" = some .json := by decide +kernel
  have holds : HoldsText "d.json" (files.file "d.json") .json source := ⟨rfl, DataFormat.ofPath?_eq_some_iff.mp named⟩
  have loads : Dataset.ofFile "d.json" (files.file "d.json") = .ok dataset :=
    Dataset.ofFile_eq_ok_iff.mpr ⟨_, _, holds, by decide +kernel, by decide⟩
  have rows : dataset.rows ⟨7⟩ = [⟨"name", "名", "Ray"⟩, ⟨"größe", "Körper\ngröße", "ß"⟩] := by
    simp [dataset, Dataset.rows, Dataset.row?, Dataset.field?, List.mergeSort]
  have written : invocation ["fields", "-dd.json", "7"] = .ok (.fields ⟨⟨7⟩, "d.json", false⟩) := by rfl
  have aligned := run_fields_aligned written rfl loads
  rw [rows] at aligned
  exact aligned

end RecordFill.Command

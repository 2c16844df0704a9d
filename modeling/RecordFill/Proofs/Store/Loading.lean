import RecordFill.Proofs.Files
import RecordFill.Store.Load
import Std.Data.HashSet.Lemmas

namespace RecordFill.Dataset

/-- No name repeats an earlier one exactly if the names are distinct and none of them is among the earlier ones. -/
theorem firstRepeat_eq_none_iff {earlier : Std.HashSet String} {names : List String} :
    firstRepeat earlier names = none ↔ names.Nodup ∧ ∀ name ∈ names, earlier.contains name = false := by
  induction names generalizing earlier with
  | nil => simp [firstRepeat]
  | cons name rest step =>
    rw [firstRepeat, List.nodup_cons]
    by_cases repeated : earlier.contains name = true
    · rw [if_pos repeated]
      simp only [reduceCtorEq, false_iff]
      rintro ⟨-, fresh⟩
      exact absurd (fresh name List.mem_cons_self) (by simp only [repeated, Bool.true_eq_false, not_false_eq_true])
    · rw [if_neg repeated, step]
      simp only [Std.HashSet.contains_insert, Bool.or_eq_false_iff, beq_eq_false_iff_ne, List.mem_cons,
        forall_eq_or_imp]
      constructor
      · rintro ⟨distinct, fresh⟩
        exact ⟨⟨fun member => (fresh name member).1 rfl, distinct⟩, by simpa using repeated,
          fun other member => (fresh other member).2⟩
      · rintro ⟨⟨absent, distinct⟩, -, fresh⟩
        refine ⟨distinct, fun other member => ⟨?_, fresh other member⟩⟩
        rintro rfl
        exact absent member

/-- No name is defined twice exactly if the names are distinct. -/
theorem repeatedName?_eq_none_iff {dataset : Dataset} :
    dataset.repeatedName? = none ↔ (dataset.fields.map (·.name)).Nodup := by
  rw [repeatedName?, firstRepeat_eq_none_iff]
  simp

/-- The first repetition stands behind names without one, and is one of them or an earlier one. -/
theorem firstRepeat_eq_some_iff {earlier : Std.HashSet String} {names : List String} {name : String} :
    firstRepeat earlier names = some name ↔
      ∃ front later, names = front ++ name :: later ∧ firstRepeat earlier front = none ∧
        (earlier.contains name = true ∨ name ∈ front) := by
  induction names generalizing earlier with
  | nil => simp [firstRepeat]
  | cons first rest step =>
    rw [firstRepeat]
    by_cases repeated : earlier.contains first = true
    · rw [if_pos repeated, Option.some.injEq]
      constructor
      · intro same
        subst same
        exact ⟨[], rest, rfl, rfl, .inl repeated⟩
      · intro ⟨front, later, divides, unrepeated, _⟩
        cases front with
        | nil => exact (List.cons.inj divides).1
        | cons other front =>
          obtain ⟨rfl, -⟩ := List.cons.inj divides
          rw [firstRepeat, if_pos repeated] at unrepeated
          contradiction
    · rw [if_neg repeated, step]
      simp only [Std.HashSet.contains_insert, Bool.or_eq_true, beq_iff_eq]
      constructor
      · intro ⟨front, later, divides, unrepeated, again⟩
        refine ⟨first :: front, later, by rw [divides, List.cons_append], ?_, ?_⟩
        · rw [firstRepeat, if_neg repeated, unrepeated]
        · rwa [List.mem_cons, or_left_comm, ← or_assoc, @eq_comm _ name]
      · intro ⟨front, later, divides, unrepeated, again⟩
        cases front with
        | nil =>
          obtain ⟨rfl, -⟩ := List.cons.inj divides
          exact absurd again (by simpa using repeated)
        | cons other front =>
          obtain ⟨rfl, behind⟩ := List.cons.inj divides
          rw [firstRepeat, if_neg repeated] at unrepeated
          rw [List.mem_cons, or_left_comm, ← or_assoc, @eq_comm _ name] at again
          exact ⟨front, later, behind, unrepeated, again⟩

/-- The name reported as defined twice is the first to repeat an earlier one. -/
theorem repeatedName?_eq_some_iff {dataset : Dataset} {name : String} :
    dataset.repeatedName? = some name ↔
      ∃ earlier later, dataset.fields.map (·.name) = earlier ++ name :: later ∧ earlier.Nodup ∧ name ∈ earlier := by
  rw [repeatedName?, firstRepeat_eq_some_iff]
  simp [firstRepeat_eq_none_iff]

theorem validated_eq_ok_iff {decoded dataset : Dataset} :
    decoded.validated = .ok dataset ↔ decoded = dataset ∧ (decoded.fields.map (·.name)).Nodup := by
  rw [← repeatedName?_eq_none_iff, validated]
  cases decoded.repeatedName? with
  | none => simp
  | some name => simp

theorem validated_eq_error_iff {decoded : Dataset} {failure : DatasetError} :
    decoded.validated = .error failure ↔ ∃ name, decoded.repeatedName? = some name ∧ failure = .repeatedName name := by
  rw [validated]
  cases decoded.repeatedName? with
  | none => simp
  | some name => simp [eq_comm]

theorem ofSource_eq_ok_iff {format : DataFormat} {source : String} {dataset : Dataset} :
    ofSource format source = .ok dataset ↔
      format.decode? shape (fun _ => Dataset.ofDatum?) source = some dataset ∧
        (dataset.fields.map (·.name)).Nodup := by
  unfold ofSource
  cases format.decode? shape (fun _ => Dataset.ofDatum?) source with
  | none => simp
  | some decoded =>
    simp only [validated_eq_ok_iff, Option.some.injEq]
    exact and_congr_right fun same => by rw [same]

/-- A text does not load as a dataset exactly if it does not decode, or decodes to one that defines a name again. -/
theorem ofSource_eq_error_iff {format : DataFormat} {source : String} {failure : DatasetError} :
    ofSource format source = .error failure ↔
      format.decode? shape (fun _ => Dataset.ofDatum?) source = none ∧ failure = .file (.malformed format) ∨
        ∃ dataset name, format.decode? shape (fun _ => Dataset.ofDatum?) source = some dataset ∧
          dataset.repeatedName? = some name ∧ failure = .repeatedName name := by
  unfold ofSource
  cases format.decode? shape (fun _ => Dataset.ofDatum?) source with
  | none => simp [eq_comm]
  | some decoded => simp [validated_eq_error_iff]

/-- A file holds the dataset that its text decodes to, if the names of that are distinct. -/
def InFile (path : String) (contents : Except FileTrouble ByteArray) (dataset : Dataset) : Prop :=
  ∃ format text, HoldsText path contents format text ∧
    format.decode? shape (fun _ => Dataset.ofDatum?) text = some dataset ∧ (dataset.fields.map (·.name)).Nodup

/-- What keeps a file from holding a dataset. Of the names that are defined again, the first is reported. -/
inductive NotInFile (path : String) (contents : Except FileTrouble ByteArray) : DatasetError → Prop where
  | unopened {error : FileError} (unopened : Unopened path contents error) : NotInFile path contents (.file error)
  | malformed {format : DataFormat} {text : String} (holds : HoldsText path contents format text)
      (undecoded : format.decode? shape (fun _ => Dataset.ofDatum?) text = none) :
      NotInFile path contents (.file (.malformed format))
  | repeated {format : DataFormat} {text name : String} {dataset : Dataset} {earlier later : List String}
      (holds : HoldsText path contents format text)
      (decoded : format.decode? shape (fun _ => Dataset.ofDatum?) text = some dataset)
      (names : dataset.fields.map (·.name) = earlier ++ name :: later) (distinct : earlier.Nodup)
      (again : name ∈ earlier) : NotInFile path contents (.repeatedName name)

section File

variable {path : String} {contents : Except FileTrouble ByteArray}

theorem ofFile_eq_ok_iff {dataset : Dataset} : ofFile path contents = .ok dataset ↔ InFile path contents dataset := by
  unfold ofFile InFile
  simp only [bind_dataFile_eq_ok_iff, ofSource_eq_ok_iff]

theorem ofFile_eq_error_iff {failure : DatasetError} :
    ofFile path contents = .error failure ↔ NotInFile path contents failure := by
  unfold ofFile
  simp only [bind_dataFile_eq_error_iff, ofSource_eq_error_iff, repeatedName?_eq_some_iff]
  constructor
  · rintro (⟨error, unopened, rfl⟩ | ⟨format, text, holds, ⟨undecoded, rfl⟩ |
      ⟨dataset, name, decoded, ⟨earlier, later, names, distinct, again⟩, rfl⟩⟩)
    · exact .unopened unopened
    · exact .malformed holds undecoded
    · exact .repeated holds decoded names distinct again
  · intro missing
    cases missing with
    | unopened unopened => exact .inl ⟨_, unopened, rfl⟩
    | malformed holds undecoded => exact .inr ⟨_, _, holds, .inl ⟨undecoded, rfl⟩⟩
    | repeated holds decoded names distinct again =>
      exact .inr ⟨_, _, holds, .inr ⟨_, _, decoded, ⟨_, _, names, distinct, again⟩, rfl⟩⟩

theorem InFile.unique {dataset other : Dataset} (one : InFile path contents dataset)
    (two : InFile path contents other) : dataset = other :=
  Except.ok.inj ((ofFile_eq_ok_iff.mpr one).symm.trans (ofFile_eq_ok_iff.mpr two))

theorem InFile.not_notInFile {dataset : Dataset} {failure : DatasetError} (holds : InFile path contents dataset) :
    ¬ NotInFile path contents failure := by
  intro missing
  have loads := ofFile_eq_ok_iff.mpr holds
  rw [ofFile_eq_error_iff.mpr missing] at loads
  contradiction

/-- No data file has an empty name, which has no ending. -/
theorem ne_empty_of_ofFile {dataset : Dataset} (loads : ofFile path contents = .ok dataset) : path ≠ "" := by
  rintro rfl
  obtain ⟨format, text, holds, -⟩ := ofFile_eq_ok_iff.mp loads
  obtain ⟨ending, -, named⟩ := holds.named
  have unnamed : Path.extension? "".toList = none := by decide +kernel
  rw [unnamed] at named
  contradiction

end File

end RecordFill.Dataset

import RecordFill.Files.Format
import RecordFill.Proofs.Attempts

namespace RecordFill

/-- What keeps the contents of a file from being a text: trouble with the file, or bytes that are no text. -/
inductive Unreadable : Except FileTrouble ByteArray → FileTrouble → Prop where
  | trouble (trouble : FileTrouble) : Unreadable (.error trouble) trouble
  | bytes {bytes : ByteArray} (noText : ∀ text : String, bytes ≠ text.toUTF8) : Unreadable (.ok bytes) .notText

theorem textOfBytes_toUTF8 (text : String) : textOfBytes text.toUTF8 = .ok text := by
  have decoded : String.fromUTF8? text.toUTF8 = some text := dif_pos text.isValidUTF8
  rw [textOfBytes, decoded]

theorem textOfBytes_eq_ok_iff {bytes : ByteArray} {text : String} :
    textOfBytes bytes = .ok text ↔ bytes = text.toUTF8 := by
  constructor
  · intro read
    unfold textOfBytes String.fromUTF8? at read
    split at read
    · next decoded =>
      split at decoded
      · next valid =>
        rw [← Except.ok.inj read, ← Option.some.inj decoded]
        rfl
      · contradiction
    · contradiction
  · rintro rfl
    exact textOfBytes_toUTF8 text

theorem textOfBytes_eq_error_iff {bytes : ByteArray} {trouble : FileTrouble} :
    textOfBytes bytes = .error trouble ↔ (∀ text : String, bytes ≠ text.toUTF8) ∧ trouble = .notText := by
  constructor
  · intro fails
    refine ⟨?_, ?_⟩
    · rintro text rfl
      rw [textOfBytes_toUTF8] at fails
      contradiction
    · unfold textOfBytes at fails
      split at fails
      · contradiction
      · exact (Except.error.inj fails).symm
  · rintro ⟨noText, rfl⟩
    cases read : textOfBytes bytes with
    | ok text => exact absurd (textOfBytes_eq_ok_iff.mp read) (noText text)
    | error trouble =>
      unfold textOfBytes at read
      split at read
      · contradiction
      · exact read.symm ▸ rfl

variable {contents : Except FileTrouble ByteArray} {path : String} {format : DataFormat} {text : String}

theorem bind_textOfBytes_eq_ok_iff : contents.bind textOfBytes = .ok text ↔ contents = .ok text.toUTF8 := by
  cases contents with
  | error trouble => simp [Except.bind]
  | ok bytes => simp [Except.bind, textOfBytes_eq_ok_iff]

theorem text_unique {other : String} (one : contents = .ok text.toUTF8) (two : contents = .ok other.toUTF8) :
    text = other := by
  have read := bind_textOfBytes_eq_ok_iff.mpr one
  rw [bind_textOfBytes_eq_ok_iff.mpr two] at read
  exact (Except.ok.inj read).symm

theorem bind_textOfBytes_eq_error_iff {trouble : FileTrouble} :
    contents.bind textOfBytes = .error trouble ↔ Unreadable contents trouble := by
  constructor
  · intro fails
    cases contents with
    | error other =>
      obtain rfl := Except.error.inj fails
      exact .trouble other
    | ok bytes =>
      obtain ⟨noText, rfl⟩ := textOfBytes_eq_error_iff.mp fails
      exact .bytes noText
  · intro unreadable
    cases unreadable with
    | trouble => rfl
    | bytes noText => exact textOfBytes_eq_error_iff.mpr ⟨noText, rfl⟩

theorem not_unreadable_of_text {trouble : FileTrouble} (reads : contents = .ok text.toUTF8) :
    ¬ Unreadable contents trouble := by
  intro unreadable
  cases unreadable with
  | trouble => contradiction
  | bytes noText => exact noText text (Except.ok.inj reads)

/-- A path names a format by the ending of its file's name. -/
def DataFormat.Named (path : String) (format : DataFormat) : Prop :=
  ∃ ending, (ending, format) ∈ DataFormat.endings ∧ Path.extension? path.toList = some ending.toList

theorem DataFormat.ofPath?_eq_some_iff : DataFormat.ofPath? path = some format ↔ DataFormat.Named path format := by
  unfold ofPath?
  rw [Option.bind_eq_bind, Option.bind_eq_some_iff]
  constructor
  · rintro ⟨ending, named, found⟩
    obtain ⟨earlier, later, listed, -⟩ := List.lookup_eq_some_iff.mp found
    exact ⟨String.ofList ending, by simp [listed], by simpa using named⟩
  · rintro ⟨ending, listed, named⟩
    refine ⟨ending.toList, named, ?_⟩
    rw [String.ofList_toList]
    simp only [endings, List.mem_cons, Prod.mk.injEq, List.not_mem_nil, or_false] at listed
    rcases listed with ⟨rfl, rfl⟩ | ⟨rfl, rfl⟩ | ⟨rfl, rfl⟩ <;> rfl

/-- A file holds a text in the format that its name gives. -/
structure HoldsText (path : String) (contents : Except FileTrouble ByteArray) (format : DataFormat) (text : String) :
    Prop where
  bytes : contents = .ok text.toUTF8
  named : DataFormat.Named path format

/-- What keeps a file from being opened as data. -/
inductive Unopened (path : String) (contents : Except FileTrouble ByteArray) : FileError → Prop where
  | unreadable {trouble : FileTrouble} (unreadable : Unreadable contents trouble) :
      Unopened path contents (.unreadable path trouble)
  | unsupported {text : String} (bytes : contents = .ok text.toUTF8)
      (unnamed : ∀ format, ¬ DataFormat.Named path format) : Unopened path contents (.unsupported path)

theorem dataFile_eq_ok_iff : dataFile path contents = .ok (format, text) ↔ HoldsText path contents format text := by
  unfold dataFile
  simp only [bind_eq_ok_iff, mapError_eq_ok_iff, bind_textOfBytes_eq_ok_iff]
  constructor
  · rintro ⟨source, bytes, opened⟩
    cases named : DataFormat.ofPath? path with
    | none =>
      rw [named] at opened
      contradiction
    | some other =>
      rw [named] at opened
      obtain ⟨rfl, rfl⟩ := Prod.mk.inj (Except.ok.inj opened)
      exact ⟨bytes, DataFormat.ofPath?_eq_some_iff.mp named⟩
  · rintro ⟨bytes, named⟩
    exact ⟨text, bytes, by rw [DataFormat.ofPath?_eq_some_iff.mpr named]; rfl⟩

theorem dataFile_eq_error_iff {error : FileError} :
    dataFile path contents = .error error ↔ Unopened path contents error := by
  unfold dataFile
  simp only [bind_eq_error_iff, mapError_eq_error_iff, mapError_eq_ok_iff, bind_textOfBytes_eq_ok_iff,
    bind_textOfBytes_eq_error_iff]
  constructor
  · rintro (⟨trouble, unreadable, rfl⟩ | ⟨source, bytes, unopened⟩)
    · exact .unreadable unreadable
    · cases named : DataFormat.ofPath? path with
      | some format =>
        rw [named] at unopened
        contradiction
      | none =>
        rw [named] at unopened
        obtain rfl := Except.error.inj unopened
        refine .unsupported bytes fun format names => ?_
        rw [DataFormat.ofPath?_eq_some_iff.mpr names] at named
        contradiction
  · intro unopened
    cases unopened with
    | unreadable unreadable => exact .inl ⟨_, unreadable, rfl⟩
    | @unsupported text bytes unnamed =>
      have unnamed : DataFormat.ofPath? path = none :=
        Option.eq_none_iff_forall_ne_some.mpr fun format named =>
          unnamed format (DataFormat.ofPath?_eq_some_iff.mp named)
      exact .inr ⟨text, bytes, by rw [unnamed]⟩

section Reading

variable {ε α : Type} {wrap : FileError → ε} {decode : DataFormat × String → Except ε α}

theorem bind_dataFile_eq_ok_iff {value : α} :
    (dataFile path contents).mapError wrap >>= decode = .ok value ↔
      ∃ format text, HoldsText path contents format text ∧ decode (format, text) = .ok value := by
  simp only [bind_eq_ok_iff, mapError_eq_ok_iff, Prod.exists, dataFile_eq_ok_iff]

theorem bind_dataFile_eq_error_iff {failure : ε} :
    (dataFile path contents).mapError wrap >>= decode = .error failure ↔
      (∃ error, Unopened path contents error ∧ wrap error = failure) ∨
        ∃ format text, HoldsText path contents format text ∧ decode (format, text) = .error failure := by
  simp only [bind_eq_error_iff, mapError_eq_error_iff, mapError_eq_ok_iff, Prod.exists, dataFile_eq_ok_iff,
    dataFile_eq_error_iff]

end Reading

end RecordFill

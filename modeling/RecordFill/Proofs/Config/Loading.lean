import RecordFill.Config.Load
import RecordFill.Proofs.Files

namespace RecordFill.Config

/-- A YAML text of nothing but blanks. -/
def Blank (format : DataFormat) (text : String) : Prop :=
  format = .yaml ∧ ∀ c ∈ text.toList, Text.isBlank c = true

/-- The settings that a text writes in a format. A blank text leaves all of them as they are by default. -/
inductive Written (format : DataFormat) (text : String) : Config → Prop where
  | blank (blank : Blank format text) : Written format text {}
  | decoded {config : Config} (notBlank : ¬ Blank format text)
      (decoded : format.decode? shape (fun _ => Config.ofDatum?) text = some config) : Written format text config

/-- A file holds the settings that its text writes. -/
def InFile (path : String) (contents : Except FileTrouble ByteArray) (config : Config) : Prop :=
  ∃ format text, HoldsText path contents format text ∧ Written format text config

/-- What keeps a file from holding settings. -/
inductive NotInFile (path : String) (contents : Except FileTrouble ByteArray) : ConfigError → Prop where
  | unopened {error : FileError} (unopened : Unopened path contents error) : NotInFile path contents ⟨error⟩
  | malformed {format : DataFormat} {text : String} (holds : HoldsText path contents format text)
      (notBlank : ¬ Blank format text) (undecoded : format.decode? shape (fun _ => Config.ofDatum?) text = none) :
      NotInFile path contents ⟨.malformed format⟩

section Source

variable {format : DataFormat} {source : String}

theorem blank_iff : (format = .yaml && source.toList.all Text.isBlank) = true ↔ Blank format source := by
  rw [Bool.and_eq_true, decide_eq_true_eq, List.all_eq_true, Blank]

theorem ofSource_of_blank (blank : Blank format source) : ofSource format source = .ok {} := by
  rw [ofSource, if_pos (blank_iff.mpr blank)]

theorem ofSource_of_not_blank (notBlank : ¬ Blank format source) :
    ofSource format source =
      (format.decode? shape (fun _ => Config.ofDatum?) source).elim (.error ⟨.malformed format⟩) .ok := by
  rw [ofSource, if_neg (mt blank_iff.mp notBlank)]
  cases format.decode? shape (fun _ => Config.ofDatum?) source <;> rfl

theorem ofSource_eq_ok_iff {config : Config} : ofSource format source = .ok config ↔ Written format source config := by
  constructor
  · intro loads
    by_cases blank : Blank format source
    · rw [ofSource_of_blank blank] at loads
      obtain rfl := Except.ok.inj loads
      exact .blank blank
    · rw [ofSource_of_not_blank blank] at loads
      cases decoded : format.decode? shape (fun _ => Config.ofDatum?) source with
      | none =>
        rw [decoded] at loads
        contradiction
      | some other =>
        rw [decoded] at loads
        obtain rfl := Except.ok.inj loads
        exact .decoded blank decoded
  · intro written
    cases written with
    | blank blank => exact ofSource_of_blank blank
    | decoded notBlank decoded =>
      rw [ofSource_of_not_blank notBlank, decoded]
      rfl

theorem ofSource_eq_error_iff {failure : ConfigError} :
    ofSource format source = .error failure ↔
      ¬ Blank format source ∧ format.decode? shape (fun _ => Config.ofDatum?) source = none ∧
        failure = ⟨.malformed format⟩ := by
  by_cases blank : Blank format source
  · rw [ofSource_of_blank blank]
    simp [blank]
  · rw [ofSource_of_not_blank blank]
    cases format.decode? shape (fun _ => Config.ofDatum?) source with
    | none => simp [blank, eq_comm]
    | some config => simp

end Source

section File

variable {path : String} {contents : Except FileTrouble ByteArray}

theorem ofFile_eq_ok_iff {config : Config} : ofFile path contents = .ok config ↔ InFile path contents config := by
  unfold ofFile InFile
  simp only [bind_dataFile_eq_ok_iff, ofSource_eq_ok_iff]

theorem ofFile_eq_error_iff {failure : ConfigError} :
    ofFile path contents = .error failure ↔ NotInFile path contents failure := by
  unfold ofFile
  simp only [bind_dataFile_eq_error_iff, ofSource_eq_error_iff]
  constructor
  · rintro (⟨error, unopened, rfl⟩ | ⟨format, text, holds, notBlank, undecoded, rfl⟩)
    · exact .unopened unopened
    · exact .malformed holds notBlank undecoded
  · intro missing
    cases missing with
    | unopened unopened => exact .inl ⟨_, unopened, rfl⟩
    | malformed holds notBlank undecoded => exact .inr ⟨_, _, holds, notBlank, undecoded, rfl⟩

theorem InFile.unique {config other : Config} (one : InFile path contents config)
    (two : InFile path contents other) : config = other :=
  Except.ok.inj ((ofFile_eq_ok_iff.mpr one).symm.trans (ofFile_eq_ok_iff.mpr two))

theorem InFile.not_notInFile {config : Config} {failure : ConfigError} (holds : InFile path contents config) :
    ¬ NotInFile path contents failure := by
  intro missing
  have loads := ofFile_eq_ok_iff.mpr holds
  rw [ofFile_eq_error_iff.mpr missing] at loads
  contradiction

end File

end RecordFill.Config

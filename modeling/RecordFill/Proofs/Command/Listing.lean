import RecordFill.Proofs.Command.Stages
import RecordFill.Proofs.Json.Decoding
import RecordFill.Proofs.Text.Numeral

namespace RecordFill

open Json (Lossless Value)

theorem Row.lossless : Lossless Row.toJson Row.ofDatum? where
  readable row := by
    apply Value.readable_ofMembers
    simp only [List.forall_mem_cons]
    exact ⟨Lossless.text.readable row.name, Lossless.text.readable row.title, Lossless.text.readable row.value,
      List.forall_mem_nil _⟩
  decoded row := by
    have parts : Datum.fields? Row.shape row.toJson =
        some [some (.ofText row.name), some (.ofText row.title), some (.ofText row.value)] := by
      rw [toJson, Value.fields?_ofMembers]
      rfl
    simp only [Row.ofDatum?, parts, Option.bind_eq_bind, Option.bind_some, Lossless.text.decoded, Option.pure_def]

namespace Command

/-- The digits of a magnitude, cut off behind a sign, are the id that the sign puts on its side of zero. -/
theorem recordId?_of_cutSign {text : String} {negative : Bool} {magnitude : Nat} {id : RecordId}
    (cut : Text.cutSign text.toList = (negative, Nat.toDigits 10 magnitude))
    (same : Text.signed negative magnitude = id.number.toInt) : recordId? text = some id := by
  have digits : (Nat.toDigits 10 magnitude).all Char.isDigit = true :=
    List.all_eq_true.mpr fun _ member => Text.isDigit_of_mem_decimal member
  have present : (Nat.toDigits 10 magnitude).isEmpty = false := by simp [Nat.toDigits_ne_nil]
  have within : min magnitude UInt64.size = magnitude := by
    have lower := id.number.le_toInt
    have upper := id.number.toInt_lt
    have size : UInt64.size = 2 ^ 64 := rfl
    cases negative <;> simp only [Text.signed_true, Text.signed_false] at same <;> omega
  have number : Text.int64? (if negative then -(magnitude : Int) else magnitude) = some id.number :=
    Text.int64?_eq_some_iff.mpr same.symm
  simp only [recordId?, cut, digits, present, Text.cappedMagnitude_eq_min, Nat.ofDigitChars_ten_toDigits, within,
    number, Bool.not_true, Bool.or_self, Bool.false_eq_true, if_false, Option.bind_eq_bind, Option.bind_some,
    Option.pure_def]

/-- An id is read back from its decimal digits. -/
theorem recordId?_decimal (id : RecordId) : recordId? id.decimal = some id := by
  have cut := Text.cutSign_toString_int id.number.toInt []
  rw [List.append_nil, List.append_nil] at cut
  exact recordId?_of_cutSign cut (Text.signed_natAbs id.number.toInt)

theorem looksNumeric_decimal (magnitude : Nat) : looksNumeric (Nat.toDigits 10 magnitude) = true := by
  have digits : ∀ c ∈ Nat.toDigits 10 magnitude, c.isDigit = true := fun _ member => Text.isDigit_of_mem_decimal member
  have run : (Nat.toDigits 10 magnitude ++ []).takeWhile Char.isDigit = Nat.toDigits 10 magnitude :=
    (Text.run_append digits (by simp)).1
  rw [List.append_nil] at run
  simp [looksNumeric, run, Nat.toDigits_ne_nil, endsWithExponent]

section Arguments

variable {form : Form} {given : Given} {argument : String}

/-- A negative number is no option as long as an operand is missing. -/
theorem Given.add_of_looksNumeric (negative : form.negativeOperand = true) (options : given.operandsOnly = false)
    (missing : given.operand = none) {text : List Char} (written : argument.toList = '-' :: text)
    (numeric : looksNumeric text = true) (noDash : '-' ∉ text) :
    given.add form argument = given.addPlain form argument := by
  cases text with
  | nil => contradiction
  | cons first rest =>
    have other : first ≠ '-' := fun same => noDash (same ▸ List.mem_cons_self)
    rw [Given.add, if_neg (by simp [options]), written]
    -- of the ways to read an argument only that of a single dash fits
    split
    · next same => simp [other] at same
    · next same => simp [other] at same
    · next same =>
      obtain ⟨rfl, rfl⟩ := List.cons.inj (List.cons.inj same).2
      exact if_pos (by simp [negative, missing, numeric])
    · next different => exact absurd rfl (different first rest)

/-- An id is no option although a dash may begin it. -/
theorem Given.add_decimal (negative : form.negativeOperand = true) (options : given.operandsOnly = false)
    (missing : given.operand = none) (id : RecordId) :
    given.add form id.decimal = given.addPlain form id.decimal := by
  have noDash (magnitude : Nat) : '-' ∉ Nat.toDigits 10 magnitude := by
    intro member
    exact absurd (Text.isDigit_of_mem_decimal member) (by decide)
  have written : id.decimal.toList = _ := Text.toList_toString_int id.number.toInt
  split at written
  · apply Given.add_of_plain options
    left
    rw [written]
    exact fun dash => noDash _ (List.mem_of_head? dash)
  · exact Given.add_of_looksNumeric negative options missing written (looksNumeric_decimal _) (noDash _)

end Arguments

section Calls

variable {id : RecordId} {path : String}

/-- The first word of a call is the command. -/
theorem invocation_fields (arguments : List String) :
    invocation ("fields" :: arguments) = (listing arguments).map .fields := rfl

theorem add_id (id : RecordId) : Given.add fieldsForm {} id.decimal = .ok { operand := some id.decimal } := by
  have accepts : fieldsForm.acceptsOperand id.decimal = true := by
    change (recordId? id.decimal).isSome = true
    rw [recordId?_decimal, Option.isSome_some]
  rw [Given.add_decimal rfl rfl rfl id]
  simp [Given.addPlain, Given.addOperand, accepts]

/-- The file of the dataset is given once. -/
theorem addValue_data {flag : Flag} (known : fieldsForm.flags.find? (·.name = "data") = some flag)
    (nonempty : path ≠ "") (awaiting : Option Flag) :
    Given.addValue { operand := some id.decimal, awaiting } flag path =
      .ok { options := [("data", path)], operand := some id.decimal } := by
  obtain rfl : ⟨"data", some 'd', .value isPath⟩ = flag := Option.some.inj known
  have accepts : isPath path = true := by simpa [isPath] using nonempty
  exact if_pos accepts

/-- With the record and the file given, one more argument calls for JSON. -/
theorem invocation_of_foldlM {arguments : List String}
    (named : arguments.foldlM (Given.add fieldsForm) {} =
      .ok { options := [("data", path)], operand := some id.decimal }) :
    invocation ("fields" :: (arguments ++ ["--json"])) = .ok (.fields ⟨id, path, true⟩) := by
  have read : fieldsForm.read (arguments ++ ["--json"]) =
      .ok { options := [("json", ""), ("data", path)], operand := some id.decimal } := by
    rw [Form.read, List.foldlM_append, named]
    rfl
  rw [invocation_fields]
  simp only [listing, read, bind, Except.bind, Option.bind_some, recordId?_decimal]
  rfl

/-- A call names a record, the file of a dataset behind the equals sign of its option, and asks for JSON. -/
theorem invocation_named (id : RecordId) (nonempty : path ≠ "") :
    invocation ["fields", id.decimal, "--data=" ++ path, "--json"] = .ok (.fields ⟨id, path, true⟩) := by
  have file : Given.add fieldsForm { operand := some id.decimal } ("--data=" ++ path) =
      .ok { options := [("data", path)], operand := some id.decimal } := by
    rw [show "--data=" = "--" ++ "data" ++ "=" from rfl, Given.add_named rfl rfl rfl (by decide)]
    exact addValue_data rfl nonempty none
  have named : [id.decimal, "--data=" ++ path].foldlM (Given.add fieldsForm) {} =
      .ok { options := [("data", path)], operand := some id.decimal } := by
    simp only [List.foldlM_cons, List.foldlM_nil, add_id, bind_pure]
    exact file
  exact invocation_of_foldlM named

/-- The file may be named by an argument of its own, unless a dash begins it. -/
theorem invocation_apart (id : RecordId) (nonempty : path ≠ "") (noDash : path.toList.head? ≠ some '-') :
    invocation ["fields", id.decimal, "--data", path, "--json"] = .ok (.fields ⟨id, path, true⟩) := by
  let data : Flag := ⟨"data", some 'd', .value isPath⟩
  have option : Given.add fieldsForm { operand := some id.decimal } "--data" =
      .ok { operand := some id.decimal, awaiting := some data } := rfl
  have file : Given.add fieldsForm { operand := some id.decimal, awaiting := some data } path =
      .ok { options := [("data", path)], operand := some id.decimal } := by
    rw [Given.add_of_plain rfl (.inl noDash)]
    exact addValue_data rfl nonempty (some data)
  have named : [id.decimal, "--data", path].foldlM (Given.add fieldsForm) {} =
      .ok { options := [("data", path)], operand := some id.decimal } := by
    simp only [List.foldlM_cons, List.foldlM_nil, add_id, bind_pure]
    exact file
  exact invocation_of_foldlM named

end Calls

/-- What a call for JSON prints about a record of a dataset decodes as the rows of the record in their order and the row
of its id behind them. Every id and every file can be asked for. -/
theorem run_fields_readsBack [RegexCompiler] (files : Surroundings Id) {path : String} {dataset : Dataset}
    (loads : Dataset.ofFile path (files.file path) = .ok dataset) (id : RecordId) :
    let Asks (arguments : List String) := invocation arguments = .ok (.fields ⟨id, path, true⟩)
    Asks ["fields", id.decimal, "--data=" ++ path, "--json"] ∧
      (path.toList.head? ≠ some '-' → Asks ["fields", id.decimal, "--data", path, "--json"]) ∧
      ∀ arguments, Asks arguments →
        let outcome := Id.run (run files arguments)
        outcome.exitCode = 0 ∧
          DataFormat.json.decode? (.list Row.shape) (fun _ => Datum.list? Row.ofDatum?) outcome.standardOutput =
            some (dataset.rows id ++ [⟨"id", "id", id.decimal⟩]) := by
  have nonempty := Dataset.ne_empty_of_ofFile loads
  refine ⟨invocation_named id nonempty, invocation_apart id nonempty, ?_⟩
  intro arguments written outcome
  let encode (rows : List Row) : Value := .array (rows.map Row.toJson)
  have printed : outcome = .printed ((encode (dataset.rows id ++ [Record.idRow id])).toText .indented ++ "\n") :=
    run_fields written loads
  have lossless : Lossless encode (Datum.list? Row.ofDatum?) := Row.lossless.list
  rw [printed]
  exact ⟨rfl, DataFormat.decode?_toText_append lossless .indented (.list Row.shape) _ (by simp [Json.isSpace])⟩

/-- A negative id, and quotes, backslashes, line ends, control characters and characters beyond ASCII. -/
theorem run_fields_readsBack_escapes :
    let source := "\x7b\"fields\":[\x7b\"id\":1,\"name\":\"a\\\"b\",\"title\":\"\\\\ü\\n\"\x7d]," ++
      "\"values\":[\x7b\"item_id\":-9223372036854775808,\"field_id\":1,\"value\":\"\\u0001😀\"\x7d]\x7d"
    let files : Surroundings Id := ⟨fun _ => .ok source.toUTF8, .ok .empty⟩
    let outcome := Id.run (run files ["fields", "-9223372036854775808", "--data", "d.json", "--json"])
    outcome.exitCode = 0 ∧
      DataFormat.json.decode? (.list Row.shape) (fun _ => Datum.list? Row.ofDatum?) outcome.standardOutput =
        some [⟨"a\"b", "\\ü\n", "\x01😀"⟩, ⟨"id", "id", "-9223372036854775808"⟩] := by
  intro source files outcome
  let dataset : Dataset := ⟨[⟨1, "a\"b", "\\ü\n"⟩], [⟨⟨Int64.minValue⟩, 1, "\x01😀"⟩]⟩
  have named : DataFormat.ofPath? "d.json" = some .json := by decide +kernel
  have holds : HoldsText "d.json" (files.file "d.json") .json source := ⟨rfl, DataFormat.ofPath?_eq_some_iff.mp named⟩
  have loads : Dataset.ofFile "d.json" (files.file "d.json") = .ok dataset :=
    Dataset.ofFile_eq_ok_iff.mpr ⟨_, _, holds, by decide +kernel, by decide⟩
  have rows : dataset.rows ⟨Int64.minValue⟩ = [⟨"a\"b", "\\ü\n", "\x01😀"⟩] := by decide +kernel
  obtain ⟨-, asks, prints⟩ := run_fields_readsBack files loads ⟨Int64.minValue⟩
  rw [rows] at prints
  exact prints _ (asks (by decide))

end Command

end RecordFill

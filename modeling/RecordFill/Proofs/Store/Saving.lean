import RecordFill.Proofs.Json.Decoding
import RecordFill.Proofs.Store.Loading

namespace RecordFill

open Json (Layout Lossless Value)

theorem RecordId.lossless : Lossless RecordId.toJson RecordId.ofDatum? where
  readable id := Lossless.signed.readable id.number
  decoded id := by rw [RecordId.ofDatum?, RecordId.toJson, Lossless.signed.decoded id.number, Option.map_some]

theorem Field.lossless : Lossless Field.toJson Field.ofDatum? where
  readable field := by
    apply Value.readable_ofMembers
    simp only [List.forall_mem_cons]
    exact ⟨Lossless.unsigned.readable field.id, Lossless.text.readable field.name,
      Lossless.text.readable field.title, List.forall_mem_nil _⟩
  decoded field := by
    have parts : Datum.fields? Field.shape field.toJson =
        some [some (.ofInt field.id.toNat), some (.ofText field.name), some (.ofText field.title)] := by
      rw [toJson, Value.fields?_ofMembers]
      rfl
    simp only [Field.ofDatum?, parts, Option.bind_eq_bind, Option.bind_some, Lossless.unsigned.decoded field.id,
      Lossless.text.decoded, Datum.withDefault, Option.elim_some, Option.pure_def]

theorem Entry.lossless : Lossless Entry.toJson Entry.ofDatum? where
  readable entry := by
    apply Value.readable_ofMembers
    simp only [List.forall_mem_cons]
    exact ⟨RecordId.lossless.readable entry.record, Lossless.unsigned.readable entry.field,
      Lossless.text.readable entry.value, List.forall_mem_nil _⟩
  decoded entry := by
    have parts : Datum.fields? Entry.shape entry.toJson =
        some [some entry.record.toJson, some (.ofInt entry.field.toNat), some (.ofText entry.value)] := by
      rw [toJson, Value.fields?_ofMembers]
      rfl
    simp only [Entry.ofDatum?, parts, Option.bind_eq_bind, Option.bind_some, RecordId.lossless.decoded,
      Lossless.unsigned.decoded entry.field, Lossless.text.decoded, Option.pure_def]

namespace Dataset

/-- A dataset is written without loss. -/
theorem lossless : Lossless Dataset.toJson Dataset.ofDatum? where
  readable dataset := by
    apply Value.readable_ofMembers
    simp only [List.forall_mem_cons]
    exact ⟨Field.lossless.list.readable dataset.fields, Entry.lossless.list.readable dataset.entries,
      List.forall_mem_nil _⟩
  decoded dataset := by
    have parts : Datum.fields? shape dataset.toJson =
        some [some (.array (dataset.fields.map Field.toJson)), some (.array (dataset.entries.map Entry.toJson))] := by
      rw [toJson, Value.fields?_ofMembers]
      rfl
    simp only [Dataset.ofDatum?, parts, Option.bind_eq_bind, Option.bind_some, Datum.withDefault, Option.elim_some,
      Field.lossless.list.decoded dataset.fields, Entry.lossless.list.decoded dataset.entries, Option.pure_def]

/-- A saved dataset loads as it is accepted. -/
theorem ofSource_toText (dataset : Dataset) (layout : Layout) :
    ofSource .json (dataset.toJson.toText layout) = dataset.validated := by
  have decoded : DataFormat.json.decode? shape (fun _ => Dataset.ofDatum?) (dataset.toJson.toText layout) =
      some dataset := DataFormat.decode?_toText lossless layout shape dataset
  rw [ofSource, decoded]

/-- A saved dataset loads as itself exactly if its names are distinct. Otherwise loading fails, and reports the name
that is the first to repeat an earlier one. -/
theorem ofSource_toText_iff (dataset : Dataset) (layout : Layout) :
    (∀ loaded, ofSource .json (dataset.toJson.toText layout) = .ok loaded ↔
      loaded = dataset ∧ (dataset.fields.map (·.name)).Nodup) ∧
    ∀ failure, ofSource .json (dataset.toJson.toText layout) = .error failure ↔
      ∃ earlier name later, dataset.fields.map (·.name) = earlier ++ name :: later ∧ earlier.Nodup ∧
        name ∈ earlier ∧ failure = .repeatedName name := by
  rw [ofSource_toText]
  refine ⟨?_, ?_⟩
  · intro loaded
    rw [validated_eq_ok_iff, eq_comm]
  · intro failure
    simp only [validated_eq_error_iff, repeatedName?_eq_some_iff]
    constructor
    · intro ⟨name, ⟨earlier, later, divides, distinct, again⟩, reported⟩
      exact ⟨earlier, name, later, divides, distinct, again, reported⟩
    · intro ⟨earlier, name, later, divides, distinct, again, reported⟩
      exact ⟨name, ⟨earlier, later, divides, distinct, again⟩, reported⟩

end Dataset

end RecordFill

import RecordFill.Config.Load
import RecordFill.Proofs.Json.Decoding

namespace RecordFill

open Json (Layout Lossless Value)

/-- A comparison is written by one of the names it is decoded from. -/
theorem Comparison.lossless :
    Lossless (fun comparison => Value.ofText (Comparison.name comparison)) Comparison.ofDatum? where
  readable comparison := Value.readable_ofText comparison.name
  decoded comparison := by cases comparison <;> rfl

theorem Language.lossless : Lossless (fun language => Value.ofText (Language.code language)) Language.ofDatum? where
  readable language := Value.readable_ofText language.code
  decoded language := by cases language <;> rfl

theorem Messages.lossless : Lossless Messages.toJson Messages.ofDatum? where
  readable messages := by
    apply Value.readable_ofMembers
    simp only [List.forall_mem_cons]
    exact ⟨Lossless.text.readable messages.severalRecords, Lossless.text.readable messages.noRecord,
      List.forall_mem_nil _⟩
  decoded messages := by
    have parts : Datum.fields? Messages.shape messages.toJson =
        some [some (.ofText messages.severalRecords), some (.ofText messages.noRecord)] := by
      rw [toJson, Value.fields?_ofMembers]
      rfl
    simp only [Messages.ofDatum?, parts, Option.bind_eq_bind, Option.bind_some, Lossless.text.decoded,
      Datum.withDefault, Option.elim_some, Option.pure_def]

/-- Diagnostics that may be missing are written without loss. -/
theorem Messages.lossless_optional :
    Lossless (fun messages => messages.elim Value.null Messages.toJson) (Datum.optional? Messages.ofDatum?) :=
  Messages.lossless.optional fun _ => rfl

namespace Config

/-- Settings are written without loss. -/
theorem lossless : Lossless Config.toJson Config.ofDatum? where
  readable config := by
    apply Value.readable_ofMembers
    simp only [List.forall_mem_cons]
    exact ⟨Lossless.text.readable config.tag, Lossless.text.readable config.classPrefix,
      Lossless.switch.readable config.styled, Comparison.lossless.readable config.comparison,
      Lossless.text.list.readable config.contexts, Language.lossless.readable config.language,
      Messages.lossless_optional.readable config.messages, List.forall_mem_nil _⟩
  decoded config := by
    have parts : Datum.fields? shape config.toJson =
        some [some (.ofText config.tag), some (.ofText config.classPrefix), some (.ofBool config.styled),
          some (.ofText config.comparison.name), some (.array (config.contexts.map .ofText)),
          some (.ofText config.language.code), some (config.messages.elim .null Messages.toJson)] := by
      rw [toJson, Value.fields?_ofMembers]
      rfl
    simp only [Config.ofDatum?, parts, Option.bind_eq_bind, Option.bind_some, Datum.withDefault, Option.elim_some,
      Lossless.text.decoded, Lossless.switch.decoded config.styled, Comparison.lossless.decoded config.comparison,
      Lossless.text.list.decoded config.contexts, Language.lossless.decoded config.language,
      Messages.lossless_optional.decoded config.messages, Option.pure_def]

/-- Saved settings load as themselves, so that they ask for the same styling, the same diagnostics and the same
contexts as before. -/
theorem ofSource_toText_eq_self (config : Config) (layout : Layout) :
    ∃ loaded, ofSource .json (config.toJson.toText layout) = .ok loaded ∧ loaded = config ∧
      loaded.styling = config.styling ∧ loaded.diagnostics = config.diagnostics ∧
      ∀ context, loaded.handles context = config.handles context := by
  have decoded : DataFormat.json.decode? shape (fun _ => Config.ofDatum?) (config.toJson.toText layout) =
      some config := DataFormat.decode?_toText lossless layout shape config
  refine ⟨config, ?_, rfl, rfl, rfl, fun _ => rfl⟩
  simp only [ofSource, decoded]
  rfl

end Config

end RecordFill

import RecordFill.Proofs.Rendering.Reassembly
import RecordFill.Proofs.Selector
import RecordFill.Store.Dataset

namespace RecordFill

open Text (cut? cut?_isSome_of_divides isBlank)

theorem Tag.name_of_ofName [RegexCompiler] {name : String} {tag : Tag} (made : Tag.ofName name = .ok tag) :
    tag.name = name := by
  rw [Tag.ofName] at made
  cases compiled : RegexCompiler.compile (Tag.regex name) with
  | error refusal =>
    rw [compiled] at made
    contradiction
  | ok =>
    rw [compiled] at made
    rw [← Except.ok.inj made]

namespace Renderer

variable [RegexCompiler] {ε : Type} (renderer : Renderer ε)

/-- A selector in front of a text that closes its region gives way to the record that it leaves. -/
theorem render_opener {selector text : String} {template rest : List Char} {choice : Selector} {id : RecordId}
    (noBrace : '}' ∉ selector.toList) (solid : ∀ c ∈ selector.toList.head?, isBlank c = false)
    (closes : cut? renderer.tag.closer text.toList = some (template, rest))
    (selects : renderer.selector? selector = some choice)
    (resolves : renderer.source.resolve choice = .ok (.ok id)) :
    renderer.render ("\x7b" ++ renderer.tag.name ++ " " ++ selector ++ "\x7d" ++ text) = do
      let record ← renderer.source.record id
      let behind ← renderer.render (String.ofList rest)
      return Template.fill renderer.config.styling record (String.ofList template) ++ behind := by
  have opened : ("\x7b" ++ renderer.tag.name ++ " " ++ selector ++ "\x7d" ++ text).toList =
      renderer.tag.opener ++ ([' '] ++ selector.toList) ++ '}' :: text.toList := by
    simp [Tag.opener]
  have blank : ∀ c ∈ [' '], isBlank c = true := by
    intro c member
    obtain rfl := List.mem_singleton.mp member
    decide
  have noBraceInside : '}' ∉ [' '] ++ selector.toList := by simp [noBrace]
  have region : Region.ofInside ([' '] ++ selector.toList) template =
      ⟨String.ofList [' '], selector, String.ofList template⟩ := by
    rw [Region.ofInside_append blank solid, String.ofList_toList]
  have found := Region.first?_of_opener renderer.tag noBraceInside closes
  rw [region, ← opened] at found
  have filled : renderer.renderRegion ⟨String.ofList [' '], selector, String.ofList template⟩ =
      (renderer.source.record id).map fun record =>
        Template.fill renderer.config.styling record (String.ofList template) :=
    renderer.renderRegion_of_resolved selects resolves
  rw [renderer.render_of_some found, filled]
  cases renderer.source.record id with
  | error failure => rfl
  | ok record =>
    show (do
      let behind ← renderer.render (String.ofList rest)
      return String.ofList [] ++ Template.fill renderer.config.styling record (String.ofList template) ++ behind) = _
    rw [String.ofList_nil]
    simp only [String.empty_append]
    rfl

end Renderer

/-- A query that leaves one record renders as the address of that record does. -/
theorem render_byQuery_eq_render_byId [RegexCompiler] (dataset : Dataset) (config : Config) (query text : String)
    (conditions : List Condition) (id : RecordId) (noBrace : '}' ∉ query.toList)
    (written : Selector.ofString? config.comparison query = some (.byQuery conditions))
    (resolves : dataset.source.resolve (.byQuery conditions) = .ok (.ok id)) (named : id ≠ .unresolved)
    (closes : ∃ template rest, text = template ++ "\x7b/" ++ config.tag ++ "\x7d" ++ rest) :
    render dataset.source config ("\x7b" ++ config.tag ++ " " ++ query ++ "\x7d" ++ text) =
      render dataset.source config ("\x7b" ++ config.tag ++ " id=" ++ id.decimal ++ "\x7d" ++ text) := by
  cases made : Tag.ofName config.tag with
  | error refusal => rw [render_of_refused made, render_of_refused made]
  | ok tag =>
    have tagName : tag.name = config.tag := Tag.name_of_ofName made
    let renderer : Renderer QueryError := ⟨dataset.source, config, tag, made⟩
    obtain ⟨before, after, divides⟩ := closes
    have sides : text.toList = before.toList ++ renderer.tag.closer ++ after.toList := by
      rw [divides]
      simp [renderer, Tag.closer, tagName]
    obtain ⟨⟨template, rest⟩, closer⟩ := Option.isSome_iff_exists.mp (cut?_isSome_of_divides sides)
    have addressed : renderer.source.resolve (.byId id) = .ok (.ok id) := rfl
    have byQuery := renderer.render_opener noBrace (Selector.noBlank_of_ofString?_byQuery written) closer written
      resolves
    have byId := renderer.render_opener (Selector.noBrace_decimal id) (Selector.noBlank_decimal id) closer
      (Selector.ofString?_decimal config.comparison named) addressed
    have address : "\x7b" ++ config.tag ++ " id=" ++ id.decimal =
        "\x7b" ++ config.tag ++ " " ++ ("id=" ++ id.decimal) := by
      rw [← String.toList_inj]
      simp
    have same : renderer.render ("\x7b" ++ config.tag ++ " " ++ query ++ "\x7d" ++ text) =
        renderer.render ("\x7b" ++ config.tag ++ " id=" ++ id.decimal ++ "\x7d" ++ text) := by
      rw [address, ← tagName, byQuery, byId]
    rw [render_of_accepted made, render_of_accepted made]
    exact congrArg (Except.mapError RenderError.source) same

/-- The one record of a name renders by its name as by its id, whatever stands behind the region. -/
theorem render_byQuery_eq_render_byId_single :
    let dataset : Dataset := ⟨[⟨1, "last", "Name"⟩], [⟨⟨5⟩, 1, "Ray"⟩]⟩
    let conditions : List Condition := [⟨"last", .equal, "Ray"⟩]
    '}' ∉ "query=last:Ray".toList ∧
      Selector.ofString? .equal "query=last:Ray" = some (.byQuery conditions) ∧
      dataset.source.resolve (.byQuery conditions) = .ok (.ok ⟨5⟩) ∧
      render dataset.source {} "\x7bwickedteamcontactinfo query=last:Ray\x7d[last]\x7b/wickedteamcontactinfo\x7d." =
        render dataset.source {} "\x7bwickedteamcontactinfo id=5\x7d[last]\x7b/wickedteamcontactinfo\x7d." := by
  intro dataset conditions
  have noBrace : '}' ∉ "query=last:Ray".toList := by decide
  have written : Selector.ofString? .equal "query=last:Ray" = some (.byQuery conditions) := by decide +kernel
  have resolves : dataset.source.resolve (.byQuery conditions) = .ok (.ok ⟨5⟩) := by
    have alone : RecordId.ascending (dataset.matching "last" (.equals "Ray") fun _ => true) = [⟨5⟩] := by
      decide +kernel
    exact congrArg (fun ids => Except.ok (outcomeOf ids)) alone
  have closes : ∃ template rest, "[last]\x7b/wickedteamcontactinfo\x7d." =
      template ++ "\x7b/" ++ ({} : Config).tag ++ "\x7d" ++ rest := ⟨"[last]", ".", by decide⟩
  have same := render_byQuery_eq_render_byId dataset {} "query=last:Ray"
    "[last]\x7b/wickedteamcontactinfo\x7d." conditions ⟨5⟩ noBrace written resolves (by decide) closes
  exact ⟨noBrace, written, resolves, same⟩

end RecordFill

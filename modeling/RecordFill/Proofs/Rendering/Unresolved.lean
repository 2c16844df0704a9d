import RecordFill.Proofs.Rendering.Reassembly
import RecordFill.Proofs.Resolution
import RecordFill.Proofs.Selector
import RecordFill.Proofs.Store.Loading

namespace RecordFill

namespace Dataset

section

variable [RegexCompiler]

/-- All conditions can be tested; the record meets all of them, and no other one does. -/
def OnlyMeets (dataset : Dataset) (conditions : List Condition) (id : RecordId) : Prop :=
  (∀ condition ∈ conditions, ∃ test, condition.test = .ok test) ∧
    ∀ other, (∀ condition ∈ conditions, dataset.Meets condition other) ↔ other = id

/-- Without conditions every record is met, so that no record is the only one. -/
theorem not_onlyMeets_nil {dataset : Dataset} {id : RecordId} : ¬ dataset.OnlyMeets [] id := by
  intro only
  have zero : (⟨0⟩ : RecordId) = id := (only.2 ⟨0⟩).mp (by simp)
  have one : (⟨1⟩ : RecordId) = id := (only.2 ⟨1⟩).mp (by simp)
  exact absurd (zero.trans one.symm) (by decide)

/-- A query leaves a record exactly when this is the only one that meets its conditions. -/
theorem resolve_byQuery_eq_ok_iff {dataset : Dataset} {conditions : List Condition} {id : RecordId} :
    dataset.source.resolve (.byQuery conditions) = .ok (.ok id) ↔ dataset.OnlyMeets conditions id := by
  cases chained : Filter.chain conditions with
  | none =>
    obtain rfl := Filter.chain_eq_none_iff.mp chained
    constructor
    · intro resolves
      have none : (.error Unresolved.noRecord : Except Unresolved RecordId) = .ok id := Except.ok.inj resolves
      contradiction
    · intro only
      exact absurd only not_onlyMeets_nil
  | some filter =>
    have answers := dataset.answers_query filter
    rw [Filter.conditions_of_chain chained] at answers
    cases answered : dataset.query filter with
    | error failure =>
      rw [answered] at answers
      rw [dataset.source.resolve_byQuery_of_chain chained, source_query, answered]
      constructor
      · intro fails
        contradiction
      · intro only
        exact (not_refused only.1 answers).elim
    | ok ids =>
      rw [answered] at answers
      obtain ⟨compile, -, members⟩ := answers
      have asked : dataset.source.AnswersQuery conditions ids := ⟨filter, chained, answered⟩
      rw [asked.resolve_eq_ok_iff, outcomeOf_ascending_eq_ok_iff]
      simp only [members]
      exact ⟨fun alone => ⟨compile, alone⟩, And.right⟩

/-- What selects the id of no record is a query that only this id meets. -/
theorem resolve_eq_unresolved_iff {dataset : Dataset} {comparison : Comparison} {text : String} {selector : Selector}
    (written : Selector.ofString? comparison text = some selector) :
    dataset.source.resolve selector = .ok (.ok .unresolved) ↔
      ∃ conditions, selector = .byQuery conditions ∧ dataset.OnlyMeets conditions .unresolved := by
  cases selector with
  | byId id =>
    have named := Selector.ne_unresolved_of_ofString? written
    constructor
    · intro resolves
      exact absurd (Except.ok.inj (Except.ok.inj resolves)) named
    · intro ⟨conditions, query, _⟩
      contradiction
  | byQuery conditions =>
    rw [resolve_byQuery_eq_ok_iff]
    constructor
    · intro only
      exact ⟨conditions, rfl, only⟩
    · intro ⟨others, query, only⟩
      exact Selector.byQuery.inj query ▸ only

end

/-- No value belongs to the id of no record. -/
def AllNamed (dataset : Dataset) : Prop :=
  ∀ entry ∈ dataset.entries, entry.record ≠ .unresolved

theorem AllNamed.resolve_ne [RegexCompiler] {dataset : Dataset} (allNamed : dataset.AllNamed) {comparison : Comparison}
    {text : String} {selector : Selector} (written : Selector.ofString? comparison text = some selector)
    {id : RecordId} (resolves : dataset.source.resolve selector = .ok (.ok id)) : id ≠ .unresolved := by
  intro unresolved
  rw [unresolved] at resolves
  obtain ⟨conditions, rfl, compile, only⟩ := (resolve_eq_unresolved_iff written).mp resolves
  cases conditions with
  | nil => exact not_onlyMeets_nil ⟨compile, only⟩
  | cons first rest =>
    obtain ⟨_, _, _, entry, stored, own, _⟩ := (only .unresolved).mpr rfl first List.mem_cons_self
    exact allNamed entry stored own

end Dataset

section Guarded

variable {ε : Type}

/-- The source that fails instead of answering for the id of no record. -/
def Source.guarded (source : Source ε) (failure : ε) : Source ε :=
  { source with rows := fun id => if id = .unresolved then .error failure else source.rows id }

theorem Source.resolve_guarded (source : Source ε) (failure : ε) (selector : Selector) :
    (source.guarded failure).resolve selector = source.resolve selector := by
  cases selector with
  | byId id => rfl
  | byQuery conditions => rfl

theorem Source.record_guarded (source : Source ε) (failure : ε) {id : RecordId} (named : id ≠ .unresolved) :
    (source.guarded failure).record id = source.record id := by
  simp only [Source.record, Source.guarded, if_neg named]

namespace Renderer

variable [RegexCompiler] (renderer : Renderer ε)

/-- The renderer that asks the guarded source. -/
def guarded (failure : ε) : Renderer ε :=
  { renderer with source := renderer.source.guarded failure }

/-- A region that is not about the id of no record is rendered without asking for it. -/
theorem renderRegion_guarded (failure : ε) {region : Region}
    (named : ∀ selector id, renderer.selector? region.selector = some selector →
      renderer.source.resolve selector = .ok (.ok id) → id ≠ .unresolved) :
    (renderer.guarded failure).renderRegion region = renderer.renderRegion region := by
  have same : (renderer.guarded failure).selector? region.selector = renderer.selector? region.selector := rfl
  have sameSource : (renderer.guarded failure).source = renderer.source.guarded failure := rfl
  rw [renderRegion, renderRegion, same]
  cases selects : renderer.selector? region.selector with
  | none => rfl
  | some selector =>
    simp only [sameSource, Source.resolve_guarded]
    cases resolves : renderer.source.resolve selector with
    | error failure' => rfl
    | ok outcome =>
      cases outcome with
      | error unresolved => rfl
      | ok id =>
        have record := renderer.source.record_guarded failure (named selector id selects resolves)
        show ((renderer.source.guarded failure).record id >>= _) = (renderer.source.record id >>= _)
        rw [record]
        rfl

theorem render_guarded (failure : ε)
    (named : ∀ text selector id, renderer.selector? text = some selector →
      renderer.source.resolve selector = .ok (.ok id) → id ≠ .unresolved) (text : String) :
    (renderer.guarded failure).render text = renderer.render text := by
  have regions : (renderer.guarded failure).renderRegion = renderer.renderRegion := by
    funext region
    exact renderer.renderRegion_guarded failure (named region.selector)
  have body : (renderer.guarded failure).body text = renderer.body text := rfl
  rw [render, render, regions, body]

end Renderer

end Guarded

namespace Dataset

/-- Where no value belongs to the id of no record, nothing is rendered as this record. -/
theorem AllNamed.render_guarded [RegexCompiler] {dataset : Dataset} (allNamed : dataset.AllNamed) (failure : QueryError)
    (config : Config) (text : String) :
    render (dataset.source.guarded failure) config text = render dataset.source config text := by
  cases made : Tag.ofName config.tag with
  | error refusal => rw [render_of_refused made, render_of_refused made]
  | ok tag =>
    let renderer : Renderer QueryError := ⟨dataset.source, config, tag, made⟩
    have same : (renderer.guarded failure).render text = renderer.render text :=
      renderer.render_guarded failure (fun _ _ _ written resolves => allNamed.resolve_ne written resolves) text
    rw [render_of_accepted made, render_of_accepted made]
    exact congrArg (Except.mapError RenderError.source) same

/-- What resolves to the id of no record are exactly the queries that it alone meets. If no value of the dataset
belongs to it, nothing resolves to it and no region is rendered as this record: a source that fails when it is asked
for it gives the same renderings. -/
theorem unresolved_only_by_own_values [RegexCompiler] (dataset : Dataset) :
    (∀ comparison text selector, Selector.ofString? comparison text = some selector →
      (dataset.source.resolve selector = .ok (.ok .unresolved) ↔
        ∃ conditions, selector = .byQuery conditions ∧ dataset.OnlyMeets conditions .unresolved)) ∧
    (dataset.AllNamed →
      (∀ comparison text selector, Selector.ofString? comparison text = some selector →
        ∀ id, dataset.source.resolve selector = .ok (.ok id) → id ≠ .unresolved) ∧
      ∀ failure config text,
        render (dataset.source.guarded failure) config text = render dataset.source config text) := by
  refine ⟨?_, ?_⟩
  · intro comparison text selector written
    exact resolve_eq_unresolved_iff written
  · intro allNamed
    exact ⟨fun _ _ _ written _ resolves => allNamed.resolve_ne written resolves, allNamed.render_guarded⟩

/-- A record with a negative id is resolved to by a query, and its neighbour that names no record is not. -/
theorem unresolved_only_by_own_values_negative :
    let dataset : Dataset := ⟨[⟨1, "a", ""⟩], [⟨⟨-2⟩, 1, "x"⟩]⟩
    let query : Selector := .byQuery [⟨"a", .equal, "x"⟩]
    dataset.AllNamed ∧ Selector.ofString? .equal "query=a:x" = some query ∧
      dataset.source.resolve query = .ok (.ok ⟨-2⟩) ∧ (⟨-2⟩ : RecordId) ≠ .unresolved := by
  intro dataset query
  have allNamed : dataset.AllNamed := by
    unfold AllNamed
    decide
  have written : Selector.ofString? .equal "query=a:x" = some query := by decide +kernel
  have resolves : dataset.source.resolve query = .ok (.ok ⟨-2⟩) := by
    have alone : RecordId.ascending (dataset.matching "a" (.equals "x") fun _ => true) = [⟨-2⟩] := by
      decide +kernel
    exact congrArg (fun ids => Except.ok (outcomeOf ids)) alone
  exact ⟨allNamed, written, resolves,
    ((dataset.unresolved_only_by_own_values).2 allNamed).1 .equal _ _ written _ resolves⟩

/-- A loaded dataset whose only value belongs to the id of no record resolves to this id, and renders it. -/
theorem resolves_to_unresolved :
    let source := "\x7b\"fields\":[\x7b\"id\":1,\"name\":\"a\"\x7d]," ++
      "\"values\":[\x7b\"item_id\":-1,\"field_id\":1,\"value\":\"x\"\x7d]\x7d"
    let dataset : Dataset := ⟨[⟨1, "a", ""⟩], [⟨.unresolved, 1, "x"⟩]⟩
    let query : Selector := .byQuery [⟨"a", .equal, "x"⟩]
    let renderer : Renderer QueryError := ⟨dataset.source, { tag := "t" }, ⟨"t"⟩, rfl⟩
    ofSource .json source = .ok dataset ∧ Selector.ofString? .equal "query=a:x" = some query ∧
      dataset.source.resolve query = .ok (.ok .unresolved) ∧
      renderer.renderRegion ⟨" ", "query=a:x", "[id]"⟩ = .ok "-1" := by
  intro source dataset query renderer
  have written : Selector.ofString? .equal "query=a:x" = some query := by decide +kernel
  have resolves : dataset.source.resolve query = .ok (.ok .unresolved) := by
    have alone : RecordId.ascending (dataset.matching "a" (.equals "x") fun _ => true) = [.unresolved] := by
      decide +kernel
    exact congrArg (fun ids => Except.ok (outcomeOf ids)) alone
  refine ⟨ofSource_eq_ok_iff.mpr ⟨by decide +kernel, by decide⟩, written, resolves, ?_⟩
  have rows : dataset.rows .unresolved = [⟨"a", "", "x"⟩] := by decide +kernel
  have record : renderer.source.record .unresolved = .ok (.ofRows .unresolved [⟨"a", "", "x"⟩]) :=
    congrArg (fun rows => Except.ok (Record.ofRows .unresolved rows)) rows
  have filled : Template.fill {} (.ofRows .unresolved [⟨"a", "", "x"⟩]) "[id]" = "-1" := by decide +kernel
  have selects : renderer.selector? "query=a:x" = some query := written
  rw [renderer.renderRegion_of_resolved selects resolves, record]
  exact congrArg Except.ok filled

end Dataset

end RecordFill

import RecordFill.Proofs.Rendering.Reassembly

namespace RecordFill.Renderer

section

variable [RegexCompiler] {ε : Type}

/-- What a call in a context may make of the content before it: its answer, and the content after it. -/
inductive Prepares (renderer : Renderer ε) (context before : String) : Except ε Bool → String → Prop where
  | skipped (unhandled : context ∉ renderer.config.contexts) : Prepares renderer context before (.ok false) before
  | failed (failure : ε) (handled : context ∈ renderer.config.contexts)
      (fails : renderer.render before = .error failure) : Prepares renderer context before (.error failure) before
  | rendered (changed : Bool) (after : String) (handled : context ∈ renderer.config.contexts)
      (renders : renderer.render before = .ok after)
      (region : changed = true ↔ Region.Completes renderer.tag before.toList) :
      Prepares renderer context before (.ok changed) after

/-- What calls in contexts make of the content one after the other: their answers, and the content in the end. -/
inductive PreparesAll (renderer : Renderer ε) : List String → String → List (Except ε Bool) → String → Prop where
  | done (content : String) : PreparesAll renderer [] content [] content
  | call {context before between after : String} {contexts : List String} {answer : Except ε Bool}
      {answers : List (Except ε Bool)} (first : renderer.Prepares context before answer between)
      (others : PreparesAll renderer contexts between answers after) :
      PreparesAll renderer (context :: contexts) before (answer :: answers) after

/-- Calls in contexts one after the other. A failure is the answer of one call, and the others are still made. -/
def prepareAll (renderer : Renderer ε) (contexts : List String) : StateM String (List (Except ε Bool)) :=
  contexts.mapM fun context => (renderer.prepare context).run

section Call

variable {renderer : Renderer ε} {context content : String}

/-- A context that is not configured answers before anything is asked of the source. -/
theorem prepare_of_unhandled (unhandled : context ∉ renderer.config.contexts) :
    (renderer.prepare context).run content = (.ok false, content) := by
  have passes : renderer.config.handles context = false := by simpa [Config.handles] using unhandled
  unfold prepare
  simp only [passes, Bool.false_and, Bool.false_eq_true, if_false]
  rfl

/-- A configured context puts the rendering of the content in its place, unless the rendering fails. -/
theorem prepare_of_handled (handled : context ∈ renderer.config.contexts) :
    (renderer.prepare context).run content =
      match renderer.render content with
      | .ok rendered => (.ok (renderer.body content).hasRegion, rendered)
      | .error failure => (.error failure, content) := by
  have admits : (renderer.config.handles context && (renderer.body content).hasRegion) =
      (renderer.body content).hasRegion := by
    simp [Config.handles, handled]
  have opened : (renderer.prepare context).run content =
      (if (renderer.body content).hasRegion = true then do
        set (← (renderer.render content : Except ε String))
        return true
      else return false : ExceptT ε (StateM String) Bool).run content := by
    rw [← admits]
    rfl
  rw [opened]
  cases region : (renderer.body content).hasRegion with
  | false =>
    -- Without a region the content is its own rendering, so that leaving it alone comes to the same.
    have missing : Region.first? renderer.tag content.toList = none := by
      simpa [Renderer.body, Body.hasRegion_ofText] using region
    rw [renderer.render_of_none missing]
    rfl
  | true =>
    rw [if_pos rfl]
    cases renderer.render content <;> rfl

/-- A call does what it may do, and nothing else. -/
theorem prepare_run_eq_iff {answer : Except ε Bool} {after : String} :
    (renderer.prepare context).run content = (answer, after) ↔ renderer.Prepares context content answer after := by
  have region : (renderer.body content).hasRegion = true ↔ Region.Completes renderer.tag content.toList :=
    Body.hasRegion_ofText_iff
  constructor
  · intro runs
    by_cases handled : context ∈ renderer.config.contexts
    · rw [prepare_of_handled handled] at runs
      cases result : renderer.render content with
      | ok rendered =>
        rw [result] at runs
        obtain ⟨rfl, rfl⟩ := Prod.mk.inj runs
        exact .rendered _ rendered handled result region
      | error failure =>
        rw [result] at runs
        obtain ⟨rfl, rfl⟩ := Prod.mk.inj runs
        exact .failed failure handled result
    · rw [prepare_of_unhandled handled] at runs
      obtain ⟨rfl, rfl⟩ := Prod.mk.inj runs
      exact .skipped handled
  · intro prepares
    cases prepares with
    | skipped unhandled => exact prepare_of_unhandled unhandled
    | failed failure handled fails => rw [prepare_of_handled handled, fails]
    | rendered changed after handled renders complete =>
      have same : (renderer.body content).hasRegion = changed := Bool.eq_iff_iff.mpr (region.trans complete.symm)
      rw [prepare_of_handled handled, renders, same]

end Call

/-- The first call of a sequence finds the content as it was, and the others what the first one left. -/
theorem prepareAll_cons_run (renderer : Renderer ε) (context : String) (contexts : List String) (content : String) :
    (renderer.prepareAll (context :: contexts)).run content =
      let (answer, between) := (renderer.prepare context).run content
      let (answers, after) := (renderer.prepareAll contexts).run between
      (answer :: answers, after) := by
  unfold prepareAll
  rw [List.mapM_cons]
  rfl

/-- Each call of a sequence does what it may do to the content that the calls before it left, and nothing else: it
passes the content by, fails and leaves it, or renders all of it and says whether there was a region. A call in a
context that is not configured passes by whatever the source would answer, so it asks nothing of it. -/
theorem prepareAll_run_eq_iff (renderer : Renderer ε) (contexts : List String) (before : String) :
    (∀ answers after, (renderer.prepareAll contexts).run before = (answers, after) ↔
      renderer.PreparesAll contexts before answers after) ∧
    ∀ context ∉ renderer.config.contexts, ∀ (ε' : Type) (source : Source ε') (content : String),
      ((⟨source, renderer.config, renderer.tag, renderer.accepted⟩ : Renderer ε').prepare context).run content =
        (.ok false, content) := by
  refine ⟨?_, fun context unhandled ε' source content => prepare_of_unhandled unhandled⟩
  induction contexts generalizing before with
  | nil =>
    intro answers after
    constructor
    · intro runs
      obtain ⟨rfl, rfl⟩ := Prod.mk.inj runs
      exact .done before
    · intro prepares
      cases prepares
      rfl
  | cons context contexts step =>
    intro answers after
    rw [prepareAll_cons_run]
    constructor
    · intro runs
      obtain ⟨rfl, rfl⟩ := Prod.mk.inj runs
      exact .call (prepare_run_eq_iff.mp rfl) ((step _ _ _).mp rfl)
    · intro prepares
      cases prepares with
      | call first others =>
        rw [prepare_run_eq_iff.mpr first]
        simp only [(step _ _ _).mpr others]

end

/-- A failure behind a region that was already rendered leaves all of the content, and the next call passes by. -/
theorem prepareAll_run_failing :
    let source : Source Unit :=
      { query := fun _ => .ok [], rows := fun id => if id = ⟨2⟩ then .error () else .ok [] }
    let renderer : Renderer Unit := ⟨source, { tag := "t" }, ⟨"t"⟩, rfl⟩
    let content := "\x7bt id=1\x7d[id]\x7b/t\x7d, \x7bt id=2\x7d[id]\x7b/t\x7d"
    "other" ∉ renderer.config.contexts ∧ renderer.render content = .error () ∧
      (renderer.prepareAll ["com_content.article", "other"]).run content = ([.error (), .ok false], content) ∧
      (renderer.prepare "other").run content = (.ok false, content) := by
  intro source renderer content
  have unhandled : "other" ∉ renderer.config.contexts := by decide
  have fails : renderer.render content = .error () := by
    have noText : (renderer.render content).toOption.isNone = true := by decide +kernel
    cases result : renderer.render content with
    | error failure => rfl
    | ok text => simp [result, Except.toOption] at noText
  have calls := renderer.prepareAll_run_eq_iff ["com_content.article", "other"] content
  have runs := (calls.1 _ _).mpr (.call (.failed () (by decide) fails) (.call (.skipped unhandled) (.done content)))
  exact ⟨unhandled, fails, runs, calls.2 "other" unhandled Unit source content⟩

end RecordFill.Renderer

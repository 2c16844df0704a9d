import RecordFill.Config.Basic
import RecordFill.Region
import RecordFill.Template

namespace RecordFill

/-- A rendering fails with its source, or before it begins with its tag. -/
inductive RenderError (ε : Type) where
  | source (failure : ε)
  | tag (refusal : PatternError)

/-- The failure says which side it comes from. -/
def RenderError.message {ε : Type} [Failure ε] : RenderError ε → String
  | .source failure => "store error: " ++ Failure.message failure
  | .tag refusal => "invalid tag pattern: " ++ refusal.message

instance {ε : Type} [Failure ε] : Failure (RenderError ε) where
  message := RenderError.message
  causes
    | .source failure => Failure.chain failure
    | .tag refusal => Failure.chain refusal

/-- A source of records and the settings for rendering from it, whose tag is accepted. -/
structure Renderer [RegexCompiler] (ε : Type) where
  source : Source ε
  config : Config
  tag : Tag
  accepted : Tag.ofName config.tag = .ok tag

namespace Renderer

variable [RegexCompiler] {ε : Type}

/-- The renderer with the given settings, unless the tag is refused. -/
def ofConfig (source : Source ε) (config : Config) : Except PatternError (Renderer ε) :=
  match accepted : Tag.ofName config.tag with
  | .ok tag => .ok ⟨source, config, tag, accepted⟩
  | .error refusal => .error refusal

theorem ofConfig_of_accepted {source : Source ε} {config : Config} {tag : Tag}
    (accepted : Tag.ofName config.tag = .ok tag) : ofConfig source config = .ok ⟨source, config, tag, accepted⟩ := by
  unfold ofConfig
  split
  · next other made =>
    obtain rfl : tag = other := Except.ok.inj (accepted.symm.trans made)
    rfl
  · next refusal refused => exact absurd (accepted.symm.trans refused) (by simp)

theorem ofConfig_of_refused {source : Source ε} {config : Config} {refusal : PatternError}
    (refused : Tag.ofName config.tag = .error refusal) : ofConfig source config = .error refusal := by
  unfold ofConfig
  split
  · next tag made => exact absurd (refused.symm.trans made) (by simp)
  · next other made => exact congrArg Except.error (Except.error.inj (made.symm.trans refused))

/-- The selector that a text writes under the settings. -/
def selector? (renderer : Renderer ε) (text : String) : Option Selector :=
  Selector.ofString? renderer.config.comparison text

/-- What a region gives way to. A region whose selector selects nothing asks nothing of the source. -/
def renderRegion (renderer : Renderer ε) (region : Region) : Except ε String :=
  match renderer.selector? region.selector with
  | none => .ok (region.text renderer.tag)
  | some selector => do
    match ← renderer.source.resolve selector with
    | .error outcome => return renderer.config.diagnostics.diagnostic outcome
    | .ok id =>
      let record ← renderer.source.record id
      return Template.fill renderer.config.styling record region.template

/-- The regions of a text. -/
def body (renderer : Renderer ε) (text : String) : Body :=
  Body.ofText renderer.tag text

/-- A text with every region rendered, or the failure of the first region that cannot be. -/
def render (renderer : Renderer ε) (text : String) : Except ε String := do
  let body := renderer.body text
  let rendered ← body.parts.mapM fun (gap, region) => return gap ++ (← renderer.renderRegion region)
  return String.join rendered ++ body.tail

/-- Renders the content at hand in place if its context is one of those configured and it has a region, and
says whether it did. A failure leaves the content as it was. -/
def prepare (renderer : Renderer ε) (context : String) : ExceptT ε (StateM String) Bool := do
  let content ← get
  if renderer.config.handles context && (renderer.body content).hasRegion then
    set (← (renderer.render content : Except ε String))
    return true
  else
    return false

end Renderer

/-- A text rendered from a source under the given settings. -/
def render [RegexCompiler] {ε : Type} (source : Source ε) (config : Config) (text : String) :
    Except (RenderError ε) String := do
  let renderer ← (Renderer.ofConfig source config).mapError .tag
  (renderer.render text).mapError .source

section Render

variable [RegexCompiler] {ε : Type} {config : Config}

theorem render_of_accepted {tag : Tag} (accepted : Tag.ofName config.tag = .ok tag) (source : Source ε)
    (text : String) :
    render source config text =
      ((⟨source, config, tag, accepted⟩ : Renderer ε).render text).mapError .source := by
  rw [render, Renderer.ofConfig_of_accepted accepted]
  rfl

theorem render_of_refused {refusal : PatternError} (refused : Tag.ofName config.tag = .error refusal)
    (source : Source ε) (text : String) : render source config text = .error (.tag refusal) := by
  rw [render, Renderer.ofConfig_of_refused refused]
  rfl

end Render

end RecordFill

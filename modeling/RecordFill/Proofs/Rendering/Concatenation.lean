import RecordFill.Proofs.Region.Concatenation
import RecordFill.Renderer
import RecordFill.Store.Dataset

namespace RecordFill

variable {ε : Type}

namespace Body

/-- A divided text in which every region gives way to what an attempt makes of it. -/
def fill (attempt : Region → Except ε String) (body : Body) : Except ε String := do
  let rendered ← body.parts.mapM fun (gap, region) => return gap ++ (← attempt region)
  return String.join rendered ++ body.tail

/-- A divided text is filled before the one that follows it. -/
theorem fill_followedBy (attempt : Region → Except ε String) (body next : Body) :
    (body.followedBy next).fill attempt = do
      let front ← body.fill attempt
      let behind ← next.fill attempt
      return front ++ behind := by
  obtain ⟨parts, tail⟩ := next
  cases parts with
  | nil => simp [fill, followedBy, String.append_assoc]
  | cons part parts =>
    obtain ⟨gap, region⟩ := part
    simp only [fill, followedBy, List.mapM_append, List.mapM_cons, bind_assoc, pure_bind, String.join_append,
      String.join_cons, String.append_assoc]

end Body

namespace Renderer

variable [RegexCompiler]

theorem render_eq_fill (renderer : Renderer ε) (text : String) :
    renderer.render text = (renderer.body text).fill renderer.renderRegion := rfl

/-- Two texts are rendered one after the other. -/
theorem render_append_of_separate (renderer : Renderer ε) {text more : String}
    (separate : Body.Separate renderer.tag text more) :
    renderer.render (text ++ more) = do
      let front ← renderer.render text
      let behind ← renderer.render more
      return front ++ behind := by
  have divided : renderer.body (text ++ more) = (renderer.body text).followedBy (renderer.body more) := by
    simp only [Renderer.body, Body.ofText, String.toList_append]
    exact Body.divideAfter_append (Body.separate_iff.mp separate)
  rw [render_eq_fill, render_eq_fill, render_eq_fill, divided, Body.fill_followedBy]

end Renderer

/-- Where no opening tag begins in the first of two texts behind its last region, the regions of both together are
those of the first and then those of the second, further on by the bytes of the first. The texts are rendered into
what each is rendered into alone; if the first fails so do both, and if only the second fails both fail with it. -/
theorem render_append [RegexCompiler] (source : Source ε) (config : Config) (text more : String)
    (separate : ∀ tag, Tag.ofName config.tag = .ok tag → Body.Separate tag text more) :
    (∀ tag, Tag.ofName config.tag = .ok tag →
      (Body.ofText tag (text ++ more)).placed tag = (Body.ofText tag text).placed tag ++
        ((Body.ofText tag more).placed tag).map (Body.Placed.shift text.utf8ByteSize)) ∧
    render source config (text ++ more) = do
      let front ← render source config text
      let behind ← render source config more
      return front ++ behind := by
  refine ⟨fun tag made => Body.placed_append (separate tag made), ?_⟩
  cases made : Tag.ofName config.tag with
  | error refusal =>
    simp only [render_of_refused made]
    rfl
  | ok tag =>
    let renderer : Renderer ε := ⟨source, config, tag, made⟩
    have both := renderer.render_append_of_separate (separate tag made)
    simp only [render_of_accepted made]
    change (renderer.render (text ++ more)).mapError RenderError.source = (do
      let front ← (renderer.render text).mapError RenderError.source
      let behind ← (renderer.render more).mapError RenderError.source
      return front ++ behind)
    rw [both]
    cases renderer.render text with
    | error failure => rfl
    | ok front => cases renderer.render more <;> rfl

/-- A first text that ends in a closing tag without its opening one and in the brace of another tag. -/
theorem render_append_half_tag :
    let source := Dataset.source ⟨[⟨1, "a", ""⟩], [⟨⟨1⟩, 1, "x"⟩]⟩
    let config : Config := { tag := "t" }
    let text := "\x7bt id=1\x7d[a]\x7b/t\x7d\x7b/t \x7b"
    let more := "x\x7d\x7bt id=2\x7d[id]\x7b/t\x7d"
    (∀ tag, Tag.ofName config.tag = .ok tag → Body.Separate tag text more) ∧
    render source config (text ++ more) = do
      let front ← render source config text
      let behind ← render source config more
      return front ++ behind := by
  intro source config text more
  have separate : ∀ tag, Tag.ofName config.tag = .ok tag → Body.Separate tag text more := by
    intro tag made
    have accepted : Tag.ofName "t" = .ok ⟨"t"⟩ := rfl
    obtain rfl : ⟨"t"⟩ = tag := Except.ok.inj (accepted.symm.trans made)
    rw [Body.separate_iff]
    decide +kernel
  exact ⟨separate, (render_append source config text more separate).2⟩

end RecordFill

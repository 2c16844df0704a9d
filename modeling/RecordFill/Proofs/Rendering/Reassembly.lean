import RecordFill.Proofs.Attempts
import RecordFill.Proofs.Region.Division
import RecordFill.Proofs.Region.Extraction
import RecordFill.Renderer

namespace RecordFill.Renderer

variable [RegexCompiler] {ε : Type} (renderer : Renderer ε)

theorem render_of_none {text : String} (missing : Region.first? renderer.tag text.toList = none) :
    renderer.render text = .ok text := by
  have body : renderer.body text = ⟨[], text⟩ := by
    rw [Renderer.body, Body.ofText, Body.divideAfter_of_none missing, String.ofList_toList]
  rw [render, body]
  show Except.ok ("" ++ text) = Except.ok text
  rw [String.empty_append]

theorem render_empty : renderer.render "" = .ok "" :=
  renderer.render_of_none (by simp [Region.first?, Tag.opener, Text.cut?, Text.cutAfter, Text.remainder?])

theorem render_of_some {text : String} {gap rest : List Char} {region : Region}
    (found : Region.first? renderer.tag text.toList = some (gap, region, rest)) :
    renderer.render text = do
      let rendered ← renderer.renderRegion region
      let behind ← renderer.render (String.ofList rest)
      return String.ofList gap ++ rendered ++ behind := by
  have body : renderer.body text =
      ⟨(String.ofList gap, region) :: (renderer.body (String.ofList rest)).parts,
        (renderer.body (String.ofList rest)).tail⟩ := by
    rw [Renderer.body, Renderer.body, Body.ofText, Body.ofText, Body.divideAfter_of_some found, String.toList_ofList]
  rw [render, render, body]
  simp only [List.mapM_cons, bind_assoc, pure_bind, String.join_cons, String.append_assoc]

/-- A region whose selector leaves one record is filled with that record. -/
theorem renderRegion_of_resolved {region : Region} {selector : Selector} {id : RecordId}
    (selects : renderer.selector? region.selector = some selector)
    (resolves : renderer.source.resolve selector = .ok (.ok id)) :
    renderer.renderRegion region =
      (renderer.source.record id).map fun record =>
        Template.fill renderer.config.styling record region.template := by
  simp only [renderRegion, selects, resolves]
  rfl

end RecordFill.Renderer

namespace RecordFill

namespace Body

/-- The bytes of a text from a byte on, with other texts in the places of regions. -/
def splice (text : ByteArray) (cursor : Nat) : List (Placed × String) → ByteArray
  | [] => text.extract cursor text.size
  | (placed, replacement) :: rest =>
    text.extract cursor placed.start ++ replacement.toByteArray ++ splice text placed.stop rest

theorem regions_placedFrom (tag : Tag) (cursor : Nat) (parts : List (String × Region)) :
    (placedFrom tag cursor parts).map (·.region) = parts.map (·.2) := by
  induction parts generalizing cursor with
  | nil => rfl
  | cons part parts step => rw [placedFrom, List.map_cons, List.map_cons, step]

/-- The bytes of a text between two fronts of it are those of the string between them. -/
theorem extract_between (front between back : String) :
    (front ++ between ++ back).toByteArray.extract front.utf8ByteSize (front ++ between).utf8ByteSize =
      between.toByteArray := by
  rw [String.append_assoc, String.toByteArray_append, String.toByteArray_append, String.utf8ByteSize_append]
  simp only [← String.size_toByteArray]
  generalize front.toByteArray = before
  generalize between.toByteArray = inside
  calc (before ++ (inside ++ back.toByteArray)).extract (before.size + 0) (before.size + inside.size)
    _ = (inside ++ back.toByteArray).extract 0 inside.size := ByteArray.extract_append_size_add
    _ = inside := ByteArray.extract_append_eq_left rfl

/-- Texts in the places of the regions stand behind the gaps of the parts. -/
theorem splice_placedFrom (tag : Tag) (tail : String) {parts : List (String × Region)} {replacements : List String}
    (whole : replacements.length = parts.length) (done : String) :
    splice (done ++ Body.text tag ⟨parts, tail⟩).toByteArray done.utf8ByteSize
        ((placedFrom tag done.utf8ByteSize parts).zip replacements) =
      (String.join (List.zipWith (fun part replacement => part.1 ++ replacement) parts replacements) ++
        tail).toByteArray := by
  induction parts generalizing replacements done with
  | nil =>
    have rest := extract_between done tail ""
    rw [String.append_empty, ← String.size_toByteArray] at rest
    simpa [placedFrom, splice, Body.text] using rest
  | cons part parts step =>
    obtain ⟨gap, region⟩ := part
    cases replacements with
    | nil => contradiction
    | cons replacement replacements =>
      have places : placedFrom tag done.utf8ByteSize ((gap, region) :: parts) =
          ⟨region, (done ++ gap).utf8ByteSize, (done ++ gap ++ region.text tag).utf8ByteSize⟩ ::
            placedFrom tag (done ++ gap ++ region.text tag).utf8ByteSize parts := by
        rw [placedFrom]
        simp only [← String.utf8ByteSize_append]
      have same : done ++ Body.text tag ⟨(gap, region) :: parts, tail⟩ =
          done ++ gap ++ region.text tag ++ Body.text tag ⟨parts, tail⟩ := by
        simp only [text_cons, String.append_assoc]
      have front := extract_between done gap (region.text tag ++ Body.text tag ⟨parts, tail⟩)
      rw [← String.append_assoc] at front
      rw [places, same, List.zip_cons_cons, splice, front, step (Nat.succ.inj whole), List.zipWith_cons_cons,
        String.join_cons]
      simp only [String.toByteArray_append, ByteArray.append_assoc]

/-- A text with other texts in the places of its regions is the text of the gaps and those. -/
theorem splice_placed (tag : Tag) (text : String) {replacements : List String}
    (whole : replacements.length = ((ofText tag text).placed tag).length) :
    splice text.toByteArray 0 (((ofText tag text).placed tag).zip replacements) =
      (String.join (List.zipWith (fun part replacement => part.1 ++ replacement) (ofText tag text).parts
        replacements) ++ (ofText tag text).tail).toByteArray := by
  have places := congrArg List.length (regions_placedFrom tag 0 (ofText tag text).parts)
  rw [List.length_map, List.length_map] at places
  rw [placed_eq_placedFrom, places] at whole
  have spliced := splice_placedFrom tag (ofText tag text).tail whole ""
  have original : "" ++ Body.text tag ⟨(ofText tag text).parts, (ofText tag text).tail⟩ = text := by
    rw [String.empty_append]
    exact text_ofText tag text
  rw [original] at spliced
  rw [placed_eq_placedFrom]
  exact spliced

/-- The regions themselves in their places give the text back. -/
theorem splice_regions (tag : Tag) (text : String) :
    splice text.toByteArray 0 (((ofText tag text).placed tag).map fun placed => (placed, placed.region.text tag)) =
      text.toByteArray := by
  have texts : ((ofText tag text).placed tag).map (fun placed => placed.region.text tag) =
      (ofText tag text).parts.map fun part => part.2.text tag := by
    have regions := congrArg (List.map (Region.text tag)) (regions_placedFrom tag 0 (ofText tag text).parts)
    rw [placed_eq_placedFrom]
    simpa [Function.comp_def] using regions
  rw [List.map_prod_left_eq_zip, splice_placed tag text (List.length_map _), texts, List.zipWith_map_right,
    List.zipWith_self]
  exact congrArg String.toByteArray (text_ofText tag text)

end Body

namespace Renderer

variable {ε : Type}

/-- The gaps have no part in whether the regions of parts are rendered. -/
theorem mapM_behind_gap (attempt : Region → Except ε String) (parts : List (String × Region)) :
    parts.mapM (fun (gap, region) => return gap ++ (← attempt region)) =
      (parts.mapM fun part => attempt part.2).map
        (List.zipWith (fun part rendered => part.1 ++ rendered) parts) := by
  induction parts with
  | nil => rfl
  | cons part parts step =>
    obtain ⟨gap, region⟩ := part
    rw [List.mapM_cons, List.mapM_cons, step]
    cases first : attempt region with
    | error failure => simp only [first]; rfl
    | ok rendered =>
      simp only [first]
      cases parts.mapM fun part => attempt part.2 <;> rfl

variable [RegexCompiler] (renderer : Renderer ε)

/-- A text is rendered by its placed regions in their order, each put behind its gap. -/
theorem render_eq_mapM (text : String) :
    renderer.render text =
      (((renderer.body text).placed renderer.tag).mapM fun placed => renderer.renderRegion placed.region).map
        fun rendered => String.join (List.zipWith (fun part rendered => part.1 ++ rendered)
          (renderer.body text).parts rendered) ++ (renderer.body text).tail := by
  have regions : (((renderer.body text).placed renderer.tag).mapM fun placed =>
      renderer.renderRegion placed.region) =
        (renderer.body text).parts.mapM fun part => renderer.renderRegion part.2 := by
    calc _
      _ = (((renderer.body text).placed renderer.tag).map (·.region)).mapM renderer.renderRegion :=
        List.mapM_map.symm
      _ = ((renderer.body text).parts.map (·.2)).mapM renderer.renderRegion := by
        rw [Body.placed_eq_placedFrom, Body.regions_placedFrom]
      _ = _ := List.mapM_map
  rw [render, regions, mapM_behind_gap]
  cases (renderer.body text).parts.mapM fun part => renderer.renderRegion part.2 <;> rfl

/-- A region whose selector selects nothing gives way to itself, whatever a source would answer. -/
theorem renderRegion_of_unselected {region : Region} (unselected : renderer.selector? region.selector = none) :
    renderer.renderRegion region = .ok (region.text renderer.tag) := by
  rw [renderRegion, unselected]

/-- A text is rendered into the rendered regions with the bytes of the text between them. -/
theorem render_eq_ok_iff {text output : String} :
    renderer.render text = .ok output ↔ ∃ rendered,
      ((renderer.body text).placed renderer.tag).map (fun placed => renderer.renderRegion placed.region) =
        rendered.map .ok ∧
      output.toByteArray =
        Body.splice text.toByteArray 0 (((renderer.body text).placed renderer.tag).zip rendered) := by
  have spliced {rendered : List String}
      (succeed : ((renderer.body text).placed renderer.tag).map (fun placed => renderer.renderRegion placed.region) =
        rendered.map .ok) :
      String.join (List.zipWith (fun part rendered => part.1 ++ rendered) (renderer.body text).parts rendered) ++
          (renderer.body text).tail = output ↔
        output.toByteArray =
          Body.splice text.toByteArray 0 (((renderer.body text).placed renderer.tag).zip rendered) := by
    have whole : rendered.length = ((renderer.body text).placed renderer.tag).length := by
      simpa using (congrArg List.length succeed).symm
    rw [← String.toByteArray_inj, eq_comm]
    exact Iff.of_eq (congrArg (output.toByteArray = ·) (Body.splice_placed renderer.tag text whole).symm)
  rw [render_eq_mapM, map_eq_ok_iff]
  constructor
  · rintro ⟨rendered, succeed, joined⟩
    have each := mapM_eq_ok_iff.mp succeed
    exact ⟨rendered, each, (spliced each).mp joined⟩
  · rintro ⟨rendered, each, bytes⟩
    exact ⟨rendered, mapM_eq_ok_iff.mpr each, (spliced each).mpr bytes⟩

/-- Rendering a text fails exactly with the failure of its first region that cannot be rendered. -/
theorem render_eq_error_iff {text : String} {failure : ε} :
    renderer.render text = .error failure ↔ ∃ earlier failing later,
      (renderer.body text).placed renderer.tag = earlier ++ failing :: later ∧
      (∀ placed ∈ earlier, ∃ rendered, renderer.renderRegion placed.region = .ok rendered) ∧
      renderer.renderRegion failing.region = .error failure := by
  rw [render_eq_mapM, map_eq_error_iff, mapM_eq_error_iff]

/-- A text whose regions all select nothing stays as it is. -/
theorem render_of_unselected {text : String}
    (unselected : ∀ placed ∈ (renderer.body text).placed renderer.tag,
      renderer.selector? placed.region.selector = none) :
    renderer.render text = .ok text := by
  rw [render_eq_ok_iff]
  refine ⟨((renderer.body text).placed renderer.tag).map fun placed => placed.region.text renderer.tag, ?_, ?_⟩
  · rw [List.map_map]
    apply List.map_congr_left
    intro placed member
    exact renderer.renderRegion_of_unselected (unselected placed member)
  · rw [← List.map_prod_left_eq_zip]
    exact (Body.splice_regions renderer.tag text).symm

/-- A text is rendered into its regions' renderings with the bytes between the regions around them, or fails with
the first region that fails. The regions themselves between those bytes are the text, and where they select nothing
they stay as they are with every source, so with one that answers no request. -/
theorem render_reassembles (text : String) :
    let regions := (renderer.body text).placed renderer.tag
    (∀ output, renderer.render text = .ok output ↔ ∃ rendered,
      regions.map (fun placed => renderer.renderRegion placed.region) = rendered.map .ok ∧
      output.toByteArray = Body.splice text.toByteArray 0 (regions.zip rendered)) ∧
    (∀ failure, renderer.render text = .error failure ↔ ∃ earlier failing later,
      regions = earlier ++ failing :: later ∧
      (∀ placed ∈ earlier, ∃ rendered, renderer.renderRegion placed.region = .ok rendered) ∧
      renderer.renderRegion failing.region = .error failure) ∧
    Body.splice text.toByteArray 0 (regions.map fun placed => (placed, placed.region.text renderer.tag)) =
      text.toByteArray ∧
    ∀ (ε' : Type) (source : Source ε'),
      let other : Renderer ε' := ⟨source, renderer.config, renderer.tag, renderer.accepted⟩
      (∀ region, renderer.selector? region.selector = none →
        other.renderRegion region = .ok (region.text renderer.tag)) ∧
      ((∀ placed ∈ regions, renderer.selector? placed.region.selector = none) → other.render text = .ok text) := by
  refine ⟨fun _ => renderer.render_eq_ok_iff, fun _ => renderer.render_eq_error_iff,
    Body.splice_regions renderer.tag text, ?_⟩
  intro ε' source other
  exact ⟨fun region => other.renderRegion_of_unselected, other.render_of_unselected⟩

end Renderer

end RecordFill

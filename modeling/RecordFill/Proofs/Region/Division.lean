import RecordFill.Proofs.Text.Search
import RecordFill.Region

namespace RecordFill

open Text (FirstCut cut? cut?_eq_none_iff cut?_eq_some_iff isBlank)

namespace Region

/-- What stands behind the tag's name when a region is followed by a text. -/
def behindOpener (tag : Tag) (region : Region) (after : List Char) : List Char :=
  region.blanks.toList ++ region.selector.toList ++ '}' :: (region.template.toList ++ tag.closer ++ after)

/-- A region stands in front of a text when its blanks are all that follow the tag's name, its selector goes
on to the first brace, and its template goes on to the first closing tag. -/
structure StandsBefore (tag : Tag) (region : Region) (after : List Char) : Prop where
  blank : ∀ c ∈ region.blanks.toList, isBlank c = true
  maximal : ∀ c ∈ region.selector.toList.head?, isBlank c = false
  brace : FirstCut ['}'] (region.behindOpener tag after) (region.blanks.toList ++ region.selector.toList)
    (region.template.toList ++ tag.closer ++ after)
  closing : FirstCut tag.closer (region.template.toList ++ tag.closer ++ after) region.template.toList after

/-- An opening tag, a brace and a closing tag follow one another somewhere in a text. -/
def Completes (tag : Tag) (text : List Char) : Prop :=
  ∃ before inside template after,
    text = before ++ tag.opener ++ inside ++ '}' :: template ++ tag.closer ++ after

theorem text_append (tag : Tag) (region : Region) (after : List Char) :
    (region.text tag).toList ++ after = tag.opener ++ region.behindOpener tag after := by
  simp [text, behindOpener]

theorem behindOpener_ofInside (tag : Tag) (inside template after : List Char) :
    (ofInside inside template).behindOpener tag after = inside ++ '}' :: (template ++ tag.closer ++ after) := by
  simp [behindOpener, ofInside]

/-- The blanks and the selector are told apart by the first character that is no blank. -/
theorem ofInside_append {blanks selector : List Char} (blank : ∀ c ∈ blanks, isBlank c = true)
    (solid : ∀ c ∈ selector.head?, isBlank c = false) (template : List Char) :
    ofInside (blanks ++ selector) template =
      ⟨String.ofList blanks, String.ofList selector, String.ofList template⟩ := by
  obtain ⟨front, back⟩ := Text.run_append blank solid
  rw [ofInside, front, back]

/-- A region is that of the text inside its opening tag. -/
theorem ofInside_of_standsBefore {tag : Tag} {region : Region} {after : List Char}
    (stands : region.StandsBefore tag after) :
    ofInside (region.blanks.toList ++ region.selector.toList) region.template.toList = region := by
  rw [ofInside_append stands.blank stands.maximal]
  cases region
  simp only [String.ofList_toList]

/-- A text inside an opening tag and a template make a region that stands where they do. -/
theorem standsBefore_ofInside {tag : Tag} {inside template after : List Char}
    (brace : FirstCut ['}'] (inside ++ '}' :: (template ++ tag.closer ++ after)) inside
      (template ++ tag.closer ++ after))
    (closing : FirstCut tag.closer (template ++ tag.closer ++ after) template after) :
    (ofInside inside template).StandsBefore tag after where
  blank c member := by
    rw [ofInside, String.toList_ofList] at member
    exact List.all_eq_true.mp List.all_takeWhile c member
  maximal c member := by
    rw [ofInside, String.toList_ofList, Option.mem_def] at member
    simpa [member] using List.head?_dropWhile_not isBlank inside
  brace := by
    rw [behindOpener_ofInside]
    simpa [ofInside] using brace
  closing := by simpa [ofInside] using closing

/-- A region is found first exactly if it stands behind the first opening tag. -/
theorem first?_eq_some_iff {tag : Tag} {text gap rest : List Char} {region : Region} :
    first? tag text = some (gap, region, rest) ↔
      FirstCut tag.opener text gap (region.behindOpener tag rest) ∧ region.StandsBefore tag rest := by
  constructor
  · intro found
    simp only [first?, Option.bind_eq_bind, Option.bind_eq_some_iff, Option.pure_def, Option.some.injEq,
      Prod.mk.injEq, Prod.exists, cut?_eq_some_iff] at found
    obtain ⟨_, opened, opening, inside, body, brace, template, _, closing, rfl, rfl, rfl⟩ := found
    have closed := closing.divides
    subst closed
    have opens := brace.divides
    rw [List.append_assoc, List.singleton_append] at opens
    subst opens
    rw [behindOpener_ofInside]
    exact ⟨opening, standsBefore_ofInside brace closing⟩
  · rintro ⟨opening, stands⟩
    simp only [first?, cut?_eq_some_iff.mpr opening, cut?_eq_some_iff.mpr stands.brace,
      cut?_eq_some_iff.mpr stands.closing, Option.bind_eq_bind, Option.bind_some, Option.pure_def,
      ofInside_of_standsBefore stands]

/-- A region is found whenever its parts follow one another, because the parts behind a later opening tag stand
behind the first one too. -/
theorem first?_isSome_of_completes {tag : Tag} {text : List Char} (completes : Completes tag text) :
    (first? tag text).isSome := by
  obtain ⟨before, inside, template, after, divides⟩ := completes
  have opens : text = before ++ tag.opener ++ (inside ++ '}' :: template ++ tag.closer ++ after) := by
    simp [divides]
  obtain ⟨⟨gap, opened⟩, opening⟩ := Option.isSome_iff_exists.mp (Text.cut?_isSome_of_divides opens)
  obtain ⟨skipped, inOpened⟩ := (cut?_eq_some_iff.mp opening).suffix_of_divides opens
  have braced : opened = (skipped ++ inside) ++ ['}'] ++ (template ++ tag.closer ++ after) := by
    simp [← inOpened]
  obtain ⟨⟨inside', body⟩, brace⟩ := Option.isSome_iff_exists.mp (Text.cut?_isSome_of_divides braced)
  obtain ⟨passed, inBody⟩ := (cut?_eq_some_iff.mp brace).suffix_of_divides braced
  have closed : body = (passed ++ template) ++ tag.closer ++ after := by
    simp [← inBody]
  obtain ⟨⟨template', rest⟩, closing⟩ := Option.isSome_iff_exists.mp (Text.cut?_isSome_of_divides closed)
  simp [first?, opening, brace, closing]

/-- An opening tag in front of a text begins a region when a brace ends it and a closing tag comes behind. -/
theorem first?_of_opener (tag : Tag) {inside body template rest : List Char} (noBrace : '}' ∉ inside)
    (closes : cut? tag.closer body = some (template, rest)) :
    first? tag (tag.opener ++ inside ++ '}' :: body) = some ([], ofInside inside template, rest) := by
  have opening : FirstCut tag.opener (tag.opener ++ inside ++ '}' :: body) [] (inside ++ '}' :: body) :=
    ⟨by simp, fun _ _ _ => Nat.zero_le _⟩
  have brace : FirstCut ['}'] (inside ++ '}' :: body) inside body := Text.firstCut_singleton_iff.mpr noBrace
  simp only [first?, cut?_eq_some_iff.mpr opening, cut?_eq_some_iff.mpr brace, closes, Option.bind_eq_bind,
    Option.bind_some, Option.pure_def]

/-- A text that holds a region completes it. -/
theorem completes_of_sides {tag : Tag} {gap after : List Char} (region : Region) :
    Completes tag (gap ++ (region.text tag).toList ++ after) :=
  ⟨gap, region.blanks.toList ++ region.selector.toList, region.template.toList, after, by
    rw [List.append_assoc, text_append]
    simp [behindOpener]⟩

theorem first?_eq_none_iff {tag : Tag} {text : List Char} :
    first? tag text = none ↔ ¬ Completes tag text := by
  constructor
  · intro missing completes
    simpa [missing] using first?_isSome_of_completes completes
  · intro incomplete
    cases found : first? tag text with
    | none => rfl
    | some sides =>
      obtain ⟨gap, region, rest⟩ := sides
      exact absurd (first?_sides found ▸ completes_of_sides region) incomplete

end Region

namespace Body

theorem text_cons (tag : Tag) (gap tail : String) (region : Region) (parts : List (String × Region)) :
    Body.text tag ⟨(gap, region) :: parts, tail⟩ = gap ++ region.text tag ++ Body.text tag ⟨parts, tail⟩ := by
  simp [Body.text, String.append_assoc]

/-- The parts found before only stand in front of those still to be found. -/
theorem divideAfter_eq (tag : Tag) (done : List (String × Region)) (text : List Char) :
    divideAfter tag done text =
      ⟨done.reverse ++ (divideAfter tag [] text).parts, (divideAfter tag [] text).tail⟩ := by
  induction size : text.length using Nat.strongRecOn generalizing done text with
  | ind length step =>
    rw [divideAfter, divideAfter]
    split
    · simp
    · next gap region rest found =>
      have shorter : rest.length < length := size ▸ Region.first?_shorter found
      rw [step rest.length shorter ((String.ofList gap, region) :: done) rest rfl,
        step rest.length shorter [(String.ofList gap, region)] rest rfl]
      simp

theorem divideAfter_of_none {tag : Tag} {text : List Char} (missing : Region.first? tag text = none) :
    divideAfter tag [] text = ⟨[], String.ofList text⟩ := by
  rw [divideAfter]
  split
  · rfl
  · next found => simp [found] at missing

/-- Behind its first region a text is divided as if it stood alone. -/
theorem divideAfter_of_some {tag : Tag} {text gap rest : List Char} {region : Region}
    (found : Region.first? tag text = some (gap, region, rest)) :
    divideAfter tag [] text =
      ⟨(String.ofList gap, region) :: (divideAfter tag [] rest).parts, (divideAfter tag [] rest).tail⟩ := by
  rw [divideAfter]
  split
  · next missing => simp [missing] at found
  · next gap' region' rest' found' =>
    obtain ⟨rfl, rfl, rfl⟩ : gap = gap' ∧ region = region' ∧ rest = rest' := by
      simpa [found] using found'
    rw [divideAfter_eq]
    rfl

theorem hasRegion_ofText (tag : Tag) (text : String) :
    (ofText tag text).hasRegion = (Region.first? tag text.toList).isSome := by
  rw [hasRegion, ofText]
  cases first : Region.first? tag text.toList with
  | none => rw [divideAfter_of_none first]; rfl
  | some sides =>
    obtain ⟨gap, region, rest⟩ := sides
    rw [divideAfter_of_some first]
    rfl

/-- A text has a region exactly if the parts of one follow one another in it. -/
theorem hasRegion_ofText_iff {tag : Tag} {text : String} :
    (ofText tag text).hasRegion = true ↔ Region.Completes tag text.toList := by
  rw [hasRegion_ofText]
  refine ⟨fun found => ?_, Region.first?_isSome_of_completes⟩
  obtain ⟨⟨gap, region, rest⟩, first⟩ := Option.isSome_iff_exists.mp found
  rw [Region.first?_sides first]
  exact Region.completes_of_sides region

end Body

end RecordFill

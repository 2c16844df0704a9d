import RecordFill.Like.Regex
import RecordFill.Text.Search

namespace RecordFill

/-- The name of a tag. -/
structure Tag where
  name : String

namespace Tag

/-- The expression that finds the regions of a tag. Every point may take a line break. -/
def regex (name : String) : List Char :=
  let escaped := name.toList.flatMap Like.escape
  "(?s)\\\x7b".toList ++ escaped ++ "\\s*(.*?)\\\x7d(.*?)\\\x7b/".toList ++ escaped ++ "\\\x7d".toList

example : regex "a.b" = "(?s)\\\x7ba\\.b\\s*(.*?)\\\x7d(.*?)\\\x7b/a\\.b\\\x7d".toList := by decide

/-- The tag with a name, unless its expression is refused. -/
def ofName [RegexCompiler] (name : String) : Except PatternError Tag :=
  (RegexCompiler.compile (regex name)).map fun _ => ⟨name⟩

/-- An opening tag begins with a brace and the name; it goes on to its first closing brace. -/
def opener (tag : Tag) : List Char :=
  '{' :: tag.name.toList

/-- A closing tag has a slash before the name and nothing after it. -/
def closer (tag : Tag) : List Char :=
  '{' :: '/' :: tag.name.toList ++ ['}']

end Tag

open Text (cut? cut?_shorter cut?_sides isBlank)

/-- A region: the blanks after its tag, its selector, and the template between its two tags. -/
structure Region where
  blanks : String
  selector : String
  template : String
  deriving DecidableEq

namespace Region

/-- A region as it stands in a text. -/
def text (tag : Tag) (region : Region) : String :=
  String.ofList (tag.opener ++ region.blanks.toList ++ region.selector.toList ++ '}' ::
    region.template.toList ++ tag.closer)

/-- The region with the text inside its opening tag and the text up to its closing tag. -/
def ofInside (inside template : List Char) : Region :=
  ⟨String.ofList (inside.takeWhile isBlank), String.ofList (inside.dropWhile isBlank), String.ofList template⟩

/-- The first region of a text, between what stands before and after it. The first opening tag decides: if no
closing brace and closing tag follow it, none follow a later one. -/
def first? (tag : Tag) (text : List Char) : Option (List Char × Region × List Char) := do
  let (gap, opened) ← cut? tag.opener text
  let (inside, body) ← cut? ['}'] opened
  let (template, rest) ← cut? tag.closer body
  return (gap, ofInside inside template, rest)

theorem first?_sides {tag : Tag} {text gap rest : List Char} {region : Region}
    (found : first? tag text = some (gap, region, rest)) :
    text = gap ++ (region.text tag).toList ++ rest := by
  simp only [first?, Option.bind_eq_bind, Option.bind_eq_some_iff, Option.pure_def, Option.some.injEq,
    Prod.mk.injEq, Prod.exists] at found
  obtain ⟨before, opened, atOpener, inside, body, atBrace, template, after, atCloser, rfl, rfl, rfl⟩ := found
  rw [cut?_sides atOpener, cut?_sides atBrace, cut?_sides atCloser]
  have divided : inside.takeWhile isBlank ++ inside.dropWhile isBlank = inside :=
    List.takeWhile_append_dropWhile
  simp only [Region.text, ofInside, String.toList_ofList]
  generalize inside.takeWhile isBlank = blanks at divided ⊢
  generalize inside.dropWhile isBlank = selector at divided ⊢
  subst divided
  simp

theorem first?_shorter {tag : Tag} {text gap rest : List Char} {region : Region}
    (found : first? tag text = some (gap, region, rest)) : rest.length < text.length := by
  rw [first?_sides found]
  simp only [Region.text, Tag.opener, String.toList_ofList, List.length_append, List.length_cons]
  omega

end Region

/-- A text as its regions, each after the gap before it, and the tail after the last one. -/
structure Body where
  parts : List (String × Region)
  tail : String
  deriving DecidableEq

namespace Body

/-- The parts of a text after those already found, latest first. -/
def divideAfter (tag : Tag) (done : List (String × Region)) (text : List Char) : Body :=
  match _found : Region.first? tag text with
  | none => ⟨done.reverse, String.ofList text⟩
  | some (gap, region, rest) => divideAfter tag ((String.ofList gap, region) :: done) rest
termination_by text.length
decreasing_by exact Region.first?_shorter _found

/-- The regions of a text and the gaps around them. -/
def ofText (tag : Tag) (text : String) : Body :=
  divideAfter tag [] text.toList

/-- The gaps and the regions in order. -/
def text (tag : Tag) (body : Body) : String :=
  String.join (body.parts.map fun (gap, region) => gap ++ region.text tag) ++ body.tail

theorem text_divideAfter (tag : Tag) (done : List (String × Region)) (text : List Char) :
    (divideAfter tag done text).text tag =
      String.join (done.reverse.map fun (gap, region) => gap ++ region.text tag) ++ String.ofList text := by
  fun_induction divideAfter tag done text with
  | case1 done text _ => rfl
  | case2 done text gap region rest found step =>
    rw [step, Region.first?_sides found]
    simp [String.join_append, String.append_assoc]

theorem text_ofText (tag : Tag) (text : String) : (ofText tag text).text tag = text := by
  simp [ofText, text_divideAfter]

def regions (body : Body) : List Region :=
  body.parts.map (·.2)

/-- Whether there is a region at all. -/
def hasRegion (body : Body) : Bool :=
  !body.parts.isEmpty

/-- A region with the bytes of the text between which it stands. -/
structure Placed where
  region : Region
  start : Nat
  stop : Nat
  deriving DecidableEq

/-- The regions with their places, given those already placed and the byte after the last of them. -/
def placedAfter (tag : Tag) : List Placed × Nat → String × Region → List Placed × Nat
  | (done, cursor), (gap, region) =>
    let start := cursor + gap.utf8ByteSize
    let stop := start + (region.text tag).utf8ByteSize
    (⟨region, start, stop⟩ :: done, stop)

/-- The regions with their places in the text. -/
def placed (tag : Tag) (body : Body) : List Placed :=
  (body.parts.foldl (placedAfter tag) ([], 0)).1.reverse

end Body

end RecordFill

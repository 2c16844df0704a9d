import RecordFill.Record
import RecordFill.Text.Search

namespace RecordFill

/-- How class names begin, and whether anything is wrapped at all. -/
structure Styling where
  classPrefix : String := "wci_"
  enabled : Bool := false
  deriving DecidableEq

namespace Styling

def regionClass (styling : Styling) : String :=
  styling.classPrefix ++ "member_data"

def fieldClass (styling : Styling) (name : String) : String :=
  styling.classPrefix ++ "field-" ++ name

/-- An element of a class around its content. -/
def element (className content : String) : String :=
  "<span class=\"" ++ className ++ "\">" ++ content ++ "</span>"

/-- The text of a region, in an element when styling is on. -/
def wrapRegion (styling : Styling) (content : String) : String :=
  if styling.enabled then element styling.regionClass content else content

/-- The text of a field, in an element when styling is on. -/
def wrapField (styling : Styling) (name content : String) : String :=
  if styling.enabled then element (styling.fieldClass name) content else content

end Styling

end RecordFill

namespace RecordFill.Template

open Text (cut? cut?_shorter)

/-- The plain token of a field. -/
def plainToken (name : List Char) : List Char :=
  '[' :: name ++ [']']

/-- How the described tokens of a field begin. -/
def describedOpener (name : List Char) : List Char :=
  '[' :: name ++ [';']

theorem plainToken_ne_nil (name : List Char) : plainToken name ≠ [] := by
  simp [plainToken]

/-- The first described token of a field: what stands before it, its description, and what follows it. -/
def firstDescribed? (name text : List Char) : Option (List Char × List Char × List Char) := do
  let (before, body) ← cut? (describedOpener name) text
  let (description, rest) ← cut? [']'] body
  return (before, description, rest)

theorem firstDescribed?_shorter {name text before description rest : List Char}
    (found : firstDescribed? name text = some (before, description, rest)) : rest.length < text.length := by
  simp only [firstDescribed?, Option.bind_eq_bind, Option.bind_eq_some_iff, Option.pure_def, Option.some.injEq,
    Prod.mk.injEq, Prod.exists] at found
  obtain ⟨_, body, atOpener, _, _, atBracket, _, _, rfl⟩ := found
  exact Nat.lt_trans (cut?_shorter (by simp) atBracket) (cut?_shorter (by simp [describedOpener]) atOpener)

/-- The text with its described tokens made plain, after the parts already copied, latest first, and the first
description met. -/
def collapseAfter (name : List Char) (done : List (List Char)) (description : Option (List Char))
    (text : List Char) : List Char × Option (List Char) :=
  match _found : firstDescribed? name text with
  | none => ((text :: done).reverse.flatten, description)
  | some (before, here, rest) =>
    collapseAfter name (plainToken name :: before :: done) (description.or (some here)) rest
termination_by text.length
decreasing_by exact firstDescribed?_shorter _found

/-- The text with every described token of a field made plain, and the description of the first one. -/
def collapse (name text : List Char) : List Char × Option (List Char) :=
  collapseAfter name [] none text

/-- The text after one row's turn: every token of the row gives way to the description and the value. -/
def fillRow (styling : Styling) (text : List Char) (row : Row) : List Char :=
  let name := row.name.toList
  let (plain, description) := collapse name text
  let content := String.ofList (description.getD []) ++ row.value
  Text.replace (plainToken name) (plainToken_ne_nil name) (styling.wrapField row.name content).toList plain

/-- A template filled with the rows of a record; tokens that name no row stay as they are. -/
def fill (styling : Styling) (record : Record) (template : String) : String :=
  String.ofList (record.rows.foldl (fillRow styling) (styling.wrapRegion template).toList)

end RecordFill.Template

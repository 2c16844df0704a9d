import RecordFill.Like.Regex
import RecordFill.Text.Folding

namespace RecordFill.Like

open Text (fold)

/-- A value matches when it divides into consecutive parts, one for each piece. -/
inductive Matches : List Piece → List Char → Prop where
  | nil : Matches [] []
  | anyRun {pieces value} (run : List Char) : Matches pieces value → Matches (.anyRun :: pieces) (run ++ value)
  | anyOne {pieces value} (c : Char) : Matches pieces value → Matches (.anyOne :: pieces) (c :: value)
  | literal {pieces value} {expected found : Char} : fold found = fold expected → Matches pieces value →
      Matches (.literal expected :: pieces) (found :: value)

/-- A place of a segment: any character, or one that folds to a given character. -/
abbrev Slot := Option Char

/-- Whether a slot takes a folded character. -/
def Slot.takes (slot : Slot) (c : Char) : Bool :=
  slot.all (· == c)

/-- A pattern as its first segment and the segments after its runs. -/
structure Segments where
  first : List Slot := []
  later : List (List Slot) := []

/-- The segments of a pattern with one more piece in front. -/
def Segments.cons (piece : Piece) (segments : Segments) : Segments :=
  match piece with
  | .anyRun => { first := [], later := segments.first :: segments.later }
  | .anyOne => { segments with first := none :: segments.first }
  | .literal c => { segments with first := some (fold c) :: segments.first }

/-- The segments of a sequence of pieces. -/
def Segments.ofPieces (pieces : List Piece) : Segments :=
  pieces.foldr Segments.cons {}

/-- What follows a segment at the front of a folded value. -/
def afterFront? : List Slot → List Char → Option (List Char)
  | [], value => some value
  | _ :: _, [] => none
  | slot :: segment, c :: value => if slot.takes c then afterFront? segment value else none

/-- What follows the leftmost place of a segment in a folded value. -/
def afterFirst? (segment : List Slot) (value : List Char) : Option (List Char) :=
  match afterFront? segment value with
  | some rest => some rest
  | none =>
    match value with
    | [] => none
    | _ :: value => afterFirst? segment value

/-- Whether a folded value ends with a segment. -/
def endsWith (segment : List Slot) (value : List Char) : Bool :=
  segment.length ≤ value.length && (afterFront? segment (value.drop (value.length - segment.length))).isSome

/-- Whether a folded value has segments in their order, each after a run of any characters. After the last one
nothing may follow. -/
def acceptsLater (value : List Char) : List (List Slot) → Bool
  | [] => value.isEmpty
  | [last] => endsWith last value
  | segment :: later =>
    match afterFirst? segment value with
    | some rest => acceptsLater rest later
    | none => false

def Segments.accepts (segments : Segments) (value : List Char) : Bool :=
  match afterFront? segments.first value with
  | some rest => acceptsLater rest segments.later
  | none => false

/-- Whether a pattern matches the whole value. -/
def Pattern.accepts (pattern : Pattern) (value : String) : Bool :=
  (Segments.ofPieces pattern.pieces).accepts (value.toList.map fold)

end RecordFill.Like

import RecordFill.Yaml.Basic
import RecordFill.Yaml.Lexer

namespace RecordFill.Yaml

/-- What may stand before the content of a node: an anchor, and a tag with its handle. -/
structure Properties where
  anchor : Option String := none
  tag : Option (String × TagBytes) := none

def Properties.isEmpty (properties : Properties) : Bool :=
  properties.anchor.isNone && properties.tag.isNone

/-- The anchor of a node: its number, and how many definitions begin before it. -/
abbrev Anchor := Option (Nat × Nat)

/-- What the next node of a mapping is: a key, a key that can have no value, or the value of a key. -/
inductive Turn where
  | key
  | loneKey
  | value (key : Node)

/-- A collection that is open, with what it holds, latest first. A sequence in a mapping may have no
indentation of its own, and a flow sequence may hold pairs, each a mapping by itself. -/
inductive Frame where
  | document (explicit : Bool) (root : Option Node)
  | blockSequence (anchor : Anchor) (items : List Node)
  | flatSequence (anchor : Anchor) (items : List Node)
  | blockMapping (anchor : Anchor) (entries : List (Node × Node)) (turn : Turn)
  | flowSequence (anchor : Anchor) (items : List Node) (pair : Option Turn)
  | flowMapping (anchor : Anchor) (entries : List (Node × Node)) (turn : Turn)

namespace Frame

/-- The frame with one more node in its turn. -/
def fill (node : Node) : Frame → Frame
  | .document explicit _ => .document explicit (some node)
  | .blockSequence anchor items => .blockSequence anchor (node :: items)
  | .flatSequence anchor items => .flatSequence anchor (node :: items)
  | .blockMapping anchor entries (.value key) => .blockMapping anchor ((key, node) :: entries) .key
  | .blockMapping anchor entries _ => .blockMapping anchor entries (.value node)
  | .flowSequence anchor items none => .flowSequence anchor (node :: items) none
  | .flowSequence anchor items (some (.value key)) =>
    .flowSequence anchor (.mapping [(key, node)] :: items) none
  | .flowSequence anchor items (some _) => .flowSequence anchor items (some (.value node))
  | .flowMapping anchor entries .key => .flowMapping anchor entries (.value node)
  | .flowMapping anchor entries .loneKey => .flowMapping anchor ((node, .empty) :: entries) .key
  | .flowMapping anchor entries (.value key) => .flowMapping anchor ((key, node) :: entries) .key

/-- The frame after a node, when the token is no colon: a key without one has an empty value. -/
def settle (token : Token) (frame : Frame) : Frame :=
  if token = .value then frame
  else
    match frame with
    | .blockMapping _ _ (.value _) | .flowMapping _ _ (.value _) | .flowSequence _ _ (some (.value _)) =>
      frame.fill .empty
    | _ => frame

/-- The tokens before which a node of the frame may be missing. -/
def mayLack (frame : Frame) (token : Token) : Bool :=
  match frame, token with
  | .document true _, .documentEnd | .document true _, .textEnd => true
  | .blockSequence .., .entry | .blockSequence .., .blockEnd => true
  | .flatSequence .., .entry | .flatSequence .., .key | .flatSequence .., .value
  | .flatSequence .., .blockEnd => true
  | .blockMapping .., .key | .blockMapping .., .value | .blockMapping .., .blockEnd => true
  | .flowSequence _ _ (some .key), .value => true
  | .flowSequence _ _ (some _), .comma | .flowSequence _ _ (some _), .closeSequence => true
  | .flowMapping _ _ .key, .value => true
  | .flowMapping _ _ .loneKey, _ => false
  | .flowMapping .., .comma | .flowMapping .., .closeMapping => true
  | _, _ => false

/-- Whether block collections may stand in the frame. -/
def takesBlocks : Frame → Bool
  | .flowSequence .. | .flowMapping .. => false
  | _ => true

/-- Whether a sequence without indentation may stand in the frame. -/
def takesFlat : Frame → Bool
  | .blockMapping .. => true
  | _ => false

/-- Whether the key of a pair comes next. -/
def awaitsPairKey : Frame → Bool
  | .flowSequence _ _ (some .key) => true
  | _ => false

end Frame

/-- What may come next: the directives of a document, with whether there were any and whether one was a
version; the content of a node; a node or pair after an opening mark or a comma; or what follows a node. -/
inductive Expected where
  | directives (given versioned : Bool)
  | content (frames : List Frame) (properties : Properties)
  | item (frames : List Frame)
  | next (frames : List Frame)
  | nothing (root : Option Node)

/-- A document as far as it has been read: the handles of tags that it declares, its anchors' names with their
numbers, and the number of definitions begun. -/
structure Reader where
  expected : Expected := .directives false false
  handles : List (String × TagBytes) := []
  names : Std.HashMap String Nat := {}
  begun : Nat := 0
  definitions : Definitions := {}

namespace Reader

/-- The handles that need no declaration. -/
def commonHandles : List (String × TagBytes) :=
  [("!", bareTag), ("!!", commonTag "")]

/-- The full tag of a handle and a suffix. A handle has to be declared, and no handle leaves the suffix as it
is. -/
def fullTag? (reader : Reader) (handle : String) (suffix : TagBytes) : Option TagBytes :=
  if handle.isEmpty then some suffix
  else ((reader.handles ++ commonHandles).lookup handle).map (· ++ suffix)

/-- The full tag among properties, if there is one. -/
def resolveTag? (reader : Reader) (properties : Properties) : Option (Option TagBytes) :=
  match properties.tag with
  | none => some none
  | some (handle, suffix) => (reader.fullTag? handle suffix).map some

/-- The anchor among properties begins a definition, whose number is that of the names known before it. -/
def beginDefinition (reader : Reader) (properties : Properties) : Anchor × Reader :=
  match properties.anchor with
  | none => (none, reader)
  | some name =>
    let number := reader.names.size
    (some (number, reader.begun),
      { reader with names := reader.names.insert name number, begun := reader.begun + 1 })

/-- A finished node is kept as the definition of its anchor. -/
def define (reader : Reader) (anchor : Anchor) (node : Node) : Reader :=
  match anchor with
  | none => reader
  | some (number, order) => { reader with definitions := reader.definitions.add number ⟨order, node⟩ }

/-- A node takes its turn in the innermost frame. -/
def deliver (reader : Reader) (node : Node) : List Frame → Reader
  | [] => reader
  | frame :: frames => { reader with expected := .next (frame.fill node :: frames) }

/-- A scalar with its properties takes its turn. -/
def deliverScalar? (reader : Reader) (properties : Properties) (style : Style) (text : String)
    (frames : List Frame) : Option Reader := do
  let node : Node := .scalar (← reader.resolveTag? properties) style text
  let (anchor, reader) := reader.beginDefinition properties
  return (reader.define anchor node).deliver node frames

/-- A collection ends and takes its turn in the frame around it. -/
def close (reader : Reader) (anchor : Anchor) (node : Node) (frames : List Frame) : Reader :=
  (reader.define anchor node).deliver node frames

/-- A collection is opened by a token, and more of it is expected. -/
def openCollection? (reader : Reader) (properties : Properties) (frame : Anchor → Frame)
    (expected : List Frame → Expected) (frames : List Frame) : Option Reader := do
  let _ ← reader.resolveTag? properties
  let (anchor, reader) := reader.beginDefinition properties
  return { reader with expected := expected (frame anchor :: frames) }

/-- More content of the innermost frame is expected. -/
def awaitContent (reader : Reader) (frames : List Frame) : Reader :=
  { reader with expected := .content frames {} }

/-- The token that follows a node. A sequence without indentation ends where no entry follows. -/
def next? (reader : Reader) (token : Token) : List Frame → Option Reader
  | [] => none
  | frame :: frames =>
    match frame.settle token, token with
    | .document _ root, .textEnd => some { reader with expected := .nothing root }
    | .document explicit root, .documentEnd =>
      some { reader with expected := .next (.document explicit root :: frames) }
    | .blockSequence anchor items, .entry => some (reader.awaitContent (.blockSequence anchor items :: frames))
    | .blockSequence anchor items, .blockEnd => some (reader.close anchor (.sequence items.reverse) frames)
    | .flatSequence anchor items, .entry => some (reader.awaitContent (.flatSequence anchor items :: frames))
    | .flatSequence anchor items, token =>
      let node := .sequence items.reverse
      match frames with
      | [] => none
      | outer :: frames => (reader.define anchor node).next? token (outer.fill node :: frames)
    | .blockMapping anchor entries (.value key), .value =>
      some (reader.awaitContent (.blockMapping anchor entries (.value key) :: frames))
    | .blockMapping anchor entries .key, .key =>
      some (reader.awaitContent (.blockMapping anchor entries .key :: frames))
    | .blockMapping anchor entries .key, .blockEnd =>
      some (reader.close anchor (.mapping entries.reverse) frames)
    | .flowSequence anchor items (some (.value key)), .value =>
      some (reader.awaitContent (.flowSequence anchor items (some (.value key)) :: frames))
    | .flowSequence anchor items none, .comma =>
      some { reader with expected := .item (.flowSequence anchor items none :: frames) }
    | .flowSequence anchor items none, .closeSequence =>
      some (reader.close anchor (.sequence items.reverse) frames)
    | .flowMapping anchor entries (.value key), .value =>
      some (reader.awaitContent (.flowMapping anchor entries (.value key) :: frames))
    | .flowMapping anchor entries .key, .comma =>
      some { reader with expected := .item (.flowMapping anchor entries .key :: frames) }
    | .flowMapping anchor entries .key, .closeMapping =>
      some (reader.close anchor (.mapping entries.reverse) frames)
    | _, _ => none
termination_by frames => frames.length

/-- A token that begins no content: the node is empty, and the token follows it. Without properties a node may
be missing only before some tokens, and the key of a pair takes the token along. -/
def lack? (reader : Reader) (token : Token) (frames : List Frame) (properties : Properties) : Option Reader := do
  let frame ← frames.head?
  if properties.isEmpty && !frame.mayLack token then none else
  let filled ← reader.deliverScalar? properties .plain "" frames
  if properties.isEmpty && frame.awaitsPairKey then return filled else
  match filled.expected with
  | .next frames => filled.next? token frames
  | _ => none

/-- The token that begins or goes on with a node of the innermost frame. -/
def content? (reader : Reader) (token : Token) (frames : List Frame) (properties : Properties) :
    Option Reader :=
  let takesBlocks := frames.head?.any Frame.takesBlocks
  match token with
  | .reference name =>
    if properties.isEmpty then do
      return reader.deliver (.reference (← reader.names[name]?)) frames
    else none
  | .anchor name =>
    if properties.anchor.isNone then
      some { reader with expected := .content frames { properties with anchor := some name } }
    else none
  | .tag handle suffix =>
    if properties.tag.isNone then
      some { reader with expected := .content frames { properties with tag := some (handle, suffix) } }
    else none
  | .scalar style text => reader.deliverScalar? properties style text frames
  | .openSequence => reader.openCollection? properties (.flowSequence · [] none) .item frames
  | .openMapping => reader.openCollection? properties (.flowMapping · [] .key) .item frames
  | .blockSequence =>
    if takesBlocks then reader.openCollection? properties (.blockSequence · []) .next frames else none
  | .blockMapping =>
    if takesBlocks then reader.openCollection? properties (.blockMapping · [] .key) .next frames else none
  | .entry =>
    if frames.head?.any Frame.takesFlat then
      reader.openCollection? properties (.flatSequence · []) (.content · {}) frames
    else reader.lack? token frames properties
  | token => reader.lack? token frames properties

/-- The token after an opening mark or a comma of the innermost frame. -/
def item? (reader : Reader) (token : Token) : List Frame → Option Reader
  | .flowSequence anchor items pair :: frames =>
    match token with
    | .closeSequence => some (reader.close anchor (.sequence items.reverse) frames)
    | .key => some (reader.awaitContent (.flowSequence anchor items (some .key) :: frames))
    | token => reader.content? token (.flowSequence anchor items pair :: frames) {}
  | .flowMapping anchor entries _ :: frames =>
    match token with
    | .closeMapping => some (reader.close anchor (.mapping entries.reverse) frames)
    | .key => some (reader.awaitContent (.flowMapping anchor entries .key :: frames))
    | token => reader.content? token (.flowMapping anchor entries .loneKey :: frames) {}
  | _ => none

/-- A token among the directives, which end with the document's start. A document without any may do without
that mark, and may hold nothing at all. -/
def directive? (reader : Reader) (token : Token) (given versioned : Bool) : Option Reader :=
  match token with
  | .version major minor =>
    if !versioned && major = 1 && (minor = 1 || minor = 2) then
      some { reader with expected := .directives true true }
    else none
  | .handle handle beginning =>
    if (reader.handles.lookup handle).isNone then
      some { reader with
        handles := (handle, beginning) :: reader.handles
        expected := .directives true versioned }
    else none
  | .documentStart => some (reader.awaitContent [.document true none])
  | .textEnd => if given then none else some { reader with expected := .nothing none }
  | token => if given then none else reader.content? token [.document false none] {}

def step? (reader : Reader) (token : Token) : Option Reader :=
  match reader.expected with
  | .directives given versioned => reader.directive? token given versioned
  | .content frames properties => reader.content? token frames properties
  | .item frames => reader.item? token frames
  | .next frames => reader.next? token frames
  | .nothing _ => none

end Reader

/-- The only document that tokens write. -/
def Document.ofTokens? (tokens : List Token) : Option Document := do
  let reader ← tokens.foldlM Reader.step? {}
  match reader.expected with
  | .nothing root => return ⟨root, reader.definitions⟩
  | _ => none

def Document.read? (text : String) : Option Document := do
  Document.ofTokens? (← Token.ofText? text.toList)

end RecordFill.Yaml

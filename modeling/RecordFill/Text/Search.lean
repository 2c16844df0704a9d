namespace RecordFill.Text

/-- The first and last code points of each run of white space. -/
def blankRuns : List (Nat × Nat) :=
  [(0x09, 0x0D), (0x20, 0x20), (0x85, 0x85), (0xA0, 0xA0), (0x1680, 0x1680), (0x2000, 0x200A),
    (0x2028, 0x2029), (0x202F, 0x202F), (0x205F, 0x205F), (0x3000, 0x3000)]

/-- A blank lies in one of the runs of white space. -/
def isBlank (c : Char) : Bool :=
  blankRuns.any fun (first, last) => first ≤ c.toNat && c.toNat ≤ last

/-- The space and the five control characters from the tab to the carriage return. -/
def isAsciiBlank (c : Char) : Bool :=
  c = ' ' || ('\x09' ≤ c && c ≤ '\x0d')

/-- A text without the blanks around it. -/
def trim (text : List Char) : List Char :=
  ((text.dropWhile isBlank).reverse.dropWhile isBlank).reverse

/-- The rest of a text that begins with the word, and nothing for any other text. -/
def remainder? : (word text : List Char) → Option (List Char)
  | [], text => some text
  | _ :: _, [] => none
  | expected :: word, found :: text => if expected = found then remainder? word text else none

/-- A text has a remainder exactly when the word stands in front of it. -/
theorem remainder?_eq_some_iff {word text rest : List Char} :
    remainder? word text = some rest ↔ text = word ++ rest := by
  induction word generalizing text with
  | nil => simp [remainder?]
  | cons expected word step =>
    cases text with
    | nil => simp [remainder?]
    | cons found text =>
      by_cases same : expected = found
      · simp [remainder?, same, step]
      · simp [remainder?, same, Ne.symm same]

/-- The search for a word after the characters already passed, latest first. -/
def cutAfter (word passed : List Char) : List Char → Option (List Char × List Char)
  | [] => (remainder? word []).map (passed.reverse, ·)
  | next :: rest =>
    match remainder? word (next :: rest) with
    | some after => some (passed.reverse, after)
    | none => cutAfter word (next :: passed) rest

/-- The two sides of the first occurrence of a word. -/
def cut? (word text : List Char) : Option (List Char × List Char) :=
  cutAfter word [] text

theorem cutAfter_sides {word passed text before after : List Char}
    (found : cutAfter word passed text = some (before, after)) :
    passed.reverse ++ text = before ++ word ++ after := by
  induction text generalizing passed with
  | nil =>
    obtain ⟨rest, matched, same⟩ := Option.map_eq_some_iff.mp found
    obtain ⟨rfl, rfl⟩ := Prod.mk.inj same
    simpa using remainder?_eq_some_iff.mp matched
  | cons next rest step =>
    unfold cutAfter at found
    split at found
    · next after' matched =>
      obtain ⟨rfl, rfl⟩ := Prod.mk.inj (Option.some.inj found)
      rw [remainder?_eq_some_iff.mp matched, List.append_assoc]
    · simpa using step found

theorem cut?_sides {word text before after : List Char} (found : cut? word text = some (before, after)) :
    text = before ++ word ++ after := by
  simpa using cutAfter_sides found

theorem cut?_shorter {word text before after : List Char} (nonempty : word ≠ [])
    (found : cut? word text = some (before, after)) : after.length < text.length := by
  have positive := List.length_pos_iff.mpr nonempty
  rw [cut?_sides found]
  simp only [List.length_append]
  omega

/-- The pieces of a text after those already found, latest first. -/
def piecesAfter (word : List Char) (nonempty : word ≠ []) (found : List (List Char)) (text : List Char) :
    List (List Char) :=
  match _cut : cut? word text with
  | none => (text :: found).reverse
  | some (before, after) => piecesAfter word nonempty (before :: found) after
termination_by text.length
decreasing_by exact cut?_shorter nonempty _cut

/-- The pieces of a text between the occurrences of a word, of which there is always one. -/
def pieces (word : List Char) (nonempty : word ≠ []) (text : List Char) : List (List Char) :=
  piecesAfter word nonempty [] text

/-- A text in which every occurrence of a word, from left to right, gives way to another. -/
def replace (word : List Char) (nonempty : word ≠ []) (replacement text : List Char) : List Char :=
  replacement.intercalate (pieces word nonempty text)

def byteLength (text : List Char) : Nat :=
  text.foldr (fun c bytes => c.utf8Size + bytes) 0

end RecordFill.Text

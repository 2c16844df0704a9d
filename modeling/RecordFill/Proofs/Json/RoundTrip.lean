import RecordFill.Json.Text
import RecordFill.Proofs.Json.Token

namespace RecordFill.Json

/-- A scalar that is read back as it was: a word, an integer of at most twenty digits, or a text. -/
inductive Scalar.Readable : Scalar → Prop where
  | null : Readable .null
  | bool (value : Bool) : Readable (.bool value)
  | integer {value : Int} (short : (Nat.toDigits 10 value.natAbs).length ≤ integerDigits) : Readable (.integer value)
  | text (text : String) : Readable (.string (.text text))

/-- A value whose keys are texts and whose scalars are all read back as they were. -/
inductive Value.Readable : Value → Prop where
  | scalar {scalar : Scalar} (readable : scalar.Readable) : Readable (.scalar scalar)
  | array {items : List Value} (readable : ∀ item ∈ items, Readable item) : Readable (.array items)
  | object {members : List (Content × Value)} (keys : ∀ member ∈ members, ∃ text, member.1 = .text text)
      (readable : ∀ member ∈ members, Readable member.2) : Readable (.object members)

mutual

def Value.tokens : Value → List Token
  | .scalar scalar => [.scalar scalar]
  | .array [] => [.openArray, .closeArray]
  | .array (first :: rest) => .openArray :: (first.tokens ++ (itemTokens rest ++ [.closeArray]))
  | .object [] => [.openObject, .closeObject]
  | .object ((key, value) :: rest) =>
    .openObject :: ([.scalar (.string key)] ++ .colon :: (value.tokens ++ (memberTokens rest ++ [.closeObject])))

def itemTokens : List Value → List Token
  | [] => []
  | item :: rest => .comma :: (item.tokens ++ itemTokens rest)

def memberTokens : List (Content × Value) → List Token
  | [] => []
  | (key, value) :: rest => .comma :: ([.scalar (.string key)] ++ .colon :: (value.tokens ++ memberTokens rest))

end

section Printing

theorem isSpace_of_mem_lineStart {layout : Layout} {depth : Nat} {c : Char} (member : c ∈ layout.lineStart depth) :
    isSpace c = true := by
  cases layout with
  | compact => contradiction
  | indented =>
    rcases List.mem_cons.mp member with rfl | member
    · rfl
    · rw [List.eq_of_mem_replicate member]
      rfl

theorem endsNumber_lineStart (layout : Layout) (depth : Nat) : EndsNumber (layout.lineStart depth) :=
  endsNumber_of_isSpace fun _ => isSpace_of_mem_lineStart

/-- A scalar that is read back spells itself. -/
theorem Scalar.Readable.spells {scalar : Scalar} (readable : scalar.Readable) :
    Spells scalar.print [.scalar scalar] := by
  cases readable with
  | null => exact .single fun rest _ => Token.next?_of_word (by simp [words, Scalar.print]) rest
  | bool value =>
    have listed : (Scalar.print (.bool value), .bool value) ∈ words := by cases value <;> simp [words, Scalar.print]
    exact .single fun rest _ => Token.next?_of_word listed rest
  | integer short => exact .integer short
  | text text => exact .quoted text

variable {layout : Layout}

theorem endsNumber_printItems (depth : Nat) (items : List Value) : EndsNumber (printItems layout depth items) := by
  cases items with
  | nil => exact endsNumber_nil
  | cons item items => exact endsNumber_cons rfl _

theorem endsNumber_printMembers (depth : Nat) (members : List (Content × Value)) :
    EndsNumber (printMembers layout depth members) := by
  cases members with
  | nil => exact endsNumber_nil
  | cons member members => exact endsNumber_cons rfl _

/-- What closes an array or an object comes behind its parts, on a line of its own. -/
theorem spells_closed (layout : Layout) {text : List Char} {tokens : List Token} {c : Char} {token : Token}
    (found : ∀ rest, Token.next? (c :: rest) = some (token, rest)) (stops : continuesNumber c = false)
    (spells : Spells text tokens) (ends : EndsNumber text) (depth : Nat) :
    Spells (text ++ (layout.lineStart depth ++ [c])) (tokens ++ [token]) ∧
      EndsNumber (text ++ (layout.lineStart depth ++ [c])) := by
  have endsClose : EndsNumber (layout.lineStart depth ++ [c]) :=
    (endsNumber_lineStart layout depth).append (endsNumber_cons stops [])
  have close : Spells (layout.lineStart depth ++ [c]) [token] :=
    .blanks (fun _ member => isSpace_of_mem_lineStart member) (.mark found .nil)
  exact ⟨spells.append close endsClose, ends.append endsClose⟩

/-- Items behind the first one spell their tokens if each of them does. -/
theorem spells_printItems {depth : Nat} {items : List Value}
    (spells : ∀ item ∈ items, Spells (item.print layout depth) item.tokens) :
    Spells (printItems layout depth items) (itemTokens items) := by
  induction items with
  | nil => exact .nil
  | cons item items step =>
    have here := spells item List.mem_cons_self
    have behind := step fun other member => spells other (List.mem_cons_of_mem _ member)
    rw [printItems, itemTokens]
    simp only [List.cons_append, List.append_assoc]
    exact .mark (fun _ => rfl) (.blanks (fun _ member => isSpace_of_mem_lineStart member)
      (here.append behind (endsNumber_printItems depth items)))

/-- A key and its value spell their tokens in front of what spells others. -/
theorem spells_member {depth : Nat} {key : Content} {value : Value} {behind : List Char} {tokens : List Token}
    (text : ∃ text, key = .text text) (spells : Spells (value.print layout depth) value.tokens)
    (spellsBehind : Spells behind tokens) (ends : EndsNumber behind) :
    Spells (layout.lineStart depth ++ (key.quoted ++ (layout.colon ++ (value.print layout depth ++ behind))))
      ([.scalar (.string key)] ++ .colon :: (value.tokens ++ tokens)) := by
  obtain ⟨text, rfl⟩ := text
  have whole := spells.append spellsBehind ends
  have colon : Spells (layout.colon ++ (value.print layout depth ++ behind)) (.colon :: (value.tokens ++ tokens)) := by
    cases layout with
    | compact => exact .mark (fun _ => rfl) whole
    | indented =>
      have blank : ∀ c ∈ [' '], isSpace c = true := List.forall_mem_singleton.mpr rfl
      exact .mark (fun _ => rfl) (.blanks blank whole)
  have stops : EndsNumber (layout.colon ++ (value.print layout depth ++ behind)) := by
    cases layout with
    | compact => exact endsNumber_cons rfl _
    | indented => exact endsNumber_cons rfl _
  exact .blanks (fun _ member => isSpace_of_mem_lineStart member) ((Spells.quoted text).append colon stops)

/-- Members behind the first one spell their tokens if each of them does. -/
theorem spells_printMembers {depth : Nat} {members : List (Content × Value)}
    (keys : ∀ member ∈ members, ∃ text, member.1 = .text text)
    (spells : ∀ member ∈ members, Spells (member.2.print layout depth) member.2.tokens) :
    Spells (printMembers layout depth members) (memberTokens members) := by
  induction members with
  | nil => exact .nil
  | cons member members step =>
    obtain ⟨key, value⟩ := member
    have behind := step (fun other member => keys other (List.mem_cons_of_mem _ member))
      fun other member => spells other (List.mem_cons_of_mem _ member)
    have here := spells_member (keys _ List.mem_cons_self) (spells _ List.mem_cons_self) behind
      (endsNumber_printMembers depth members)
    rw [printMembers, memberTokens]
    simp only [List.cons_append, List.append_assoc]
    exact .mark (fun _ => rfl) here

/-- A printed value spells its tokens. -/
theorem Value.Readable.spells {value : Value} (readable : value.Readable) :
    ∀ depth, Spells (value.print layout depth) value.tokens := by
  induction readable with
  | scalar readable =>
    intro depth
    rw [Value.print, Value.tokens]
    exact readable.spells
  | @array items _ step =>
    intro depth
    cases items with
    | nil =>
      rw [Value.print, Value.tokens]
      exact .mark (fun _ => rfl) (.mark (fun _ => rfl) .nil)
    | cons first items =>
      have here := step first List.mem_cons_self (depth + 1)
      have others := spells_printItems fun item member => step item (List.mem_cons_of_mem _ member) (depth + 1)
      have close : ∀ rest, Token.next? (']' :: rest) = some (.closeArray, rest) := fun _ => rfl
      obtain ⟨behind, ends⟩ :=
        spells_closed layout close rfl others (endsNumber_printItems (depth + 1) items) depth
      rw [Value.print, Value.tokens]
      simp only [List.cons_append, List.append_assoc]
      exact .mark (fun _ => rfl) (.blanks (fun _ member => isSpace_of_mem_lineStart member)
        (here.append behind ends))
  | @object members keys _ step =>
    intro depth
    cases members with
    | nil =>
      rw [Value.print, Value.tokens]
      exact .mark (fun _ => rfl) (.mark (fun _ => rfl) .nil)
    | cons member members =>
      obtain ⟨key, value⟩ := member
      have others := spells_printMembers (fun other member => keys other (List.mem_cons_of_mem _ member))
        fun other member => step other (List.mem_cons_of_mem _ member) (depth + 1)
      have close : ∀ rest, Token.next? ('}' :: rest) = some (.closeObject, rest) := fun _ => rfl
      obtain ⟨behind, ends⟩ :=
        spells_closed layout close rfl others (endsNumber_printMembers (depth + 1) members) depth
      have here := spells_member (keys _ List.mem_cons_self) (step _ List.mem_cons_self (depth + 1)) behind ends
      rw [Value.print, Value.tokens]
      simp only [List.cons_append, List.append_assoc]
      exact .mark (fun _ => rfl) here

end Printing

section Reading

open Expected

/-- The first item of an array is begun like any other value. -/
theorem foldlM_firstItem (value : Value) (frames : List Frame) :
    value.tokens.foldlM step? (.firstItem frames) = value.tokens.foldlM step? (.anyValue (.item [] :: frames)) := by
  cases value with
  | scalar scalar => rfl
  | array items => cases items <;> rfl
  | object members => cases members <;> rfl

mutual

/-- The tokens of a value are read as the value. -/
theorem foldlM_tokens : (value : Value) → (frames : List Frame) →
    value.tokens.foldlM step? (.anyValue frames) = some (deliver value frames)
  | .scalar _, _ => rfl
  | .array [], _ => rfl
  | .object [], _ => rfl
  | .array (first :: rest), frames => by
    have begun : step? (.anyValue frames) .openArray = some (.firstItem frames) := rfl
    have close (done : List Value) :
        step? (.afterItem done frames) .closeArray = some (deliver (.array done.reverse) frames) := rfl
    rw [Value.tokens, List.foldlM_cons, begun]
    simp only [Option.bind_eq_bind, Option.bind_some, List.foldlM_append, foldlM_firstItem, foldlM_tokens first,
      deliver, foldlM_itemTokens rest, List.foldlM_cons, List.foldlM_nil, close, List.reverse_append,
      List.reverse_reverse, List.reverse_singleton, List.singleton_append, Option.pure_def]
  | .object ((key, value) :: rest), frames => by
    have begun : step? (.anyValue frames) .openObject = some (.firstKey frames) := rfl
    have keyed : step? (.firstKey frames) (.scalar (.string key)) = some (.colonAfter [] key frames) := rfl
    have colon : step? (.colonAfter [] key frames) .colon = some (.anyValue (.member [] key :: frames)) := rfl
    have close (done : List (Content × Value)) :
        step? (.afterMember done frames) .closeObject = some (deliver (.object done.reverse) frames) := rfl
    rw [Value.tokens, List.foldlM_cons, begun]
    simp only [Option.bind_eq_bind, Option.bind_some, List.singleton_append, List.foldlM_cons, keyed, colon,
      List.foldlM_append, foldlM_tokens value, deliver, foldlM_memberTokens rest, List.foldlM_nil, close,
      List.reverse_append, List.reverse_reverse, List.reverse_singleton, Option.pure_def]

/-- The tokens of further items are read as these. -/
theorem foldlM_itemTokens : (items done : List Value) → (frames : List Frame) →
    (itemTokens items).foldlM step? (.afterItem done frames) = some (.afterItem (items.reverse ++ done) frames)
  | [], _, _ => rfl
  | item :: rest, done, frames => by
    have comma : step? (.afterItem done frames) .comma = some (.anyValue (.item done :: frames)) := rfl
    rw [itemTokens, List.foldlM_cons, comma]
    simp only [Option.bind_eq_bind, Option.bind_some, List.foldlM_append, foldlM_tokens item, deliver,
      foldlM_itemTokens rest, List.reverse_cons, List.append_assoc, List.singleton_append]

/-- The tokens of further members are read as these. -/
theorem foldlM_memberTokens : (members done : List (Content × Value)) → (frames : List Frame) →
    (memberTokens members).foldlM step? (.afterMember done frames) =
      some (.afterMember (members.reverse ++ done) frames)
  | [], _, _ => rfl
  | (key, value) :: rest, done, frames => by
    have comma : step? (.afterMember done frames) .comma = some (.nextKey done frames) := rfl
    have keyed : step? (.nextKey done frames) (.scalar (.string key)) = some (.colonAfter done key frames) := rfl
    have colon : step? (.colonAfter done key frames) .colon = some (.anyValue (.member done key :: frames)) := rfl
    rw [memberTokens, List.foldlM_cons, comma]
    simp only [Option.bind_eq_bind, Option.bind_some, List.singleton_append, List.foldlM_cons, keyed, colon,
      List.foldlM_append, foldlM_tokens value, deliver, foldlM_memberTokens rest, List.reverse_cons,
      List.append_assoc]

end

/-- A printed value is read back in front of blanks. -/
theorem Value.Readable.read?_toText_append {value : Value} (readable : value.Readable) (layout : Layout)
    {spaces : String} (blank : ∀ c ∈ spaces.toList, isSpace c = true) :
    Value.read? (value.toText layout ++ spaces) = some value := by
  have printed : Spells (value.print layout 0) value.tokens := readable.spells 0
  have behind : Spells (spaces.toList ++ []) [] := .blanks blank .nil
  rw [List.append_nil] at behind
  have spells := printed.append behind (endsNumber_of_isSpace blank)
  rw [List.append_nil] at spells
  have whole : value.tokens.foldlM step? (.anyValue []) = some (.nothing value) := foldlM_tokens value []
  rw [Value.read?, Value.toText, String.toList_append, String.toList_ofList, spells.read?]
  simp only [Option.bind_eq_bind, Option.bind_some, Value.ofTokens?, whole]

end Reading

end RecordFill.Json

import RecordFill.Proofs.Region.Extraction

namespace RecordFill

namespace Text

theorem FirstCut.append {word text before after : List Char} (cut : FirstCut word text before after)
    (more : List Char) : FirstCut word (text ++ more) before (after ++ more) where
  divides := by rw [cut.divides, List.append_assoc]
  first := by
    intro earlier later divides
    refine Nat.le_of_not_lt fun shorter => ?_
    have long := congrArg List.length cut.divides
    simp only [List.length_append] at long
    have inFront : earlier ++ word <+: text := by
      apply List.prefix_of_prefix_length_le (divides ▸ List.prefix_append _ later) (List.prefix_append text more)
      rw [List.length_append]
      omega
    obtain ⟨behind, occurs⟩ := inFront
    have := cut.first earlier behind occurs.symm
    omega

/-- A word that a search has found is found in the same place when the text goes on. -/
theorem cut?_append_of_some {word text before after : List Char} (found : cut? word text = some (before, after))
    (more : List Char) : cut? word (text ++ more) = some (before, after ++ more) :=
  cut?_eq_some_iff.mpr ((cut?_eq_some_iff.mp found).append more)

/-- No occurrence of a word begins in a text that goes on. -/
def NoneBegins (word text more : List Char) : Prop :=
  ∀ passed < text.length, ¬ word <+: text.drop passed ++ more

instance (word text more : List Char) : Decidable (NoneBegins word text more) :=
  inferInstanceAs (Decidable (∀ passed < text.length, ¬ word <+: text.drop passed ++ more))

/-- Where no word begins the search goes on behind. -/
theorem cut?_append_of_noneBegins {word text more : List Char} (absent : NoneBegins word text more) :
    cut? word (text ++ more) = (cut? word more).map fun sides => (text ++ sides.1, sides.2) := by
  induction text with
  | nil => simp
  | cons next rest step =>
    have here : remainder? word (next :: (rest ++ more)) = none := by
      cases front : remainder? word (next :: (rest ++ more)) with
      | none => rfl
      | some after =>
        have begins := absent 0 (Nat.succ_pos _)
        exact absurd ⟨after, (remainder?_eq_some_iff.mp front).symm⟩ begins
    have behind : NoneBegins word rest more := by
      intro passed within
      exact absent (passed + 1) (Nat.succ_lt_succ within)
    rw [List.cons_append, cut?_cons, here, step behind]
    cases cut? word more <;> rfl

/-- In bytes, a word begins at none between the start and the end of the text. -/
theorem noneBegins_iff_not_beginsAt {word : List Char} {front text more : String} :
    NoneBegins word text.toList more.toList ↔
      ∀ position, front.utf8ByteSize ≤ position → position < (front ++ text).utf8ByteSize →
        ¬ BeginsAt word (front ++ text ++ more) position := by
  constructor
  · intro absent position reached inside begun
    obtain ⟨before, after, occurs, place⟩ := begun
    rw [String.append_assoc, String.append_assoc] at occurs
    obtain ⟨passed, rfl, behind⟩ := exists_between occurs (place ▸ reached)
    have shorter : passed.toList.length < text.toList.length := by
      apply (utf8ByteSize_lt_iff behind.symm).mp
      rw [← place, String.utf8ByteSize_append, String.utf8ByteSize_append] at inside
      omega
    apply absent passed.toList.length shorter
    have chars := congrArg (List.drop passed.toList.length) (congrArg String.toList behind)
    rw [String.toList_append, String.toList_append, List.drop_left,
      List.drop_append_of_le_length (Nat.le_of_lt shorter)] at chars
    exact ⟨after.toList, by rw [chars]; simp⟩
  · intro absent passed within begun
    obtain ⟨after, begins⟩ := begun
    let before := String.ofList (text.toList.take passed)
    have divided : before ++ String.ofList (text.toList.drop passed) = text ++ "" := by
      rw [← String.ofList_append, List.take_append_drop, String.ofList_toList, String.append_empty]
    have shorter : before.utf8ByteSize < text.utf8ByteSize := by
      apply (utf8ByteSize_lt_iff divided).mpr
      rw [String.toList_ofList, List.length_take]
      omega
    apply absent (front ++ before).utf8ByteSize
    · rw [String.utf8ByteSize_append]
      omega
    · rw [String.utf8ByteSize_append, String.utf8ByteSize_append]
      omega
    · refine ⟨front ++ before, String.ofList after, ?_, rfl⟩
      rw [← String.toList_inj]
      simp only [before, String.toList_append, String.toList_ofList, List.append_assoc, begins]
      rw [← List.append_assoc (text.toList.take passed), List.take_append_drop]

end Text

open Text (BeginsAt NoneBegins cut? cut?_append_of_some cut?_append_of_noneBegins noneBegins_iff_not_beginsAt)

namespace Region

/-- A region that is found stays the first one when the text goes on. -/
theorem first?_append_of_some {tag : Tag} {text gap rest : List Char} {region : Region}
    (found : first? tag text = some (gap, region, rest)) (more : List Char) :
    first? tag (text ++ more) = some (gap, region, rest ++ more) := by
  simp only [first?, Option.bind_eq_bind, Option.bind_eq_some_iff, Option.pure_def, Option.some.injEq,
    Prod.mk.injEq, Prod.exists] at found
  obtain ⟨before, opened, opening, inside, body, brace, template, after, closing, rfl, rfl, rfl⟩ := found
  simp only [first?, cut?_append_of_some opening more, cut?_append_of_some brace more,
    cut?_append_of_some closing more, Option.bind_eq_bind, Option.bind_some, Option.pure_def]

/-- Where no opening tag begins the first region is that of what follows. -/
theorem first?_append_of_noneBegins {tag : Tag} {text more : List Char} (absent : NoneBegins tag.opener text more) :
    first? tag (text ++ more) = (first? tag more).map fun sides => (text ++ sides.1, sides.2) := by
  rw [first?, first?, cut?_append_of_noneBegins absent]
  cases opening : cut? tag.opener more with
  | none => rfl
  | some sides =>
    simp only [Option.map_some, Option.bind_eq_bind, Option.bind_some]
    cases brace : cut? ['}'] sides.2 with
    | none => rfl
    | some inside =>
      simp only [Option.bind_some]
      cases cut? tag.closer inside.2 <;> rfl

end Region

namespace Body

/-- A divided text followed by another one: the tail of the first goes on as the first gap of the second. -/
def followedBy (body : Body) : Body → Body
  | ⟨[], tail⟩ => ⟨body.parts, body.tail ++ tail⟩
  | ⟨(gap, region) :: parts, tail⟩ => ⟨body.parts ++ (body.tail ++ gap, region) :: parts, tail⟩

theorem followedBy_cons (gap : String) (region : Region) (parts : List (String × Region)) (tail : String)
    (body : Body) : followedBy ⟨(gap, region) :: parts, tail⟩ body =
      ⟨(gap, region) :: (followedBy ⟨parts, tail⟩ body).parts, (followedBy ⟨parts, tail⟩ body).tail⟩ := by
  obtain ⟨parts', tail'⟩ := body
  cases parts' <;> rfl

/-- A text that goes on is divided as its two parts are, if no opening tag begins behind the last region of the
first. -/
theorem divideAfter_append {tag : Tag} {text more : List Char}
    (absent : NoneBegins tag.opener (divideAfter tag [] text).tail.toList more) :
    divideAfter tag [] (text ++ more) = (divideAfter tag [] text).followedBy (divideAfter tag [] more) := by
  induction size : text.length using Nat.strongRecOn generalizing text with
  | ind length step =>
    cases first : Region.first? tag text with
    | none =>
      rw [divideAfter_of_none first] at absent ⊢
      rw [String.toList_ofList] at absent
      have further := Region.first?_append_of_noneBegins absent
      cases next : Region.first? tag more with
      | none =>
        rw [next, Option.map_none] at further
        rw [divideAfter_of_none further, divideAfter_of_none next, String.ofList_append]
        rfl
      | some sides =>
        obtain ⟨gap, region, rest⟩ := sides
        rw [next, Option.map_some] at further
        rw [divideAfter_of_some further, divideAfter_of_some next, String.ofList_append]
        rfl
    | some sides =>
      obtain ⟨gap, region, rest⟩ := sides
      have shorter : rest.length < length := size ▸ Region.first?_shorter first
      rw [divideAfter_of_some first] at absent ⊢
      rw [divideAfter_of_some (Region.first?_append_of_some first more), step rest.length shorter absent rfl,
        followedBy_cons]

/-- A region at a place so many bytes further on. -/
def Placed.shift (bytes : Nat) (placed : Placed) : Placed :=
  { placed with start := placed.start + bytes, stop := placed.stop + bytes }

theorem placedFrom_append (tag : Tag) (cursor : Nat) (parts others : List (String × Region)) :
    placedFrom tag cursor (parts ++ others) =
      placedFrom tag cursor parts ++ placedFrom tag (stopOf cursor (placedFrom tag cursor parts)) others := by
  induction parts generalizing cursor with
  | nil => rfl
  | cons part parts step =>
    rw [List.cons_append, placedFrom, placedFrom, step, List.cons_append]
    rfl

/-- A longer gap places the regions behind it as a later byte does. -/
theorem placedFrom_gap (tag : Tag) (cursor : Nat) (front gap : String) (region : Region)
    (parts : List (String × Region)) :
    placedFrom tag cursor ((front ++ gap, region) :: parts) =
      placedFrom tag (cursor + front.utf8ByteSize) ((gap, region) :: parts) := by
  simp only [placedFrom, String.utf8ByteSize_append, Nat.add_assoc]

theorem placedFrom_add (tag : Tag) (cursor bytes : Nat) (parts : List (String × Region)) :
    placedFrom tag (cursor + bytes) parts = (placedFrom tag cursor parts).map (Placed.shift bytes) := by
  induction parts generalizing cursor with
  | nil => rfl
  | cons part parts step =>
    have start : cursor + bytes + part.1.utf8ByteSize = cursor + part.1.utf8ByteSize + bytes := by omega
    have stop : cursor + part.1.utf8ByteSize + bytes + (part.2.text tag).utf8ByteSize =
        cursor + part.1.utf8ByteSize + (part.2.text tag).utf8ByteSize + bytes := by omega
    simp only [placedFrom, start, stop, step, List.map_cons, Placed.shift]

theorem stopOf_placedFrom (tag : Tag) (cursor : Nat) (parts : List (String × Region)) (tail : String) :
    stopOf cursor (placedFrom tag cursor parts) + tail.utf8ByteSize =
      cursor + (Body.text tag ⟨parts, tail⟩).utf8ByteSize := by
  induction parts generalizing cursor with
  | nil => simp [placedFrom, stopOf, Body.text]
  | cons part parts step =>
    obtain ⟨gap, region⟩ := part
    rw [placedFrom, stopOf, step, text_cons, String.utf8ByteSize_append, String.utf8ByteSize_append]
    dsimp only
    omega

theorem stopOf_placed (tag : Tag) (text : String) :
    stopOf 0 ((ofText tag text).placed tag) + (ofText tag text).tail.utf8ByteSize = text.utf8ByteSize := by
  have whole := stopOf_placedFrom tag 0 (ofText tag text).parts (ofText tag text).tail
  rw [Nat.zero_add] at whole
  rw [placed_eq_placedFrom, whole]
  exact congrArg String.utf8ByteSize (text_ofText tag text)

/-- No opening tag begins in the first of two texts put together, behind its last region. -/
def Separate (tag : Tag) (text more : String) : Prop :=
  ∀ position, stopOf 0 ((ofText tag text).placed tag) ≤ position → position < text.utf8ByteSize →
    ¬ BeginsAt tag.opener (text ++ more) position

/-- The tail behind the last region is where no opening tag may begin. -/
theorem separate_iff {tag : Tag} {text more : String} :
    Separate tag text more ↔ NoneBegins tag.opener (ofText tag text).tail.toList more.toList := by
  have bytes := stopOf_placed tag text
  obtain ⟨front, whole⟩ : ∃ front, front ++ (ofText tag text).tail = text := ⟨_, text_ofText tag text⟩
  unfold Separate
  generalize stopOf 0 ((ofText tag text).placed tag) = stop at bytes ⊢
  generalize (ofText tag text).tail = tail at bytes whole ⊢
  subst whole
  obtain rfl : front.utf8ByteSize = stop := by
    rw [String.utf8ByteSize_append] at bytes
    omega
  exact noneBegins_iff_not_beginsAt.symm

/-- Where no opening tag begins behind the last region of the first of two texts, the regions of both together are
those of the first and those of the second further on. -/
theorem placed_append {tag : Tag} {text more : String} (separate : Separate tag text more) :
    (ofText tag (text ++ more)).placed tag =
      (ofText tag text).placed tag ++ ((ofText tag more).placed tag).map (Placed.shift text.utf8ByteSize) := by
  have divided := divideAfter_append (separate_iff.mp separate)
  have bytes := stopOf_placed tag text
  simp only [placed_eq_placedFrom] at bytes ⊢
  rw [ofText, String.toList_append, divided]
  change stopOf 0 (placedFrom tag 0 (divideAfter tag [] text.toList).parts) +
    (divideAfter tag [] text.toList).tail.utf8ByteSize = _ at bytes
  change _ = placedFrom tag 0 (divideAfter tag [] text.toList).parts ++
    (placedFrom tag 0 (divideAfter tag [] more.toList).parts).map _
  rw [← placedFrom_add, Nat.zero_add, ← bytes]
  generalize divideAfter tag [] text.toList = body
  obtain ⟨parts, tail⟩ := divideAfter tag [] more.toList
  cases parts with
  | nil => simp [followedBy, placedFrom]
  | cons part parts =>
    rw [followedBy, placedFrom_append, placedFrom_gap]

end Body

end RecordFill

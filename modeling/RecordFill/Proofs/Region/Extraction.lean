import RecordFill.Proofs.Region.Pattern
import RecordFill.Proofs.Text.Bytes

namespace RecordFill.Body

open Text (BeginsAt exists_between firstCut_iff_not_beginsAt sides_eq_of_size_eq)

/-- A region stands in a text between two bytes, both of them on boundaries of characters. -/
def Placed.StandsIn (tag : Tag) (text : String) (placed : Placed) : Prop :=
  ∃ before after : String,
    text = before ++ placed.region.text tag ++ after ∧
    before.utf8ByteSize = placed.start ∧
    (before ++ placed.region.text tag).utf8ByteSize = placed.stop ∧
    placed.region.StandsBefore tag after.toList

/-- The byte after the last region, or the one from which regions are sought. -/
def stopOf (cursor : Nat) : List Placed → Nat
  | [] => cursor
  | placed :: rest => stopOf placed.stop rest

/-- Placed regions are those of a text from a byte on: they stand in the text, one after another; no opening
tag begins in the gap before one of them; and behind the last one no further region could be completed. -/
structure Extraction (tag : Tag) (text : String) (cursor : Nat) (found : List Placed) : Prop where
  stands : ∀ placed ∈ found, placed.StandsIn tag text
  starts : ∀ placed ∈ found, cursor ≤ placed.start
  ordered : found.Pairwise fun earlier later => earlier.start < later.start ∧ earlier.stop ≤ later.start
  gaps : ∀ earlier next later, found = earlier ++ next :: later →
    ∀ position, stopOf cursor earlier ≤ position → position < next.start →
      ¬ BeginsAt tag.opener text position
  tail : ∀ before after : String, text = before ++ after → before.utf8ByteSize = stopOf cursor found →
    ¬ Region.Completes tag after.toList

/-- The regions of parts with their places, the first gap beginning at a byte. -/
def placedFrom (tag : Tag) (cursor : Nat) : List (String × Region) → List Placed
  | [] => []
  | (gap, region) :: parts =>
    let start := cursor + gap.utf8ByteSize
    let stop := start + (region.text tag).utf8ByteSize
    ⟨region, start, stop⟩ :: placedFrom tag stop parts

theorem foldl_placedAfter (tag : Tag) (done : List Placed) (cursor : Nat) (parts : List (String × Region)) :
    (parts.foldl (placedAfter tag) (done, cursor)).1 = (placedFrom tag cursor parts).reverse ++ done := by
  induction parts generalizing done cursor with
  | nil => rfl
  | cons part parts step =>
    rw [List.foldl_cons, placedAfter, step, placedFrom, List.reverse_cons, List.append_assoc]
    rfl

theorem placed_eq_placedFrom (tag : Tag) (body : Body) : body.placed tag = placedFrom tag 0 body.parts := by
  rw [placed, foldl_placedAfter, List.append_nil, List.reverse_reverse]

/-- A region takes up at least one byte. -/
theorem Placed.StandsIn.start_lt_stop {tag : Tag} {text : String} {placed : Placed}
    (stands : placed.StandsIn tag text) : placed.start < placed.stop := by
  obtain ⟨before, after, -, starts, stops, -⟩ := stands
  have nonempty : placed.region.text tag ≠ "" := by
    intro empty
    have chars := congrArg String.toList empty
    simp [Region.text, Tag.opener] at chars
  have bytes : (placed.region.text tag).utf8ByteSize ≠ 0 :=
    fun none => nonempty (String.utf8ByteSize_eq_zero_iff.mp none)
  rw [String.utf8ByteSize_append, starts] at stops
  omega

/-- No placed region is left exactly when none can be completed. -/
theorem extraction_nil_iff {tag : Tag} {text : String} {cursor : Nat} :
    Extraction tag text cursor [] ↔
      ∀ before after : String, text = before ++ after → before.utf8ByteSize = cursor →
        ¬ Region.Completes tag after.toList := by
  constructor
  · intro extraction
    exact extraction.tail
  · intro incomplete
    exact ⟨by simp, by simp, .nil, by simp, incomplete⟩

/-- Behind the first placed region the others are those of the text from its last byte on. -/
theorem extraction_cons_iff {tag : Tag} {text : String} {cursor : Nat} {placed : Placed} {rest : List Placed} :
    Extraction tag text cursor (placed :: rest) ↔
      placed.StandsIn tag text ∧ cursor ≤ placed.start ∧
      (∀ position, cursor ≤ position → position < placed.start → ¬ BeginsAt tag.opener text position) ∧
      Extraction tag text placed.stop rest := by
  constructor
  · intro extraction
    obtain ⟨above, ordered⟩ := List.pairwise_cons.mp extraction.ordered
    refine ⟨extraction.stands placed List.mem_cons_self, extraction.starts placed List.mem_cons_self,
      extraction.gaps [] placed rest rfl, ?_⟩
    refine ⟨fun later member => extraction.stands later (List.mem_cons_of_mem _ member),
      fun later member => (above later member).2, ordered, ?_, extraction.tail⟩
    intro earlier next later same
    exact extraction.gaps (placed :: earlier) next later (by rw [same]; rfl)
  · rintro ⟨stands, starts, gap, extraction⟩
    have below := stands.start_lt_stop
    refine ⟨?_, ?_, ?_, ?_, extraction.tail⟩
    · intro other member
      rcases List.mem_cons.mp member with rfl | member
      · exact stands
      · exact extraction.stands other member
    · intro other member
      rcases List.mem_cons.mp member with rfl | member
      · exact starts
      · have := extraction.starts other member
        omega
    · refine List.pairwise_cons.mpr ⟨?_, extraction.ordered⟩
      intro later member
      have := extraction.starts later member
      omega
    · intro earlier next later same
      cases earlier with
      | nil =>
        obtain ⟨rfl, rfl⟩ := List.cons.inj same
        exact gap
      | cons first earlier =>
        obtain ⟨rfl, behind⟩ := List.cons.inj same
        exact extraction.gaps earlier next later behind

/-- A region that stands behind some text stands first in what follows, if no opening tag begins between. -/
theorem Placed.StandsIn.first {tag : Tag} {text done rest : String} {placed : Placed}
    (stands : placed.StandsIn tag text) (whole : text = done ++ rest) (starts : done.utf8ByteSize ≤ placed.start)
    (gapless : ∀ position, done.utf8ByteSize ≤ position → position < placed.start →
      ¬ BeginsAt tag.opener text position) :
    ∃ gap after : String, Region.first? tag rest.toList = some (gap.toList, placed.region, after.toList) ∧
      placed = ⟨placed.region, (done ++ gap).utf8ByteSize, (done ++ gap ++ placed.region.text tag).utf8ByteSize⟩ := by
  obtain ⟨before, after, occurs, atStart, atStop, region⟩ := stands
  rw [String.append_assoc] at occurs
  obtain ⟨gap, rfl, inRest⟩ := exists_between (whole.symm.trans occurs) (atStart ▸ starts)
  have opens :
      rest = gap ++ String.ofList tag.opener ++ String.ofList (placed.region.behindOpener tag after.toList) := by
    rw [inRest, ← String.toList_inj]
    simp only [String.toList_append, Region.text_append, String.toList_ofList, List.append_assoc]
  refine ⟨gap, after, Region.first?_eq_some_iff.mpr ⟨?_, region⟩, ?_⟩
  · have cut := (firstCut_iff_not_beginsAt whole opens).mpr (atStart ▸ gapless)
    simpa using cut
  · cases placed
    simp only at atStart atStop ⊢
    rw [atStart, atStop]

/-- The first region of what follows some text stands in the whole, and no opening tag begins before it. -/
theorem standsIn_of_first {tag : Tag} {text done gap rest : String} {region : Region}
    (whole : text = done ++ (gap ++ region.text tag ++ rest))
    (found : Region.first? tag (gap ++ region.text tag ++ rest).toList = some (gap.toList, region, rest.toList)) :
    Placed.StandsIn tag text
      ⟨region, (done ++ gap).utf8ByteSize, (done ++ gap ++ region.text tag).utf8ByteSize⟩ ∧
    ∀ position, done.utf8ByteSize ≤ position → position < (done ++ gap).utf8ByteSize →
      ¬ BeginsAt tag.opener text position := by
  obtain ⟨opening, stands⟩ := Region.first?_eq_some_iff.mp found
  constructor
  · exact ⟨done ++ gap, rest, by simp [whole, String.append_assoc], rfl, rfl, stands⟩
  · have opens : gap ++ region.text tag ++ rest =
        gap ++ String.ofList tag.opener ++ String.ofList (region.behindOpener tag rest.toList) := by
      rw [← String.toList_inj]
      simp only [String.toList_append, String.toList_ofList, List.append_assoc, Region.text_append]
    exact (firstCut_iff_not_beginsAt whole opens).mp (by simpa using opening)

/-- Placed regions are those of a text from the end of some front on exactly if they are the parts into which
the rest divides. -/
theorem extraction_iff_placedFrom {tag : Tag} {text done rest : String} (whole : text = done ++ rest)
    (found : List Placed) :
    Extraction tag text done.utf8ByteSize found ↔
      found = placedFrom tag done.utf8ByteSize (divideAfter tag [] rest.toList).parts := by
  induction size : rest.toList.length using Nat.strongRecOn generalizing done rest found with
  | ind length step =>
    cases first : Region.first? tag rest.toList with
    | none =>
      have incomplete := Region.first?_eq_none_iff.mp first
      rw [divideAfter_of_none first, placedFrom]
      cases found with
      | nil =>
        simp only [extraction_nil_iff, iff_true]
        intro before after divides same
        obtain ⟨-, rfl⟩ := sides_eq_of_size_eq (divides.symm.trans whole) same
        exact incomplete
      | cons placed others =>
        simp only [reduceCtorEq, iff_false]
        intro extraction
        obtain ⟨stands, starts, gapless, -⟩ := extraction_cons_iff.mp extraction
        obtain ⟨gap, after, found, -⟩ := stands.first whole starts gapless
        simp [first] at found
    | some sides =>
      obtain ⟨gap, region, after⟩ := sides
      have inRest : rest = String.ofList gap ++ region.text tag ++ String.ofList after := by
        rw [← String.toList_inj, Region.first?_sides first]
        simp
      have ends : text = done ++ String.ofList gap ++ region.text tag ++ String.ofList after := by
        simp only [whole, inRest, String.append_assoc]
      have shorter : (String.ofList after).toList.length < length := by
        rw [String.toList_ofList]
        exact size ▸ Region.first?_shorter first
      rw [divideAfter_of_some first, placedFrom]
      simp only [← String.utf8ByteSize_append]
      cases found with
      | nil =>
        simp only [extraction_nil_iff, reduceCtorEq, iff_false]
        intro incomplete
        apply incomplete done rest whole rfl
        rw [Region.first?_sides first]
        exact Region.completes_of_sides region
      | cons placed others =>
        rw [extraction_cons_iff, List.cons.injEq]
        have behind := step _ shorter ends others rfl
        rw [String.toList_ofList] at behind
        constructor
        · rintro ⟨stands, starts, gapless, extraction⟩
          obtain ⟨gap', after', found, place⟩ := stands.first whole starts gapless
          rw [first] at found
          obtain ⟨rfl, sameRegion, -⟩ : gap = gap'.toList ∧ region = placed.region ∧ after = after'.toList := by
            simpa using found
          rw [String.ofList_toList] at behind ⊢
          rw [← sameRegion] at place
          rw [place] at extraction
          exact ⟨place, behind.mp extraction⟩
        · rintro ⟨rfl, rfl⟩
          have found : Region.first? tag (String.ofList gap ++ region.text tag ++ String.ofList after).toList =
              some ((String.ofList gap).toList, region, (String.ofList after).toList) := by
            rw [← inRest, first, String.toList_ofList, String.toList_ofList]
          obtain ⟨stands, gapless⟩ := standsIn_of_first (whole.trans (congrArg (done ++ ·) inRest)) found
          refine ⟨stands, ?_, gapless, behind.mpr rfl⟩
          show done.utf8ByteSize ≤ (done ++ String.ofList gap).utf8ByteSize
          rw [String.utf8ByteSize_append]
          exact Nat.le_add_right _ _

/-- The placed regions of a text are those that meet the conditions on its bytes, and no other list does. There
are some exactly when the text is said to have a region, and exactly when the pattern of a region matches
somewhere in it. -/
theorem extraction_iff_eq_placed (tag : Tag) (text : String) :
    (∀ found, Extraction tag text 0 found ↔ found = (ofText tag text).placed tag) ∧
      ((ofText tag text).hasRegion = true ↔ (ofText tag text).placed tag ≠ []) ∧
      ((ofText tag text).hasRegion = true ↔ (Region.search (Region.pattern tag) text.toList).isSome) := by
  refine ⟨?_, ?_, ?_⟩
  · intro found
    have whole : text = "" ++ text := String.empty_append.symm
    rw [placed_eq_placedFrom, ofText]
    exact extraction_iff_placedFrom whole found
  · rw [placed_eq_placedFrom, hasRegion]
    cases (ofText tag text).parts <;> simp [placedFrom]
  · rw [Region.search_pattern, Option.isSome_map, hasRegion, ofText]
    cases first : Region.first? tag text.toList with
    | none => simp [divideAfter_of_none first]
    | some sides =>
      obtain ⟨gap, region, rest⟩ := sides
      simp [divideAfter_of_some first]

end RecordFill.Body

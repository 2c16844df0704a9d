import RecordFill.Like.Match

namespace RecordFill.Like

open Text (fold)

/-- What a segment leaves of a value is all behind as many characters as it has slots. -/
theorem drop_of_afterFront? {segment : List Slot} {value rest : List Char}
    (front : afterFront? segment value = some rest) :
    segment.length ≤ value.length ∧ value.drop segment.length = rest := by
  fun_induction afterFront? segment value with
  | case1 value => exact ⟨Nat.zero_le _, Option.some.inj front⟩
  | case2 => contradiction
  | case3 slot segment c value taken step =>
    obtain ⟨room, left⟩ := step front
    exact ⟨Nat.succ_le_succ room, left⟩
  | case4 => contradiction

/-- A value ends with a segment where nothing follows a place of it. -/
theorem endsWith_iff {segment : List Slot} {value : List Char} :
    endsWith segment value = true ↔ ∃ run behind, value = run ++ behind ∧ afterFront? segment behind = some [] := by
  rw [endsWith, Bool.and_eq_true, decide_eq_true_eq]
  constructor
  · rintro ⟨room, found⟩
    obtain ⟨rest, front⟩ := Option.isSome_iff_exists.mp found
    refine ⟨value.take (value.length - segment.length), _, (List.take_append_drop _ value).symm, ?_⟩
    have nothing : rest = [] := by
      rw [← (drop_of_afterFront? front).2, List.drop_drop]
      exact List.drop_eq_nil_of_le (by omega)
    rw [front, nothing]
  · rintro ⟨run, behind, rfl, front⟩
    obtain ⟨room, left⟩ := drop_of_afterFront? front
    have whole : behind.length = segment.length := Nat.le_antisymm (List.drop_eq_nil_iff.mp left) room
    have place : (run ++ behind).length - segment.length = run.length := by
      rw [List.length_append]
      omega
    rw [place, List.drop_left, front, List.length_append]
    exact ⟨by omega, rfl⟩

theorem place_of_afterFirst? {segment : List Slot} {value rest : List Char}
    (found : afterFirst? segment value = some rest) :
    ∃ run behind, value = run ++ behind ∧ afterFront? segment behind = some rest := by
  fun_induction afterFirst? segment value with
  | case1 value rest' front => exact ⟨[], value, rfl, front.trans found⟩
  | case2 => contradiction
  | case3 c value _ step =>
    obtain ⟨run, behind, rfl, front⟩ := step found
    exact ⟨c :: run, behind, rfl, front⟩

/-- No place of a segment leaves more than the leftmost one. -/
theorem afterFirst?_of_place {segment : List Slot} {behind rest : List Char} (run : List Char)
    (front : afterFront? segment behind = some rest) :
    ∃ most, afterFirst? segment (run ++ behind) = some most ∧ rest <:+ most := by
  induction run with
  | nil =>
    rw [List.nil_append, afterFirst?.eq_def, front]
    exact ⟨rest, rfl, List.suffix_rfl⟩
  | cons c run step =>
    rw [List.cons_append, afterFirst?.eq_def]
    cases here : afterFront? segment (c :: (run ++ behind)) with
    | none => exact step
    | some most =>
      refine ⟨most, rfl, ?_⟩
      have further : behind.drop segment.length =
          ((c :: (run ++ behind)).drop segment.length).drop (c :: run).length := by
        rw [List.drop_drop, Nat.add_comm, ← List.drop_drop, ← List.cons_append, List.drop_left]
      rw [← (drop_of_afterFront? here).2, ← (drop_of_afterFront? front).2, further]
      exact List.drop_suffix _ _

/-- Segments stand in a value one after another, each behind a run of any characters, and nothing follows the
last of them. -/
inductive StandInOrder : List (List Slot) → List Char → Prop where
  | nothing : StandInOrder [] []
  | segment {segment later behind rest} (run : List Char) : afterFront? segment behind = some rest →
      StandInOrder later rest → StandInOrder (segment :: later) (run ++ behind)

/-- The run in front of the first segment takes up whatever stands before it. -/
theorem StandInOrder.of_suffix {segment : List Slot} {later : List (List Slot)} {value wider : List Char}
    (stand : StandInOrder (segment :: later) value) (ends : value <:+ wider) :
    StandInOrder (segment :: later) wider := by
  obtain ⟨passed, rfl⟩ := ends
  cases stand with
  | segment run front behind =>
    rw [← List.append_assoc]
    exact .segment (passed ++ run) front behind

/-- A value has segments in their order exactly if they are found by taking the leftmost place of each. -/
theorem acceptsLater_iff {value : List Char} {later : List (List Slot)} :
    acceptsLater value later = true ↔ StandInOrder later value := by
  fun_induction acceptsLater value later with
  | case1 value =>
    rw [List.isEmpty_iff]
    constructor
    · rintro rfl
      exact .nothing
    · rintro ⟨⟩
      rfl
  | case2 value last =>
    rw [endsWith_iff]
    constructor
    · rintro ⟨run, behind, rfl, front⟩
      exact .segment run front .nothing
    · intro stand
      cases stand with
      | segment run front last =>
        cases last
        exact ⟨run, _, rfl, front⟩
  | case3 value segment later several rest found step =>
    rw [step]
    constructor
    · intro stand
      obtain ⟨run, behind, rfl, front⟩ := place_of_afterFirst? found
      exact .segment run front stand
    · intro stand
      cases stand with
      | segment run front behind =>
        obtain ⟨most, leftmost, ends⟩ := afterFirst?_of_place run front
        obtain rfl : rest = most := Option.some.inj (found.symm.trans leftmost)
        cases later with
        | nil => exact (several rfl).elim
        | cons next later => exact behind.of_suffix ends
  | case4 value segment later several missing =>
    simp only [Bool.false_eq_true, false_iff]
    intro stand
    cases stand with
    | segment run front behind =>
      obtain ⟨most, leftmost, -⟩ := afterFirst?_of_place run front
      rw [missing] at leftmost
      contradiction

/-- A folded value begins with the first segment and has the others in their order behind it. -/
def Segments.Divide (segments : Segments) (value : List Char) : Prop :=
  ∃ rest, afterFront? segments.first value = some rest ∧ StandInOrder segments.later rest

theorem Segments.accepts_iff {segments : Segments} {value : List Char} :
    segments.accepts value = true ↔ segments.Divide value := by
  unfold accepts Divide
  cases afterFront? segments.first value with
  | none => simp
  | some rest => simp [acceptsLater_iff]

/-- A run in front of a pattern sets its segments behind any characters. -/
theorem Segments.divide_anyRun_iff {segments : Segments} {value : List Char} :
    (segments.cons .anyRun).Divide value ↔ ∃ run behind, value = run ++ behind ∧ segments.Divide behind := by
  constructor
  · rintro ⟨rest, whole, stand⟩
    obtain rfl : value = rest := Option.some.inj whole
    cases stand with
    | segment run front behind => exact ⟨run, _, rfl, _, front, behind⟩
  · rintro ⟨run, behind, rfl, rest, front, stand⟩
    exact ⟨run ++ behind, rfl, .segment run front stand⟩

/-- A slot in front of a pattern takes one more character. -/
theorem Segments.divide_slot_iff {slot : Slot} {segments : Segments} {value : List Char} :
    Divide { segments with first := slot :: segments.first } value ↔
      ∃ c behind, value = c :: behind ∧ slot.takes c = true ∧ segments.Divide behind := by
  constructor
  · rintro ⟨rest, front, stand⟩
    cases value with
    | nil => contradiction
    | cons c behind =>
      by_cases takes : slot.takes c = true
      · rw [afterFront?, if_pos takes] at front
        exact ⟨c, behind, rfl, takes, rest, front, stand⟩
      · rw [afterFront?, if_neg takes] at front
        contradiction
  · rintro ⟨c, behind, rfl, takes, rest, front, stand⟩
    exact ⟨rest, by rw [afterFront?, if_pos takes, front], stand⟩

theorem matches_nil_iff {value : List Char} : Matches [] value ↔ value = [] := by
  constructor
  · rintro ⟨⟩
    rfl
  · rintro rfl
    exact .nil

theorem matches_anyRun_iff {pieces : List Piece} {value : List Char} :
    Matches (.anyRun :: pieces) value ↔ ∃ run behind, value = run ++ behind ∧ Matches pieces behind := by
  constructor
  · intro matching
    cases matching with
    | anyRun run behind => exact ⟨run, _, rfl, behind⟩
  · rintro ⟨run, behind, rfl, matching⟩
    exact .anyRun run matching

theorem matches_anyOne_iff {pieces : List Piece} {value : List Char} :
    Matches (.anyOne :: pieces) value ↔ ∃ c behind, value = c :: behind ∧ Matches pieces behind := by
  constructor
  · intro matching
    cases matching with
    | anyOne c behind => exact ⟨c, _, rfl, behind⟩
  · rintro ⟨c, behind, rfl, matching⟩
    exact .anyOne c matching

theorem matches_literal_iff {expected : Char} {pieces : List Piece} {value : List Char} :
    Matches (.literal expected :: pieces) value ↔
      ∃ found behind, value = found :: behind ∧ fold found = fold expected ∧ Matches pieces behind := by
  constructor
  · intro matching
    cases matching with
    | literal same behind => exact ⟨_, _, rfl, same, behind⟩
  · rintro ⟨found, behind, rfl, same, matching⟩
    exact .literal same matching

/-- Pieces match a value exactly if their segments divide the folded value. -/
theorem matches_iff_divide {pieces : List Piece} {value : List Char} :
    Matches pieces value ↔ (Segments.ofPieces pieces).Divide (value.map fold) := by
  induction pieces generalizing value with
  | nil =>
    rw [matches_nil_iff, ← List.map_eq_nil_iff (f := fold)]
    constructor
    · intro empty
      exact ⟨[], by rw [empty]; rfl, .nothing⟩
    · rintro ⟨rest, front, ⟨⟩⟩
      exact Option.some.inj front
  | cons piece pieces step =>
    rw [Segments.ofPieces, List.foldr_cons, ← Segments.ofPieces]
    cases piece with
    | anyRun =>
      rw [matches_anyRun_iff, Segments.divide_anyRun_iff]
      constructor
      · rintro ⟨run, behind, rfl, matching⟩
        exact ⟨run.map fold, behind.map fold, List.map_append, step.mp matching⟩
      · rintro ⟨run, behind, divides, matching⟩
        obtain ⟨run', behind', rfl, rfl, rfl⟩ := List.map_eq_append_iff.mp divides
        exact ⟨run', behind', rfl, step.mpr matching⟩
    | anyOne =>
      rw [matches_anyOne_iff, Segments.cons, Segments.divide_slot_iff]
      constructor
      · rintro ⟨c, behind, rfl, matching⟩
        exact ⟨fold c, behind.map fold, rfl, rfl, step.mp matching⟩
      · rintro ⟨c, behind, divides, -, matching⟩
        obtain ⟨c', behind', rfl, rfl, rfl⟩ := List.map_eq_cons_iff.mp divides
        exact ⟨c', behind', rfl, step.mpr matching⟩
    | literal expected =>
      rw [matches_literal_iff, Segments.cons, Segments.divide_slot_iff]
      constructor
      · rintro ⟨found, behind, rfl, same, matching⟩
        exact ⟨fold found, behind.map fold, rfl, by simp [Slot.takes, same], step.mp matching⟩
      · rintro ⟨c, behind, divides, takes, matching⟩
        obtain ⟨found, behind', rfl, rfl, rfl⟩ := List.map_eq_cons_iff.mp divides
        have same : fold expected = fold found := by simpa [Slot.takes] using takes
        exact ⟨found, behind', rfl, same.symm, step.mpr matching⟩

/-- The search for the segments of a pattern finds out whether the value divides into parts, one for each piece. -/
theorem Pattern.accepts_iff_matches {pattern : Pattern} {value : String} :
    pattern.accepts value = true ↔ Matches pattern.pieces value.toList := by
  rw [accepts, Segments.accepts_iff, matches_iff_divide]

end RecordFill.Like

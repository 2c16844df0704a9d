import RecordFill.Proofs.Text.Search

namespace RecordFill.Text

theorem length_le_utf8ByteSize (text : String) : text.length ≤ text.utf8ByteSize := by
  rw [← String.ofList_toList (s := text)]
  induction text.toList with
  | nil => simp
  | cons c rest step =>
    have positive := c.utf8Size_pos
    rw [String.ofList_cons, String.length_append, String.utf8ByteSize_append, String.utf8ByteSize_singleton,
      String.length_singleton]
    omega

/-- A word begins in a text at a byte. -/
def BeginsAt (word : List Char) (text : String) (position : Nat) : Prop :=
  ∃ before after : String, text = before ++ String.ofList word ++ after ∧ before.utf8ByteSize = position

/-- Of two ways to divide a text, the one with the front of no more bytes comes first. -/
theorem exists_between {front back front' back' : String} (same : front ++ back = front' ++ back')
    (below : front.utf8ByteSize ≤ front'.utf8ByteSize) :
    ∃ between : String, front' = front ++ between ∧ back = between ++ back' := by
  have chars : front.toList ++ back.toList = front'.toList ++ back'.toList := by
    rw [← String.toList_append, same, String.toList_append]
  rcases List.append_eq_append_iff.mp chars with ⟨between, inFront, inBack⟩ | ⟨between, inFront, inBack⟩
  · refine ⟨String.ofList between, ?_, ?_⟩
    · rw [← String.toList_inj, inFront]
      simp
    · rw [← String.toList_inj, inBack]
      simp
  · have whole : front = front' ++ String.ofList between := by
      rw [← String.toList_inj, inFront]
      simp
    have nothing : String.ofList between = "" := by
      rw [whole, String.utf8ByteSize_append] at below
      exact String.utf8ByteSize_eq_zero_iff.mp (by omega)
    have empty : between = [] := by simpa using congrArg String.toList nothing
    refine ⟨"", by simpa [nothing] using whole.symm, ?_⟩
    rw [← String.toList_inj]
    simpa [empty] using inBack.symm

/-- A byte divides a text in one way. -/
theorem sides_eq_of_size_eq {front back front' back' : String} (same : front ++ back = front' ++ back')
    (bytes : front.utf8ByteSize = front'.utf8ByteSize) : front = front' ∧ back = back' := by
  obtain ⟨between, rfl, rfl⟩ := exists_between same (Nat.le_of_eq bytes)
  rw [String.utf8ByteSize_append] at bytes
  have nothing : between = "" := String.utf8ByteSize_eq_zero_iff.mp (by omega)
  simp [nothing]

/-- Of two ways to divide a text, the front with fewer characters has fewer bytes. -/
theorem utf8ByteSize_lt_iff {front back front' back' : String} (same : front ++ back = front' ++ back') :
    front.utf8ByteSize < front'.utf8ByteSize ↔ front.toList.length < front'.toList.length := by
  have positive (between : String) : between.utf8ByteSize = 0 ↔ between.toList.length = 0 := by
    rw [String.utf8ByteSize_eq_zero_iff, List.length_eq_zero_iff, String.toList_eq_nil_iff]
  rcases Nat.le_total front.utf8ByteSize front'.utf8ByteSize with below | above
  · obtain ⟨between, rfl, -⟩ := exists_between same below
    have := positive between
    rw [String.utf8ByteSize_append, String.toList_append, List.length_append]
    omega
  · obtain ⟨between, rfl, -⟩ := exists_between same.symm above
    rw [String.utf8ByteSize_append, String.toList_append, List.length_append]
    omega

/-- An occurrence of a word is its first one behind some text exactly when the word begins at no byte between. -/
theorem firstCut_iff_not_beginsAt {word : List Char} {text done rest gap behind : String}
    (whole : text = done ++ rest) (divides : rest = gap ++ String.ofList word ++ behind) :
    FirstCut word rest.toList gap.toList behind.toList ↔
      ∀ position, done.utf8ByteSize ≤ position → position < (done ++ gap).utf8ByteSize →
        ¬ BeginsAt word text position := by
  constructor
  · rintro cut position reached inGap ⟨before, after, occurs, rfl⟩
    rw [String.append_assoc] at occurs
    obtain ⟨passed, rfl, inRest⟩ := exists_between (whole.symm.trans occurs) reached
    have later : gap.toList.length ≤ passed.toList.length := by
      apply cut.first passed.toList after.toList
      rw [inRest]
      simp
    rw [String.utf8ByteSize_append, String.utf8ByteSize_append] at inGap
    rw [String.append_assoc] at divides
    have shorter := (utf8ByteSize_lt_iff (inRest.symm.trans divides)).mp (by omega)
    omega
  · intro absent
    refine ⟨by rw [divides]; simp, ?_⟩
    intro earlier later occurs
    have divided : String.ofList earlier ++ (String.ofList word ++ String.ofList later) = rest := by
      rw [← String.toList_inj, occurs]
      simp
    refine Nat.le_of_not_lt fun shorter => ?_
    have inGap := (utf8ByteSize_lt_iff (divided.trans (divides.trans String.append_assoc))).mpr (by simpa using shorter)
    apply absent (done ++ String.ofList earlier).utf8ByteSize
    · rw [String.utf8ByteSize_append]
      omega
    · rw [String.utf8ByteSize_append, String.utf8ByteSize_append]
      omega
    · refine ⟨done ++ String.ofList earlier, String.ofList later, ?_, rfl⟩
      rw [whole, ← divided, String.append_assoc, String.append_assoc]

end RecordFill.Text

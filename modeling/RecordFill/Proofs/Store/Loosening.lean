import RecordFill.Proofs.Like.Meaning
import RecordFill.Proofs.Store.Query

namespace RecordFill

/-- A text without backslashes describes itself, since a percent sign takes itself as a run of one character. -/
theorem Like.describes_self {text : List Char} (noEscape : '\\' ∉ text) : Describes text text := by
  induction text with
  | nil => exact .nothing
  | cons c rest step =>
    obtain ⟨noBackslash, noEscape⟩ := not_or.mp (mt List.mem_cons.mpr noEscape)
    have behind : Describes rest rest := step noEscape
    by_cases percent : c = '%'
    · subst percent
      exact .anyRun ['%'] behind
    · by_cases underscore : c = '_'
      · subst underscore
        exact .anyOne '_' behind
      · exact .ordinary percent underscore (Ne.symm noBackslash) rfl behind

theorem Comparison.accepts_self [RegexCompiler] {text : String} {test : Test}
    (compiles : Comparison.like.test text = .ok test) (noEscape : '\\' ∉ text.toList) : test.accepts text = true := by
  obtain ⟨pattern, made, rfl⟩ := Comparison.test_like_eq_ok_iff.mp compiles
  rw [Test.accepts, Like.Pattern.accepts_iff_matches, Like.Pattern.pieces_of_ofString made,
    ← Like.describes_iff_matches]
  exact Like.describes_self noEscape

namespace Dataset

variable {dataset : Dataset}

/-- What meets a condition with an equal value meets it with the value as a pattern. -/
theorem Meets.like_of_equal [RegexCompiler] {field value : String} {id : RecordId} {test : Test}
    (compiles : Comparison.like.test value = .ok test) (noEscape : '\\' ∉ value.toList)
    (meets : dataset.Meets ⟨field, .equal, value⟩ id) : dataset.Meets ⟨field, .like, value⟩ id := by
  obtain ⟨definition, defined, named, entry, stored, own, same, equals, compiled, accepted⟩ := meets
  obtain rfl : Test.equals value = equals := Except.ok.inj compiled
  have equal : entry.value = value := of_decide_eq_true accepted
  exact ⟨definition, defined, named, entry, stored, own, same, test, compiles,
    equal ▸ Comparison.accepts_self compiles noEscape⟩

/-- Pairs of a field's name and a value that compiles make a chain that selects what meets the condition of each. -/
theorem exists_query_pairs [RegexCompiler] (dataset : Dataset) (comparison : Comparison)
    {pairs : List (String × String)} (given : pairs ≠ [])
    (compile : ∀ pair ∈ pairs, ∃ test, comparison.test pair.2 = .ok test) :
    ∃ filter ids, Filter.chain (pairs.map fun (field, value) => ⟨field, comparison, value⟩) = some filter ∧
      dataset.query filter = .ok ids ∧
      ∀ id, id ∈ ids ↔ ∀ pair ∈ pairs, dataset.Meets ⟨pair.1, comparison, pair.2⟩ id := by
  let conditions : List Condition := pairs.map fun (field, value) => ⟨field, comparison, value⟩
  have asked : conditions ≠ [] := by simpa [conditions] using given
  have compiles : ∀ condition ∈ conditions, ∃ test, condition.test = .ok test := List.forall_mem_map.mpr compile
  obtain ⟨filter, ids, chained, selected, members⟩ := dataset.exists_query_eq_ok asked compiles
  exact ⟨filter, ids, chained, selected, fun id => (members id).trans List.forall_mem_map⟩

/-- Where values without backslashes compile as patterns, every record that a chain of conditions on equal values
selects is also selected by the chain that takes the same values as patterns. -/
theorem query_equal_subset_like [RegexCompiler] (dataset : Dataset) (pairs : List (String × String))
    (given : pairs ≠ []) (noEscape : ∀ pair ∈ pairs, '\\' ∉ pair.2.toList)
    (compile : ∀ pair ∈ pairs, ∃ test, Comparison.like.test pair.2 = .ok test) :
    ∃ strict loose selected more,
      Filter.chain (pairs.map fun (field, value) => ⟨field, .equal, value⟩) = some strict ∧
      Filter.chain (pairs.map fun (field, value) => ⟨field, .like, value⟩) = some loose ∧
      dataset.query strict = .ok selected ∧ dataset.query loose = .ok more ∧ selected ⊆ more := by
  have compileEqual : ∀ pair ∈ pairs, ∃ test, Comparison.equal.test pair.2 = .ok test :=
    fun pair _ => ⟨.equals pair.2, rfl⟩
  obtain ⟨strict, selected, chained, answered, members⟩ := dataset.exists_query_pairs .equal given compileEqual
  obtain ⟨loose, more, chainedLoose, answeredLoose, membersLoose⟩ := dataset.exists_query_pairs .like given compile
  refine ⟨strict, loose, selected, more, chained, chainedLoose, answered, answeredLoose, ?_⟩
  intro id member
  rw [members] at member
  rw [membersLoose]
  intro pair within
  obtain ⟨test, compiles⟩ := compile pair within
  exact (member pair within).like_of_equal compiles (noEscape pair within)

/-- Values with wildcards and marks of expressions are found as patterns too, together with others. -/
theorem query_equal_subset_like_wildcards :
    let dataset : Dataset := ⟨[⟨1, "rate", ""⟩, ⟨2, "note", ""⟩],
      [⟨⟨4⟩, 1, "5%_"⟩, ⟨⟨4⟩, 2, "(a.b)"⟩, ⟨⟨3⟩, 1, "5 %x"⟩, ⟨⟨3⟩, 2, "(A.B)"⟩]⟩
    let pairs := [("rate", "5%_"), ("note", "(a.b)")]
    pairs ≠ [] ∧ (∀ pair ∈ pairs, '\\' ∉ pair.2.toList) ∧
      (∀ pair ∈ pairs, ∃ test, Comparison.like.test pair.2 = .ok test) ∧
      ∃ strict loose more,
        Filter.chain (pairs.map fun (field, value) => ⟨field, .equal, value⟩) = some strict ∧
        Filter.chain (pairs.map fun (field, value) => ⟨field, .like, value⟩) = some loose ∧
        dataset.query strict = .ok [⟨4⟩] ∧ dataset.query loose = .ok more ∧ ⟨4⟩ ∈ more := by
  intro dataset pairs
  have given : pairs ≠ [] := List.cons_ne_nil _ _
  have noEscape : ∀ pair ∈ pairs, '\\' ∉ pair.2.toList := by decide
  have compile : ∀ pair ∈ pairs, ∃ test, Comparison.like.test pair.2 = .ok test := by
    intro pair member
    rcases List.mem_cons.mp member with rfl | member
    · exact ⟨.matching ⟨Like.read "5%_".toList⟩, rfl⟩
    · obtain rfl := List.mem_singleton.mp member
      exact ⟨.matching ⟨Like.read "(a.b)".toList⟩, rfl⟩
  obtain ⟨strict, loose, selected, more, chained, chainedLoose, answered, answeredLoose, within⟩ :=
    query_equal_subset_like dataset pairs given noEscape compile
  have alone : dataset.query strict = .ok [⟨4⟩] := by
    have rated : dataset.matching "rate" (.equals "5%_") (fun _ => true) = [⟨4⟩] := by decide +kernel
    have noted : dataset.matching "note" (.equals "(a.b)") [⟨4⟩].contains = [⟨4⟩] := by decide +kernel
    have admits : (Std.HashSet.ofList [(⟨4⟩ : RecordId)]).contains = [⟨4⟩].contains :=
      funext fun _ => Std.HashSet.contains_ofList
    have first : dataset.query (.single ⟨"rate", .equal, "5%_"⟩) = .ok [⟨4⟩] := by
      rw [dataset.query_single rfl, rated]
    rw [← Option.some.inj chained]
    show dataset.query (.narrow ⟨"note", .equal, "(a.b)"⟩ (.single ⟨"rate", .equal, "5%_"⟩)) = _
    rw [dataset.query_narrow first rfl, admits, noted]
  obtain rfl : [⟨4⟩] = selected := Except.ok.inj (alone.symm.trans answered)
  exact ⟨given, noEscape, compile, strict, loose, more, chained, chainedLoose, alone, answeredLoose,
    within List.mem_cons_self⟩

end Dataset

end RecordFill

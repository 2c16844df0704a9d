import RecordFill.Proofs.Region.Division

namespace RecordFill.Region

open Text (FirstCut cut? cut?_cons cut?_eq_none_iff cut?_eq_some_iff cut?_nil firstCut_singleton_iff isBlank
  remainder?)

/-- An element of a pattern: a word, a greedy run of blanks, or a lazy run of any characters. -/
inductive Element where
  | word (word : List Char)
  | blanks
  | run

/-- The ways to divide a text, with the shortest front first. -/
def divisions : List Char → List (List Char × List Char)
  | [] => [([], [])]
  | c :: text => ([], c :: text) :: (divisions text).map fun sides => (c :: sides.1, sides.2)

/-- The ways to divide a text behind blanks only, with the longest front first. -/
def blankDivisions : List Char → List (List Char × List Char)
  | [] => [([], [])]
  | c :: text =>
    if isBlank c then
      (blankDivisions text).map (fun sides => (c :: sides.1, sides.2)) ++ [([], c :: text)]
    else [([], c :: text)]

/-- The preferred match of elements at the front of a text: the runs that it takes, and what follows it. -/
def match? : List Element → List Char → Option (List (List Char) × List Char)
  | [], text => some ([], text)
  | .word word :: elements, text => (remainder? word text).bind (match? elements)
  | .blanks :: elements, text =>
    (blankDivisions text).findSome? fun sides =>
      (match? elements sides.2).map fun found => (sides.1 :: found.1, found.2)
  | .run :: elements, text =>
    (divisions text).findSome? fun sides =>
      (match? elements sides.2).map fun found => (sides.1 :: found.1, found.2)

/-- The leftmost match of elements in a text, behind what stands before it. -/
def search (elements : List Element) (text : List Char) : Option (List Char × List (List Char) × List Char) :=
  (divisions text).findSome? fun sides => (match? elements sides.2).map (sides.1, ·)

/-- The pattern of a tag's regions. -/
def pattern (tag : Tag) : List Element :=
  [.word tag.opener, .blanks, .run, .word ['}'], .run, .word tag.closer]

/-- What succeeds in front of some text also succeeds in front of every text that ends with it. -/
def Persists {α : Type} (next : List Char → Option α) : Prop :=
  ∀ {earlier later : List Char}, later <:+ earlier → (next later).isSome → (next earlier).isSome

/-- A lazy run ends at the first occurrence of the word behind it, since no later one can do better. -/
theorem findSome?_divisions {α β : Type} {next : List Char → Option α} (persists : Persists next)
    (word text : List Char) (collect : List Char → α → β) :
    ((divisions text).findSome? fun sides => ((remainder? word sides.2).bind next).map (collect sides.1)) =
      (cut? word text).bind fun sides => (next sides.2).map (collect sides.1) := by
  induction text generalizing collect with
  | nil =>
    rw [cut?_nil, divisions, List.findSome?_singleton]
    cases remainder? word [] <;> rfl
  | cons c text step =>
    have behind := step fun run => collect (c :: run)
    rw [divisions, List.findSome?_cons, List.findSome?_map, cut?_cons]
    simp only [Function.comp_def]
    rw [behind]
    cases front : remainder? word (c :: text) with
    | none => cases cut? word text <;> rfl
    | some after =>
      cases here : next after with
      | some value => simp [here]
      | none =>
        cases found : cut? word text with
        | none => simp [here]
        | some sides =>
          -- The word stands at the front as well, so the rest behind its later place ends what follows it here.
          have first : FirstCut word (c :: text) [] after := by
            rw [← cut?_eq_some_iff, cut?_cons, front]
          have divides : c :: text = (c :: sides.1) ++ word ++ sides.2 := by
            rw [(cut?_eq_some_iff.mp found).divides]
            rfl
          have inAfter : sides.2 <:+ after := first.suffix_of_divides divides
          have failed : next sides.2 = none := by
            cases later : next sides.2 with
            | none => rfl
            | some value => simpa [here] using persists inAfter (by simp [later])
          simp [here, failed]

/-- A greedy run takes all blanks, unless what follows could use one of them. -/
theorem findSome?_blankDivisions {α β : Type} {next : List Char → Option α}
    (indifferent : ∀ {c : Char} {rest : List Char}, isBlank c = true → (next (c :: rest)).isSome → (next rest).isSome)
    (text : List Char) (collect : List Char → α → β) :
    ((blankDivisions text).findSome? fun sides => (next sides.2).map (collect sides.1)) =
      (next (text.dropWhile isBlank)).map (collect (text.takeWhile isBlank)) := by
  -- Every blank given back would have to be of use to what follows, down to the last one.
  have giveBack : ∀ rest : List Char, next (rest.dropWhile isBlank) = none → next rest = none := by
    intro rest failed
    induction rest with
    | nil => exact failed
    | cons first rest down =>
      by_cases blank : isBlank first = true
      · rw [List.dropWhile_cons_of_pos blank] at failed
        cases front : next (first :: rest) with
        | none => rfl
        | some value =>
          have useful : (next rest).isSome := indifferent blank (front ▸ rfl)
          simp [down failed] at useful
      · rwa [List.dropWhile_cons_of_neg blank] at failed
  induction text generalizing collect with
  | nil => simp [blankDivisions]
  | cons c text step =>
    rw [blankDivisions]
    by_cases blank : isBlank c = true
    · have behind := step fun run => collect (c :: run)
      rw [if_pos blank, List.findSome?_append, List.findSome?_map]
      simp only [Function.comp_def]
      rw [behind, List.takeWhile_cons_of_pos blank]
      cases all : next ((c :: text).dropWhile isBlank) with
      | some value =>
        rw [List.dropWhile_cons_of_pos blank] at all
        simp [all]
      | none =>
        have failed : next (c :: text) = none := giveBack (c :: text) all
        rw [List.dropWhile_cons_of_pos blank] at all
        simp [all, failed]
    · rw [if_neg blank, List.dropWhile_cons_of_neg blank, List.takeWhile_cons_of_neg blank]
      simp

/-- A lazy run before a word in front of further elements is a search for the word. -/
theorem match?_run_word {elements : List Element} (persists : Persists (match? elements)) (word text : List Char) :
    match? (.run :: .word word :: elements) text =
      (cut? word text).bind fun sides =>
        (match? elements sides.2).map fun found => (sides.1 :: found.1, found.2) :=
  findSome?_divisions persists word text fun run found => (run :: found.1, found.2)

/-- A search for a word persists, and so does one for two words after one another. -/
theorem persists_run_word {elements : List Element} (persists : Persists (match? elements)) (word : List Char) :
    Persists (match? (.run :: .word word :: elements)) := by
  intro earlier later ends succeeds
  rw [match?_run_word persists] at succeeds ⊢
  cases inLater : cut? word later with
  | none => simp [inLater] at succeeds
  | some sides =>
    obtain ⟨passed, whole⟩ := ends
    have divides : earlier = (passed ++ sides.1) ++ word ++ sides.2 := by
      rw [← whole, (cut?_eq_some_iff.mp inLater).divides]
      simp
    obtain ⟨sides', inEarlier⟩ := Option.isSome_iff_exists.mp (Text.cut?_isSome_of_divides divides)
    have inRest : sides.2 <:+ sides'.2 := (cut?_eq_some_iff.mp inEarlier).suffix_of_divides divides
    have behind : (match? elements sides.2).isSome := by simpa [inLater] using succeeds
    simpa [inEarlier] using persists inRest behind

/-- The search for the rest of a region behind its blanks could not use any of them. -/
theorem match?_behind_blank (tag : Tag) {c : Char} {rest : List Char} (blank : isBlank c = true)
    (succeeds : (match? [.run, .word ['}'], .run, .word tag.closer] (c :: rest)).isSome) :
    (match? [.run, .word ['}'], .run, .word tag.closer] rest).isSome := by
  have always : Persists (match? []) := fun _ _ => rfl
  have noBrace : c ≠ '}' := by
    rintro rfl
    exact absurd blank (by decide)
  have front : remainder? ['}'] (c :: rest) = none := by
    rw [remainder?, if_neg (Ne.symm noBrace)]
  rw [match?_run_word (persists_run_word always _), cut?_cons, front] at succeeds
  rw [match?_run_word (persists_run_word always _)]
  cases inRest : cut? ['}'] rest with
  | none => simp [inRest] at succeeds
  | some sides => simpa [inRest] using succeeds

theorem blanks_append_cons {c : Char} (solid : isBlank c = false) (front back : List Char) :
    (front ++ c :: back).takeWhile isBlank = front.takeWhile isBlank ∧
      (front ++ c :: back).dropWhile isBlank = front.dropWhile isBlank ++ c :: back := by
  induction front with
  | nil => simp [solid]
  | cons first front step =>
    rw [List.cons_append, List.takeWhile_cons, List.takeWhile_cons, List.dropWhile_cons, List.dropWhile_cons]
    cases isBlank first with
    | false => simp
    | true => simp [step]

/-- The preferred match behind a tag's name is read off without going back. -/
theorem match?_behind_opener (tag : Tag) (text : List Char) :
    match? [.blanks, .run, .word ['}'], .run, .word tag.closer] text =
      (cut? ['}'] text).bind fun sides =>
        (cut? tag.closer sides.2).map fun sides' =>
          ([sides.1.takeWhile isBlank, sides.1.dropWhile isBlank, sides'.1], sides'.2) := by
  have always : Persists (match? []) := fun _ _ => rfl
  have greedy : match? [.blanks, .run, .word ['}'], .run, .word tag.closer] text =
      (match? [.run, .word ['}'], .run, .word tag.closer] (text.dropWhile isBlank)).map fun found =>
        (text.takeWhile isBlank :: found.1, found.2) :=
    findSome?_blankDivisions (match?_behind_blank tag) text fun run found => (run :: found.1, found.2)
  rw [greedy, match?_run_word (persists_run_word always _)]
  cases found : cut? ['}'] text with
  | none =>
    have missing : cut? ['}'] (text.dropWhile isBlank) = none := by
      rw [cut?_eq_none_iff] at found ⊢
      intro inRest
      exact found (inRest.trans (List.dropWhile_suffix isBlank).isInfix)
    simp [missing]
  | some sides =>
    obtain ⟨inside, body⟩ := sides
    have brace : FirstCut ['}'] text inside body := cut?_eq_some_iff.mp found
    have divides : text = inside ++ '}' :: body := by simpa using brace.divides
    subst divides
    have absent : '}' ∉ inside.dropWhile isBlank := by
      intro member
      exact firstCut_singleton_iff.mp brace ((List.dropWhile_suffix isBlank).subset member)
    obtain ⟨taken, dropped⟩ := blanks_append_cons (c := '}') (by decide) inside body
    rw [taken, dropped, cut?_eq_some_iff.mpr (firstCut_singleton_iff.mpr absent), Option.bind_some,
      Option.bind_some, match?_run_word always]
    cases cut? tag.closer body <;> rfl

/-- The leftmost match of the pattern is the first region, and the runs that it takes are the region's parts. -/
theorem search_pattern (tag : Tag) (text : List Char) :
    search (pattern tag) text =
      (first? tag text).map fun (gap, region, rest) =>
        (gap, [region.blanks.toList, region.selector.toList, region.template.toList], rest) := by
  have always : Persists (match? []) := fun _ _ => rfl
  have same (rest : List Char) : (match? [.blanks, .run, .word ['}'], .run, .word tag.closer] rest).isSome =
      (match? [.run, .word ['}'], .run, .word tag.closer] rest).isSome := by
    rw [match?_behind_opener, match?_run_word (persists_run_word always _)]
    cases cut? ['}'] rest with
    | none => rfl
    | some sides =>
      rw [Option.bind_some, Option.bind_some, match?_run_word always]
      cases cut? tag.closer sides.2 <;> rfl
  have persists : Persists (match? [.blanks, .run, .word ['}'], .run, .word tag.closer]) := by
    intro earlier later ends succeeds
    rw [same] at succeeds ⊢
    exact persists_run_word (persists_run_word always _) _ ends succeeds
  have leftmost : search (pattern tag) text =
      (cut? tag.opener text).bind fun sides =>
        (match? [.blanks, .run, .word ['}'], .run, .word tag.closer] sides.2).map (sides.1, ·) :=
    findSome?_divisions persists tag.opener text fun gap found => (gap, found)
  rw [leftmost, first?]
  simp only [match?_behind_opener]
  cases cut? tag.opener text with
  | none => rfl
  | some opened =>
    cases brace : cut? ['}'] opened.2 with
    | none => simp [brace]
    | some inside =>
      cases closing : cut? tag.closer inside.2 with
      | none => simp [brace, closing]
      | some template => simp [brace, closing, ofInside]

end RecordFill.Region

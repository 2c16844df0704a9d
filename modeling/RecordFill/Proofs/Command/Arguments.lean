import RecordFill.Proofs.Command.Words

namespace RecordFill.Command

namespace Form

variable (form : Form)

/-- What arguments say one after the other. A value that is awaited is the next argument, which is no option, and
behind two dashes everything is an operand. -/
inductive Reading : List String → List Item → Prop where
  | nothing : Reading [] []
  | word {argument : String} {rest : List String} {items more : List Item} (word : form.Word argument items none)
      (others : Reading rest more) : Reading (argument :: rest) (items ++ more)
  | pair {argument value : String} {rest : List String} {items more : List Item} {flag : Flag}
      (word : form.Word argument items (some flag)) (plain : Plain value) (takes : flag.Takes value)
      (others : Reading rest more) : Reading (argument :: value :: rest) (items ++ .option flag.name value :: more)
  | operands (texts : List String) : Reading ("--" :: texts) (texts.map .operand)

end Form

namespace Given

variable {form : Form} {given later : Given} {items : List Item}

/-- What is given once nothing but operands may follow, or other arguments too. -/
def restrict (only : Bool) (given : Given) : Given :=
  { given with operandsOnly := only }

theorem add_dashes (options : given.operandsOnly = false) (free : given.awaiting = none) :
    given.add form "--" = .ok (given.restrict true) := by
  rw [Given.add, if_neg (by simp [options])]
  simp [free, restrict]

theorem note_restrict (only : Bool) (given : Given) (item : Item) :
    (given.restrict only).note form item = (given.note form item).map (restrict only) := by
  cases item with
  | option name value =>
    rw [note, note]
    show (if given.has name then _ else _) = _
    split <;> rfl
  | operand text =>
    rw [note, note, addOperand, addOperand]
    show (if given.operand.isSome || !form.acceptsOperand text then _ else _) = _
    split <;> rfl

theorem foldlM_note_restrict (only : Bool) (given : Given) (items : List Item) :
    items.foldlM (note form) (given.restrict only) = (items.foldlM (note form) given).map (restrict only) := by
  induction items generalizing given with
  | nil => rfl
  | cons item items step =>
    rw [List.foldlM_cons, List.foldlM_cons, note_restrict]
    cases given.note form item with
    | error detour => rfl
    | ok between => exact step between

/-- Where nothing but operands may follow every argument is noted as one. -/
theorem foldlM_add_operands (only : given.operandsOnly = true) (texts : List String) :
    texts.foldlM (Given.add form) given = (texts.map .operand).foldlM (note form) given := by
  induction texts generalizing given with
  | nil => rfl
  | cons text texts step =>
    have noted : given.add form text = given.note form (.operand text) := by
      rw [Given.add, if_pos only]
      rfl
    rw [List.map_cons, List.foldlM_cons, List.foldlM_cons, noted]
    cases first : given.note form (.operand text) with
    | error detour => rfl
    | ok between => exact step ((notes_of_note first).operandsOnly.trans only)

/-- The argument behind half an option is noted as its value. -/
theorem add_of_awaited {flag : Flag} {value : String} (options : given.operandsOnly = false) (plain : Plain value)
    (takes : flag.Takes value) :
    (given.await (some flag)).add form value = given.note form (.option flag.name value) := by
  have options : (given.await (some flag)).operandsOnly = false := options
  have waits : (given.await (some flag)).awaiting = some flag := rfl
  rw [add_of_plain options plain, addPlain, waits]
  exact addValue_of_takes form takes _

section Reading

variable {arguments : List String} (positive : form.negativeOperand = false)
include positive

/-- Arguments are noted as what they say one after the other. -/
theorem foldlM_add_of_reading (reading : form.Reading arguments items) (options : given.operandsOnly = false)
    (free : given.awaiting = none) :
    ∃ only, arguments.foldlM (Given.add form) given = (items.foldlM (note form) given).map (restrict only) := by
  induction reading generalizing given with
  | nothing => exact ⟨false, by rw [← options]; rfl⟩
  | @word argument rest items more word others step =>
    rw [List.foldlM_cons, List.foldlM_append, add_of_word options free positive word]
    cases noted : items.foldlM (note form) given with
    | error detour => exact ⟨false, rfl⟩
    | ok between =>
      have all := notes_of_foldlM noted
      have kept := all.free free
      obtain ⟨only, same⟩ := step (all.operandsOnly.trans options) kept
      have unchanged : between.await none = between := by rw [await, ← kept]
      refine ⟨only, ?_⟩
      show rest.foldlM (Given.add form) (between.await none) = (more.foldlM (note form) between).map (restrict only)
      rw [unchanged, same]
  | @pair argument value rest items more flag word plain takes others step =>
    rw [List.foldlM_cons, List.foldlM_append, add_of_word options free positive word]
    cases noted : items.foldlM (note form) given with
    | error detour => exact ⟨false, rfl⟩
    | ok between =>
      have all := notes_of_foldlM noted
      have kept := all.operandsOnly.trans options
      show ∃ only, (value :: rest).foldlM (Given.add form) (between.await (some flag)) =
        ((.option flag.name value :: more).foldlM (note form) between).map (restrict only)
      rw [List.foldlM_cons, List.foldlM_cons, add_of_awaited kept plain takes]
      cases paired : between.note form (.option flag.name value) with
      | error detour => exact ⟨false, rfl⟩
      | ok later =>
        have paired := notes_of_note paired
        exact step (paired.operandsOnly.trans kept) (paired.free (all.free free))
  | operands texts =>
    refine ⟨true, ?_⟩
    rw [List.foldlM_cons, add_dashes options free, ← foldlM_note_restrict]
    exact foldlM_add_operands rfl texts

/-- What may stand behind half an option: its value, and other arguments behind that. -/
def ReadingAfter (form : Form) (awaited : Option Flag) (arguments : List String) (items : List Item) : Prop :=
  match awaited with
  | none => form.Reading arguments items
  | some flag => ∃ value rest more, arguments = value :: rest ∧ items = .option flag.name value :: more ∧
      Plain value ∧ flag.Takes value ∧ form.Reading rest more

/-- The argument that an option waits for has to be its value. -/
theorem exists_value_of_add {flag : Flag} {value : String} (options : given.operandsOnly = false)
    (awaits : given.awaiting = some flag) (added : given.add form value = .ok later) :
    Plain value ∧ flag.Takes value ∧ later.operandsOnly = false ∧ later.awaiting = none := by
  by_cases plain : Plain value
  · have takes : flag.Takes value := by
      rw [add_of_plain options plain, addPlain, awaits] at added
      exact takes_of_addValue added
    have same : given = (given.await none).await (some flag) := by rw [await, await, ← awaits]
    have options : (given.await none).operandsOnly = false := options
    rw [same, add_of_awaited options plain takes] at added
    have noted := notes_of_note added
    exact ⟨plain, takes, noted.operandsOnly.trans options, noted.free rfl⟩
  · obtain ⟨dash, several⟩ := not_or.mp plain
    obtain ⟨text, written⟩ := List.head?_eq_some_iff.mp (not_not.mp dash)
    have refused : given.add form value = .error .wrongUsage := by
      rw [Given.add, if_neg (by simp [options]), written]
      cases text with
      | nil => exact absurd (String.toList_inj.mp written) several
      | cons first rest =>
        -- whatever follows the dash, no option is taken for a value
        simp only [positive, awaits, Option.isSome_some, Bool.false_and, Bool.false_eq_true, if_true, if_false]
        split
        · rfl
        · rfl
        · rfl
        · next different => exact absurd rfl (different first rest)
    rw [refused] at added
    contradiction

/-- Arguments that are read, and of which none is missing, have items. -/
theorem exists_reading {arguments : List String} (read : arguments.foldlM (Given.add form) given = .ok later)
    (complete : later.awaiting = none) (options : given.operandsOnly = false) :
    ∃ items, ReadingAfter form given.awaiting arguments items := by
  induction arguments generalizing given with
  | nil =>
    obtain rfl := Except.ok.inj read
    rw [complete]
    exact ⟨[], .nothing⟩
  | cons argument rest step =>
    obtain ⟨between, added, others⟩ := foldlM_cons_eq_ok_iff.mp read
    cases awaits : given.awaiting with
    | none =>
      by_cases ends : argument = "--"
      · subst ends
        exact ⟨_, .operands rest⟩
      · obtain ⟨items, awaited, noted, word, folded, rfl⟩ := exists_noted_of_add options awaits positive ends added
        obtain ⟨more, reading⟩ := step others ((notes_of_foldlM folded).operandsOnly.trans options)
        cases awaited with
        | none => exact ⟨items ++ more, .word word reading⟩
        | some flag =>
          obtain ⟨value, rest, more, rfl, rfl, plain, takes, reading⟩ := reading
          exact ⟨_, .pair word plain takes reading⟩
    | some flag =>
      obtain ⟨plain, takes, kept, free⟩ := exists_value_of_add positive options awaits added
      obtain ⟨more, reading⟩ := step others kept
      rw [free] at reading
      exact ⟨_, argument, rest, more, rfl, rfl, plain, takes, reading⟩

end Reading

/-- What is given are the items of the arguments. -/
structure Holds (given : Given) (items : List Item) : Prop where
  option : ∀ name value, given.option? name = some value ↔ .option name value ∈ items
  operand : ∀ text, given.operand = some text ↔ .operand text ∈ items

theorem Holds.has (holds : given.Holds items) {name : String} :
    given.has name = true ↔ ∃ value, .option name value ∈ items := by
  rw [Given.has, Option.isSome_iff_exists]
  exact exists_congr (holds.option name)

theorem holds_of_foldlM (noted : items.foldlM (note form) {} = .ok given) : given.Holds items := by
  have all := notes_of_foldlM noted
  refine ⟨fun name value => ?_, fun text => by simp [all.operand]⟩
  rw [all.option]
  simp [option?]

end Given

namespace Form

variable {form : Form} (positive : form.negativeOperand = false) {arguments : List String} {items : List Item}
include positive

/-- Arguments are read by noting their items, none of which may come twice. -/
theorem read_of_reading (reading : form.Reading arguments items) :
    ∃ only, form.read arguments = (items.foldlM (Given.note form) {}).map (Given.restrict only) := by
  have free : ({} : Given).awaiting = none := rfl
  obtain ⟨only, same⟩ := Given.foldlM_add_of_reading positive reading rfl free
  refine ⟨only, ?_⟩
  rw [read, same]
  cases noted : items.foldlM (Given.note form) {} with
  | error detour => rfl
  | ok given =>
    have free := (Given.notes_of_foldlM noted).free free
    show (if given.awaiting.isSome then _ else _) = _
    rw [free]
    rfl

/-- Arguments that are read have items that the form takes, and these are given. -/
theorem exists_reading_of_read {given : Given} (accepted : form.read arguments = .ok given) :
    ∃ items, form.Reading arguments items ∧ form.Permits items ∧ given.Holds items := by
  obtain ⟨last, folded, whole⟩ := bind_eq_ok_iff.mp accepted
  have complete : last.awaiting = none := by
    cases awaits : last.awaiting with
    | none => rfl
    | some flag =>
      rw [awaits] at whole
      contradiction
  obtain ⟨items, reading⟩ := Given.exists_reading positive folded complete rfl
  obtain ⟨only, same⟩ := read_of_reading positive reading
  obtain ⟨last, noted, rfl⟩ := map_eq_ok_iff.mp (same.symm.trans accepted)
  have permits := (Given.exists_foldlM_note_iff.mp ⟨last, noted⟩).1
  have holds := Given.holds_of_foldlM noted
  exact ⟨items, reading, permits, holds.option, holds.operand⟩

/-- Arguments with items that the form takes are read. -/
theorem exists_read_of_reading (reading : form.Reading arguments items) (permits : form.Permits items) :
    ∃ given, form.read arguments = .ok given ∧ given.Holds items := by
  have free : ∀ place ∈ items.map Item.place, ¬ ({} : Given).Fills place := by
    intro place _
    cases place <;> simp [Given.Fills, Given.has, Given.option?]
  obtain ⟨only, same⟩ := read_of_reading positive reading
  obtain ⟨given, noted⟩ := Given.exists_foldlM_note_iff.mpr ⟨permits, free⟩
  have holds := Given.holds_of_foldlM noted
  rw [same, noted]
  exact ⟨_, rfl, holds.option, holds.operand⟩

end Form

/-- A rendering is what items ask for. Its input is the operand, or the standard one where there is none. -/
structure Rendering.AskedBy (rendering : Rendering) (items : List Item) : Prop where
  input : ∀ text, .operand text ∈ items → rendering.input = text
  noInput : (∀ text, .operand text ∉ items) → rendering.input = "-"
  data : ∀ path, rendering.data = path ↔ .option "data" path ∈ items
  config : ∀ path, rendering.config = some path ↔ .option "config" path ∈ items
  styled : rendering.styled = true ↔ ∃ value, .option "styling" value ∈ items
  classPrefix : ∀ text, rendering.classPrefix = some text ↔ .option "prefix" text ∈ items
  tag : ∀ name, rendering.tag = some name ↔ .option "tag" name ∈ items
  language : ∀ language, rendering.language = some language ↔ .option "lang" language.code ∈ items
  like : rendering.like = true ↔ ∃ value, .option "like" value ∈ items
  context : ∀ name, rendering.context = some name ↔ .option "context" name ∈ items

theorem languageOf?_eq_some_iff {code : String} {language : Language} :
    languageOf? code = some language ↔ code = language.code := by
  constructor
  · intro found
    simpa [eq_comm] using List.find?_some found
  · rintro rfl
    cases language <;> rfl

namespace Rendering

variable {items : List Item} {one two : Rendering}

/-- Items ask for one rendering only. -/
theorem AskedBy.unique (first : one.AskedBy items) (second : two.AskedBy items) : one = two := by
  have input : one.input = two.input := by
    by_cases given : ∃ text, .operand text ∈ items
    · obtain ⟨text, member⟩ := given
      rw [first.input text member, second.input text member]
    · rw [first.noInput (not_exists.mp given), second.noInput (not_exists.mp given)]
  cases one
  cases two
  rw [mk.injEq]
  exact ⟨input, (first.data _).mpr ((second.data _).mp rfl),
    Option.ext fun path => (first.config path).trans (second.config path).symm,
    Bool.eq_iff_iff.mpr (first.styled.trans second.styled.symm),
    Option.ext fun text => (first.classPrefix text).trans (second.classPrefix text).symm,
    Option.ext fun name => (first.tag name).trans (second.tag name).symm,
    Option.ext fun language => (first.language language).trans (second.language language).symm,
    Bool.eq_iff_iff.mpr (first.like.trans second.like.symm),
    Option.ext fun name => (first.context name).trans (second.context name).symm⟩

end Rendering

section Asking

variable {arguments : List String} {items : List Item} {asked : Rendering}

/-- What is given is a rendering if the data are. -/
theorem exists_asked {given : Given} {path : String} (read : renderForm.read arguments = .ok given)
    (holds : given.Holds items) (data : given.option? "data" = some path) :
    ∃ asked, rendering arguments = .ok asked ∧ asked.AskedBy items := by
  rw [rendering, read]
  simp only [bind, Except.bind, data]
  refine ⟨_, rfl, ?_, ?_, ?_, holds.option "config", holds.has, holds.option "prefix", holds.option "tag", ?_,
    holds.has, holds.option "context"⟩
  · intro text member
    simp [(holds.operand text).mpr member]
  · intro none
    have missing : given.operand = .none :=
      Option.eq_none_iff_forall_ne_some.mpr fun text there => none text ((holds.operand text).mp there)
    simp [missing, standardInput]
  · intro other
    rw [← holds.option, data, Option.some.injEq]
  · intro language
    simp only [Option.bind_eq_some_iff, languageOf?_eq_some_iff, exists_eq_right]
    exact holds.option "lang" language.code

/-- Arguments are read as the rendering that their items ask for. -/
theorem rendering_eq_ok_iff :
    rendering arguments = .ok asked ↔
      ∃ items, renderForm.Reading arguments items ∧ renderForm.Permits items ∧ asked.AskedBy items := by
  constructor
  · intro accepted
    obtain ⟨given, read, gives⟩ := bind_eq_ok_iff.mp accepted
    obtain ⟨items, reading, permits, holds⟩ := Form.exists_reading_of_read rfl read
    cases data : given.option? "data" with
    | none =>
      simp only [data] at gives
      contradiction
    | some path =>
      obtain ⟨other, again, asks⟩ := exists_asked read holds data
      obtain rfl := Except.ok.inj (accepted.symm.trans again)
      exact ⟨items, reading, permits, asks⟩
  · rintro ⟨items, reading, permits, asks⟩
    obtain ⟨given, read, holds⟩ := Form.exists_read_of_reading rfl reading permits
    have data := (holds.option "data" asked.data).mpr ((asks.data asked.data).mp rfl)
    obtain ⟨other, accepted, others⟩ := exists_asked read holds data
    rw [accepted, asks.unique others]

end Asking

/-- The only command that renders is called so. -/
theorem rendering_of_lookup {name : String} {read : List String → Except Detour Invocation} {arguments : List String}
    {asked : Rendering} (found : commands.lookup name = some read) (reads : read arguments = .ok (.render asked)) :
    name = "render" ∧ rendering arguments = .ok asked := by
  simp only [commands, List.lookup_cons, List.lookup_nil] at found
  split at found
  · next same =>
    rw [← Option.some.inj found] at reads
    obtain ⟨other, accepted, rendered⟩ := map_eq_ok_iff.mp reads
    obtain rfl := Invocation.render.inj rendered
    exact ⟨by simpa using same, accepted⟩
  · split at found
    · rw [← Option.some.inj found] at reads
      obtain ⟨_, -, listed⟩ := map_eq_ok_iff.mp reads
      contradiction
    · split at found
      · rw [← Option.some.inj found] at reads
        contradiction
      · contradiction

/-- What an argument in front of a command may say. -/
def verbose : Item :=
  .option "verbose" ""

theorem eq_verbose_of_switch {flag : Flag} (member : flag ∈ mainForm.flags) (switches : flag.use = .switch) :
    flag = ⟨"verbose", some 'v', .switch⟩ := by
  simp only [mainForm, commonFlags, List.mem_cons, List.not_mem_nil, or_false] at member
  rcases member with rfl | rfl | rfl
  · contradiction
  · rfl
  · contradiction

theorem not_takesValue_of_mem_mainForm {flag : Flag} (member : flag ∈ mainForm.flags) : ¬ flag.TakesValue := by
  rintro ⟨accepts, use⟩
  simp only [mainForm, commonFlags, List.mem_cons, List.not_mem_nil, or_false] at member
  rcases member with rfl | rfl | rfl <;> contradiction

section Main

variable {argument : String} {letters : List Char} {items : List Item} {awaited : Option Flag}

theorem eq_replicate_of_letters (reads : mainForm.Letters letters items awaited) :
    awaited = none ∧ ∃ count, letters = List.replicate count 'v' ∧ items = List.replicate count verbose := by
  induction reads with
  | nothing => exact ⟨rfl, 0, rfl, rfl⟩
  | switch known switches _ step =>
    obtain ⟨rfl, count, rfl, rfl⟩ := step
    obtain rfl := eq_verbose_of_switch (List.mem_of_find?_eq_some known) switches
    have letter := List.find?_some known
    rw [decide_eq_true_eq] at letter
    refine ⟨rfl, count + 1, ?_, rfl⟩
    rw [List.replicate_succ, ← Option.some.inj letter]
  | behindSign known takes | behind known _ takes =>
    exact absurd takes.takesValue (not_takesValue_of_mem_mainForm (List.mem_of_find?_eq_some known))
  | half known takes => exact absurd takes (not_takesValue_of_mem_mainForm (List.mem_of_find?_eq_some known))

/-- An argument in front of a command is the command or the option that has no value. -/
theorem operand_or_verbose (word : mainForm.Word argument items awaited) (permits : mainForm.Permits items) :
    awaited = none ∧ (items = [.operand argument] ∨ argument ∈ ["-v", "--verbose"] ∧ items = [verbose]) := by
  cases word with
  | operand => exact ⟨rfl, .inl rfl⟩
  | switch _ _ known switches =>
    obtain rfl := eq_verbose_of_switch (List.mem_of_find?_eq_some known) switches
    have named := List.find?_some known
    rw [decide_eq_true_eq] at named
    subst named
    exact ⟨rfl, .inr ⟨by simp, rfl⟩⟩
  | value _ known takes =>
    exact absurd takes.takesValue (not_takesValue_of_mem_mainForm (List.mem_of_find?_eq_some known))
  | half _ _ known takes =>
    exact absurd takes (not_takesValue_of_mem_mainForm (List.mem_of_find?_eq_some known))
  | letters nonempty _ reads =>
    obtain ⟨rfl, count, rfl, rfl⟩ := eq_replicate_of_letters reads
    have few : count ≤ 1 := by simpa using permits.once
    obtain rfl | rfl : count = 0 ∨ count = 1 := by omega
    · contradiction
    · exact ⟨rfl, .inr ⟨by simp, rfl⟩⟩

end Main

/-- What may stand in front of a command. -/
def openings : List (List String) :=
  [[], ["-v"], ["--verbose"]]

/-- A call that renders names the command behind one of the openings, of which none is left once one is given. -/
theorem exists_render_of_invocationAfter {arguments : List String} {asked : Rendering} {given : Given}
    (calls : invocationAfter given arguments = .ok (.render asked)) (options : given.operandsOnly = false)
    (free : given.awaiting = none) (missing : given.operand = none) :
    ∃ opening ∈ openings, ∃ rest, arguments = opening ++ "render" :: rest ∧ rendering rest = .ok asked ∧
      (given.has "verbose" = true → opening = []) := by
  induction arguments generalizing given with
  | nil => contradiction
  | cons argument rest step =>
    obtain ⟨later, added, goesOn⟩ := bind_eq_ok_iff.mp calls
    by_cases ends : argument = "--"
    · subst ends
      rw [Given.add_dashes options free] at added
      obtain rfl := Except.ok.inj added
      have missing : (given.restrict true).operand = none := missing
      rw [missing] at goesOn
      contradiction
    · obtain ⟨items, awaited, noted, word, folded, rfl⟩ := Given.exists_noted_of_add options free rfl ends added
      have notes := Given.notes_of_foldlM folded
      obtain ⟨permits, fresh⟩ := Given.exists_foldlM_note_iff.mp ⟨noted, folded⟩
      obtain ⟨rfl, rfl | ⟨opens, rfl⟩⟩ := operand_or_verbose word permits
      · have operand : (noted.await none).operand = some argument := (notes.operand argument).mpr (.inr (by simp))
        simp only [operand] at goesOn
        cases found : commands.lookup argument with
        | none =>
          rw [found] at goesOn
          contradiction
        | some read =>
          rw [found] at goesOn
          obtain ⟨rfl, accepted⟩ := rendering_of_lookup found goesOn
          exact ⟨[], by simp [openings], rest, rfl, accepted, fun _ => rfl⟩
      · have missing : (noted.await none).operand = none :=
          Option.eq_none_iff_forall_ne_some.mpr fun text there =>
            ((notes.operand text).mp there).elim (by simp [missing]) (by simp [verbose])
        have options : (noted.await none).operandsOnly = false := notes.operandsOnly.trans options
        have given : (noted.await none).has "verbose" = true :=
          (notes.fills (some "verbose")).mpr (.inr (by simp [verbose, Item.place]))
        simp only [missing, options] at goesOn
        obtain ⟨opening, -, behind, rfl, accepted, nothing⟩ := step goesOn options rfl missing
        obtain rfl := nothing given
        refine ⟨[argument], ?_, behind, rfl, accepted, fun before => ?_⟩
        · simpa [openings] using opens
        · exact absurd before (fresh (some "verbose") (by simp [verbose, Item.place]))

/-- Arguments ask for a rendering: they name the command, and the others behind it say what to render and how. -/
def Rendering.WrittenBy (asked : Rendering) (arguments : List String) : Prop :=
  ∃ opening ∈ openings, ∃ rest items, arguments = opening ++ "render" :: rest ∧ renderForm.Reading rest items ∧
    renderForm.Permits items ∧ asked.AskedBy items

/-- The calls that render are the ones whose arguments ask for that. -/
theorem invocation_eq_render_iff {arguments : List String} {asked : Rendering} :
    invocation arguments = .ok (.render asked) ↔ asked.WrittenBy arguments := by
  constructor
  · intro calls
    obtain ⟨opening, opens, rest, divided, accepted, -⟩ := exists_render_of_invocationAfter calls rfl rfl rfl
    obtain ⟨items, reading, permits, asks⟩ := rendering_eq_ok_iff.mp accepted
    exact ⟨opening, opens, rest, items, divided, reading, permits, asks⟩
  · rintro ⟨opening, opens, rest, items, rfl, reading, permits, asks⟩
    have accepted := rendering_eq_ok_iff.mpr ⟨items, reading, permits, asks⟩
    have calls : invocation (opening ++ "render" :: rest) = (rendering rest).map Invocation.render := by
      simp only [openings, List.mem_cons, List.not_mem_nil, or_false] at opens
      rcases opens with rfl | rfl | rfl <;> rfl
    rw [calls, accepted]
    rfl

end RecordFill.Command

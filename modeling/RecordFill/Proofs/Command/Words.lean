import RecordFill.Command.Invocation
import RecordFill.Proofs.Attempts
import RecordFill.Proofs.Text.Search
import Mathlib.Data.List.Infix

namespace RecordFill.Command

open Text (cut?_eq_none_iff cut?_eq_some_iff firstCut_singleton_iff)

/-- What arguments say: options with their values, which are empty for switches, and operands. -/
inductive Item where
  | option (name value : String)
  | operand (text : String)

/-- The place that an item takes: that of an option, or that of the operand. -/
def Item.place : Item → Option String
  | .option name _ => some name
  | .operand _ => none

/-- An argument that is no option: no dash begins it, or it is a single one. -/
def Plain (argument : String) : Prop :=
  argument.toList.head? ≠ some '-' ∨ argument = "-"

namespace Flag

def TakesValue (flag : Flag) : Prop :=
  ∃ accepts, flag.use = .value accepts

def Takes (flag : Flag) (value : String) : Prop :=
  ∃ accepts, flag.use = .value accepts ∧ accepts value = true

theorem Takes.takesValue {flag : Flag} {value : String} (takes : flag.Takes value) : flag.TakesValue := by
  obtain ⟨accepts, use, -⟩ := takes
  exact ⟨accepts, use⟩

end Flag

namespace Form

variable (form : Form)

/-- Letters behind a dash: switches one after the other, and then perhaps an option with a value. The value follows
the letter of the option, perhaps behind an equals sign, or is still awaited. -/
inductive Letters : List Char → List Item → Option Flag → Prop where
  | nothing : Letters [] [] none
  | switch {letter : Char} {flag : Flag} {rest : List Char} {items : List Item} {awaited : Option Flag}
      (known : form.flags.find? (·.letter = some letter) = some flag) (switches : flag.use = .switch)
      (others : Letters rest items awaited) : Letters (letter :: rest) (.option flag.name "" :: items) awaited
  | behindSign {letter : Char} {flag : Flag} {value : List Char}
      (known : form.flags.find? (·.letter = some letter) = some flag)
      (takes : flag.Takes (String.ofList value)) :
      Letters (letter :: '=' :: value) [.option flag.name (String.ofList value)] none
  | behind {letter first : Char} {flag : Flag} {value : List Char}
      (known : form.flags.find? (·.letter = some letter) = some flag) (noSign : first ≠ '=')
      (takes : flag.Takes (String.ofList (first :: value))) :
      Letters (letter :: first :: value) [.option flag.name (String.ofList (first :: value))] none
  | half {letter : Char} {flag : Flag} (known : form.flags.find? (·.letter = some letter) = some flag)
      (takes : flag.TakesValue) : Letters [letter] [] (some flag)

/-- What an argument says by itself, and the option whose value is still awaited. An option by its name has two
dashes, and its value stands behind the first equals sign. -/
inductive Word : String → List Item → Option Flag → Prop where
  | operand {text : String} (plain : Plain text) : Word text [.operand text] none
  | switch {name : String} {flag : Flag} (nonempty : name ≠ "") (noSign : '=' ∉ name.toList)
      (known : form.flags.find? (·.name = name) = some flag) (switches : flag.use = .switch) :
      Word ("--" ++ name) [.option flag.name ""] none
  | value {name value : String} {flag : Flag} (noSign : '=' ∉ name.toList)
      (known : form.flags.find? (·.name = name) = some flag) (takes : flag.Takes value) :
      Word ("--" ++ name ++ "=" ++ value) [.option flag.name value] none
  | half {name : String} {flag : Flag} (nonempty : name ≠ "") (noSign : '=' ∉ name.toList)
      (known : form.flags.find? (·.name = name) = some flag) (takes : flag.TakesValue) :
      Word ("--" ++ name) [] (some flag)
  | letters {letters : List Char} {items : List Item} {awaited : Option Flag} (nonempty : letters ≠ [])
      (single : letters.head? ≠ some '-') (reads : form.Letters letters items awaited) :
      Word (String.ofList ('-' :: letters)) items awaited

/-- Items that the form takes: no option comes twice, and at most one operand, which is of the right kind. -/
structure Permits (items : List Item) : Prop where
  once : (items.map Item.place).Nodup
  operand : ∀ text, .operand text ∈ items → form.acceptsOperand text = true

end Form

namespace Given

/-- What is given with one more item. No option may be given twice. -/
def note (form : Form) (given : Given) : Item → Except Detour Given
  | .option name value =>
    if given.has name then .error .wrongUsage
    else .ok { given with options := (name, value) :: given.options, awaiting := none }
  | .operand text => given.addOperand form text

variable {form : Form} {given later : Given} {awaited : Option Flag} {argument : String} {items : List Item}

def await (awaited : Option Flag) (given : Given) : Given :=
  { given with awaiting := awaited }

/-- What is given after some more items: all of them, and what was given before. Nothing else changes. -/
structure Notes (given later : Given) (items : List Item) : Prop where
  option : ∀ name value,
    later.option? name = some value ↔ given.option? name = some value ∨ .option name value ∈ items
  operand : ∀ text, later.operand = some text ↔ given.operand = some text ∨ .operand text ∈ items
  operandsOnly : later.operandsOnly = given.operandsOnly
  free : given.awaiting = none → later.awaiting = none

theorem notes_of_note {item : Item} (noted : given.note form item = .ok later) : given.Notes later [item] := by
  cases item with
  | option name value =>
    rw [note] at noted
    split at noted
    · contradiction
    · next fresh =>
      have missing : given.options.lookup name = none := Option.not_isSome_iff_eq_none.mp fresh
      rw [← Except.ok.inj noted]
      refine ⟨fun other content => ?_, fun text => by simp, rfl, fun _ => rfl⟩
      by_cases same : other = name
      · subst same
        simp [option?, missing, eq_comm]
      · have differs : (other == name) = false := beq_eq_false_iff_ne.mpr same
        simp [option?, List.lookup_cons, differs, same]
  | operand text =>
    rw [note, addOperand] at noted
    split at noted
    · contradiction
    · next fresh =>
      have missing : given.operand = none := by simp_all
      rw [← Except.ok.inj noted]
      exact ⟨fun other content => by simp [option?], fun text' => by simp [missing, eq_comm], rfl, id⟩

theorem Notes.append {between : Given} {more : List Item} (first : given.Notes between items)
    (others : between.Notes later more) : given.Notes later (items ++ more) where
  option name value := by rw [others.option, first.option, List.mem_append, or_assoc]
  operand text := by rw [others.operand, first.operand, List.mem_append, or_assoc]
  operandsOnly := others.operandsOnly.trans first.operandsOnly
  free free := others.free (first.free free)

theorem notes_of_foldlM (noted : items.foldlM (note form) given = .ok later) : given.Notes later items := by
  induction items generalizing given with
  | nil =>
    rw [← Except.ok.inj noted]
    exact ⟨by simp, by simp, rfl, id⟩
  | cons item items step =>
    obtain ⟨between, first, others⟩ := foldlM_cons_eq_ok_iff.mp noted
    exact (notes_of_note first).append (step others)

/-- Whether a place is taken. -/
def Fills (given : Given) : Option String → Prop
  | some name => given.has name = true
  | none => given.operand.isSome = true

theorem Notes.fills (notes : given.Notes later items) (place : Option String) :
    later.Fills place ↔ given.Fills place ∨ place ∈ items.map Item.place := by
  cases place with
  | some name =>
    simp only [Fills, has, Option.isSome_iff_exists, notes.option, exists_or, List.mem_map]
    refine or_congr_right ⟨?_, ?_⟩
    · rintro ⟨value, member⟩
      exact ⟨_, member, rfl⟩
    · rintro ⟨item, member, same⟩
      cases item with
      | option other value =>
        obtain rfl := Option.some.inj same
        exact ⟨value, member⟩
      | operand text => contradiction
  | none =>
    simp only [Fills, Option.isSome_iff_exists, notes.operand, exists_or, List.mem_map]
    refine or_congr_right ⟨?_, ?_⟩
    · rintro ⟨text, member⟩
      exact ⟨_, member, rfl⟩
    · rintro ⟨item, member, same⟩
      cases item with
      | option other value => contradiction
      | operand text => exact ⟨text, member⟩

/-- An item is noted if its place is free, and if it is an operand of the right kind. -/
theorem exists_note_iff {item : Item} :
    (∃ later, given.note form item = .ok later) ↔
      ¬ given.Fills item.place ∧ ∀ text, item = .operand text → form.acceptsOperand text = true := by
  cases item with
  | option name value =>
    rw [note]
    by_cases taken : given.has name = true
    · simp [taken, Item.place, Fills]
    · simp [taken, Item.place, Fills]
  | operand text =>
    rw [note, addOperand]
    by_cases taken : given.operand.isSome = true
    · simp [taken, Item.place, Fills]
    · cases accepted : form.acceptsOperand text <;> simp [taken, accepted, Item.place, Fills]

/-- Items are noted if the form takes them and their places are free. -/
theorem exists_foldlM_note_iff :
    (∃ later, items.foldlM (note form) given = .ok later) ↔
      form.Permits items ∧ ∀ place ∈ items.map Item.place, ¬ given.Fills place := by
  induction items generalizing given with
  | nil => exact ⟨fun _ => ⟨⟨.nil, by simp⟩, by simp⟩, fun _ => ⟨given, rfl⟩⟩
  | cons item items step =>
    simp only [foldlM_cons_eq_ok_iff]
    constructor
    · rintro ⟨later, between, first, others⟩
      obtain ⟨permits, free⟩ := step.mp ⟨later, others⟩
      obtain ⟨fresh, accepted⟩ := exists_note_iff.mp ⟨between, first⟩
      have fills := (notes_of_note first).fills
      simp only [fills, not_or] at free
      refine ⟨⟨?_, ?_⟩, ?_⟩
      · rw [List.map_cons, List.nodup_cons]
        exact ⟨fun member => (free _ member).2 (by simp), permits.once⟩
      · intro text member
        rcases List.mem_cons.mp member with same | member
        · exact accepted text same.symm
        · exact permits.operand text member
      · rw [List.map_cons, List.forall_mem_cons]
        exact ⟨fresh, fun place member => (free place member).1⟩
    · rintro ⟨permits, free⟩
      rw [List.map_cons, List.forall_mem_cons] at free
      have once := permits.once
      rw [List.map_cons, List.nodup_cons] at once
      obtain ⟨between, first⟩ := exists_note_iff.mpr
        ⟨free.1, fun text same => permits.operand text (by rw [same]; exact List.mem_cons_self)⟩
      have still : ∀ place ∈ items.map Item.place, ¬ between.Fills place := by
        intro place member filled
        rcases ((notes_of_note first).fills place).mp filled with before | same
        · exact free.2 place member before
        · rw [List.map_singleton, List.mem_singleton] at same
          exact once.1 (same ▸ member)
      have rest : form.Permits items :=
        ⟨once.2, fun text member => permits.operand text (List.mem_cons_of_mem _ member)⟩
      obtain ⟨later, others⟩ := step.mpr ⟨rest, still⟩
      exact ⟨later, between, first, others⟩

/-- A value of the right kind is noted for its option. -/
theorem addValue_of_takes (form : Form) {flag : Flag} {value : String} (takes : flag.Takes value) (given : Given) :
    given.addValue flag value = given.note form (.option flag.name value) := by
  obtain ⟨accepts, use, accepted⟩ := takes
  simp only [addValue, use, accepted, if_true]
  rfl

theorem takes_of_addValue {flag : Flag} {value : String} (added : given.addValue flag value = .ok later) :
    flag.Takes value := by
  rw [addValue] at added
  split at added
  · next accepts use =>
    split at added
    · next accepted => exact ⟨accepts, use, accepted⟩
    · contradiction
  · contradiction

theorem switch_or_takesValue_of_addFlag {flag : Flag} (added : given.addFlag flag = .ok later) :
    flag.use = .switch ∨ flag.TakesValue := by
  rw [addFlag] at added
  split at added
  · next use => exact .inl use
  · next accepts use => exact .inr ⟨accepts, use⟩
  · contradiction
  · contradiction

theorem foldlM_note_singleton {item : Item} (free : given.awaiting = none) :
    ([item].foldlM (note form) given).map (await none) = given.note form item := by
  rw [List.foldlM_cons]
  cases noted : given.note form item with
  | error detour => rfl
  | ok later =>
    have kept := (notes_of_note noted).free free
    show Except.ok (later.await none) = .ok later
    rw [await, ← kept]

section Reading

variable (free : given.awaiting = none)
include free

/-- Letters are noted as what they say. -/
theorem addLetters_of_letters {letters : List Char} (reads : form.Letters letters items awaited) :
    given.addLetters form letters = (items.foldlM (note form) given).map (await awaited) := by
  induction reads generalizing given with
  | nothing =>
    show Except.ok given = .ok (given.await none)
    rw [await, ← free]
  | @switch letter flag rest items awaited known switches others step =>
    have opened : given.addLetters form (letter :: rest) =
        given.note form (.option flag.name "") >>= fun given => given.addLetters form rest := by
      simp only [addLetters, known, switches, addFlag]
      rfl
    rw [opened, List.foldlM_cons]
    cases noted : given.note form (.option flag.name "") with
    | error detour => rfl
    | ok between => exact step ((notes_of_note noted).free free)
  | @behindSign letter flag value known takes =>
    rw [foldlM_note_singleton free, ← addValue_of_takes form takes]
    obtain ⟨accepts, use, -⟩ := takes
    simp only [addLetters, known, use]
  | @behind letter first flag value known noSign takes =>
    rw [foldlM_note_singleton free, ← addValue_of_takes form takes]
    obtain ⟨accepts, use, -⟩ := takes
    simp only [addLetters, known, use]
  | @half letter flag known takes =>
    obtain ⟨accepts, use⟩ := takes
    simp only [addLetters, known, use, addFlag]
    rfl

end Reading

theorem exists_letters {letters : List Char} (read : given.addLetters form letters = .ok later) :
    ∃ items awaited, form.Letters letters items awaited := by
  induction letters generalizing given with
  | nil => exact ⟨[], none, .nothing⟩
  | cons letter rest step =>
    rw [addLetters] at read
    split at read
    · contradiction
    · next flag known =>
      split at read
      · exact ⟨_, _, .behindSign known (takes_of_addValue read)⟩
      · next noSign _ => exact ⟨_, _, .behind known noSign (takes_of_addValue read)⟩
      · next behind _ _ _ alone =>
        obtain ⟨between, added, others⟩ := bind_eq_ok_iff.mp read
        obtain ⟨items, awaited, reads⟩ := step others
        rcases switch_or_takesValue_of_addFlag added with use | takes
        · exact ⟨_, _, .switch known use reads⟩
        · obtain ⟨accepts, use⟩ := takes
          cases behind with
          | nil => exact ⟨_, _, .half known ⟨accepts, use⟩⟩
          | cons first value => exact (alone accepts first value use rfl).elim

/-- An option goes by the name in front of the first equals sign, which its value follows. -/
theorem addNamed_of_sign {name : String} {flag : Flag} (noSign : '=' ∉ name.toList)
    (known : form.flags.find? (·.name = name) = some flag) (value : String) :
    given.addNamed form (name.toList ++ '=' :: value.toList) = given.addValue flag value := by
  have divided : Text.cut? ['='] (name.toList ++ '=' :: value.toList) = some (name.toList, value.toList) :=
    cut?_eq_some_iff.mpr (firstCut_singleton_iff.mpr noSign)
  rw [addNamed, divided]
  simp only [String.ofList_toList, known]

theorem addNamed_of_noSign {name : String} {flag : Flag} (noSign : '=' ∉ name.toList)
    (known : form.flags.find? (·.name = name) = some flag) : given.addNamed form name.toList = given.addFlag flag := by
  have undivided : Text.cut? ['='] name.toList = none := by
    rwa [cut?_eq_none_iff, List.singleton_infix_iff]
  rw [addNamed, undivided]
  simp only [String.ofList_toList, known]

theorem exists_word_of_addNamed {text : List Char} (nonempty : text ≠ [])
    (added : given.addNamed form text = .ok later) :
    ∃ items awaited, form.Word ("--" ++ String.ofList text) items awaited := by
  cases divided : Text.cut? ['='] text with
  | none =>
    have noSign : '=' ∉ (String.ofList text).toList := by
      rw [String.toList_ofList, ← List.singleton_infix_iff, ← cut?_eq_none_iff, divided]
    have name : String.ofList text ≠ "" := by simpa using nonempty
    rw [addNamed, divided] at added
    simp only at added
    split at added
    · contradiction
    · next flag _ known _ =>
      rcases switch_or_takesValue_of_addFlag added with use | takes
      · exact ⟨_, _, .switch name noSign known use⟩
      · exact ⟨_, _, .half name noSign known takes⟩
    · contradiction
  | some sides =>
    obtain ⟨name, value⟩ := sides
    have cut := cut?_eq_some_iff.mp divided
    obtain rfl : text = name ++ '=' :: value := by simpa using cut.divides
    have noSign : '=' ∉ (String.ofList name).toList := by
      rw [String.toList_ofList]
      exact firstCut_singleton_iff.mp cut
    have written : "--" ++ String.ofList (name ++ '=' :: value) =
        "--" ++ String.ofList name ++ "=" ++ String.ofList value := by
      rw [← String.toList_inj]
      simp
    rw [addNamed, divided] at added
    simp only at added
    split at added
    · next flag content known same =>
      obtain rfl := Option.some.inj same
      rw [written]
      exact ⟨_, _, .value noSign known (takes_of_addValue added)⟩
    · contradiction
    · contradiction

section Argument

variable (options : given.operandsOnly = false)
include options

/-- An argument that is no option is the value that is awaited or the operand. -/
theorem add_of_plain (plain : Plain argument) : given.add form argument = given.addPlain form argument := by
  rw [Given.add, if_neg (by simp [options])]
  rcases plain with noDash | rfl
  · split
    · next written => simp [written] at noDash
    · next written => simp [written] at noDash
    · next written => simp [written] at noDash
    · rfl
  · rfl

variable (free : given.awaiting = none)
include free

theorem add_of_dashes {text : List Char} (written : argument.toList = '-' :: '-' :: text) (nonempty : text ≠ []) :
    given.add form argument = given.addNamed form text := by
  cases text with
  | nil => contradiction
  | cons first rest =>
    rw [Given.add, if_neg (by simp [options]), written]
    exact if_neg (by simp [free])

/-- An option takes what stands behind its equals sign for its value. -/
theorem add_named {name : String} {flag : Flag} (known : form.flags.find? (·.name = name) = some flag)
    (noSign : '=' ∉ name.toList) (value : String) :
    given.add form ("--" ++ name ++ "=" ++ value) = given.addValue flag value := by
  have written : ("--" ++ name ++ "=" ++ value).toList = '-' :: '-' :: (name.toList ++ '=' :: value.toList) := by
    simp
  rw [add_of_dashes options free written (by simp), addNamed_of_sign noSign known]

variable (positive : form.negativeOperand = false)
include positive

theorem add_of_dash {letters : List Char} (written : argument.toList = '-' :: letters) (nonempty : letters ≠ [])
    (single : letters.head? ≠ some '-') : given.add form argument = given.addLetters form letters := by
  cases letters with
  | nil => contradiction
  | cons first rest =>
    have other : first ≠ '-' := by simpa using single
    rw [Given.add, if_neg (by simp [options]), written]
    -- of the ways to read an argument only that of a single dash fits
    split
    · next same => simp [other] at same
    · next same => simp [other] at same
    · next same =>
      obtain ⟨rfl, rfl⟩ := List.cons.inj (List.cons.inj same).2
      simp [positive, free]
    · next different => exact absurd rfl (different first rest)

/-- An argument is noted as what it says. -/
theorem add_of_word (word : form.Word argument items awaited) :
    given.add form argument = (items.foldlM (note form) given).map (await awaited) := by
  cases word with
  | operand plain =>
    rw [add_of_plain options plain, addPlain, free, foldlM_note_singleton free]
    rfl
  | @switch name flag nonempty noSign known switches =>
    have written : ("--" ++ name).toList = '-' :: '-' :: name.toList := by simp
    rw [add_of_dashes options free written (by simpa using nonempty), addNamed_of_noSign noSign known, addFlag,
      switches, foldlM_note_singleton free]
    rfl
  | @value name value flag noSign known takes =>
    rw [add_named options free known noSign, addValue_of_takes form takes, foldlM_note_singleton free]
  | @half name flag nonempty noSign known takes =>
    obtain ⟨accepts, use⟩ := takes
    have written : ("--" ++ name).toList = '-' :: '-' :: name.toList := by simp
    rw [add_of_dashes options free written (by simpa using nonempty), addNamed_of_noSign noSign known, addFlag, use]
    rfl
  | @letters letters items awaited nonempty single reads =>
    have written : (String.ofList ('-' :: letters)).toList = '-' :: letters := by simp
    rw [add_of_dash options free positive written nonempty single, addLetters_of_letters free reads]

/-- An argument that is read, and that does not end the options, is a word. -/
theorem exists_word (goesOn : argument ≠ "--") (added : given.add form argument = .ok later) :
    ∃ items awaited, form.Word argument items awaited := by
  by_cases plain : Plain argument
  · exact ⟨_, _, .operand plain⟩
  obtain ⟨dash, several⟩ := not_or.mp plain
  obtain ⟨text, written⟩ := List.head?_eq_some_iff.mp (not_not.mp dash)
  have spelled : argument = String.ofList ('-' :: text) := by rw [← written, String.ofList_toList]
  have nonempty : text ≠ [] := by
    rintro rfl
    exact several spelled
  by_cases named : text.head? = some '-'
  · obtain ⟨name, rfl⟩ := List.head?_eq_some_iff.mp named
    have nonempty : name ≠ [] := by
      rintro rfl
      exact goesOn spelled
    have dashes : argument = "--" ++ String.ofList name := by
      rw [← String.toList_inj, written]
      simp
    rw [add_of_dashes options free written nonempty] at added
    rw [dashes]
    exact exists_word_of_addNamed nonempty added
  · rw [add_of_dash options free positive written nonempty named] at added
    obtain ⟨items, awaited, reads⟩ := exists_letters added
    rw [spelled]
    exact ⟨items, awaited, .letters nonempty named reads⟩

/-- What is given with one more argument are the items of its word. -/
theorem exists_noted_of_add (goesOn : argument ≠ "--") (added : given.add form argument = .ok later) :
    ∃ items awaited noted, form.Word argument items awaited ∧ items.foldlM (note form) given = .ok noted ∧
      later = noted.await awaited := by
  obtain ⟨items, awaited, word⟩ := exists_word options free positive goesOn added
  rw [add_of_word options free positive word] at added
  obtain ⟨last, noted, rfl⟩ := map_eq_ok_iff.mp added
  exact ⟨items, awaited, last, word, noted, rfl⟩

end Argument

end Given

end RecordFill.Command

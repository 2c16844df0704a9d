import RecordFill.Command.Run
import RecordFill.Proofs.Command.Arguments
import RecordFill.Proofs.Config.Loading
import RecordFill.Proofs.Store.Loading

namespace RecordFill.Command

inductive Stage where
  | data
  | config
  | input
  | tag
  | regions

def Stage.order : List Stage :=
  [.data, .config, .input, .tag, .regions]

/-- A setting is what an option says if that is given, and is kept otherwise. -/
inductive Chosen {α : Type} : Option α → α → α → Prop where
  | given (value configured : α) : Chosen (some value) configured value
  | kept (configured : α) : Chosen none configured configured

theorem chosen_iff {α : Type} {option : Option α} {configured chosen : α} :
    Chosen option configured chosen ↔ chosen = option.getD configured := by
  constructor
  · intro choice
    cases choice <;> rfl
  · rintro rfl
    cases option with
    | none => exact .kept configured
    | some value => exact .given value configured

namespace Rendering

/-- Settings are those configured, except for what the options say. Styling and comparison by LIKE can only be
switched on, and the contexts and the diagnostics have no options. -/
structure Overrides (rendering : Rendering) (configured settings : Config) : Prop where
  tag : Chosen rendering.tag configured.tag settings.tag
  classPrefix : Chosen rendering.classPrefix configured.classPrefix settings.classPrefix
  styled : settings.styled = true ↔ rendering.styled = true ∨ configured.styled = true
  comparison : Chosen (if rendering.like = true then some .like else none) configured.comparison settings.comparison
  contexts : settings.contexts = configured.contexts
  language : Chosen rendering.language configured.language settings.language
  messages : settings.messages = configured.messages

theorem overrides_iff {rendering : Rendering} {configured settings : Config} :
    rendering.Overrides configured settings ↔ settings = rendering.override configured := by
  have like : (if rendering.like = true then some Comparison.like else none).getD configured.comparison =
      if rendering.like = true then .like else configured.comparison := by
    cases rendering.like <;> rfl
  constructor
  · intro overrides
    cases settings
    rw [override, Config.mk.injEq]
    exact ⟨chosen_iff.mp overrides.tag, chosen_iff.mp overrides.classPrefix,
      Bool.eq_iff_iff.mpr (by simpa using overrides.styled), (chosen_iff.mp overrides.comparison).trans like,
      overrides.contexts, chosen_iff.mp overrides.language, overrides.messages⟩
  · rintro rfl
    exact ⟨chosen_iff.mpr rfl, chosen_iff.mpr rfl, by simp [override], chosen_iff.mpr like.symm, rfl,
      chosen_iff.mpr rfl, rfl⟩

variable (rendering : Rendering) (files : Surroundings Id)

/-- The settings are those in the file that is named, and without one the defaults. -/
inductive SettingsIn : Config → Prop where
  | defaults (unnamed : rendering.config = none) : SettingsIn {}
  | file {path : String} {config : Config} (named : rendering.config = some path)
      (holds : Config.InFile path (files.file path) config) : SettingsIn config

/-- The contents of the input. -/
def contents : Except FileTrouble ByteArray :=
  if rendering.input = standardInput then files.input else files.file rendering.input

/-- What cannot be done when the input cannot be read. -/
def readingInput : String :=
  if rendering.input = standardInput then "failed to read stdin" else "failed to read " ++ rendering.input

variable [RegexCompiler]

/-- A renderer and a text are at hand: the records of the data file, the settings with what the options say, and the
input. -/
structure Ready (renderer : Renderer QueryError) (text : String) : Prop where
  loads : ∃ dataset, Dataset.InFile rendering.data (files.file rendering.data) dataset ∧
    renderer.source = dataset.source
  configures : ∃ config, rendering.SettingsIn files config ∧ rendering.Overrides config renderer.config
  reads : rendering.contents files = .ok text.toUTF8

/-- The output is the rendered text, or in a context what the preparation of the text leaves. -/
def Renders (output : String) : Prop :=
  ∃ renderer text, rendering.Ready files renderer text ∧
    match rendering.context with
    | none => renderer.render text = .ok output
    | some context => ∃ changed, (renderer.prepare context).run text = (.ok changed, output)

/-- A stage fails with a report of what could not be done and of what went wrong. The first three stages fail by
themselves, and the last two with what was loaded before them. -/
inductive Fails : Stage → Report → Prop where
  | data {failure : DatasetError} (missing : Dataset.NotInFile rendering.data (files.file rendering.data) failure) :
      Fails .data (("failed to load data " ++ rendering.data) :: Failure.chain failure)
  | config {path : String} {failure : ConfigError} (named : rendering.config = some path)
      (missing : Config.NotInFile path (files.file path) failure) :
      Fails .config (("failed to load config " ++ path) :: Failure.chain failure)
  | input {trouble : FileTrouble} (unreadable : Unreadable (rendering.contents files) trouble) :
      Fails .input (rendering.readingInput :: Failure.chain trouble)
  | tag {configured settings : Config} {refusal : PatternError} (configures : rendering.SettingsIn files configured)
      (overrides : rendering.Overrides configured settings) (refused : Tag.ofName settings.tag = .error refusal) :
      Fails .tag ("failed to set up renderer" :: Failure.chain (RenderError.tag (ε := QueryError) refusal))
  | regions {renderer : Renderer QueryError} {text : String} {failure : QueryError}
      (ready : rendering.Ready files renderer text)
      (fails : match rendering.context with
        | none => renderer.render text = .error failure
        | some context => ∃ content, (renderer.prepare context).run text = (.error failure, content)) :
      Fails .regions ("failed to render content" :: Failure.chain (RenderError.source failure))

/-- A stage fails, and none before it does. -/
def FailsFirst (stage : Stage) (report : Report) : Prop :=
  rendering.Fails files stage report ∧
    ∃ earlier later, Stage.order = earlier ++ stage :: later ∧
      ∀ before ∈ earlier, ∀ other, ¬ rendering.Fails files before other

end Rendering

namespace Rendering

variable [RegexCompiler] {rendering : Rendering} {renderer : Renderer QueryError} {text : String}

/-- The text succeeds as its rendering does, or in a context as its preparation does. -/
theorem text_eq_ok_iff {output : String} :
    rendering.text renderer text = .ok output ↔
      match rendering.context with
      | none => renderer.render text = .ok output
      | some context => ∃ changed, (renderer.prepare context).run text = (.ok changed, output) := by
  unfold Rendering.text
  cases rendering.context with
  | none => rfl
  | some context =>
    rcases ran : (renderer.prepare context).run text with ⟨answer, content⟩
    simp only [ran, map_eq_ok_iff]
    constructor
    · rintro ⟨changed, rfl, rfl⟩
      exact ⟨changed, rfl⟩
    · rintro ⟨changed, same⟩
      obtain ⟨rfl, rfl⟩ := Prod.mk.inj same
      exact ⟨changed, rfl, rfl⟩

/-- The text fails as its rendering does, or in a context as its preparation does. -/
theorem text_eq_error_iff {failure : QueryError} :
    rendering.text renderer text = .error failure ↔
      match rendering.context with
      | none => renderer.render text = .error failure
      | some context => ∃ content, (renderer.prepare context).run text = (.error failure, content) := by
  unfold Rendering.text
  cases rendering.context with
  | none => rfl
  | some context =>
    rcases ran : (renderer.prepare context).run text with ⟨answer, content⟩
    simp only [ran, map_eq_error_iff]
    constructor
    · rintro rfl
      exact ⟨content, rfl⟩
    · rintro ⟨_, same⟩
      exact (Prod.mk.inj same).1

end Rendering

/-- Actions without surroundings follow one another as their results do. -/
theorem run_bind {ε α β : Type} (action : ExceptT ε Id α) (next : α → ExceptT ε Id β) :
    (action >>= next).run = (Bind.bind (m := Except ε) action.run fun value => (next value).run) := by
  change (ExceptT.bindCont next action.run : Except ε β) = _
  cases action.run <;> rfl

section Stages

variable (files : Surroundings Id) (rendering : Rendering)

theorem loadData_run (path : String) :
    (loadData files path).run = during ("failed to load data " ++ path) (Dataset.ofFile path (files.file path)) := rfl

theorem readInput_run :
    (readInput files rendering.input).run =
      during rendering.readingInput ((rendering.contents files).bind textOfBytes) := by
  unfold readInput Rendering.readingInput Rendering.contents
  split <;> rfl

/-- Settings are loaded, or their file is named and fails. -/
theorem loadConfig_run_cases :
    (∃ config, rendering.SettingsIn files config ∧ (loadConfig files rendering.config).run = .ok config) ∨
      ∃ path failure, rendering.config = some path ∧ Config.NotInFile path (files.file path) failure ∧
        (loadConfig files rendering.config).run =
          .error (("failed to load config " ++ path) :: Failure.chain failure) := by
  cases named : rendering.config with
  | none => exact .inl ⟨{}, .defaults named, rfl⟩
  | some path =>
    have opened : (loadConfig files (some path)).run =
        during ("failed to load config " ++ path) (Config.ofFile path (files.file path)) := rfl
    rw [opened]
    cases loaded : Config.ofFile path (files.file path) with
    | ok config => exact .inl ⟨config, .file named (Config.ofFile_eq_ok_iff.mp loaded), rfl⟩
    | error failure => exact .inr ⟨path, failure, rfl, Config.ofFile_eq_error_iff.mp loaded, rfl⟩

variable [RegexCompiler]

/-- The text that is rendered with a dataset and settings, unless the tag of the settings is refused. -/
def renderWith (dataset : Dataset) (config : Config) (text : String) : Except Report String := do
  let renderer ← during "failed to set up renderer"
    ((Renderer.ofConfig dataset.source config).mapError (RenderError.tag (ε := QueryError)))
  during "failed to render content" ((rendering.text renderer text).mapError RenderError.source)

theorem render_run :
    (render files rendering).run =
      (do
        let dataset ← (loadData files rendering.data).run
        let config ← (loadConfig files rendering.config).run
        let text ← (readInput files rendering.input).run
        renderWith rendering dataset (rendering.override config) text : Except Report String) := by
  simp only [render, run_bind]
  rfl

end Stages

section Order

variable {files : Surroundings Id} {rendering : Rendering} {report : Report}

theorem settingsIn_unique {config other : Config} (one : rendering.SettingsIn files config)
    (two : rendering.SettingsIn files other) : config = other := by
  cases one with
  | defaults unnamed =>
    cases two with
    | defaults => rfl
    | file named => exact absurd (unnamed.symm.trans named) (by simp)
  | file named holds =>
    cases two with
    | defaults unnamed => exact absurd (unnamed.symm.trans named) (by simp)
    | file again others =>
      obtain rfl := Option.some.inj (named.symm.trans again)
      exact holds.unique others

variable [RegexCompiler]

theorem not_fails_data {dataset : Dataset} (holds : Dataset.InFile rendering.data (files.file rendering.data) dataset) :
    ¬ rendering.Fails files .data report := by
  rintro ⟨missing⟩
  exact holds.not_notInFile missing

theorem not_fails_config {config : Config} (configures : rendering.SettingsIn files config) :
    ¬ rendering.Fails files .config report := by
  intro stage
  cases stage with
  | config named missing =>
    cases configures with
    | defaults unnamed => exact absurd (unnamed.symm.trans named) (by simp)
    | file again holds =>
      obtain rfl := Option.some.inj (named.symm.trans again)
      exact holds.not_notInFile missing

theorem not_fails_input {text : String} (reads : rendering.contents files = .ok text.toUTF8) :
    ¬ rendering.Fails files .input report := by
  intro stage
  cases stage with
  | input unreadable => exact not_unreadable_of_text reads unreadable

theorem not_fails_tag {config : Config} {tag : Tag} (configures : rendering.SettingsIn files config)
    (accepted : Tag.ofName (rendering.override config).tag = .ok tag) : ¬ rendering.Fails files .tag report := by
  intro stage
  cases stage with
  | tag others overrides refused =>
    rw [Rendering.overrides_iff.mp overrides, ← settingsIn_unique configures others, accepted] at refused
    contradiction

/-- When everything is loaded, the text is rendered or one of the last two stages is the first to fail. -/
theorem renderWith_cases {dataset : Dataset} {config : Config} {text : String}
    (holds : Dataset.InFile rendering.data (files.file rendering.data) dataset)
    (configures : rendering.SettingsIn files config) (reads : rendering.contents files = .ok text.toUTF8) :
    (∃ output, renderWith rendering dataset (rendering.override config) text = .ok output ∧
      rendering.Renders files output) ∨
      ∃ stage report, renderWith rendering dataset (rendering.override config) text = .error report ∧
        rendering.FailsFirst files stage report := by
  unfold renderWith
  have overrides := Rendering.overrides_iff.mpr (Eq.refl (rendering.override config))
  cases made : Tag.ofName (rendering.override config).tag with
  | error refusal =>
    rw [Renderer.ofConfig_of_refused made]
    refine .inr ⟨.tag, _, rfl, .tag configures overrides made, [.data, .config, .input], _, rfl, ?_⟩
    simp [not_fails_data holds, not_fails_config configures, not_fails_input reads]
  | ok tag =>
    rw [Renderer.ofConfig_of_accepted made]
    let renderer : Renderer QueryError := ⟨dataset.source, rendering.override config, tag, made⟩
    have ready : rendering.Ready files renderer text := ⟨⟨dataset, holds, rfl⟩, ⟨config, configures, overrides⟩, reads⟩
    change (∃ output, during "failed to render content" ((rendering.text renderer text).mapError RenderError.source) =
      .ok output ∧ _) ∨ ∃ stage report, during "failed to render content"
        ((rendering.text renderer text).mapError RenderError.source) = .error report ∧ _
    cases gives : rendering.text renderer text with
    | ok output => exact .inl ⟨output, rfl, renderer, text, ready, Rendering.text_eq_ok_iff.mp gives⟩
    | error failure =>
      have fails := Rendering.text_eq_error_iff.mp gives
      refine .inr ⟨.regions, _, rfl, .regions ready fails, [.data, .config, .input, .tag], _, rfl, ?_⟩
      simp [not_fails_data holds, not_fails_config configures, not_fails_input reads, not_fails_tag configures made]

variable (files rendering) in
/-- All stages succeed and the output is what they lead to, or one of them is the first to fail. -/
theorem render_run_cases :
    (∃ output, (render files rendering).run = .ok output ∧ rendering.Renders files output) ∨
      ∃ stage report, (render files rendering).run = .error report ∧ rendering.FailsFirst files stage report := by
  rw [render_run, loadData_run, readInput_run]
  cases loads : Dataset.ofFile rendering.data (files.file rendering.data) with
  | error failure =>
    exact .inr ⟨.data, _, rfl, .data (Dataset.ofFile_eq_error_iff.mp loads), [], _, rfl, by simp⟩
  | ok dataset =>
    have holds := Dataset.ofFile_eq_ok_iff.mp loads
    obtain ⟨config, configures, settings⟩ | ⟨path, failure, named, missing, settings⟩ :=
      loadConfig_run_cases files rendering
    · rw [settings]
      cases reads : (rendering.contents files).bind textOfBytes with
      | error trouble =>
        have unreadable := bind_textOfBytes_eq_error_iff.mp reads
        refine .inr ⟨.input, _, rfl, .input unreadable, [.data, .config], _, rfl, ?_⟩
        simp [not_fails_data holds, not_fails_config configures]
      | ok text => exact renderWith_cases holds configures (bind_textOfBytes_eq_ok_iff.mp reads)
    · rw [settings]
      refine .inr ⟨.config, _, rfl, .config named missing, [.data], _, rfl, ?_⟩
      simp [not_fails_data holds]

/-- At most one renderer and one text are at hand. -/
theorem ready_unique {renderer other : Renderer QueryError} {text text' : String}
    (one : rendering.Ready files renderer text) (two : rendering.Ready files other text') :
    renderer = other ∧ text = text' := by
  obtain ⟨⟨dataset, holds, source⟩, ⟨config, configures, overrides⟩, reads⟩ := one
  obtain ⟨⟨dataset', holds', source'⟩, ⟨config', configures', overrides'⟩, reads'⟩ := two
  obtain rfl : dataset = dataset' := holds.unique holds'
  obtain rfl : config = config' := settingsIn_unique configures configures'
  refine ⟨?_, text_unique reads reads'⟩
  have settings := (Rendering.overrides_iff.mp overrides).trans (Rendering.overrides_iff.mp overrides').symm
  cases renderer with
  | mk _ _ _ accepted =>
    cases other with
    | mk _ _ _ accepted' =>
      simp only at source source' settings
      subst source source' settings
      obtain rfl := Except.ok.inj (accepted.symm.trans accepted')
      rfl

theorem renders_unique {output other : String} (one : rendering.Renders files output)
    (two : rendering.Renders files other) : output = other := by
  obtain ⟨renderer, text, ready, gives⟩ := one
  obtain ⟨renderer', text', ready', gives'⟩ := two
  obtain ⟨rfl, rfl⟩ := ready_unique ready ready'
  exact Except.ok.inj ((Rendering.text_eq_ok_iff.mpr gives).symm.trans (Rendering.text_eq_ok_iff.mpr gives'))

/-- Where there is an output, no stage fails. -/
theorem not_fails_of_renders {output : String} (renders : rendering.Renders files output) (stage : Stage)
    (report : Report) : ¬ rendering.Fails files stage report := by
  obtain ⟨renderer, text, ready, gives⟩ := renders
  cases stage with
  | data =>
    obtain ⟨dataset, holds, -⟩ := ready.loads
    exact not_fails_data holds
  | config =>
    obtain ⟨config, configures, -⟩ := ready.configures
    exact not_fails_config configures
  | input => exact not_fails_input ready.reads
  | tag =>
    obtain ⟨config, configures, overrides⟩ := ready.configures
    exact not_fails_tag configures (Rendering.overrides_iff.mp overrides ▸ renderer.accepted)
  | regions =>
    intro stage
    cases stage with
    | regions other fails =>
      obtain ⟨rfl, rfl⟩ := ready_unique ready other
      have succeeds := Rendering.text_eq_ok_iff.mpr gives
      rw [Rendering.text_eq_error_iff.mpr fails] at succeeds
      contradiction

end Order

section Listing

variable [RegexCompiler]

/-- A listing shows the rows of a record in the dataset, and nothing but the loading of the dataset can fail. -/
theorem fields_run (files : Surroundings Id) (listing : Listing) :
    (fields files listing).run =
      (during ("failed to load data " ++ listing.data)
        (Dataset.ofFile listing.data (files.file listing.data))).map fun dataset =>
          let rows := (Record.ofRows listing.id (dataset.rows listing.id)).rows
          if listing.json then (Json.Value.array (rows.map Row.toJson)).toText .indented ++ "\n" else table rows := by
  unfold fields
  rw [run_bind, loadData_run]
  cases Dataset.ofFile listing.data (files.file listing.data) with
  | error failure => rfl
  | ok dataset => cases listing.json <;> rfl

/-- A call that lists the fields of a record in a dataset prints its rows and behind them that of its id. -/
theorem run_fields {files : Surroundings Id} {arguments : List String} {listing : Listing} {dataset : Dataset}
    (written : invocation arguments = .ok (.fields listing))
    (loads : Dataset.ofFile listing.data (files.file listing.data) = .ok dataset) :
    let rows := dataset.rows listing.id ++ [Record.idRow listing.id]
    Id.run (run files arguments) = .printed
      (if listing.json then (Json.Value.array (rows.map Row.toJson)).toText .indented ++ "\n" else table rows) := by
  have runs : Id.run (run files arguments) = run.finish (fields files listing).run := by
    rw [run, written]
    rfl
  rw [runs, fields_run, loads]
  rfl

end Listing

/-- A call that is well formed prints what it was asked for, or prints nothing and reports what failed. The calls that
render are those whose arguments ask for it. They print the text rendered from the loaded dataset, with the settings
of the file wherever no option says otherwise, if none of their stages fails, and report the first stage that fails
otherwise. -/
theorem run_all_or_nothing [RegexCompiler] (files : Surroundings Id) (arguments : List String) :
    let outcome := Id.run (run files arguments)
    (∀ rendering, invocation arguments = .ok (.render rendering) ↔ rendering.WrittenBy arguments) ∧
    (∀ rendering : Rendering, rendering.WrittenBy arguments →
      outcome.exitCode = 0 ∧ rendering.Renders files outcome.standardOutput ∧
          (∀ stage report, ¬ rendering.Fails files stage report) ∨
        outcome.exitCode = 1 ∧ outcome.standardOutput = "" ∧ ∃ stage report,
          rendering.FailsFirst files stage report ∧ outcome.standardError = "Error: " ++ ": ".intercalate report) ∧
    ∀ listing, invocation arguments = .ok (.fields listing) →
      outcome.exitCode = 0 ∧ (∃ dataset, Dataset.InFile listing.data (files.file listing.data) dataset) ∨
        outcome.exitCode = 1 ∧ outcome.standardOutput = "" ∧ ∃ failure,
          Dataset.NotInFile listing.data (files.file listing.data) failure ∧
          outcome.standardError =
            "Error: " ++ ": ".intercalate (("failed to load data " ++ listing.data) :: Failure.chain failure) := by
  refine ⟨fun _ => invocation_eq_render_iff, ?_, ?_⟩
  · intro rendering written
    have runs : Id.run (run files arguments) = run.finish (render files rendering).run := by
      rw [run, invocation_eq_render_iff.mpr written]
      rfl
    rw [runs]
    obtain ⟨output, ran, renders⟩ | ⟨stage, report, ran, first⟩ := render_run_cases files rendering
    · rw [ran]
      exact .inl ⟨rfl, renders, not_fails_of_renders renders⟩
    · rw [ran]
      exact .inr ⟨rfl, rfl, stage, report, first, rfl⟩
  · intro listing written
    have runs : Id.run (run files arguments) = run.finish (fields files listing).run := by
      rw [run, written]
      rfl
    rw [runs, fields_run]
    cases loads : Dataset.ofFile listing.data (files.file listing.data) with
    | ok dataset => exact .inl ⟨rfl, dataset, Dataset.ofFile_eq_ok_iff.mp loads⟩
    | error failure => exact .inr ⟨rfl, rfl, failure, Dataset.ofFile_eq_error_iff.mp loads, rfl⟩

/-- The tag is that of the option, and the language that of the file. Where no file can be read nothing is printed. -/
theorem run_all_or_nothing_overridden :
    let data := "\x7b\"fields\":[\x7b\"id\":1,\"name\":\"a\"\x7d]," ++
      "\"values\":[\x7b\"item_id\":5,\"field_id\":1,\"value\":\"x\"\x7d]\x7d"
    let settings := "\x7b\"tag\":\"u\",\"language\":\"de\"\x7d"
    let input := "\x7bt id=5\x7d[a]\x7b/t\x7d \x7bt query=a:y\x7d\x7b/t\x7d"
    let files : Surroundings Id :=
      ⟨fun path => .ok (if path = "d.json" then data.toUTF8 else settings.toUTF8), .ok input.toUTF8⟩
    let unreadable : Surroundings Id := ⟨fun _ => .error .missing, .ok input.toUTF8⟩
    let arguments := ["render", "-d", "d.json", "--config=c.json", "--tag", "t"]
    let outcome (files : Surroundings Id) := Id.run (run files arguments)
    (outcome files).exitCode = 0 ∧
      (outcome files).standardOutput = "x Zu der Abfrage wurde kein Datensatz gefunden." ∧
      (outcome unreadable).exitCode = 1 ∧ (outcome unreadable).standardOutput = "" := by
  intro data settings input files unreadable arguments outcome
  let rendering : Rendering := ⟨"-", "d.json", some "c.json", false, none, some "t", none, false, none⟩
  have calls : invocation arguments = .ok (.render rendering) := by rfl
  let dataset : Dataset := ⟨[⟨1, "a", ""⟩], [⟨⟨5⟩, 1, "x"⟩]⟩
  let config : Config := { tag := "u", language := .german }
  have named (path : String) (same : DataFormat.ofPath? path = some .json) : DataFormat.Named path .json :=
    DataFormat.ofPath?_eq_some_iff.mp same
  have holds : Dataset.InFile "d.json" (files.file "d.json") dataset :=
    ⟨.json, data, ⟨rfl, named _ (by decide +kernel)⟩, by decide +kernel, by decide⟩
  have written : Config.InFile "c.json" (files.file "c.json") config :=
    ⟨.json, settings, ⟨rfl, named _ (by decide +kernel)⟩, .decoded (by simp [Config.Blank]) (by decide +kernel)⟩
  let renderer : Renderer QueryError :=
    ⟨dataset.source, rendering.override config, ⟨"t"⟩, show Tag.ofName "t" = .ok ⟨"t"⟩ from rfl⟩
  have ready : rendering.Ready files renderer input :=
    ⟨⟨dataset, holds, rfl⟩, ⟨config, .file rfl written, Rendering.overrides_iff.mpr rfl⟩, rfl⟩
  have gives : renderer.render input = .ok "x Zu der Abfrage wurde kein Datensatz gefunden." := by
    decide +kernel
  have renders : rendering.Renders files "x Zu der Abfrage wurde kein Datensatz gefunden." :=
    ⟨renderer, input, ready, gives⟩
  have fails : rendering.Fails unreadable .data _ := .data (.unopened (.unreadable (.trouble .missing)))
  have succeeds : (outcome files).exitCode = 0 ∧
      (outcome files).standardOutput = "x Zu der Abfrage wurde kein Datensatz gefunden." := by
    obtain ⟨asks, outcomes, -⟩ := run_all_or_nothing files arguments
    obtain ⟨code, prints, -⟩ | ⟨-, -, stage, report, first, -⟩ := outcomes rendering ((asks rendering).mp calls)
    · exact ⟨code, renders_unique prints renders⟩
    · exact absurd first.1 (not_fails_of_renders renders stage report)
  obtain ⟨asks, outcomes, -⟩ := run_all_or_nothing unreadable arguments
  obtain ⟨-, -, none⟩ | ⟨code, empty, -⟩ := outcomes rendering ((asks rendering).mp calls)
  · exact absurd fails (none _ _)
  · exact ⟨succeeds.1, succeeds.2, code, empty⟩

end RecordFill.Command

import LintFindings.Proofs.CommandLine.Flags
import LintFindings.Proofs.Report.Tally
import LintFindings.Proofs.Settings.Color

/-!
Runs that differ in nothing but the terminal. It decides between a report in color and one without,
and only if the settings leave that open, and it may change the page of help.
-/

namespace LintFindings

section Console

variable {values other : Variables} {stream : Bool}

/-- Whether a stream counts as a terminal in color. -/
def Terminal.takesColor (values : Variables) (stream : Bool) : Bool :=
  isTerminal values stream && !isDumb values && !forbidsColor values

theorem Coloring.ofTerminal_eq_full (values : Variables) (stream : Bool) :
    (ofTerminal values stream == .full) = Terminal.takesColor values stream := by
  unfold ofTerminal Terminal.takesColor
  cases Terminal.isTerminal values stream && !Terminal.isDumb values with
  | false => rfl
  | true => cases Terminal.forbidsColor values <;> rfl

theorem Terminal.sizesAreReadable_congr (columns : values "COLUMNS" = other "COLUMNS")
    (lines : values "LINES" = other "LINES") : sizesAreReadable values = sizesAreReadable other := by
  simp only [sizesAreReadable, size?, columns, lines]

namespace Screen

theorem map_showsColor (stream : Bool) (readable : Terminal.sizesAreReadable values = true) :
    (ofTerminal values stream).map showsColor = .ok (Terminal.takesColor values stream) := by
  rw [← ofTerminal_isOk values stream] at readable
  obtain ⟨screen, made⟩ := exists_of_isOk readable
  obtain ⟨columns, -, rest⟩ := (bind_eq_ok _ _ _).mp made
  obtain ⟨lines, -, rest⟩ := (bind_eq_ok _ _ _).mp rest
  rw [made, (pure_eq_ok _ _).mp rest]
  exact congrArg Except.ok (Coloring.ofTerminal_eq_full values stream)

end Screen

theorem Styler.choose_of_readable (color : Option Bool) (stream : Bool)
    (readable : Terminal.sizesAreReadable values = true) :
    choose color values stream =
      .ok (ofChoice (color.getD (Terminal.takesColor values stream))) := by
  unfold choose picksColor
  cases color with
  | some color => rfl
  | none =>
      simp only [Screen.map_showsColor stream readable]
      rfl

end Console

namespace CommandLine

/-- The variables that say of a terminal what it is, but not how large. -/
def terminalNames : List Text := ["NO_COLOR", "FORCE_COLOR", "TTY_COMPATIBLE", "TERM"]

structure SameButTerminal (context other : RunContext) : Prop where
  account : context.account = other.account
  work : context.work = other.work
  look : context.look = other.look
  input : context.input = other.input
  interrupted : context.interrupted = other.interrupted
  helpPage : context.helpPage = other.helpPage
  environment : ∀ name, name ∉ terminalNames → context.environment name = other.environment name

namespace SameButTerminal

variable {context other : RunContext} (same : SameButTerminal context other)

include same

theorem settingsOf_eq (request : Request) : settingsOf context request = settingsOf other request := by
  have apart : ∀ name ∈ Settings.variableNames, name ∉ terminalNames := by decide
  refine Settings.load_alike ⟨same.account, same.work, same.look, ?_⟩ request.config (overrides request)
  exact fun name member => same.environment name (apart name member)

theorem configIsUsable_eq (request : Request) :
    configIsUsable context request = configIsUsable other request := by
  rw [configIsUsable, configIsUsable, same.look]

theorem readInput_eq (request : Request) : readInput context request = readInput other request := by
  rw [readInput, readInput, same.look, same.input]

theorem printed_eq (request : Request) : printed context request = printed other request := by
  refine printed_congr context request fun half => ?_
  rw [rawInput, rawInput, same.look, same.input]

theorem sizesAreReadable_eq :
    Terminal.sizesAreReadable context.environment = Terminal.sizesAreReadable other.environment :=
  Terminal.sizesAreReadable_congr (same.environment "COLUMNS" (by decide))
    (same.environment "LINES" (by decide))

end SameButTerminal

structure Verdict where
  exitCode : Nat
  failure? : Option Failure
  escape? : Option Escape

def Ending.verdict (ending : Ending) : Verdict :=
  ⟨ending.exitCode, ending.failure?, ending.escape?⟩

section Styled

variable (context : RunContext) (request : Request) (formatter : Text) (styler : Styler)

/-- How a run with usable settings ends once its styler is chosen, before anything is printed. -/
def reportedWith : Ending :=
  if context.interrupted then .interrupted
  else endingOfCalls (do
    let files ← (readInput context request).result
    let text ← (formatFiles files formatter styler).result
    return (text, (Totals.ofFiles files).exitCode))

theorem formatFiles_cases (files : List FileFindings) (styler' : Styler) :
    (∃ halt, (formatFiles files formatter styler).result = .error halt ∧
      (formatFiles files formatter styler').result = .error halt) ∨
    ∃ text text', (formatFiles files formatter styler).result = .ok text ∧
      (formatFiles files formatter styler').result = .ok text' ∧ (text = [] ↔ text' = []) := by
  unfold formatFiles
  cases Formatter.ofName formatter with
  | error cause => exact .inl ⟨_, rfl, rfl⟩
  | ok found =>
      cases found with
      | stylish =>
          simp only [Formatter.run, Report.write_result]
          cases Report.stop? files with
          | some halt => exact .inl ⟨_, rfl, rfl⟩
          | none =>
              cases Report.endingIsWritable files with
              | false => exact .inl ⟨_, rfl, rfl⟩
              | true =>
                  refine .inr ⟨_, _, rfl, rfl, ?_⟩
                  rw [Report.rendered_eq_nil_iff, Report.rendered_eq_nil_iff]

theorem reportedWith_verdict (styler' : Styler) :
    (printed context request (reportedWith context request formatter styler)).verdict =
      (printed context request (reportedWith context request formatter styler')).verdict := by
  unfold reportedWith
  cases context.interrupted with
  | true => rfl
  | false =>
      cases (readInput context request).result with
      | error halt => rfl
      | ok files =>
          simp only [Bool.false_eq_true, if_false, bind, Except.bind]
          rcases formatFiles_cases formatter styler files styler' with
            ⟨halt, stopped, stopped'⟩ | ⟨text, text', written, written', empty⟩
          · rw [stopped, stopped']
          · simp only [written, written', pure, Except.pure, endingOfCalls, printed, ne_eq, empty]
            split <;> rfl

variable {context} in
theorem reportedWith_congr {other : RunContext} (same : SameButTerminal context other) :
    reportedWith context request formatter styler = reportedWith other request formatter styler := by
  rw [reportedWith, reportedWith, same.readInput_eq, same.interrupted]

end Styled

def colorIn (context : RunContext) (settings : Settings) : Bool :=
  settings.color.getD (Terminal.takesColor context.environment context.terminal)

theorem carryOut_of_readable (context : RunContext) (request : Request) (logging : Logging)
    {settings : Settings} (loaded : settingsOf context request = .ok settings)
    (readable : Terminal.sizesAreReadable context.environment = true) (console : Screen) :
    (carryOut console context logging request).ending =
      printed context request
        (reportedWith context request settings.formatter (.ofChoice (colorIn context settings))) := by
  obtain ⟨setup, made⟩ := exists_setupFor readable settings.verbosity
  rw [carryOut_of_ok context request console logging loaded made, told_of_readable readable,
    reportedWith]
  cases interrupted : context.interrupted with
  | true => simp only [report, interrupted, if_true]
  | false =>
      rw [report_ending context request loaded interrupted]
      cases read : (readInput context request).result with
      | error halt =>
          rw [calls_of_input context request loaded read]
          rfl
      | ok files =>
          rw [calls_of_read context request loaded read, formattedFiles,
            Styler.choose_of_readable settings.color context.terminal readable]
          simp only [colorIn, bind, Except.bind]
          cases (formatFiles files settings.formatter _).result <;> rfl

section Choice

def colorFlag (color : Bool) : Text := if color then "--color" else "--no-color"

/-- A request with a color that counts unless it names one itself. -/
def prefer (color : Bool) (request : Request) : Request :=
  { request with color := request.color.or (some color) }

theorem add?_prefer (color : Bool) (request : Request) (item : Item) :
    (prefer color request).add? item = (request.add? item).map (prefer color) := by
  cases item with
  | option name => cases name <;> simp [Request.add?, prefer]
  | valued name value => cases name <;> simp [Request.add?, prefer]
  | word value => cases given : request.input <;> simp [Request.add?, prefer, given]

theorem isFront_colorFlag (color : Bool) :
    ∃ items, IsFront (colorFlag color) items ∧
      items.foldlM Request.add? .empty = some (prefer color .empty) := by
  cases color with
  | true => exact ⟨[.option .color], ⟨by decide, by decide, by decide⟩, by decide⟩
  | false => exact ⟨[.option .noColor], ⟨by decide, by decide, by decide⟩, by decide⟩

theorem ofArguments?_colorFlag (color : Bool) (arguments : List Text) :
    Request.ofArguments? (colorFlag color :: arguments) =
      (Request.ofArguments? arguments).map (prefer color) := by
  obtain ⟨items, front, begins⟩ := isFront_colorFlag color
  exact ofArguments?_front front begins (add?_prefer color) arguments

theorem asksHelp_colorFlag (color : Bool) (arguments : List Text) :
    asksHelp (colorFlag color :: arguments) = asksHelp arguments := by
  obtain ⟨items, front, begins⟩ := isFront_colorFlag color
  exact asksHelp_front front begins arguments

theorem get?_overrides_prefer (color : Bool) (request : Request) {name : Text}
    (other : name ≠ "color") :
    (overrides (prefer color request)).get? name = (overrides request).get? name := by
  have apart := beq_eq_false_iff_ne.mpr other
  simp only [overrides, prefer, Fields.get?, List.lookup_cons, apart]

theorem saySameBut_prefer (color : Bool) (request : Request) :
    Settings.SaySameBut .color (overrides request) (overrides (prefer color request)) where
  others name other :=
    (get?_overrides_prefer color request fun same => other (Settings.Name.text_injective same)).symm
  flags _ flag other := by
    rw [Settings.isRaised, Settings.isRaised, get?_overrides_prefer color request other]
  strange := rfl

theorem settingsOf_prefer (context : RunContext) (request : Request) (color : Bool)
    {settings : Settings} (loaded : settingsOf context request = .ok settings)
    (silent : request.color = none) :
    settingsOf context (prefer color request) = .ok { settings with color := some color } := by
  have chooses : (overrides (prefer color request)).get? "color" = some (.bool color) := by
    simp only [overrides, prefer, silent]
    rfl
  exact Settings.load_chosen (nodup_overrides request) (nodup_overrides (prefer color request))
    (saySameBut_prefer color request) chooses loaded

end Choice

/-- The request of a run that is neither refused nor shows the version. -/
structure IsCarried (context : RunContext) (arguments : List Text) (request : Request) : Prop where
  asked : Request.ofArguments? arguments = some request
  usable : configIsUsable context request = true
  carried : request.version = false

namespace IsCarried

variable {context : RunContext} {arguments : List Text} {request : Request}
  (carried : IsCarried context arguments request)

include carried

theorem run_eq (logging : Logging)
    (readable : Terminal.sizesAreReadable context.environment = true) :
    ∃ console, run context logging arguments = carryOut console context logging request :=
  exists_carryOut logging carried.asked carried.usable carried.carried readable

theorem loaded?_eq : loaded? context arguments = (settingsOf context request).toOption := by
  simp [loaded?, carried.asked, carried.usable, carried.carried]

theorem congr {other : RunContext} (same : SameButTerminal context other) :
    IsCarried other arguments request :=
  ⟨carried.asked, (same.configIsUsable_eq request).symm.trans carried.usable, carried.carried⟩

theorem prefer (color : Bool) :
    IsCarried context (colorFlag color :: arguments) (prefer color request) where
  asked := by rw [ofArguments?_colorFlag, carried.asked, Option.map_some]
  usable := carried.usable
  carried := carried.carried

end IsCarried

theorem exists_carried_of_loaded? {context : RunContext} {arguments : List Text} {settings : Settings}
    (loaded : loaded? context arguments = some settings) :
    ∃ request, IsCarried context arguments request ∧ settingsOf context request = .ok settings := by
  obtain ⟨request, asked, found⟩ := Option.bind_eq_some_iff.mp loaded
  split at found
  next goesOn =>
    simp only [Bool.and_eq_true, Bool.not_eq_true'] at goesOn
    exact ⟨request, ⟨asked, goesOn.1, goesOn.2⟩, eq_ok_of_toOption found⟩
  next => cases found

section Readable

variable {context other : RunContext} (logging : Logging) {arguments : List Text}
  (same : SameButTerminal context other)
  (readable : Terminal.sizesAreReadable context.environment = true)

include same readable

theorem run_uncarried (unasked : asksHelp arguments = false)
    (uncarried : ¬ ∃ request, IsCarried context arguments request) :
    (run context logging arguments).ending = (run other logging arguments).ending := by
  have readable' := same.sizesAreReadable_eq.symm.trans readable
  obtain ⟨console, process⟩ := exists_run_eq readable
  obtain ⟨console', process'⟩ := exists_run_eq readable'
  rw [process, process']
  cases asked : Request.ofArguments? arguments with
  | none =>
      simp only [runOn, asked, unasked, Bool.false_eq_true, if_false, refusal,
        laidOut_of_readable readable, laidOut_of_readable readable']
  | some request =>
      have sameUsable := same.configIsUsable_eq request
      cases usable : configIsUsable context request with
      | false =>
          simp only [runOn, asked, ← sameUsable, usable, if_true, refusal,
            laidOut_of_readable readable, laidOut_of_readable readable']
      | true =>
          cases shown : request.version with
          | true =>
              simp only [runOn, asked, ← sameUsable, usable, shown, Bool.true_eq_false, if_true,
                if_false]
          | false => exact absurd ⟨request, asked, usable, shown⟩ uncarried

theorem run_of_settings_error {request : Request} (carried : IsCarried context arguments request)
    {halt : Halt} (stopped : settingsOf context request = .error halt) :
    (run context logging arguments).ending = endingOfHalt halt ∧
      (run other logging arguments).ending = endingOfHalt halt := by
  have readable' := same.sizesAreReadable_eq.symm.trans readable
  have stopped' := (same.settingsOf_eq request).symm.trans stopped
  obtain ⟨console, process⟩ := carried.run_eq logging readable
  obtain ⟨console', process'⟩ := (carried.congr same).run_eq logging readable'
  rw [process, process', carryOut_of_error context request console logging stopped,
    carryOut_of_error other request console' logging stopped', told_of_readable readable,
    told_of_readable readable']
  exact ⟨rfl, rfl⟩

/-- The terminal only chooses the styler of a run that has its settings. -/
theorem run_of_settings {request : Request} (carried : IsCarried context arguments request)
    {settings : Settings} (loaded : settingsOf context request = .ok settings) :
    let printedWith (color : Bool) : Ending :=
      printed context request (reportedWith context request settings.formatter (.ofChoice color))
    (run context logging arguments).ending = printedWith (colorIn context settings) ∧
      (run other logging arguments).ending = printedWith (colorIn other settings) := by
  have readable' := same.sizesAreReadable_eq.symm.trans readable
  have loaded' := (same.settingsOf_eq request).symm.trans loaded
  obtain ⟨console, process⟩ := carried.run_eq logging readable
  obtain ⟨console', process'⟩ := (carried.congr same).run_eq logging readable'
  rw [process, process', carryOut_of_readable context request logging loaded readable,
    carryOut_of_readable other request logging loaded' readable', ← same.printed_eq,
    ← reportedWith_congr request _ _ same]
  exact ⟨rfl, rfl⟩

theorem run_verdict_of_readable :
    (run context logging arguments).ending.verdict = (run other logging arguments).ending.verdict := by
  cases asks : asksHelp arguments with
  | true =>
      rw [run_of_help context logging asks readable,
        run_of_help other logging asks (same.sizesAreReadable_eq.symm.trans readable)]
      rfl
  | false =>
      by_cases isCarried : ∃ request, IsCarried context arguments request
      · obtain ⟨request, carried⟩ := isCarried
        cases loaded : settingsOf context request with
        | error halt =>
            obtain ⟨ends, ends'⟩ := run_of_settings_error logging same readable carried loaded
            rw [ends, ends']
        | ok settings =>
            obtain ⟨ends, ends'⟩ := run_of_settings logging same readable carried loaded
            rw [ends, ends']
            exact reportedWith_verdict context request settings.formatter _ _
      · rw [run_uncarried logging same readable asks isCarried]

theorem run_output_of_color {settings : Settings} (loaded : loaded? context arguments = some settings)
    (given : settings.color ≠ none) :
    (run context logging arguments).ending.output = (run other logging arguments).ending.output := by
  obtain ⟨request, carried, loaded⟩ := exists_carried_of_loaded? loaded
  obtain ⟨color, given⟩ := Option.ne_none_iff_exists'.mp given
  obtain ⟨ends, ends'⟩ := run_of_settings logging same readable carried loaded
  rw [ends, ends', colorIn, colorIn, given, Option.getD_some, Option.getD_some]

theorem run_output_of_unloaded (unasked : asksHelp arguments = false)
    (unloaded : loaded? context arguments = none) :
    (run context logging arguments).ending.output = (run other logging arguments).ending.output := by
  by_cases isCarried : ∃ request, IsCarried context arguments request
  · obtain ⟨request, carried⟩ := isCarried
    rw [carried.loaded?_eq] at unloaded
    cases loaded : settingsOf context request with
    | ok settings =>
        rw [loaded] at unloaded
        cases unloaded
    | error halt =>
        obtain ⟨ends, ends'⟩ := run_of_settings_error logging same readable carried loaded
        rw [ends, ends']
  · rw [run_uncarried logging same readable unasked isCarried]

end Readable

section Flagged

variable (context : RunContext) (logging : Logging) {arguments : List Text}

theorem carryOut_prefer (request : Request) {settings : Settings}
    (loaded : settingsOf context request = .ok settings) (unset : settings.color = none)
    (readable : Terminal.sizesAreReadable context.environment = true) (console console' : Screen) :
    (carryOut console context logging
        (prefer (Terminal.takesColor context.environment context.terminal) request)).ending =
      (carryOut console' context logging request).ending := by
  have taken : colorIn context settings =
      Terminal.takesColor context.environment context.terminal := by
    rw [colorIn, unset, Option.getD_none]
  rw [carryOut_of_readable context request logging loaded readable]
  cases given : request.color with
  | some color =>
      have settled (preferred : Bool) : prefer preferred request = request := by
        rw [prefer, given, Option.some_or, ← given]
      rw [settled, carryOut_of_readable context request logging loaded readable]
  | none =>
      have loaded' := settingsOf_prefer context request
        (Terminal.takesColor context.environment context.terminal) loaded given
      rw [carryOut_of_readable context _ logging loaded' readable, taken]
      rfl

theorem run_prefer {settings : Settings} (loaded : loaded? context arguments = some settings)
    (unset : settings.color = none) :
    (run context logging (colorFlag (Terminal.takesColor context.environment context.terminal) ::
        arguments)).ending =
      (run context logging arguments).ending := by
  cases readable : Terminal.sizesAreReadable context.environment with
  | false => rw [run_of_unreadable logging _ readable, run_of_unreadable logging _ readable]
  | true =>
      obtain ⟨request, carried, loaded⟩ := exists_carried_of_loaded? loaded
      obtain ⟨console, process⟩ := carried.run_eq logging readable
      obtain ⟨console', process'⟩ := (carried.prefer _).run_eq logging readable
      rw [process, process']
      exact carryOut_prefer context logging request loaded unset readable console' console

theorem run_help_flagged (color : Bool) (asks : asksHelp arguments = true) :
    (run context logging (colorFlag color :: arguments)).ending =
      (run context logging arguments).ending := by
  cases readable : Terminal.sizesAreReadable context.environment with
  | false => rw [run_of_unreadable logging _ readable, run_of_unreadable logging _ readable]
  | true =>
      rw [run_of_help context logging asks readable,
        run_of_help context logging ((asksHelp_colorFlag color arguments).trans asks) readable]

end Flagged

/--
What is seen of a run apart from its output does not depend on the terminal. The output does not
either if a color is set, and otherwise it is the one with or without color that the terminal takes.
A run that has no settings prints the same on all terminals unless it shows the page of help, for
which flags for the color make no difference.
-/
theorem verdict_sameButTerminal (context other : RunContext) (logging : Logging)
    (arguments : List Text) (same : SameButTerminal context other) :
    (run context logging arguments).ending.verdict = (run other logging arguments).ending.verdict ∧
    (∀ settings, loaded? context arguments = some settings →
      (settings.color ≠ none → (run context logging arguments).ending.output =
        (run other logging arguments).ending.output) ∧
      (settings.color = none →
        (run context logging (colorFlag (Terminal.takesColor context.environment context.terminal) ::
            arguments)).ending =
          (run context logging arguments).ending)) ∧
    (loaded? context arguments = none →
      (asksHelp arguments = false → (run context logging arguments).ending.output =
        (run other logging arguments).ending.output) ∧
      (asksHelp arguments = true → ∀ color,
        (run context logging (colorFlag color :: arguments)).ending =
          (run context logging arguments).ending)) := by
  have flagged (settings : Settings) (loaded : loaded? context arguments = some settings)
      (unset : settings.color = none) := run_prefer context logging loaded unset
  have helped (asks : asksHelp arguments = true) (color : Bool) :=
    run_help_flagged context logging color asks
  cases readable : Terminal.sizesAreReadable context.environment with
  | false =>
      have alike : (run context logging arguments).ending = (run other logging arguments).ending := by
        rw [run_of_unreadable logging arguments readable,
          run_of_unreadable logging arguments (same.sizesAreReadable_eq.symm.trans readable)]
      exact ⟨congrArg _ alike,
        fun settings loaded => ⟨fun _ => congrArg _ alike, flagged settings loaded⟩,
        fun _ => ⟨fun _ => congrArg _ alike, helped⟩⟩
  | true =>
      refine ⟨run_verdict_of_readable logging same readable, ?_, ?_⟩
      · intro settings loaded
        exact ⟨run_output_of_color logging same readable loaded, flagged settings loaded⟩
      · intro unloaded
        exact ⟨fun unasked => run_output_of_unloaded logging same readable unasked unloaded, helped⟩

section Example

/-- A run with variables of a terminal in front of the others. -/
def atTerminal (named : List (Text × Text)) (context : RunContext) : RunContext :=
  { context with environment := fun name => (named.lookup name).or (context.environment name) }

theorem sameButTerminal_atTerminal (named : List (Text × Text)) (context : RunContext)
    (listed : ∀ row ∈ named, row.1 ∈ terminalNames) :
    SameButTerminal context (atTerminal named context) where
  account := rfl
  work := rfl
  look := rfl
  input := rfl
  interrupted := rfl
  helpPage := rfl
  environment name unlisted := by
    have unnamed : named.lookup name = none := by
      rw [List.lookup_eq_none_iff]
      intro row member
      rw [bne_iff_ne]
      rintro rfl
      exact unlisted (listed row member)
    simp only [atTerminal, unnamed, Option.none_or]

def oneWarning : RunContext :=
  { bareContext fun _ => none with
    input := Utf8.encode
      ("[\x7b\"filePath\": \"a\", \"errorCount\": 0, \"warningCount\": 1, \"messages\": [" ++
        "\x7b\"line\": 1, \"column\": 1, \"message\": \"m\", \"severity\": 1\x7d]\x7d]") }

theorem verdict_sameButTerminal_forced :
    SameButTerminal oneWarning (atTerminal [("FORCE_COLOR", "1")] oneWarning) ∧
      loaded? oneWarning [] = some .default ∧
      loaded? oneWarning ["--no-color"] = some { Settings.default with color := some false } ∧
      (run oneWarning .untouched []).ending.verdict =
        (run (atTerminal [("FORCE_COLOR", "1")] oneWarning) .untouched []).ending.verdict ∧
      (run oneWarning .untouched ["--no-color"]).ending =
        (run oneWarning .untouched []).ending ∧
      (run oneWarning .untouched ["--no-color"]).ending.output =
        (run (atTerminal [("FORCE_COLOR", "1")] oneWarning) .untouched ["--no-color"]).ending.output ∧
      (run oneWarning .untouched []).ending.output ≠
        (run (atTerminal [("FORCE_COLOR", "1")] oneWarning) .untouched []).ending.output := by
  have same := sameButTerminal_atTerminal [("FORCE_COLOR", "1")] oneWarning (by decide)
  have loaded : loaded? oneWarning [] = some .default := by decide +kernel
  have loaded' : loaded? oneWarning ["--no-color"] =
      some { Settings.default with color := some false } := by decide +kernel
  obtain ⟨verdicts, chosen, -⟩ := verdict_sameButTerminal _ _ .untouched [] same
  obtain ⟨-, settled, -⟩ := verdict_sameButTerminal _ _ .untouched ["--no-color"] same
  exact ⟨same, loaded, loaded', verdicts, (chosen _ loaded).2 rfl,
    (settled _ loaded').1 (Option.some_ne_none false), by decide +kernel⟩

end Example

end CommandLine

end LintFindings

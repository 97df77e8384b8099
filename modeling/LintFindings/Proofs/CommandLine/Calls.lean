import LintFindings.CommandLine.Run
import LintFindings.Proofs.Formatting
import LintFindings.Proofs.Steps

/-!
A run of the command against the calls of the library that it stands for: settings, raw data,
findings, and the report of the raw data. The run ends as they do unless its program cannot be loaded
or its output cannot be encoded.
-/

namespace LintFindings

namespace Input

theorem ofDatum_eq_ok (datum : Datum) (files : List FileFindings) :
    ofDatum datum = .ok files ↔ FileFindings.listOfDatum datum = .ok files := by
  unfold ofDatum
  cases FileFindings.listOfDatum datum <;> simp [Halt.ofFailing]

theorem logged_result (name : Text) (reading : Except Halt (List FileFindings)) :
    (logged name reading).result = reading := by
  cases reading <;> rfl

end Input

section Console

variable (values : Variables) (stream : Bool)

/-- No variable gives a size in digits that make no number. -/
def Terminal.sizesAreReadable : Bool :=
  (size? values "COLUMNS").isOk && (size? values "LINES").isOk

theorem Screen.ofTerminal_isOk :
    (ofTerminal values stream).isOk = Terminal.sizesAreReadable values := by
  unfold ofTerminal Terminal.sizesAreReadable
  cases Terminal.size? values "COLUMNS".toList with
  | error cause => rfl
  | ok columns => cases Terminal.size? values "LINES".toList <;> rfl

variable {values}

theorem Screen.exists_ofTerminal (readable : Terminal.sizesAreReadable values = true) :
    ∃ screen, ofTerminal values stream = .ok screen := by
  rw [← ofTerminal_isOk values stream] at readable
  exact exists_of_isOk readable

theorem Terminal.size?_of_error {name : Text} {cause : Escape}
    (stopped : size? values name = .error cause) : cause = .unreadableSize := by
  unfold size? at stopped
  split at stopped
  next => cases stopped
  next =>
    split at stopped
    next => cases stopped
    next =>
      split at stopped
      next => cases stopped
      next => exact (Except.error.inj stopped).symm

theorem Screen.ofTerminal_of_unreadable (unreadable : Terminal.sizesAreReadable values = false) :
    ofTerminal values stream = .error .unreadableSize := by
  rw [← ofTerminal_isOk values stream] at unreadable
  obtain ⟨cause, stopped⟩ := exists_of_not_isOk unreadable
  rw [stopped]
  unfold ofTerminal at stopped
  cases columns : Terminal.size? values "COLUMNS".toList with
  | error other =>
      rw [columns] at stopped
      cases stopped
      rw [Terminal.size?_of_error columns]
  | ok columns' =>
      cases lines : Terminal.size? values "LINES".toList with
      | error other =>
          rw [columns, lines] at stopped
          cases stopped
          rw [Terminal.size?_of_error lines]
      | ok lines' =>
          rw [columns, lines] at stopped
          cases stopped

theorem Screen.exists_width (readable : Terminal.sizesAreReadable values = true) (screen : Screen) :
    ∃ cells, screen.width values stream = .ok cells := by
  obtain ⟨now, made⟩ := exists_ofTerminal stream readable
  unfold width
  split
  next => exact ⟨_, rfl⟩
  next =>
    split
    next => exact ⟨_, rfl⟩
    next => exact ⟨_, by rw [made]; rfl⟩

end Console

namespace CommandLine

section Calls

variable (context : RunContext) (request : Request)

theorem printed_congr {other : RunContext} {request' : Request}
    (raw : ∀ half, rawInput half context request = rawInput half other request') :
    printed context request = printed other request' := by
  have shows : showsHalf context request = showsHalf other request' := by
    simp only [showsHalf, givenTexts, raw]
  funext ending
  cases ending with
  | reported => simp only [printed, shows]
  | _ => rfl

theorem eq_of_printed_failed {context : RunContext} {request : Request} {cause : Failure}
    {ending : Ending}
    (failed : printed context request ending = .failed cause) : ending = .failed cause := by
  cases ending with
  | reported report status =>
      simp only [printed] at failed
      split at failed <;> cases failed
  | _ => exact failed

def settingsOf : Except Halt Settings :=
  Settings.load context.toSurroundings request.config (overrides request)

/-- The settings of a run that is neither refused nor shows the version, if they can be loaded. -/
def loaded? (arguments : List Text) : Option Settings :=
  (Request.ofArguments? arguments).bind fun request =>
    if configIsUsable context request && !request.version then
      (settingsOf context request).toOption
    else none

def itemsOf : Datum → List Datum
  | .list items => items
  | _ => []

def formatted (settings : Settings) (items : List Datum) : Except Halt Text :=
  (formatResults (items.map .raw) settings.formatter
    (Styler.choose settings.color context.environment context.terminal)).result

def formattedFiles (settings : Settings) (files : List FileFindings) : Except Halt Text :=
  match Styler.choose settings.color context.environment context.terminal with
  | .error cause => .error (.escaped cause)
  | .ok styler => (formatFiles files settings.formatter styler).result

theorem readInput_result :
    (readInput context request).result = rawInput Json.standIn context request >>= Input.ofDatum := by
  unfold readInput rawInput
  by_cases stream : request.input.getD streamWord = streamWord
  · simp only [stream, if_true]
    exact Input.logged_result _ _
  · simp only [stream, if_false]
    exact Input.logged_result _ _

theorem formatted_eq (settings : Settings) (items : List Datum) :
    formatted context settings items =
      Input.ofDatum (.list items) >>= formattedFiles context settings := by
  unfold formatted formatResults Input.ofDatum
  rw [Source.readAll, Source.readFrom_raw]
  cases found : FileFindings.ofDataFrom 0 items with
  | error cause => simp only [FileFindings.listOfDatum, found, Halt.ofFailing, bind, Except.bind]
  | ok files =>
      simp only [FileFindings.listOfDatum, found, Halt.ofFailing, bind, Except.bind, formattedFiles]
      cases Styler.choose settings.color context.environment context.terminal <;> rfl

/-- The calls in order, and the text and the status that they give in the end. -/
def calls : Except Halt (Text × Nat) := do
  let settings ← settingsOf context request
  let files ← (readInput context request).result
  let raw ← rawInput Json.standIn context request
  let text ← formatted context settings (itemsOf raw)
  return (text, (Totals.ofFiles files).exitCode)

def endingOfCalls : Except Halt (Text × Nat) → Ending
  | .ok (text, status) => .reported text status
  | .error halt => endingOfHalt halt

theorem calls_of_settings {halt : Halt} (stopped : settingsOf context request = .error halt) :
    calls context request = .error halt := by
  simp only [calls, stopped, bind, Except.bind]

theorem calls_of_input {settings : Settings} {halt : Halt}
    (loaded : settingsOf context request = .ok settings)
    (stopped : (readInput context request).result = .error halt) :
    calls context request = .error halt := by
  simp only [calls, loaded, stopped, bind, Except.bind]

theorem rawInput_of_read {files : List FileFindings}
    (read : (readInput context request).result = .ok files) :
    ∃ items, rawInput Json.standIn context request = .ok (.list items) ∧
      Input.ofDatum (.list items) = .ok files := by
  rw [readInput_result, bind_eq_ok] at read
  obtain ⟨raw, decoded, found⟩ := read
  cases raw with
  | list items => exact ⟨items, decoded, found⟩
  | _ => simp [Input.ofDatum, FileFindings.listOfDatum, Halt.ofFailing] at found

theorem calls_of_read {settings : Settings} {files : List FileFindings}
    (loaded : settingsOf context request = .ok settings)
    (read : (readInput context request).result = .ok files) :
    calls context request = (formattedFiles context settings files).map
      (fun text => (text, (Totals.ofFiles files).exitCode)) := by
  obtain ⟨items, decoded, found⟩ := rawInput_of_read context request read
  have same : formatted context settings items = formattedFiles context settings files := by
    rw [formatted_eq, found]
    rfl
  simp only [calls, loaded, read, decoded, itemsOf, same, bind, Except.bind]
  cases formattedFiles context settings files <;> rfl

theorem report_ending {settings : Settings} (loaded : settingsOf context request = .ok settings)
    (undisturbed : context.interrupted = false) :
    (report context request settings).2 = endingOfCalls (calls context request) := by
  unfold report
  rw [undisturbed]
  cases read : (readInput context request).result with
  | error halt =>
      rw [calls_of_input context request loaded read]
      simp only [read]
      rfl
  | ok files =>
      rw [calls_of_read context request loaded read]
      simp only [read, formattedFiles, formatFiles]
      cases Styler.choose settings.color context.environment context.terminal with
      | error cause => rfl
      | ok styler =>
          cases Formatter.ofName settings.formatter with
          | error cause => rfl
          | ok formatter =>
              cases written : (formatter.run styler files).result <;>
                simp [written, Except.map, endingOfCalls]

theorem exists_setupFor {values : Variables} (readable : Terminal.sizesAreReadable values = true)
    (verbosity : Verbosity) : ∃ setup, setupFor values verbosity = .ok setup := by
  obtain ⟨screen, made⟩ := Screen.exists_ofTerminal false readable
  exact ⟨_, by rw [setupFor, made]; rfl⟩

theorem setupFor_of_unreadable {values : Variables}
    (unreadable : Terminal.sizesAreReadable values = false) (verbosity : Verbosity) :
    setupFor values verbosity = .error .unreadableSize := by
  rw [setupFor, Screen.ofTerminal_of_unreadable false unreadable]
  rfl

theorem told_of_readable {values : Variables} (readable : Terminal.sizesAreReadable values = true)
    (console : Screen) (ending : Ending) : told console values ending = ending := by
  obtain ⟨cells, width⟩ := Screen.exists_width false readable console
  cases ending with
  | failed cause => simp only [told, width]
  | _ => rfl

theorem laidOut_of_readable {values : Variables} (readable : Terminal.sizesAreReadable values = true)
    (stream : Bool) (ending : Ending) : laidOut values stream ending = ending := by
  obtain ⟨screen, made⟩ := Screen.exists_ofTerminal stream readable
  rw [laidOut, made]

section Carry

variable (console : Screen) (logging : Logging)

theorem carryOut_of_error {halt : Halt} (stopped : settingsOf context request = .error halt) :
    (carryOut console context logging request).ending =
      told console context.environment (endingOfHalt halt) := by
  unfold settingsOf at stopped
  simp only [carryOut, stopped]

theorem carryOut_of_ok {settings : Settings} {setup : LogSetup}
    (loaded : settingsOf context request = .ok settings)
    (made : setupFor context.environment settings.verbosity = .ok setup) :
    (carryOut console context logging request).ending =
      told console context.environment
        (printed context request (report context request settings).2) := by
  unfold settingsOf at loaded
  simp only [carryOut, loaded, made]

theorem carryOut_of_unmade {settings : Settings} {cause : Escape}
    (loaded : settingsOf context request = .ok settings)
    (unmade : setupFor context.environment settings.verbosity = .error cause) :
    carryOut console context logging request = ⟨.escaped cause, [], logging⟩ := by
  unfold settingsOf at loaded
  simp only [carryOut, loaded, unmade]

theorem carryOut_ending (readable : Terminal.sizesAreReadable context.environment = true)
    (finished : (carryOut console context logging request).ending ≠ .interrupted) :
    (carryOut console context logging request).ending =
      printed context request (endingOfCalls (calls context request)) := by
  cases loaded : settingsOf context request with
  | error halt =>
      rw [carryOut_of_error context request console logging loaded, told_of_readable readable,
        calls_of_settings context request loaded]
      cases halt <;> rfl
  | ok settings =>
      obtain ⟨setup, made⟩ := exists_setupFor readable settings.verbosity
      rw [carryOut_of_ok context request console logging loaded made,
        told_of_readable readable] at finished ⊢
      cases stopped : context.interrupted with
      | true =>
          -- The settings are in force, so the run stops before it reads anything.
          simp [report, stopped, printed] at finished
      | false => rw [report_ending context request loaded stopped]

end Carry

section Process

variable {context} (logging : Logging) (arguments : List Text)

/-- Where sizes can be read, a process is a call of the command on the console made for it. -/
theorem exists_run_eq (readable : Terminal.sizesAreReadable context.environment = true) :
    ∃ console, ∀ logging arguments,
      run context logging arguments = runOn console context logging arguments := by
  obtain ⟨console, made⟩ := Screen.exists_ofTerminal false readable
  exact ⟨console, fun logging arguments => by rw [run, made]⟩

theorem run_of_unreadable (unreadable : Terminal.sizesAreReadable context.environment = false) :
    run context logging arguments = ⟨.escaped .unreadableSize, [], logging⟩ := by
  rw [run, Screen.ofTerminal_of_unreadable false unreadable]

variable {arguments} {request : Request} (asked : Request.ofArguments? arguments = some request)
  (usable : configIsUsable context request = true) (carried : request.version = false)

include asked usable carried

theorem runOn_of_carried (console : Screen) :
    runOn console context logging arguments = carryOut console context logging request := by
  simp only [runOn, asked, usable, carried, Bool.true_eq_false, Bool.false_eq_true, if_false]

theorem exists_carryOut (readable : Terminal.sizesAreReadable context.environment = true) :
    ∃ console, run context logging arguments = carryOut console context logging request := by
  obtain ⟨console, same⟩ := exists_run_eq readable
  exact ⟨console, (same logging arguments).trans
    (runOn_of_carried logging asked usable carried console)⟩

theorem run_ending (readable : Terminal.sizesAreReadable context.environment = true)
    (finished : (run context logging arguments).ending ≠ .interrupted) :
    (run context logging arguments).ending =
      printed context request (endingOfCalls (calls context request)) := by
  obtain ⟨console, same⟩ := exists_carryOut logging asked usable carried readable
  rw [same] at finished ⊢
  exact carryOut_ending context request console logging readable finished

end Process

/-- An error is the one reported: nothing is printed, and the exit status says so. -/
structure Tells (ending : Ending) (cause : Failure) : Prop where
  failed : ending = .failed cause
  silent : ending.output = []
  status : ending.exitCode = 2

/-- A run ends as the calls of the library do, whichever of them fails. -/
structure Follows (ending : Ending) : Prop where
  settings (cause : Failure) : settingsOf context request = .error (.failed cause) →
    Tells ending cause
  input (settings : Settings) (cause : Failure) : settingsOf context request = .ok settings →
    (readInput context request).result = .error (.failed cause) → Tells ending cause
  text (settings : Settings) (items : List Datum) (text : Text) :
    settingsOf context request = .ok settings →
    rawInput Json.standIn context request = .ok (.list items) →
    formatted context settings items = .ok text →
    ending.output = text ∧ ∃ files, FileFindings.listOfDatum (.list items) = .ok files ∧
      ending.exitCode = (Totals.ofFiles files).exitCode
  format (settings : Settings) (items : List Datum) (cause : Failure) :
    settingsOf context request = .ok settings →
    rawInput Json.standIn context request = .ok (.list items) →
    formatted context settings items = .error (.failed cause) → Tells ending cause

def Shows (ending : Ending) : Except Halt (Text × Nat) → Prop
  | .ok (text, status) => ending.output = text ∧ ending.exitCode = status
  | .error (.failed cause) => Tells ending cause
  | .error (.escaped _) => True

theorem shows_endingOfCalls (result : Except Halt (Text × Nat)) :
    Shows (endingOfCalls result) result := by
  cases result with
  | ok seen => exact ⟨rfl, rfl⟩
  | error halt =>
      cases halt with
      | failed cause => exact ⟨rfl, rfl, rfl⟩
      | escaped cause => trivial

theorem shows_escaped_iff (escape : Escape) (result : Except Halt (Text × Nat)) :
    Shows (.escaped escape) result ↔
      (∃ cause, result = .error (.escaped cause)) ∨ result = .ok ([], 1) := by
  cases result with
  | ok seen =>
      rcases seen with ⟨text, status⟩
      constructor
      · rintro ⟨output, code⟩
        rw [← show [] = text from output, ← show 1 = status from code]
        exact .inr rfl
      · rintro (⟨cause, other⟩ | same)
        · cases other
        · cases same
          exact ⟨rfl, rfl⟩
  | error halt =>
      cases halt with
      | failed cause =>
          constructor
          · intro tells
            cases tells.failed
          · rintro (⟨cause, other⟩ | other) <;> cases other
      | escaped cause => exact ⟨fun _ => .inl ⟨cause, rfl⟩, fun _ => trivial⟩

theorem readInput_of_rawInput {items : List Datum}
    (decoded : rawInput Json.standIn context request = .ok (.list items)) :
    (readInput context request).result = Input.ofDatum (.list items) := by
  rw [readInput_result, decoded]
  rfl

theorem calls_of_formatted {settings : Settings} {items : List Datum}
    (loaded : settingsOf context request = .ok settings)
    (decoded : rawInput Json.standIn context request = .ok (.list items)) :
    calls context request = (do
      let text ← formatted context settings items
      let files ← Input.ofDatum (.list items)
      return (text, (Totals.ofFiles files).exitCode)) := by
  have read := readInput_of_rawInput context request decoded
  rw [formatted_eq]
  cases found : Input.ofDatum (.list items) with
  | error halt => exact calls_of_input context request loaded (read.trans found)
  | ok files =>
      rw [calls_of_read context request loaded (read.trans found)]
      simp only [bind, Except.bind]
      cases formattedFiles context settings files <;> rfl

theorem follows_of_shows {ending : Ending} (shows : Shows ending (calls context request)) :
    Follows context request ending where
  settings cause stopped := by
    rw [calls_of_settings context request stopped] at shows
    exact shows
  input settings cause loaded stopped := by
    rw [calls_of_input context request loaded stopped] at shows
    exact shows
  text settings items text loaded decoded same := by
    have both := same
    rw [formatted_eq, bind_eq_ok] at both
    obtain ⟨files, found, -⟩ := both
    rw [calls_of_formatted context request loaded decoded, same, found] at shows
    exact ⟨shows.1, files, (Input.ofDatum_eq_ok _ files).mp found, shows.2⟩
  format settings items cause loaded decoded stopped := by
    rw [calls_of_formatted context request loaded decoded, stopped] at shows
    exact shows

theorem shows_of_follows {ending : Ending} (follows : Follows context request ending) :
    Shows ending (calls context request) := by
  cases loaded : settingsOf context request with
  | error halt =>
      rw [calls_of_settings context request loaded]
      cases halt with
      | failed cause => exact follows.settings cause loaded
      | escaped cause => trivial
  | ok settings =>
      cases read : (readInput context request).result with
      | error halt =>
          rw [calls_of_input context request loaded read]
          cases halt with
          | failed cause => exact follows.input settings cause loaded read
          | escaped cause => trivial
      | ok files =>
          obtain ⟨items, decoded, found⟩ := rawInput_of_read context request read
          rw [calls_of_formatted context request loaded decoded, found]
          cases same : formatted context settings items with
          | ok text =>
              obtain ⟨output, others, listed, status⟩ :=
                follows.text settings items text loaded decoded same
              rw [Input.ofDatum_eq_ok, listed] at found
              rw [Except.ok.inj found] at status
              exact ⟨output, status⟩
          | error halt =>
              cases halt with
              | failed cause => exact follows.format settings items cause loaded decoded same
              | escaped cause => trivial

theorem follows_iff_shows (ending : Ending) :
    Follows context request ending ↔ Shows ending (calls context request) :=
  ⟨shows_of_follows context request, follows_of_shows context request⟩

/-- The calls give a text to print that holds half of a surrogate pair. -/
def IsUnprintable : Prop :=
  ∃ text status, calls context request = .ok (text, status) ∧ text ≠ [] ∧
    showsHalf context request = true

theorem printed_of_unprintable (unprintable : IsUnprintable context request) :
    printed context request (endingOfCalls (calls context request)) = .escaped .unencodable := by
  obtain ⟨text, status, found, shown, half⟩ := unprintable
  rw [found]
  exact if_pos ⟨shown, half⟩

theorem printed_of_printable (printable : ¬ IsUnprintable context request) :
    printed context request (endingOfCalls (calls context request)) =
      endingOfCalls (calls context request) := by
  cases found : calls context request with
  | ok seen =>
      refine if_neg ?_
      rintro ⟨shown, half⟩
      exact printable ⟨seen.1, seen.2, found, shown, half⟩
  | error halt => cases halt <;> rfl

theorem not_contains_help {items : List Item} {start : Request}
    (made : items.foldlM Request.add? start = some request) :
    items.contains (.option .help) = false := by
  induction items generalizing start with
  | nil => rfl
  | cons item rest ih =>
      rw [List.foldlM_cons, Option.bind_eq_bind, Option.bind_eq_some_iff] at made
      obtain ⟨next, added, made⟩ := made
      rw [List.contains_cons, ih made, Bool.or_false, beq_eq_false_iff_ne]
      rintro rfl
      cases added

theorem not_asksHelp {arguments : List Text}
    (asked : Request.ofArguments? arguments = some request) : asksHelp arguments = false := by
  obtain ⟨items, read, made⟩ := Option.bind_eq_some_iff.mp asked
  rw [asksHelp, read, Option.any_some]
  exact not_contains_help request made

theorem run_of_help (logging : Logging) {arguments : List Text} (asks : asksHelp arguments = true)
    (readable : Terminal.sizesAreReadable context.environment = true) :
    (run context logging arguments).ending =
      .helpShown (context.helpPage context.environment context.terminal) := by
  obtain ⟨console, same⟩ := exists_run_eq readable
  cases asked : Request.ofArguments? arguments with
  | some request =>
      rw [not_asksHelp request asked] at asks
      cases asks
  | none =>
      rw [same, runOn, asked]
      dsimp only
      rw [asks, if_pos rfl, help, laidOut_of_readable readable]

/--
A run that asks for help shows it if its program can be loaded. Any other run that is neither refused
nor interrupted ends as the calls do, failures included, if and only if its program can be loaded and
what it prints can be encoded, or the calls escape as well, or they give no text and status one, which
is all that is seen of an escape.
-/
theorem run_follows_calls_iff (logging : Logging) (arguments : List Text) :
    (asksHelp arguments = true → Terminal.sizesAreReadable context.environment = true →
      (run context logging arguments).ending =
        .helpShown (context.helpPage context.environment context.terminal)) ∧
    (∀ request, Request.ofArguments? arguments = some request →
      configIsUsable context request = true → request.version = false →
      (run context logging arguments).ending ≠ .interrupted →
        (Follows context request (run context logging arguments).ending ↔
          Terminal.sizesAreReadable context.environment = true ∧ ¬ IsUnprintable context request ∨
            (∃ cause, calls context request = .error (.escaped cause)) ∨
            calls context request = .ok ([], 1))) := by
  refine ⟨?_, ?_⟩
  · exact run_of_help context logging
  · intro request asked usable carried finished
    rw [follows_iff_shows]
    cases readable : Terminal.sizesAreReadable context.environment with
    | false =>
        rw [run_of_unreadable logging arguments readable]
        simp only [Bool.false_eq_true, false_and, false_or]
        exact shows_escaped_iff .unreadableSize (calls context request)
    | true =>
        rw [run_ending logging asked usable carried readable finished]
        by_cases unprintable : IsUnprintable context request
        · rw [printed_of_unprintable context request unprintable]
          simp only [unprintable, not_true_eq_false, and_false, false_or]
          exact shows_escaped_iff .unencodable (calls context request)
        · rw [printed_of_printable context request unprintable]
          simp only [unprintable, not_false_eq_true, and_self, true_or, iff_true]
          exact shows_endingOfCalls (calls context request)

end Calls

def bareContext (environment : Variables) : RunContext where
  account := "/root"
  work := "/work"
  look := fun _ => .error .missing
  environment
  input := Utf8.encode "[]".toList
  interrupted := false
  terminal := false
  helpPage := fun _ _ => plainHelp

theorem run_follows_calls_bare :
    Request.ofArguments? [] = some .empty ∧
      configIsUsable (bareContext fun _ => none) .empty = true ∧ Request.empty.version = false ∧
      (run (bareContext fun _ => none) .untouched []).ending ≠ .interrupted ∧
      Follows (bareContext fun _ => none) .empty
        (run (bareContext fun _ => none) .untouched []).ending := by
  have finished : (run (bareContext fun _ => none) .untouched []).ending ≠ .interrupted := by
    intro stopped
    have reported : (run (bareContext fun _ => none) .untouched []).ending = .reported [] 0 := rfl
    cases reported.symm.trans stopped
  have follows := (run_follows_calls_iff (bareContext fun _ => none) .untouched []).2 .empty rfl rfl
    rfl finished
  have printable : ¬ IsUnprintable (bareContext fun _ => none) .empty := by
    rintro ⟨text, status, found, shown, -⟩
    have empty : calls (bareContext fun _ => none) .empty = .ok ([], 0) := rfl
    cases empty.symm.trans found
    exact shown rfl
  exact ⟨rfl, rfl, rfl, finished, follows.mpr (.inl ⟨rfl, printable⟩)⟩

/-- A width in digits that make no number, and a color that is none. -/
def strayVariables : Variables := fun name =>
  List.lookup name ([("COLUMNS", "²"), ("LINT_REPORT_COLOR", "maybe")] : List (Text × Text))

/-- The settings cannot be used, and the run does not tell of it. -/
theorem run_strays_from_calls :
    Request.ofArguments? [] = some .empty ∧ configIsUsable (bareContext strayVariables) .empty = true ∧
      Request.empty.version = false ∧
      (run (bareContext strayVariables) .untouched []).ending ≠ .interrupted ∧
      ¬ Follows (bareContext strayVariables) .empty
        (run (bareContext strayVariables) .untouched []).ending := by
  have escapes : (run (bareContext strayVariables) .untouched []).ending =
      .escaped .unreadableSize := rfl
  have refused : settingsOf (bareContext strayVariables) .empty =
      .error (.failed (.invalidSetting "color" (.text "maybe")
        "LINT_REPORT_COLOR: expected true/false, got 'maybe'")) := rfl
  refine ⟨rfl, rfl, rfl, ?_, ?_⟩
  · intro stopped
    cases escapes.symm.trans stopped
  · intro follows
    cases escapes.symm.trans (follows.settings _ refused).failed

end CommandLine

end LintFindings

import LintFindings.CommandLine.Options
import LintFindings.Settings.Layers
import LintFindings.Formatting
import LintFindings.Text.Markup

/-!
A run of the command: settings, then the input, then the report. A run ends in one of a few ways,
each with its exit status and its output. The command can be called any number of times once its
program is loaded, which makes the console for failures; as a process of its own it is loaded first.
-/

namespace LintFindings.CommandLine

structure RunContext extends Surroundings where
  input : Bytes
  interrupted : Bool
  terminal : Bool
  /-- The page of help as it is laid out for such variables, on a terminal or not. -/
  helpPage : Variables → Bool → Text

inductive Ending where
  | misused
  | versionShown
  | helpShown (page : Text)
  | reported (report : Text) (status : Nat)
  | failed (cause : Failure)
  | interrupted
  | escaped (cause : Escape)

def version : Text := "0.1.0"

def plainHelp : Text :=
  "Usage: lint-report [OPTIONS] [RESULTS]\n\nRender linter results as a stylish console report.\n"

namespace Ending

def exitCode : Ending → Nat
  | misused => 2
  | versionShown => 0
  | helpShown _ => 0
  | reported _ status => status
  | failed _ => 2
  | interrupted => 130
  | escaped _ => 1

def output : Ending → Text
  | versionShown => "lint-report " ++ version ++ "\n"
  | helpShown page => page
  | reported report _ => report
  | _ => []

def errorLine? : Ending → Option Text
  | failed cause => some (Markup.shown cause.text)
  | _ => none

end Ending

structure Outcome where
  ending : Ending
  records : List LogRecord
  logging : Logging

def loggerName : Text := "lint_report.cli.report"

def settingsRecord (settings : Settings) : LogRecord :=
  ⟨.debug, loggerName, "Settings: " ++ settings.shown⟩

def failureRecord (cause : Failure) : LogRecord :=
  ⟨.debug, loggerName, cause.kind.name ++ ": " ++ cause.text⟩

def interruptRecord : LogRecord := ⟨.info, loggerName, "Interrupted by user"⟩

/--
The file of settings asked for must be a file. It is looked for under the normal form of the word that
is given, so that closing slashes make no difference.
-/
def configIsUsable (context : RunContext) (request : Request) : Bool :=
  match request.config with
  | none => true
  | some path =>
    match context.look (Path.normal path) with
    | .ok (.file _) => true
    | _ => false

def overrides (request : Request) : Fields :=
  [("formatter", request.format.elim .null .text), ("color", request.color.elim .null .bool),
    ("verbose", .bool request.verbose), ("quiet", .bool request.quiet)]

def streamWord : Text := "-"

def readInput (context : RunContext) (request : Request) : Logged Halt (List FileFindings) :=
  let word := request.input.getD streamWord
  if word = streamWord then Input.logged "<stdin>" (Input.ofBytes context.input)
  else
    let path := Path.normal word
    Input.logged path (Input.ofFile path (context.look path))

def endingOfHalt : Halt → Ending
  | .failed cause => .failed cause
  | .escaped cause => .escaped cause

def closingRecords : Ending → List LogRecord
  | .failed cause => [failureRecord cause]
  | .interrupted => [interruptRecord]
  | _ => []

def report (context : RunContext) (request : Request) (settings : Settings) :
    List LogRecord × Ending :=
  if context.interrupted then ([], .interrupted)
  else
    let input := readInput context request
    match input.result with
    | .error halt => (input.records, endingOfHalt halt)
    | .ok files =>
      match Styler.choose settings.color context.environment context.terminal,
          Formatter.ofName settings.formatter with
      | .error cause, _ => (input.records, .escaped cause)
      | .ok _, .error cause => (input.records, endingOfHalt (.ofFailure cause))
      | .ok styler, .ok formatter =>
        let run := formatter.run styler files
        match run.result with
        | .error halt => (input.records ++ run.records, endingOfHalt halt)
        | .ok text =>
          (input.records ++ run.records, .reported text (Totals.ofFiles files).exitCode)

/-- What the input of a request holds, with a stand-in for halves of surrogate pairs. -/
def rawInput (half : Char) (context : RunContext) (request : Request) : Except Halt Datum :=
  let word := request.input.getD streamWord
  if word = streamWord then Input.datumOfBytes half context.input
  else
    let path := Path.normal word
    Input.datumOfFile half path (context.look path)

def givenTexts (half : Char) (context : RunContext) (request : Request) : Option (List Text) :=
  (rawInput half context request >>= Input.ofDatum).toOption.map Report.givenTexts

/-- A report that shows half of a pair changes with what stands in for it. -/
def showsHalf (context : RunContext) (request : Request) : Bool :=
  givenTexts Json.standIn context request != givenTexts '\ufffe' context request

/-- The output is UTF-8, which has no code for half of a pair, and then nothing at all is printed. -/
def printed (context : RunContext) (request : Request) : Ending → Ending
  | .reported report status =>
    if report ≠ [] ∧ showsHalf context request = true then .escaped .unencodable
    else .reported report status
  | ending => ending

/-- The console of a run is no terminal by itself. -/
def setupFor (values : Variables) (verbosity : Verbosity) : Except Escape LogSetup := do
  let screen ← Screen.ofTerminal values false
  return ⟨verbosity.level, screen, verbosity == .verbose, false, none⟩

/-- A failure is told on the console that is there for it, which must find out its width. -/
def told (console : Screen) (values : Variables) : Ending → Ending
  | .failed cause =>
    match console.width values false with
    | .ok _ => .failed cause
    | .error cause => .escaped cause
  | ending => ending

/-- Help and refusals are laid out on a new console, which must find out its size first. -/
def laidOut (values : Variables) (stream : Bool) (ending : Ending) : Ending :=
  match Screen.ofTerminal values stream with
  | .ok _ => ending
  | .error cause => .escaped cause

def refusal (values : Variables) : Ending := laidOut values false .misused

def help (context : RunContext) : Ending :=
  laidOut context.environment context.terminal
    (.helpShown (context.helpPage context.environment context.terminal))

def carryOut (console : Screen) (context : RunContext) (logging : Logging) (request : Request) :
    Outcome :=
  match Settings.load context.toSurroundings request.config (overrides request) with
  | .error halt =>
    let ending := endingOfHalt halt
    let records := (closingRecords ending).filter logging.letsThrough
    ⟨told console context.environment ending, records, logging⟩
  | .ok settings =>
    match setupFor context.environment settings.verbosity with
    | .error cause => ⟨.escaped cause, [], logging⟩
    | .ok setup =>
      let logging := logging.setUp setup
      let (records, ending) := report context request settings
      let all := settingsRecord settings :: records ++ closingRecords ending
      ⟨told console context.environment (printed context request ending),
        all.filter logging.letsThrough, logging⟩

/--
A call of the command in a program that is loaded. Help comes before everything else that can be read,
and a command line that makes no request or names no usable file of settings is refused before the
version is shown.
-/
def runOn (console : Screen) (context : RunContext) (logging : Logging) (arguments : List Text) :
    Outcome :=
  match Request.ofArguments? arguments with
  | none =>
    ⟨if asksHelp arguments then help context else refusal context.environment, [], logging⟩
  | some request =>
    if configIsUsable context request = false then ⟨refusal context.environment, [], logging⟩
    else if request.version then ⟨.versionShown, [], logging⟩
    else carryOut console context logging request

/-- A run as a process of its own, which ends at once if the program cannot be loaded. -/
def run (context : RunContext) (logging : Logging) (arguments : List Text) : Outcome :=
  match Screen.ofTerminal context.environment false with
  | .error cause => ⟨.escaped cause, [], logging⟩
  | .ok console => runOn console context logging arguments

def consulted (home : Except Escape Text) (work : Text) (request : Request) : List Text :=
  home.toOption.toList.map Settings.homePath ++ [Settings.workPath work] ++
    (request.config.toList ++ request.input.toList.filter (· != streamWord)).map Path.normal

def readsStream (request : Request) : Bool := request.input.getD streamWord == streamWord

end LintFindings.CommandLine

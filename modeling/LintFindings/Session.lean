import LintFindings.CommandLine.Run
import LintFindings.Log.Console

/-!
Operations that follow each other in one process, on the same files, environment and logging. Each
takes the state that the one before it left behind.
-/

namespace LintFindings

structure Session where
  home : Text
  work : Text
  tree : FileTree
  environment : List (Text × Text)
  logging : Logging
  time : Text
  console : Option Screen

inductive VariableFault where
  | noName
  | strayCharacter
  deriving DecidableEq, Repr

namespace Session

def location (path : Text) : Location := Path.absoluteParts [] path

def look (s : Session) (path : Text) : Except PathFault Node :=
  s.tree.find (location s.work) path

/-- The account itself has a home folder that holds nothing. -/
def accountHome : Text := "/root"

def values (s : Session) : Variables := fun name => s.environment.lookup name

def surroundings (s : Session) : Surroundings := ⟨accountHome, s.work, s.look, s.values⟩

def withoutVariable (s : Session) (name : Text) : Session :=
  { s with environment := s.environment.filter (fun (other, _) => other ≠ name) }

/-- Sets a variable, or takes it away. A name has no equals sign, and no null ends a text early. -/
def setVariable (s : Session) (name : Text) (value : Option Text) :
    Except VariableFault Session :=
  match value with
  | none => .ok (s.withoutVariable name)
  | some value =>
    if name = [] then .error .noName
    else if name.contains '=' || (name ++ value).contains '\x00' then .error .strayCharacter
    else
      let s := s.withoutVariable name
      .ok { s with environment := (name, value) :: s.environment }

def write (s : Session) (path : Text) (node : Node) : Except PathFault Session := do
  if path.contains '\x00' then throw .strayCharacter
  let start := FileTree.start (location s.work) path
  let parts := Path.parts (Path.normal path)
  match node with
  | .folder =>
    let (tree, _) ← s.tree.makeFolders start parts
    return { s with tree }
  | .file _ =>
    let (tree, folder) ← s.tree.makeFolders start parts.dropLast
    let place := folder ++ parts.getLast?.toList.filter (fun part => !Path.isHere part)
    if FileTree.nameLimit < FileTree.size (place.getLastD []) then throw .nameTooLong
    if tree.node? place = some .folder then throw .isFolder
    return { s with tree := tree.put place node }

/-- The program of the command is loaded before any variable but one is set. -/
def start (home work time : Text) : Session :=
  let folders := [home, work].foldl
    (fun tree path => (tree.put (location path).dropLast .folder).put (location path) .folder)
    (⟨[]⟩ : FileTree)
  { home, work, time
    tree := folders
    environment := [("HOME", home)]
    logging := .untouched
    console := some .unsized }

def remove (s : Session) (path : Text) : Except PathFault Session := do
  let place ← s.tree.locate (location s.work) (Path.normal path)
  if s.tree.node? place = some .folder then throw .isFolder
  return { s with tree := s.tree.remove place, logging := s.logging.forget place }

def keep (s : Session) (records : List LogRecord) : Session :=
  { s with
    tree := records.foldl (s.logging.write s.time) s.tree
    logging := records.foldl Logging.tell s.logging }

/--
Sets logging up anew, with a console that is no terminal by itself. A log file is made if it is
missing; if it cannot be opened everything stays as it was. The path is made absolute as text, so
that its parents need not be there.
-/
def setUpLogging (s : Session) (verbose quiet : Bool) (path : Option Text) :
    Except Escape Session := do
  let screen ← Screen.ofTerminal s.values false
  let setup (file : Option LogFile) : LogSetup :=
    ⟨Logging.requestedLevel verbose quiet, screen, verbose, false, file⟩
  match path.filter (· != []) with
  | none => return { s with logging := s.logging.setUp (setup none) }
  | some path =>
    let place ← (s.tree.placeForFile [] (Path.absolute s.work path)).mapError Escape.path
    return { s with
      tree := s.tree.append place []
      logging := s.logging.setUp (setup (some (.at place))) }

def useLogger (s : Session) (name : Text) : Session := { s with logging := s.logging.use name }

def log (s : Session) (record : LogRecord) : Session :=
  s.keep ([record].filter s.logging.letsThrough)

def onConsole (s : Session) (record : LogRecord) : Bool :=
  s.logging.onConsole (fun setup => setup.screen.width s.values false) record

def format (s : Session) (sources : List Source) (formatter : Text)
    (styler : Except Escape Styler) : Logged Halt Text × Session :=
  let run := formatResults sources formatter styler
  (run, s.keep run.records)

def read (s : Session) (name : Text) (reading : Except Halt (List FileFindings)) :
    Logged Halt (List FileFindings) × Session :=
  let run := Input.logged name reading
  (run, s.keep run.records)

def readPath (s : Session) (path : Text) : Logged Halt (List FileFindings) × Session :=
  let path := Path.normal path
  s.read path (Input.ofFile path (s.look path))

def render (s : Session) (formatter : Text) (styler : Styler) (files : List FileFindings) :
    Except Halt (Formatter × Text) × Session :=
  match Formatter.ofName formatter with
  | .error cause => (.error (.ofFailure cause), s)
  | .ok found =>
    let run := found.run styler files
    (run.result.map (found, ·), s.keep (run.records.filter s.logging.letsThrough))

def loadSettings (s : Session) (explicit : Option Text) (overrides : Fields) :
    Except Halt Settings :=
  Settings.load s.surroundings explicit overrides

def runContext (s : Session) (input : Bytes) (interrupted : Bool) : CommandLine.RunContext :=
  { s.surroundings with
    input, interrupted
    terminal := false
    helpPage := fun _ _ => CommandLine.plainHelp }

def load (s : Session) : Except Escape Screen :=
  match s.console with
  | some console => .ok console
  | none => Screen.ofTerminal s.values false

def run (s : Session) (arguments : List Text) (input : Bytes) (interrupted : Bool) :
    CommandLine.Outcome × Session :=
  match s.load with
  | .error cause => (⟨.escaped cause, [], s.logging⟩, s)
  | .ok console =>
    let outcome := CommandLine.runOn console (s.runContext input interrupted) s.logging arguments
    (outcome, { s with logging := outcome.logging, console := some console }.keep outcome.records)

def startsWithTime (t : Text) : Bool :=
  let shape : Text := "0000-00-00 00:00:00 - "
  shape.length ≤ t.length &&
    (List.zip shape t).all (fun (s, c) => if s = '0' then Text.isDigit c else c == s)

def hideTimes (text : Text) : Text :=
  Text.join ['\n'] ((Text.split '\n' text).map fun line =>
    if startsWithTime line then "<TIME>" ++ line.drop 19 else line)

def contents (s : Session) (path : Text) : Except Escape Text :=
  match s.look (Path.normal path) with
  | .error fault => .error (.path fault)
  | .ok .folder => .error (.path .isFolder)
  | .ok (.file bytes) =>
    match Utf8.decode bytes with
    | .error _ => .error .notUtf8
    | .ok text => .ok (hideTimes text.unifyBreaks)

end Session

end LintFindings

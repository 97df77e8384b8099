import LintFindings.Terminal

/-!
Log records and the set-up that decides which of them are let through and where they go. Before
any set-up only warnings and what is graver are let through, to the console alone.
-/

namespace LintFindings

inductive Level where
  | debug
  | info
  | warning
  | error
  | critical
  deriving DecidableEq, Repr

namespace Level

def rank : Level → Nat
  | debug => 10
  | info => 20
  | warning => 30
  | error => 40
  | critical => 50

def name : Level → Text
  | debug => "DEBUG"
  | info => "INFO"
  | warning => "WARNING"
  | error => "ERROR"
  | critical => "CRITICAL"

def reaches (level threshold : Level) : Bool := threshold.rank ≤ level.rank

end Level

structure LogRecord where
  level : Level
  logger : Text
  text : Text
  deriving DecidableEq, Repr

namespace LogRecord

def shown (record : LogRecord) : Text :=
  record.level.name ++ ' ' :: record.logger ++ ": " ++ record.text

def entry (time : Text) (record : LogRecord) : Text :=
  time ++ " - " ++ record.logger ++ " - " ++ record.level.name ++ " - " ++ record.text ++ "\n"

end LogRecord

namespace Logger

def top : Text := "lint_report"

/-- The full name of a logger: a name that does not start like the top one is put below it. -/
def fullName (name : Option Text) : Text :=
  match name with
  | none => top
  | some name => if top.isPrefixOf name then name else top ++ '.' :: name

/--
The names of the loggers that one lies below, from its name read backwards, the closest first. A
period ends each of them; of two periods in a row the one on the left is passed over.
-/
def outerOfReversed : Text → List Text
  | [] => []
  | ['.'] => []
  | '.' :: last :: rest => (last :: rest).reverse :: outerOfReversed rest
  | _ :: rest => outerOfReversed rest

def outer (name : Text) : List Text := outerOfReversed name.reverse

def parent? (used : List Text) (name : Text) : Option Text :=
  (outer name).find? (fun name => name == top || used.contains name)

def reachesTop (used : List Text) : Nat → Text → Bool
  | 0, _ => false
  | steps + 1, name =>
    name == top ||
      match parent? used name with
      | some name => reachesTop used steps name
      | none => false

/-- A logger that is the top one or lies below it; every parent has a shorter name. -/
def isInTree (used : List Text) (name : Text) : Bool := reachesTop used (name.length + 1) name

end Logger

/-- A log file that stays open; once it is removed from its place nobody sees what it gets. -/
inductive LogFile where
  | at (location : Location)
  | removed
  deriving DecidableEq, Repr

structure LogSetup where
  level : Level
  screen : Screen
  detailed : Bool
  timed : Bool
  file : Option LogFile
  deriving DecidableEq, Repr

inductive LogHandler where
  | console
  | file
  deriving DecidableEq, Repr

/-- The set-up in force, if there has been one, and the names of the loggers in use. -/
structure Logging where
  setup : Option LogSetup
  used : List Text
  deriving DecidableEq, Repr, Inhabited

namespace Logging

def untouched : Logging := ⟨none, []⟩

def use (logging : Logging) (name : Text) : Logging :=
  { logging with used := name :: logging.used }

def isInTree (logging : Logging) (name : Text) : Bool := Logger.isInTree logging.used name

def setUp (logging : Logging) (setup : LogSetup) : Logging := { logging with setup := some setup }

def requestedLevel (verbose quiet : Bool) : Level :=
  if quiet then .error else if verbose then .debug else .warning

/-- Loggers outside the tree, and all before any set-up, go by the default. -/
def threshold (logging : Logging) (logger : Text) : Level :=
  match logging.setup with
  | some setup => if logging.isInTree logger then setup.level else .warning
  | none => .warning

def letsThrough (logging : Logging) (record : LogRecord) : Bool :=
  record.level.reaches (logging.threshold record.logger)

def handlers (logging : Logging) : List LogHandler :=
  match logging.setup with
  | none => []
  | some setup => .console :: (setup.file.toList.map (fun _ => .file))

def propagates (logging : Logging) : Bool := logging.setup.isNone

def place? (logging : Logging) : Option Location :=
  match logging.setup.bind LogSetup.file with
  | some (.at location) => some location
  | _ => none

def write (logging : Logging) (time : Text) (tree : FileTree) (record : LogRecord) : FileTree :=
  match logging.place? with
  | some location =>
    if logging.isInTree record.logger then tree.append location (Utf8.encode (record.entry time))
    else tree
  | none => tree

def tell (logging : Logging) (record : LogRecord) : Logging :=
  if logging.isInTree record.logger then
    { logging with setup := logging.setup.map (fun setup => { setup with timed := true }) }
  else logging

def forget (logging : Logging) (location : Location) : Logging :=
  if logging.place? = some location then
    { logging with setup := logging.setup.map (fun setup => { setup with file := some .removed }) }
  else logging

end Logging

structure Logged (ε α : Type) where
  records : List LogRecord
  result : Except ε α

end LintFindings

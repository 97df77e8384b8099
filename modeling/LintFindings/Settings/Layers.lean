import LintFindings.Settings
import LintFindings.Styler
import LintFindings.Toml.Document

/-!
Layers of settings: three files, the environment, and what is given for one call. A later layer
hides the data of earlier ones name by name.
-/

namespace LintFindings

structure Surroundings where
  account : Text
  work : Text
  look : Text → Except PathFault Node
  environment : Variables

namespace Settings

def fileName : Text := "lint-report.toml"

def tableName : Text := "lint-report"

def folderProblem (path : Text) : Text :=
  "[Errno 21] " ++ PathFault.isFolder.reason ++ ": " ++ path.quoted

def lockedProblem (path : Text) : Text :=
  "[Errno 13] " ++ PathFault.locked.reason ++ ": " ++ path.quoted

/-- The settings of a document: its own table for them, or else all that it holds. -/
def sectionOf (document : Fields) : Fields :=
  match document.get? tableName with
  | some (.table fields) => fields
  | _ => document

def ofBytes (path : Text) (bytes : Bytes) : Except Halt Fields :=
  match Utf8.decode bytes with
  | .error _ => .error (.escaped .notUtf8)
  | .ok text =>
    match Toml.read text with
    | .ok document => .ok (sectionOf document)
    | .error .digitLimit => .error (.escaped .digitLimit)
    | .error .nestingLimit => .error (.escaped .nestingLimit)
    | .error (.malformed problem) => .error (.failed (.invalidSettingsFile path problem))

/-- Finding out whether a file is there is not guarded, but reading it is. -/
def ofPath? (around : Surroundings) (path : Text) : Except Halt (Option Fields) :=
  match around.look path with
  | .ok (.file bytes) => (ofBytes path bytes).map some
  | .ok .folder => .error (.failed (.invalidSettingsFile path (folderProblem path)))
  | .error .locked => .error (.failed (.invalidSettingsFile path (lockedProblem path)))
  | .error .nameTooLong => .error (.escaped (.path .nameTooLong))
  | .error .denied => .error (.escaped (.path .denied))
  | .error _ => .ok none

def ofPath (around : Surroundings) (path : Text) : Except Halt Fields := do
  match ← ofPath? around path with
  | some fields => return fields
  | none => throw (.failed (.missingSettingsFile path))

end Settings

inductive VariableKind where
  | flag
  | choice
  | text
  deriving DecidableEq, Repr

namespace VariableKind

def notFlag (value : Text) : Text := "expected true/false, got '" ++ value ++ "'"

def readFlag (value : Text) : Except Text Datum :=
  if Text.isOneOf ["true", "1", "yes", "on"] value.lower then .ok (.bool true)
  else if Text.isOneOf ["false", "0", "no", "off"] value.lower then .ok (.bool false)
  else .error (notFlag value)

def read (kind : VariableKind) (value : Text) : Except Text Datum :=
  match kind with
  | text => .ok (.text value)
  | flag => readFlag value
  | choice => if Text.isOneOf ["", "auto"] value.lower then .ok .null else readFlag value

end VariableKind

namespace Settings

def variableTable : List (Text × Text × VariableKind) :=
  [("color", "LINT_REPORT_COLOR", .choice), ("formatter", "LINT_REPORT_FORMATTER", .text),
    ("verbosity", "LINT_REPORT_VERBOSITY", .text)]

def ofVariablesIn (values : Variables) : List (Text × Text × VariableKind) → Except Failure Fields
  | [] => .ok []
  | (name, source, kind) :: rest =>
    match values source with
    | none => ofVariablesIn values rest
    | some value =>
      match kind.read value with
      | .error reason => .error (.invalidSetting name (.text value) (source ++ ": " ++ reason))
      | .ok datum => (ofVariablesIn values rest).map ((name, datum) :: ·)

def ofVariables (values : Variables) : Except Failure Fields := ofVariablesIn values variableTable

/-- Takes a flag away; if it was set, its verbosity takes the place of any other. -/
def foldFlag (flag : Text) (verbosity : Verbosity) (overrides : Fields) : Fields :=
  let others := overrides.remove flag
  if (overrides.get? flag).any Datum.isTruthy then
    others.put "verbosity" (.text verbosity.name)
  else others

def isGiven : Datum → Bool
  | .null => false
  | _ => true

/-- What is given for one call: the quiet flag wins, and a null gives nothing. -/
def ofOverrides (overrides : Fields) : Fields :=
  (foldFlag "quiet" .quiet (foldFlag "verbose" .verbose overrides)).filter
    (fun (_, value) => isGiven value)

/--
The home folder: the one that the environment names, and only without such a variable the one of
the account. A name that starts with a tilde would itself ask for a home folder.
-/
def homeFolder (values : Variables) (account : Text) : Except Escape Text :=
  match values "HOME" with
  | none => .ok account
  | some named =>
    match Path.trimSlashes named with
    | [] => .ok ['/']
    | '~' :: _ => .error .noHome
    | folder => .ok folder

def homePath (home : Text) : Text := Path.normal (Path.join home ('.' :: fileName))

def workPath (work : Text) : Text := Path.join work fileName

structure Layers where
  files : List Fields
  environment : Fields
  overrides : Fields
  deriving Repr

namespace Layers

def all (layers : Layers) : List Fields := layers.files ++ [layers.environment, layers.overrides]

def merged (layers : Layers) : Fields := layers.all.foldl Fields.merge []

end Layers

def layers (around : Surroundings) (explicit : Option Text) (overrides : Fields) :
    Except Halt Layers := do
  let home ← match homeFolder around.environment around.account with
    | .ok home => pure home
    | .error cause => throw (.escaped cause)
  let everywhere ← ofPath? around (homePath home)
  let here ← ofPath? around (workPath around.work)
  let asked ← match explicit with
    | some path => (ofPath around (Path.normal path)).map some
    | none => pure none
  let environment ← Halt.ofFailing (ofVariables around.environment)
  return {
    files := [everywhere, here, asked].map (·.getD [])
    environment
    overrides := ofOverrides overrides }

def load (around : Surroundings) (explicit : Option Text) (overrides : Fields) :
    Except Halt Settings := do
  let layers ← layers around explicit overrides
  Halt.ofFailing (ofFields layers.merged)

end Settings

end LintFindings

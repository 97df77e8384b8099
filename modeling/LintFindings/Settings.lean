import LintFindings.Input
import LintFindings.Log

/-! Settings, and the named data they are made from. -/

namespace LintFindings

inductive Verbosity where
  | quiet
  | normal
  | verbose
  deriving DecidableEq, Repr

namespace Verbosity

def name : Verbosity → Text
  | quiet => "quiet"
  | normal => "normal"
  | verbose => "verbose"

def all : List Verbosity := [quiet, normal, verbose]

def ofName? (name : Text) : Option Verbosity := all.find? (fun v => v.name == name)

def level (v : Verbosity) : Level := Logging.requestedLevel (v == verbose) (v == quiet)

end Verbosity

/-- Without a color the terminal decides; the formatter need not exist. -/
structure Settings where
  color : Option Bool
  formatter : Text
  verbosity : Verbosity
  deriving DecidableEq, Repr

namespace Settings

def default : Settings := ⟨none, "stylish", .normal⟩

def names : List Text := ["color", "formatter", "verbosity"]

def invalid (name : String) (value : Datum) (reason : String) : Failure :=
  .invalidSetting name value reason

def colorOf (fields : Fields) : Except Failure (Option Bool) :=
  match fields.get? "color" with
  | none => .ok default.color
  | some .null => .ok none
  | some (.bool value) => .ok (some value)
  | some value => .error (invalid "color" value "expected true, false or unset")

def formatterOf (fields : Fields) : Except Failure Text :=
  match fields.get? "formatter" with
  | none => .ok default.formatter
  | some (.text (c :: rest)) => .ok (c :: rest)
  | some value => .error (invalid "formatter" value "expected a formatter name")

def verbosityOf (fields : Fields) : Except Failure Verbosity :=
  match fields.get? "verbosity" with
  | none => .ok default.verbosity
  | some value =>
    match (match value with | .text name => Verbosity.ofName? name | _ => none) with
    | some verbosity => .ok verbosity
    | none =>
      .error (invalid "verbosity" value "expected one of quiet, normal, verbose")

def strangeName? (fields : Fields) : Option Text :=
  fields.keys.find? (fun key => !names.contains key)

def ofKnown (fields : Fields) : Except Failure Settings := do
  let color ← colorOf fields
  let formatter ← formatterOf fields
  let verbosity ← verbosityOf fields
  return { color, formatter, verbosity }

/-- Settings from data under any names; a strange name comes before an invalid value. -/
def ofFields (fields : Fields) : Except Failure Settings :=
  match strangeName? fields with
  | some key => .error (.unknownSetting key)
  | none => ofKnown fields

def colorText : Option Bool → Text
  | none => "None"
  | some true => "True"
  | some false => "False"

def shown (s : Settings) : Text :=
  "ReportConfig(color=" ++ colorText s.color ++ ", formatter=" ++ s.formatter.quoted ++
    ", verbosity=" ++ s.verbosity.name.quoted ++ ")"

end Settings

end LintFindings

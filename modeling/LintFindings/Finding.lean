import LintFindings.Failure

/-! Findings of a linter and the files they belong to. -/

namespace LintFindings

inductive Severity where
  | warning
  | error
  deriving DecidableEq, Repr

namespace Severity

def code : Severity → Int
  | warning => 1
  | error => 2

def ofCode? (code : Int) : Option Severity :=
  if code = 1 then some warning else if code = 2 then some error else none

def label : Severity → Text
  | warning => "warning"
  | error => "error"

theorem code_of_ofCode? {code : Int} {s : Severity} (h : ofCode? code = some s) : s.code = code := by
  unfold ofCode? at h
  split at h
  · cases h; simp_all [Severity.code]
  · split at h
    · cases h; simp_all [Severity.code]
    · cases h

theorem ofCode?_isSome_iff (code : Int) : (ofCode? code).isSome = true ↔ code = 1 ∨ code = 2 := by
  unfold ofCode?
  by_cases mild : code = 1
  · simp [mild]
  · by_cases grave : code = 2 <;> simp [mild, grave]

end Severity

/--
One message of a linter. A fatal one says that the file could not be checked at all; it is an
error whatever its severity.
-/
structure Finding where
  message : Text
  severity : Int
  line : Int
  column : Int
  rule : Option Text
  fatal : Bool
  deriving DecidableEq, Repr, Inhabited

namespace Finding

def isError (f : Finding) : Bool := f.fatal || f.severity == 2

/-- The severity as a word; only fatal findings may have any other severity. -/
def label (f : Finding) : Except Failure Text :=
  if f.fatal then .ok Severity.error.label
  else match Severity.ofCode? f.severity with
    | some severity => .ok severity.label
    | none => .error (.unsupportedSeverity (.int f.severity) .nowhere)

def text (f : Finding) : Text :=
  if f.message.getLast? = some '.' then f.message.dropLast else f.message

end Finding

/-- The findings in one file. The counts are the linter's own and need not match the findings. -/
structure FileFindings where
  path : Text
  findings : List Finding
  errors : Int
  warnings : Int
  deriving DecidableEq, Repr, Inhabited

namespace FileFindings

def problems (file : FileFindings) : Int := file.errors + file.warnings

end FileFindings

structure Totals where
  errors : Int
  warnings : Int
  deriving DecidableEq, Repr

namespace Totals

def ofFiles (files : List FileFindings) : Totals :=
  ⟨files.foldr (fun file count => file.errors + count) 0,
    files.foldr (fun file count => file.warnings + count) 0⟩

def all (totals : Totals) : Int := totals.errors + totals.warnings

def exitCode (totals : Totals) : Nat := if 0 < totals.errors then 1 else 0

end Totals

end LintFindings

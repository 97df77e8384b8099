import LintFindings.Finding.Raw
import LintFindings.Report

/-! Formatting findings, raw or already read, in one call. -/

namespace LintFindings

inductive Source where
  | read (file : FileFindings)
  | raw (data : Datum)

namespace Source

/-- Reads what is raw; a raw record is known by its place in the whole list. -/
def readFrom : Nat → List Source → Except Failure (List FileFindings)
  | _, [] => .ok []
  | start, source :: rest => do
    let file ← match source with
      | .read file => pure file
      | .raw data => FileFindings.ofDatum data (some (start : Int))
    let files ← readFrom (start + 1) rest
    return file :: files

def readAll (sources : List Source) : Except Failure (List FileFindings) := readFrom 0 sources

end Source

def usingRecord (formatter : Formatter) (styler : Styler) : LogRecord :=
  ⟨.debug, "lint_report.api", "Using " ++ formatter.name ++ " formatter with " ++ styler.name⟩

def formatFiles (files : List FileFindings) (formatter : Text) (styler : Styler) :
    Logged Halt Text :=
  match Formatter.ofName formatter with
  | .error cause => ⟨[], .error (.ofFailure cause)⟩
  | .ok found =>
    let run := found.run styler files
    ⟨usingRecord found styler :: run.records, run.result⟩

/-- First the sources are read, then the styler must be there, and then the files are formatted. -/
def formatResults (sources : List Source) (formatter : Text) (styler : Except Escape Styler) :
    Logged Halt Text :=
  match Source.readAll sources, styler with
  | .error cause, _ => ⟨[], .error (.ofFailure cause)⟩
  | .ok _, .error cause => ⟨[], .error (.escaped cause)⟩
  | .ok files, .ok styler => formatFiles files formatter styler

end LintFindings

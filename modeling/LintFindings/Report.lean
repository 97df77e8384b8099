import LintFindings.Finding
import LintFindings.Halt
import LintFindings.Log
import LintFindings.Styler
import LintFindings.Text.Blank

/-!
The report: a block for each file with findings, its rows aligned in columns, and a summary line
at the end. A list of files without any finding has an empty report. Up to `format` integers of any
length are written out; `writeRows` and `write`, which the program is, write none that is too long.
-/

namespace LintFindings

namespace Report

def plural (word : Text) (count : Int) : Text := if count = 1 then word else word ++ ['s']

def counted (count : Int) (word : String) : Text :=
  Text.ofInt count ++ ' ' :: plural word.toList count

def summary (totals : Totals) : Text :=
  "✖ " ++ counted totals.all "problem" ++
    " (" ++ counted totals.errors "error" ++ ", " ++ counted totals.warnings "warning" ++ ")"

structure Cells where
  position : Text
  label : Text
  text : Text
  rule : Text
  isError : Bool
  deriving DecidableEq, Repr

def cells (f : Finding) : Except Failure Cells := do
  let label ← f.label
  return {
    position := Text.ofInt f.line ++ ':' :: Text.ofInt f.column
    label
    text := f.text
    rule := f.rule.getD []
    isError := f.isError }

def allCells : List Finding → Except Failure (List Cells)
  | [] => .ok []
  | f :: rest => do
    let first ← cells f
    let others ← allCells rest
    return first :: others

structure Widths where
  position : Nat
  label : Nat
  text : Nat
  deriving DecidableEq, Repr

def widest (column : Cells → Text) (rows : List Cells) : Nat :=
  rows.foldr (fun row width => max (column row).length width) 0

def widths (rows : List Cells) : Widths :=
  ⟨widest Cells.position rows, widest Cells.label rows, widest Cells.text rows⟩

def pad (styled plain : Text) (width : Nat) : Text :=
  styled ++ List.replicate (width - plain.length) ' '

def columnGap : Text := "  "

def fullRow (styler : Styler) (w : Widths) (row : Cells) : Text :=
  let label := if row.isError then styler.errorLabel row.label else styler.warningLabel row.label
  columnGap ++ pad (styler.muted row.position) row.position w.position ++
    columnGap ++ pad label row.label w.label ++
    columnGap ++ pad row.text row.text w.text ++
    columnGap ++ styler.muted row.rule

def row (styler : Styler) (w : Widths) (cells : Cells) : Text :=
  (fullRow styler w cells).trimEnd

def rows (styler : Styler) (findings : List Finding) : Except Failure (List Text) := do
  let all ← allCells findings
  return all.map (row styler (widths all))

def positionIsWritable (f : Finding) : Bool := isWritable f.line && isWritable f.column

/-- What is in the way of a row: a position that is too long, or else a severity without a label. -/
def obstacle? (f : Finding) : Option Halt :=
  if positionIsWritable f then
    match f.label with
    | .ok _ => none
    | .error cause => some (.ofFailure cause)
  else some (.escaped .digitLimit)

def writeRows (styler : Styler) (findings : List Finding) : Except Halt (List Text) :=
  match findings.findSome? obstacle? with
  | some halt => .error halt
  | none => Halt.ofFailing (rows styler findings)

def line (t : Text) : Text := t ++ ['\n']

def block (styler : Styler) (file : FileFindings) : Except Failure Text := do
  let rows ← rows styler file.findings
  return '\n' :: line (styler.path file.path) ++ rows.flatMap line

def blocks (styler : Styler) : List FileFindings → Except Failure Text
  | [] => .ok []
  | file :: files => do
    let first ← block styler file
    let others ← blocks styler files
    return first ++ others

def ending (styler : Styler) (totals : Totals) : Text :=
  let emphasize := if 0 < totals.errors then styler.error else styler.warning
  '\n' :: line (emphasize (summary totals))

def withFindings (files : List FileFindings) : List FileFindings :=
  files.filter (fun file => !file.findings.isEmpty)

def format (styler : Styler) (files : List FileFindings) : Except Failure Text :=
  match withFindings files with
  | [] => .ok []
  | shown => do
    let blocks ← blocks styler shown
    return blocks ++ ending styler (.ofFiles files)

def formattedRecord (files : List FileFindings) : LogRecord :=
  let totals := Totals.ofFiles files
  ⟨.debug, "lint_report.formatters.stylish",
    "Formatted " ++ Text.ofNat (withFindings files).length ++ " file(s): " ++
      Text.ofInt totals.errors ++ " error(s), " ++ Text.ofInt totals.warnings ++ " warning(s)"⟩

def countsAreWritable (totals : Totals) : Bool :=
  isWritable totals.errors && isWritable totals.warnings

def summaryIsWritable (totals : Totals) : Bool :=
  countsAreWritable totals && isWritable totals.all

def endingIsWritable (files : List FileFindings) : Bool :=
  (withFindings files).isEmpty || summaryIsWritable (.ofFiles files)

/-- A record that shows too long a count is not made. -/
def records (files : List FileFindings) : List LogRecord :=
  if (withFindings files).isEmpty || !countsAreWritable (.ofFiles files) then []
  else [formattedRecord files]

def writeSummary (totals : Totals) : Except Escape Text :=
  if summaryIsWritable totals then .ok (summary totals) else .error .digitLimit

/-- The first obstacle, in the order of the files and of the findings in them. -/
def stop? (files : List FileFindings) : Option Halt :=
  (files.flatMap FileFindings.findings).findSome? obstacle?

/-- The report with the record of it, which is made when all rows are, and before the summary is. -/
def write (styler : Styler) (files : List FileFindings) : Logged Halt Text :=
  match stop? files with
  | some halt => ⟨[], .error halt⟩
  | none =>
    ⟨records files,
      if endingIsWritable files then Halt.ofFailing (format styler files)
      else .error (.escaped .digitLimit)⟩

def givenTexts (files : List FileFindings) : List Text :=
  (withFindings files).flatMap fun file =>
    file.path :: file.findings.flatMap fun f => f.text :: f.rule.toList

end Report

inductive Formatter where
  | stylish
  deriving DecidableEq, Repr

namespace Formatter

def name : Formatter → Text
  | stylish => "stylish"

def all : List Formatter := [stylish]

def ofName (name : Text) : Except Failure Formatter :=
  match all.find? (fun formatter => formatter.name == name) with
  | some formatter => .ok formatter
  | none => .error (.unknownFormatter name (all.map Formatter.name))

def run : Formatter → Styler → List FileFindings → Logged Halt Text
  | stylish => Report.write

end Formatter

end LintFindings

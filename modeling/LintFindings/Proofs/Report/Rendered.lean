import LintFindings.Report
import LintFindings.Proofs.Text.Trimmed

/-!
What formatting comes to. The only thing that can go wrong is a finding without a label, and the
first of these decides; otherwise the report is a plain function of the files and the styler.
-/

namespace LintFindings

namespace Finding

/-- Only a severity other than the two known ones has no label, and only if it is not fatal. -/
def hasLabel (f : Finding) : Bool := f.fatal || (Severity.ofCode? f.severity).isSome

def word (f : Finding) : Text := if f.isError then Severity.error.label else Severity.warning.label

def labelFailure (f : Finding) : Failure := .unsupportedSeverity (.int f.severity) .nowhere

theorem label_of_hasLabel {f : Finding} (known : f.hasLabel = true) : f.label = .ok f.word := by
  cases fatal : f.fatal with
  | true => simp [label, word, isError, fatal]
  | false =>
      cases severity : Severity.ofCode? f.severity with
      | none => simp [hasLabel, fatal, severity] at known
      | some s =>
          have code := Severity.code_of_ofCode? severity
          cases s with
          | warning =>
              have mild : f.isError = false := by
                rw [isError, fatal, ← code]
                decide
              simp [label, word, fatal, severity, mild]
          | error =>
              have grave : f.isError = true := by
                rw [isError, fatal, ← code]
                decide
              simp [label, word, fatal, severity, grave]

theorem label_of_not_hasLabel {f : Finding} (unknown : f.hasLabel = false) :
    f.label = .error f.labelFailure := by
  simp only [hasLabel, Bool.or_eq_false_iff, Option.isSome_eq_false_iff, Option.isNone_iff_eq_none]
    at unknown
  simp [label, labelFailure, unknown.1, unknown.2]

theorem word_ne_nil (f : Finding) : f.word ≠ [] := by
  unfold word
  cases f.isError <;> decide

theorem word_endsInk (f : Finding) : Text.endsInk f.word = true := by
  unfold word
  cases f.isError <;> decide

end Finding

namespace Report

def unlessStopped {α : Type} (stop : Option Finding) (result : α) : Except Failure α :=
  match stop with
  | some f => .error f.labelFailure
  | none => .ok result

theorem bind_unlessStopped {α β : Type} (stop : Option Finding) (result : α)
    (next : α → Except Failure β) :
    (unlessStopped stop result >>= next) =
      match stop with
      | some f => .error f.labelFailure
      | none => next result := by
  cases stop <;> rfl

theorem unlessStopped_or {α β : Type} (first second : Option Finding) (a : α) (b : β)
    {γ : Type} (join : α → β → γ) :
    (do
      let x ← unlessStopped first a
      let y ← unlessStopped second b
      return join x y) = unlessStopped (first.or second) (join a b) := by
  cases first with
  | some f => rfl
  | none => cases second <;> rfl

theorem eq_of_unlessStopped {α : Type} {stop : Option Finding} {result found : α}
    (ok : unlessStopped stop result = .ok found) : found = result := by
  cases stop with
  | some f => cases ok
  | none =>
      cases ok
      rfl

def isUnlabelled (f : Finding) : Bool := !f.hasLabel

theorem find?_isUnlabelled_eq_none_iff (findings : List Finding) :
    findings.find? isUnlabelled = none ↔ ∀ f ∈ findings, f.hasLabel = true := by
  simp [isUnlabelled]

/-- The first finding without a label, in the order of the files and of the findings in them. -/
def unlabelled? (files : List FileFindings) : Option Finding :=
  (files.flatMap FileFindings.findings).find? isUnlabelled

def cellsOf (f : Finding) : Cells where
  position := Text.ofInt f.line ++ ':' :: Text.ofInt f.column
  label := f.word
  text := f.text
  rule := f.rule.getD []
  isError := f.isError

theorem cells_eq (f : Finding) : cells f = unlessStopped ([f].find? isUnlabelled) (cellsOf f) := by
  cases known : f.hasLabel with
  | true =>
      simp only [cells, Finding.label_of_hasLabel known, List.find?_cons, isUnlabelled, known]
      rfl
  | false =>
      simp only [cells, Finding.label_of_not_hasLabel known, List.find?_cons, isUnlabelled, known]
      rfl

theorem allCells_eq (findings : List Finding) :
    allCells findings = unlessStopped (findings.find? isUnlabelled) (findings.map cellsOf) := by
  induction findings with
  | nil => rfl
  | cons f rest ih =>
      have together : (f :: rest).find? isUnlabelled =
          ([f].find? isUnlabelled).or (rest.find? isUnlabelled) := by
        rw [← List.find?_append]
        rfl
      rw [allCells, cells_eq, ih, unlessStopped_or, together]
      rfl

theorem counted_eq (count : Int) (word : String) :
    counted count word = Text.ofInt count ++ ' ' :: plural word.toList count := rfl

theorem summary_eq (totals : Totals) :
    summary totals = "✖ " ++ counted totals.all "problem" ++
      " (" ++ counted totals.errors "error" ++ ", " ++ counted totals.warnings "warning" ++ ")" := rfl

section Rows

variable (styler : Styler) (w : Widths) (cells : Cells)

def styledLabel : Text :=
  if cells.isError then styler.errorLabel cells.label else styler.warningLabel cells.label

def rowFront : Text :=
  columnGap ++ pad (styler.muted cells.position) cells.position w.position ++
    columnGap ++ styledLabel styler cells

def rowMiddle : Text :=
  List.replicate (w.label - cells.label.length) ' ' ++ columnGap ++
    pad cells.text cells.text w.text ++ columnGap

theorem fullRow_eq :
    fullRow styler w cells =
      rowFront styler w cells ++ (rowMiddle w cells ++ styler.muted cells.rule) := by
  simp only [fullRow, rowFront, rowMiddle, styledLabel, pad, List.append_assoc]

/-- Trimming stops at the label if not before. -/
theorem row_eq (ink : Text.endsInk (styledLabel styler cells) = true) :
    row styler w cells =
      rowFront styler w cells ++ (rowMiddle w cells ++ styler.muted cells.rule).trimEnd := by
  have frontInk : Text.endsInk (rowFront styler w cells) = true := Text.endsInk_append _ ink
  rw [row, fullRow_eq, Text.trimEnd_append frontInk]

end Rows

theorem styledLabel_plain (f : Finding) : styledLabel .plain (cellsOf f) = f.word := by
  unfold styledLabel
  split <;> rfl

def rowsOf (styler : Styler) (findings : List Finding) : List Text :=
  let all := findings.map cellsOf
  all.map (row styler (widths all))

def blockOf (styler : Styler) (file : FileFindings) : Text :=
  '\n' :: line (styler.path file.path) ++ (rowsOf styler file.findings).flatMap line

theorem block_eq (styler : Styler) (file : FileFindings) :
    block styler file =
      unlessStopped (file.findings.find? isUnlabelled) (blockOf styler file) := by
  simp only [block, rows, allCells_eq, bind_unlessStopped]
  cases file.findings.find? isUnlabelled <;> rfl

theorem blocks_eq (styler : Styler) (files : List FileFindings) :
    blocks styler files = unlessStopped (unlabelled? files) (files.flatMap (blockOf styler)) := by
  induction files with
  | nil => rfl
  | cons file files ih =>
      rw [blocks, block_eq, ih, unlessStopped_or, unlabelled?, unlabelled?, List.flatMap_cons,
        List.flatMap_cons, List.find?_append]

theorem flatMap_withFindings (files : List FileFindings) :
    (withFindings files).flatMap FileFindings.findings = files.flatMap FileFindings.findings := by
  induction files with
  | nil => rfl
  | cons file files ih =>
      simp only [withFindings, List.filter_cons, List.flatMap_cons] at ih ⊢
      cases found : file.findings with
      | nil => simpa [found] using ih
      | cons f rest => simpa [found] using ih

theorem unlabelled?_withFindings (files : List FileFindings) :
    unlabelled? (withFindings files) = unlabelled? files := by
  rw [unlabelled?, unlabelled?, flatMap_withFindings]

def rendered (styler : Styler) (files : List FileFindings) : Text :=
  match withFindings files with
  | [] => []
  | shown => shown.flatMap (blockOf styler) ++ ending styler (.ofFiles files)

theorem format_eq (styler : Styler) (files : List FileFindings) :
    format styler files = unlessStopped (unlabelled? files) (rendered styler files) := by
  have sameStop := unlabelled?_withFindings files
  unfold format rendered
  cases shown : withFindings files with
  | nil =>
      rw [shown] at sameStop
      rw [← sameStop]
      rfl
  | cons file rest =>
      rw [shown] at sameStop
      simp only [blocks_eq, bind_unlessStopped, sameStop]
      cases unlabelled? files <;> rfl

theorem rendered_of_format {styler : Styler} {files : List FileFindings} {report : Text}
    (formatted : format styler files = .ok report) : report = rendered styler files := by
  rw [format_eq] at formatted
  exact eq_of_unlessStopped formatted

section Obstacles

theorem obstacle?_eq_none_iff (f : Finding) :
    obstacle? f = none ↔ positionIsWritable f = true ∧ f.hasLabel = true := by
  unfold obstacle?
  cases positionIsWritable f with
  | false => simp
  | true =>
      cases known : f.hasLabel with
      | true => simp [Finding.label_of_hasLabel known]
      | false => simp [Finding.label_of_not_hasLabel known]

theorem findSome?_obstacle?_eq_none_iff (findings : List Finding) :
    findings.findSome? obstacle? = none ↔
      ∀ f ∈ findings, positionIsWritable f = true ∧ f.hasLabel = true := by
  simp only [List.findSome?_eq_none_iff, obstacle?_eq_none_iff]

theorem unlabelled?_of_stop? {files : List FileFindings} (passes : stop? files = none) :
    unlabelled? files = none := by
  rw [stop?, findSome?_obstacle?_eq_none_iff] at passes
  rw [unlabelled?, find?_isUnlabelled_eq_none_iff]
  exact fun f present => (passes f present).2

theorem stop?_withFindings (files : List FileFindings) : stop? (withFindings files) = stop? files := by
  rw [stop?, stop?, flatMap_withFindings]

theorem write_result (styler : Styler) (files : List FileFindings) :
    (write styler files).result =
      match stop? files with
      | some halt => .error halt
      | none =>
        if endingIsWritable files then .ok (rendered styler files)
        else .error (.escaped .digitLimit) := by
  unfold write
  cases passes : stop? files with
  | some halt => rfl
  | none =>
      rw [format_eq, unlabelled?_of_stop? passes]
      rfl

theorem write_records {styler : Styler} {files : List FileFindings} (passes : stop? files = none) :
    (write styler files).records = records files := by
  rw [write, passes]

theorem rendered_of_write {styler : Styler} {files : List FileFindings} {report : Text}
    (written : (write styler files).result = .ok report) : report = rendered styler files := by
  rw [write_result] at written
  split at written
  next => cases written
  next =>
    split at written
    next =>
      cases written
      rfl
    next => cases written

end Obstacles

theorem rendered_of_shown (styler : Styler) {files : List FileFindings}
    (shown : withFindings files ≠ []) :
    rendered styler files =
      (withFindings files).flatMap (blockOf styler) ++ ending styler (.ofFiles files) := by
  unfold rendered
  split
  next empty => exact absurd empty shown
  next => rfl

section Lines

def blockLines (styler : Styler) (file : FileFindings) : List Text :=
  [] :: styler.path file.path :: rowsOf styler file.findings

def emphasized (styler : Styler) (totals : Totals) : Text :=
  if 0 < totals.errors then styler.error (summary totals) else styler.warning (summary totals)

def reportLines (styler : Styler) (shown : List FileFindings) (totals : Totals) : List Text :=
  shown.flatMap (blockLines styler) ++ [[], emphasized styler totals]

theorem blockOf_eq_lines (styler : Styler) (file : FileFindings) :
    blockOf styler file = (blockLines styler file).flatMap line := by
  rw [blockLines, List.flatMap_cons, List.flatMap_cons]
  rfl

theorem ending_eq_lines (styler : Styler) (totals : Totals) :
    ending styler totals = [[], emphasized styler totals].flatMap line := by
  rw [List.flatMap_cons, List.flatMap_singleton, ending, emphasized]
  split <;> rfl

theorem rendered_eq_lines (styler : Styler) {files : List FileFindings}
    (shown : withFindings files ≠ []) :
    rendered styler files =
      (reportLines styler (withFindings files) (.ofFiles files)).flatMap line := by
  have blocks : (withFindings files).flatMap (blockOf styler) =
      ((withFindings files).flatMap (blockLines styler)).flatMap line := by
    rw [List.flatMap_assoc]
    exact List.flatMap_congr fun file _ => blockOf_eq_lines styler file
  rw [rendered_of_shown styler shown, blocks, ending_eq_lines, ← List.flatMap_append, reportLines]

end Lines

end Report

end LintFindings

import LintFindings.Proofs.Report.Markers
import LintFindings.Proofs.Report.Rendered
import LintFindings.Proofs.Steps
import LintFindings.Proofs.Text.Decimal

/-!
A report whose styled parts stand between markers. Read from left to right they are the parts of the
files in their order, each once and with its own text. Without its markers the report is the plain
one, except that no row has been trimmed.
-/

namespace LintFindings

namespace Report

/-- The characters that a report is written in apart from those of its files. -/
def ownText : Text := "✖ problems (errors, warnings):-0123456789\n"

theorem mem_ownText_of_all {t : Text} (own : t.all (ownText.contains ·) = true) {c : Char}
    (member : c ∈ t) : c ∈ ownText := List.contains_iff_mem.mp (List.all_eq_true.mp own c member)

theorem mem_ownText_of_isDigit {c : Char} (digit : Text.isDigit c = true) : c ∈ ownText := by
  have digits : ∀ n < 58, 48 ≤ n → Char.ofNat n ∈ ownText := by decide
  simp only [Text.isDigit, Bool.and_eq_true, decide_eq_true_eq, Char.le_def,
    UInt32.le_iff_toNat_le] at digit
  rw [← Char.ofNat_toNat c]
  exact digits c.toNat (Nat.lt_succ_of_le digit.2) digit.1

theorem mem_ownText_of_ofInt {c : Char} {n : Int} (member : c ∈ Text.ofInt n) : c ∈ ownText := by
  rcases Text.mem_ofInt member with rfl | digit
  · decide
  · exact mem_ownText_of_isDigit digit

theorem mem_ownText_of_counted {word : String} (own : word.toList.all (ownText.contains ·) = true)
    {c : Char} {count : Int} (member : c ∈ counted count word) : c ∈ ownText := by
  rw [counted_eq, List.mem_append, List.mem_cons, plural] at member
  rcases member with number | rfl | letter
  · exact mem_ownText_of_ofInt number
  · decide
  · split at letter
    · exact mem_ownText_of_all own letter
    · rcases List.mem_append.mp letter with letter | final
      · exact mem_ownText_of_all own letter
      · rw [List.mem_singleton.mp final]
        decide

theorem mem_ownText_of_summary {totals : Totals} {c : Char} (member : c ∈ summary totals) :
    c ∈ ownText := by
  have problems := @mem_ownText_of_counted "problem" (by decide) c totals.all
  have errors := @mem_ownText_of_counted "error" (by decide) c totals.errors
  have warnings := @mem_ownText_of_counted "warning" (by decide) c totals.warnings
  rw [summary_eq] at member
  simp only [List.mem_append] at member
  rcases member with (((((start | count) | gap) | count) | gap) | count) | last
  · exact mem_ownText_of_all (by decide) start
  · exact problems count
  · exact mem_ownText_of_all (by decide) gap
  · exact errors count
  · exact mem_ownText_of_all (by decide) gap
  · exact warnings count
  · exact mem_ownText_of_all (by decide) last

def partsOfFinding (f : Finding) : List (Part × Text) :=
  [(.muted, Text.ofInt f.line ++ ':' :: Text.ofInt f.column),
    if f.fatal = true ∨ f.severity = 2 then (.errorLabel, "error") else (.warningLabel, "warning"),
    (.muted, f.rule.getD [])]

def partsOfFile (file : FileFindings) : List (Part × Text) :=
  (.path, file.path) :: file.findings.flatMap partsOfFinding

def partOfSummary (totals : Totals) : Part × Text :=
  (if 0 < totals.errors then .error else .warning, summary totals)

def partsOf (files : List FileFindings) : List (Part × Text) :=
  match withFindings files with
  | [] => []
  | shown => shown.flatMap partsOfFile ++ [partOfSummary (.ofFiles files)]

def plainBlock (finish : Text → Text) (file : FileFindings) : Text :=
  let all := file.findings.map cellsOf
  '\n' :: line file.path ++
    all.flatMap (fun cells => line (finish (fullRow .plain (widths all) cells)))

/-- The plain report of files. Only its rows are finished off: trimmed, or left as they are. -/
def plainReport (finish : Text → Text) (files : List FileFindings) : Text :=
  match withFindings files with
  | [] => []
  | shown => shown.flatMap (plainBlock finish) ++ '\n' :: line (summary (.ofFiles files))

theorem plainReport_trimEnd (files : List FileFindings) :
    plainReport Text.trimEnd files = rendered .plain files := by
  have block : plainBlock Text.trimEnd = blockOf .plain := by
    funext file
    simp only [plainBlock, blockOf, rowsOf, List.flatMap_map]
    rfl
  have last (totals : Totals) : '\n' :: line (summary totals) = ending .plain totals := by
    unfold ending
    split <;> rfl
  unfold plainReport rendered
  cases withFindings files with
  | nil => rfl
  | cons file rest => simp only [block, last]

end Report

namespace Markers

open Report

/-- The characters of a report's own text are no markers, and neither are those of its files. -/
structure AreNewTo (markers : Markers) (files : List FileFindings) : Prop where
  own : markers.IsNewTo ownText
  path (file : FileFindings) : file ∈ files → markers.IsNewTo file.path
  message (file : FileFindings) : file ∈ files → ∀ f ∈ file.findings, markers.IsNewTo f.message
  rule (file : FileFindings) : file ∈ files → ∀ f ∈ file.findings, markers.IsNewTo (f.rule.getD [])

section Reports

variable {markers : Markers} {styler : Styler} (marks : markers.Mark styler)

include marks in
theorem row_eq_fullRow (w : Widths) (cells : Cells) :
    row styler w cells = fullRow styler w cells := by
  have last : Text.endsInk [markers.closing .muted] = true := by
    simp [Text.endsInk, (markers.visible .muted).2]
  have muted : styler.muted cells.rule = markers.opening .muted :: cells.rule ++
    [markers.closing .muted] := marks .muted cells.rule
  have ink : Text.endsInk (styler.muted cells.rule) = true := by
    rw [muted]
    exact Text.endsInk_append _ last
  rw [row, fullRow_eq]
  apply Text.trimEnd_of_endsInk
  exact Text.endsInk_append _ (Text.endsInk_append _ ink)

variable (own : markers.IsNewTo ownText)

include own

theorem isNewTo_position (f : Finding) :
    markers.IsNewTo (Text.ofInt f.line ++ ':' :: Text.ofInt f.column) := by
  apply own.of_subset
  intro c member
  rcases List.mem_append.mp member with number | member
  · exact mem_ownText_of_ofInt number
  · rcases List.mem_cons.mp member with rfl | number
    · decide
    · exact mem_ownText_of_ofInt number

theorem isNewTo_word (f : Finding) : markers.IsNewTo f.word := by
  apply own.of_subset
  intro c member
  rw [Finding.word] at member
  split at member <;> exact mem_ownText_of_all (by decide) member

theorem isNewTo_newline : markers.IsNewTo ['\n'] := by
  apply own.of_subset
  intro c member
  rw [List.mem_singleton.mp member]
  decide

theorem reads_blanks (count : Nat) :
    markers.Reads (List.replicate count ' ') (List.replicate count ' ') [] := by
  apply IsNewTo.reads
  apply own.of_subset
  intro c member
  rw [List.eq_of_mem_replicate member]
  decide

theorem reads_pad {styled bare : Text} {parts : List (Part × Text)}
    (reads : markers.Reads styled bare parts) (plain : Text) (width : Nat) :
    markers.Reads (pad styled plain width) (pad bare plain width) parts := by
  have both := reads.append (reads_blanks own (width - plain.length))
  rwa [List.append_nil] at both

theorem reads_line {t bare : Text} {parts : List (Part × Text)} (reads : markers.Reads t bare parts) :
    markers.Reads (line t) (line bare) parts := by
  have both := reads.append (isNewTo_newline own).reads
  rwa [List.append_nil] at both

include marks

theorem reads_styledLabel (f : Finding) :
    markers.Reads (styledLabel styler (cellsOf f)) f.word
      [if f.fatal = true ∨ f.severity = 2 then (.errorLabel, "error")
        else (.warningLabel, "warning")] := by
  have new := isNewTo_word own f
  have same : f.isError = true ↔ f.fatal = true ∨ f.severity = 2 := by simp [Finding.isError]
  rw [styledLabel]
  by_cases grave : f.isError = true
  · have reads := new.reads_around .errorLabel
    rw [if_pos (same.mp grave), show (cellsOf f).isError = true from grave, if_pos rfl,
      show styler.errorLabel (cellsOf f).label = markers.around .errorLabel f.word from
        marks .errorLabel f.word]
    rwa [show f.word = "error".toList by rw [Finding.word, if_pos grave]; rfl] at reads ⊢
  · have reads := new.reads_around .warningLabel
    rw [if_neg (mt same.mpr grave), if_neg (show ¬ (cellsOf f).isError = true from grave),
      show styler.warningLabel (cellsOf f).label = markers.around .warningLabel f.word from
        marks .warningLabel f.word]
    rwa [show f.word = "warning".toList by rw [Finding.word, if_neg grave]; rfl] at reads ⊢

theorem reads_fullRow (w : Widths) {f : Finding} (message : markers.IsNewTo f.message)
    (rule : markers.IsNewTo (f.rule.getD [])) :
    markers.Reads (fullRow styler w (cellsOf f)) (fullRow .plain w (cellsOf f))
      (partsOfFinding f) := by
  have gap : markers.Reads columnGap columnGap [] := reads_blanks own 2
  have text : markers.IsNewTo f.text := by
    apply message.of_subset
    intro c member
    unfold Finding.text at member
    split at member
    · exact List.dropLast_subset _ member
    · exact member
  have position := (isNewTo_position own f).reads_around .muted
  have label := reads_styledLabel marks own f
  have last := rule.reads_around .muted
  rw [← marks .muted] at position last
  have front := gap.append (reads_pad own position (cellsOf f).position w.position)
  have middle := (front.append gap).append (reads_pad own label (cellsOf f).label w.label)
  have back := (middle.append gap).append (reads_pad own text.reads (cellsOf f).text w.text)
  have whole := (back.append gap).append last
  have plainLabel := styledLabel_plain f
  rw [styledLabel] at plainLabel
  simp only [fullRow, plainLabel]
  exact whole

theorem reads_block {file : FileFindings} (path : markers.IsNewTo file.path)
    (message : ∀ f ∈ file.findings, markers.IsNewTo f.message)
    (rule : ∀ f ∈ file.findings, markers.IsNewTo (f.rule.getD [])) :
    markers.Reads (blockOf styler file) (plainBlock id file) (partsOfFile file) := by
  have top := path.reads_around .path
  rw [← marks .path] at top
  have rows : markers.Reads
      (file.findings.flatMap fun f =>
        line (row styler (widths (file.findings.map cellsOf)) (cellsOf f)))
      (file.findings.flatMap fun f =>
        line (fullRow .plain (widths (file.findings.map cellsOf)) (cellsOf f)))
      (file.findings.flatMap partsOfFinding) := by
    apply Reads.flatMap
    intro f present
    rw [row_eq_fullRow marks]
    apply reads_line own
    exact reads_fullRow marks own _ (message f present) (rule f present)
  have block := ((isNewTo_newline own).reads.append (reads_line own top)).append rows
  simp only [blockOf, plainBlock, rowsOf, List.flatMap_map, List.map_map]
  exact block

theorem reads_ending (totals : Totals) :
    markers.Reads (ending styler totals) ('\n' :: line (summary totals)) [partOfSummary totals] := by
  have new : markers.IsNewTo (summary totals) := own.of_subset fun _ => mem_ownText_of_summary
  have emphasized : (if 0 < totals.errors then styler.error else styler.warning) (summary totals) =
      markers.around (partOfSummary totals).1 (summary totals) := by
    unfold partOfSummary
    split
    · exact marks .error (summary totals)
    · exact marks .warning (summary totals)
  have reads := (isNewTo_newline own).reads.append
    (reads_line own (new.reads_around (partOfSummary totals).1))
  rw [← emphasized] at reads
  exact reads

omit own in
theorem reads_rendered {files : List FileFindings} (new : markers.AreNewTo files) :
    markers.Reads (rendered styler files) (plainReport id files) (partsOf files) := by
  have blocks : markers.Reads ((withFindings files).flatMap (blockOf styler))
      ((withFindings files).flatMap (plainBlock id)) ((withFindings files).flatMap partsOfFile) := by
    apply Reads.flatMap
    intro file member
    have present : file ∈ files := List.mem_of_mem_filter member
    exact reads_block marks new.own (new.path file present) (new.message file present)
      (new.rule file present)
  have whole := blocks.append (reads_ending marks new.own (.ofFiles files))
  unfold rendered plainReport partsOf
  cases shown : withFindings files with
  | nil => exact IsNewTo.reads fun c member => absurd member List.not_mem_nil
  | cons file rest =>
      rw [shown] at whole
      exact whole

end Reports

end Markers

namespace Report

open Markers

/--
A report that is given out under a styler with markers. The marked parts are those of the files in
order and one summary at the end, and there is nothing at all without findings. Without its markers
it is the plain report, which is given out as well, but for the trimming of the rows.
-/
theorem write_marked {markers : Markers} {styler : Styler} (marks : markers.Mark styler)
    {files : List FileFindings} (new : markers.AreNewTo files) {report : Text}
    (written : (write styler files).result = .ok report) :
    ((∀ file ∈ files, file.findings = []) → report = []) ∧
      markers.parts? report = some (partsOf files) ∧
      (write .plain files).result = .ok (plainReport Text.trimEnd files) ∧
      markers.unmarked report = plainReport id files := by
  have reads := reads_rendered marks new
  rw [← rendered_of_write written] at reads
  refine ⟨?_, reads.parts?_eq, ?_, reads.bare⟩
  · intro silent
    have shown : withFindings files = [] := by
      apply List.filter_eq_nil_iff.mpr
      intro file present
      simp [silent file present]
    rw [rendered_of_write written, rendered, shown]
  · rw [write_result] at written ⊢
    rw [plainReport_trimEnd]
    cases stop : stop? files with
    | some halt =>
        rw [stop] at written
        cases written
    | none =>
        rw [stop] at written
        cases writable : endingIsWritable files with
        | true => rfl
        | false =>
            rw [writable] at written
            cases written

def brackets : Markers where
  opening
    | .error => '<'
    | .warning => '['
    | .errorLabel => '«'
    | .warningLabel => '‹'
    | .path => '⟨'
    | .muted => '⌈'
  closing
    | .error => '>'
    | .warning => ']'
    | .errorLabel => '»'
    | .warningLabel => '›'
    | .path => '⟩'
    | .muted => '⌉'
  distinct := by decide
  visible part := by cases part <;> decide

def bracketing : Styler where
  name := "brackets"
  error := brackets.around .error
  warning := brackets.around .warning
  errorLabel := brackets.around .errorLabel
  warningLabel := brackets.around .warningLabel
  path := brackets.around .path
  muted := brackets.around .muted

theorem brackets_mark : brackets.Mark bracketing := by
  intro part t
  cases part <;> rfl

def bracketedFiles : List FileFindings :=
  [⟨"", [⟨"one.", 1, 12, -3, some "rule ", false⟩, ⟨" ", 7, 0, 0, none, true⟩], 0, 1⟩,
    ⟨"skipped", [], 2, 0⟩, ⟨"b\n", [⟨"", 2, 5, 10, some "", false⟩], 0, 0⟩]

def bracketedParts : List (Part × Text) :=
  [(.path, ""), (.muted, "12:-3"), (.warningLabel, "warning"), (.muted, "rule "), (.muted, "0:0"),
    (.errorLabel, "error"), (.muted, ""), (.path, "b\n"), (.muted, "5:10"), (.errorLabel, "error"),
    (.muted, ""), (.error, "✖ 3 problems (2 errors, 1 warning)")]

theorem write_marked_bracketed :
    ∃ report, brackets.Mark bracketing ∧ brackets.AreNewTo bracketedFiles ∧
      (write bracketing bracketedFiles).result = .ok report ∧
      brackets.parts? report = some bracketedParts ∧
      (write .plain bracketedFiles).result = .ok (plainReport Text.trimEnd bracketedFiles) ∧
      brackets.unmarked report = plainReport id bracketedFiles := by
  have new : brackets.AreNewTo bracketedFiles := by
    constructor <;> decide
  have written : (write bracketing bracketedFiles).result =
      .ok (rendered bracketing bracketedFiles) := eq_ok_of_toOption (by decide +kernel)
  obtain ⟨-, parts, plain, bare⟩ := write_marked brackets_mark new written
  exact ⟨_, brackets_mark, new, written, parts, plain, bare⟩

end Report

end LintFindings

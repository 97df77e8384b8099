import LintFindings.Proofs.Report.Labels
import Mathlib.Algebra.Order.BigOperators.Group.List
import Mathlib.Algebra.Ring.Int.Defs

/-!
What is counted, and where it is told: in the summary and its emphasis, in the log record and in the
exit code. All of them go by the sums over all files, and none by the order of the files.
-/

namespace LintFindings

namespace Report

def errorCount (files : List FileFindings) : Int := (files.map FileFindings.errors).sum

def warningCount (files : List FileFindings) : Int := (files.map FileFindings.warnings).sum

section Totals

variable (files : List FileFindings)

theorem totals_eq : Totals.ofFiles files = ⟨errorCount files, warningCount files⟩ := by
  rw [errorCount, warningCount, List.sum_eq_foldr, List.sum_eq_foldr, List.foldr_map,
    List.foldr_map]
  rfl

theorem exitCode_eq : (Totals.ofFiles files).exitCode = if 0 < errorCount files then 1 else 0 := by
  rw [Totals.exitCode, totals_eq]

variable {files}

theorem errorCount_perm {reordered : List FileFindings} (same : files.Perm reordered) :
    errorCount reordered = errorCount files := (same.symm.map FileFindings.errors).sum_eq

theorem warningCount_perm {reordered : List FileFindings} (same : files.Perm reordered) :
    warningCount reordered = warningCount files := (same.symm.map FileFindings.warnings).sum_eq

theorem totals_perm {reordered : List FileFindings} (same : files.Perm reordered) :
    Totals.ofFiles reordered = Totals.ofFiles files := by
  rw [totals_eq, totals_eq, errorCount_perm same, warningCount_perm same]

theorem errorCount_pos_iff (natural : ∀ file ∈ files, 0 ≤ file.errors) :
    0 < errorCount files ↔ ∃ file ∈ files, 1 ≤ file.errors := by
  induction files with
  | nil => simp [errorCount]
  | cons file rest ih =>
      have first := natural file List.mem_cons_self
      have others := ih fun later member => natural later (List.mem_cons_of_mem file member)
      have below : 0 ≤ errorCount rest := by
        apply List.sum_nonneg
        intro count member
        obtain ⟨later, present, rfl⟩ := List.mem_map.mp member
        exact natural later (List.mem_cons_of_mem file present)
      have step : errorCount (file :: rest) = file.errors + errorCount rest := List.sum_cons
      rw [step, List.exists_mem_cons_iff, ← others]
      omega

end Totals

section Reports

def summaryText (errors warnings : Int) : Text :=
  "✖ " ++ Text.ofInt (errors + warnings) ++
    (if errors + warnings = 1 then " problem" else " problems" : Text) ++
    " (" ++ Text.ofInt errors ++ (if errors = 1 then " error" else " errors" : Text) ++
    ", " ++ Text.ofInt warnings ++ (if warnings = 1 then " warning" else " warnings" : Text) ++ ")"

def tallyRecord (blocks : Nat) (errors warnings : Int) : LogRecord :=
  ⟨.debug, "lint_report.formatters.stylish", "Formatted " ++ Text.ofNat blocks ++ " file(s): " ++
    Text.ofInt errors ++ " error(s), " ++ Text.ofInt warnings ++ " warning(s)"⟩

/-- A report that is given out, with the blocks it has and the counts it tells, wherever it does. -/
structure Tells (styler : Styler) (files : List FileFindings) (blocks : List Text)
    (errors warnings : Int) : Prop where
  shown : List.Forall₂ (fun file text => block styler file = .ok text) (withFindings files) blocks
  /-- Whatever the two kinds of emphasis are, just one of them is used, and only for the summary. -/
  summary (error warning : Text → Text) :
    (write { styler with error, warning } files).result = .ok (blocks.flatten ++
      '\n' :: line ((if 0 < errors then error else warning) (summaryText errors warnings)))
  record : (write styler files).records = [tallyRecord blocks.length errors warnings]

theorem counted_eq_ite (count : Int) (word one many : String)
    (single : one.toList = ' ' :: word.toList)
    (several : many.toList = ' ' :: (word.toList ++ ['s'])) :
    counted count word = Text.ofInt count ++ (if count = 1 then one else many : Text) := by
  rw [counted, plural, single, several]
  split <;> rfl

theorem counted_problem (count : Int) : counted count "problem" =
    Text.ofInt count ++ (if count = 1 then " problem" else " problems" : Text) :=
  counted_eq_ite count "problem" " problem" " problems" (by decide) (by decide)

theorem counted_error (count : Int) : counted count "error" =
    Text.ofInt count ++ (if count = 1 then " error" else " errors" : Text) :=
  counted_eq_ite count "error" " error" " errors" (by decide) (by decide)

theorem counted_warning (count : Int) : counted count "warning" =
    Text.ofInt count ++ (if count = 1 then " warning" else " warnings" : Text) :=
  counted_eq_ite count "warning" " warning" " warnings" (by decide) (by decide)

theorem summary_eq_text (errors warnings : Int) :
    summary ⟨errors, warnings⟩ = summaryText errors warnings := by
  unfold summary summaryText Totals.all
  simp only [counted_problem, counted_error, counted_warning, List.append_assoc]

variable {styler : Styler} {files reordered : List FileFindings}

theorem write_eq_ok_iff (report : Text) :
    (write styler files).result = .ok report ↔
      stop? files = none ∧ endingIsWritable files = true ∧ report = rendered styler files := by
  rw [write_result]
  cases stop? files with
  | some halt => simp
  | none =>
      cases endingIsWritable files with
      | false => simp
      | true => simp [eq_comm]

theorem rendered_eq_nil_iff : rendered styler files = [] ↔ withFindings files = [] := by
  constructor
  · intro empty
    by_contra shown
    rw [rendered_of_shown styler shown, List.append_eq_nil_iff] at empty
    cases empty.2
  · intro empty
    rw [rendered, empty]

theorem records_of_shown (shown : withFindings files ≠ [])
    (writable : endingIsWritable files = true) : records files = [formattedRecord files] := by
  have notEmpty : (withFindings files).isEmpty = false := by
    rw [List.isEmpty_eq_false_iff]
    exact shown
  rw [endingIsWritable, notEmpty, Bool.false_or, summaryIsWritable, Bool.and_eq_true] at writable
  rw [records, notEmpty, writable.1]
  rfl

theorem formattedRecord_eq :
    formattedRecord files =
      tallyRecord (withFindings files).length (errorCount files) (warningCount files) := by
  rw [formattedRecord, totals_eq]
  rfl

theorem ending_eq_summaryText :
    ending styler (.ofFiles files) =
      '\n' :: line ((if 0 < errorCount files then styler.error else styler.warning)
        (summaryText (errorCount files) (warningCount files))) := by
  rw [← summary_eq_text, totals_eq]
  rfl

theorem tells_of_passes (passes : stop? files = none)
    (writable : endingIsWritable files = true) (shown : withFindings files ≠ []) :
    Tells styler files ((withFindings files).map (blockOf styler)) (errorCount files)
      (warningCount files) where
  shown := by
    rw [List.forall₂_map_right_iff, List.forall₂_same]
    intro file present
    have labelled := (unlabelled?_eq_none_iff files).mp (unlabelled?_of_stop? passes)
    have sound := labelled file (List.mem_of_mem_filter present)
    have allLabelled : file.findings.find? isUnlabelled = none := by
      rw [find?_isUnlabelled_eq_none_iff]
      intro f found
      exact (hasLabel_iff f).mpr (sound f found)
    rw [block_eq, allLabelled]
    rfl
  summary error warning := by
    rw [write_eq_ok_iff, rendered_of_shown _ shown, ending_eq_summaryText, ← List.flatMap_def]
    exact ⟨passes, writable, rfl⟩
  record := by
    rw [write_records passes, records_of_shown shown writable, formattedRecord_eq,
      List.length_map]

section Reordered

variable (same : files.Perm reordered)

include same

theorem withFindings_perm : (withFindings files).Perm (withFindings reordered) := same.filter _

theorem withFindings_eq_nil_perm : withFindings reordered = [] ↔ withFindings files = [] := by
  rw [← List.isEmpty_iff, ← List.isEmpty_iff, (withFindings_perm same).isEmpty_eq]

theorem stop?_perm (passes : stop? files = none) : stop? reordered = none := by
  have same : (files.flatMap FileFindings.findings).Perm (reordered.flatMap FileFindings.findings) :=
    same.flatMap_right FileFindings.findings
  rw [stop?, findSome?_obstacle?_eq_none_iff] at passes ⊢
  intro f present
  exact passes f (same.mem_iff.mpr present)

theorem endingIsWritable_perm : endingIsWritable reordered = endingIsWritable files := by
  rw [endingIsWritable, endingIsWritable, totals_perm same, (withFindings_perm same).isEmpty_eq]

end Reordered

/--
A report that is not empty tells its counts in the summary, in its emphasis and in one record; an
empty report makes no record. The exit code goes by the errors alone: for files that are read from
raw data it says whether some file has one. The order of the files changes none of this.
-/
theorem write_tellsTally (styler : Styler) {files reordered : List FileFindings}
    (same : files.Perm reordered) :
    (∀ report, (write styler files).result = .ok report → report ≠ [] →
      ∃ blocks, Tells styler reordered blocks (errorCount files) (warningCount files) ∧
        blocks.length = (withFindings files).length) ∧
    ((write styler files).result = .ok [] →
      (write styler reordered).result = .ok [] ∧ (write styler reordered).records = []) ∧
    ((Totals.ofFiles reordered).exitCode = if 0 < errorCount files then 1 else 0) ∧
    (∀ raw, FileFindings.listOfDatum raw = .ok files →
      ((Totals.ofFiles reordered).exitCode = 1 ↔ ∃ file ∈ files, 1 ≤ file.errors)) := by
  refine ⟨?_, ?_, ?_, ?_⟩
  · intro report written notEmpty
    obtain ⟨passes, writable, rfl⟩ := (write_eq_ok_iff report).mp written
    have shown : withFindings reordered ≠ [] := by
      intro empty
      rw [withFindings_eq_nil_perm same] at empty
      exact notEmpty (rendered_eq_nil_iff.mpr empty)
    have passes := stop?_perm same passes
    have writable := (endingIsWritable_perm same).trans writable
    have told : Tells styler reordered _ _ _ := tells_of_passes passes writable shown
    rw [errorCount_perm same, warningCount_perm same] at told
    refine ⟨_, told, ?_⟩
    rw [List.length_map, (withFindings_perm same).length_eq]
  · -- A report is empty only if there is nothing to show, whatever the order.
    intro written
    obtain ⟨passes, writable, empty⟩ := (write_eq_ok_iff []).mp written
    have empty := (withFindings_eq_nil_perm same).mpr (rendered_eq_nil_iff.mp empty.symm)
    have passes := stop?_perm same passes
    constructor
    · rw [write_eq_ok_iff, endingIsWritable_perm same]
      exact ⟨passes, writable, (rendered_eq_nil_iff.mpr empty).symm⟩
    · rw [write_records passes, records, empty]
      rfl
  · rw [exitCode_eq, errorCount_perm same]
  · intro raw read
    have natural : ∀ file ∈ files, 0 ≤ file.errors := fun file present =>
      (FileFindings.isSound_of_listOfDatum read file present).errors
    rw [exitCode_eq, errorCount_perm same, ← errorCount_pos_iff natural]
    by_cases positive : 0 < errorCount files <;> simp [positive]

def talliedFiles : List FileFindings :=
  [⟨"silent.js", [], 1, 0⟩, ⟨"warned.js", [⟨"Unused.", 1, 4, 2, none, false⟩], 0, 2⟩]

theorem write_tellsTally_reversed :
    talliedFiles.Perm talliedFiles.reverse ∧
    (∃ blocks, Tells .plain talliedFiles.reverse blocks 1 2 ∧ blocks.length = 1) ∧
    (Totals.ofFiles talliedFiles.reverse).exitCode = 1 := by
  have same : talliedFiles.Perm talliedFiles.reverse := (List.reverse_perm talliedFiles).symm
  obtain ⟨told, -, exits, -⟩ := write_tellsTally .plain same
  refine ⟨same, ?_, exits⟩
  have shown : withFindings talliedFiles ≠ [] := by decide
  have written : (write .plain talliedFiles).result = .ok (rendered .plain talliedFiles) :=
    (write_eq_ok_iff _).mpr ⟨by decide +kernel, by decide +kernel, rfl⟩
  exact told _ written fun empty => shown (rendered_eq_nil_iff.mp empty)

end Reports

end Report

end LintFindings

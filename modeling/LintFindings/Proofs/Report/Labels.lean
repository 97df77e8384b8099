import LintFindings.Proofs.Finding.Written
import LintFindings.Proofs.First
import LintFindings.Proofs.Report.Rendered

/-!
What a report can fail on: a severity that has no label. Nothing else stops it, and nothing that is
read from raw data has such a severity.
-/

namespace LintFindings

/-- Neither a warning nor an error, and not fatal either. -/
structure Finding.IsUnsupported (f : Finding) : Prop where
  mild : f.fatal = false
  noWarning : f.severity ≠ 1
  noError : f.severity ≠ 2

namespace Report

theorem hasLabel_iff (f : Finding) : f.hasLabel = true ↔ ¬ f.IsUnsupported := by
  rw [Finding.hasLabel, Bool.or_eq_true, Severity.ofCode?_isSome_iff]
  constructor
  · intro labelled unsupported
    rcases labelled with fatal | warning | error
    · exact absurd (fatal.symm.trans unsupported.mild) (by decide)
    · exact unsupported.noWarning warning
    · exact unsupported.noError error
  · intro supported
    by_contra neither
    simp only [not_or, Bool.not_eq_true] at neither
    exact supported ⟨neither.1, neither.2.1, neither.2.2⟩

theorem isUnlabelled_iff (f : Finding) : isUnlabelled f = true ↔ f.IsUnsupported := by
  rw [isUnlabelled, Bool.not_eq_true', ← Bool.not_eq_true, hasLabel_iff, not_not]

theorem format_eq_error_iff (styler : Styler) (files : List FileFindings) (cause : Failure) :
    format styler files = .error cause ↔
      ∃ f, unlabelled? files = some f ∧
        cause = .unsupportedSeverity (.int f.severity) .nowhere := by
  rw [format_eq]
  cases unlabelled? files with
  | none => simp [unlessStopped]
  | some f => simp [unlessStopped, Finding.labelFailure, eq_comm]

theorem unlabelled?_eq_some_iff (files : List FileFindings) (f : Finding) :
    unlabelled? files = some f ↔
      ∃ place, IsFirst Finding.IsUnsupported (files.flatMap FileFindings.findings) place f := by
  rw [unlabelled?, find?_eq_some_iff_isFirst]
  apply exists_congr
  intro place
  constructor
  · intro first
    exact first.congr isUnlabelled_iff
  · intro first
    exact first.congr fun f => (isUnlabelled_iff f).symm

theorem unlabelled?_eq_none_iff (files : List FileFindings) :
    unlabelled? files = none ↔ ∀ file ∈ files, ∀ f ∈ file.findings, ¬ f.IsUnsupported := by
  rw [unlabelled?, find?_isUnlabelled_eq_none_iff]
  simp only [List.mem_flatMap, hasLabel_iff]
  constructor
  · intro sound file present f found
    exact sound f ⟨file, present, found⟩
  · intro sound f found
    obtain ⟨file, present, found⟩ := found
    exact sound file present f found

theorem not_isUnsupported_of_isSound {f : Finding} (sound : f.IsSound) : ¬ f.IsUnsupported := by
  intro unsupported
  rcases sound unsupported.mild with warning | error
  · exact unsupported.noWarning warning
  · exact unsupported.noError error

theorem unlabelled?_of_listOfDatum {raw : Datum} {files : List FileFindings}
    (read : FileFindings.listOfDatum raw = .ok files) : unlabelled? files = none := by
  rw [unlabelled?_eq_none_iff]
  intro file present f found
  have sound := FileFindings.isSound_of_listOfDatum read file present
  exact not_isUnsupported_of_isSound (sound.findings f found)

theorem exists_format_error_iff (styler : Styler) (files : List FileFindings) :
    (∃ cause, format styler files = .error cause) ↔
      ∃ file ∈ files, ∃ f ∈ file.findings, f.IsUnsupported := by
  calc
    (∃ cause, format styler files = .error cause) ↔ unlabelled? files ≠ none := by
      rw [format_eq]
      cases unlabelled? files <;> simp [unlessStopped]
    _ ↔ ¬ ∀ file ∈ files, ∀ f ∈ file.findings, ¬ f.IsUnsupported :=
      not_congr (unlabelled?_eq_none_iff files)
    _ ↔ ∃ file ∈ files, ∃ f ∈ file.findings, f.IsUnsupported := by
      simp only [not_forall, not_not, exists_prop]

/--
Formatting fails if and only if a severity is unsupported. The failure is about the first such
finding, in the order of the files and of the findings in them, and says nothing of its place. Files
that are read from raw data can always be formatted.
-/
theorem format_fails_iff (styler : Styler) (files : List FileFindings) :
    ((∃ cause, format styler files = .error cause) ↔
      ∃ file ∈ files, ∃ f ∈ file.findings, f.IsUnsupported) ∧
    (∀ cause, format styler files = .error cause ↔
      ∃ place f, IsFirst Finding.IsUnsupported (files.flatMap FileFindings.findings) place f ∧
        cause = .unsupportedSeverity (.int f.severity) .nowhere) ∧
    (∀ raw, FileFindings.listOfDatum raw = .ok files →
      ∃ report, format styler files = .ok report) := by
  refine ⟨exists_format_error_iff styler files, ?_, ?_⟩
  · intro cause
    rw [format_eq_error_iff]
    simp only [unlabelled?_eq_some_iff]
    constructor
    · intro failed
      obtain ⟨f, first, told⟩ := failed
      obtain ⟨place, first⟩ := first
      exact ⟨place, f, first, told⟩
    · intro failed
      obtain ⟨place, f, first, told⟩ := failed
      exact ⟨f, ⟨place, first⟩, told⟩
  · intro raw read
    rw [format_eq, unlabelled?_of_listOfDatum read]
    exact ⟨_, rfl⟩

end Report

end LintFindings

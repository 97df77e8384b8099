import LintFindings.Formatting
import LintFindings.Proofs.Finding.Blame

/-!
Records that are raw and records that have been read, mixed in one list. Which of the two a record is
makes no difference, and the first raw one that cannot be read decides, whatever else is wrong.
-/

namespace LintFindings

namespace Source

/-- The same source, or the record that is read from a raw one. -/
inductive Yields : Source → Source → Prop
  | same (source : Source) : Yields source source
  | read {data : Datum} {record : Option Int} {file : FileFindings} :
    FileFindings.ofDatum data record = .ok file → Yields (.raw data) (.read file)

def IsRejected : Source → Prop
  | read _ => False
  | raw data => FileFindings.Rejected data

def readAt (place : Nat) : Source → Except Failure FileFindings
  | read file => .ok file
  | raw data => FileFindings.ofDatum data (some (place : Int))

def blame? (place : Nat) : Source → Option Failure
  | read _ => none
  | raw data => FileFindings.blame? (some (place : Int)) data

theorem readFrom_cons (start : Nat) (source : Source) (rest : List Source) :
    readFrom start (source :: rest) = (do
      let file ← source.readAt start
      let files ← readFrom (start + 1) rest
      return file :: files) := by
  cases source <;> rfl

theorem Yields.readAt_eq {source other : Source} (yields : source.Yields other) (place : Nat) :
    other.readAt place = source.readAt place := by
  cases yields with
  | same => rfl
  | @read data record file found =>
      have accepted := (FileFindings.ofDatum_eq_ok data record file).mp found
      exact ((FileFindings.ofDatum_eq_ok data (some (place : Int)) file).mpr accepted).symm

theorem readFrom_of_yields {sources others : List Source}
    (yields : List.Forall₂ Yields sources others) (start : Nat) :
    readFrom start others = readFrom start sources := by
  induction yields generalizing start with
  | nil => rfl
  | cons first _ ih => rw [readFrom_cons, readFrom_cons, first.readAt_eq, ih]

theorem readAt_stopsWith (place : Nat) (source : Source) :
    StopsWith (source.blame? place) (source.readAt place) := by
  cases source with
  | read file => exact stopsWith_ok file
  | raw data => exact FileFindings.ofDatum_stopsWith data _

theorem isRejected_iff (source : Source) (place : Nat) :
    source.IsRejected ↔ ∃ cause, source.blame? place = some cause := by
  cases source with
  | read file => simp [IsRejected, blame?]
  | raw data => exact FileFindings.rejected_iff data _

theorem readAll_eq_error_iff (sources : List Source) (cause : Failure) :
    readAll sources = .error cause ↔
      ∃ place source, IsFirst IsRejected sources place source ∧ source.blame? place = some cause := by
  have stops := stopsWith_run readAt readFrom (fun (source, place) => source.blame? place)
    (fun _ => rfl) readFrom_cons readAt_stopsWith 0 sources cause
  rw [findSome?_zipIdx_eq_some_iff isRejected_iff] at stops
  exact stops

theorem readFrom_raw (start : Nat) (items : List Datum) :
    readFrom start (items.map .raw) = FileFindings.ofDataFrom start items := by
  induction items generalizing start with
  | nil => rfl
  | cons first rest ih =>
      rw [List.map_cons, readFrom, FileFindings.ofDataFrom, ih]

end Source

section Outcome

variable (sources : List Source) (formatter : Text) (styler : Except Escape Styler)

def formatted (files : List FileFindings) : Logged Halt Text :=
  match styler, Formatter.ofName formatter with
  | .error cause, _ => ⟨[], .error (.escaped cause)⟩
  | .ok _, .error cause => ⟨[], .error (.ofFailure cause)⟩
  | .ok styler, .ok found =>
    ⟨usingRecord found styler :: (found.run styler files).records, (found.run styler files).result⟩

theorem formatResults_eq :
    formatResults sources formatter styler =
      match Source.readAll sources with
      | .error cause => ⟨[], .error (.ofFailure cause)⟩
      | .ok files => formatted formatter styler files := by
  unfold formatResults formatted
  cases Source.readAll sources with
  | error cause => rfl
  | ok files =>
      cases styler with
      | error cause => rfl
      | ok styler =>
          simp only [formatFiles]
          cases Formatter.ofName formatter <;> rfl

/--
A raw record may be replaced by the one that is read from it, which changes nothing of the outcome. If
some raw record cannot be read, the first such one is blamed, with its place in the whole list,
whatever the formatter and the other records are. A list of raw records alone comes to what its data
are read as, formatted.
-/
theorem formatResults_readsEach :
    (∀ others, List.Forall₂ Source.Yields sources others →
      formatResults others formatter styler = formatResults sources formatter styler) ∧
    ((∃ source ∈ sources, source.IsRejected) →
      ∃ place data cause, IsFirst Source.IsRejected sources place (.raw data) ∧
        FileFindings.ofDatum data (some (place : Int)) = .error cause ∧
        FileFindings.Blames (some (place : Int)) data cause ∧
        formatResults sources formatter styler = ⟨[], .error (.ofFailure cause)⟩) ∧
    (∀ items, sources = items.map .raw →
      formatResults sources formatter styler =
        match FileFindings.listOfDatum (.list items) with
        | .error cause => ⟨[], .error (.ofFailure cause)⟩
        | .ok files => formatted formatter styler files) := by
  refine ⟨?_, ?_, ?_⟩
  · intro others yields
    have same : Source.readAll others = Source.readAll sources := Source.readFrom_of_yields yields 0
    rw [formatResults_eq, formatResults_eq, same]
  · intro rejected
    obtain ⟨place, source, first⟩ := exists_isFirst rejected
    obtain ⟨cause, blamed⟩ := (source.isRejected_iff place).mp first.found
    have stopped := (Source.readAll_eq_error_iff sources cause).mpr ⟨place, source, first, blamed⟩
    cases source with
    | read file => exact absurd first.found id
    | raw data =>
        refine ⟨place, data, cause, first, ?_, ?_, ?_⟩
        · exact (FileFindings.ofDatum_stopsWith data _ cause).mpr blamed
        · exact (FileFindings.blame?_eq_some_iff _ data cause).mp blamed
        · rw [formatResults_eq, stopped]
  · intro items raw
    have same : Source.readAll sources = FileFindings.listOfDatum (.list items) := by
      rw [raw]
      exact Source.readFrom_raw 0 items
    rw [formatResults_eq, same]

example :
    formatResults [.read ⟨"a.js", [⟨"m", 3, 1, 1, none, false⟩], 0, 0⟩,
      .raw (.table [("filePath", .text "b.js")]),
      .raw (.table [("filePath", .text "c.js"), ("messages", .list [
        .table [("message", .text "m"), ("fatal", .bool true)],
        .table [("message", .text "m")]])])] "fancy" (.ok .plain) =
      ⟨[], .error (.failed (.malformedResult "severity" "missing required field"
        ⟨some 2, some 1⟩))⟩ := rfl

end Outcome

end LintFindings

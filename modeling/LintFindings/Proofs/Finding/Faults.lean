import LintFindings.Finding.Raw
import LintFindings.Proofs.Datum.Merged
import LintFindings.Proofs.Failures
import LintFindings.Proofs.Json.Digits

/-!
Raw data that are no findings. Whatever is wrong with them, the failure is one of the input, and it
can be told of if the data may be written.
-/

namespace LintFindings

theorem isOf_malformedResult (field reason : Text) (spot : Spot) :
    Failure.IsOf .input (.malformedResult field reason spot) := by
  refine ⟨?_, rfl⟩
  simp [Failure.kind, Failure.notice, FailureKind.lineage]

theorem isOf_unsupportedSeverity {severity : Int} (writable : (Datum.int severity).isWritable = true)
    (spot : Spot) : Failure.IsOf .input (.unsupportedSeverity (.int severity) spot) := by
  refine ⟨?_, ?_⟩
  · simp [Failure.kind, Failure.notice, FailureKind.lineage]
  · simp [Failure.obstacle?, Failure.isShallow, Failure.isWritable, Datum.nestsWithin, writable]

theorem Datum.isWritable_of_get? {fields : Fields} {key : Text} {value : Datum}
    (writable : fieldsAreWritable fields = true) (found : fields.get? key = some value) :
    value.isWritable = true := by
  induction fields with
  | nil => cases found
  | cons field rest ih =>
      obtain ⟨k, v⟩ := field
      rw [fieldsAreWritable, Bool.and_eq_true] at writable
      rw [Fields.get?_cons] at found
      split at found
      next => exact Option.some.inj found ▸ writable.1
      next => exact ih writable.2 found

namespace FieldKind

variable {α : Type} (kind : FieldKind α) (fields : Fields) (key : Text) (spot : Spot)

theorem check_fails (value : Datum) : FailsOnlyWith .input (kind.check key spot value) := by
  unfold check
  split
  next found _ => exact failsOnlyWith_ok found
  next => exact failsOnlyWith_error (isOf_malformedResult _ _ _)

theorem required_fails : FailsOnlyWith .input (kind.required fields key spot) := by
  unfold required
  split
  next => exact failsOnlyWith_error (isOf_malformedResult _ _ _)
  next value _ => exact kind.check_fails key spot value

theorem optional_fails (default : α) :
    FailsOnlyWith .input (kind.optional fields key default spot) := by
  unfold optional
  split
  next => exact failsOnlyWith_ok default
  next => exact failsOnlyWith_ok default
  next value _ _ => exact kind.check_fails key spot value

theorem possible_fails : FailsOnlyWith .input (kind.possible fields key spot) := by
  unfold possible
  split
  next => exact failsOnlyWith_ok none
  next => exact failsOnlyWith_ok none
  next value _ _ => exact (kind.check_fails key spot value).map some

theorem get?_of_required {n : Int} (found : int.required fields key spot = .ok n) :
    fields.get? key = some (.int n) := by
  unfold required at found
  split at found
  next => cases found
  next value held =>
    cases value with
    | int other =>
        cases found
        exact held
    | _ => cases found

end FieldKind

namespace Finding

variable {fields : Fields} (message : Text) (spot : Spot)

theorem ofFatalFields_fails (fields : Fields) :
    FailsOnlyWith .input (ofFatalFields fields message spot) := by
  unfold ofFatalFields
  refine (FieldKind.int.optional_fails fields _ spot 2).bind fun severity _ => ?_
  refine (FieldKind.int.optional_fails fields _ spot 0).bind fun line _ => ?_
  refine (FieldKind.int.optional_fails fields _ spot 0).bind fun column _ => ?_
  refine (FieldKind.text.possible_fails fields _ spot).bind fun rule _ => ?_
  exact failsOnlyWith_ok _

theorem ofPlainFields_fails (writable : Datum.fieldsAreWritable fields = true) :
    FailsOnlyWith .input (ofPlainFields fields message spot) := by
  unfold ofPlainFields
  refine (FieldKind.int.required_fails fields _ spot).bind fun severity found => ?_
  have shown : (Datum.int severity).isWritable = true :=
    Datum.isWritable_of_get? writable (FieldKind.get?_of_required fields _ spot found)
  have goesOn : FailsOnlyWith .input (do
      let line ← FieldKind.int.required fields "line" spot
      let column ← FieldKind.int.required fields "column" spot
      let rule ← FieldKind.text.possible fields "ruleId" spot
      return ({ message, severity, line, column, rule, fatal := false } : Finding)) := by
    refine (FieldKind.int.required_fails fields _ spot).bind fun line _ => ?_
    refine (FieldKind.int.required_fails fields _ spot).bind fun column _ => ?_
    refine (FieldKind.text.possible_fails fields _ spot).bind fun rule _ => ?_
    exact failsOnlyWith_ok _
  dsimp only
  split
  next =>
    refine FailsOnlyWith.bind (failsOnlyWith_error (isOf_unsupportedSeverity shown spot)) ?_
    intro never stopped
    cases stopped
  next => exact goesOn

theorem ofDatum_fails {raw : Datum} (writable : raw.isWritable = true) :
    FailsOnlyWith .input (ofDatum raw spot) := by
  unfold ofDatum
  split
  next fields =>
    refine (FieldKind.bool.optional_fails fields _ spot false).bind fun fatal _ => ?_
    refine (FieldKind.text.required_fails fields _ spot).bind fun message _ => ?_
    split
    next => exact ofFatalFields_fails message spot fields
    next => exact ofPlainFields_fails message spot writable
  next => exact failsOnlyWith_error (isOf_malformedResult _ _ _)

theorem ofDataFrom_fails (record : Option Int) (start : Nat) {raw : List Datum}
    (writable : Datum.areWritable raw = true) :
    FailsOnlyWith .input (ofDataFrom record start raw) := by
  induction raw generalizing start with
  | nil => exact failsOnlyWith_ok []
  | cons first rest ih =>
      rw [Datum.areWritable, Bool.and_eq_true] at writable
      refine (ofDatum_fails _ writable.1).bind fun finding _ => ?_
      refine (ih (start + 1) writable.2).bind fun findings _ => ?_
      exact failsOnlyWith_ok (finding :: findings)

end Finding

namespace FileFindings

theorem rawMessages_fails (fields : Fields) (spot : Spot) :
    FailsOnlyWith .input (rawMessages fields spot) := by
  unfold rawMessages
  split
  next => exact failsOnlyWith_ok []
  next items _ => exact failsOnlyWith_ok items
  next => exact failsOnlyWith_error (isOf_malformedResult _ _ _)

theorem areWritable_of_rawMessages {fields : Fields} {spot : Spot} {messages : List Datum}
    (writable : Datum.fieldsAreWritable fields = true)
    (found : rawMessages fields spot = .ok messages) : Datum.areWritable messages = true := by
  unfold rawMessages at found
  split at found
  next =>
    cases found
    rfl
  next items held =>
    cases found
    exact Datum.isWritable_of_get? writable held
  next => cases found

theorem requireNatural_fails (key : Text) (count : Int) (spot : Spot) :
    FailsOnlyWith .input (requireNatural key count spot) := by
  unfold requireNatural
  split
  next => exact failsOnlyWith_error (isOf_malformedResult _ _ _)
  next => exact failsOnlyWith_ok ()

theorem ofDatum_fails {raw : Datum} (writable : raw.isWritable = true) (record : Option Int) :
    FailsOnlyWith .input (ofDatum raw record) := by
  unfold ofDatum
  dsimp only
  split
  next fields =>
    refine (rawMessages_fails fields _).bind fun messages held => ?_
    refine (FieldKind.int.optional_fails fields _ _ 0).bind fun errors _ => ?_
    refine (FieldKind.int.optional_fails fields _ _ 0).bind fun warnings _ => ?_
    refine (requireNatural_fails _ errors _).bind fun _ _ => ?_
    refine (requireNatural_fails _ warnings _).bind fun _ _ => ?_
    refine (FieldKind.text.required_fails fields _ _).bind fun path _ => ?_
    have shown := areWritable_of_rawMessages writable held
    refine (Finding.ofDataFrom_fails record 0 shown).bind fun findings _ => ?_
    exact failsOnlyWith_ok _
  next => exact failsOnlyWith_error (isOf_malformedResult _ _ _)

theorem ofDataFrom_fails (start : Nat) {raw : List Datum}
    (writable : Datum.areWritable raw = true) : FailsOnlyWith .input (ofDataFrom start raw) := by
  induction raw generalizing start with
  | nil => exact failsOnlyWith_ok []
  | cons first rest ih =>
      rw [Datum.areWritable, Bool.and_eq_true] at writable
      refine (ofDatum_fails writable.1 _).bind fun file _ => ?_
      refine (ih (start + 1) writable.2).bind fun files _ => ?_
      exact failsOnlyWith_ok (file :: files)

theorem listOfDatum_fails {raw : Datum} (writable : raw.isWritable = true) :
    FailsOnlyWith .input (listOfDatum raw) := by
  unfold listOfDatum
  split
  next items => exact ofDataFrom_fails 0 writable
  next => exact failsOnlyWith_error (isOf_malformedResult _ _ _)

end FileFindings

end LintFindings

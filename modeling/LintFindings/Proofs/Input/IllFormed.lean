import LintFindings.Proofs.Finding.Blame
import LintFindings.Proofs.Input
import LintFindings.Proofs.Text.IllFormed

/-!
Input that is no UTF-8, and the reasons for which other input is refused. A reason that tells of the
bytes is given for nothing else than bytes that are not those of a text.
-/

namespace LintFindings

/-- The reason tells where bytes stop to be UTF-8. -/
def IsByteReason (reason : Text) : Prop := "invalid UTF-8 at byte " <+: reason

theorem not_isByteReason {reason : Text} (n : Nat) {c d : Char}
    (expected : ("invalid UTF-8 at byte " : Text)[n]? = some c) (found : reason[n]? = some d)
    (differ : c ≠ d) : ¬ IsByteReason reason := by
  rintro ⟨rest, rfl⟩
  obtain ⟨within, -⟩ := List.getElem?_eq_some_iff.mp expected
  rw [List.getElem?_append_left within, expected] at found
  exact differ (Option.some.inj found)

theorem Fault.not_isByteReason {fault : Fault} {spot spot' : Spot} {field reason : Text}
    (told : fault.failure spot = .malformedResult field reason spot') : ¬ IsByteReason reason := by
  cases fault with
  | missing field =>
      cases told
      exact LintFindings.not_isByteReason 0 rfl rfl (by decide)
  | mistyped field word =>
      cases told
      exact LintFindings.not_isByteReason 0 rfl rfl (by decide)
  | negative field =>
      cases told
      exact LintFindings.not_isByteReason 0 rfl rfl (by decide)
  | unsupported severity => cases told

theorem FileFindings.not_isByteReason {raw : Datum} {field reason : Text} {spot : Spot}
    (refused : listOfDatum raw = .error (.malformedResult field reason spot)) :
    ¬ IsByteReason reason := by
  cases raw with
  | list items =>
      obtain ⟨place, item, -, blamed⟩ := (listOfDatum_eq_error_iff items _).mp refused
      generalize told : Failure.malformedResult field reason spot = cause at blamed
      cases blamed with
      | record _ => exact Fault.not_isByteReason told.symm
      | message _ _ _ => exact Fault.not_isByteReason told.symm
  | _ =>
      cases refused
      exact LintFindings.not_isByteReason 0 rfl rfl (by decide)

namespace Input

theorem ofText_not_isByteReason {text field reason : Text} {spot : Spot}
    (refused : ofText text = .error (.failed (.malformedResult field reason spot))) :
    ¬ IsByteReason reason := by
  rw [ofText_eq] at refused
  split at refused
  next data read =>
    rw [ofDatum] at refused
    cases result : FileFindings.listOfDatum data with
    | ok files =>
        rw [result] at refused
        cases refused
    | error cause =>
        rw [result] at refused
        have told := Halt.eq_of_ofFailure (Except.error.inj refused)
        exact FileFindings.not_isByteReason (result.trans (congrArg Except.error told))
  next fault rest read =>
    cases refused
    exact LintFindings.not_isByteReason 8 rfl rfl (by decide)
  next read => cases refused

theorem ofBytes_of_invalid {bytes : Bytes} (invalid : ¬ Utf8.IsValid bytes) :
    ∃ offset, Utf8.IsLongestValid bytes offset ∧
      ofBytes bytes = .error (.failed (invalidUtf8 offset)) := by
  cases read : Utf8.decode bytes with
  | ok t => exact absurd (Utf8.isValid_of_decode read) invalid
  | error offset =>
      refine ⟨offset, ((Utf8.decode_eq_error_iff bytes offset).mp read).2, ?_⟩
      rw [ofBytes_eq, textOfBytes, read]
      rfl

theorem ofBytes_of_valid {bytes : Bytes} (valid : Utf8.IsValid bytes) :
    ∃ text, ofBytes bytes = ofText text := by
  obtain ⟨t, rfl⟩ := (Utf8.isValid_iff bytes).mp valid
  refine ⟨t.unifyBreaks, ofBytes_of_text ?_⟩
  rw [textOfBytes, Utf8.decode_encode]

end Input

end LintFindings

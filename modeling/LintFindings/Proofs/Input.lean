import LintFindings.Input
import LintFindings.Proofs.Finding.Faults
import LintFindings.Proofs.Text.Plain
import LintFindings.Proofs.Text.Utf8

/-!
Input that cannot be used. Reading it ends with findings or with a failure of the input, unless an
integer in it is too long or its path has a character that no path can have.
-/

namespace LintFindings.Input

/-- The text holds an integer at which its reading ends without any failure. -/
def TextEscapes (text : Text) : Prop := Json.read text = .error .digitLimit

def BytesEscape (bytes : Bytes) : Prop := ∃ text, textOfBytes bytes = .ok text ∧ TextEscapes text

/-- What a file holds, or the path that leads to it, ends its reading without any failure. -/
inductive FileEscapes : Except PathFault Node → Prop
  | bytes {bytes : Bytes} (escapes : BytesEscape bytes) : FileEscapes (.ok (.file bytes))
  | stray : FileEscapes (.error .strayCharacter)

theorem ofText_eq (text : Text) :
    ofText text =
      match Json.read text with
      | .ok data => ofDatum data
      | .error (.malformed fault rest) => .error (.failed (invalidJson (text.lineAt rest) fault))
      | .error .digitLimit => .error (.escaped .digitLimit) := by
  rw [ofText, datumOfText, Json.read]
  cases Json.readWith Json.standIn text with
  | ok data => rfl
  | error refusal => cases refusal <;> rfl

theorem ofBytes_eq (bytes : Bytes) :
    ofBytes bytes = Halt.ofFailing (textOfBytes bytes) >>= ofText := by
  rw [ofBytes, datumOfBytes]
  cases textOfBytes bytes <;> rfl

theorem isOf_unreadableInput (path reason : Text) :
    Halt.IsOf .input (.failed (.unreadableInput path reason)) :=
  ⟨_, rfl, by simp [Failure.kind, Failure.notice, FailureKind.lineage]⟩

theorem isOf_malformed (reason : Text) : Halt.IsOf .input (.failed (malformed reason)) :=
  ⟨_, rfl, (isOf_malformedResult "results" reason .nowhere).1⟩

theorem ofText_tellsUnless (text : Text) : TellsUnless .input (TextEscapes text) (ofText text) := by
  constructor
  · intro escapes
    exact ⟨.digitLimit, by rw [ofText_eq, escapes]⟩
  · intro told halt stopped
    rw [ofText_eq] at stopped
    split at stopped
    next data read =>
      exact (FileFindings.listOfDatum_fails (Json.read_isWritable read)).isOf stopped
    next fault rest _ => exact Except.error.inj stopped ▸ isOf_malformed _
    next limit => exact absurd limit told

theorem textOfBytes_fails (bytes : Bytes) : FailsOnlyWith .input (textOfBytes bytes) := by
  unfold textOfBytes
  split
  next text _ => exact failsOnlyWith_ok text.unifyBreaks
  next => exact failsOnlyWith_error (isOf_malformedResult _ _ _)

theorem ofBytes_of_text {bytes : Bytes} {text : Text} (decoded : textOfBytes bytes = .ok text) :
    ofBytes bytes = ofText text := by
  rw [ofBytes_eq, decoded]
  rfl

theorem ofBytes_tellsUnless (bytes : Bytes) :
    TellsUnless .input (BytesEscape bytes) (ofBytes bytes) := by
  cases decoded : textOfBytes bytes with
  | ok text =>
      have tells := ofText_tellsUnless text
      rw [ofBytes_of_text decoded]
      constructor
      · rintro ⟨other, same, escapes⟩
        cases decoded.symm.trans same
        exact tells.escaped escapes
      · intro told
        exact tells.told fun escapes => told ⟨text, decoded, escapes⟩
  | error cause =>
      constructor
      · rintro ⟨text, same, -⟩
        cases decoded.symm.trans same
      · intro _ halt stopped
        have fails := textOfBytes_fails bytes
        rw [decoded] at fails
        rw [ofBytes_eq, decoded] at stopped
        have same : Halt.ofFailing (.error cause : Except Failure Text) = .error halt :=
          congrArg Except.error (Except.error.inj stopped)
        exact fails.isOf same

theorem ofFile_tellsUnless (path : Text) (found : Except PathFault Node) :
    TellsUnless .input (FileEscapes found) (ofFile path found) := by
  cases found with
  | ok node =>
      cases node with
      | file bytes =>
          have tells := ofBytes_tellsUnless bytes
          constructor
          · rintro ⟨escapes⟩
            exact tells.escaped escapes
          · intro told
            exact tells.told fun escapes => told (.bytes escapes)
      | folder =>
          constructor
          · rintro ⟨⟩
          · intro _ halt stopped
            exact Except.error.inj stopped ▸ isOf_unreadableInput _ _
  | error fault =>
      cases fault with
      | strayCharacter =>
          constructor
          · intro _
            exact ⟨_, rfl⟩
          · intro told
            exact absurd .stray told
      | _ =>
          constructor
          · rintro ⟨⟩
          · intro _ halt stopped
            exact Except.error.inj stopped ▸ isOf_unreadableInput _ _

section TooLong

variable {t : Text} (tooLong : t.IsTooLong)

include tooLong

theorem ofText_of_tooLong : ofText t = .error (.escaped .digitLimit) := by
  rw [ofText_eq, Json.read_of_tooLong tooLong]

theorem ofBytes_of_tooLong : ofBytes (Utf8.encode t) = .error (.escaped .digitLimit) := by
  have text : textOfBytes (Utf8.encode t) = .ok t := by
    simp only [textOfBytes, Utf8.decode_encode, Text.unifyBreaks_eq (tooLong.not_mem rfl)]
  rw [ofBytes_of_text text, ofText_of_tooLong tooLong]

end TooLong

end LintFindings.Input

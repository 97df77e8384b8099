import LintFindings.Proofs.Input
import LintFindings.Proofs.Json.Breaks

/-!
The same results as a text and in a file. A file is read with its line breaks unified, which changes
nothing but the line at which a text that is no JSON is refused.
-/

namespace LintFindings.Input

open Text

/-- The same findings or the same failure, but a text that is no JSON is refused `lone` lines later. -/
inductive LineLater (lone : Nat) :
    Except Halt (List FileFindings) → Except Halt (List FileFindings) → Prop
  | same (result : Except Halt (List FileFindings)) : LineLater lone result result
  | line (line : Nat) (fault : Json.Fault) :
    LineLater lone (.error (.failed (invalidJson line fault)))
      (.error (.failed (invalidJson (line + lone) fault)))

theorem LineLater.eq {result later : Except Halt (List FileFindings)}
    (alike : LineLater 0 result later) : later = result := by
  cases alike with
  | same => rfl
  | line => rfl

theorem ofText_unifyBreaks (t : Text) :
    ∃ lone, lone ≤ t.loneReturns ∧ LineLater lone (ofText t) (ofText t.unifyBreaks) := by
  have matched := Json.read_matches t
  rw [ofText_eq, ofText_eq]
  generalize Json.read t = found, Json.read t.unifyBreaks = found' at matched ⊢
  cases found with
  | ok datum =>
      cases found' with
      | error _ => cases matched
      | ok datum' =>
          cases matched
          exact ⟨0, Nat.zero_le _, .same _⟩
  | error refusal =>
      cases found' with
      | ok _ => cases matched
      | error refusal' =>
          simp only [Except.map] at matched
          cases matched with
          | digitLimit => exact ⟨0, Nat.zero_le _, .same _⟩
          | malformed fault ends =>
              obtain ⟨lone, moved, few⟩ := lineAt_unifyBreaks ends
              simp only [moved]
              exact ⟨lone, few, .line _ _⟩

/-- A file comes to what its text comes to with the line breaks unified. -/
theorem ofFile_encode (path t : Text) :
    ofFile path (.ok (.file (Utf8.encode t))) = ofText t.unifyBreaks := by
  have text : textOfBytes (Utf8.encode t) = .ok t.unifyBreaks := by
    simp only [textOfBytes, Utf8.decode_encode]
  exact ofBytes_of_text text

/--
From a text that is read as it is and from a file that holds it come the same findings or the same
failure, except for the line of a text that is no JSON. The line is the same too if every carriage
return is followed by a line feed.
-/
theorem ofFile_encode_alike (path t : Text) :
    (∃ lone, LineLater lone (ofText t) (ofFile path (.ok (.file (Utf8.encode t))))) ∧
      (ReturnsArePaired t → ofFile path (.ok (.file (Utf8.encode t))) = ofText t) := by
  obtain ⟨lone, few, alike⟩ := ofText_unifyBreaks t
  rw [ofFile_encode]
  refine ⟨⟨lone, alike⟩, fun paired => ?_⟩
  obtain rfl : lone = 0 := Nat.le_zero.mp (loneReturns_of_paired paired ▸ few)
  exact alike.eq

theorem ofFile_encode_paired :
    ReturnsArePaired "[\r\n" ∧
      ofFile "results.json" (.ok (.file (Utf8.encode "[\r\n"))) = ofText "[\r\n" ∧
      ofText "[\r\n" = .error (.failed (invalidJson 2 .value)) := by
  have paired : ReturnsArePaired ['[', '\r', '\n'] := by
    intro rest ends
    simp only [List.suffix_cons_iff, List.cons_eq_cons, List.suffix_nil] at ends
    obtain ⟨wrong, -⟩ | ⟨-, rfl⟩ | ⟨wrong, -⟩ | wrong := ends
    · cases wrong
    · exact ⟨[], rfl⟩
    · cases wrong
    · cases wrong
  exact ⟨paired, (ofFile_encode_alike "results.json" "[\r\n").2 paired, rfl⟩

end LintFindings.Input

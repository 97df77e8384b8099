import LintFindings.Proofs.Finding.Written
import LintFindings.Proofs.Input.Breaks

/-!
Findings that are written as JSON and read again, as a text or from a file. What can be read at all
is what is read back from what was written.
-/

namespace LintFindings.Input

/-- Counts and severities as they may be, and integers that are short enough to be written. -/
def AreReadable (files : List FileFindings) : Prop := ∀ file ∈ files, file.IsSound ∧ file.IsShort

variable {files : List FileFindings} {raw : Datum}

theorem ofText_eq_ok {text : Text} (read : ofText text = .ok files) :
    ∃ raw, Json.read text = .ok raw ∧ FileFindings.listOfDatum raw = .ok files := by
  rw [ofText_eq] at read
  split at read
  next raw found =>
    rw [ofDatum] at read
    refine ⟨raw, found, ?_⟩
    cases given : FileFindings.listOfDatum raw with
    | ok others =>
        rw [given] at read
        exact congrArg Except.ok (Except.ok.inj read)
    | error cause =>
        rw [given] at read
        cases read
  next => cases read
  next => cases read

theorem areReadable_of_ofText {text : Text} (read : ofText text = .ok files) : AreReadable files := by
  obtain ⟨raw, found, given⟩ := ofText_eq_ok read
  intro file member
  exact ⟨FileFindings.isSound_of_listOfDatum given file member,
    FileFindings.isShort_of_listOfDatum given (Json.read_isWritable found) file member⟩

theorem exists_ofText_of_ofFile {path : Text} {found : Except PathFault Node}
    (read : ofFile path found = .ok files) : ∃ text, ofText text = .ok files := by
  unfold ofFile datumOfFile at read
  split at read
  next bytes =>
    change ofBytes bytes = .ok files at read
    cases decoded : textOfBytes bytes with
    | ok text =>
        rw [ofBytes_of_text decoded] at read
        exact ⟨text, read⟩
    | error cause =>
        rw [ofBytes_eq, decoded] at read
        cases read
  next => cases read
  next => cases read
  next => cases read

section Write

variable (form : FileFindings.AreRaw files raw) (readable : AreReadable files) (ascii : Bool)

include form readable

theorem ofText_write : ofText (Json.write ascii raw) = .ok files := by
  have plain := FileFindings.plain_of_areRaw form fun file member => (readable file member).2
  have given := FileFindings.listOfDatum_of_areRaw form fun file member => (readable file member).1
  simp only [ofText_eq, ofDatum, Json.read_write ascii plain, given]
  rfl

theorem ofFile_write (path : Text) :
    ofFile path (.ok (.file (Utf8.encode (Json.write ascii raw)))) = .ok files := by
  obtain ⟨lone, -, alike⟩ := ofText_unifyBreaks (Json.write ascii raw)
  rw [ofText_write form readable ascii] at alike
  rw [ofFile_encode]
  generalize ofText (Json.write ascii raw).unifyBreaks = result at alike ⊢
  cases alike with
  | same => rfl

end Write

/--
Readable findings are read back from every raw form of theirs, with the characters outside ASCII as
they are or as escapes, as a text and from a file. No others are ever read.
-/
theorem ofText_write_iff (files : List FileFindings) :
    (AreReadable files → ∀ raw, FileFindings.AreRaw files raw → ∀ ascii,
      ofText (Json.write ascii raw) = .ok files ∧
        ∀ path, ofFile path (.ok (.file (Utf8.encode (Json.write ascii raw)))) = .ok files) ∧
      ((∃ text, ofText text = .ok files) ↔ AreReadable files) ∧
      ((∃ path found, ofFile path found = .ok files) ↔ AreReadable files) := by
  obtain ⟨raw, form⟩ := FileFindings.exists_areRaw files
  refine ⟨?_, ⟨?_, ?_⟩, ⟨?_, ?_⟩⟩
  · intro readable raw form ascii
    exact ⟨ofText_write form readable ascii, ofFile_write form readable ascii⟩
  · rintro ⟨text, read⟩
    exact areReadable_of_ofText read
  · intro readable
    exact ⟨_, ofText_write form readable true⟩
  · rintro ⟨path, found, read⟩
    obtain ⟨text, read⟩ := exists_ofText_of_ofFile read
    exact areReadable_of_ofText read
  · intro readable
    exact ⟨[], _, ofFile_write form readable true []⟩

theorem ofText_write_iff_escapes :
    AreReadable [⟨"\"a\x01", [⟨"\\ 😀", 2, 1, -3, none, false⟩], 1, 0⟩] ∧
      ofText (Json.write true (.list [.table
        [("filePath", .text "\"a\x01"), ("errorCount", .int 1), ("warningCount", .int 0),
          ("messages", .list [.table
            [("message", .text "\\ 😀"), ("severity", .int 2), ("line", .int 1),
              ("column", .int (-3)), ("fatal", .bool false), ("ruleId", .null)]])]])) =
        .ok [⟨"\"a\x01", [⟨"\\ 😀", 2, 1, -3, none, false⟩], 1, 0⟩] := by
  have readable : AreReadable [⟨"\"a\x01", [⟨"\\ 😀", 2, 1, -3, none, false⟩], 1, 0⟩] := by
    have short (n : Int) (small : n.natAbs < 10) := isWritable_of_lt_ten small
    refine List.forall_mem_singleton.mpr ⟨⟨by decide, by decide, ?_⟩, ⟨short _ ?_, short _ ?_, ?_⟩⟩
    · exact List.forall_mem_singleton.mpr fun _ => .inr rfl
    · decide
    · decide
    · exact List.forall_mem_singleton.mpr
        ⟨short _ (by decide), short _ (by decide), short _ (by decide)⟩
  refine ⟨readable, ((ofText_write_iff _).1 readable _ ?_ true).1⟩
  exact .list (.cons (.table (.cons (.table .null (.refl _)) .nil) (.refl _)) .nil)

end LintFindings.Input

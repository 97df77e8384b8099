import LintFindings.Finding.Raw
import LintFindings.Halt
import LintFindings.Json.Reader
import LintFindings.Log

/-!
Reading findings from a file or a stream: bytes to text, text to data, data to findings. Bytes are
read with every spelling of a line break as one line feed. Data and findings are those that come of
a stand-in for halves of surrogate pairs.
-/

namespace LintFindings

namespace Input

def malformed (reason : Text) : Failure := .malformedResult "results" reason .nowhere

def invalidUtf8 (offset : Nat) : Failure := malformed ("invalid UTF-8 at byte " ++ Text.ofNat offset)

def invalidJson (line : Nat) (fault : Json.Fault) : Failure :=
  malformed ("invalid JSON at line " ++ Text.ofNat line ++ ": " ++ fault.text)

def textOfBytes (bytes : Bytes) : Except Failure Text :=
  match Utf8.decode bytes with
  | .ok text => .ok text.unifyBreaks
  | .error offset => .error (invalidUtf8 offset)

section Data

variable (half : Char)

def datumOfText (text : Text) : Except Halt Datum :=
  match Json.readWith half text with
  | .ok data => .ok data
  | .error (.malformed fault rest) => .error (.failed (invalidJson (text.lineAt rest) fault))
  | .error .digitLimit => .error (.escaped .digitLimit)

def datumOfBytes (bytes : Bytes) : Except Halt Datum := do
  let text ← Halt.ofFailing (textOfBytes bytes)
  datumOfText half text

def datumOfFile (path : Text) (found : Except PathFault Node) : Except Halt Datum :=
  match found with
  | .ok (.file bytes) => datumOfBytes half bytes
  | .ok .folder => .error (.failed (.unreadableInput path PathFault.isFolder.reason))
  | .error .strayCharacter => .error (.escaped (.path .strayCharacter))
  | .error fault => .error (.failed (.unreadableInput path fault.reason))

end Data

/-- The findings in data. A severity that is too long to be shown cannot be told of either. -/
def ofDatum (data : Datum) : Except Halt (List FileFindings) :=
  Halt.ofFailing (FileFindings.listOfDatum data)

def ofText (text : Text) : Except Halt (List FileFindings) :=
  datumOfText Json.standIn text >>= ofDatum

def ofBytes (bytes : Bytes) : Except Halt (List FileFindings) :=
  datumOfBytes Json.standIn bytes >>= ofDatum

def ofFile (path : Text) (found : Except PathFault Node) : Except Halt (List FileFindings) :=
  datumOfFile Json.standIn path found >>= ofDatum

def loadedRecord (files : List FileFindings) (name : Text) : LogRecord :=
  ⟨.debug, "lint_report.loader",
    "Loaded " ++ Text.ofNat files.length ++ " file result(s) from " ++ name⟩

def logged (name : Text) (reading : Except Halt (List FileFindings)) :
    Logged Halt (List FileFindings) :=
  match reading with
  | .ok files => ⟨[loadedRecord files name], .ok files⟩
  | .error halt => ⟨[], .error halt⟩

end Input

end LintFindings

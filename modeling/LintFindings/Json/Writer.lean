import LintFindings.Datum
import LintFindings.Number.Shortest

/-! Writing JSON texts on one line, with the characters outside ASCII as they are or as escapes. -/

namespace LintFindings.Json

def codeUnits (c : Char) : List Nat :=
  let n := c.toNat
  if n < 0x10000 then [n]
  else [0xd800 + (n - 0x10000) / 0x400, 0xdc00 + (n - 0x10000) % 0x400]

def codeEscape (unit : Nat) : Text := "\\u" ++ Text.hexOfNat 4 unit

/-- Controls are always escaped, and in ASCII mode also all that is not a visible ASCII character. -/
def writeChar (ascii : Bool) (c : Char) : Text :=
  if c = '"' then "\\\""
  else if c = '\\' then "\\\\"
  else if c = '\n' then "\\n"
  else if c = '\r' then "\\r"
  else if c = '\t' then "\\t"
  else if c = '\x08' then "\\b"
  else if c = '\x0c' then "\\f"
  else if c.toNat < 0x20 ∨ (ascii = true ∧ 0x7f ≤ c.toNat) then (codeUnits c).flatMap codeEscape
  else [c]

def writeString (ascii : Bool) (t : Text) : Text := '"' :: t.flatMap (writeChar ascii) ++ ['"']

def writeFloat : Binary64 → Text
  | .nan => "NaN"
  | .infinite negative => Binary64.signText negative ++ "Infinity"
  | x => x.toText

mutual

/-- Dates and times have no form of their own in JSON and are written as null. -/
def write (ascii : Bool) : Datum → Text
  | .null => "null"
  | .bool value => if value then "true" else "false"
  | .int value => Text.ofInt value
  | .float value => writeFloat value
  | .text value => writeString ascii value
  | .list items => '[' :: Text.join ", " (writeItems ascii items) ++ [']']
  | .table fields => '\x7b' :: Text.join ", " (writeMembers ascii fields) ++ ['\x7d']
  | _ => "null"

def writeItems (ascii : Bool) : List Datum → List Text
  | [] => []
  | item :: items => write ascii item :: writeItems ascii items

def writeMembers (ascii : Bool) : List (Text × Datum) → List Text
  | [] => []
  | (name, member) :: members =>
    (writeString ascii name ++ ": " ++ write ascii member) :: writeMembers ascii members

end

end LintFindings.Json

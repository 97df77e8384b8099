import LintFindings.Finding

/-!
Findings from raw data in the form linters print them. A field may be required or have a default;
a default stands also for a null. The first fault in a fixed order is the one reported.
-/

namespace LintFindings

/-- A kind of field: how its data are recognised, and the word for it. -/
structure FieldKind (α : Type) where
  read? : Datum → Option α
  word : String

namespace FieldKind

def int : FieldKind Int where
  read? | .int value => some value | _ => none
  word := "int"

def text : FieldKind Text where
  read? | .text value => some value | _ => none
  word := "str"

def bool : FieldKind Bool where
  read? | .bool value => some value | _ => none
  word := "bool"

def check {α : Type} (kind : FieldKind α) (key : Text) (spot : Spot) (value : Datum) :
    Except Failure α :=
  match kind.read? value with
  | some found => .ok found
  | none => .error (.malformedResult key ("expected " ++ kind.word.toList) spot)

def required {α : Type} (kind : FieldKind α) (fields : Fields) (key : Text) (spot : Spot) :
    Except Failure α :=
  match fields.get? key with
  | none => .error (.malformedResult key "missing required field" spot)
  | some value => kind.check key spot value

def optional {α : Type} (kind : FieldKind α) (fields : Fields) (key : Text) (default : α)
    (spot : Spot) : Except Failure α :=
  match fields.get? key with
  | none => .ok default
  | some .null => .ok default
  | some value => kind.check key spot value

def possible {α : Type} (kind : FieldKind α) (fields : Fields) (key : Text) (spot : Spot) :
    Except Failure (Option α) :=
  match fields.get? key with
  | none => .ok none
  | some .null => .ok none
  | some value => (kind.check key spot value).map some

end FieldKind

namespace Finding

def ofFatalFields (fields : Fields) (message : Text) (spot : Spot) : Except Failure Finding := do
  let severity ← FieldKind.int.optional fields "severity" 2 spot
  let line ← FieldKind.int.optional fields "line" 0 spot
  let column ← FieldKind.int.optional fields "column" 0 spot
  let rule ← FieldKind.text.possible fields "ruleId" spot
  return { message, severity, line, column, rule, fatal := true }

def ofPlainFields (fields : Fields) (message : Text) (spot : Spot) : Except Failure Finding := do
  let severity ← FieldKind.int.required fields "severity" spot
  if (Severity.ofCode? severity).isNone then
    throw (.unsupportedSeverity (.int severity) spot)
  let line ← FieldKind.int.required fields "line" spot
  let column ← FieldKind.int.required fields "column" spot
  let rule ← FieldKind.text.possible fields "ruleId" spot
  return { message, severity, line, column, rule, fatal := false }

def ofDatum (raw : Datum) (spot : Spot) : Except Failure Finding :=
  match raw with
  | .table fields => do
    let fatal ← FieldKind.bool.optional fields "fatal" false spot
    let message ← FieldKind.text.required fields "message" spot
    if fatal then ofFatalFields fields message spot else ofPlainFields fields message spot
  | _ => .error (.malformedResult "messages" "expected an object" spot)

/-- The findings of the record at `record`, of which the first has the number `start`. -/
def ofDataFrom (record : Option Int) : Nat → List Datum → Except Failure (List Finding)
  | _, [] => .ok []
  | start, raw :: rest => do
    let finding ← ofDatum raw ⟨record, some (start : Int)⟩
    let findings ← ofDataFrom record (start + 1) rest
    return finding :: findings

end Finding

namespace FileFindings

def count (fields : Fields) (key : Text) (spot : Spot) : Except Failure Int :=
  FieldKind.int.optional fields key 0 spot

def requireNatural (key : Text) (count : Int) (spot : Spot) : Except Failure Unit :=
  if count < 0 then .error (.malformedResult key "must be non-negative" spot) else .ok ()

/-- The raw messages; only a list may stand for them, and leaving them out means that there are none. -/
def rawMessages (fields : Fields) (spot : Spot) : Except Failure (List Datum) :=
  match fields.get? "messages" with
  | none => .ok []
  | some (.list items) => .ok items
  | some _ => .error (.malformedResult "messages" "expected a list" spot)

def ofDatum (raw : Datum) (record : Option Int) : Except Failure FileFindings :=
  let spot : Spot := ⟨record, none⟩
  match raw with
  | .table fields => do
    let messages ← rawMessages fields spot
    let errors ← count fields "errorCount" spot
    let warnings ← count fields "warningCount" spot
    requireNatural "errorCount" errors spot
    requireNatural "warningCount" warnings spot
    let path ← FieldKind.text.required fields "filePath" spot
    let findings ← Finding.ofDataFrom record 0 messages
    return { path, findings, errors, warnings }
  | _ => .error (.malformedResult "result" "expected an object" spot)

def ofDataFrom : Nat → List Datum → Except Failure (List FileFindings)
  | _, [] => .ok []
  | start, raw :: rest => do
    let file ← ofDatum raw (some (start : Int))
    let files ← ofDataFrom (start + 1) rest
    return file :: files

def listOfDatum : Datum → Except Failure (List FileFindings)
  | .list items => ofDataFrom 0 items
  | _ => .error (.malformedResult "results" "expected a list of file results" .nowhere)

end FileFindings

end LintFindings

import LintFindings.Datum.Shown

/-!
Failures: what went wrong, and the message that says so. A message has a main part and named
details in order, and a failure belongs to a family of ever wider kinds.
-/

namespace LintFindings

inductive FailureKind where
  | general
  | input
  | malformedResult
  | unsupportedSeverity
  | unknownFormatter
  | configuration
  | invalidSetting
  deriving DecidableEq, Repr

namespace FailureKind

def name : FailureKind → Text
  | general => "LintReportError"
  | input => "InputError"
  | malformedResult => "MalformedResultError"
  | unsupportedSeverity => "UnsupportedSeverityError"
  | unknownFormatter => "UnknownFormatterError"
  | configuration => "ConfigurationError"
  | invalidSetting => "InvalidConfigError"

def lineage : FailureKind → List FailureKind
  | general => [general]
  | input => [input, general]
  | malformedResult => [malformedResult, input, general]
  | unsupportedSeverity => [unsupportedSeverity, input, general]
  | unknownFormatter => [unknownFormatter, general]
  | configuration => [configuration, general]
  | invalidSetting => [invalidSetting, configuration, general]

end FailureKind

structure Notice where
  kind : FailureKind
  main : Text
  details : List (Text × Text)
  deriving DecidableEq, Repr

namespace Notice

def detailText (detail : Text × Text) : Text := detail.1 ++ '=' :: detail.2

def text (notice : Notice) : Text :=
  if notice.details = [] then notice.main
  else notice.main ++ " (" ++ Text.join ", " (notice.details.map detailText) ++ ")"

end Notice

/--
Which record of the input a failure is about, and which message of that record, by the numbers
the caller goes by.
-/
structure Spot where
  record : Option Int
  message : Option Int
  deriving DecidableEq, Repr

namespace Spot

def nowhere : Spot := ⟨none, none⟩

def details (spot : Spot) : List (Text × Text) :=
  (spot.record.toList.map (fun n => (("index" : Text), Text.ofInt n))) ++
    (spot.message.toList.map (fun n => (("message_index" : Text), Text.ofInt n)))

end Spot

inductive Failure where
  | malformedResult (field reason : Text) (spot : Spot)
  | unsupportedSeverity (severity : Datum) (spot : Spot)
  | unreadableInput (path reason : Text)
  | unknownFormatter (name : Text) (available : List Text)
  | invalidSetting (key : Text) (value : Datum) (reason : Text)
  | unknownSetting (key : Text)
  | missingSettingsFile (path : Text)
  | invalidSettingsFile (path problem : Text)
  deriving Repr

namespace Failure

def sorted (names : List Text) : List Text := names.mergeSort Text.isAtMost

/-- The settings call themselves `self`, so that name is known but already taken. -/
def unknownSettingReason (key : Text) : Text :=
  "ReportConfig.__init__() got " ++
    (if key = "self" then "multiple values for argument " else "an unexpected keyword argument ") ++
    '\'' :: key ++ ['\'']

def notice : Failure → Notice
  | malformedResult field reason spot =>
    ⟨.malformedResult, "Malformed lint result: " ++ field,
      ("field", field) :: ("reason", reason) :: spot.details⟩
  | unsupportedSeverity severity spot =>
    ⟨.unsupportedSeverity, "Unsupported severity: " ++ severity.literal,
      ("supported", "1, 2") :: spot.details⟩
  | unreadableInput path reason =>
    ⟨.input, "Cannot read results: " ++ path, [("reason", reason)]⟩
  | unknownFormatter name available =>
    ⟨.unknownFormatter, "Unknown formatter: " ++ name.quoted,
      [("available", Text.join ", " (sorted available))]⟩
  | invalidSetting key value reason =>
    ⟨.invalidSetting, "Invalid configuration for " ++ key ++ ": " ++ value.shown,
      [("key", key), ("value", value.shown), ("reason", reason)]⟩
  | unknownSetting key =>
    ⟨.configuration, "Invalid configuration: " ++ unknownSettingReason key, []⟩
  | missingSettingsFile path =>
    ⟨.configuration, "Config file not found: " ++ path, [("path", path)]⟩
  | invalidSettingsFile path problem =>
    ⟨.configuration, "Invalid config file '" ++ path ++ "': " ++ problem, [("path", path)]⟩

def isWritable : Failure → Bool
  | unsupportedSeverity severity _ => severity.isWritable
  | invalidSetting _ value _ => value.isWritable
  | _ => true

def isShallow : Failure → Bool
  | unsupportedSeverity severity _ => severity.nestsWithin Datum.shownNestingRoom
  | invalidSetting _ value _ => value.nestsWithin Datum.shownNestingRoom
  | _ => true

def kind (failure : Failure) : FailureKind := failure.notice.kind

def text (failure : Failure) : Text := failure.notice.text

end Failure

end LintFindings

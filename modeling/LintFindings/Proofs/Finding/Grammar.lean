import LintFindings.Finding.Raw
import LintFindings.Proofs.Steps
import Mathlib.Data.List.Forall2

/-!
Which raw data hold findings, and what they hold. Data are read if and only if they have the form
given here, and then every field is the one they give or its default.
-/

namespace LintFindings

abbrev Entry := Option Datum

namespace Entry

def isUnset : Entry → Bool
  | none => true
  | some .null => true
  | _ => false

def isInt : Entry → Bool
  | some (.int _) => true
  | _ => false

def isNatural : Entry → Bool
  | some (.int n) => 0 ≤ n
  | _ => false

def isSeverity : Entry → Bool
  | some (.int n) => n == 1 || n == 2
  | _ => false

def isText : Entry → Bool
  | some (.text _) => true
  | _ => false

def isBool : Entry → Bool
  | some (.bool _) => true
  | _ => false

def isSet : Entry → Bool
  | some (.bool value) => value
  | _ => false

/-- Left out or a list of data that are all accepted. A null is no list. -/
def isListOf (accepts : Datum → Bool) : Entry → Bool
  | none => true
  | some (.list items) => items.all accepts
  | _ => false

def int? : Entry → Option Int
  | some (.int n) => some n
  | _ => none

def text? : Entry → Option Text
  | some (.text t) => some t
  | _ => none

def items : Entry → List Datum
  | some (.list items) => items
  | _ => []

end Entry

open Entry

namespace Finding

def acceptsFatal (fields : Fields) : Bool :=
  ["severity", "line", "column"].all fun (key : String) =>
    isUnset (fields.get? key) || isInt (fields.get? key)

/-- Any other one must have a known severity and a position. -/
def acceptsPlain (fields : Fields) : Bool :=
  isSeverity (fields.get? "severity") && isInt (fields.get? "line") &&
    isInt (fields.get? "column")

def acceptsFields (fields : Fields) : Bool :=
  (isUnset (fields.get? "fatal") || isBool (fields.get? "fatal")) &&
    isText (fields.get? "message") &&
    (if isSet (fields.get? "fatal") then acceptsFatal fields else acceptsPlain fields) &&
    (isUnset (fields.get? "ruleId") || isText (fields.get? "ruleId"))

def accepts : Datum → Bool
  | .table fields => acceptsFields fields
  | _ => false

/-- What raw data say of a finding, with the defaults for what they leave open. -/
def ofFields (fields : Fields) : Finding where
  message := (text? (fields.get? "message")).getD []
  severity := (int? (fields.get? "severity")).getD 2
  line := (int? (fields.get? "line")).getD 0
  column := (int? (fields.get? "column")).getD 0
  rule := text? (fields.get? "ruleId")
  fatal := isSet (fields.get? "fatal")

def ofRaw : Datum → Finding
  | .table fields => ofFields fields
  | _ => ofFields []

end Finding

namespace FileFindings

def acceptsFields (fields : Fields) : Bool :=
  isText (fields.get? "filePath") && isListOf Finding.accepts (fields.get? "messages") &&
    (isUnset (fields.get? "errorCount") || isNatural (fields.get? "errorCount")) &&
    (isUnset (fields.get? "warningCount") || isNatural (fields.get? "warningCount"))

def accepts : Datum → Bool
  | .table fields => acceptsFields fields
  | _ => false

def ofFields (fields : Fields) : FileFindings where
  path := (text? (fields.get? "filePath")).getD []
  findings := (items (fields.get? "messages")).map Finding.ofRaw
  errors := (int? (fields.get? "errorCount")).getD 0
  warnings := (int? (fields.get? "warningCount")).getD 0

def ofRaw : Datum → FileFindings
  | .table fields => ofFields fields
  | _ => ofFields []

def acceptsList : Datum → Bool
  | .list items => items.all accepts
  | _ => false

def ofRawList : Datum → List FileFindings
  | .list items => items.map ofRaw
  | _ => []

end FileFindings

/-- The same data stand under the names, whatever else there is and in whatever order. -/
def Fields.AgreeOn (names : List Text) (a b : Fields) : Prop :=
  ∀ name ∈ names, a.get? name = b.get? name

def Entry.AreAlike (alike : Datum → Datum → Prop) : Entry → Entry → Prop
  | some (.list a), some (.list b) => List.Forall₂ alike a b
  | a, b => a = b

theorem Entry.AreAlike.cases {alike : Datum → Datum → Prop} {a b : Entry}
    (areAlike : Entry.AreAlike alike a b) :
    a = b ∨ ∃ given other, a = some (.list given) ∧ b = some (.list other) ∧
      List.Forall₂ alike given other := by
  unfold Entry.AreAlike at areAlike
  split at areAlike
  next given other => exact .inr ⟨given, other, rfl, rfl, areAlike⟩
  next => exact .inl areAlike

def Finding.names : List Text := ["fatal", "message", "severity", "line", "column", "ruleId"]

def Finding.Alike : Datum → Datum → Prop
  | .table a, .table b => Fields.AgreeOn names a b
  | a, b => a = b

def FileFindings.names : List Text := ["errorCount", "warningCount", "filePath"]

def FileFindings.Alike : Datum → Datum → Prop
  | .table a, .table b =>
    Fields.AgreeOn names a b ∧
      Entry.AreAlike Finding.Alike (Fields.get? a "messages") (Fields.get? b "messages")
  | a, b => a = b

def FileFindings.AreAlikeLists (a b : Datum) : Prop := Entry.AreAlike Alike (some a) (some b)

section Fields

variable (fields : Fields) (key : Text) (spot : Spot)

theorem required_int_eq_ok (default n : Int) :
    FieldKind.int.required fields key spot = .ok n ↔
      isInt (fields.get? key) = true ∧ n = (int? (fields.get? key)).getD default := by
  unfold FieldKind.required
  cases fields.get? key with
  | none => simp [isInt]
  | some value => cases value <;> simp [FieldKind.check, FieldKind.int, isInt, int?, eq_comm]

theorem required_text_eq_ok (t : Text) :
    FieldKind.text.required fields key spot = .ok t ↔
      isText (fields.get? key) = true ∧ t = (text? (fields.get? key)).getD [] := by
  unfold FieldKind.required
  cases fields.get? key with
  | none => simp [isText]
  | some value => cases value <;> simp [FieldKind.check, FieldKind.text, isText, text?, eq_comm]

theorem optional_int_eq_ok (default n : Int) :
    FieldKind.int.optional fields key default spot = .ok n ↔
      (isUnset (fields.get? key) || isInt (fields.get? key)) = true ∧
        n = (int? (fields.get? key)).getD default := by
  unfold FieldKind.optional
  cases fields.get? key with
  | none => simp [isUnset, int?, eq_comm]
  | some value =>
      cases value <;> simp [FieldKind.check, FieldKind.int, isUnset, isInt, int?, eq_comm]

theorem optional_bool_eq_ok (value : Bool) :
    FieldKind.bool.optional fields key false spot = .ok value ↔
      (isUnset (fields.get? key) || isBool (fields.get? key)) = true ∧
        value = isSet (fields.get? key) := by
  unfold FieldKind.optional
  cases fields.get? key with
  | none => simp [isUnset, isSet, eq_comm]
  | some value =>
      cases value <;> simp [FieldKind.check, FieldKind.bool, isUnset, isBool, isSet, eq_comm]

theorem possible_text_eq_ok (t : Option Text) :
    FieldKind.text.possible fields key spot = .ok t ↔
      (isUnset (fields.get? key) || isText (fields.get? key)) = true ∧
        t = text? (fields.get? key) := by
  unfold FieldKind.possible
  cases fields.get? key with
  | none => simp [isUnset, text?, eq_comm]
  | some value =>
      cases value <;>
        simp [FieldKind.check, FieldKind.text, Except.map, isUnset, isText, text?, eq_comm]

end Fields

section Agreement

variable {α : Type} (kind : FieldKind α) {a b : Fields} {key : Text}
  (same : a.get? key = b.get? key) (spot : Spot)

include same

theorem required_congr : kind.required a key spot = kind.required b key spot := by
  rw [FieldKind.required, same, FieldKind.required]

theorem optional_congr (default : α) :
    kind.optional a key default spot = kind.optional b key default spot := by
  rw [FieldKind.optional, same, FieldKind.optional]

theorem possible_congr : kind.possible a key spot = kind.possible b key spot := by
  rw [FieldKind.possible, same, FieldKind.possible]

end Agreement

namespace Finding

theorem ofFatalFields_eq_ok (fields : Fields) (message : Text) (spot : Spot) (f : Finding) :
    ofFatalFields fields message spot = .ok f ↔
      (acceptsFatal fields = true ∧
        (isUnset (fields.get? "ruleId") || isText (fields.get? "ruleId")) = true) ∧
      f = { ofFields fields with message, fatal := true } := by
  simp only [ofFatalFields, bind_eq_ok, pure_eq_ok, optional_int_eq_ok, possible_text_eq_ok,
    and_assoc, exists_and_left, exists_eq_left]
  simp [acceptsFatal, ofFields, and_assoc]

theorem isSeverity_iff (entry : Entry) :
    isSeverity entry = true ↔
      isInt entry = true ∧ (Severity.ofCode? ((int? entry).getD 2)).isNone = false := by
  rcases entry with _ | value
  · simp [isSeverity, isInt]
  · cases value with
    | int n =>
        by_cases mild : n = 1
        · simp [isSeverity, isInt, int?, Severity.ofCode?, mild]
        · by_cases grave : n = 2 <;> simp [isSeverity, isInt, int?, Severity.ofCode?, mild, grave]
    | _ => simp [isSeverity, isInt]

theorem ofPlainFields_eq_ok (fields : Fields) (message : Text) (spot : Spot) (f : Finding) :
    ofPlainFields fields message spot = .ok f ↔
      (acceptsPlain fields = true ∧
        (isUnset (fields.get? "ruleId") || isText (fields.get? "ruleId")) = true) ∧
      f = { ofFields fields with message, fatal := false } := by
  simp only [ofPlainFields, bind_eq_ok, throw_or_eq_ok, pure_eq_ok,
    required_int_eq_ok _ "severity".toList _ 2, required_int_eq_ok _ "line".toList _ 0,
    required_int_eq_ok _ "column".toList _ 0, possible_text_eq_ok, and_assoc, exists_and_left,
    exists_eq_left]
  simp [acceptsPlain, ofFields, isSeverity_iff, and_assoc]

theorem ofTable_eq_ok (fields : Fields) (spot : Spot) (f : Finding) :
    ofDatum (.table fields) spot = .ok f ↔ acceptsFields fields = true ∧ f = ofFields fields := by
  simp only [ofDatum, bind_eq_ok, optional_bool_eq_ok, required_text_eq_ok, and_assoc,
    exists_and_left, exists_eq_left]
  have fatalField : (ofFields fields).fatal = isSet (fields.get? "fatal") := rfl
  cases fatal : isSet (fields.get? "fatal") with
  | true =>
      have whole : { ofFields fields with
          message := (text? (fields.get? "message")).getD [], fatal := true } =
          ofFields fields := by
        rw [← fatal, ← fatalField]
        rfl
      simp only [if_true, ofFatalFields_eq_ok, whole, acceptsFields, fatal, Bool.and_eq_true,
        and_assoc]
  | false =>
      have whole : { ofFields fields with
          message := (text? (fields.get? "message")).getD [], fatal := false } =
          ofFields fields := by
        rw [← fatal, ← fatalField]
        rfl
      simp only [Bool.false_eq_true, if_false, ofPlainFields_eq_ok, whole, acceptsFields, fatal,
        Bool.and_eq_true, and_assoc]

theorem ofDatum_eq_ok (raw : Datum) (spot : Spot) (f : Finding) :
    ofDatum raw spot = .ok f ↔ accepts raw = true ∧ f = ofRaw raw := by
  cases raw with
  | table fields => exact ofTable_eq_ok fields spot f
  | _ => simp [ofDatum, accepts]

theorem ofDataFrom_eq_ok (record : Option Int) (start : Nat) (raw : List Datum)
    (findings : List Finding) :
    ofDataFrom record start raw = .ok findings ↔
      raw.all accepts = true ∧ findings = raw.map ofRaw := by
  induction raw generalizing start findings with
  | nil => simp [ofDataFrom, eq_comm]
  | cons first rest ih =>
      simp only [ofDataFrom, bind_eq_ok, pure_eq_ok, ofDatum_eq_ok, ih, and_assoc, exists_and_left,
        exists_eq_left]
      simp [and_assoc]

theorem ofTable_congr {a b : Fields} (agree : Fields.AgreeOn names a b) (spot : Spot) :
    ofDatum (.table a) spot = ofDatum (.table b) spot := by
  have fatal := optional_congr .bool (agree "fatal" (by decide)) spot false
  have message := required_congr .text (agree "message" (by decide)) spot
  have severity : a.get? "severity" = b.get? "severity" := agree "severity" (by decide)
  have line : a.get? "line" = b.get? "line" := agree "line" (by decide)
  have column : a.get? "column" = b.get? "column" := agree "column" (by decide)
  have rule := possible_congr .text (agree "ruleId" (by decide)) spot
  simp only [ofDatum, ofFatalFields, ofPlainFields, fatal, message, rule,
    optional_congr .int severity, optional_congr .int line, optional_congr .int column,
    required_congr .int severity, required_congr .int line, required_congr .int column]

theorem ofDatum_congr {a b : Datum} (alike : Alike a b) (spot : Spot) :
    ofDatum a spot = ofDatum b spot := by
  cases a with
  | table a =>
      cases b with
      | table b => exact ofTable_congr alike spot
      | _ => rw [show _ = _ from alike]
  | _ => rw [show _ = _ from alike]

theorem ofDataFrom_congr (record : Option Int) {a b : List Datum} (alike : List.Forall₂ Alike a b)
    (start : Nat) : ofDataFrom record start a = ofDataFrom record start b := by
  induction alike generalizing start with
  | nil => rfl
  | cons first _ ih => rw [ofDataFrom, ofDataFrom, ofDatum_congr first, ih]

end Finding

namespace FileFindings

theorem rawMessages_eq_ok (fields : Fields) (spot : Spot) (raw : List Datum) :
    rawMessages fields spot = .ok raw ↔
      isListOf (fun _ => true) (fields.get? "messages") = true ∧
        raw = items (fields.get? "messages") := by
  unfold rawMessages
  cases fields.get? "messages" with
  | none => simp [isListOf, items, eq_comm]
  | some value =>
      cases value with
      | list given =>
          simp only [isListOf, items, List.all_eq_true, implies_true, true_and, Except.ok.injEq]
          exact eq_comm
      | _ => simp [isListOf]

theorem requireNatural_eq_ok (key : Text) (n : Int) (spot : Spot) (done : Unit) :
    requireNatural key n spot = .ok done ↔ 0 ≤ n := by
  unfold requireNatural
  split
  next negative => simp [negative]
  next natural => simpa using natural

theorem count_accepted (entry : Entry) :
    ((isUnset entry || isInt entry) = true ∧ 0 ≤ (int? entry).getD 0) ↔
      (isUnset entry || isNatural entry) = true := by
  rcases entry with _ | value
  · simp [isUnset, int?]
  · cases value <;> simp [isUnset, isInt, isNatural, int?]

theorem messages_accepted (entry : Entry) :
    (isListOf (fun _ => true) entry = true ∧ (items entry).all Finding.accepts = true) ↔
      isListOf Finding.accepts entry = true := by
  rcases entry with _ | value
  · simp [isListOf, items]
  · cases value <;> simp [isListOf, items]

theorem ofTable_eq_ok (fields : Fields) (record : Option Int) (file : FileFindings) :
    ofDatum (.table fields) record = .ok file ↔
      acceptsFields fields = true ∧ file = ofFields fields := by
  simp only [ofDatum, count, bind_eq_ok, pure_eq_ok, rawMessages_eq_ok, optional_int_eq_ok,
    requireNatural_eq_ok, required_text_eq_ok, Finding.ofDataFrom_eq_ok, and_assoc,
    exists_and_left, exists_eq_left]
  simp only [acceptsFields, Bool.and_eq_true, ← messages_accepted, ← count_accepted, exists_const]
  constructor
  · rintro ⟨messages, errors, warnings, someErrors, someWarnings, path, findings, same⟩
    exact ⟨⟨⟨⟨path, messages, findings⟩, errors, someErrors⟩, warnings, someWarnings⟩, same⟩
  · rintro ⟨⟨⟨⟨path, messages, findings⟩, errors, someErrors⟩, warnings, someWarnings⟩, same⟩
    exact ⟨messages, errors, warnings, someErrors, someWarnings, path, findings, same⟩

theorem ofDatum_eq_ok (raw : Datum) (record : Option Int) (file : FileFindings) :
    ofDatum raw record = .ok file ↔ accepts raw = true ∧ file = ofRaw raw := by
  cases raw with
  | table fields => exact ofTable_eq_ok fields record file
  | _ => simp [ofDatum, accepts]

theorem ofDataFrom_eq_ok (start : Nat) (raw : List Datum) (files : List FileFindings) :
    ofDataFrom start raw = .ok files ↔ raw.all accepts = true ∧ files = raw.map ofRaw := by
  induction raw generalizing start files with
  | nil => simp [ofDataFrom, eq_comm]
  | cons first rest ih =>
      simp only [ofDataFrom, bind_eq_ok, pure_eq_ok, ofDatum_eq_ok, ih, and_assoc, exists_and_left,
        exists_eq_left]
      simp [and_assoc]

theorem rawMessages_congr {a b : Fields}
    (messages : Entry.AreAlike Finding.Alike (a.get? "messages") (b.get? "messages"))
    (spot : Spot) :
    rawMessages a spot = rawMessages b spot ∨
      ∃ some other, rawMessages a spot = .ok some ∧ rawMessages b spot = .ok other ∧
        List.Forall₂ Finding.Alike some other := by
  rcases messages.cases with same | ⟨given, other, left, right, alike⟩
  · exact .inl (by rw [rawMessages, rawMessages, same])
  · exact .inr ⟨given, other, by rw [rawMessages, left], by rw [rawMessages, right], alike⟩

theorem ofTable_congr {a b : Fields} (agree : Fields.AgreeOn names a b)
    (messages : Entry.AreAlike Finding.Alike (a.get? "messages") (b.get? "messages"))
    (record : Option Int) : ofDatum (.table a) record = ofDatum (.table b) record := by
  have errors : a.get? "errorCount" = b.get? "errorCount" := agree "errorCount" (by decide)
  have warnings : a.get? "warningCount" = b.get? "warningCount" := agree "warningCount" (by decide)
  have path : a.get? "filePath" = b.get? "filePath" := agree "filePath" (by decide)
  simp only [ofDatum, count, optional_congr .int errors, optional_congr .int warnings,
    required_congr .text path]
  rcases rawMessages_congr messages ⟨record, none⟩ with same | ⟨given, other, left, right, alike⟩
  · rw [same]
  · rw [left, right]
    simp only [bind, Except.bind, Finding.ofDataFrom_congr record alike]

theorem ofDatum_congr {a b : Datum} (alike : Alike a b) (record : Option Int) :
    ofDatum a record = ofDatum b record := by
  cases a with
  | table a =>
      cases b with
      | table b => exact ofTable_congr alike.1 alike.2 record
      | _ => rw [show _ = _ from alike]
  | _ => rw [show _ = _ from alike]

theorem ofDataFrom_congr {a b : List Datum} (alike : List.Forall₂ Alike a b) (start : Nat) :
    ofDataFrom start a = ofDataFrom start b := by
  induction alike generalizing start with
  | nil => rfl
  | cons first _ ih => rw [ofDataFrom, ofDataFrom, ofDatum_congr first, ih]

theorem listOfDatum_congr {a b : Datum} (alike : AreAlikeLists a b) :
    listOfDatum a = listOfDatum b := by
  unfold AreAlikeLists at alike
  rcases Entry.AreAlike.cases alike with same | ⟨given, other, left, right, pairs⟩
  · rw [Option.some.inj same]
  · rw [Option.some.inj left, Option.some.inj right]
    exact ofDataFrom_congr pairs 0

theorem listOfDatum_eq_ok (raw : Datum) (files : List FileFindings) :
    listOfDatum raw = .ok files ↔ acceptsList raw = true ∧ files = ofRawList raw := by
  cases raw with
  | list given => exact ofDataFrom_eq_ok 0 given files
  | _ => simp [listOfDatum, acceptsList]

/--
Data are read if and only if they have the form of records. One file is read from every record and
one finding from every raw message, in order, with what the raw data say or the default, and
nothing under any other name counts, nor the order of the names.
-/
theorem listOfDatum_readsForm (raw : Datum) :
    ((∃ files, listOfDatum raw = .ok files) ↔ acceptsList raw = true) ∧
      (∀ files, listOfDatum raw = .ok files →
        ∃ given, raw = .list given ∧ files = given.map ofRaw) ∧
      (∀ other, AreAlikeLists raw other → listOfDatum other = listOfDatum raw) := by
  refine ⟨?_, ?_, ?_⟩
  · simp only [listOfDatum_eq_ok, exists_and_left, exists_eq, and_true]
  · intro files read
    rw [listOfDatum_eq_ok] at read
    cases raw with
    | list given => exact ⟨given, rfl, read.2⟩
    | _ => simp [acceptsList] at read
  · intro other alike
    exact (listOfDatum_congr alike).symm

/-- A null leaves a count open, but it is no list of messages. -/
example :
    acceptsList (.list [.table [("filePath", .text "a"), ("errorCount", .null)]]) = true ∧
      acceptsList (.list [.table [("filePath", .text "a"), ("messages", .null)]]) = false := by
  decide

end FileFindings

end LintFindings

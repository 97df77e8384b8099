import LintFindings.Input
import LintFindings.Proofs.Finding.Faults
import LintFindings.Proofs.Finding.Grammar
import LintFindings.Proofs.First

/-!
What raw data that are no findings are blamed for. A record and a message each make demands on their
fields, in an order; the first demand that is not met, in the first record that fails, is the one
reported, with the place of the record and, if the message is at fault, that of the message. This
fails for a severity that is too long to be shown.
-/

namespace LintFindings

inductive Kind where
  | int
  | text
  | bool
  | list
  deriving DecidableEq, Repr

namespace Kind

def word : Kind → String
  | int => "int"
  | text => "str"
  | bool => "bool"
  | list => "a list"

def accepts : Kind → Datum → Bool
  | int, .int _ => true
  | text, .text _ => true
  | bool, .bool _ => true
  | list, .list _ => true
  | _, _ => false

end Kind

/-- What may be wrong with a field, or with a record or message as a whole. -/
inductive Fault where
  | missing (field : Text)
  | mistyped (field : Text) (word : String)
  | negative (field : Text)
  | unsupported (severity : Int)
  deriving DecidableEq, Repr

def Fault.failure (spot : Spot) : Fault → Failure
  | missing field => .malformedResult field "missing required field" spot
  | mistyped field word => .malformedResult field ("expected " ++ word.toList) spot
  | negative field => .malformedResult field "must be non-negative" spot
  | unsupported severity => .unsupportedSeverity (.int severity) spot

theorem Fault.eq_unsupported_of_failure {fault : Fault} {spot other : Spot} {severity : Datum}
    (same : fault.failure spot = .unsupportedSeverity severity other) :
    ∃ n, fault = .unsupported n ∧ severity = .int n ∧ other = spot := by
  cases fault with
  | unsupported n =>
      cases same
      exact ⟨n, rfl, rfl, rfl⟩
  | _ => cases same

inductive Demand where
  | required (field : Text) (kind : Kind)
  | optional (field : Text) (kind : Kind)
  /-- The field may be left out, but a null is of the wrong kind. -/
  | given (field : Text) (kind : Kind)
  | natural (field : Text)
  | known
  deriving DecidableEq, Repr

namespace Demand

def mistyped? (field : Text) (kind : Kind) (value : Datum) : Option Fault :=
  if kind.accepts value then none else some (.mistyped field kind.word)

def fault? (fields : Fields) : Demand → Option Fault
  | required field kind =>
    match fields.get? field with
    | none => some (.missing field)
    | some value => mistyped? field kind value
  | optional field kind =>
    match fields.get? field with
    | none => none
    | some .null => none
    | some value => mistyped? field kind value
  | given field kind =>
    match fields.get? field with
    | none => none
    | some value => mistyped? field kind value
  | natural field =>
    match fields.get? field with
    | some (.int n) => if n < 0 then some (.negative field) else none
    | _ => none
  | known =>
    match fields.get? "severity" with
    | some (.int n) => if n = 1 ∨ n = 2 then none else some (.unsupported n)
    | _ => none

theorem mistyped?_ne_unsupported (field : Text) (kind : Kind) (value : Datum) (severity : Int) :
    mistyped? field kind value ≠ some (.unsupported severity) := by
  intro unmet
  unfold mistyped? at unmet
  split at unmet <;> cases unmet

theorem eq_known_of_unsupported {fields : Fields} {demand : Demand} {severity : Int}
    (unmet : demand.fault? fields = some (.unsupported severity)) : demand = .known := by
  cases demand with
  | known => rfl
  | natural field =>
      simp only [fault?] at unmet
      split at unmet
      next => split at unmet <;> cases unmet
      next => cases unmet
  | required field kind =>
      simp only [fault?] at unmet
      split at unmet
      next => cases unmet
      next value _ => exact absurd unmet (mistyped?_ne_unsupported field kind value severity)
  | optional field kind =>
      simp only [fault?] at unmet
      split at unmet
      next => cases unmet
      next => cases unmet
      next value _ _ => exact absurd unmet (mistyped?_ne_unsupported field kind value severity)
  | given field kind =>
      simp only [fault?] at unmet
      split at unmet
      next => cases unmet
      next value _ => exact absurd unmet (mistyped?_ne_unsupported field kind value severity)

def firstFault? (fields : Fields) (demands : List Demand) : Option Fault :=
  demands.findSome? (fault? fields)

end Demand

namespace Finding

def fatalDemands : List Demand :=
  [.optional "severity" .int, .optional "line" .int, .optional "column" .int,
    .optional "ruleId" .text]

def plainDemands : List Demand :=
  [.required "severity" .int, .known, .required "line" .int, .required "column" .int,
    .optional "ruleId" .text]

def demands (fields : Fields) : List Demand :=
  .optional "fatal" .bool :: .required "message" .text ::
    if Entry.isSet (fields.get? "fatal") then fatalDemands else plainDemands

def fault? : Datum → Option Fault
  | .table fields => Demand.firstFault? fields (demands fields)
  | _ => some (.mistyped "messages" "an object")

/-- A message that is no finding by itself. -/
def Rejected (raw : Datum) : Prop := ∃ cause, ofDatum raw .nowhere = .error cause

end Finding

namespace FileFindings

def demands : List Demand :=
  [.given "messages" .list, .optional "errorCount" .int, .optional "warningCount" .int,
    .natural "errorCount", .natural "warningCount", .required "filePath" .text]

def fault? : Datum → Option Fault
  | .table fields => Demand.firstFault? fields demands
  | _ => some (.mistyped "result" "an object")

def messages : Datum → List Datum
  | .table fields => Entry.items (Fields.get? fields "messages")
  | _ => []

def Rejected (raw : Datum) : Prop := ∃ cause, ofDatum raw none = .error cause

/--
What a record is blamed for: its own first fault if there is one, and then nothing is said of a
message; or else the first fault of the first message that is no finding.
-/
inductive Blames (record : Option Int) (raw : Datum) : Failure → Prop
  | record {fault : Fault} : fault? raw = some fault →
    Blames record raw (fault.failure ⟨record, none⟩)
  | message {number : Nat} {message : Datum} {fault : Fault} : fault? raw = none →
    IsFirst Finding.Rejected (messages raw) number message → Finding.fault? message = some fault →
    Blames record raw (fault.failure ⟨record, some (number : Int)⟩)

end FileFindings

def StopsWith {α : Type} (blame : Option Failure) (step : Except Failure α) : Prop :=
  ∀ cause, step = .error cause ↔ blame = some cause

section Steps

variable {α β : Type}

theorem stopsWith_ok (result : α) : StopsWith none (.ok result) := by
  intro cause
  constructor <;> intro stopped <;> cases stopped

theorem stopsWith_error (cause : Failure) :
    StopsWith (some cause) (.error cause : Except Failure α) := by
  intro other
  rw [Except.error.injEq, Option.some.injEq]

theorem StopsWith.bind {first : Except Failure α} {next : α → Except Failure β}
    {blame later : Option Failure} (begins : StopsWith blame first)
    (goesOn : ∀ found, first = .ok found → StopsWith later (next found)) :
    StopsWith (blame.or later) (first >>= next) := by
  cases first with
  | error fault =>
      have here : blame = some fault := (begins fault).mp rfl
      rw [here]
      exact stopsWith_error fault
  | ok found =>
      have none : blame = none := by
        apply Option.eq_none_iff_forall_ne_some.mpr
        intro cause blamed
        cases (begins cause).mpr blamed
      rw [none]
      exact goesOn found rfl

theorem StopsWith.map {step : Except Failure α} {blame : Option Failure}
    (stops : StopsWith blame step) (f : α → β) : StopsWith blame (step.map f) := by
  intro cause
  rw [← stops cause]
  cases step <;> simp [Except.map]

theorem stopsWith_run (step : Nat → α → Except Failure β)
    (run : Nat → List α → Except Failure (List β)) (blame : α × Nat → Option Failure)
    (nil : ∀ start, run start [] = .ok [])
    (cons : ∀ start member rest, run start (member :: rest) = (do
      let found ← step start member
      let others ← run (start + 1) rest
      return found :: others))
    (each : ∀ start member, StopsWith (blame (member, start)) (step start member))
    (start : Nat) (members : List α) :
    StopsWith ((members.zipIdx start).findSome? blame) (run start members) := by
  induction members generalizing start with
  | nil =>
      rw [nil]
      exact stopsWith_ok []
  | cons member rest ih =>
      rw [cons, List.zipIdx_cons, findSome?_cons_eq_or]
      refine (each start member).bind fun found _ => ?_
      rw [← Option.or_none (o := List.findSome? _ _)]
      refine (ih (start + 1)).bind fun others _ => ?_
      exact stopsWith_ok (found :: others)

end Steps

section Demands

variable {α : Type} (fields : Fields) (spot : Spot)

def firstBlame (last : Option Failure) (demands : List Demand) : Option Failure :=
  ((Demand.firstFault? fields demands).map (Fault.failure spot)).or last

theorem firstBlame_nil (last : Option Failure) : firstBlame fields spot last [] = last := rfl

theorem firstBlame_cons (last : Option Failure) (demand : Demand) (demands : List Demand) :
    firstBlame fields spot last (demand :: demands) =
      ((demand.fault? fields).map (Fault.failure spot)).or
        (firstBlame fields spot last demands) := by
  rw [firstBlame, firstBlame, Demand.firstFault?, findSome?_cons_eq_or]
  cases demand.fault? fields <;> rfl

variable {fields spot}

theorem StopsWith.demand {β : Type} {step : Except Failure α} {next : α → Except Failure β}
    {demand : Demand} {last : Option Failure} {demands : List Demand}
    (begins : StopsWith ((demand.fault? fields).map (Fault.failure spot)) step)
    (goesOn : ∀ found, step = .ok found →
      StopsWith (firstBlame fields spot last demands) (next found)) :
    StopsWith (firstBlame fields spot last (demand :: demands)) (step >>= next) := by
  rw [firstBlame_cons]
  exact begins.bind goesOn

end Demands

namespace FieldKind

variable {α : Type}

structure Is (kind : FieldKind α) (shape : Kind) : Prop where
  word : kind.word = shape.word
  reads : ∀ value, (kind.read? value).isSome = shape.accepts value

theorem int_is : int.Is .int := ⟨rfl, by intro value; cases value <;> rfl⟩

theorem text_is : text.Is .text := ⟨rfl, by intro value; cases value <;> rfl⟩

theorem bool_is : bool.Is .bool := ⟨rfl, by intro value; cases value <;> rfl⟩

variable {kind : FieldKind α} {shape : Kind} (same : kind.Is shape) (fields : Fields) (key : Text)
  (spot : Spot)

include same

theorem check_stopsWith (value : Datum) :
    StopsWith ((Demand.mistyped? key shape value).map (Fault.failure spot))
      (kind.check key spot value) := by
  rw [Demand.mistyped?, ← same.reads, check]
  cases kind.read? value with
  | some found => exact stopsWith_ok found
  | none =>
      rw [same.word]
      exact stopsWith_error _

theorem required_stopsWith :
    StopsWith (((Demand.required key shape).fault? fields).map (Fault.failure spot))
      (kind.required fields key spot) := by
  rw [Demand.fault?, required]
  cases fields.get? key with
  | none => exact stopsWith_error _
  | some value => exact check_stopsWith same key spot value

theorem optional_stopsWith (default : α) :
    StopsWith (((Demand.optional key shape).fault? fields).map (Fault.failure spot))
      (kind.optional fields key default spot) := by
  rw [Demand.fault?, optional]
  cases fields.get? key with
  | none => exact stopsWith_ok default
  | some value =>
      cases value with
      | null => exact stopsWith_ok default
      | _ => exact check_stopsWith same key spot _

theorem possible_stopsWith :
    StopsWith (((Demand.optional key shape).fault? fields).map (Fault.failure spot))
      (kind.possible fields key spot) := by
  rw [Demand.fault?, possible]
  cases fields.get? key with
  | none => exact stopsWith_ok none
  | some value =>
      cases value with
      | null => exact stopsWith_ok none
      | _ => exact (check_stopsWith same key spot _).map some

end FieldKind

namespace Finding

variable {fields : Fields} {spot : Spot}

theorem ofFatalFields_stopsWith (fields : Fields) (message : Text) (spot : Spot) :
    StopsWith (firstBlame fields spot none fatalDemands) (ofFatalFields fields message spot) := by
  unfold ofFatalFields fatalDemands
  refine (FieldKind.optional_stopsWith FieldKind.int_is fields _ spot 2).demand fun severity _ => ?_
  refine (FieldKind.optional_stopsWith FieldKind.int_is fields _ spot 0).demand fun line _ => ?_
  refine (FieldKind.optional_stopsWith FieldKind.int_is fields _ spot 0).demand fun column _ => ?_
  refine (FieldKind.possible_stopsWith FieldKind.text_is fields _ spot).demand fun rule _ => ?_
  exact stopsWith_ok _

theorem fault?_known {severity : Int} (held : fields.get? "severity" = some (.int severity)) :
    Demand.known.fault? fields =
      if (Severity.ofCode? severity).isNone then some (.unsupported severity) else none := by
  have known : (Severity.ofCode? severity).isNone = true ↔ ¬ (severity = 1 ∨ severity = 2) := by
    rw [← Severity.ofCode?_isSome_iff, Bool.not_eq_true, Option.isSome_eq_false_iff]
  simp only [Demand.fault?, held, known, ite_not]

theorem ofPlainFields_stopsWith (fields : Fields) (message : Text) (spot : Spot) :
    StopsWith (firstBlame fields spot none plainDemands) (ofPlainFields fields message spot) := by
  unfold ofPlainFields plainDemands
  refine (FieldKind.required_stopsWith FieldKind.int_is fields _ spot).demand ?_
  intro severity read
  have held := FieldKind.get?_of_required fields _ spot read
  -- The severity is checked by a branch, not by a step that is bound.
  rw [firstBlame_cons, fault?_known held]
  dsimp only
  split
  next => exact stopsWith_error _
  next =>
    refine (FieldKind.required_stopsWith FieldKind.int_is fields _ spot).demand fun line _ => ?_
    refine (FieldKind.required_stopsWith FieldKind.int_is fields _ spot).demand fun column _ => ?_
    refine (FieldKind.possible_stopsWith FieldKind.text_is fields _ spot).demand fun rule _ => ?_
    exact stopsWith_ok _

theorem ofDatum_stopsWith (raw : Datum) (spot : Spot) :
    StopsWith ((fault? raw).map (Fault.failure spot)) (ofDatum raw spot) := by
  cases raw with
  | table fields =>
      have same : (fault? (.table fields)).map (Fault.failure spot) =
          firstBlame fields spot none (demands fields) := by
        rw [firstBlame, Option.or_none, fault?]
      rw [same, demands, ofDatum]
      refine (FieldKind.optional_stopsWith FieldKind.bool_is fields _ spot false).demand ?_
      intro fatal read
      refine (FieldKind.required_stopsWith FieldKind.text_is fields _ spot).demand ?_
      intro message _
      obtain ⟨-, rfl⟩ := (optional_bool_eq_ok fields _ spot fatal).mp read
      split
      next => exact ofFatalFields_stopsWith fields message spot
      next => exact ofPlainFields_stopsWith fields message spot
  | _ => exact stopsWith_error _

/-- Blame for the first message that is no finding, the first of all having the number `start`. -/
def blameFrom (record : Option Int) (start : Nat) (raw : List Datum) : Option Failure :=
  (raw.zipIdx start).findSome? fun (message, number) =>
    (fault? message).map (Fault.failure ⟨record, some (number : Int)⟩)

theorem ofDataFrom_stopsWith (record : Option Int) (start : Nat) (raw : List Datum) :
    StopsWith (blameFrom record start raw) (ofDataFrom record start raw) :=
  stopsWith_run (fun number message => ofDatum message ⟨record, some (number : Int)⟩)
    (ofDataFrom record) _ (fun _ => rfl) (fun _ _ _ => rfl)
    (fun _ message => ofDatum_stopsWith message _) start raw

theorem rejected_iff (raw : Datum) : Rejected raw ↔ ∃ fault, fault? raw = some fault := by
  rw [Rejected, exists_congr (ofDatum_stopsWith raw .nowhere)]
  cases fault? raw <;> simp

theorem blameFrom_eq_some_iff (record : Option Int) (raw : List Datum) (cause : Failure) :
    blameFrom record 0 raw = some cause ↔
      ∃ number message, IsFirst Rejected raw number message ∧
        ∃ fault, fault? message = some fault ∧
          cause = fault.failure ⟨record, some (number : Int)⟩ := by
  have kind (message : Datum) (number : Nat) : Rejected message ↔
      ∃ cause, (fault? message).map (Fault.failure ⟨record, some (number : Int)⟩) = some cause := by
    rw [rejected_iff]
    cases fault? message <;> simp
  rw [blameFrom, findSome?_zipIdx_eq_some_iff kind]
  simp only [Option.map_eq_some_iff, @eq_comm _ cause]

end Finding

namespace FileFindings

variable {fields : Fields}

theorem rawMessages_stopsWith (fields : Fields) (spot : Spot) :
    StopsWith (((Demand.given "messages" .list).fault? fields).map (Fault.failure spot))
      (rawMessages fields spot) := by
  rw [Demand.fault?, rawMessages]
  cases fields.get? "messages" with
  | none => exact stopsWith_ok []
  | some value =>
      cases value with
      | list items => exact stopsWith_ok items
      | _ => exact stopsWith_error _

theorem requireNatural_stopsWith {key : Text} {n : Int} (spot : Spot)
    (read : n = (Entry.int? (fields.get? key)).getD 0) :
    StopsWith (((Demand.natural key).fault? fields).map (Fault.failure spot))
      (requireNatural key n spot) := by
  rw [Demand.fault?, read]
  cases fields.get? key with
  | none => exact stopsWith_ok ()
  | some value =>
      cases value with
      | int n =>
          change StopsWith (Option.map _ (if n < 0 then some (Fault.negative key) else none))
            (if n < 0 then _ else _)
          split
          next => exact stopsWith_error _
          next => exact stopsWith_ok ()
      | _ => exact stopsWith_ok ()

def blame? (record : Option Int) (raw : Datum) : Option Failure :=
  ((fault? raw).map (Fault.failure ⟨record, none⟩)).or (Finding.blameFrom record 0 (messages raw))

theorem ofDatum_stopsWith (raw : Datum) (record : Option Int) :
    StopsWith (blame? record raw) (ofDatum raw record) := by
  cases raw with
  | table fields =>
      change StopsWith (firstBlame fields ⟨record, none⟩
        (Finding.blameFrom record 0 (messages (.table fields))) demands) _
      unfold demands ofDatum
      refine (rawMessages_stopsWith fields _).demand ?_
      intro raw listed
      refine (FieldKind.optional_stopsWith FieldKind.int_is fields _ _ 0).demand ?_
      intro errors someErrors
      refine (FieldKind.optional_stopsWith FieldKind.int_is fields _ _ 0).demand ?_
      intro warnings someWarnings
      have errorsRead := ((optional_int_eq_ok fields _ _ 0 errors).mp someErrors).2
      have warningsRead := ((optional_int_eq_ok fields _ _ 0 warnings).mp someWarnings).2
      refine (requireNatural_stopsWith _ errorsRead).demand fun _ _ => ?_
      refine (requireNatural_stopsWith _ warningsRead).demand fun _ _ => ?_
      refine (FieldKind.required_stopsWith FieldKind.text_is fields _ _).demand fun path _ => ?_
      obtain ⟨-, rfl⟩ := (rawMessages_eq_ok fields _ raw).mp listed
      -- The messages are read only once the record has met all demands.
      rw [firstBlame_nil, ← Option.or_none (o := Finding.blameFrom _ _ _)]
      refine (Finding.ofDataFrom_stopsWith record 0 _).bind fun findings _ => ?_
      exact stopsWith_ok _
  | _ => exact stopsWith_error _

theorem blame?_eq_some_iff (record : Option Int) (raw : Datum) (cause : Failure) :
    blame? record raw = some cause ↔ Blames record raw cause := by
  rw [blame?, Option.or_eq_some_iff, Finding.blameFrom_eq_some_iff, Option.map_eq_some_iff,
    Option.map_eq_none_iff]
  constructor
  · intro blamed
    rcases blamed with ⟨fault, own, rfl⟩ | ⟨sound, number, message, first, fault, found, rfl⟩
    · exact .record own
    · exact .message sound first found
  · intro blamed
    cases blamed with
    | record own => exact .inl ⟨_, own, rfl⟩
    | message sound first found => exact .inr ⟨sound, _, _, first, _, found, rfl⟩

theorem exists_error_iff (raw : Datum) (record : Option Int) :
    (∃ cause, ofDatum raw record = .error cause) ↔ accepts raw = false := by
  cases result : ofDatum raw record with
  | ok file =>
      have accepted := ((ofDatum_eq_ok raw record file).mp result).1
      simp [accepted]
  | error cause =>
      have refused : accepts raw = false := by
        apply Bool.eq_false_iff.mpr
        intro accepted
        rw [(ofDatum_eq_ok raw record _).mpr ⟨accepted, rfl⟩] at result
        cases result
      simp [refused]

theorem rejected_iff (raw : Datum) (record : Option Int) :
    Rejected raw ↔ ∃ cause, blame? record raw = some cause := by
  rw [Rejected, exists_error_iff raw none, ← exists_error_iff raw record]
  exact exists_congr (ofDatum_stopsWith raw record)

def blameFrom (start : Nat) (items : List Datum) : Option Failure :=
  (items.zipIdx start).findSome? fun (raw, place) => blame? (some (place : Int)) raw

theorem ofDataFrom_stopsWith (start : Nat) (items : List Datum) :
    StopsWith (blameFrom start items) (ofDataFrom start items) :=
  stopsWith_run (fun place raw => ofDatum raw (some (place : Int))) ofDataFrom _ (fun _ => rfl)
    (fun _ _ _ => rfl) (fun _ raw => ofDatum_stopsWith raw _) start items

theorem listOfDatum_eq_error_iff (items : List Datum) (cause : Failure) :
    listOfDatum (.list items) = .error cause ↔
      ∃ place item, IsFirst Rejected items place item ∧ Blames (some (place : Int)) item cause := by
  have stops := ofDataFrom_stopsWith 0 items cause
  have kind (raw : Datum) (place : Nat) :
      Rejected raw ↔ ∃ cause, blame? (some (place : Int)) raw = some cause := rejected_iff raw _
  rw [blameFrom, findSome?_zipIdx_eq_some_iff kind] at stops
  simp only [blame?_eq_some_iff] at stops
  exact stops

end FileFindings

section Moved

/-- The same spot when so many records are put in front. -/
def Spot.moved (places : Nat) (spot : Spot) : Spot :=
  { spot with record := spot.record.map (· + (places : Int)) }

def Failure.moved (places : Nat) : Failure → Failure
  | malformedResult field reason spot => .malformedResult field reason (spot.moved places)
  | unsupportedSeverity severity spot => .unsupportedSeverity severity (spot.moved places)
  | other => other

theorem Fault.moved_failure (places : Nat) (spot : Spot) (fault : Fault) :
    (fault.failure spot).moved places = fault.failure (spot.moved places) := by
  cases fault <;> rfl

theorem Fault.map_moved (places : Nat) (spot : Spot) (fault : Option Fault) :
    (fault.map (Fault.failure spot)).map (Failure.moved places) =
      fault.map (Fault.failure (spot.moved places)) := by
  cases fault with
  | none => rfl
  | some fault => exact congrArg some (fault.moved_failure places spot)

theorem Finding.blameFrom_moved (places : Nat) (record : Option Int) (raw : List Datum) :
    blameFrom (record.map (· + (places : Int))) 0 raw =
      (blameFrom record 0 raw).map (Failure.moved places) := by
  rw [blameFrom, blameFrom, List.map_findSome?]
  apply congrArg (fun search => List.findSome? search raw.zipIdx)
  apply funext
  intro entry
  exact (Fault.map_moved places ⟨record, some (entry.2 : Int)⟩ (fault? entry.1)).symm

theorem FileFindings.blame?_moved (places : Nat) (record : Option Int) (raw : Datum) :
    blame? (record.map (· + (places : Int))) raw =
      (blame? record raw).map (Failure.moved places) := by
  rw [blame?, blame?, Option.map_or, Finding.blameFrom_moved, Fault.map_moved]
  rfl

theorem FileFindings.blameFrom_moved (places : Nat) (items : List Datum) :
    blameFrom places items = (blameFrom 0 items).map (Failure.moved places) := by
  rw [blameFrom, blameFrom, List.map_findSome?, List.zipIdx_eq_map_add, List.findSome?_map]
  apply congrArg (fun search => List.findSome? search items.zipIdx)
  apply funext
  intro entry
  have sum : ((places + entry.2 : Nat) : Int) = (entry.2 : Int) + (places : Int) := by omega
  change blame? (some ((places + entry.2 : Nat) : Int)) entry.1 = _
  rw [sum]
  exact blame?_moved places (some (entry.2 : Int)) entry.1

theorem FileFindings.blameFrom_append (items others : List Datum) :
    blameFrom 0 (items ++ others) =
      (blameFrom 0 items).or ((blameFrom 0 others).map (Failure.moved items.length)) := by
  rw [← blameFrom_moved, blameFrom, List.zipIdx_append, List.findSome?_append, Nat.zero_add]
  rfl

end Moved

namespace FileFindings

theorem fault?_ne_unsupported (raw : Datum) (severity : Int) :
    fault? raw ≠ some (.unsupported severity) := by
  intro found
  cases raw with
  | table fields =>
      obtain ⟨demand, asked, unmet⟩ := List.exists_of_findSome?_eq_some found
      have known : demand = .known := Demand.eq_known_of_unsupported unmet
      rw [known] at asked
      exact absurd asked (by decide)
  | _ => cases found

theorem listOfDatum_append {items : List Datum} {files : List FileFindings}
    (read : listOfDatum (.list items) = .ok files) (others : List Datum) (cause : Failure) :
    listOfDatum (.list (items ++ others)) = .error cause ↔
      ∃ other, listOfDatum (.list others) = .error other ∧ cause = other.moved items.length := by
  have sound : blameFrom 0 items = none := by
    apply Option.eq_none_iff_forall_ne_some.mpr
    intro cause blamed
    have stopped := (ofDataFrom_stopsWith 0 items cause).mpr blamed
    cases read.symm.trans stopped
  have later (other : Failure) : listOfDatum (.list others) = .error other ↔
      blameFrom 0 others = some other := ofDataFrom_stopsWith 0 others other
  calc
    listOfDatum (.list (items ++ others)) = .error cause ↔
        blameFrom 0 (items ++ others) = some cause := ofDataFrom_stopsWith 0 (items ++ others) cause
    _ ↔ (blameFrom 0 others).map (Failure.moved items.length) = some cause := by
      rw [blameFrom_append, sound, Option.none_or]
    _ ↔ ∃ other, listOfDatum (.list others) = .error other ∧ cause = other.moved items.length := by
      simp only [Option.map_eq_some_iff, later, @eq_comm _ cause]

theorem exists_listOfDatum_error_iff (items : List Datum) :
    (∃ cause, listOfDatum (.list items) = .error cause) ↔ ∃ item ∈ items, Rejected item := by
  constructor
  · intro stopped
    obtain ⟨cause, stopped⟩ := stopped
    obtain ⟨place, item, first, -⟩ := (listOfDatum_eq_error_iff items cause).mp stopped
    exact ⟨item, first.mem, first.found⟩
  · intro someRejected
    obtain ⟨item, present, rejected⟩ := someRejected
    rw [Rejected, exists_error_iff] at rejected
    cases result : listOfDatum (.list items) with
    | error cause => exact ⟨cause, rfl⟩
    | ok files =>
        have all : items.all accepts = true := ((listOfDatum_eq_ok _ _).mp result).1
        rw [List.all_eq_true.mp all item present] at rejected
        cases rejected

/-- A severity is blamed only in a message that has it, and only if that is its first fault. -/
theorem blames_unsupported_iff (record : Option Int) (raw severity : Datum) (spot : Spot) :
    Blames record raw (.unsupportedSeverity severity spot) ↔
      ∃ number message n, fault? raw = none ∧
        IsFirst Finding.Rejected (messages raw) number message ∧
        Finding.fault? message = some (.unsupported n) ∧
        severity = .int n ∧ spot = ⟨record, some (number : Int)⟩ := by
  constructor
  · intro blamed
    generalize same : Failure.unsupportedSeverity severity spot = cause at blamed
    cases blamed with
    | record own =>
        obtain ⟨n, rfl, -, -⟩ := Fault.eq_unsupported_of_failure same.symm
        exact absurd own (fault?_ne_unsupported raw n)
    | message sound first found =>
        obtain ⟨n, rfl, shown, here⟩ := Fault.eq_unsupported_of_failure same.symm
        exact ⟨_, _, n, sound, first, found, shown, here⟩
  · intro found
    obtain ⟨number, message, n, sound, first, found, rfl, rfl⟩ := found
    exact .message sound first found

end FileFindings

section Told

def Fault.isShort : Fault → Bool
  | unsupported severity => isWritable severity
  | _ => true

theorem Fault.ofFailure_failure (fault : Fault) (spot : Spot) :
    Halt.ofFailure (fault.failure spot) =
      if fault.isShort then .failed (fault.failure spot) else .escaped .digitLimit := by
  cases fault with
  | unsupported severity =>
      cases short : isWritable severity <;>
        simp [Halt.ofFailure, Failure.obstacle?, isShort, failure, Failure.isShallow,
          Failure.isWritable, Datum.isWritable, Datum.nestsWithin, short]
  | _ => rfl

def Halt.moved (places : Nat) : Halt → Halt
  | failed cause => .failed (cause.moved places)
  | escaped cause => .escaped cause

theorem Halt.ofFailure_moved (places : Nat) (cause : Failure) :
    ofFailure (cause.moved places) = (ofFailure cause).moved places := by
  have same : (cause.moved places).obstacle? = cause.obstacle? := by cases cause <;> rfl
  rw [ofFailure, ofFailure, same]
  cases cause.obstacle? <;> rfl

theorem Halt.ofFailing_eq_error_iff {α : Type} (step : Except Failure α) (halt : Halt) :
    ofFailing step = .error halt ↔ ∃ cause, step = .error cause ∧ halt = ofFailure cause := by
  cases step with
  | ok result => simp [ofFailing]
  | error cause => simp [ofFailing, eq_comm]

end Told

namespace FileFindings

/-- What is to be blamed is a severity that is too long to be shown. -/
def HidesSeverity (items : List Datum) : Prop :=
  ∃ place item number message n, IsFirst Rejected items place item ∧ fault? item = none ∧
    IsFirst Finding.Rejected (messages item) number message ∧
    Finding.fault? message = some (.unsupported n) ∧ isWritable n = false

section Loading

variable (items : List Datum)

theorem ofDatum_eq_error_iff (halt : Halt) :
    Input.ofDatum (.list items) = .error halt ↔
      ∃ cause, listOfDatum (.list items) = .error cause ∧ halt = .ofFailure cause :=
  Halt.ofFailing_eq_error_iff (listOfDatum (.list items)) halt

theorem exists_ofDatum_error_iff :
    (∃ halt, Input.ofDatum (.list items) = .error halt) ↔ ∃ item ∈ items, Rejected item := by
  rw [← exists_listOfDatum_error_iff]
  constructor
  · rintro ⟨halt, stopped⟩
    obtain ⟨cause, blamed, -⟩ := (ofDatum_eq_error_iff items halt).mp stopped
    exact ⟨cause, blamed⟩
  · rintro ⟨cause, blamed⟩
    exact ⟨_, (ofDatum_eq_error_iff items _).mpr ⟨cause, blamed, rfl⟩⟩

theorem ofDatum_eq_escaped_iff (escape : Escape) :
    Input.ofDatum (.list items) = .error (.escaped escape) ↔
      escape = .digitLimit ∧ HidesSeverity items := by
  rw [ofDatum_eq_error_iff]
  constructor
  · rintro ⟨cause, stopped, hidden⟩
    obtain ⟨place, item, first, blamed⟩ := (listOfDatum_eq_error_iff items cause).mp stopped
    cases blamed with
    | @record fault own =>
        rw [Fault.ofFailure_failure] at hidden
        cases fault with
        | unsupported severity => exact absurd own (fault?_ne_unsupported item severity)
        | _ => cases hidden
    | @message number message fault sound firstMessage found =>
        rw [Fault.ofFailure_failure] at hidden
        cases fault with
        | unsupported severity =>
            cases short : isWritable severity with
            | true =>
                rw [Fault.isShort, short] at hidden
                cases hidden
            | false =>
                rw [Fault.isShort, short] at hidden
                cases hidden
                exact ⟨rfl, place, item, number, message, severity, first, sound, firstMessage, found,
                  short⟩
        | _ => cases hidden
  · rintro ⟨rfl, place, item, number, message, severity, first, sound, firstMessage, found, long⟩
    have blamed : Blames (some (place : Int)) item _ := .message sound firstMessage found
    refine ⟨_, (listOfDatum_eq_error_iff items _).mpr ⟨place, item, first, blamed⟩, ?_⟩
    rw [Fault.ofFailure_failure, Fault.isShort, long]
    rfl

theorem ofDatum_eq_failed_iff (cause : Failure) :
    Input.ofDatum (.list items) = .error (.failed cause) ↔
      ¬ HidesSeverity items ∧ listOfDatum (.list items) = .error cause := by
  rw [ofDatum_eq_error_iff]
  constructor
  · rintro ⟨other, stopped, told⟩
    cases Halt.eq_of_ofFailure told.symm
    refine ⟨?_, stopped⟩
    intro hides
    have escaped := (ofDatum_eq_escaped_iff items .digitLimit).mpr ⟨rfl, hides⟩
    have failed := (ofDatum_eq_error_iff items _).mpr ⟨cause, stopped, told⟩
    cases escaped.symm.trans failed
  · rintro ⟨shown, stopped⟩
    refine ⟨cause, stopped, ?_⟩
    cases told : Halt.ofFailure cause with
    | failed other => rw [Halt.eq_of_ofFailure told]
    | escaped escape =>
        have escaped := (ofDatum_eq_error_iff items _).mpr ⟨cause, stopped, told.symm⟩
        exact absurd ((ofDatum_eq_escaped_iff items escape).mp escaped).2 shown

theorem ofDatum_eq_unsupported_iff (severity : Datum) (spot : Spot) :
    Input.ofDatum (.list items) = .error (.failed (.unsupportedSeverity severity spot)) ↔
      ∃ place item number message n, IsFirst Rejected items place item ∧ fault? item = none ∧
        IsFirst Finding.Rejected (messages item) number message ∧
        Finding.fault? message = some (.unsupported n) ∧ isWritable n = true ∧
        severity = .int n ∧ spot = ⟨some (place : Int), some (number : Int)⟩ := by
  rw [ofDatum_eq_error_iff]
  constructor
  · rintro ⟨cause, stopped, told⟩
    cases Halt.eq_of_ofFailure told.symm
    obtain ⟨place, item, first, blamed⟩ := (listOfDatum_eq_error_iff items _).mp stopped
    obtain ⟨number, message, n, sound, firstMessage, found, rfl, rfl⟩ :=
      (blames_unsupported_iff _ _ _ _).mp blamed
    have short : (Fault.unsupported n).isShort = true := by
      by_contra long
      have hidden := (Fault.unsupported n).ofFailure_failure ⟨some (place : Int), some (number : Int)⟩
      rw [if_neg long] at hidden
      cases told.trans hidden
    exact ⟨place, item, number, message, n, first, sound, firstMessage, found, short, rfl, rfl⟩
  · rintro ⟨place, item, number, message, n, first, sound, firstMessage, found, short, rfl, rfl⟩
    have blamed : Blames (some (place : Int)) item _ := .message sound firstMessage found
    refine ⟨_, (listOfDatum_eq_error_iff items _).mpr ⟨place, item, first, blamed⟩, ?_⟩
    have told := (Fault.unsupported n).ofFailure_failure ⟨some (place : Int), some (number : Int)⟩
    exact (told.trans (if_pos short)).symm

variable {items} in
theorem ofDatum_append (read : ∃ files, Input.ofDatum (.list items) = .ok files)
    (others : List Datum) (halt : Halt) :
    Input.ofDatum (.list (items ++ others)) = .error halt ↔
      ∃ other, Input.ofDatum (.list others) = .error other ∧ halt = other.moved items.length := by
  obtain ⟨files, read⟩ := read
  have found : listOfDatum (.list items) = .ok files := by
    rw [Input.ofDatum] at read
    cases result : listOfDatum (.list items) with
    | ok other =>
        rw [result] at read
        exact congrArg Except.ok (Except.ok.inj read)
    | error cause =>
        rw [result] at read
        cases read
  rw [ofDatum_eq_error_iff]
  constructor
  · rintro ⟨cause, stopped, rfl⟩
    obtain ⟨other, later, rfl⟩ := (listOfDatum_append found others cause).mp stopped
    exact ⟨_, (ofDatum_eq_error_iff others _).mpr ⟨other, later, rfl⟩, Halt.ofFailure_moved _ _⟩
  · rintro ⟨other, stopped, rfl⟩
    obtain ⟨cause, later, rfl⟩ := (ofDatum_eq_error_iff others other).mp stopped
    refine ⟨cause.moved items.length, ?_, (Halt.ofFailure_moved _ _).symm⟩
    exact (listOfDatum_append found others _).mpr ⟨cause, later, rfl⟩

/--
A list of records fails if and only if one of them does, and the first that does is blamed, with
its place, if and only if it is not for a severity that is too long to be shown, for which no failure
is told at all. A fault of the record's own is told without a message, and otherwise the first message
that is no finding is blamed with its number; an unsupported severity is what is wrong if it is the
first fault of that message. Records that are read do not hide what follows them, but its places count
from the front.
-/
theorem ofDatum_blamesFirst_iff :
    ((∃ halt, Input.ofDatum (.list items) = .error halt) ↔ ∃ item ∈ items, Rejected item) ∧
      (∀ escape, Input.ofDatum (.list items) = .error (.escaped escape) ↔
        escape = .digitLimit ∧ HidesSeverity items) ∧
      (∀ cause, Input.ofDatum (.list items) = .error (.failed cause) ↔
        ¬ HidesSeverity items ∧
          ∃ place item, IsFirst Rejected items place item ∧ Blames (some (place : Int)) item cause) ∧
      (∀ severity spot,
        Input.ofDatum (.list items) = .error (.failed (.unsupportedSeverity severity spot)) ↔
          ∃ place item number message n, IsFirst Rejected items place item ∧ fault? item = none ∧
            IsFirst Finding.Rejected (messages item) number message ∧
            Finding.fault? message = some (.unsupported n) ∧ isWritable n = true ∧
            severity = .int n ∧ spot = ⟨some (place : Int), some (number : Int)⟩) ∧
      (∀ others, (∃ files, Input.ofDatum (.list items) = .ok files) → ∀ halt,
        Input.ofDatum (.list (items ++ others)) = .error halt ↔
          ∃ other, Input.ofDatum (.list others) = .error other ∧
            halt = other.moved items.length) := by
  refine ⟨exists_ofDatum_error_iff items, ofDatum_eq_escaped_iff items, ?_,
    ofDatum_eq_unsupported_iff items, fun others read => ofDatum_append read others⟩
  intro cause
  rw [ofDatum_eq_failed_iff, listOfDatum_eq_error_iff]

end Loading

/-- The last message and the last record are bad as well, but they come too late. -/
example :
    listOfDatum (.list [.table [("filePath", .text "a.js")],
      .table [("filePath", .text "b.js"), ("messages", .list [
        .table [("message", .text "Broken."), ("fatal", .bool true)],
        .table [("message", .text "Odd."), ("severity", .int 3)], .null])], .null]) =
      .error (.unsupportedSeverity (.int 3) ⟨some 1, some 1⟩) := rfl

def farSeverity : Int := (Nat.pow 10 digitLimit : Nat)

def farMessage : Datum :=
  .table [("message", .text "m"), ("severity", .int farSeverity), ("line", .int 1),
    ("column", .int 1)]

def farRecord : Datum := .table [("filePath", .text "a"), ("messages", .list [farMessage])]

/-- The severity is at fault, and no failure says so. -/
theorem not_blamesFirst_farSeverity :
    Blames (some 0) farRecord
        (.unsupportedSeverity (.int farSeverity) ⟨some 0, some 0⟩) ∧
      Input.ofDatum (.list [farRecord]) = .error (.escaped .digitLimit) := by
  have long : isWritable farSeverity = false := by decide +kernel
  have fault : Finding.fault? farMessage = some (.unsupported farSeverity) := by decide +kernel
  have sound : fault? farRecord = none := by decide +kernel
  have firstMessage : IsFirst Finding.Rejected (messages farRecord) 0 farMessage :=
    ⟨(Finding.rejected_iff farMessage).mpr ⟨_, fault⟩, [], [], rfl, rfl, fun _ none => by cases none⟩
  have blamed : Blames (some 0) farRecord
      (.unsupportedSeverity (.int farSeverity) ⟨some 0, some 0⟩) :=
    .message sound firstMessage fault
  have rejected : Rejected farRecord :=
    (rejected_iff farRecord (some 0)).mpr ⟨_, (blame?_eq_some_iff _ _ _).mpr blamed⟩
  have first : IsFirst Rejected [farRecord] 0 farRecord :=
    ⟨rejected, [], [], rfl, rfl, fun _ none => by cases none⟩
  exact ⟨blamed, (ofDatum_eq_escaped_iff _ _).mpr
    ⟨rfl, 0, farRecord, 0, farMessage, farSeverity, first, sound, firstMessage, fault, long⟩⟩

end FileFindings

end LintFindings

import LintFindings.Datum
import LintFindings.Number.Digits
import LintFindings.Number.Shortest
import LintFindings.Text.Quoted

/-!
Data as messages show them: plainly when they stand alone, and inside a list or table as a
literal from which their kind can be told.
-/

namespace LintFindings

def Date.shown (d : Date) : Text :=
  Text.ofNatPadded 4 d.year ++ '-' :: Text.ofNatPadded 2 d.month ++
    '-' :: Text.ofNatPadded 2 d.day

namespace TimeOfDay

def shown (t : TimeOfDay) : Text :=
  Text.ofNatPadded 2 t.hour ++ ':' :: Text.ofNatPadded 2 t.minute ++
    ':' :: Text.ofNatPadded 2 t.second ++
    if t.microsecond = 0 then [] else '.' :: Text.ofNatPadded 6 t.microsecond

def parts (t : TimeOfDay) : List Nat :=
  if t.microsecond ≠ 0 then [t.hour, t.minute, t.second, t.microsecond]
  else if t.second ≠ 0 then [t.hour, t.minute, t.second]
  else [t.hour, t.minute]

end TimeOfDay

namespace Datum

def offsetShown (minutes : Int) : Text :=
  (if minutes < 0 then '-' else '+') :: Text.ofNatPadded 2 (minutes.natAbs / 60) ++
    ':' :: Text.ofNatPadded 2 (minutes.natAbs % 60)

def call (name : String) (arguments : List Text) : Text :=
  name ++ '(' :: Text.join ", " arguments ++ [')']

/-- A negative offset counts back one day and forward seconds within it. -/
def offsetLiteral (minutes : Int) : Text :=
  if minutes = 0 then "datetime.timezone.utc"
  else
    let days : List Text := if minutes < 0 then ["days=-1"] else []
    let seconds := (minutes % 1440) * 60
    call "datetime.timezone"
      [call "datetime.timedelta" (days ++ [("seconds=" ++ Text.ofInt seconds : Text)])]

def dateParts (d : Date) : List Text := [d.year, d.month, d.day].map Text.ofNat

def momentLiteral (day : Date) (clock : TimeOfDay) (offset : Option Int) : Text :=
  let zone : List Text := match offset with
    | none => []
    | some minutes => [("tzinfo=" ++ offsetLiteral minutes : Text)]
  call "datetime.datetime" (dateParts day ++ clock.parts.map Text.ofNat ++ zone)

mutual

def literal : Datum → Text
  | null => "None"
  | bool true => "True"
  | bool false => "False"
  | int value => Text.ofInt value
  | float value => value.toText
  | text value => value.quoted
  | date day => call "datetime.date" (dateParts day)
  | time clock => call "datetime.time" (clock.parts.map Text.ofNat)
  | moment day clock offset => momentLiteral day clock offset
  | list items => '[' :: Text.join ", " (literals items) ++ [']']
  | table fields => '\x7b' :: Text.join ", " (fieldLiterals fields) ++ ['\x7d']

def literals : List Datum → List Text
  | [] => []
  | item :: items => literal item :: literals items

def fieldLiterals : List (Text × Datum) → List Text
  | [] => []
  | (key, value) :: fields => (key.quoted ++ ": " ++ literal value) :: fieldLiterals fields

end

mutual

def isWritable : Datum → Bool
  | int value => LintFindings.isWritable value
  | list items => areWritable items
  | table fields => fieldsAreWritable fields
  | _ => true

def areWritable : List Datum → Bool
  | [] => true
  | item :: items => isWritable item && areWritable items

def fieldsAreWritable : List (Text × Datum) → Bool
  | [] => true
  | (_, value) :: fields => isWritable value && fieldsAreWritable fields

end

mutual

def nestsWithin (room : Nat) : Datum → Bool
  | list items => 0 < room && nestWithin (room - 1) items
  | table fields => 0 < room && fieldsNestWithin (room - 1) fields
  | _ => true

def nestWithin (room : Nat) : List Datum → Bool
  | [] => true
  | item :: items => nestsWithin room item && nestWithin room items

def fieldsNestWithin (room : Nat) : List (Text × Datum) → Bool
  | [] => true
  | (_, value) :: fields => nestsWithin room value && fieldsNestWithin room fields

end

/-- Fixed like the room for reading, for calls of the library and runs of the command alike. -/
def shownNestingRoom : Nat := 975

def shown : Datum → Text
  | text value => value
  | date day => day.shown
  | time clock => clock.shown
  | moment day clock none => day.shown ++ ' ' :: clock.shown
  | moment day clock (some minutes) => day.shown ++ ' ' :: clock.shown ++ offsetShown minutes
  | other => literal other

end Datum

end LintFindings

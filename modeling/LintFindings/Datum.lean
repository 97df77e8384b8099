import LintFindings.Number.Binary64
import LintFindings.Text.Basic

/-! Data as they are read from a JSON text or a TOML document, before anything is known of them. -/

namespace LintFindings

structure Date where
  year : Nat
  month : Nat
  day : Nat
  deriving DecidableEq, Repr, Inhabited

structure TimeOfDay where
  hour : Nat
  minute : Nat
  second : Nat
  microsecond : Nat
  deriving DecidableEq, Repr, Inhabited

inductive Datum where
  | null
  | bool (value : Bool)
  | int (value : Int)
  | float (value : Binary64)
  | text (value : Text)
  | date (day : Date)
  | time (clock : TimeOfDay)
  /-- The offset counts minutes; without one the moment is local. -/
  | moment (day : Date) (clock : TimeOfDay) (offset : Option Int)
  | list (items : List Datum)
  | table (fields : List (Text × Datum))
  deriving Repr, Inhabited

abbrev Fields := List (Text × Datum)

namespace Fields

def get? (fields : Fields) (key : Text) : Option Datum := fields.lookup key

/-- A name already present keeps its place and gets the new datum; a new one goes to the end. -/
def put (fields : Fields) (key : Text) (value : Datum) : Fields :=
  match fields with
  | [] => [(key, value)]
  | (k, v) :: rest => if k = key then (key, value) :: rest else (k, v) :: put rest key value

def merge (older newer : Fields) : Fields :=
  newer.foldl (fun fields (key, value) => fields.put key value) older

def remove (fields : Fields) (key : Text) : Fields := fields.filter (fun (k, _) => k ≠ key)

def keys (fields : Fields) : List Text := fields.map Prod.fst

def ofPairs (pairs : List (Text × Datum)) : Fields := merge [] pairs

theorem get?_put_same (fields : Fields) (key : Text) (value : Datum) :
    (fields.put key value).get? key = some value := by
  induction fields with
  | nil => simp [put, get?]
  | cons field rest ih =>
    obtain ⟨k, v⟩ := field
    by_cases same : k = key
    · simp [put, same, get?]
    · simpa [put, same, get?, List.lookup_cons, beq_false_of_ne (Ne.symm same)] using ih

theorem get?_put_other (fields : Fields) {key other : Text} (value : Datum) (h : other ≠ key) :
    (fields.put key value).get? other = fields.get? other := by
  induction fields with
  | nil => simp [put, get?, List.lookup_cons, beq_false_of_ne h]
  | cons field rest ih =>
    obtain ⟨k, v⟩ := field
    by_cases same : k = key
    · simp [put, same, get?, List.lookup_cons, beq_false_of_ne h]
    · by_cases here : other = k
      · simp [put, same, get?, here]
      · simpa [put, same, get?, List.lookup_cons, beq_false_of_ne here] using ih

end Fields

namespace Datum

def isTruthy : Datum → Bool
  | null => false
  | bool value => value
  | int value => value ≠ 0
  | float (.finite _ 0 _) => false
  | text [] => false
  | list [] => false
  | table [] => false
  | _ => true

end Datum

end LintFindings

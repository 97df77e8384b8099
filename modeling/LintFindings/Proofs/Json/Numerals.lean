import LintFindings.Json.Reader

/-!
Reading a number in two steps: its parts are taken off the text, and only then it is found out which
datum they stand for and whether they are too long.
-/

namespace LintFindings.Json

/-- A number as it is written: sign, digits before and after the point, and exponent. -/
structure Numeral where
  negative : Bool
  digits : Text
  fraction : Text
  exponent : Option Int

namespace Numeral

def decimal (numeral : Numeral) (exponent : Int) : Datum :=
  .float (.ofDecimal numeral.negative (Text.toNat (numeral.digits ++ numeral.fraction))
    (exponent - numeral.fraction.length))

def integer (numeral : Numeral) : Int :=
  if numeral.negative then -(Text.toNat numeral.digits : Int) else Text.toNat numeral.digits

def datum (numeral : Numeral) : Except Refusal Datum :=
  match numeral.exponent with
  | some exponent => .ok (numeral.decimal exponent)
  | none =>
    if numeral.fraction ≠ [] then .ok (numeral.decimal 0)
    else if digitLimit < numeral.digits.length then .error .digitLimit
    else .ok (.int numeral.integer)

theorem digitLimit_of_datum {numeral : Numeral} {refusal : Refusal}
    (refused : numeral.datum = .error refusal) : refusal = .digitLimit := by
  unfold datum at refused
  split at refused
  next => cases refused
  next =>
    split at refused
    next => cases refused
    next =>
      split at refused
      next => exact (Except.error.inj refused).symm
      next => cases refused

end Numeral

def minusOf : Text → Bool × Text
  | '-' :: rest => (true, rest)
  | t => (false, t)

def numeral? (t : Text) : Option (Numeral × Text) :=
  let (negative, rest) := minusOf t
  let (digits, rest) := wholeDigits rest
  if digits = [] then none
  else
    let (fraction, rest) := fractionDigits rest
    match exponent? rest with
    | some (exponent, rest) => some (⟨negative, digits, fraction, some exponent⟩, rest)
    | none => some (⟨negative, digits, fraction, none⟩, rest)

theorem number_eq (whole : Text) :
    number whole =
      match numeral? whole with
      | none => .error (.malformed .value whole)
      | some (numeral, rest) => numeral.datum.map (·, rest) := by
  unfold number
  split
  next negative unsigned sign =>
    have same : minusOf whole = (negative, unsigned) := by
      split at sign
      next rest => exact sign
      next noMinus =>
        unfold minusOf
        split
        next rest => exact absurd rfl (noMinus rest)
        next => exact sign
    simp only [numeral?, same]
    cases wholeDigits unsigned with
    | mk digits rest =>
        dsimp only
        split
        next => rfl
        next =>
          cases fractionDigits rest with
          | mk fraction rest =>
              dsimp only
              cases exponent? rest with
              | some found => rfl
              | none =>
                  simp only [Numeral.datum]
                  split
                  next => rfl
                  next => split <;> rfl

end LintFindings.Json

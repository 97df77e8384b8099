/-!
Numbers of the binary64 format in exact integer arithmetic, and the one nearest to a decimal.
-/

namespace LintFindings

/--
A finite number is `mantissa * 2 ^ exponent`. Its mantissa has 53 bits, or fewer at the least
exponent, -1074, where the format has no room for more.
-/
inductive Binary64 where
  | nan
  | infinite (negative : Bool)
  | finite (negative : Bool) (mantissa : Nat) (exponent : Int)
  deriving DecidableEq, Repr, Inhabited

namespace Binary64

def leastExponent : Int := -1074

def greatestExponent : Int := 971

def leastFull : Nat := 0x10000000000000

def roundDiv (num den : Nat) : Nat :=
  let floor := num / den
  let twice := 2 * (num % den)
  if den < twice ∨ (twice = den ∧ floor % 2 = 1) then floor + 1 else floor

def scaleDown (base num den : Nat) (exponent : Int) : Nat × Nat :=
  if 0 ≤ exponent then (num, den * Nat.pow base exponent.toNat)
  else (num * Nat.pow base (-exponent).toNat, den)

/-- The exponent at which a positive fraction has a quotient of 53 bits. -/
def exponentFor (num den : Nat) : Int :=
  let guess : Int := (num.log2 : Int) - den.log2 - 52
  let (n, d) := scaleDown 2 num den guess
  if n / d < leastFull then guess - 1 else guess

def ofFraction (negative : Bool) (num den : Nat) : Binary64 :=
  let exponent := max (exponentFor num den) leastExponent
  let (n, d) := scaleDown 2 num den exponent
  let rounded := roundDiv n d
  let (mantissa, exponent) :=
    if rounded = 2 * leastFull then (leastFull, exponent + 1) else (rounded, exponent)
  if greatestExponent < exponent then infinite negative else finite negative mantissa exponent

/--
The number nearest to `digits * 10 ^ exponent`. Beyond 310 digits before the point it is infinite,
and with 330 zeros after the point it is zero, so no power larger than these is ever taken.
-/
def ofDecimal (negative : Bool) (digits : Nat) (exponent : Int) : Binary64 :=
  let magnitude : Int := (Nat.toDigits 10 digits).length + exponent
  if digits = 0 ∨ magnitude < -330 then finite negative 0 leastExponent
  else if 310 < magnitude then infinite negative
  else if 0 ≤ exponent then ofFraction negative (digits * Nat.pow 10 exponent.toNat) 1
  else ofFraction negative digits (Nat.pow 10 (-exponent).toNat)

end Binary64

end LintFindings

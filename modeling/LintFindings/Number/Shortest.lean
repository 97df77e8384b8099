import LintFindings.Number.Binary64
import LintFindings.Text.Basic

/-!
Decimal texts of binary64 numbers: the fewest digits that read back as the same number, and of
those the nearest, laid out around a point or an exponent.
-/

namespace LintFindings

namespace Binary64

/--
The decimals that read back as `mantissa * 2 ^ exponent`, as multiples of `2 ^ (exponent - 2)`:
half a unit on each side, but only a quarter below a power of two. The ends belong to it when
the mantissa is even.
-/
structure Interval where
  low : Nat
  middle : Nat
  high : Nat
  closed : Bool
  deriving DecidableEq, Repr

def interval (mantissa : Nat) (exponent : Int) : Interval where
  low := if mantissa = leastFull ∧ leastExponent < exponent then 4 * mantissa - 1
    else 4 * mantissa - 2
  middle := 4 * mantissa
  high := 4 * mantissa + 2
  closed := mantissa % 2 == 0

def Interval.onGrid (i : Interval) (exponent grid : Int) : Interval × Nat :=
  let two := exponent - 2
  let scale := Nat.pow 2 two.toNat * Nat.pow 10 (-grid).toNat
  let step := Nat.pow 2 (-two).toNat * Nat.pow 10 grid.toNat
  ({ i with low := i.low * scale, middle := i.middle * scale, high := i.high * scale }, step)

def Interval.holds (i : Interval) (x : Nat) : Bool :=
  if i.closed then i.low ≤ x && x ≤ i.high else i.low < x && x < i.high

/-- The multiple of `10 ^ grid` that reads back and is nearest, an even one of two equally near. -/
def nearestOnGrid? (i : Interval) (exponent grid : Int) : Option Nat :=
  let (i, step) := i.onGrid exponent grid
  let below := i.middle / step
  let above := below + 1
  match i.holds (below * step), i.holds (above * step) with
  | false, false => none
  | true, false => some below
  | false, true => some above
  | true, true =>
    let down := i.middle - below * step
    let up := above * step - i.middle
    if down < up ∨ (down = up ∧ below % 2 = 0) then some below else some above

def shortest (mantissa : Nat) (exponent : Int) : Nat × Int :=
  let i := interval mantissa exponent
  let grids := (List.range 650).map (fun (k : Nat) => (310 : Int) - k)
  (grids.findSome? (fun grid => (nearestOnGrid? i exponent grid).map (·, grid))).getD (0, 0)

end Binary64

structure NumberLayout where
  leastPoint : Int
  greatestPoint : Int
  exponentDigits : Nat
  deriving DecidableEq, Repr

/-- Positional from 0.0001 to below 10 to the 16th; an exponent has a sign and two digits. -/
def plainLayout : NumberLayout := ⟨-3, 16, 2⟩

namespace NumberLayout

def exponentText (layout : NumberLayout) (exponent : Int) : Text :=
  'e' :: (if exponent < 0 then '-' else '+') ::
    Text.ofNatPadded layout.exponentDigits exponent.natAbs

/-- Writes `digits * 10 ^ exponent`; without an exponent there is always a digit after the point. -/
def write (layout : NumberLayout) (digits : Nat) (exponent : Int) : Text :=
  let shown := Text.ofNat digits
  let point : Int := shown.length + exponent
  if layout.leastPoint ≤ point ∧ point ≤ layout.greatestPoint then
    if point ≤ 0 then "0." ++ List.replicate (-point).toNat '0' ++ shown
    else if point < shown.length then shown.take point.toNat ++ '.' :: shown.drop point.toNat
    else shown ++ List.replicate exponent.toNat '0' ++ ".0"
  else
    let fraction := shown.drop 1
    shown.take 1 ++ (if fraction = [] then [] else '.' :: fraction) ++
      layout.exponentText (point - 1)

end NumberLayout

namespace Binary64

def signText (negative : Bool) : Text := if negative then ['-'] else []

def toText : Binary64 → Text
  | nan => "nan"
  | infinite negative => signText negative ++ "inf"
  | finite negative 0 _ => signText negative ++ "0.0"
  | finite negative mantissa exponent =>
    let (digits, grid) := shortest mantissa exponent
    signText negative ++ plainLayout.write digits grid

end Binary64

end LintFindings

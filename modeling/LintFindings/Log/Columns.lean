import LintFindings.Text.Basic

/-!
Widths of the columns of a row. All columns but one are as wide as what is in them, and that one
takes the room that is left; where there is too little room the widest columns give way first.
-/

namespace LintFindings

structure Column where
  natural : Nat
  padding : Nat
  flexible : Bool
  deriving DecidableEq, Repr

namespace Column

def total (widths : List Nat) : Nat := widths.foldl (· + ·) 0

def measured (room : Nat) (column : Column) : Nat := min (column.natural + column.padding) room

def share (amount among : Nat) : Nat :=
  let quotient := amount / among
  let rest := 2 * (amount % among)
  if rest < among then quotient else if among < rest then quotient + 1 else quotient + quotient % 2

/--
Takes an amount away from widths in equal shares. Each comes with the most that it can give, and
`sharers` of them can give something.
-/
def takeAway (amount sharers : Nat) : List (Nat × Nat) → List Nat
  | [] => []
  | (width, most) :: rest =>
    if most = 0 then width :: takeAway amount sharers rest
    else
      let given := min most (share amount sharers)
      (width - given) :: takeAway (amount - given) (sharers - 1) rest

def giveWay (room : Nat) (widths : List Nat) : List Nat :=
  let excess := total widths - room
  let widest := widths.foldl max 0
  let second := (widths.filter (· != widest)).foldl max 0
  let most := min excess (widest - second)
  takeAway excess (widths.count widest)
    (widths.map (fun width => (width, if width = widest then most else 0)))

def collapse (room : Nat) : Nat → List Nat → List Nat
  | 0, widths => widths
  | steps + 1, widths =>
    if total widths ≤ room then widths else collapse room steps (giveWay room widths)

def wished (room : Nat) (columns : List Column) : List Nat :=
  let fixed := columns.map (fun column => if column.flexible then 0 else column.measured room)
  columns.map fun column =>
    if column.flexible then max (1 + column.padding) (room - total fixed)
    else column.measured room

/-- Columns that had to give way are measured again, since they may need less than they got. -/
def widths (room : Nat) (columns : List Column) : List Nat :=
  let wanted := wished room columns
  if total wanted ≤ room then wanted
  else
    (columns.zip (collapse room (total wanted) wanted)).map
      (fun (column, width) => column.measured width)

end Column

end LintFindings

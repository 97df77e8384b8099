import LintFindings.Text.Basic

/-! Classes of characters, given by the runs of code points that belong to them. -/

namespace LintFindings

abbrev Runs := List (Nat × Nat)

namespace Runs

def contain : Runs → Nat → Bool
  | [], _ => false
  | (first, last) :: runs, n => first ≤ n && (n ≤ last || contain runs n)

end Runs

def isInRuns (runs : Runs) (c : Char) : Bool := runs.contain c.toNat

end LintFindings

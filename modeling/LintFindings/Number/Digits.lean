/-! How long an integer may be in decimal, when it is read and when it is written. -/

namespace LintFindings

/-- The most decimal digits an integer may have, whatever its sign. -/
def digitLimit : Nat := 4300

def isWritable (n : Int) : Bool := n.natAbs < Nat.pow 10 digitLimit

end LintFindings

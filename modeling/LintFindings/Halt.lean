import LintFindings.Failure
import LintFindings.Files.Tree

/-! How an operation stops short of its result: with a failure it can tell of, or without one. -/

namespace LintFindings

/-- What ends an operation without being one of its failures. -/
inductive Escape where
  | notUtf8
  | digitLimit
  | nestingLimit
  /-- The environment gives a size of the terminal in digits that make no number. -/
  | unreadableSize
  | noHome
  /-- What is to be printed holds half of a surrogate pair. -/
  | unencodable
  | path (fault : PathFault)
  deriving DecidableEq, Repr

inductive Halt where
  | failed (cause : Failure)
  | escaped (cause : Escape)
  deriving Repr

def Failure.obstacle? (cause : Failure) : Option Escape :=
  if cause.isShallow = false then some .nestingLimit
  else if cause.isWritable = false then some .digitLimit
  else none

namespace Halt

/-- A failure that cannot be told is none. -/
def ofFailure (cause : Failure) : Halt :=
  match cause.obstacle? with
  | some obstacle => .escaped obstacle
  | none => .failed cause

def ofFailing {α : Type} : Except Failure α → Except Halt α
  | .ok result => .ok result
  | .error cause => .error (ofFailure cause)

end Halt

end LintFindings

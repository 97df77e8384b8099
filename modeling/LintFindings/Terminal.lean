import LintFindings.Halt
import LintFindings.Text.Numeral

/-!
What the environment says of a terminal: whether there is one, what it can do, and how large it is.
-/

namespace LintFindings

abbrev Variables := Text → Option Text

namespace Terminal

def variableNames : List Text :=
  ["TTY_COMPATIBLE", "FORCE_COLOR", "TERM", "NO_COLOR", "COLUMNS", "LINES"]

/-- Two variables overrule what the stream says of itself. -/
def isTerminal (values : Variables) (stream : Bool) : Bool :=
  match values "TTY_COMPATIBLE" with
  | some ['0'] => false
  | some ['1'] => true
  | _ =>
    match values "FORCE_COLOR" with
    | some value => value != []
    | none => stream

def isDumb (values : Variables) : Bool :=
  Text.isOneOf ["dumb", "unknown"] ((values "TERM").getD []).lower

def forbidsColor (values : Variables) : Bool := ((values "NO_COLOR").getD []) != []

/-- A size that a variable gives; what does not look like a number is passed over. -/
def size? (values : Variables) (name : Text) : Except Escape (Option Nat) :=
  match values name with
  | none => .ok none
  | some value =>
    if value.looksLikeNumber = false then .ok none
    else match value.number? with
      | some n => .ok (some n)
      | none => .error .unreadableSize

end Terminal

inductive Coloring where
  | plain
  | attributes
  | full
  deriving DecidableEq, Repr

def Coloring.ofTerminal (values : Variables) (stream : Bool) : Coloring :=
  if Terminal.isTerminal values stream && !Terminal.isDumb values then
    if Terminal.forbidsColor values then .attributes else .full
  else .plain

structure Screen where
  columns : Option Nat
  lines : Option Nat
  coloring : Coloring
  deriving DecidableEq, Repr

namespace Screen

def ofTerminal (values : Variables) (stream : Bool) : Except Escape Screen := do
  let columns ← Terminal.size? values "COLUMNS"
  let lines ← Terminal.size? values "LINES"
  return ⟨columns, lines, .ofTerminal values stream⟩

def showsColor (screen : Screen) : Bool := screen.coloring == .full

def unsized : Screen := ⟨none, none, .plain⟩

def defaultWidth : Nat := 80

/--
The number of cells in a row at the time of printing. Unless both sizes are fixed they are looked up
again, except for a terminal that can only print, and columns that are fixed come first then.
-/
def width (screen : Screen) (values : Variables) (stream : Bool) : Except Escape Nat :=
  match screen.columns, screen.lines with
  | some columns, some _ => .ok columns
  | fixed, _ =>
    if Terminal.isTerminal values stream && Terminal.isDumb values then .ok defaultWidth
    else do
      let now ← ofTerminal values stream
      let found := now.columns.getD 0
      return fixed.getD (if found = 0 then defaultWidth else found)

end Screen

end LintFindings

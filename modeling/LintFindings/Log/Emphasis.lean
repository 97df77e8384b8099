import LintFindings.Styler

/-!
How stretches of a console text are set off. An emphasis says something of a few properties and
leaves the others alone, so that several can lie over each other.
-/

namespace LintFindings

structure Emphasis where
  bold : Option Bool
  dim : Option Bool
  italic : Option Bool
  underline : Option Bool
  reverse : Option Bool
  color : Option Nat
  deriving DecidableEq, Repr

namespace Emphasis

def none : Emphasis := ⟨.none, .none, .none, .none, .none, .none⟩

def ofColor (color : Nat) : Emphasis := { none with color := some color }

def within (inner outer : Emphasis) : Emphasis where
  bold := inner.bold.or outer.bold
  dim := inner.dim.or outer.dim
  italic := inner.italic.or outer.italic
  underline := inner.underline.or outer.underline
  reverse := inner.reverse.or outer.reverse
  color := inner.color.or outer.color

def combined (emphases : List Emphasis) : Emphasis :=
  emphases.foldl (fun outer inner => inner.within outer) none

def attributeCodes (e : Emphasis) : List Nat :=
  let when (property : Option Bool) (code : Nat) : List Nat :=
    if property = some true then [code] else []
  when e.bold 1 ++ when e.dim 2 ++ when e.italic 3 ++ when e.underline 4 ++ when e.reverse 7

def codes (coloring : Coloring) (e : Emphasis) : List Nat :=
  match coloring with
  | .plain => []
  | .attributes => e.attributeCodes
  | .full => e.attributeCodes ++ e.color.toList

end Emphasis

end LintFindings

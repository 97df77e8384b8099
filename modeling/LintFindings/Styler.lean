import LintFindings.Terminal

/-!
Stylers decorate the parts of a report. A styler in color puts escape codes around a text; whether
color is wanted is decided from the surroundings once, when the styler is chosen.
-/

namespace LintFindings

structure Styler where
  name : Text
  error : Text → Text
  warning : Text → Text
  errorLabel : Text → Text
  warningLabel : Text → Text
  path : Text → Text
  muted : Text → Text

namespace Styler

def plain : Styler := ⟨"PlainStyler", id, id, id, id, id, id⟩

def escapeChar : Char := '\x1b'

def styleOn (codes : Text) : Text := escapeChar :: '[' :: codes ++ ['m']

def styleOff : Text := styleOn "0"

/-- A text in a style; an empty text stays empty. -/
def styled (codes : Text) (t : Text) : Text :=
  if t = [] then [] else styleOn codes ++ t ++ styleOff

def colored : Styler where
  name := "RichStyler(enabled=True)"
  error := styled "1;31"
  warning := styled "1;33"
  errorLabel := styled "31"
  warningLabel := styled "33"
  path := styled "4"
  muted := styled "2"

/-- A styler that can color but has been told not to. -/
def uncolored : Styler := { plain with name := "RichStyler(enabled=False)" }

def ofChoice (color : Bool) : Styler := if color then colored else uncolored

def tagging (tags : List (Text × Text × Text)) : Styler :=
  let around (part : String) (t : Text) : Text :=
    match tags.lookup part.toList with
    | some (opening, closing) => opening ++ t ++ closing
    | none => t
  { name := "TagStyler", error := around "error", warning := around "warning",
    errorLabel := around "error_label", warningLabel := around "warning_label",
    path := around "path", muted := around "muted" }

end Styler

namespace Styler

def picksColor (color : Option Bool) (values : Variables) (stream : Bool) : Except Escape Bool :=
  match color with
  | some color => .ok color
  | none => (Screen.ofTerminal values stream).map Screen.showsColor

def choose (color : Option Bool) (values : Variables) (stream : Bool) : Except Escape Styler :=
  (picksColor color values stream).map ofChoice

end Styler

end LintFindings

import LintFindings.Log.Glyph

/-!
Lines cut into stretches that are set off as a whole. Escape codes stand around each of them, so
that a text which lies across two of them cannot be found in what is printed.
-/

namespace LintFindings

structure Segment where
  text : Text
  emphasis : Emphasis
  deriving DecidableEq, Repr

namespace Segment

def blank (width : Nat) : Segment := ⟨List.replicate width ' ', .none⟩

def inside (outer : Emphasis) (s : Segment) : Segment :=
  { s with emphasis := s.emphasis.within outer }

def shown (coloring : Coloring) (s : Segment) : Text :=
  match s.emphasis.codes coloring with
  | [] => s.text
  | codes => Styler.styled (Text.join ";" (codes.map Text.ofNat)) s.text

def cells (s : Segment) : Nat := s.text.cells

def ofGlyphs (glyphs : List Glyph) : List Segment :=
  (glyphs.splitBy (fun a b => a.marks == b.marks)).map fun group =>
    ⟨Glyph.text group, .combined ((group.head?.elim [] Glyph.marks).map Span.label)⟩

def total (line : List Segment) : Nat := line.foldl (fun n s => n + s.cells) 0

def crop (room : Nat) : List Segment → Option (List Segment)
  | [] => some []
  | s :: rest =>
    if s.cells < room then (crop (room - s.cells) rest).map (s :: ·)
    else (s.text.fit room).map (fun text => [{ s with text }])

def limit (width : Nat) (line : List Segment) : Option (List Segment) :=
  if width < total line then crop width line else some line

/--
Brings a line to a width. Its segments may take other cells than their text as a whole, where a
cluster is taken apart.
-/
def fill (width : Nat) (line : List Segment) : Option (List Segment) :=
  if total line < width then some (line ++ [blank (width - total line)]) else limit width line

end Segment

end LintFindings

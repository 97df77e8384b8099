import LintFindings.Log.Emphasis
import LintFindings.Text.Blank
import LintFindings.Text.Cluster
import LintFindings.Text.Pattern

/-!
Marked texts: characters with the marks that lie on them, and how they are cut, cropped and freed of
tabs without losing a mark.
-/

namespace LintFindings

structure Glyph where
  char : Char
  marks : List (Span Emphasis)
  deriving DecidableEq, Repr

namespace Glyph

def ofText (t : Text) : List Glyph := t.map (fun c => ⟨c, []⟩)

def text (glyphs : List Glyph) : Text := glyphs.map Glyph.char

def blanks (count : Nat) : List Glyph := List.replicate count ⟨' ', []⟩

/--
Puts a layer of marks on glyphs, of which the first has a given number. The marks come in order and
do not overlap.
-/
def markFrom (index : Nat) (done : List Glyph) : List (Span Emphasis) → List Glyph → List Glyph
  | _, [] => done.reverse
  | [], glyphs => done.reverse ++ glyphs
  | mark :: marks, glyph :: glyphs =>
    if index < mark.start then markFrom (index + 1) (glyph :: done) (mark :: marks) glyphs
    else
      markFrom (index + 1) ({ glyph with marks := glyph.marks ++ [mark] } :: done)
        (if index + 1 < mark.stop then mark :: marks else marks) glyphs

def mark (marks : List (Span Emphasis)) (glyphs : List Glyph) : List Glyph :=
  markFrom 0 [] marks glyphs

def markAll (emphasis : Emphasis) (glyphs : List Glyph) : List Glyph :=
  mark [⟨emphasis, 0, glyphs.length⟩] glyphs

def linesFrom (line : List Glyph) : List Glyph → List (List Glyph)
  | [] => [line.reverse]
  | glyph :: rest =>
    if glyph.char = '\n' then line.reverse :: linesFrom [] rest else linesFrom (glyph :: line) rest

def lines (glyphs : List Glyph) : List (List Glyph) := linesFrom [] glyphs

/--
Every eighth cell is a tab stop. `used` cells are taken by the parts up to the last tab, and `part`
is open and read backwards. A tab is at least one blank.
-/
def expandTabsFrom (used : Nat) (part : List Glyph) : List Glyph → List Glyph
  | [] => part.reverse
  | glyph :: rest =>
    if glyph.char = '\t' then
      let blank := { glyph with char := ' ' }
      let whole := (blank :: part).reverse
      let reached := used + (text whole).cells
      let more := (8 - reached % 8) % 8
      whole ++ List.replicate more blank ++ expandTabsFrom (reached + more) [] rest
    else expandTabsFrom used (glyph :: part) rest

def expandTabs (glyphs : List Glyph) : List Glyph := expandTabsFrom 0 [] glyphs

def cutAt (passed : Nat) (glyphs : List Glyph) : List Nat → List (List Glyph)
  | [] => [glyphs]
  | place :: places =>
    glyphs.take (place - passed) :: cutAt place (glyphs.drop (place - passed)) places

def giveUpBlanks (width : Nat) (glyphs : List Glyph) : List Glyph :=
  let excess := glyphs.length - width
  let trailing := (glyphs.reverse.takeWhile (fun glyph => isBlank glyph.char)).length
  glyphs.take (glyphs.length - min trailing excess)

/-- Crops to a number of cells; a blank stands for a wide character that goes in only by half. -/
def crop (width : Nat) (glyphs : List Glyph) : Option (List Glyph) :=
  ((text glyphs).fitting width).map fun (kept, blanks) =>
    let half := (glyphs.drop kept).head?.elim [] Glyph.marks
    glyphs.take kept ++ List.replicate blanks ⟨' ', half⟩

end Glyph

end LintFindings

import LintFindings.Log.Columns
import LintFindings.Log.Segment
import LintFindings.Log.Wrap

/-!
Cells of a row. Each is laid out in the width of its column, and all of them get as many lines as
the longest; where a line cannot be brought to its width there is no row.
-/

namespace LintFindings

structure Cell where
  content : List Glyph
  emphasis : Emphasis
  overflow : Overflow
  padding : Nat
  flexible : Bool

namespace Cell

def isDropped (c : Char) : Bool :=
  c == '\x07' || c == '\x08' || c == '\x0b' || c == '\x0c' || c == '\r'

def endsLine (c : Char) : Bool :=
  c == '\n' || c == '\x1c' || c == '\x1d' || c == '\x1e' || c == '\u0085' || c == '\u2028' ||
    c == '\u2029'

def column (cell : Cell) : Column :=
  let lines := (Glyph.text cell.content).splitBy (fun a _ => !endsLine a)
  let natural := (lines.map (fun line => Text.cells (line.filter (!endsLine ·)))).foldl max 0
  ⟨natural, cell.padding, cell.flexible⟩

/--
A line with the blanks after it. Cropping can leave it too short or too long, and then it is brought
to its width once more.
-/
def padded (width : Nat) (cell : Cell) (line : List Glyph) : Option (List Segment) := do
  let line ← Segment.fill (width - cell.padding) (Segment.ofGlyphs line)
  let padding := if cell.padding = 0 then [] else [Segment.blank cell.padding]
  let line ← Segment.fill width ((line ++ padding).map (Segment.inside cell.emphasis))
  Segment.fill width line

def lines (width : Nat) (cell : Cell) : Option (List (List Segment)) :=
  let room := width - cell.padding
  if room = 0 then some []
  else (Wrap.lines room cell.overflow cell.content).bind (List.mapM (cell.padded width))

end Cell

structure PlacedCell where
  width : Nat
  emphasis : Emphasis
  lines : List (List Segment)

namespace PlacedCell

def filled (height : Nat) (cell : PlacedCell) : List (List Segment) :=
  let blank := Segment.blank cell.width
  let below := if height = 0 then blank else blank.inside cell.emphasis
  cell.lines ++ List.replicate (max 1 height - cell.lines.length) [below]

end PlacedCell

namespace Cell

def joinLines : List (List (List Segment)) → List (List Segment)
  | [] => []
  | first :: columns => columns.foldl (List.zipWith (· ++ ·)) first

def row (width : Nat) (coloring : Coloring) (cells : List Cell) : Option Text :=
  if width = 0 then some []
  else do
    let placed ← (cells.zip (Column.widths width (cells.map Cell.column))).mapM fun (cell, width) =>
      (cell.lines width).map (PlacedCell.mk width cell.emphasis)
    let height := (placed.map (fun cell => cell.lines.length)).foldl max 0
    let lines ← (joinLines (placed.map (PlacedCell.filled height))).mapM (Segment.limit width)
    return lines.flatMap (fun line => line.flatMap (Segment.shown coloring) ++ ['\n'])

end Cell

end LintFindings

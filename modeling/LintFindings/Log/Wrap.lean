import LintFindings.Log.Glyph

/-!
Texts broken into lines of a given width, between words where that can be. A word that is wider than
the line is folded or cut short.
-/

namespace LintFindings

inductive Overflow where
  | fold
  | ellipsis
  deriving DecidableEq, Repr

namespace Wrap

/--
The words of a line with the blanks after them, and before the first one; `inked` says whether the
open word, which is read backwards, is more than blanks.
-/
def wordsFrom (inked : Bool) (word : Text) : Text → List Text
  | [] => if inked then [word.reverse] else []
  | c :: rest =>
    if isBlank c then wordsFrom inked (c :: word) rest
    else if inked && word.head?.any isBlank then word.reverse :: wordsFrom true [c] rest
    else wordsFrom true (c :: word) rest

def words (line : Text) : List Text := wordsFrom false [] line

def starts (start : Nat) : List Nat → List Nat
  | [] => []
  | length :: lengths => start :: starts (start + length) lengths

/--
Where a line is broken. The next word starts at `start`, and `used` cells stand before it on its
line; a break at the very start is none.
-/
def breaks (width : Nat) (overflow : Overflow) (start used : Nat) : List Text → List Nat
  | [] => []
  | word :: rest =>
    let ink := word.trimEnd.cells
    let next := start + word.length
    if used + ink ≤ width then breaks width overflow next (used + word.cells) rest
    else if ink ≤ width then
      if used = 0 ∨ start = 0 then breaks width overflow next used rest
      else start :: breaks width overflow next word.cells rest
    else
      match overflow with
      | .fold =>
        let lengths := word.chop width
        let last := Text.cells (word.drop (word.length - lengths.getLast?.getD 0))
        (starts start lengths).filter (· != 0) ++ breaks width overflow next last rest
      | .ellipsis => [start].filter (· != 0) ++ breaks width overflow next word.cells rest

def fill (width : Nat) (overflow : Overflow) (line : List Glyph) : Option (List Glyph) :=
  let size := (Glyph.text line).cells
  if size ≤ width then some (line ++ Glyph.blanks (width - size))
  else
    match overflow with
    | .fold => Glyph.crop width line
    | .ellipsis =>
      (Glyph.crop (width - 1) line).map fun start =>
        start ++ [⟨'…', (line.drop start.length).head?.elim [] Glyph.marks⟩]

def pieces (width : Nat) (overflow : Overflow) (line : List Glyph) : List (List Glyph) :=
  Glyph.cutAt 0 line (breaks width overflow 0 0 (words (Glyph.text line)))

def lines (width : Nat) (overflow : Overflow) (glyphs : List Glyph) :
    Option (List (List Glyph)) :=
  let lines := (Glyph.lines glyphs).map Glyph.expandTabs
  (lines.flatMap (pieces width overflow)).mapM fun piece =>
    fill width overflow (Glyph.giveUpBlanks width piece)

end Wrap

end LintFindings

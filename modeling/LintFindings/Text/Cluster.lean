import LintFindings.Text.Cells

/-!
Characters that are shown as one. A joiner draws the character after it into the one before it, and
a selector turns some narrow characters into wide pictures; a text is counted, cut and cropped
without taking such a cluster apart.
-/

namespace LintFindings

def widenedRuns : Runs :=
  [ (0x23, 0x23), (0x2a, 0x2a), (0x30, 0x39), (0xa9, 0xa9), (0xae, 0xae), (0x203c, 0x203c),
    (0x2049, 0x2049), (0x2122, 0x2122), (0x2139, 0x2139), (0x2194, 0x2199), (0x21a9, 0x21aa),
    (0x2328, 0x2328), (0x23cf, 0x23cf), (0x23ed, 0x23ef), (0x23f1, 0x23f2), (0x23f8, 0x23fa),
    (0x24c2, 0x24c2), (0x25aa, 0x25ab), (0x25b6, 0x25b6), (0x25c0, 0x25c0), (0x25fb, 0x25fc),
    (0x2600, 0x2604), (0x260e, 0x260e), (0x2611, 0x2611), (0x2618, 0x2618), (0x261d, 0x261d),
    (0x2620, 0x2620), (0x2622, 0x2623), (0x2626, 0x2626), (0x262a, 0x262a), (0x262e, 0x262f),
    (0x2638, 0x263a), (0x2640, 0x2640), (0x2642, 0x2642), (0x265f, 0x2660), (0x2663, 0x2663),
    (0x2665, 0x2666), (0x2668, 0x2668), (0x267b, 0x267b), (0x267e, 0x267e), (0x2692, 0x2692),
    (0x2694, 0x2697), (0x2699, 0x2699), (0x269b, 0x269c), (0x26a0, 0x26a0), (0x26a7, 0x26a7),
    (0x26b0, 0x26b1), (0x26c8, 0x26c8), (0x26cf, 0x26cf), (0x26d1, 0x26d1), (0x26d3, 0x26d3),
    (0x26e9, 0x26e9), (0x26f0, 0x26f1), (0x26f4, 0x26f4), (0x26f7, 0x26f9), (0x2702, 0x2702),
    (0x2708, 0x2709), (0x270c, 0x270d), (0x270f, 0x270f), (0x2712, 0x2712), (0x2714, 0x2714),
    (0x2716, 0x2716), (0x271d, 0x271d), (0x2721, 0x2721), (0x2733, 0x2734), (0x2744, 0x2744),
    (0x2747, 0x2747), (0x2763, 0x2764), (0x27a1, 0x27a1), (0x2934, 0x2935), (0x2b05, 0x2b07),
    (0x1f170, 0x1f171), (0x1f17e, 0x1f17f), (0x1f321, 0x1f321), (0x1f324, 0x1f32c),
    (0x1f336, 0x1f336), (0x1f37d, 0x1f37d), (0x1f396, 0x1f397), (0x1f399, 0x1f39b),
    (0x1f39e, 0x1f39f), (0x1f3cb, 0x1f3ce), (0x1f3d4, 0x1f3df), (0x1f3f3, 0x1f3f3),
    (0x1f3f5, 0x1f3f5), (0x1f3f7, 0x1f3f7), (0x1f43f, 0x1f43f), (0x1f441, 0x1f441),
    (0x1f4fd, 0x1f4fd), (0x1f549, 0x1f54a), (0x1f56f, 0x1f570), (0x1f573, 0x1f579),
    (0x1f587, 0x1f587), (0x1f58a, 0x1f58d), (0x1f590, 0x1f590), (0x1f5a5, 0x1f5a5),
    (0x1f5a8, 0x1f5a8), (0x1f5b1, 0x1f5b2), (0x1f5bc, 0x1f5bc), (0x1f5c2, 0x1f5c4),
    (0x1f5d1, 0x1f5d3), (0x1f5dc, 0x1f5de), (0x1f5e1, 0x1f5e1), (0x1f5e3, 0x1f5e3),
    (0x1f5e8, 0x1f5e8), (0x1f5ef, 0x1f5ef), (0x1f5f3, 0x1f5f3), (0x1f5fa, 0x1f5fa),
    (0x1f6cb, 0x1f6cb), (0x1f6cd, 0x1f6cf), (0x1f6e0, 0x1f6e5), (0x1f6e9, 0x1f6e9),
    (0x1f6f0, 0x1f6f0), (0x1f6f3, 0x1f6f3) ]

def joiner : Char := '\u200d'

def pictureSelector : Char := '\ufe0f'

def widening : Option Char → Nat
  | some c => if isInRuns widenedRuns c then 1 else 0
  | none => 0

/--
Counts cells. `last` is the last character that takes a cell, as long as no selector has followed
it, and `joined` says that a joiner stands before what is left.
-/
def cellsFrom (used : Nat) (last : Option Char) (joined : Bool) : Text → Nat
  | [] => used
  | c :: rest =>
    if joined then cellsFrom used last false rest
    else if c = joiner then cellsFrom used last true rest
    else if c = pictureSelector then cellsFrom (used + widening last) none false rest
    else if cells c = 0 then cellsFrom used last false rest
    else cellsFrom (used + cells c) (some c) false rest

def Text.cells (t : Text) : Nat := cellsFrom 0 none false t

structure Cluster where
  length : Nat
  cells : Nat
  deriving DecidableEq, Repr

namespace Cluster

def grow (cluster : Cluster) (more : Nat) : Cluster := ⟨cluster.length + 1, cluster.cells + more⟩

/--
Cuts a text into clusters; those found so far come in `found`, the latest first. A joiner or
selector with nothing before it is a cluster without cells.
-/
def ofTextFrom (found : List Cluster) (last : Option Char) (joined : Bool) :
    Text → List Cluster
  | [] => found.reverse
  | c :: rest =>
    let own := LintFindings.cells c
    let last' := if own = 0 then last else some c
    match found with
    | [] =>
      if c = joiner ∨ c = pictureSelector then ofTextFrom [⟨1, 0⟩] none false rest
      else ofTextFrom [⟨1, own⟩] last' false rest
    | cluster :: older =>
      if joined then ofTextFrom (cluster.grow 0 :: older) last false rest
      else if c = joiner then ofTextFrom (cluster.grow 0 :: older) last true rest
      else if c = pictureSelector then
        if widening last = 0 then ofTextFrom (cluster.grow 0 :: older) last false rest
        else ofTextFrom (cluster.grow 1 :: older) none false rest
      else if own = 0 then ofTextFrom (cluster.grow 0 :: older) last false rest
      else ofTextFrom (⟨1, own⟩ :: found) last' false rest

def ofText (t : Text) : List Cluster := ofTextFrom [] none false t

/--
The lengths of the pieces into which clusters are cut so that each fits into a width. `length`
characters in `used` cells are on the piece that is open; a last piece without cells is dropped.
-/
def chopFrom (width length used : Nat) : List Cluster → List Nat
  | [] => if used = 0 then [] else [length]
  | cluster :: rest =>
    if width < used + cluster.cells then
      length :: chopFrom width cluster.length cluster.cells rest
    else chopFrom width (length + cluster.length) (used + cluster.cells) rest

/--
How many characters fill the room, and whether a cell is left that the next cluster straddles. There
is no answer when all of them do not fill it.
-/
def cropFrom (length room : Nat) : List Cluster → Option (Nat × Nat)
  | [] => if room = 0 then some (length, 0) else none
  | cluster :: rest =>
    if room = 0 then some (length, 0)
    else if cluster.cells ≤ room then cropFrom (length + cluster.length) (room - cluster.cells) rest
    else some (length, 1)

end Cluster

namespace Text

def chop (width : Nat) (t : Text) : List Nat := Cluster.chopFrom width 0 0 (Cluster.ofText t)

/--
How many characters of a text are kept, and how many blanks follow them, to fill a number of cells.
A text that starts with joiners can count more cells than its clusters have; then it may be that
there is no answer.
-/
def fitting (total : Nat) (t : Text) : Option (Nat × Nat) :=
  if total = 0 then some (0, 0)
  else if t.cells ≤ total then some (t.length, total - t.cells)
  else Cluster.cropFrom 0 total (Cluster.ofText t)

def fit (total : Nat) (t : Text) : Option Text :=
  (t.fitting total).map fun (kept, blanks) => t.take kept ++ List.replicate blanks ' '

end Text

end LintFindings

import LintFindings.Log
import LintFindings.Log.Cell
import LintFindings.Log.Highlight
import LintFindings.Text.Quoted

/-!
What the console prints for a record. Before any set-up it prints bare messages; afterwards it puts
them into a column of a row, next to the level and, in detail, between the time and the place of the
record.
-/

namespace LintFindings

namespace Console

/-- The time is shown once; records of the same second leave its place blank. -/
def timeCell (timed : Bool) : Cell :=
  let time : Text := "[01/01/00 00:00:00]"
  ⟨Glyph.ofText (if timed then List.replicate time.length ' ' else time),
    { Emphasis.ofColor 36 with dim := some true }, .ellipsis, 1, false⟩

def levelEmphasis : Level → Emphasis
  | .debug => .ofColor 32
  | .info => .ofColor 34
  | .warning => .ofColor 33
  | .error => .strongColor 31
  | .critical => { Emphasis.strongColor 31 with reverse := some true }

def levelCell (level : Level) : Cell :=
  let name := level.name
  let content := Glyph.ofText (name ++ List.replicate (8 - name.length) ' ')
  ⟨Glyph.markAll (levelEmphasis level) content, .none, .ellipsis, 1, false⟩

def highlighted (message : Text) : List Glyph :=
  Highlight.layers.foldl (fun glyphs layer => Glyph.mark (layer.spans message) glyphs)
    (Glyph.ofText message)

/--
Highlights can be told from what is printed where codes are written, and where they take a joiner or
a selector apart from what it is about.
-/
def showsHighlights (coloring : Coloring) (message : Text) : Bool :=
  coloring != .plain || message.contains joiner || message.contains pictureSelector

def messageCell (coloring : Coloring) (detailed : Bool) (message : Text) : Cell :=
  let message := message.filter (fun c => !Cell.isDropped c)
  let content :=
    if showsHighlights coloring message then highlighted message else Glyph.ofText message
  ⟨content, .none, .fold, if detailed then 1 else 0, true⟩

def placeCell : Cell :=
  ⟨Glyph.ofText "Main.lean:100", { Emphasis.none with dim := some true }, .ellipsis, 0, false⟩

def cells (setup : LogSetup) (record : LogRecord) : List Cell :=
  let message := messageCell setup.screen.coloring setup.detailed record.text
  if setup.detailed then [timeCell setup.timed, levelCell record.level, message, placeCell]
  else [levelCell record.level, message]

def complaint (record : LogRecord) : Text :=
  "--- Logging error ---\nMessage: " ++ record.text.quoted ++ "\nArguments: ()\n"

def widthLimit : Nat := 10000000000

def printed (setup : LogSetup) (width : Except Escape Nat) (record : LogRecord) : Text :=
  match width with
  | .error _ => complaint record
  | .ok width =>
    if widthLimit < width then complaint record
    else (Cell.row width setup.screen.coloring (cells setup record)).getD (complaint record)

end Console

namespace Logging

def printed (logging : Logging) (width : LogSetup → Except Escape Nat) (record : LogRecord) :
    Text :=
  if logging.letsThrough record = false then []
  else
    match logging.setup with
    | none => record.text ++ ['\n']
    | some setup =>
      if logging.isInTree record.logger then Console.printed setup (width setup) record
      else record.text ++ ['\n']

/--
Whether a record's text can be found on the console as it is. In rows that are much longer than the
text it stands whole, and the blanks after it are more than any in the text.
-/
def onConsole (logging : Logging) (width : LogSetup → Except Escape Nat) (record : LogRecord) :
    Bool :=
  let enough := 8 * record.text.length + 200
  let shortened (setup : LogSetup) : Except Escape Nat :=
    (width setup).map (fun width => if width ≤ Console.widthLimit then min width enough else width)
  record.text.occursIn (logging.printed shortened record)

end Logging

end LintFindings

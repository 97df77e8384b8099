import LintFindings.Text.Basic

/-!
Console markup. A bracket that opens like a tag is styling, not text; escaping puts a backslash
before it, and the console takes backslashes away again when it prints.
-/

namespace LintFindings

namespace Markup

def opensTag (c : Char) : Bool := ('a' ≤ c && c ≤ 'z') || c == '#' || c == '/' || c == '@'

/--
The inside of a tag whose opening bracket has been read, and what follows its closing bracket.
A second opening bracket before the closing one means that there is no tag.
-/
def tag? : Text → Option (Text × Text)
  | [] => none
  | c :: rest =>
    if opensTag c && !(rest.takeWhile (· != ']')).contains '[' then
      match rest.dropWhile (· != ']') with
      | [] => none
      | _ :: after => some (c :: rest.takeWhile (· != ']'), after)
    else none

inductive Piece where
  | plain (c : Char)
  | tag (slashes : Nat) (inside : Text)
  deriving DecidableEq, Repr

def piecesFrom : Nat → Nat → Text → List Piece
  | 0, _, _ => []
  | _ + 1, count, [] => List.replicate count (.plain '\\')
  | fuel + 1, count, c :: rest =>
    if c = '\\' then piecesFrom fuel (count + 1) rest
    else match (if c = '[' then tag? rest else none) with
      | some (inside, after) => .tag count inside :: piecesFrom fuel 0 after
      | none => List.replicate count (.plain '\\') ++ .plain c :: piecesFrom fuel 0 rest

def pieces (t : Text) : List Piece := piecesFrom (t.length + 1) 0 t

/-- A tag as text: its backslashes doubled and one more, so that its bracket is text again. -/
def Piece.escaped : Piece → Text
  | .plain c => [c]
  | .tag count inside => List.replicate (2 * count + 1) '\\' ++ '[' :: inside ++ [']']

/-- A lone backslash at the end would escape what is printed next, so it is doubled. -/
def guardEnd (t : Text) : Text :=
  match t.reverse with
  | '\\' :: '\\' :: _ => t
  | '\\' :: _ => t ++ ['\\']
  | _ => t

def escape (t : Text) : Text := guardEnd ((pieces t).flatMap Piece.escaped)

def unescapeBrackets : Text → Text
  | '\\' :: '[' :: rest => '[' :: unescapeBrackets rest
  | c :: rest => c :: unescapeBrackets rest
  | [] => []

/--
What the console prints for a text without styling in it: half of the backslashes before a tag,
then the tag itself if a backslash is left over; a tag without one is styling and prints nothing.
-/
def printPieces (plain : Text) : List Piece → Text
  | [] => unescapeBrackets plain.reverse
  | .plain c :: rest => printPieces (c :: plain) rest
  | .tag count inside :: rest =>
    unescapeBrackets plain.reverse ++ List.replicate (count / 2) '\\' ++
      (if count % 2 = 1 then '[' :: inside ++ [']'] else []) ++ printPieces [] rest

def print (t : Text) : Text := printPieces [] (pieces t)

def shown (t : Text) : Text := print (escape t)

end Markup

end LintFindings

import LintFindings.Text.Basic

/-! Paths as texts: their parts, and their shortest spelling. -/

namespace LintFindings.Path

def root (path : Text) : Text :=
  match path with
  | '/' :: '/' :: '/' :: _ => ['/']
  | '/' :: '/' :: _ => ['/', '/']
  | '/' :: _ => ['/']
  | _ => []

def parts (path : Text) : List Text := (Text.split '/' path).filter (fun part => part != [])

def isHere (part : Text) : Bool := part == ['.']

def isParent (part : Text) : Bool := part == ['.', '.']

/-- Without doubled slashes, closing slashes and parts that lead nowhere; the empty path is `.`. -/
def normal (path : Text) : Text :=
  match root path ++ Text.join ['/'] ((parts path).filter (fun part => !isHere part)) with
  | [] => ['.']
  | text => text

def join (folder name : Text) : Text :=
  if folder.getLast? = some '/' then folder ++ name else folder ++ '/' :: name

def isSlash (c : Char) : Bool := c == '/'

def trimSlashes (path : Text) : Text := (path.reverse.dropWhile isSlash).reverse

/-- Takes away each part that the next one leads back from, without looking at any file. -/
def cancelParents (parts : List Text) : List Text :=
  (parts.foldl (fun stack part => if isParent part then stack.drop 1 else part :: stack) []).reverse

def absoluteParts (folder path : Text) : List Text :=
  let whole := if (root path).isEmpty then join folder path else path
  cancelParents ((parts whole).filter (fun part => !isHere part))

def absolute (folder path : Text) : Text := '/' :: Text.join ['/'] (absoluteParts folder path)

end LintFindings.Path

import LintFindings.Files.Path
import LintFindings.Text.Utf8

/-! Files and folders, and what a path leads to among them. -/

namespace LintFindings

inductive Node where
  | file (bytes : Bytes)
  | folder
  deriving DecidableEq, Repr, Inhabited

inductive PathFault where
  | missing
  | notFolder
  | isFolder
  | occupied
  | nameTooLong
  | denied
  | locked
  /-- A character that no path can have. -/
  | strayCharacter
  deriving DecidableEq, Repr

def PathFault.reason : PathFault → Text
  | missing => "No such file or directory"
  | notFolder => "Not a directory"
  | isFolder => "Is a directory"
  | occupied => "File exists"
  | nameTooLong => "File name too long"
  | denied => "Permission denied"
  | locked => "Permission denied"
  | strayCharacter => "embedded null byte"

abbrev Location := List Text

structure FileTree where
  nodes : List (Location × Node)
  deriving Repr, Inhabited

namespace FileTree

def nameLimit : Nat := 255

def pathLimit : Nat := 4095

def size (t : Text) : Nat := (Utf8.encode t).length

def node? (tree : FileTree) (location : Location) : Option Node :=
  if location = [] then some .folder else tree.nodes.lookup location

def walk (tree : FileTree) : Location → List Text → Except PathFault Location
  | location, [] => .ok location
  | location, part :: parts =>
    if tree.node? location ≠ some .folder then .error .notFolder
    else if Path.isHere part then walk tree location parts
    else if Path.isParent part then walk tree location.dropLast parts
    else if nameLimit < size part then .error .nameTooLong
    else if (tree.node? (location ++ [part])).isNone then .error .missing
    else walk tree (location ++ [part]) parts

/-- A slash at the end of a path asks for a folder. -/
def partsToWalk (path : Text) : List Text :=
  Path.parts path ++ if path.getLast? = some '/' then [['.']] else []

def start (work : Location) (path : Text) : Location := if (Path.root path).isEmpty then work else []

def locate (tree : FileTree) (work : Location) (path : Text) : Except PathFault Location :=
  if path.contains '\x00' then .error .strayCharacter
  else if path = [] then .error .missing
  else if pathLimit < size path then .error .nameTooLong
  else tree.walk (start work path) (partsToWalk path)

def find (tree : FileTree) (work : Location) (path : Text) : Except PathFault Node := do
  let location ← tree.locate work path
  match tree.node? location with
  | some node => return node
  | none => throw .missing

/-- The place of a file that is there or can be made: only its last part may be missing. -/
def placeForFile (tree : FileTree) (work : Location) (path : Text) :
    Except PathFault Location := do
  if path.contains '\x00' then throw .strayCharacter
  if path = [] then throw .missing
  if pathLimit < size path then throw .nameTooLong
  let parts := partsToWalk path
  let location ← match tree.walk (start work path) parts with
    | .ok location => pure location
    | .error .missing =>
      match parts.getLast? with
      | some name => do
        let folder ← tree.walk (start work path) parts.dropLast
        pure (folder ++ [name])
      | none => throw .missing
    | .error fault => throw fault
  if tree.node? location = some .folder then throw .isFolder
  return location

def put (tree : FileTree) (location : Location) (node : Node) : FileTree :=
  ⟨(location, node) :: tree.nodes.filter (fun (place, _) => place ≠ location)⟩

def remove (tree : FileTree) (location : Location) : FileTree :=
  ⟨tree.nodes.filter (fun (place, _) => place ≠ location)⟩

def makeFolders (tree : FileTree) (location : Location) :
    List Text → Except PathFault (FileTree × Location)
  | [] => .ok (tree, location)
  | part :: parts =>
    if Path.isHere part then makeFolders tree location parts
    else if Path.isParent part then makeFolders tree location.dropLast parts
    else if nameLimit < size part then .error .nameTooLong
    else match tree.node? (location ++ [part]) with
      | some .folder => makeFolders tree (location ++ [part]) parts
      | some (.file _) => .error (if parts = [] then .occupied else .notFolder)
      | none => makeFolders (tree.put (location ++ [part]) .folder) (location ++ [part]) parts

def append (tree : FileTree) (location : Location) (bytes : Bytes) : FileTree :=
  match tree.node? location with
  | some (.file before) => tree.put location (.file (before ++ bytes))
  | _ => tree.put location (.file bytes)

end FileTree

end LintFindings

import LintFindings.Text.Basic

/-!
The command line: words before a double dash may be options, long ones by their full name and
short ones in groups; the last of repeated options counts, and at most one word is no option.
-/

namespace LintFindings.CommandLine

inductive OptionName where
  | color
  | noColor
  | verbose
  | quiet
  | version
  | help
  | format
  | config
  deriving DecidableEq, Repr

namespace OptionName

def takesValue : OptionName → Bool
  | format => true
  | config => true
  | _ => false

def ofLong? (name : Text) : Option OptionName :=
  List.lookup name ([("--color", color), ("--no-color", noColor), ("--verbose", verbose),
    ("--quiet", quiet), ("--version", version), ("--help", help), ("--format", format),
    ("--config", config)] : List (Text × OptionName))

def ofShort? : Char → Option OptionName
  | 'v' => some verbose
  | 'q' => some quiet
  | 'f' => some format
  | 'c' => some config
  | _ => none

end OptionName

inductive Item where
  | option (name : OptionName)
  | valued (name : OptionName) (value : Text)
  | word (value : Text)
  deriving DecidableEq, Repr

def cutAtEquals (t : Text) : Text × Option Text :=
  match t.span (· != '=') with
  | (name, []) => (name, none)
  | (name, _ :: value) => (name, some value)

/-- The flags before the first short option with a value, and that option with the letters after it. -/
def shortGroup? : Text → Option (List Item × Option (OptionName × Text))
  | [] => some ([], none)
  | letter :: letters =>
    match OptionName.ofShort? letter with
    | none => none
    | some name =>
      if name.takesValue then some ([], some (name, letters))
      else (shortGroup? letters).map (fun (items, last) => (.option name :: items, last))

def optionWord? (t : Text) : Option (List Item × Option OptionName) :=
  let (name, value) := cutAtEquals t
  match OptionName.ofLong? name with
  | some name =>
    match name.takesValue, value with
    | true, some value => some ([.valued name value], none)
    | true, none => some ([], some name)
    | false, some _ => none
    | false, none => some ([.option name], none)
  | none =>
    if "--".toList.isPrefixOf t then none
    else match shortGroup? (t.drop 1) with
      | none => none
      | some (items, none) => some (items, none)
      | some (items, some (name, [])) => some (items, some name)
      | some (items, some (name, value)) => some (items ++ [.valued name value], none)

def looksLikeOption (t : Text) : Bool := t.head? == some '-' && t.length != 1

/-- The items of a command line; `awaiting` is the option whose value comes next. -/
def itemsFrom (awaiting : Option OptionName) : List Text → Option (List Item)
  | [] => if awaiting.isSome then none else some []
  | t :: rest =>
    match awaiting with
    | some name => (itemsFrom none rest).map (.valued name t :: ·)
    | none =>
      if t = "--" then some (rest.map .word)
      else if looksLikeOption t then
        match optionWord? t with
        | none => none
        | some (items, next) => (itemsFrom next rest).map (items ++ ·)
      else (itemsFrom none rest).map (.word t :: ·)

def items? (arguments : List Text) : Option (List Item) := itemsFrom none arguments

/-- Help is shown for any arguments that can be read, whatever else they say. -/
def asksHelp (arguments : List Text) : Bool :=
  (items? arguments).any (fun items => items.contains (.option .help))

structure Request where
  format : Option Text
  color : Option Bool
  config : Option Text
  verbose : Bool
  quiet : Bool
  version : Bool
  input : Option Text
  deriving DecidableEq, Repr

namespace Request

def empty : Request := ⟨none, none, none, false, false, false, none⟩

/-- Takes one more item into account; a second word is refused, and so is what asks for no report. -/
def add? (request : Request) : Item → Option Request
  | .option .color => some { request with color := some true }
  | .option .noColor => some { request with color := some false }
  | .option .verbose => some { request with verbose := true }
  | .option .quiet => some { request with quiet := true }
  | .option .version => some { request with version := true }
  | .option _ => none
  | .valued .format value => some { request with format := some value }
  | .valued .config value => some { request with config := some value }
  | .valued _ _ => none
  | .word value => if request.input.isSome then none else some { request with input := some value }

def ofItems? (items : List Item) : Option Request := items.foldlM add? empty

def ofArguments? (arguments : List Text) : Option Request := items? arguments >>= ofItems?

end Request

end LintFindings.CommandLine

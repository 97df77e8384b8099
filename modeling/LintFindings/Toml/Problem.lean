import LintFindings.Text.Newline
import LintFindings.Text.Quoted

/-! What can be wrong in a TOML document, and where. -/

namespace LintFindings.Toml

abbrev Key := List Text

def Key.shown : Key → Text
  | [part] => '(' :: part.quoted ++ ",)"
  | parts => '(' :: Text.join ", " (parts.map Text.quoted) ++ [')']

inductive Problem where
  | statement
  | lineEnd
  | keyStart
  | equals
  | overwrite
  | declaredTwice (key : Key)
  | immutable (key : Key)
  | redefined (key : Key)
  | duplicateMember (name : Text)
  | openArray
  | openTable
  | headerEnd
  | arrayHeaderEnd
  | openString
  | missing (mark : Text)
  | foundCharacter (c : Char)
  | illegalCharacter (c : Char)
  | backslash
  | hexDigits
  | codePoint
  | value
  | dateTime
  deriving DecidableEq, Repr

def Problem.text : Problem → Text
  | statement => "Invalid statement"
  | lineEnd => "Expected newline or end of document after a statement"
  | keyStart => "Invalid initial character for a key part"
  | equals => "Expected '=' after a key in a key/value pair"
  | overwrite => "Cannot overwrite a value"
  | declaredTwice key => "Cannot declare " ++ key.shown ++ " twice"
  | immutable key => "Cannot mutate immutable namespace " ++ key.shown
  | redefined key => "Cannot redefine namespace " ++ key.shown
  | duplicateMember name => "Duplicate inline table key " ++ name.quoted
  | openArray => "Unclosed array"
  | openTable => "Unclosed inline table"
  | headerEnd => "Expected ']' at the end of a table declaration"
  | arrayHeaderEnd => "Expected ']]' at the end of an array declaration"
  | openString => "Unterminated string"
  | missing mark => "Expected " ++ mark.quoted
  | foundCharacter c => "Found invalid character " ++ Text.quoted [c]
  | illegalCharacter c => "Illegal character " ++ Text.quoted [c]
  | backslash => "Unescaped '\\' in a string"
  | hexDigits => "Invalid hex value"
  | codePoint => "Escaped character is not a Unicode scalar value"
  | value => "Invalid value"
  | dateTime => "Invalid date or datetime"

inductive Refusal where
  /-- There is a problem, with so much of the document still to come. -/
  | malformed (problem : Problem) (rest : Text)
  | digitLimit
  | nestingLimit
  deriving DecidableEq, Repr

def place (document rest : Text) : Text :=
  if rest = [] then "end of document"
  else "line " ++ Text.ofNat (document.lineAt rest) ++
    ", column " ++ Text.ofNat (document.columnAt rest)

end LintFindings.Toml

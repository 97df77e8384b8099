import LintFindings.Text.Printable

/-!
Quoted texts: a text between quotes with every character that cannot be shown written as an
escape, so that two different texts never look alike.
-/

namespace LintFindings

namespace Text

/-- Single quotes, unless these occur in the text and double quotes do not. -/
def quoteMark (t : Text) : Char :=
  if t.contains '\'' && !t.contains '"' then '"' else '\''

def escapeCode (c : Char) : Text :=
  let n := c.toNat
  if n ≤ 0xff then "\\x" ++ hexOfNat 2 n
  else if n ≤ 0xffff then "\\u" ++ hexOfNat 4 n
  else "\\U" ++ hexOfNat 8 n

def quoteChar (mark c : Char) : Text :=
  if c = mark ∨ c = '\\' then ['\\', c]
  else if c = '\t' then "\\t"
  else if c = '\n' then "\\n"
  else if c = '\r' then "\\r"
  else if isPrintable c then [c]
  else escapeCode c

def quoted (t : Text) : Text :=
  let mark := quoteMark t
  mark :: t.flatMap (quoteChar mark) ++ [mark]

end Text

end LintFindings

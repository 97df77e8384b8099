import LintFindings.Text.Basic

/-! Line breaks: their three spellings, and counting lines. -/

namespace LintFindings

namespace Text

def unifyBreaks : Text → Text
  | '\r' :: '\n' :: rest => '\n' :: unifyBreaks rest
  | '\r' :: rest => '\n' :: unifyBreaks rest
  | c :: rest => c :: unifyBreaks rest
  | [] => []

def joinBreaks : Text → Text
  | '\r' :: '\n' :: rest => '\n' :: joinBreaks rest
  | c :: rest => c :: joinBreaks rest
  | [] => []

def before (t rest : Text) : Text := t.take (t.length - rest.length)

def lineAt (t rest : Text) : Nat := (t.before rest).count '\n' + 1

def columnAt (t rest : Text) : Nat :=
  ((t.before rest).reverse.takeWhile (· != '\n')).length + 1

end Text

end LintFindings

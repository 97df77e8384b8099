import LintFindings.Text.Basic

/-! Blank characters, and texts without the blanks at their end. -/

namespace LintFindings

def isBlank (c : Char) : Bool :=
  let n := c.toNat
  (9 ≤ n && n ≤ 13) || (28 ≤ n && n ≤ 32) || n == 0x85 || n == 0xa0 || n == 0x1680 ||
    (0x2000 ≤ n && n ≤ 0x200a) || n == 0x2028 || n == 0x2029 || n == 0x202f || n == 0x205f ||
    n == 0x3000

theorem isBlank_space : isBlank ' ' = true := by decide

namespace Text

def trimEnd (t : Text) : Text := (t.reverse.dropWhile isBlank).reverse

theorem trimEnd_nil : trimEnd [] = [] := rfl

theorem trimEnd_append_blank (t : Text) {c : Char} (h : isBlank c = true) :
    trimEnd (t ++ [c]) = trimEnd t := by
  simp [trimEnd, h]

theorem trimEnd_append_ink (t : Text) {c : Char} (h : isBlank c = false) :
    trimEnd (t ++ [c]) = t ++ [c] := by
  simp [trimEnd, h]

end Text

end LintFindings

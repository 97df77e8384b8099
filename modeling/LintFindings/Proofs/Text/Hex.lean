import LintFindings.Text.Basic

/-! Numbers in hexadecimal digits, and the way back from them. -/

namespace LintFindings.Text

theorem hexValue?_hexDigit {n : Nat} (small : n < 16) : hexValue? (hexDigit n) = some n := by
  have all : ∀ n : Fin 16, hexValue? (hexDigit n) = some n.val := by decide
  exact all ⟨n, small⟩

theorem hexToNat?_append_digit (digits : Text) (c : Char) :
    hexToNat? (digits ++ [c]) =
      (hexToNat? digits).bind fun n => (hexValue? c).map (16 * n + ·) := by
  simp [hexToNat?, List.foldlM_append]

theorem hexToNat?_hexOfNat (width n : Nat) :
    hexToNat? (hexOfNat width n) = some (n % Nat.pow 16 width) := by
  induction width generalizing n with
  | zero =>
      have none : n % Nat.pow 16 0 = 0 := Nat.mod_one n
      rw [none]
      rfl
  | succ width ih =>
      have last : n % 16 < 16 := Nat.mod_lt n (by decide)
      have grows : Nat.pow 16 (width + 1) = 16 * Nat.pow 16 width := Nat.mul_comm (Nat.pow 16 width) 16
      rw [hexOfNat, hexToNat?_append_digit, ih, hexValue?_hexDigit last, grows]
      simp only [Option.bind_some, Option.map_some, Option.some.injEq]
      rw [Nat.mod_mul, Nat.add_comm]

theorem length_hexOfNat (width n : Nat) : (hexOfNat width n).length = width := by
  induction width generalizing n with
  | zero => rfl
  | succ width ih => rw [hexOfNat, List.length_append, ih, List.length_singleton]

end LintFindings.Text

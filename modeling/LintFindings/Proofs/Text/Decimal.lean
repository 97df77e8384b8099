import LintFindings.Number.Digits
import LintFindings.Text.Basic

/-! Integers in decimal, and the way back from their digits. -/

namespace LintFindings.Text

def toInt : Text → Int
  | '-' :: digits => -(toNat digits : Int)
  | digits => toNat digits

theorem toNat_ofNat (n : Nat) : toNat (ofNat n) = n := by
  have same : toNat (ofNat n) = Nat.ofDigitChars 10 (Nat.toDigits 10 n) 0 := by
    rw [Nat.ofDigitChars_eq_foldl]
    rfl
  rw [same, Nat.ofDigitChars_ten_toDigits]

theorem isDigit_of_mem_ofNat {c : Char} {n : Nat} (member : c ∈ ofNat n) : isDigit c = true := by
  have digit : c.isDigit = true := Nat.isDigit_of_mem_toDigits (by decide) (by decide) member
  simpa [isDigit, Char.isDigit, Char.le_def] using digit

theorem ofNat_ne_nil (n : Nat) : ofNat n ≠ [] := Nat.toDigits_ne_nil

theorem exists_cons_ofNat (n : Nat) :
    ∃ c rest, ofNat n = c :: rest ∧ ∀ other, isDigit other = false → other ≠ c := by
  obtain ⟨c, rest, digits⟩ := List.exists_cons_of_ne_nil (ofNat_ne_nil n)
  refine ⟨c, rest, digits, ?_⟩
  rintro _ noDigit rfl
  rw [isDigit_of_mem_ofNat (n := n) (digits ▸ List.mem_cons_self)] at noDigit
  cases noDigit

theorem length_ofNat_le_iff {n limit : Nat} (some : 0 < limit) :
    (ofNat n).length ≤ limit ↔ n < Nat.pow 10 limit := Nat.length_toDigits_le_iff (by decide) some

theorem eq_zero_of_lead {n : Nat} {rest : Text} (lead : ofNat n = '0' :: rest) : n = 0 ∧ rest = [] := by
  induction n using Nat.strongRecOn generalizing rest with
  | _ n ih =>
      rw [ofNat, Nat.toDigits_eq_if (by decide)] at lead
      split at lead
      next small =>
        have zeros : ∀ n : Fin 10, Nat.digitChar n = '0' → n = 0 := by decide
        obtain ⟨digit, rfl⟩ := List.cons_eq_cons.mp lead
        exact ⟨congrArg Fin.val (zeros ⟨n, small⟩ digit), rfl⟩
      next large =>
        obtain ⟨c, more, digits⟩ := List.exists_cons_of_ne_nil (ofNat_ne_nil (n / 10))
        rw [← ofNat, digits, List.cons_append] at lead
        obtain ⟨rfl, -⟩ := List.cons_eq_cons.mp lead
        obtain ⟨none, -⟩ := ih (n / 10) (by omega) digits
        omega

theorem mem_ofInt {c : Char} {n : Int} (member : c ∈ ofInt n) : c = '-' ∨ isDigit c = true := by
  cases n with
  | ofNat n => exact Or.inr (isDigit_of_mem_ofNat member)
  | negSucc n =>
      simp only [ofInt, List.mem_cons] at member
      rcases member with sign | digit
      · exact Or.inl sign
      · exact Or.inr (isDigit_of_mem_ofNat digit)

theorem not_mem_ofInt {c : Char} (noSign : c ≠ '-') (noDigit : isDigit c = false) (n : Int) :
    c ∉ ofInt n := by
  intro member
  rcases mem_ofInt member with sign | digit
  · exact noSign sign
  · rw [digit] at noDigit
    contradiction

theorem toInt_ofNat (n : Nat) : toInt (ofNat n) = n := by
  cases digits : ofNat n with
  | nil => exact absurd digits (ofNat_ne_nil n)
  | cons c rest =>
      have digit : isDigit c = true := isDigit_of_mem_ofNat (n := n) (by simp [digits])
      have noSign : c ≠ '-' := by
        intro sign
        subst sign
        exact absurd digit (by decide)
      have whole : toInt (c :: rest) = toNat (c :: rest) := by
        unfold toInt
        split
        next signed => exact absurd (List.head_eq_of_cons_eq signed) noSign
        next => rfl
      rw [whole, ← digits, toNat_ofNat]

theorem toInt_ofInt (n : Int) : toInt (ofInt n) = n := by
  cases n with
  | ofNat n => exact toInt_ofNat n
  | negSucc n =>
      simp only [ofInt, toInt, toNat_ofNat]
      rfl

theorem toNat_le_of_isDigit {c : Char} (digit : isDigit c = true) : c.toNat ≤ 57 := by
  simp only [isDigit, Bool.and_eq_true, decide_eq_true_eq, Char.le_def, UInt32.le_iff_toNat_le] at digit
  exact digit.2

theorem digitValue_lt {c : Char} (digit : isDigit c = true) : digitValue c < 10 := by
  have last := toNat_le_of_isDigit digit
  have zero : '0'.toNat = 48 := rfl
  rw [digitValue, zero]
  omega

theorem foldl_digits_lt (digits : Text) (number : ∀ c ∈ digits, isDigit c = true) (start : Nat) :
    digits.foldl (fun n c => 10 * n + digitValue c) start <
      (start + 1) * Nat.pow 10 digits.length := by
  induction digits generalizing start with
  | nil =>
      have one : Nat.pow 10 (List.length ([] : Text)) = 1 := rfl
      rw [List.foldl_nil, one, Nat.mul_one]
      exact Nat.lt_succ_self start
  | cons c rest ih =>
      have small := digitValue_lt (number c List.mem_cons_self)
      have others := ih (fun other member => number other (List.mem_cons_of_mem c member))
        (10 * start + digitValue c)
      have grows : Nat.pow 10 (c :: rest).length = 10 * Nat.pow 10 rest.length :=
        Nat.mul_comm (Nat.pow 10 rest.length) 10
      calc
        _ < (10 * start + digitValue c + 1) * Nat.pow 10 rest.length := others
        _ ≤ ((start + 1) * 10) * Nat.pow 10 rest.length := Nat.mul_le_mul_right _ (by omega)
        _ = (start + 1) * Nat.pow 10 (c :: rest).length := by rw [grows, Nat.mul_assoc]

theorem toNat_lt {digits : Text} (number : ∀ c ∈ digits, isDigit c = true) :
    toNat digits < Nat.pow 10 digits.length := by
  have bound := foldl_digits_lt digits number 0
  rwa [Nat.zero_add, Nat.one_mul] at bound

/-- Digits of one integer, more of them than an integer may have. -/
structure IsTooLong (t : Text) : Prop where
  digits (c : Char) : c ∈ t → isDigit c = true
  lead (rest : Text) : t ≠ '0' :: rest
  long : digitLimit < t.length

namespace IsTooLong

variable {t : Text} (tooLong : t.IsTooLong)

include tooLong

theorem not_mem {c : Char} (noDigit : isDigit c = false) : c ∉ t := by
  intro member
  rw [tooLong.digits c member] at noDigit
  cases noDigit

theorem exists_cons :
    ∃ c rest, t = c :: rest ∧ c ≠ '0' ∧ ∀ other, isDigit other = false → c ≠ other := by
  cases shape : t with
  | nil =>
      have long := tooLong.long
      rw [shape] at long
      cases long
  | cons c rest =>
      refine ⟨c, rest, rfl, ?_, ?_⟩
      · rintro rfl
        exact tooLong.lead rest shape
      · rintro other noDigit rfl
        exact tooLong.not_mem noDigit (shape ▸ List.mem_cons_self)

end IsTooLong

theorem isTooLong_replicate {count : Nat} (many : digitLimit < count) :
    IsTooLong (List.replicate count '1') := by
  refine ⟨?_, ?_, ?_⟩
  · intro c member
    rw [List.eq_of_mem_replicate member]
    rfl
  · intro rest same
    have zero : '0' ∈ List.replicate count '1' := same ▸ List.mem_cons_self
    exact absurd (List.eq_of_mem_replicate zero) (by decide)
  · rwa [List.length_replicate]

end LintFindings.Text

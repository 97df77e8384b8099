import LintFindings.Json.Writer
import LintFindings.Proofs.Json.Digits
import LintFindings.Proofs.Json.Numerals
import LintFindings.Proofs.Json.Strings
import LintFindings.Proofs.Json.Values
import LintFindings.Proofs.Text.Hex

/-!
Reading back a string or an integer that has been written: a character as it stands, as a letter
after a backslash or as one or two codes, and an integer up to the first character that is no part
of it.
-/

namespace LintFindings.Json

section Strings

variable {half : Char}

theorem code?_hexOfNat {n : Nat} (small : n < 0x10000) {tail : Text} (more : tail ≠ []) :
    code? (Text.hexOfNat 4 n ++ tail) = some (n, tail) := by
  have digits := Text.hexToNat?_hexOfNat 4 n
  have fits : n < Nat.pow 16 4 := small
  rw [Nat.mod_eq_of_lt fits] at digits
  obtain ⟨a, b, c, d, four⟩ : ∃ a b c d, Text.hexOfNat 4 n = [a, b, c, d] := by
    have size := Text.length_hexOfNat 4 n
    generalize Text.hexOfNat 4 n = written at size
    match written, size with
    | [a, b, c, d], _ => exact ⟨a, b, c, d, rfl⟩
  rw [four] at digits ⊢
  exact code?_eq_some_iff.mpr ⟨a, b, c, d, rfl, more, digits⟩

theorem isSurrogate_toNat (c : Char) :
    isHighSurrogate c.toNat = false ∧ isLowSurrogate c.toNat = false := by
  have valid : c.toNat < 0xd800 ∨ 0xdfff < c.toNat ∧ c.toNat < 0x110000 := c.valid
  simp only [isHighSurrogate, isLowSurrogate, Bool.and_eq_false_iff, decide_eq_false_iff_not]
  omega

theorem escaped?_codeUnits (c : Char) {tail : Text} (more : tail ≠ []) :
    ∃ digits, (codeUnits c).flatMap codeEscape ++ tail = '\\' :: 'u' :: digits ∧
      escaped? half digits = some (c, tail) := by
  unfold codeUnits
  dsimp only
  split
  next small =>
    refine ⟨Text.hexOfNat 4 c.toNat ++ tail, by simp [codeEscape], ?_⟩
    obtain ⟨noHigh, noLow⟩ := isSurrogate_toNat c
    have alone : pair? c.toNat tail = none := by
      rw [Option.eq_none_iff_forall_ne_some]
      rintro ⟨char, after⟩ found
      obtain ⟨_, _, -, high, -⟩ := pair?_eq_some_iff.mp found
      rw [noHigh] at high
      cases high
    rw [escaped?_of_code half (code?_hexOfNat small more), alone]
    simp [codeChar, noHigh, noLow, Char.ofNat_toNat]
  next large =>
    have valid : c.toNat < 0xd800 ∨ 0xdfff < c.toNat ∧ c.toNat < 0x110000 := c.valid
    generalize first : 0xd800 + (c.toNat - 0x10000) / 0x400 = high
    generalize second : 0xdc00 + (c.toNat - 0x10000) % 0x400 = low
    have joined : joinSurrogates high low = c := by
      have same : 0x10000 + (high - 0xd800) * 0x400 + (low - 0xdc00) = c.toNat := by omega
      rw [joinSurrogates, same, Char.ofNat_toNat]
    have pair : pair? high ('\\' :: 'u' :: (Text.hexOfNat 4 low ++ tail)) = some (c, tail) := by
      refine pair?_eq_some_iff.mpr ⟨_, low, rfl, ?_, code?_hexOfNat (by omega) more, ?_, joined⟩
      · simp only [isHighSurrogate, Bool.and_eq_true, decide_eq_true_eq]
        omega
      · simp only [isLowSurrogate, Bool.and_eq_true, decide_eq_true_eq]
        omega
    refine ⟨Text.hexOfNat 4 high ++ '\\' :: 'u' :: (Text.hexOfNat 4 low ++ tail), ?_, ?_⟩
    · simp [codeEscape]
    · rw [escaped?_of_code half (code?_hexOfNat (by omega) (List.cons_ne_nil _ _)), pair]
      rfl

theorem readString_writeChar (whole : Text) (fuel : Nat) (ascii : Bool) (c : Char) {tail : Text}
    (more : tail ≠ []) :
    readString half whole (fuel + 2) (writeChar ascii c ++ tail) =
      prepend c (readString half whole (fuel + 1) tail) := by
  have letter (mark char : Char) (noCode : mark ≠ 'u') (escape : simpleEscape? mark = some char) :
      readString half whole (fuel + 2) ('\\' :: mark :: tail) =
        prepend char (readString half whole (fuel + 1) tail) := by
    rw [readString_letter _ _ _ noCode, escape]
  by_cases quote : c = '"'
  · subst quote
    exact letter '"' '"' (by decide) rfl
  by_cases backslash : c = '\\'
  · subst backslash
    exact letter '\\' '\\' (by decide) rfl
  by_cases feed : c = '\n'
  · subst feed
    exact letter 'n' '\n' (by decide) rfl
  by_cases carriage : c = '\r'
  · subst carriage
    exact letter 'r' '\r' (by decide) rfl
  by_cases tab : c = '\t'
  · subst tab
    exact letter 't' '\t' (by decide) rfl
  by_cases backspace : c = '\x08'
  · subst backspace
    exact letter 'b' '\x08' (by decide) rfl
  by_cases formFeed : c = '\x0c'
  · subst formFeed
    exact letter 'f' '\x0c' (by decide) rfl
  simp only [writeChar, quote, backslash, feed, carriage, tab, backspace, formFeed, if_false]
  split
  next coded =>
    obtain ⟨digits, written, found⟩ := escaped?_codeUnits c more
    rw [written, readString_code, found]
  next plain =>
    have visible : 0x20 ≤ c.toNat := by
      by_contra control
      exact plain (.inl (by omega))
    exact readString_plain _ _ _ quote backslash visible

variable (half) in
theorem readString_written (whole : Text) (ascii : Bool) (t rest : Text) {fuel : Nat}
    (enough : t.length < fuel) :
    readString half whole fuel (t.flatMap (writeChar ascii) ++ '"' :: rest) = .ok (t, rest) := by
  induction t generalizing fuel with
  | nil =>
      obtain ⟨fuel, rfl⟩ := Nat.exists_eq_succ_of_ne_zero (Nat.ne_zero_of_lt enough)
      exact readString_quote whole fuel rest
  | cons c t ih =>
      rw [List.length_cons] at enough
      obtain ⟨fuel, rfl⟩ : ∃ n, fuel = n + 2 := ⟨fuel - 2, by omega⟩
      rw [List.flatMap_cons, List.append_assoc, readString_writeChar _ _ _ _ (by simp),
        ih (Nat.lt_of_succ_lt_succ enough)]
      rfl

end Strings

section Numbers

def endsNumber : Text → Bool
  | [] => true
  | c :: _ => !(Text.isDigit c || c == '.' || c == 'e' || c == 'E')

variable {rest : Text} (ended : endsNumber rest = true)

include ended

theorem span_written {digits : Text} (number : ∀ c ∈ digits, Text.isDigit c = true) :
    (digits ++ rest).span Text.isDigit = (digits, rest) := by
  have none : rest.takeWhile Text.isDigit = [] ∧ rest.dropWhile Text.isDigit = rest := by
    cases rest with
    | nil => exact ⟨rfl, rfl⟩
    | cons c after =>
        simp only [endsNumber, Bool.not_eq_true', Bool.or_eq_false_iff] at ended
        simp [ended.1.1.1]
  rw [List.span_eq_takeWhile_dropWhile, List.takeWhile_append_of_pos number,
    List.dropWhile_append_of_pos number, none.1, none.2, List.append_nil]

theorem fractionDigits_written : fractionDigits rest = ([], rest) := by
  cases rest with
  | nil => rfl
  | cons c after =>
      have noPoint : c ≠ '.' := by
        rintro rfl
        cases ended
      simp [fractionDigits, noPoint]

theorem exponent?_written : exponent? rest = none := by
  cases rest with
  | nil => rfl
  | cons c after =>
      simp only [endsNumber, Bool.not_eq_true', Bool.or_eq_false_iff, beq_eq_false_iff_ne] at ended
      simp [exponent?, ended.1.2, ended.2]

theorem wholeDigits_written (n : Nat) :
    wholeDigits (Text.ofNat n ++ rest) = (Text.ofNat n, rest) := by
  have number : ∀ c ∈ Text.ofNat n, Text.isDigit c = true := fun c => Text.isDigit_of_mem_ofNat
  have spanned := span_written ended number
  obtain ⟨c, more, digits⟩ := List.exists_cons_of_ne_nil (Text.ofNat_ne_nil n)
  by_cases zero : c = '0'
  · subst zero
    obtain ⟨rfl, rfl⟩ := Text.eq_zero_of_lead digits
    rw [digits]
    rfl
  · rw [digits] at spanned ⊢
    simpa [wholeDigits, zero] using spanned

theorem numeral?_written (negative : Bool) (n : Nat) :
    numeral? ((if negative then '-' :: Text.ofNat n else Text.ofNat n) ++ rest) =
      some (⟨negative, Text.ofNat n, [], none⟩, rest) := by
  have unsigned : minusOf ((if negative then '-' :: Text.ofNat n else Text.ofNat n) ++ rest) =
      (negative, Text.ofNat n ++ rest) := by
    cases negative with
    | true => rfl
    | false =>
        obtain ⟨c, more, digits, apart⟩ := Text.exists_cons_ofNat n
        simp [digits, minusOf, Ne.symm (apart '-' rfl)]
  simp [numeral?, unsigned, wholeDigits_written ended, Text.ofNat_ne_nil,
    fractionDigits_written ended, exponent?_written ended]

theorem number_written {n : Int} (short : isWritable n = true) :
    number (Text.ofInt n ++ rest) = .ok (.int n, rest) := by
  have few (k : Nat) (small : k < Nat.pow 10 digitLimit) : ¬ digitLimit < (Text.ofNat k).length := by
    -- The bound itself is too large to be worked out.
    have some : 0 < digitLimit := by decide
    generalize digitLimit = limit at some small ⊢
    exact Nat.not_lt.mpr ((Text.length_ofNat_le_iff some).mpr small)
  rw [isWritable_iff] at short
  cases n with
  | ofNat k =>
      have found := numeral?_written ended false k
      simp only [Bool.false_eq_true, if_false] at found
      rw [number_eq, Text.ofInt, found]
      simp [Numeral.datum, few k short, Numeral.integer, Text.toNat_ofNat, Except.map]
  | negSucc k =>
      have found := numeral?_written ended true (k + 1)
      simp only [if_true] at found
      rw [number_eq, Text.ofInt, found]
      simp [Numeral.datum, few (k + 1) short, Numeral.integer, Text.toNat_ofNat, Except.map]
      omega

omit ended in
theorem word?_written (n : Int) : word? (Text.ofInt n ++ rest) = none := by
  cases n with
  | ofNat k =>
      obtain ⟨c, more, digits, apart⟩ := Text.exists_cons_ofNat k
      simp [word?, words, Text.ofInt, digits, apart 'n' rfl, apart 't' rfl, apart 'f' rfl,
        apart 'N' rfl, apart 'I' rfl, apart '-' rfl]
  | negSucc k =>
      obtain ⟨c, more, digits, apart⟩ := Text.exists_cons_ofNat (k + 1)
      simp [word?, words, Text.ofInt, digits, apart 'I' rfl]

theorem simple_int {n : Int} (short : isWritable n = true) :
    simple (Text.ofInt n ++ rest) = .ok (.int n, rest) := by
  rw [simple, word?_written, number_written ended short]

omit ended in
theorem simple_null : simple ("null".toList ++ rest) = .ok (.null, rest) := rfl

omit ended in
theorem simple_bool (value : Bool) :
    simple ((if value then "true".toList else "false".toList) ++ rest) = .ok (.bool value, rest) := by
  cases value <;> rfl

end Numbers

end LintFindings.Json

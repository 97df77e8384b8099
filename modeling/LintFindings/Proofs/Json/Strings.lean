import LintFindings.Json.Reader

/-!
Reading a string one character at a time: what each way of writing a character comes to. A code
escape is read as one step, together with the other half if it starts a surrogate pair.
-/

namespace LintFindings.Json

def code? : Text → Option (Nat × Text)
  | a :: b :: c :: d :: next :: rest => (Text.hexToNat? [a, b, c, d]).map (·, next :: rest)
  | _ => none

def pair? (high : Nat) : Text → Option (Char × Text)
  | '\\' :: 'u' :: digits =>
    if isHighSurrogate high then
      match code? digits with
      | some (low, rest) =>
        if isLowSurrogate low then some (joinSurrogates high low, rest) else none
      | none => none
    else none
  | _ => none

def escaped? (half : Char) (digits : Text) : Option (Char × Text) :=
  (code? digits).map fun (high, rest) => (pair? high rest).getD (codeChar half high, rest)

variable {half : Char}

def prepend (char : Char) : Except Refusal (Text × Text) → Except Refusal (Text × Text) :=
  Except.map fun (chars, rest) => (char :: chars, rest)

theorem code?_eq_some_iff {digits rest : Text} {n : Nat} :
    code? digits = some (n, rest) ↔
      ∃ a b c d, digits = a :: b :: c :: d :: rest ∧ rest ≠ [] ∧
        Text.hexToNat? [a, b, c, d] = some n := by
  constructor
  · intro found
    unfold code? at found
    split at found
    next a b c d next after =>
      obtain ⟨value, read, same⟩ := Option.map_eq_some_iff.mp found
      obtain ⟨rfl, rfl⟩ := Prod.mk.inj same
      exact ⟨a, b, c, d, rfl, List.cons_ne_nil _ _, read⟩
    next => cases found
  · rintro ⟨a, b, c, d, rfl, more, read⟩
    obtain ⟨next, after, rfl⟩ := List.exists_cons_of_ne_nil more
    simp [code?, read]

theorem pair?_eq_some_iff {high : Nat} {t rest : Text} {char : Char} :
    pair? high t = some (char, rest) ↔
      ∃ digits low, t = '\\' :: 'u' :: digits ∧ isHighSurrogate high = true ∧
        code? digits = some (low, rest) ∧ isLowSurrogate low = true ∧
        joinSurrogates high low = char := by
  constructor
  · intro found
    unfold pair? at found
    split at found
    next digits =>
      split at found
      next isHigh =>
        split at found
        next low after read =>
          split at found
          next isLow =>
            obtain ⟨rfl, rfl⟩ := Prod.mk.inj (Option.some.inj found)
            exact ⟨digits, low, rfl, isHigh, read, isLow, rfl⟩
          next => cases found
        next => cases found
      next => cases found
    next => cases found
  · rintro ⟨digits, low, rfl, isHigh, read, isLow, rfl⟩
    simp [pair?, isHigh, read, isLow]

section Read

variable (whole : Text) (fuel : Nat)

theorem readString_nil : readString half whole fuel [] = .error (.malformed .openString whole) := by
  cases fuel <;> rfl

theorem readString_quote (rest : Text) :
    readString half whole (fuel + 1) ('"' :: rest) = .ok ([], rest) := rfl

theorem readString_open :
    readString half whole (fuel + 1) ['\\'] = .error (.malformed .openString whole) := rfl

theorem readString_letter {letter : Char} (rest : Text) (noCode : letter ≠ 'u') :
    readString half whole (fuel + 1) ('\\' :: letter :: rest) =
      match simpleEscape? letter with
      | none => .error (.malformed .escape ('\\' :: letter :: rest))
      | some char => prepend char (readString half whole fuel rest) := by
  have noQuote : '\\' ≠ '"' := by decide
  simp only [readString, noQuote, if_false, if_true]
  cases simpleEscape? letter with
  | none => rfl
  | some char => cases readString half whole fuel rest <;> rfl

theorem readString_control {c : Char} (rest : Text) (control : c.toNat < 0x20) :
    readString half whole (fuel + 1) (c :: rest) =
      .error (.malformed .controlCharacter (c :: rest)) := by
  have noQuote : c ≠ '"' := by
    rintro rfl
    exact absurd control (by decide)
  have noBackslash : c ≠ '\\' := by
    rintro rfl
    exact absurd control (by decide)
  simp only [readString, noQuote, noBackslash, control, if_false, if_true]

theorem readString_plain {c : Char} (rest : Text) (noQuote : c ≠ '"') (noBackslash : c ≠ '\\')
    (visible : 0x20 ≤ c.toNat) :
    readString half whole (fuel + 1) (c :: rest) = prepend c (readString half whole fuel rest) := by
  have noControl : ¬ c.toNat < 0x20 := by omega
  simp only [readString, noQuote, noBackslash, noControl, if_false]
  cases readString half whole fuel rest <;> rfl

end Read

/--
What reading a code escape comes to. Where the second half of a pair should follow and what follows
is no code, it is refused at once, and not only when it is reached.
-/
inductive CodeCase (half : Char) (digits : Text) : Except Refusal (Char × Text) → Prop
  | found {result : Char × Text} : escaped? half digits = some result →
    CodeCase half digits (.ok result)
  | unread : code? digits = none →
    CodeCase half digits (.error (.malformed .codeEscape ('u' :: digits)))
  | halved {high : Nat} {more : Text} : code? digits = some (high, '\\' :: 'u' :: more) →
    code? more = none → CodeCase half digits (.error (.malformed .codeEscape ('u' :: more)))

theorem escaped?_of_code (half : Char) {digits rest : Text} {high : Nat}
    (read : code? digits = some (high, rest)) :
    escaped? half digits = some ((pair? high rest).getD (codeChar half high, rest)) := by
  rw [escaped?, read]
  rfl

theorem pair?_of_single {high : Nat} {rest : Text}
    (single : ∀ e f g h last rest', rest ≠ '\\' :: 'u' :: e :: f :: g :: h :: last :: rest') :
    pair? high rest = none := by
  rw [Option.eq_none_iff_forall_ne_some]
  rintro ⟨char, after⟩ found
  obtain ⟨digits, low, rfl, -, read, -⟩ := pair?_eq_some_iff.mp found
  obtain ⟨e, f, g, h, rfl, more, -⟩ := code?_eq_some_iff.mp read
  obtain ⟨last, rest', rfl⟩ := List.exists_cons_of_ne_nil more
  exact single e f g h last rest' rfl

theorem readCode_case (half : Char) (digits : Text) :
    CodeCase half digits (readCode half digits) := by
  unfold readCode
  split
  next a b c d next rest =>
    cases value : Text.hexToNat? [a, b, c, d] with
    | none => exact .unread (by simp [code?, value])
    | some high =>
        have read : code? (a :: b :: c :: d :: next :: rest) = some (high, next :: rest) := by
          simp [code?, value]
        have whole := escaped?_of_code half read
        dsimp only
        split
        next e f g h last rest' =>
          cases isHigh : isHighSurrogate high with
          | false =>
              simp only [Bool.false_eq_true, if_false]
              exact .found (by simpa [pair?, isHigh] using whole)
          | true =>
              simp only [if_true]
              cases value' : Text.hexToNat? [e, f, g, h] with
              | none => exact .halved read (by simp [code?, value'])
              | some low =>
                  dsimp only
                  split
                  all_goals
                    next isLow =>
                      exact .found (by simpa [pair?, code?, isHigh, value', isLow] using whole)
        next single =>
          refine .found ?_
          rw [whole, pair?_of_single]
          · rfl
          · intro e f g h last rest' same
            obtain ⟨rfl, rfl⟩ := List.cons_eq_cons.mp same
            exact single e f g h last rest' rfl rfl
  next short =>
    refine .unread ?_
    rw [Option.eq_none_iff_forall_ne_some]
    rintro ⟨n, rest⟩ read
    obtain ⟨a, b, c, d, rfl, more, -⟩ := code?_eq_some_iff.mp read
    obtain ⟨next, after, rfl⟩ := List.exists_cons_of_ne_nil more
    exact short a b c d next after rfl

theorem readCode_of_unread {digits : Text} (unread : code? digits = none) :
    readCode half digits = .error (.malformed .codeEscape ('u' :: digits)) := by
  have case := readCode_case half digits
  generalize readCode half digits = result at case
  cases case with
  | found found => simp [escaped?, unread] at found
  | unread => rfl
  | halved read => simp [unread] at read

theorem readString_readCode (whole : Text) (fuel : Nat) (digits : Text) :
    readString half whole (fuel + 1) ('\\' :: 'u' :: digits) =
      readCode half digits >>= fun found => prepend found.1 (readString half whole fuel found.2) := by
  have noQuote : '\\' ≠ '"' := by decide
  simp only [readString, noQuote, if_false, if_true]
  cases readCode half digits with
  | error refusal => rfl
  | ok found =>
      obtain ⟨char, rest⟩ := found
      simp only [bind, Except.bind, prepend]
      cases readString half whole fuel rest <;> rfl

theorem readString_code (whole : Text) (fuel : Nat) (digits : Text) :
    readString half whole (fuel + 2) ('\\' :: 'u' :: digits) =
      match escaped? half digits with
      | none => .error (.malformed .codeEscape ('u' :: digits))
      | some (char, rest) => prepend char (readString half whole (fuel + 1) rest) := by
  have case := readCode_case half digits
  rw [readString_readCode]
  generalize readCode half digits = result at case
  cases case with
  | found found =>
      rw [found]
      rfl
  | unread unread =>
      rw [escaped?, unread]
      rfl
  | @halved high more read unread =>
      have alone : escaped? half digits = some (codeChar half high, '\\' :: 'u' :: more) := by
        rw [escaped?_of_code half read]
        simp [pair?, unread]
      simp only [alone, readString_readCode, readCode_of_unread unread]
      rfl

end LintFindings.Json

import LintFindings.Proofs.Json.Breaks.Numbers
import LintFindings.Proofs.Json.Strings

/-!
Reading a string before and after its line breaks are unified. A line break in a string is refused
where it stands, and so is one after a backslash, however it is spelled.
-/

namespace LintFindings.Json

open Text

section Strings

variable {half : Char}

theorem noBreaks_of_hexToNat? {a b c d : Char} {n : Nat} (value : hexToNat? [a, b, c, d] = some n) :
    '\r' ∉ [a, b, c, d] ∧ '\n' ∉ [a, b, c, d] := by
  simp only [hexToNat?, List.foldlM_cons, List.foldlM_nil, Option.bind_eq_bind, Option.bind_eq_some_iff,
    Option.map_eq_some_iff] at value
  obtain ⟨-, ⟨w, first, -⟩, -, ⟨x, second, -⟩, -, ⟨y, third, -⟩, -, ⟨z, fourth, -⟩, -⟩ := value
  simp only [List.mem_cons, List.not_mem_nil, or_false]
  -- A line break is no hexadecimal digit.
  constructor
  all_goals
    rintro (rfl | rfl | rfl | rfl)
    · cases first
    · cases second
    · cases third
    · cases fourth

theorem endsWith_code? {digits rest : Text} {n : Nat} (found : code? digits = some (n, rest)) :
    EndsWith digits rest := by
  obtain ⟨a, b, c, d, rfl, -, value⟩ := code?_eq_some_iff.mp found
  exact EndsWith.append (noBreaks_of_hexToNat? value).1 rest

theorem code?_unifyBreaks (digits : Text) :
    code? digits.unifyBreaks = (code? digits).map (Prod.map id unifyBreaks) := by
  apply Option.ext
  rintro ⟨n, rest⟩
  simp only [Option.map_eq_some_iff, Prod.exists, code?_eq_some_iff]
  constructor
  · rintro ⟨a, b, c, d, starts, more, value⟩
    obtain ⟨after, rfl, rfl⟩ :=
      exists_of_unifyBreaks_append [a, b, c, d] (noBreaks_of_hexToNat? value).2 starts
    exact ⟨n, after, ⟨a, b, c, d, rfl, mt unifyBreaks_eq_nil.mpr more, value⟩, rfl⟩
  · rintro ⟨n', after, ⟨a, b, c, d, rfl, more, value⟩, same⟩
    obtain ⟨rfl, rfl⟩ := Prod.mk.inj same
    refine ⟨a, b, c, d, ?_, mt unifyBreaks_eq_nil.mp more, value⟩
    exact unifyBreaks_append [a, b, c, d] (noBreaks_of_hexToNat? value).1 after

theorem pair?_unifyBreaks (high : Nat) (t : Text) :
    pair? high t.unifyBreaks = (pair? high t).map (Prod.map id unifyBreaks) := by
  apply Option.ext
  rintro ⟨char, rest⟩
  simp only [Option.map_eq_some_iff, Prod.exists, pair?_eq_some_iff]
  constructor
  · rintro ⟨digits, low, starts, isHigh, read, isLow, same⟩
    obtain ⟨digits, rfl, rfl⟩ := exists_of_unifyBreaks_append ['\\', 'u'] (by decide) starts
    rw [code?_unifyBreaks, Option.map_eq_some_iff] at read
    obtain ⟨⟨low', after⟩, read, unified⟩ := read
    obtain ⟨rfl, rfl⟩ := Prod.mk.inj unified
    exact ⟨char, after, ⟨digits, low', rfl, isHigh, read, isLow, same⟩, rfl⟩
  · rintro ⟨char, after, ⟨digits, low, rfl, isHigh, read, isLow, rfl⟩, unified⟩
    obtain ⟨rfl, rfl⟩ := Prod.mk.inj unified
    refine ⟨unifyBreaks digits, low, ?_, isHigh, ?_, isLow, (id_eq _).symm⟩
    · exact unifyBreaks_append ['\\', 'u'] (by decide) digits
    · rw [code?_unifyBreaks, read]
      rfl

theorem escaped?_unifyBreaks (digits : Text) :
    escaped? half digits.unifyBreaks = (escaped? half digits).map (Prod.map id unifyBreaks) := by
  rw [escaped?, escaped?, code?_unifyBreaks]
  cases code? digits with
  | none => rfl
  | some found =>
      obtain ⟨high, rest⟩ := found
      simp only [Option.map_some, Prod.map, id, pair?_unifyBreaks]
      cases pair? high rest <;> rfl

theorem endsWith_escaped? {digits rest : Text} {char : Char}
    (found : escaped? half digits = some (char, rest)) : EndsWith digits rest := by
  obtain ⟨⟨high, after⟩, read, found⟩ := Option.map_eq_some_iff.mp found
  have ends := endsWith_code? read
  dsimp only at found
  cases pair : pair? high after with
  | none =>
      rw [pair] at found
      cases found
      exact ends
  | some joined =>
      rw [pair] at found
      obtain rfl : joined = (char, rest) := found
      obtain ⟨digits', low, rfl, -, read', -⟩ := pair?_eq_some_iff.mp pair
      exact ends.trans (.char (by decide) (.char (by decide) (endsWith_code? read')))

theorem Matches.prepend {t : Text} {result unified : Except Refusal (Text × Text)} (char : Char)
    (alike : Matches t result unified) :
    Matches t (Json.prepend char result) (Json.prepend char unified) := by
  cases alike with
  | found ends => exact .found ends
  | malformed fault ends => exact .malformed _ ends
  | digitLimit => exact .digitLimit

theorem exists_unifyBreaks_control {c : Char} (control : c.toNat < 0x20) (rest : Text) :
    ∃ c' after, unifyBreaks (c :: rest) = c' :: after ∧ c'.toNat < 0x20 := by
  by_cases isReturn : c = '\r'
  · subst isReturn
    obtain ⟨after, starts⟩ := exists_unifyBreaks_return rest
    exact ⟨'\n', after, starts, by decide⟩
  · exact ⟨c, unifyBreaks rest, unifyBreaks_cons isReturn, control⟩

section Escapes

variable {whole : Text} {fuel fuel' : Nat}

def StringsMatch (half : Char) (whole : Text) (fuel fuel' : Nat) : Prop :=
  ∀ {t : Text}, EndsWith whole t → t.length < fuel → t.unifyBreaks.length < fuel' →
    Matches whole (readString half whole fuel t) (readString half whole.unifyBreaks fuel' t.unifyBreaks)

theorem readString_code_matches (shorter : StringsMatch half whole (fuel + 1) (fuel' + 1))
    {digits : Text} (inside : EndsWith whole ('\\' :: 'u' :: digits)) (enough : digits.length < fuel + 1)
    (enough' : digits.unifyBreaks.length < fuel' + 1) :
    Matches whole (readString half whole (fuel + 2) ('\\' :: 'u' :: digits))
      (readString half whole.unifyBreaks (fuel' + 2) ('\\' :: 'u' :: digits.unifyBreaks)) := by
  have letter : EndsWith whole ('u' :: digits) := inside.trans (.char (by decide) (.whole _))
  have after : EndsWith whole digits := letter.trans (.char (by decide) (.whole _))
  rw [readString_code, readString_code, escaped?_unifyBreaks]
  cases found : escaped? half digits with
  | none => exact .malformed _ letter
  | some escaped =>
      obtain ⟨char, rest⟩ := escaped
      have ends := endsWith_escaped? found
      refine .prepend char (shorter (after.trans ends) ?_ ?_)
      · exact Nat.lt_of_le_of_lt ends.length_le enough
      · exact Nat.lt_of_le_of_lt ends.unified_length_le enough'

theorem readString_letter_matches (shorter : StringsMatch half whole fuel fuel') {letter : Char}
    {rest : Text} (noCode : letter ≠ 'u') (inside : EndsWith whole ('\\' :: letter :: rest))
    (enough : rest.length < fuel) (enough' : (unifyBreaks (letter :: rest)).length < fuel') :
    Matches whole (readString half whole (fuel + 1) ('\\' :: letter :: rest))
      (readString half whole.unifyBreaks (fuel' + 1) ('\\' :: unifyBreaks (letter :: rest))) := by
  have unified : unifyBreaks ('\\' :: letter :: rest) = '\\' :: unifyBreaks (letter :: rest) :=
    unifyBreaks_cons (by decide)
  have refused := Matches.malformed (α := Text) .escape inside
  rw [unified] at refused
  by_cases isReturn : letter = '\r'
  · subst isReturn
    -- Neither a carriage return nor a line feed is the letter of an escape.
    obtain ⟨after, starts⟩ := exists_unifyBreaks_return rest
    rw [starts] at refused ⊢
    rw [readString_letter _ _ _ noCode, readString_letter _ _ _ (by decide)]
    exact refused
  · have after : EndsWith whole rest :=
      inside.trans (.char (by decide) (.char isReturn (.whole rest)))
    rw [unifyBreaks_cons isReturn] at refused ⊢
    rw [readString_letter _ _ _ noCode, readString_letter _ _ _ noCode]
    cases simpleEscape? letter with
    | none => exact refused
    | some char =>
        rw [unifyBreaks_cons isReturn] at enough'
        exact .prepend char (shorter after enough (Nat.lt_of_succ_lt enough'))

theorem readString_backslash_matches (shorter : StringsMatch half whole fuel fuel') {rest : Text}
    (inside : EndsWith whole ('\\' :: rest)) (enough : rest.length < fuel)
    (enough' : (unifyBreaks rest).length < fuel') :
    Matches whole (readString half whole (fuel + 1) ('\\' :: rest))
      (readString half whole.unifyBreaks (fuel' + 1) ('\\' :: unifyBreaks rest)) := by
  cases rest with
  | nil =>
      have unified : readString half whole.unifyBreaks (fuel' + 1) ['\\'] = _ :=
        readString_open whole.unifyBreaks fuel'
      rw [readString_open]
      exact unified ▸ .malformed _ (.whole whole)
  | cons letter rest =>
      rw [List.length_cons] at enough
      by_cases code : letter = 'u'
      · subst code
        rw [unifyBreaks_cons (by decide)] at enough' ⊢
        rw [List.length_cons] at enough'
        obtain ⟨fuel, rfl⟩ := Nat.exists_eq_succ_of_ne_zero (Nat.ne_zero_of_lt enough)
        obtain ⟨fuel', rfl⟩ := Nat.exists_eq_succ_of_ne_zero (Nat.ne_zero_of_lt enough')
        exact readString_code_matches shorter inside (Nat.lt_of_succ_lt enough)
          (Nat.lt_of_succ_lt enough')
      · exact readString_letter_matches shorter code inside (Nat.lt_of_succ_lt enough) enough'

end Escapes

theorem readString_char_matches {whole : Text} {fuel fuel' : Nat}
    (shorter : StringsMatch half whole fuel fuel') {c : Char} {rest : Text} (quote : c ≠ '"')
    (backslash : c ≠ '\\') (inside : EndsWith whole (c :: rest)) (enough : rest.length < fuel)
    (enough' : (unifyBreaks (c :: rest)).length < fuel' + 1) :
    Matches whole (readString half whole (fuel + 1) (c :: rest))
      (readString half whole.unifyBreaks (fuel' + 1) (unifyBreaks (c :: rest))) := by
  by_cases control : c.toNat < 0x20
  · obtain ⟨c', after, starts, control'⟩ := exists_unifyBreaks_control control rest
    have refused := Matches.malformed (α := Text) .controlCharacter inside
    rw [starts] at refused ⊢
    rw [readString_control _ _ _ control, readString_control _ _ _ control']
    exact refused
  · have noReturn : c ≠ '\r' := by
      rintro rfl
      exact control (by decide)
    have visible := Nat.le_of_not_lt control
    rw [unifyBreaks_cons noReturn] at enough' ⊢
    rw [readString_plain _ _ _ quote backslash visible,
      readString_plain _ _ _ quote backslash visible]
    exact .prepend c
      (shorter (inside.trans (.char noReturn (.whole rest))) enough (Nat.lt_of_succ_lt_succ enough'))

theorem readString_matches (whole : Text) (fuel fuel' : Nat) : StringsMatch half whole fuel fuel' := by
  induction fuel generalizing fuel' with
  | zero =>
      intro t _ enough
      cases enough
  | succ fuel ih =>
      intro t inside enough enough'
      obtain ⟨fuel', rfl⟩ := Nat.exists_eq_succ_of_ne_zero (Nat.ne_zero_of_lt enough')
      cases t with
      | nil =>
          have unified : readString half whole.unifyBreaks (fuel' + 1) [] = _ :=
            readString_nil whole.unifyBreaks (fuel' + 1)
          rw [readString_nil]
          exact unified ▸ .malformed _ (.whole whole)
      | cons c rest =>
          have fewer : rest.length < fuel := Nat.lt_of_succ_lt_succ enough
          by_cases quote : c = '"'
          · subst quote
            rw [unifyBreaks_cons (by decide), readString_quote, readString_quote]
            exact .found (inside.trans (.char (by decide) (.whole rest)))
          by_cases backslash : c = '\\'
          · subst backslash
            rw [unifyBreaks_cons (by decide)] at enough' ⊢
            exact readString_backslash_matches (ih fuel') inside fewer
              (Nat.lt_of_succ_lt_succ enough')
          · exact readString_char_matches (ih fuel') quote backslash inside fewer enough'

end Strings

end LintFindings.Json

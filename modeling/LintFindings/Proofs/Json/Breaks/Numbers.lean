import LintFindings.Proofs.Json.Numerals
import LintFindings.Proofs.Json.Values
import LintFindings.Proofs.Text.Breaks
import Mathlib.Data.List.TakeDrop

/-!
Reading a JSON text before and after its line breaks are unified: what it is for both readings to
match, and that those of spaces, numbers and words do. None of their characters is a line break.
-/

namespace LintFindings.Json

open Text

/-- What reading from a text comes to before and after its line breaks are unified. -/
inductive Matches {α : Type} (t : Text) :
    Except Refusal (α × Text) → Except Refusal (α × Text) → Prop
  | found {result : α} {rest : Text} : EndsWith t rest →
    Matches t (.ok (result, rest)) (.ok (result, rest.unifyBreaks))
  | malformed (fault : Fault) {rest : Text} : EndsWith t rest →
    Matches t (.error (.malformed fault rest)) (.error (.malformed fault rest.unifyBreaks))
  | digitLimit : Matches t (.error .digitLimit) (.error .digitLimit)

section Matches

variable {α β : Type} {t whole : Text}

theorem Matches.mono {result unified : Except Refusal (α × Text)} (alike : Matches t result unified)
    (ends : EndsWith whole t) : Matches whole result unified := by
  cases alike with
  | found inside => exact .found (ends.trans inside)
  | malformed fault inside => exact .malformed _ (ends.trans inside)
  | digitLimit => exact .digitLimit

theorem Matches.bind {first unified : Except Refusal (α × Text)}
    {next next' : α × Text → Except Refusal (β × Text)} (alike : Matches t first unified)
    (goesOn : ∀ result rest, EndsWith t rest →
      Matches rest (next (result, rest)) (next' (result, rest.unifyBreaks))) :
    Matches t (first >>= next) (unified >>= next') := by
  cases alike with
  | found inside => exact (goesOn _ _ inside).mono inside
  | malformed fault inside => exact .malformed _ inside
  | digitLimit => exact .digitLimit

end Matches

section Spans

variable {p : Char → Bool}

theorem takeWhile_unifyBreaks (noReturn : p '\r' = false) (noFeed : p '\n' = false) (t : Text) :
    t.unifyBreaks.takeWhile p = t.takeWhile p := by
  induction t using unifyBreaks.induct with
  | case1 rest ih => simp [unifyBreaks_pair, noReturn, noFeed]
  | case2 rest lone ih => simp [unifyBreaks_lone lone, noReturn, noFeed]
  | case3 c rest _ other ih =>
      rw [unifyBreaks_cons other, List.takeWhile_cons, List.takeWhile_cons, ih]
  | case4 => rfl

theorem dropWhile_unifyBreaks (alike : p '\r' = p '\n') (t : Text) :
    t.unifyBreaks.dropWhile p = unifyBreaks (t.dropWhile p) := by
  induction t using unifyBreaks.induct with
  | case1 rest ih =>
      cases skips : p '\n' with
      | false => simp [unifyBreaks_pair, alike, skips]
      | true => simpa [unifyBreaks_pair, alike, skips] using ih
  | case2 rest lone ih =>
      cases skips : p '\n' with
      | false => simp [unifyBreaks_lone lone, alike, skips]
      | true => simpa [unifyBreaks_lone lone, alike, skips] using ih
  | case3 c rest _ other ih =>
      cases skips : p c with
      | false => simp [unifyBreaks_cons other, skips]
      | true => simpa [unifyBreaks_cons other, skips] using ih
  | case4 => rfl

theorem endsWith_dropWhile (alike : p '\r' = p '\n') (t : Text) : EndsWith t (t.dropWhile p) := by
  induction t using unifyBreaks.induct with
  | case1 rest ih =>
      cases skips : p '\n' with
      | false => simpa [alike, skips] using EndsWith.whole _
      | true => simpa [alike, skips] using EndsWith.pair ih
  | case2 rest lone ih =>
      cases skips : p '\n' with
      | false => simpa [alike, skips] using EndsWith.whole _
      | true => simpa [alike, skips] using EndsWith.lone lone ih
  | case3 c rest _ other ih =>
      cases skips : p c with
      | false => simpa [skips] using EndsWith.whole _
      | true => simpa [skips] using EndsWith.char other ih
  | case4 => exact .whole []

theorem skipSpace_unifyBreaks (t : Text) : skipSpace t.unifyBreaks = (skipSpace t).unifyBreaks :=
  dropWhile_unifyBreaks (p := isSpace) rfl t

theorem endsWith_skipSpace (t : Text) : EndsWith t (skipSpace t) :=
  endsWith_dropWhile (p := isSpace) rfl t

end Spans

section Numbers

inductive TakesOff {α : Type} (t : Text) : α × Text → α × Text → Prop
  | intro (part : α) {rest : Text} : EndsWith t rest → TakesOff t (part, rest) (part, rest.unifyBreaks)

theorem span_takesOff {p : Char → Bool} (noReturn : p '\r' = false) (noFeed : p '\n' = false)
    (t : Text) : TakesOff t (t.span p) (t.unifyBreaks.span p) := by
  have alike : p '\r' = p '\n' := noReturn.trans noFeed.symm
  rw [List.span_eq_takeWhile_dropWhile, List.span_eq_takeWhile_dropWhile,
    takeWhile_unifyBreaks noReturn noFeed, dropWhile_unifyBreaks alike]
  exact .intro _ (endsWith_dropWhile alike t)

theorem digits_takesOff (t : Text) :
    TakesOff t (t.span isDigit) (t.unifyBreaks.span isDigit) :=
  span_takesOff (p := isDigit) rfl rfl t

theorem wholeDigits_takesOff (t : Text) : TakesOff t (wholeDigits t) (wholeDigits t.unifyBreaks) := by
  have spanned {t : Text} (noZero : ∀ rest, t ≠ '0' :: rest) : wholeDigits t = t.span isDigit := by
    unfold wholeDigits
    split
    next rest => exact absurd rfl (noZero rest)
    next => rfl
  rcases starts_cases (c := '0') (by decide) (by decide) t with
    ⟨rest, rfl, starts⟩ | ⟨noZero, noZero'⟩
  · rw [starts]
    exact .intro ['0'] (.char (by decide) (.whole rest))
  · rw [spanned noZero, spanned noZero']
    exact digits_takesOff t

theorem fractionDigits_takesOff (t : Text) :
    TakesOff t (fractionDigits t) (fractionDigits t.unifyBreaks) := by
  have none {t : Text} (noPoint : ∀ rest, t ≠ '.' :: rest) : fractionDigits t = ([], t) := by
    unfold fractionDigits
    split
    next rest => exact absurd rfl (noPoint rest)
    next => rfl
  rcases starts_cases (c := '.') (by decide) (by decide) t with
    ⟨rest, rfl, starts⟩ | ⟨noPoint, noPoint'⟩
  · have digits := digits_takesOff rest
    rw [starts]
    simp only [fractionDigits]
    generalize rest.span isDigit = split, (unifyBreaks rest).span isDigit = split' at digits ⊢
    cases digits with
    | @intro part after ends =>
        cases part with
        | nil => exact starts ▸ .intro [] (.whole _)
        | cons c others => exact .intro _ (.char (by decide) ends)
  · rw [none noPoint, none noPoint']
    exact .intro [] (.whole t)

theorem signOf_takesOff (t : Text) : TakesOff t (signOf t) (signOf t.unifyBreaks) := by
  rcases starts_cases (c := '-') (by decide) (by decide) t with
    ⟨rest, rfl, starts⟩ | ⟨noMinus, noMinus'⟩
  · rw [starts]
    exact .intro true (.char (by decide) (.whole rest))
  · rcases starts_cases (c := '+') (by decide) (by decide) t with
      ⟨rest, rfl, starts⟩ | ⟨noPlus, noPlus'⟩
    · rw [starts]
      exact .intro false (.char (by decide) (.whole rest))
    · have none {t : Text} (noMinus : ∀ rest, t ≠ '-' :: rest) (noPlus : ∀ rest, t ≠ '+' :: rest) :
          signOf t = (false, t) := by
        unfold signOf
        split
        next rest => exact absurd rfl (noMinus rest)
        next rest => exact absurd rfl (noPlus rest)
        next => rfl
      rw [none noMinus noPlus, none noMinus' noPlus']
      exact .intro false (.whole t)

inductive MayTakeOff {α : Type} (t : Text) : Option (α × Text) → Option (α × Text) → Prop
  | none : MayTakeOff t none none
  | some {part part' : α × Text} : TakesOff t part part' → MayTakeOff t (some part) (some part')

theorem exponent?_takesOff (t : Text) :
    MayTakeOff t (exponent? t) (exponent? t.unifyBreaks) := by
  cases t with
  | nil => exact .none
  | cons c rest =>
      by_cases isReturn : c = '\r'
      · subst isReturn
        obtain ⟨after, starts⟩ := exists_unifyBreaks_return rest
        rw [starts]
        exact .none
      · rw [unifyBreaks_cons isReturn]
        unfold exponent?
        dsimp only
        split
        next =>
          have sign := signOf_takesOff rest
          generalize signOf rest = split, signOf (unifyBreaks rest) = split' at sign ⊢
          cases sign with
          | @intro negative after ends =>
              have digits := digits_takesOff after
              dsimp only
              generalize after.span isDigit = split, after.unifyBreaks.span isDigit = split' at digits ⊢
              cases digits with
              | @intro part last ends' =>
                  cases part with
                  | nil => exact .none
                  | cons first others =>
                      exact .some (.intro _ (.char isReturn (ends.trans ends')))
        next => exact .none

theorem minusOf_takesOff (t : Text) : TakesOff t (minusOf t) (minusOf t.unifyBreaks) := by
  have none {t : Text} (noMinus : ∀ rest, t ≠ '-' :: rest) : minusOf t = (false, t) := by
    unfold minusOf
    split
    next rest => exact absurd rfl (noMinus rest)
    next => rfl
  rcases starts_cases (c := '-') (by decide) (by decide) t with
    ⟨rest, rfl, starts⟩ | ⟨noMinus, noMinus'⟩
  · rw [starts]
    exact .intro true (.char (by decide) (.whole rest))
  · rw [none noMinus, none noMinus']
    exact .intro false (.whole t)

theorem numeral?_takesOff (t : Text) : MayTakeOff t (numeral? t) (numeral? t.unifyBreaks) := by
  have sign := minusOf_takesOff t
  unfold numeral?
  generalize minusOf t = split, minusOf t.unifyBreaks = split' at sign ⊢
  cases sign with
  | @intro negative unsigned ends =>
      have digits := wholeDigits_takesOff unsigned
      dsimp only
      generalize wholeDigits unsigned = split, wholeDigits unsigned.unifyBreaks = split' at digits ⊢
      cases digits with
      | @intro digits rest inside =>
          have ends := ends.trans inside
          dsimp only
          split
          next => exact .none
          next =>
            have fraction := fractionDigits_takesOff rest
            generalize fractionDigits rest = split, fractionDigits rest.unifyBreaks = split'
              at fraction ⊢
            cases fraction with
            | @intro fraction rest inside =>
                have ends := ends.trans inside
                have exponent := exponent?_takesOff rest
                dsimp only
                generalize exponent? rest = split, exponent? rest.unifyBreaks = split' at exponent ⊢
                cases exponent with
                | none => exact .some (.intro _ ends)
                | some taken =>
                    cases taken with
                    | intro size inside => exact .some (.intro _ (ends.trans inside))

theorem number_matches (whole : Text) : Matches whole (number whole) (number whole.unifyBreaks) := by
  have parts := numeral?_takesOff whole
  rw [number_eq, number_eq]
  generalize numeral? whole = found, numeral? whole.unifyBreaks = found' at parts ⊢
  cases parts with
  | none => exact .malformed _ (.whole whole)
  | some taken =>
      cases taken with
      | intro numeral ends =>
          dsimp only
          cases read : numeral.datum with
          | ok datum => exact .found ends
          | error refusal =>
              obtain rfl := Numeral.digitLimit_of_datum read
              exact .digitLimit

theorem word?_takesOff (t : Text) : MayTakeOff t (word? t) (word? t.unifyBreaks) := by
  have noBreaks : ∀ row ∈ words, '\r' ∉ row.1.toList ∧ '\n' ∉ row.1.toList := by decide
  unfold word?
  generalize words = listed at noBreaks ⊢
  induction listed with
  | nil => exact .none
  | cons row rest ih =>
      obtain ⟨word, datum⟩ := row
      have ⟨noReturn, noFeed⟩ := noBreaks _ List.mem_cons_self
      have others := ih fun other member => noBreaks other (List.mem_cons_of_mem _ member)
      simp only [List.findSome?_cons]
      by_cases starts : word.toList <+: t
      · obtain ⟨after, rfl⟩ := starts
        have found (tail : Text) : (if word.toList.isPrefixOf (word.toList ++ tail) = true then
            some (datum, (word.toList ++ tail).drop word.length) else none) = some (datum, tail) := by
          rw [if_pos (List.isPrefixOf_iff_prefix.mpr (List.prefix_append _ _)), ← String.length_toList,
            List.drop_left]
        rw [unifyBreaks_append _ noReturn, found, found]
        exact .some (.intro _ (.append noReturn after))
      · have starts' : ¬ word.toList <+: t.unifyBreaks := by
          rintro ⟨after, same⟩
          obtain ⟨before, rfl, -⟩ := exists_of_unifyBreaks_append _ noFeed same.symm
          exact starts (List.prefix_append _ _)
        rw [← List.isPrefixOf_iff_prefix] at starts starts'
        rw [if_neg starts, if_neg starts']
        exact others

theorem simple_matches (t : Text) : Matches t (simple t) (simple t.unifyBreaks) := by
  have words := word?_takesOff t
  unfold simple
  generalize word? t = found, word? t.unifyBreaks = found' at words ⊢
  cases words with
  | none => exact number_matches t
  | some taken =>
      cases taken with
      | intro datum ends => exact .found ends

end Numbers

end LintFindings.Json

import LintFindings.Styler
import LintFindings.Text.Blank

/-!
Escape codes in a text, and the text without them. A code is searched from left to right, and what
looks like the start of one stays where it is when no code comes of it.
-/

namespace LintFindings.Text

def isCodeChar (c : Char) : Bool := isDigit c || c == ';'

def afterCode? : Text → Option Text
  | '[' :: rest =>
    match rest.dropWhile isCodeChar with
    | 'm' :: after => some after
    | _ => none
  | _ => none

theorem length_lt_of_afterCode? {t after : Text} (found : afterCode? t = some after) :
    after.length < t.length := by
  unfold afterCode? at found
  split at found
  next rest =>
    split at found
    next shorter =>
      have bound := (List.dropWhile_suffix (l := rest) isCodeChar).length_le
      rw [shorter] at bound
      cases found
      simp only [List.length_cons] at bound ⊢
      omega
    next => cases found
  next => cases found

def withoutCodes : Text → Text
  | [] => []
  | c :: rest =>
    if c = Styler.escapeChar then
      match _found : afterCode? rest with
      | some after => withoutCodes after
      | none => c :: withoutCodes rest
    else c :: withoutCodes rest
termination_by t => t.length
decreasing_by
  · have shorter := length_lt_of_afterCode? ‹afterCode? rest = some after›
    simp only [List.length_cons]
    omega
  · simp
  · simp

/-- A character that no code has after its escape character. -/
def isOutsideCodes (c : Char) : Bool := !(isCodeChar c || c == '[' || c == 'm')

theorem withoutCodes_nil : withoutCodes [] = [] := by rw [withoutCodes]

theorem withoutCodes_cons {c : Char} (plain : c ≠ Styler.escapeChar) (t : Text) :
    withoutCodes (c :: t) = c :: withoutCodes t := by
  rw [withoutCodes, if_neg plain]

theorem withoutCodes_code {rest after : Text} (found : afterCode? rest = some after) :
    withoutCodes (Styler.escapeChar :: rest) = withoutCodes after := by
  rw [withoutCodes, if_pos rfl]
  split
  next other =>
    rw [found] at other
    cases other
    rfl
  next none =>
    rw [found] at none
    cases none

theorem withoutCodes_noCode {rest : Text} (none : afterCode? rest = none) :
    withoutCodes (Styler.escapeChar :: rest) = Styler.escapeChar :: withoutCodes rest := by
  rw [withoutCodes, if_pos rfl]
  split
  next found =>
    rw [none] at found
    cases found
  next => rfl

section Parts

variable {c : Char} (outside : isOutsideCodes c = true)

include outside

theorem dropWhile_append_outside (s t : Text) :
    (s ++ c :: t).dropWhile isCodeChar = s.dropWhile isCodeChar ++ c :: t := by
  have stops : isCodeChar c = false := by
    simp only [isOutsideCodes, Bool.not_eq_true', Bool.or_eq_false_iff] at outside
    exact outside.1.1
  induction s with
  | nil => simp [stops]
  | cons d s ih =>
      cases digit : isCodeChar d with
      | true => simpa [digit] using ih
      | false => simp [digit]

theorem afterCode?_append_outside (s t : Text) :
    afterCode? (s ++ c :: t) = (afterCode? s).map (· ++ c :: t) := by
  have noBracket : c ≠ '[' := by
    rintro rfl
    exact absurd outside (by decide)
  have noEnd : c ≠ 'm' := by
    rintro rfl
    exact absurd outside (by decide)
  cases s with
  | nil => simp [afterCode?, noBracket]
  | cons d s =>
      by_cases bracket : d = '['
      · subst bracket
        simp only [List.cons_append, afterCode?, dropWhile_append_outside outside]
        cases s.dropWhile isCodeChar with
        | nil => simp [noEnd]
        | cons e rest =>
            by_cases last : e = 'm'
            · simp [last]
            · simp [last]
      · simp [afterCode?, bracket]

theorem withoutCodes_append_outside (s t : Text) :
    withoutCodes (s ++ c :: t) = withoutCodes s ++ withoutCodes (c :: t) := by
  fun_induction withoutCodes s with
  | case1 => rfl
  | case2 rest after found ih =>
      have longer : afterCode? (rest ++ c :: t) = some (after ++ c :: t) := by
        rw [afterCode?_append_outside outside, found, Option.map_some]
      rw [List.cons_append, withoutCodes_code longer, ih]
  | case3 rest none ih =>
      have still : afterCode? (rest ++ c :: t) = Option.none := by
        rw [afterCode?_append_outside outside, none, Option.map_none]
      rw [List.cons_append, withoutCodes_noCode still, ih, List.cons_append]
  | case4 d rest plain ih => rw [List.cons_append, withoutCodes_cons plain, ih, List.cons_append]

end Parts

theorem withoutCodes_append_blank (s t : Text) :
    withoutCodes (s ++ ' ' :: t) = withoutCodes s ++ ' ' :: withoutCodes t := by
  rw [withoutCodes_append_outside (by decide), withoutCodes_cons (by decide)]

theorem withoutCodes_append_newline (s t : Text) :
    withoutCodes (s ++ '\n' :: t) = withoutCodes s ++ '\n' :: withoutCodes t := by
  rw [withoutCodes_append_outside (by decide), withoutCodes_cons (by decide)]

theorem isOutsideCodes_of_isBlank {c : Char} (blank : isBlank c = true) :
    isOutsideCodes c = true := by
  have ranges := blank
  simp only [isBlank, Bool.or_eq_true, Bool.and_eq_true, decide_eq_true_eq, beq_iff_eq] at ranges
  have noDigit : isDigit c = false := by
    simp only [isDigit, Bool.and_eq_false_iff, decide_eq_false_iff_not, Char.le_def,
      UInt32.le_iff_toNat_le]
    change ¬ 48 ≤ c.toNat ∨ ¬ c.toNat ≤ 57
    omega
  have other (d : Char) (ink : isBlank d = false) : (c == d) = false := by
    rw [beq_eq_false_iff_ne]
    rintro rfl
    rw [blank] at ink
    cases ink
  simp [isOutsideCodes, isCodeChar, noDigit, other ';' (by decide), other '[' (by decide),
    other 'm' (by decide)]

/-- Blanks after a text end any code that is still open in it. -/
theorem withoutCodes_append_blanks (s : Text) {blanks : Text}
    (blank : ∀ c ∈ blanks, isBlank c = true) :
    withoutCodes (s ++ blanks) = withoutCodes s ++ blanks := by
  induction blanks generalizing s with
  | nil => simp
  | cons c blanks ih =>
      have first : isBlank c = true := blank c List.mem_cons_self
      have later : ∀ c ∈ blanks, isBlank c = true :=
        fun c member => blank c (List.mem_cons_of_mem _ member)
      have noEscape : c ≠ Styler.escapeChar := by
        rintro rfl
        exact absurd first (by decide)
      have rest := ih [] later
      rw [List.nil_append, withoutCodes_nil, List.nil_append] at rest
      rw [withoutCodes_append_outside (isOutsideCodes_of_isBlank first),
        withoutCodes_cons noEscape, rest]

theorem withoutCodes_styled (codes : Text) (clean : codes.all isCodeChar = true)
    (t : Text) : withoutCodes (Styler.styled codes t) = withoutCodes t := by
  have code (codes : Text) (clean : codes.all isCodeChar = true) (rest : Text) :
      withoutCodes (Styler.styleOn codes ++ rest) = withoutCodes rest := by
    have found : afterCode? ('[' :: (codes ++ 'm' :: rest)) = some rest := by
      simp only [afterCode?, List.dropWhile_append_of_pos (List.all_eq_true.mp clean)]
      rfl
    rw [Styler.styleOn, List.cons_append, List.cons_append, List.append_assoc]
    exact withoutCodes_code found
  have off : withoutCodes Styler.styleOff = [] := by
    have alone := code "0" (by decide) []
    rw [List.append_nil, withoutCodes_nil] at alone
    exact alone
  unfold Styler.styled
  split
  next empty => rw [empty]
  next =>
    rw [List.append_assoc, code codes clean]
    have escape : Styler.styleOff = Styler.escapeChar :: ['[', '0', 'm'] := rfl
    rw [escape, withoutCodes_append_outside (by decide), ← escape, off, List.append_nil]

end LintFindings.Text

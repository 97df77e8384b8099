import LintFindings.Text.Blank
import Mathlib.Data.List.DropRight

/-! Trimming a text that is made of parts: where the blanks at its end begin. -/

namespace LintFindings.Text

def endsBlank (t : Text) : Bool := t.getLast?.any isBlank

def endsInk (t : Text) : Bool := t.getLast?.any (fun c => !isBlank c)

theorem trimEnd_eq_rdropWhile (t : Text) : trimEnd t = t.rdropWhile isBlank := rfl

theorem endsInk_cases (t : Text) : t = [] ∨ endsInk t = true ∨ endsBlank t = true := by
  cases last : t.getLast? with
  | none => exact Or.inl (List.getLast?_eq_none_iff.mp last)
  | some c =>
      right
      cases ink : isBlank c with
      | false => exact Or.inl (by simp [endsInk, last, ink])
      | true => exact Or.inr (by simp [endsBlank, last, ink])

theorem not_endsBlank_of_endsInk {t : Text} (ink : endsInk t = true) : endsBlank t = false := by
  cases last : t.getLast? with
  | none => simp [endsInk, last] at ink
  | some c =>
      have visible : isBlank c = false := by simpa [endsInk, last] using ink
      simp [endsBlank, last, visible]

theorem endsInk_append (s : Text) {t : Text} (ink : endsInk t = true) :
    endsInk (s ++ t) = true := by
  cases last : t.getLast? with
  | none => simp [endsInk, last] at ink
  | some c => simpa [endsInk, List.getLast?_append, last] using ink

theorem endsBlank_append (s : Text) {t : Text} (blank : endsBlank t = true) :
    endsBlank (s ++ t) = true := by
  cases last : t.getLast? with
  | none => simp [endsBlank, last] at blank
  | some c => simpa [endsBlank, List.getLast?_append, last] using blank

theorem trimEnd_of_endsInk {t : Text} (ink : endsInk t = true) : trimEnd t = t := by
  rw [trimEnd_eq_rdropWhile, List.rdropWhile_eq_self_iff]
  intro filled
  have last := List.getLast?_eq_getLast_of_ne_nil filled
  simpa [endsInk, last] using ink

theorem trimEnd_append {s : Text} (ink : endsInk s = true) (t : Text) :
    trimEnd (s ++ t) = s ++ trimEnd t := by
  induction t using List.reverseRecOn with
  | nil => simp [trimEnd_of_endsInk ink, trimEnd_nil]
  | append_singleton t c ih =>
      rw [← List.append_assoc]
      cases blank : isBlank c with
      | true => rw [trimEnd_append_blank _ blank, trimEnd_append_blank _ blank, ih]
      | false => rw [trimEnd_append_ink _ blank, trimEnd_append_ink _ blank, List.append_assoc]

theorem exists_trimEnd_append (t : Text) :
    ∃ blanks, t = trimEnd t ++ blanks ∧ ∀ c ∈ blanks, isBlank c = true := by
  refine ⟨t.rtakeWhile isBlank, ?_, ?_⟩
  · rw [trimEnd_eq_rdropWhile, List.rdropWhile_append_rtakeWhile]
  · intro c member
    exact List.mem_rtakeWhile_imp member

theorem trimEnd_cons (c : Char) (t : Text) :
    trimEnd (c :: t) = [] ∨ ∃ rest, trimEnd (c :: t) = c :: rest := by
  have kept := List.rdropWhile_prefix isBlank (c :: t)
  rw [List.prefix_cons_iff] at kept
  rcases kept with nothing | ⟨rest, first, -⟩
  · exact Or.inl nothing
  · exact Or.inr ⟨rest, first⟩

theorem mem_of_mem_trimEnd {c : Char} {t : Text} (member : c ∈ trimEnd t) : c ∈ t :=
  (List.rdropWhile_prefix isBlank t).subset member

theorem trimEnd_ne_of_endsBlank {t : Text} (blank : endsBlank t = true) : trimEnd t ≠ t := by
  cases last : t.getLast? with
  | none => simp [endsBlank, last] at blank
  | some c =>
      have filled : t ≠ [] := by
        intro empty
        simp [empty] at last
      have trimmed : isBlank (t.getLast filled) = true := by
        rw [List.getLast?_eq_getLast_of_ne_nil filled] at last
        cases last
        simpa [endsBlank, List.getLast?_eq_getLast_of_ne_nil filled] using blank
      rw [trimEnd_eq_rdropWhile, Ne, List.rdropWhile_eq_self_iff]
      intro kept
      exact kept filled trimmed

end LintFindings.Text

import LintFindings.Text.Newline

/-! Texts without carriage returns are read as they stand. -/

namespace LintFindings.Text

theorem joinBreaks_eq {t : Text} (noReturn : '\r' ∉ t) : t.joinBreaks = t := by
  induction t with
  | nil => rfl
  | cons c rest ih =>
      obtain ⟨other, noReturn⟩ := not_or.mp (mt List.mem_cons.mpr noReturn)
      simp [joinBreaks, Ne.symm other, ih noReturn]

theorem unifyBreaks_eq {t : Text} (noReturn : '\r' ∉ t) : t.unifyBreaks = t := by
  induction t with
  | nil => rfl
  | cons c rest ih =>
      obtain ⟨other, noReturn⟩ := not_or.mp (mt List.mem_cons.mpr noReturn)
      simp [unifyBreaks, Ne.symm other, ih noReturn]

end LintFindings.Text

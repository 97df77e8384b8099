import LintFindings.Text.Newline

/-!
What unifying the line breaks does to a text and to its ends, and how many lines are counted before
and after.
-/

namespace LintFindings.Text

section Unify

variable {c : Char} {t rest : Text}

theorem unifyBreaks_cons (noReturn : c ≠ '\r') : unifyBreaks (c :: rest) = c :: unifyBreaks rest := by
  simp [unifyBreaks, noReturn]

theorem unifyBreaks_pair (rest : Text) :
    unifyBreaks ('\r' :: '\n' :: rest) = '\n' :: unifyBreaks rest := rfl

theorem unifyBreaks_lone (lone : ∀ after, rest ≠ '\n' :: after) :
    unifyBreaks ('\r' :: rest) = '\n' :: unifyBreaks rest := by
  rw [unifyBreaks]
  exact lone

theorem exists_unifyBreaks_return (rest : Text) :
    ∃ after, unifyBreaks ('\r' :: rest) = '\n' :: after := by
  by_cases paired : ∃ after, rest = '\n' :: after
  · obtain ⟨after, rfl⟩ := paired
    exact ⟨unifyBreaks after, rfl⟩
  · exact ⟨unifyBreaks rest, unifyBreaks_lone fun after same => paired ⟨after, same⟩⟩

theorem unifyBreaks_eq_nil : unifyBreaks t = [] ↔ t = [] := by
  constructor
  · intro empty
    cases t with
    | nil => rfl
    | cons c rest =>
        by_cases isReturn : c = '\r'
        · subst isReturn
          obtain ⟨after, starts⟩ := exists_unifyBreaks_return rest
          rw [starts] at empty
          cases empty
        · rw [unifyBreaks_cons isReturn] at empty
          cases empty
  · rintro rfl
    rfl

theorem exists_of_unifyBreaks_cons (noBreak : c ≠ '\n') (starts : unifyBreaks t = c :: rest) :
    ∃ after, t = c :: after ∧ unifyBreaks after = rest := by
  cases t with
  | nil => cases starts
  | cons first after =>
      by_cases isReturn : first = '\r'
      · subst isReturn
        obtain ⟨others, starts'⟩ := exists_unifyBreaks_return after
        rw [starts'] at starts
        exact absurd (List.head_eq_of_cons_eq starts).symm noBreak
      · rw [unifyBreaks_cons isReturn] at starts
        obtain ⟨rfl, same⟩ := List.cons_eq_cons.mp starts
        exact ⟨after, rfl, same⟩

theorem starts_cases (noReturn : c ≠ '\r') (noFeed : c ≠ '\n') (t : Text) :
    (∃ rest, t = c :: rest ∧ unifyBreaks t = c :: unifyBreaks rest) ∨
      (∀ rest, t ≠ c :: rest) ∧ ∀ rest, unifyBreaks t ≠ c :: rest := by
  by_cases starts : ∃ rest, t = c :: rest
  · obtain ⟨rest, rfl⟩ := starts
    exact .inl ⟨rest, rfl, unifyBreaks_cons noReturn⟩
  · refine .inr ⟨fun rest same => starts ⟨rest, same⟩, ?_⟩
    intro rest same
    obtain ⟨after, same, -⟩ := exists_of_unifyBreaks_cons noFeed same
    exact starts ⟨after, same⟩

theorem unifyBreaks_append (front : Text) (noReturn : '\r' ∉ front) (tail : Text) :
    unifyBreaks (front ++ tail) = front ++ unifyBreaks tail := by
  induction front with
  | nil => rfl
  | cons c rest ih =>
      obtain ⟨other, noReturn⟩ := not_or.mp (mt List.mem_cons.mpr noReturn)
      rw [List.cons_append, unifyBreaks_cons (Ne.symm other), ih noReturn]
      rfl

theorem exists_of_unifyBreaks_append (front : Text) {tail : Text} (noFeed : '\n' ∉ front)
    (starts : unifyBreaks t = front ++ tail) :
    ∃ after, t = front ++ after ∧ unifyBreaks after = tail := by
  induction front generalizing t with
  | nil => exact ⟨t, rfl, starts⟩
  | cons c rest ih =>
      obtain ⟨other, noFeed⟩ := not_or.mp (mt List.mem_cons.mpr noFeed)
      obtain ⟨after, rfl, starts'⟩ := exists_of_unifyBreaks_cons (Ne.symm other) starts
      obtain ⟨after, rfl, same⟩ := ih noFeed starts'
      exact ⟨after, rfl, same⟩

end Unify

/-- An end of a text that does not start within a pair of carriage return and line feed. -/
inductive EndsWith : Text → Text → Prop
  | whole (t : Text) : EndsWith t t
  | char {c : Char} {rest tail : Text} : c ≠ '\r' → EndsWith rest tail → EndsWith (c :: rest) tail
  | pair {rest tail : Text} : EndsWith rest tail → EndsWith ('\r' :: '\n' :: rest) tail
  | lone {rest tail : Text} : (∀ after, rest ≠ '\n' :: after) → EndsWith rest tail →
    EndsWith ('\r' :: rest) tail

/-- How many carriage returns stand without a line feed after them. -/
def loneReturns : Text → Nat
  | '\r' :: '\n' :: rest => loneReturns rest
  | '\r' :: rest => loneReturns rest + 1
  | _ :: rest => loneReturns rest
  | [] => 0

/-- Every carriage return is followed by a line feed. -/
def ReturnsArePaired (t : Text) : Prop := ∀ rest, '\r' :: rest <:+ t → ∃ after, rest = '\n' :: after

section Ends

variable {t middle tail : Text}

theorem EndsWith.trans (first : EndsWith t middle) (second : EndsWith middle tail) :
    EndsWith t tail := by
  induction first with
  | whole => exact second
  | char noReturn _ ih => exact .char noReturn (ih second)
  | pair _ ih => exact .pair (ih second)
  | lone single _ ih => exact .lone single (ih second)

theorem EndsWith.append {front : Text} (noReturn : '\r' ∉ front) (tail : Text) :
    EndsWith (front ++ tail) tail := by
  induction front with
  | nil => exact .whole tail
  | cons c rest ih =>
      obtain ⟨other, noReturn⟩ := not_or.mp (mt List.mem_cons.mpr noReturn)
      exact .char (Ne.symm other) (ih noReturn)

theorem loneReturns_cons {c : Char} (noReturn : c ≠ '\r') (rest : Text) :
    loneReturns (c :: rest) = loneReturns rest := by
  simp [loneReturns, noReturn]

theorem loneReturns_lone {rest : Text} (lone : ∀ after, rest ≠ '\n' :: after) :
    loneReturns ('\r' :: rest) = loneReturns rest + 1 := by
  rw [loneReturns]
  exact lone

theorem EndsWith.exists_before (ends : EndsWith t tail) :
    ∃ before, t = before ++ tail ∧ t.unifyBreaks = before.unifyBreaks ++ tail.unifyBreaks ∧
      before.loneReturns ≤ t.loneReturns := by
  induction ends with
  | whole t => exact ⟨[], rfl, rfl, Nat.zero_le _⟩
  | @char c rest tail noReturn _ ih =>
      obtain ⟨before, rfl, unified, fewer⟩ := ih
      refine ⟨c :: before, rfl, ?_, ?_⟩
      · rw [unifyBreaks_cons noReturn, unifyBreaks_cons noReturn, unified]
        rfl
      · rwa [loneReturns_cons noReturn, loneReturns_cons noReturn]
  | pair _ ih =>
      obtain ⟨before, rfl, unified, fewer⟩ := ih
      refine ⟨'\r' :: '\n' :: before, rfl, ?_, fewer⟩
      rw [unifyBreaks_pair, unifyBreaks_pair, unified]
      rfl
  | @lone rest tail single _ ih =>
      obtain ⟨before, rfl, unified, fewer⟩ := ih
      have alone : ∀ after, before ≠ '\n' :: after := by
        rintro after rfl
        exact single (after ++ tail) rfl
      refine ⟨'\r' :: before, rfl, ?_, ?_⟩
      · rw [unifyBreaks_lone single, unifyBreaks_lone alone, unified]
        rfl
      · rw [loneReturns_lone single, loneReturns_lone alone]
        exact Nat.succ_le_succ fewer

theorem EndsWith.length_le (ends : EndsWith t tail) : tail.length ≤ t.length := by
  obtain ⟨before, rfl, -⟩ := ends.exists_before
  simp

theorem EndsWith.unified_length_le (ends : EndsWith t tail) :
    tail.unifyBreaks.length ≤ t.unifyBreaks.length := by
  obtain ⟨before, -, unified, -⟩ := ends.exists_before
  simp [unified]

theorem count_unifyBreaks (t : Text) : t.unifyBreaks.count '\n' = t.count '\n' + t.loneReturns := by
  induction t using unifyBreaks.induct with
  | case1 rest ih =>
      have same : loneReturns ('\r' :: '\n' :: rest) = loneReturns rest := rfl
      rw [unifyBreaks_pair, List.count_cons_self, ih, List.count_cons_of_ne (by decide),
        List.count_cons_self, same, Nat.add_right_comm]
  | case2 rest lone ih =>
      rw [unifyBreaks_lone lone, loneReturns_lone lone, List.count_cons_self, ih,
        List.count_cons_of_ne (by decide), Nat.add_assoc]
  | case3 c rest _ noReturn ih =>
      rw [unifyBreaks_cons noReturn, loneReturns_cons noReturn]
      rw [List.count_cons, List.count_cons, ih, Nat.add_right_comm]
  | case4 => rfl

theorem loneReturns_of_paired (paired : ReturnsArePaired t) : t.loneReturns = 0 := by
  have rest_paired {c : Char} {rest : Text} (paired : ReturnsArePaired (c :: rest)) :
      ReturnsArePaired rest := fun after ends => paired after (ends.trans (List.suffix_cons c rest))
  induction t using unifyBreaks.induct with
  | case1 rest ih => exact ih (rest_paired (rest_paired paired))
  | case2 rest lone ih =>
      obtain ⟨after, starts⟩ := paired rest (List.suffix_refl _)
      exact absurd starts (lone after)
  | case3 c rest _ noReturn ih =>
      rw [loneReturns_cons noReturn]
      exact ih (rest_paired paired)
  | case4 => rfl

theorem lineAt_append (before tail : Text) : (before ++ tail).lineAt tail = before.count '\n' + 1 := by
  simp [lineAt, Text.before]

/-- An end of a text stands on the same line or, for each lone carriage return before it, one later. -/
theorem lineAt_unifyBreaks (ends : EndsWith t tail) :
    ∃ lone, t.unifyBreaks.lineAt tail.unifyBreaks = t.lineAt tail + lone ∧ lone ≤ t.loneReturns := by
  obtain ⟨before, whole, unified, fewer⟩ := ends.exists_before
  refine ⟨before.loneReturns, ?_, fewer⟩
  rw [unified, lineAt_append, count_unifyBreaks]
  rw [whole, lineAt_append]
  omega

end Ends

end LintFindings.Text

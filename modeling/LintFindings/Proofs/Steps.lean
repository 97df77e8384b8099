import LintFindings.Failure

/-! Steps that may fail, one after the other. -/

namespace LintFindings

section Steps

variable {ε α β : Type}

theorem bind_eq_ok (first : Except ε α) (next : α → Except ε β) (result : β) :
    (first >>= next) = .ok result ↔ ∃ found, first = .ok found ∧ next found = .ok result := by
  cases first <;> simp [Bind.bind, Except.bind]

theorem pure_eq_ok (found result : α) :
    (pure found : Except ε α) = .ok result ↔ result = found := by
  simp [Pure.pure, Except.pure, eq_comm]

theorem throw_or_eq_ok (stop : Bool) (fault : ε) (next : α → Except ε β) (last : Except ε β)
    (result : β) :
    (if stop = true then (throw fault >>= next) else last) = .ok result ↔
      stop = false ∧ last = .ok result := by
  cases stop with
  | false => simp
  | true => simp [throw, throwThe, MonadExceptOf.throw, Bind.bind, Except.bind]

theorem exists_of_isOk {step : Except ε α} (found : step.isOk = true) :
    ∃ result, step = .ok result := by
  cases step with
  | ok result => exact ⟨result, rfl⟩
  | error fault => cases found

theorem exists_of_not_isOk {step : Except ε α} (stopped : step.isOk = false) :
    ∃ fault, step = .error fault := by
  cases step with
  | ok result => cases stopped
  | error fault => exact ⟨fault, rfl⟩

theorem eq_ok_of_toOption {step : Except ε α} {result : α} (found : step.toOption = some result) :
    step = .ok result := by
  cases step with
  | ok other => rw [Option.some.inj found]
  | error fault => cases found

theorem mapM_of_ok {step : α → Except ε β} {given : α → β} {members : List α}
    (succeeds : ∀ member ∈ members, step member = .ok (given member)) :
    members.mapM step = .ok (members.map given) := by
  induction members with
  | nil => rfl
  | cons first rest ih =>
      rw [List.mapM_cons, succeeds first List.mem_cons_self,
        ih fun member later => succeeds member (List.mem_cons_of_mem first later)]
      rfl

theorem mapM_of_stop {step : α → Except ε β} {before after : List α} {member : α} {fault : ε}
    (passed : ∀ earlier ∈ before, ∃ result, step earlier = .ok result)
    (stops : step member = .error fault) :
    (before ++ member :: after).mapM step = .error fault := by
  induction before with
  | nil =>
      rw [List.nil_append, List.mapM_cons, stops]
      rfl
  | cons first rest ih =>
      obtain ⟨result, found⟩ := passed first List.mem_cons_self
      rw [List.cons_append, List.mapM_cons, found,
        ih fun earlier later => passed earlier (List.mem_cons_of_mem first later)]
      rfl

theorem exists_of_mapM {step : α → Except ε β} {members : List α} {results : List β}
    (succeeded : members.mapM step = .ok results) {member : α} (present : member ∈ members) :
    ∃ result, step member = .ok result := by
  induction members generalizing results with
  | nil => cases present
  | cons first rest ih =>
      rw [List.mapM_cons, bind_eq_ok] at succeeded
      obtain ⟨result, found, succeeded⟩ := succeeded
      obtain ⟨others, found', -⟩ := (bind_eq_ok _ _ _).mp succeeded
      rcases List.mem_cons.mp present with rfl | later
      · exact ⟨result, found⟩
      · exact ih found' later

theorem mapM_cons_eq_error_iff {step : α → Except ε β} {first : α} {rest : List α} {result : β}
    (found : step first = .ok result) (fault : ε) :
    (first :: rest).mapM step = .error fault ↔ rest.mapM step = .error fault := by
  rw [List.mapM_cons, found]
  cases others : rest.mapM step with
  | error other => simp [Bind.bind, Except.bind]
  | ok results => simp [Bind.bind, Except.bind, Pure.pure, Except.pure]

theorem mapM_error_congr {f g : α → Except ε β} {members : List α} {fault : ε}
    (alike : ∀ member, f member = g member ∨
      (∃ result, f member = .ok result) ∧ ∃ result, g member = .ok result)
    (stopped : members.mapM f = .error fault) : members.mapM g = .error fault := by
  induction members with
  | nil => cases stopped
  | cons first rest ih =>
      rcases alike first with same | ⟨⟨result, found⟩, ⟨result', found'⟩⟩
      · cases found : f first with
        | error other =>
            rw [List.mapM_cons, found] at stopped
            rw [List.mapM_cons, ← same, found]
            exact stopped
        | ok result =>
            rw [mapM_cons_eq_error_iff found] at stopped
            rw [mapM_cons_eq_error_iff (same.symm.trans found)]
            exact ih stopped
      · rw [mapM_cons_eq_error_iff found] at stopped
        rw [mapM_cons_eq_error_iff found']
        exact ih stopped

end Steps

end LintFindings

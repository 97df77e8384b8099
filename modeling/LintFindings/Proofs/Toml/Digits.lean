import LintFindings.Proofs.Text.Decimal
import LintFindings.Proofs.Text.Plain
import LintFindings.Toml.Document

/-! Integers that have more digits than may be read: a document that holds one is not read at all. -/

namespace LintFindings

namespace Toml

theorem moreDigits_eq {isDigit : Char → Bool} {t : Text} (digits : ∀ c ∈ t, isDigit c = true) :
    moreDigits isDigit t = (t, []) := by
  induction t with
  | nil => rfl
  | cons c rest ih =>
      have others : moreDigits isDigit rest = (rest, []) :=
        ih fun other member => digits other (List.mem_cons_of_mem c member)
      unfold moreDigits
      rw [if_pos (digits c List.mem_cons_self), others]

theorem mark?_of_not_mem {mark : Char} {t : Text} (missing : mark ∉ t) : mark? mark t = none := by
  cases t with
  | nil => rfl
  | cons c rest =>
      have other : c ≠ mark := fun same => missing (same ▸ List.mem_cons_self)
      exact if_neg other

theorem fixedNumber?_rest {width least greatest n : Nat} {t rest : Text}
    (found : fixedNumber? width least greatest t = some (n, rest)) : rest = t.drop width := by
  unfold fixedNumber? at found
  dsimp only at found
  split at found
  next => cases found; rfl
  next => cases found

theorem mark?_after_fixedNumber? {width least greatest n : Nat} {mark : Char} {t rest : Text}
    (missing : mark ∉ t) (found : fixedNumber? width least greatest t = some (n, rest)) :
    mark? mark rest = none := by
  rw [fixedNumber?_rest found]
  exact mark?_of_not_mem fun member => missing (List.mem_of_mem_drop member)

theorem dateOrTime?_of_not_mem {t : Text} (noDash : '-' ∉ t) (noColon : ':' ∉ t) :
    dateOrTime? t = none := by
  have noDate : date? t = none := by
    unfold date?
    cases found : fixedNumber? 4 0 9999 t with
    | none => rfl
    | some part =>
        obtain ⟨year, rest⟩ := part
        simp only [Option.bind_eq_bind, Option.bind_some, mark?_after_fixedNumber? noDash found,
          Option.bind_none]
  have noTime : timeOfDay? t = none := by
    unfold timeOfDay?
    cases found : fixedNumber? 2 0 23 t with
    | none => rfl
    | some part =>
        obtain ⟨hour, rest⟩ := part
        simp only [Option.bind_eq_bind, Option.bind_some, mark?_after_fixedNumber? noColon found,
          Option.bind_none]
  rw [dateOrTime?, noDate, noTime]
  rfl

section TooLong

variable {t : Text} (tooLong : t.IsTooLong)

include tooLong

theorem number?_of_tooLong : number? t = some (.error .digitLimit) := by
  obtain ⟨c, rest, rfl, lead, apart⟩ := tooLong.exists_cons
  have noBase : basedInteger? (c :: rest) = none := by simp [basedInteger?, lead]
  have noSign : sign (c :: rest) = (false, c :: rest) := by
    simp [sign, apart '-' rfl, apart '+' rfl]
  have digit : Text.isDigit c = true := tooLong.digits c List.mem_cons_self
  have whole : wholeDigits? (c :: rest) = some (c :: rest, []) := by
    simp [wholeDigits?, lead, digits?, digit, moreDigits_eq tooLong.digits]
  simp only [number?, noBase, noSign, whole, Option.map_some, fraction?, exponent?, Option.getD_none,
    Option.isSome_none, Bool.or_self, Bool.false_eq_true, if_false, if_pos tooLong.long]

theorem scalar_of_tooLong : scalar t = .error .digitLimit := by
  have noDate : dateOrTime? t = none :=
    dateOrTime?_of_not_mem (tooLong.not_mem rfl) (tooLong.not_mem rfl)
  have number := number?_of_tooLong tooLong
  obtain ⟨c, rest, rfl, lead, apart⟩ := tooLong.exists_cons
  have noString : string? (c :: rest) = none := by simp [string?, apart '"' rfl, apart '\'' rfl]
  have noTrue : startsWith "true" (c :: rest) = false := by
    simp [startsWith, List.isPrefixOf, beq_false_of_ne (apart 't' rfl).symm]
  have noFalse : startsWith "false" (c :: rest) = false := by
    simp [startsWith, List.isPrefixOf, beq_false_of_ne (apart 'f' rfl).symm]
  simp only [scalar, noString, noTrue, noFalse, noDate, number, Bool.false_eq_true, if_false]

theorem value_of_tooLong (room fuel : Nat) : value room (fuel + 1) t = .error .digitLimit := by
  have number := scalar_of_tooLong tooLong
  obtain ⟨c, rest, rfl, lead, apart⟩ := tooLong.exists_cons
  simp [value, apart '[' rfl, apart '\x7b' rfl, number]

theorem assignment_of_tooLong : assignment .empty ('n' :: '=' :: t) = .error .digitLimit := by
  have number := value_of_tooLong tooLong nestingRoom (2 * t.length)
  have found : key ('n' :: '=' :: t) = .ok ([['n']], '=' :: t) := rfl
  have noSpace : skipSpace t = t := by
    obtain ⟨c, rest, rfl, lead, apart⟩ := tooLong.exists_cons
    simp [skipSpace, isSpace, apart ' ' rfl, apart '\t' rfl]
  simp only [assignment, found, noSpace, number, bind, Except.bind]

theorem statements_of_tooLong (fuel : Nat) :
    statements (fuel + 1) .empty ('n' :: '=' :: t) = .error .digitLimit := by
  have startsName : startsKey 'n' = true := by decide
  have start : skipSpace ('n' :: '=' :: t) = 'n' :: '=' :: t := rfl
  have stops : statement .empty ('n' :: '=' :: t) = .error .digitLimit := by
    simp [statement, startsName, assignment_of_tooLong tooLong]
  simp [statements, start, stops, bind, Except.bind]

theorem read_of_tooLong : read ('n' :: '=' :: t) = .error .digitLimit := by
  have absent : '\r' ∉ t := tooLong.not_mem rfl
  have noReturn : '\r' ∉ 'n' :: '=' :: t := by simp [absent]
  simp only [read, Text.joinBreaks_eq noReturn, statements_of_tooLong tooLong]

end TooLong

end Toml

end LintFindings

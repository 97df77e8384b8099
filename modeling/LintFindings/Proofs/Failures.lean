import LintFindings.Halt
import LintFindings.Proofs.Steps

/-! Failures of one kind, narrower kinds included, that can be told of. -/

namespace LintFindings

def Failure.IsOf (kind : FailureKind) (cause : Failure) : Prop :=
  kind ∈ cause.kind.lineage ∧ cause.obstacle? = none

def Halt.IsOf (kind : FailureKind) (halt : Halt) : Prop :=
  ∃ cause, halt = .failed cause ∧ kind ∈ cause.kind.lineage

theorem Halt.eq_of_ofFailure {cause told : Failure} (same : ofFailure cause = .failed told) :
    cause = told := by
  unfold ofFailure at same
  split at same
  next => cases same
  next => exact Halt.failed.inj same

def FailsOnlyWith (kind : FailureKind) {α : Type} (step : Except Failure α) : Prop :=
  ∀ cause, step = .error cause → cause.IsOf kind

section Steps

variable {kind : FailureKind} {α β : Type}

theorem failsOnlyWith_ok (result : α) : FailsOnlyWith kind (.ok result) := by
  intro cause stopped
  cases stopped

theorem failsOnlyWith_error {cause : Failure} (told : cause.IsOf kind) :
    FailsOnlyWith kind (.error cause : Except Failure α) := by
  intro other stopped
  exact Except.error.inj stopped ▸ told

theorem FailsOnlyWith.bind {first : Except Failure α} {next : α → Except Failure β}
    (begins : FailsOnlyWith kind first)
    (goesOn : ∀ found, first = .ok found → FailsOnlyWith kind (next found)) :
    FailsOnlyWith kind (first >>= next) := by
  intro cause stopped
  cases first with
  | error fault =>
      cases stopped
      exact begins cause rfl
  | ok found => exact goesOn found rfl cause stopped

theorem FailsOnlyWith.map {step : Except Failure α} (fails : FailsOnlyWith kind step) (f : α → β) :
    FailsOnlyWith kind (step.map f) := by
  intro cause stopped
  cases step with
  | error fault =>
      cases stopped
      exact fails cause rfl
  | ok found => cases stopped

theorem FailsOnlyWith.isOf {step : Except Failure α} (fails : FailsOnlyWith kind step) {halt : Halt}
    (stopped : Halt.ofFailing step = .error halt) : halt.IsOf kind := by
  cases result : step with
  | ok found =>
      rw [result] at stopped
      cases stopped
  | error cause =>
      obtain ⟨narrow, told⟩ := fails cause result
      rw [result, Halt.ofFailing, Halt.ofFailure, told] at stopped
      exact ⟨cause, (Except.error.inj stopped).symm, narrow⟩

/-- An operation whose failures are all of one kind, except that it may escape. -/
structure TellsUnless (kind : FailureKind) (escapes : Prop) (result : Except Halt α) : Prop where
  escaped : escapes → ∃ cause, result = .error (.escaped cause)
  told : ¬ escapes → ∀ halt, result = .error halt → halt.IsOf kind

namespace TellsUnless

variable {escapes : Prop} {result : Except Halt α} (tells : TellsUnless kind escapes result)

include tells

theorem isOf_iff : (∀ halt, result = .error halt → halt.IsOf kind) ↔ ¬ escapes := by
  constructor
  · intro always away
    obtain ⟨cause, escaped⟩ := tells.escaped away
    obtain ⟨failure, failed, -⟩ := always _ escaped
    cases failed
  · exact tells.told

theorem failed_iff {halt : Halt} (stopped : result = .error halt) :
    (∃ cause, halt = .failed cause) ↔ ¬ escapes := by
  constructor
  · rintro ⟨cause, rfl⟩ away
    obtain ⟨other, escaped⟩ := tells.escaped away
    cases escaped.symm.trans stopped
  · intro told
    obtain ⟨cause, failed, -⟩ := tells.told told halt stopped
    exact ⟨cause, failed⟩

end TellsUnless

end Steps

end LintFindings

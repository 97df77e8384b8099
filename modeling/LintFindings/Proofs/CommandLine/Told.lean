import LintFindings.Proofs.CommandLine.Terminal
import LintFindings.Proofs.Text.Shown

/-!
What a run tells of the failure it stops with: the text of the failure as it stands, unless it has a
backslash right before a bracket that opens no tag. Names of pictures, tabs and control characters,
which a console replaces, are no matter here.
-/

namespace LintFindings

namespace Failure

theorem getLast?_text_of_details {notice : Notice} (detailed : notice.details ≠ []) :
    notice.text.getLast? = some ')' := by
  have whole : notice.text =
      notice.main ++ " (" ++ Text.join ", " (notice.details.map Notice.detailText) ++ [')'] :=
    if_neg detailed
  rw [whole, List.getLast?_concat]

theorem getLast?_unknownSettingReason (key : Text) :
    (unknownSettingReason key).getLast? = some '\'' := List.getLast?_concat

theorem getLast?_text (cause : Failure) : cause.text.getLast? ≠ some '\\' := by
  by_cases detailed : cause.notice.details = []
  · cases cause with
    | unknownSetting key =>
        have whole : (unknownSetting key).text =
            "Invalid configuration: " ++ unknownSettingReason key := rfl
        rw [whole, List.getLast?_append, getLast?_unknownSettingReason]
        exact fun same => absurd (Option.some.inj same) (by decide)
    | _ => exact absurd detailed (List.cons_ne_nil _ _)
  · rw [text, getLast?_text_of_details detailed]
    decide

theorem shown_text (cause : Failure) :
    Markup.shown cause.text = Markup.withoutStrays cause.text := by
  rw [Markup.shown_eq, Markup.guardEnd_of_ne (getLast?_text cause)]

end Failure

namespace CommandLine

section Line

def failureMarkup (cause : Failure) : Text := "[red]Error:[/red] " ++ Markup.escape cause.text

def headingPieces : List Markup.Piece :=
  .tag 0 ['r', 'e', 'd'] ::
    (['E', 'r', 'r', 'o', 'r', ':'].map .plain ++ [.tag 0 ['/', 'r', 'e', 'd'], .plain ' '])

theorem isCut_heading {t : Text} {pieces : List Markup.Piece} (cut : Markup.IsCut 0 t pieces) :
    Markup.IsCut 0 ("[red]Error:[/red] ".toList ++ t) (headingPieces ++ pieces) := by
  have style : Markup.IsInside ['r', 'e', 'd'] := ⟨rfl, by simp⟩
  have styleEnd : Markup.IsInside ['/', 'r', 'e', 'd'] := ⟨rfl, by simp⟩
  have apart : ∀ c ∈ [' '], c ≠ '\\' ∧ c ≠ '[' := by simp
  have apart' : ∀ c ∈ ['E', 'r', 'r', 'o', 'r', ':'], c ≠ '\\' ∧ c ≠ '[' := by simp
  exact .tag 0 style (.word apart' (.tag 0 styleEnd (.word apart cut)))

theorem pieces_failureMarkup (cause : Failure) :
    Markup.pieces (failureMarkup cause) =
      headingPieces ++ (Markup.pieces (Markup.guardEnd cause.text)).map Markup.Piece.guarded := by
  rw [← Markup.pieces_escape]
  exact (isCut_heading (.of_pieces _)).pieces_eq

theorem filter_isStyle_failureMarkup (cause : Failure) :
    (Markup.pieces (failureMarkup cause)).filter Markup.Piece.isStyle =
      [.tag 0 "red", .tag 0 "/red"] := by
  have text : ((Markup.pieces (Markup.guardEnd cause.text)).map Markup.Piece.guarded).filter
      Markup.Piece.isStyle = [] := by
    rw [List.filter_eq_nil_iff, List.forall_mem_map]
    intro piece _
    rw [Markup.Piece.not_isStyle_guarded]
    exact Bool.false_ne_true
  rw [pieces_failureMarkup, List.filter_append, text]
  rfl

theorem print_failureMarkup (cause : Failure) :
    Markup.print (failureMarkup cause) = "Error: " ++ Markup.withoutStrays cause.text := by
  have sameEnd := Markup.guardEnd_of_ne cause.getLast?_text
  have cut := (Markup.IsCut.of_pieces cause.text).sourceOf_without
  have heading (rest : List Markup.Piece) :
      Markup.printPieces [] (headingPieces ++ rest) = "Error:" ++ Markup.printPieces [' '] rest := rfl
  have blank : Markup.beginsStray (.plain ' ' :: Markup.pieces cause.text) = false := by
    cases Markup.pieces cause.text with
    | nil => rfl
    | cons piece pieces => cases piece <;> rfl
  have printed : Markup.sourceOf (Markup.without Markup.beginsStray
      (.plain ' ' :: Markup.pieces cause.text)) = ' ' :: Markup.withoutStrays cause.text := by
    rw [Markup.without_cons_of_not blank, Markup.sourceOf_cons, cut]
    rfl
  rw [Markup.print, pieces_failureMarkup, sameEnd, heading, Markup.printPieces_guarded]
  exact congrArg ("Error:".toList ++ ·) printed

/-- How a failure is told: after a heading, which is all that is styled. -/
structure IsToldBy (cause : Failure) (line : Text) : Prop where
  printed : Markup.print (failureMarkup cause) = "Error: " ++ line
  styles : (Markup.pieces (failureMarkup cause)).filter Markup.Piece.isStyle =
    [.tag 0 "red", .tag 0 "/red"]

theorem isToldBy_withoutStrays (cause : Failure) :
    IsToldBy cause (Markup.withoutStrays cause.text) :=
  ⟨print_failureMarkup cause, filter_isStyle_failureMarkup cause⟩

end Line

section Runs

/-- The failure that a run stops with, whether or not it can be told. -/
inductive StopsWith (context : RunContext) (request : Request) (cause : Failure) : Prop
  | unloaded : settingsOf context request = .error (.failed cause) → StopsWith context request cause
  | unreported (settings : Settings) : settingsOf context request = .ok settings →
      (report context request settings).2 = .failed cause → StopsWith context request cause

variable {context : RunContext} {request : Request} {cause : Failure} {arguments : List Text}
  (logging : Logging) (carried : IsCarried context arguments request)

include carried

theorem run_of_stopsWith (stops : StopsWith context request cause)
    (readable : Terminal.sizesAreReadable context.environment = true) :
    (run context logging arguments).ending = .failed cause := by
  obtain ⟨console, process⟩ := carried.run_eq logging readable
  rw [process]
  cases stops with
  | unloaded stopped =>
      rw [carryOut_of_error context request console logging stopped, told_of_readable readable]
      rfl
  | unreported settings loaded failed =>
      obtain ⟨setup, made⟩ := exists_setupFor readable settings.verbosity
      rw [carryOut_of_ok context request console logging loaded made, told_of_readable readable,
        failed]
      rfl

theorem stopsWith_of_run (failed : (run context logging arguments).ending = .failed cause) :
    StopsWith context request cause := by
  cases readable : Terminal.sizesAreReadable context.environment with
  | false =>
      rw [run_of_unreadable logging arguments readable] at failed
      cases failed
  | true =>
      obtain ⟨console, process⟩ := carried.run_eq logging readable
      rw [process] at failed
      cases loaded : settingsOf context request with
      | error halt =>
          rw [carryOut_of_error context request console logging loaded,
            told_of_readable readable] at failed
          cases halt with
          | failed other =>
              cases failed
              exact .unloaded loaded
          | escaped other => cases failed
      | ok settings =>
          obtain ⟨setup, made⟩ := exists_setupFor readable settings.verbosity
          rw [carryOut_of_ok context request console logging loaded made,
            told_of_readable readable] at failed
          exact .unreported settings loaded (eq_of_printed_failed failed)

omit carried in
theorem exists_carried_of_failed (failed : (run context logging arguments).ending = .failed cause) :
    ∃ request, IsCarried context arguments request := by
  cases readable : Terminal.sizesAreReadable context.environment with
  | false =>
      rw [run_of_unreadable logging arguments readable] at failed
      cases failed
  | true =>
      obtain ⟨console, process⟩ := exists_run_eq readable
      cases asked : Request.ofArguments? arguments with
      | none =>
          cases asks : asksHelp arguments with
          | true =>
              rw [run_of_help context logging asks readable] at failed
              cases failed
          | false =>
              simp [process, runOn, asked, asks, refusal, laidOut_of_readable readable] at failed
      | some request =>
          cases usable : configIsUsable context request with
          | false =>
              simp [process, runOn, asked, usable, refusal, laidOut_of_readable readable] at failed
          | true =>
              cases shown : request.version with
              | true => simp [process, runOn, asked, usable, shown] at failed
              | false => exact ⟨request, asked, usable, shown⟩

omit carried in
theorem errorLine?_eq_some {ending : Ending} {line : Text} (tells : ending.errorLine? = some line) :
    ∃ cause, ending = .failed cause ∧ line = Markup.withoutStrays cause.text := by
  cases ending with
  | failed cause =>
      refine ⟨cause, rfl, ?_⟩
      rw [← cause.shown_text]
      exact (Option.some.inj tells).symm
  | _ => cases tells

end Runs

section Example

def pathRequest (path : Text) : Request := { Request.empty with input := some path }

theorem settingsOf_bare (path : Text) :
    settingsOf (bareContext fun _ => none) (pathRequest path) = .ok .default := by
  have loaded : (settingsOf (bareContext fun _ => none) .empty).toOption = some .default := by
    decide +kernel
  exact eq_ok_of_toOption loaded

theorem stopsWith_bare (path : Text) (named : path ≠ streamWord) :
    StopsWith (bareContext fun _ => none) (pathRequest path)
      (.unreadableInput (Path.normal path) PathFault.missing.reason) := by
  refine .unreported .default (settingsOf_bare path) ?_
  have read : readInput (bareContext fun _ => none) (pathRequest path) =
      ⟨[], .error (.failed (.unreadableInput (Path.normal path) PathFault.missing.reason))⟩ :=
    if_neg named
  have undisturbed : (bareContext fun _ => none).interrupted = false := rfl
  simp only [report, undisturbed, read, Bool.false_eq_true, if_false, endingOfHalt]

end Example

end CommandLine

end LintFindings

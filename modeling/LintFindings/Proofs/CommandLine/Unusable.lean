import LintFindings.Proofs.CommandLine.Calls
import LintFindings.Proofs.Input
import LintFindings.Proofs.Settings.Culprits

/-!
Runs whose settings or input cannot be used. They exit with two, and not with one as if there were
errors in the input, unless reading escapes or the program cannot be loaded.
-/

namespace LintFindings.CommandLine

section Unusable

variable (context : RunContext) (request : Request) (logging : Logging)

theorem told_ne_interrupted (console : Screen) (values : Variables) {ending : Ending}
    (going : ending ≠ .interrupted) : told console values ending ≠ .interrupted := by
  unfold told
  split
  next cause =>
    split
    next => exact going
    next => exact Ending.noConfusion
  next => exact going

theorem printed_ne_interrupted {ending : Ending} (going : ending ≠ .interrupted) :
    printed context request ending ≠ .interrupted := by
  unfold printed
  split
  next report status =>
    split
    next => exact Ending.noConfusion
    next => exact Ending.noConfusion
  next => exact going

theorem endingOfHalt_ne_interrupted (halt : Halt) : endingOfHalt halt ≠ .interrupted := by
  cases halt <;> exact Ending.noConfusion

theorem carryOut_ne_interrupted (console : Screen) (undisturbed : context.interrupted = false) :
    (carryOut console context logging request).ending ≠ .interrupted := by
  cases loaded : settingsOf context request with
  | error halt =>
      rw [carryOut_of_error context request console logging loaded]
      exact told_ne_interrupted console context.environment (endingOfHalt_ne_interrupted halt)
  | ok settings =>
      cases made : setupFor context.environment settings.verbosity with
      | error cause =>
          rw [carryOut_of_unmade context request console logging loaded made]
          exact Ending.noConfusion
      | ok setup =>
          rw [carryOut_of_ok context request console logging loaded made,
            report_ending context request loaded undisturbed]
          refine told_ne_interrupted console context.environment (printed_ne_interrupted _ _ ?_)
          cases calls context request with
          | ok found => exact Ending.noConfusion
          | error halt => exact endingOfHalt_ne_interrupted halt

section Carried

variable {context request} {arguments : List Text}
  (asked : Request.ofArguments? arguments = some request)
  (usable : configIsUsable context request = true) (carried : request.version = false)

include asked usable carried

theorem run_ne_interrupted (undisturbed : context.interrupted = false) :
    (run context logging arguments).ending ≠ .interrupted := by
  cases readable : Terminal.sizesAreReadable context.environment with
  | false =>
      rw [run_of_unreadable logging arguments readable]
      exact Ending.noConfusion
  | true =>
      obtain ⟨console, same⟩ := exists_carryOut logging asked usable carried readable
      rw [same]
      exact carryOut_ne_interrupted context request logging console undisturbed

theorem exitCode_of_calls {halt : Halt} (stopped : calls context request = .error halt)
    (finished : (run context logging arguments).ending ≠ .interrupted) :
    (run context logging arguments).ending.exitCode = 2 ↔
      (∃ cause, halt = .failed cause) ∧
        Terminal.sizesAreReadable context.environment = true := by
  cases readable : Terminal.sizesAreReadable context.environment with
  | true =>
      rw [run_ending logging asked usable carried readable finished, stopped]
      cases halt with
      | failed cause => simp [endingOfCalls, endingOfHalt, printed, Ending.exitCode]
      | escaped cause => simp [endingOfCalls, endingOfHalt, printed, Ending.exitCode]
  | false =>
      rw [run_of_unreadable logging arguments readable]
      simp [Ending.exitCode]

theorem exitCode_of_settings {halt : Halt} (stopped : settingsOf context request = .error halt) :
    (run context logging arguments).ending.exitCode = 2 ↔
      (∃ cause, halt = .failed cause) ∧
        Terminal.sizesAreReadable context.environment = true := by
  refine exitCode_of_calls logging asked usable carried
    (calls_of_settings context request stopped) ?_
  cases readable : Terminal.sizesAreReadable context.environment with
  | false =>
      rw [run_of_unreadable logging arguments readable]
      exact Ending.noConfusion
  | true =>
      obtain ⟨console, same⟩ := exists_carryOut logging asked usable carried readable
      rw [same, carryOut_of_error context request console logging stopped]
      exact told_ne_interrupted console context.environment (endingOfHalt_ne_interrupted halt)

end Carried

/-- What a run reads holds an integer at which reading escapes, or no path leads to it at all. -/
def InputEscapes : Prop :=
  let word := request.input.getD streamWord
  if word = streamWord then Input.BytesEscape context.input
  else Input.FileEscapes (context.look (Path.normal word))

theorem readInput_tellsUnless :
    TellsUnless .input (InputEscapes context request) (readInput context request).result := by
  unfold readInput InputEscapes
  dsimp only
  split
  next => rw [Input.logged_result]; exact Input.ofBytes_tellsUnless context.input
  next => rw [Input.logged_result]; exact Input.ofFile_tellsUnless _ _

theorem exitCode_of_input {settings : Settings} {halt : Halt} {arguments : List Text}
    (asked : Request.ofArguments? arguments = some request)
    (usable : configIsUsable context request = true) (carried : request.version = false)
    (loaded : settingsOf context request = .ok settings)
    (undisturbed : context.interrupted = false)
    (stopped : (readInput context request).result = .error halt) :
    (run context logging arguments).ending.exitCode = 2 ↔
      ¬ InputEscapes context request ∧
        Terminal.sizesAreReadable context.environment = true := by
  rw [exitCode_of_calls logging asked usable carried (calls_of_input context request loaded stopped)
    (run_ne_interrupted logging asked usable carried undisturbed),
    (readInput_tellsUnless context request).failed_iff stopped]

theorem run_of_refused {arguments : List Text}
    (asked : Request.ofArguments? arguments = some request)
    (unusable : configIsUsable context request = false) :
    (run context logging arguments).ending = refusal context.environment := by
  cases readable : Terminal.sizesAreReadable context.environment with
  | false =>
      rw [run_of_unreadable logging arguments readable, refusal, laidOut,
        Screen.ofTerminal_of_unreadable false readable]
  | true =>
      obtain ⟨console, same⟩ := exists_run_eq readable
      rw [same]
      simp only [runOn, asked, unusable, if_true]

theorem exitCode_refusal (values : Variables) :
    (refusal values).exitCode = 2 ↔ Terminal.sizesAreReadable values = true := by
  rw [← Screen.ofTerminal_isOk values false, refusal, laidOut]
  cases Screen.ofTerminal values false <;> simp [Ending.exitCode, Except.isOk, Except.toBool]

end Unusable

theorem nodup_overrides (request : Request) : (overrides request).keys.Nodup := by
  have names : ([("formatter" : Text), "color", "verbose", "quiet"] : List Text).Nodup := by decide
  exact names

/--
Settings that are loaded fit, and if they cannot be loaded a failure says so unless loading ends
without any. A run with such settings exits with two unless that happens or the program cannot be
loaded.
-/
theorem load_tells_iff (around : Surroundings) (explicit : Option Text) (overrides : Fields)
    (distinct : overrides.keys.Nodup) :
    (∀ settings, Settings.load around explicit overrides = .ok settings →
      ∀ name, Settings.Fits name (settings.datum name)) ∧
    ((∀ halt, Settings.load around explicit overrides = .error halt → halt.IsOf .configuration) ↔
      ¬ Settings.Escapes around explicit overrides) ∧
    (∀ context logging arguments request, Request.ofArguments? arguments = some request →
      (configIsUsable context request = false →
        ((run context logging arguments).ending.exitCode = 2 ↔
          Terminal.sizesAreReadable context.environment = true)) ∧
      (configIsUsable context request = true → request.version = false →
        ∀ halt, settingsOf context request = .error halt →
          ((run context logging arguments).ending.exitCode = 2 ↔
            ¬ Settings.Escapes context.toSurroundings request.config (CommandLine.overrides request) ∧
              Terminal.sizesAreReadable context.environment = true))) := by
  refine ⟨?_, (Settings.load_tellsUnless distinct).isOf_iff, ?_⟩
  · intro settings loaded name
    exact Settings.fits_of_load loaded name
  · intro context logging arguments request asked
    refine ⟨?_, ?_⟩
    · intro unusable
      rw [run_of_refused context request logging asked unusable, exitCode_refusal]
    · intro usable carried halt stopped
      rw [exitCode_of_settings logging asked usable carried stopped,
        (Settings.load_tellsUnless (nodup_overrides request)).failed_iff stopped]

def fileContext (bytes : Bytes) (word : Text) (input : Bytes) : RunContext where
  toSurroundings := Settings.withFile bytes word
  input
  interrupted := false
  terminal := false
  helpPage := fun _ _ => plainHelp

theorem load_tells_iff_unclear :
    Settings.verboseOverrides.keys.Nodup ∧ Request.ofArguments? [] = some .empty ∧
      configIsUsable (fileContext Settings.coloredFile "maybe" []) .empty = true ∧
      Request.empty.version = false ∧
      (settingsOf (fileContext Settings.coloredFile "maybe" []) .empty).isOk = false ∧
      (run (fileContext Settings.coloredFile "maybe" []) .untouched []).ending.exitCode = 2 ∧
      ¬ Settings.Escapes (Settings.withFile Settings.coloredFile "maybe") none
        (CommandLine.overrides .empty) := by
  have distinct : Settings.verboseOverrides.keys.Nodup := by decide
  have unloaded : (settingsOf (fileContext Settings.coloredFile "maybe" []) .empty).isOk = false := by
    decide +kernel
  have exits : (run (fileContext Settings.coloredFile "maybe" []) .untouched []).ending.exitCode = 2 := by
    decide +kernel
  obtain ⟨halt, stopped⟩ := exists_of_not_isOk unloaded
  obtain ⟨-, -, runs⟩ := load_tells_iff (Settings.withFile Settings.coloredFile "maybe") none
    Settings.verboseOverrides distinct
  obtain ⟨-, carried⟩ := runs (fileContext Settings.coloredFile "maybe" []) .untouched [] .empty rfl
  exact ⟨distinct, rfl, rfl, rfl, unloaded, exits, ((carried rfl rfl halt stopped).mp exits).1⟩

theorem load_tells_nothing :
    settingsOf (fileContext [0xff] "auto" []) .empty = .error (.escaped .notUtf8) ∧
      ¬ Halt.IsOf .configuration (.escaped .notUtf8) ∧
      (run (fileContext [0xff] "auto" []) .untouched []).ending.exitCode = 1 := by
  refine ⟨rfl, ?_, by decide +kernel⟩
  rintro ⟨cause, failed, -⟩
  cases failed

/--
Input that cannot be used stops its reading with a failure of the input, unless an integer in it is
too long or it has a path that no file can have. A run on such input exits with two unless that
happens or the program cannot be loaded.
-/
theorem read_tells_iff (text : Text) (bytes : Bytes) (path : Text) (found : Except PathFault Node) :
    ((∀ halt, Input.ofText text = .error halt → halt.IsOf .input) ↔ ¬ Input.TextEscapes text) ∧
    ((∀ halt, Input.ofBytes bytes = .error halt → halt.IsOf .input) ↔ ¬ Input.BytesEscape bytes) ∧
    ((∀ halt, Input.ofFile path found = .error halt → halt.IsOf .input) ↔
      ¬ Input.FileEscapes found) ∧
    (Input.TextEscapes text → Json.HasLongNumber text) ∧
    (∀ context logging arguments request settings,
      Request.ofArguments? arguments = some request → configIsUsable context request = true →
      request.version = false → context.interrupted = false →
      settingsOf context request = .ok settings →
      ∀ halt, (readInput context request).result = .error halt →
        ((run context logging arguments).ending.exitCode = 2 ↔
          ¬ InputEscapes context request ∧
            Terminal.sizesAreReadable context.environment = true)) := by
  refine ⟨(Input.ofText_tellsUnless text).isOf_iff, (Input.ofBytes_tellsUnless bytes).isOf_iff,
    (Input.ofFile_tellsUnless path found).isOf_iff, Json.hasLongNumber_of_read, ?_⟩
  intro context logging arguments request settings asked usable carried undisturbed loaded halt stopped
  exact exitCode_of_input context request logging asked usable carried loaded undisturbed stopped

def openList : Bytes := Utf8.encode "["

theorem settingsOf_colored (input : Bytes) :
    settingsOf (fileContext Settings.coloredFile "Auto" input) .empty = .ok ⟨none, "one", .normal⟩ := by
  have loaded : (settingsOf (fileContext Settings.coloredFile "Auto" []) .empty).toOption =
      some ⟨none, "one", .normal⟩ := by decide +kernel
  exact eq_ok_of_toOption loaded

theorem read_tells_iff_openList :
    Request.ofArguments? [] = some .empty ∧
      configIsUsable (fileContext Settings.coloredFile "Auto" openList) .empty = true ∧
      Request.empty.version = false ∧
      settingsOf (fileContext Settings.coloredFile "Auto" openList) .empty =
        .ok ⟨none, "one", .normal⟩ ∧
      (readInput (fileContext Settings.coloredFile "Auto" openList) .empty).result.isOk = false ∧
      (run (fileContext Settings.coloredFile "Auto" openList) .untouched []).ending.exitCode = 2 ∧
      ¬ InputEscapes (fileContext Settings.coloredFile "Auto" openList) .empty := by
  have unread : (readInput (fileContext Settings.coloredFile "Auto" openList) .empty).result.isOk =
      false := by decide +kernel
  have exits : (run (fileContext Settings.coloredFile "Auto" openList) .untouched []).ending.exitCode =
      2 := by decide +kernel
  obtain ⟨halt, stopped⟩ := exists_of_not_isOk unread
  obtain ⟨-, -, -, -, runs⟩ := read_tells_iff [] [] [] (.error .missing)
  have told := runs (fileContext Settings.coloredFile "Auto" openList) .untouched [] .empty _ rfl rfl
    rfl rfl (settingsOf_colored openList) halt stopped
  exact ⟨rfl, rfl, rfl, settingsOf_colored openList, unread, exits, (told.mp exits).1⟩

def oversizedInput : Text := List.replicate 4301 '1'

theorem isTooLong_oversizedInput : oversizedInput.IsTooLong := Text.isTooLong_replicate (by decide)

theorem exitCode_of_oversized {input : Bytes} {cause : Escape}
    (oversized : Input.ofBytes input = .error (.escaped cause)) :
    (run (fileContext Settings.coloredFile "Auto" input) .untouched []).ending.exitCode = 1 := by
  have stopped : (readInput (fileContext Settings.coloredFile "Auto" input) .empty).result =
      .error (.escaped cause) := (Input.logged_result _ _).trans oversized
  have readable : Terminal.sizesAreReadable
      (fileContext Settings.coloredFile "Auto" input).environment = true := rfl
  have finished : (run (fileContext Settings.coloredFile "Auto" input) .untouched []).ending ≠
      .interrupted := run_ne_interrupted .untouched rfl rfl rfl rfl
  rw [run_ending .untouched rfl rfl rfl readable finished,
    calls_of_input _ _ (settingsOf_colored input) stopped]
  rfl

theorem read_tells_nothing :
    Input.ofText oversizedInput = .error (.escaped .digitLimit) ∧
      ¬ Halt.IsOf .input (.escaped .digitLimit) ∧
      (run (fileContext Settings.coloredFile "Auto" (Utf8.encode oversizedInput)) .untouched
        []).ending.exitCode = 1 := by
  refine ⟨Input.ofText_of_tooLong isTooLong_oversizedInput, ?_,
     exitCode_of_oversized (Input.ofBytes_of_tooLong isTooLong_oversizedInput)⟩
  rintro ⟨cause, failed, -⟩
  cases failed

end LintFindings.CommandLine

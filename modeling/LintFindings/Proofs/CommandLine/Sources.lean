import LintFindings.Proofs.CommandLine.Calls
import LintFindings.Proofs.Input.IllFormed
import LintFindings.Session

/-!
The same bytes in a file and on the input stream. They are judged alike, and a run ends alike with
either of them.
-/

namespace LintFindings

theorem Session.readPath_result {session : Session} {path : Text} {bytes : Bytes}
    (held : session.look (Path.normal path) = .ok (.file bytes)) :
    (session.readPath path).1.result = Input.ofBytes bytes := by
  simp only [readPath, read, held]
  exact Input.logged_result _ _

namespace CommandLine

/-- Requests that differ in where the input is: in the stream, or with the same bytes in a file. -/
structure ReadsAlike (context : RunContext) (fromStream fromFile : Request) : Prop where
  stream : fromStream.input.getD streamWord = streamWord
  file : ∃ word, word ≠ streamWord ∧ fromFile = { fromStream with input := some word } ∧
    context.look (Path.normal word) = .ok (.file context.input)

def RunContext.withStream (context : RunContext) (unread : Bytes) : RunContext :=
  { context with input := unread }

section Alike

variable {context : RunContext} {fromStream fromFile : Request}

theorem calls_congr {other : RunContext} {request request' : Request} {settings : Settings}
    (loaded : settingsOf context request = .ok settings)
    (loaded' : settingsOf other request' = .ok settings)
    (raw : rawInput Json.standIn context request = rawInput Json.standIn other request')
    (formats : formattedFiles context = formattedFiles other) :
    calls context request = calls other request' := by
  have read : (readInput context request).result = (readInput other request').result := by
    rw [readInput_result, readInput_result, raw]
  cases found : (readInput other request').result with
  | error halt =>
      rw [calls_of_input context request loaded (read.trans found),
        calls_of_input other request' loaded' found]
  | ok files =>
      rw [calls_of_read context request loaded (read.trans found),
        calls_of_read other request' loaded' found, formats]

variable (alike : ReadsAlike context fromStream fromFile) (unread : Bytes) (logging : Logging)

include alike

theorem rawInput_alike (half : Char) :
    rawInput half (context.withStream unread) fromFile = rawInput half context fromStream := by
  obtain ⟨stream, word, named, rfl, held⟩ := alike
  have held' : (context.withStream unread).look (Path.normal word) = .ok (.file context.input) := held
  simp only [rawInput, stream, Option.getD_some, named, if_true, if_false, held']
  rfl

theorem report_alike {settings : Settings} (loaded : settingsOf context fromStream = .ok settings) :
    (report (context.withStream unread) fromFile settings).2 =
      (report context fromStream settings).2 := by
  have raw := rawInput_alike alike unread Json.standIn
  obtain ⟨-, word, -, rfl, -⟩ := alike
  cases interrupted : context.interrupted with
  | true =>
      have interrupted' : (context.withStream unread).interrupted = true := interrupted
      simp only [report, interrupted, interrupted', if_true]
  | false =>
      have loaded' : settingsOf (context.withStream unread) { fromStream with input := some word } =
          .ok settings := loaded
      rw [report_ending context fromStream loaded interrupted,
        report_ending (context.withStream unread) _ loaded' interrupted]
      exact congrArg endingOfCalls (calls_congr loaded' loaded raw rfl)

theorem carryOut_alike (console : Screen) :
    (carryOut console (context.withStream unread) logging fromFile).ending =
      (carryOut console context logging fromStream).ending := by
  have reported (settings : Settings) (loaded : settingsOf context fromStream = .ok settings) :=
    report_alike alike unread loaded
  have prints := printed_congr _ _ (rawInput_alike alike unread)
  obtain ⟨-, word, -, rfl, -⟩ := alike
  -- Neither the settings nor the log depend on where the input is.
  have loads : settingsOf (context.withStream unread) { fromStream with input := some word } =
      settingsOf context fromStream := rfl
  cases loaded : settingsOf context fromStream with
  | error halt =>
      rw [carryOut_of_error context fromStream console logging loaded,
        carryOut_of_error _ _ console logging (loads.trans loaded)]
      rfl
  | ok settings =>
      cases made : setupFor context.environment settings.verbosity with
      | error cause =>
          rw [carryOut_of_unmade context fromStream console logging loaded made,
            carryOut_of_unmade _ _ console logging (loads.trans loaded) made]
      | ok setup =>
          rw [carryOut_of_ok context fromStream console logging loaded made,
            carryOut_of_ok _ _ console logging (loads.trans loaded) made, reported settings loaded,
            prints]
          rfl

theorem run_alike {streamWords fileWords : List Text}
    (stream : Request.ofArguments? streamWords = some fromStream)
    (file : Request.ofArguments? fileWords = some fromFile) :
    (run (context.withStream unread) logging fileWords).ending =
      (run context logging streamWords).ending := by
  have carried := carryOut_alike alike unread logging
  obtain ⟨-, word, -, rfl, -⟩ := alike
  have usable : configIsUsable (context.withStream unread) { fromStream with input := some word } =
      configIsUsable context fromStream := rfl
  have values : (context.withStream unread).environment = context.environment := rfl
  rw [run, run, values]
  cases Screen.ofTerminal context.environment false with
  | error cause => rfl
  | ok console =>
      simp only [runOn, stream, file, usable]
      cases configIsUsable context fromStream with
      | false => rfl
      | true =>
          cases fromStream.version with
          | true => rfl
          | false => exact carried console

end Alike

/--
Bytes are judged alike whether they come from a file or from a stream, by a reading of them and by a
run. If they are not UTF-8, the failure says how long the longest valid part in front is; if they
are, no failure says anything like that.
-/
theorem sources_judgeAlike (bytes : Bytes) :
    (∀ (session : Session) path name, session.look (Path.normal path) = .ok (.file bytes) →
      (session.readPath path).1.result = (session.read name (Input.ofBytes bytes)).1.result) ∧
    (∀ (context : RunContext) logging streamWords fileWords fromStream fromFile unread,
      context.input = bytes → Request.ofArguments? streamWords = some fromStream →
      Request.ofArguments? fileWords = some fromFile → ReadsAlike context fromStream fromFile →
      (run (context.withStream unread) logging fileWords).ending =
        (run context logging streamWords).ending) ∧
    (¬ Utf8.IsValid bytes → ∃ offset, Utf8.IsLongestValid bytes offset ∧
      Input.ofBytes bytes = .error (.failed (.malformedResult "results"
        ("invalid UTF-8 at byte " ++ Text.ofNat offset) .nowhere))) ∧
    (Utf8.IsValid bytes → ∀ field reason spot,
      Input.ofBytes bytes = .error (.failed (.malformedResult field reason spot)) →
      ¬ ("invalid UTF-8 at byte " : Text) <+: reason) := by
  refine ⟨?_, ?_, Input.ofBytes_of_invalid, ?_⟩
  · intro session path name held
    rw [Session.readPath_result held, Session.read, Input.logged_result]
  · intro context logging streamWords fileWords fromStream fromFile unread _ stream file alike
    exact run_alike alike unread logging stream file
  · intro valid field reason spot refused
    obtain ⟨text, judged⟩ := Input.ofBytes_of_valid valid
    exact Input.ofText_not_isByteReason (judged.symm.trans refused)

def surrogateBytes : Bytes := [0x5b, 0xed, 0xa0, 0x80]

def twiceHeld (bytes : Bytes) : RunContext :=
  { bareContext fun _ => none with
    input := bytes
    look := fun path => if path = "held.json" then .ok (.file bytes) else .error .missing }

theorem sources_judgeAlike_surrogate :
    ¬ Utf8.IsValid surrogateBytes ∧ Utf8.IsLongestValid surrogateBytes 1 ∧
      ReadsAlike (twiceHeld surrogateBytes) .empty { Request.empty with input := some "held.json" } ∧
      (run ((twiceHeld surrogateBytes).withStream []) .untouched ["held.json"]).ending =
        (run (twiceHeld surrogateBytes) .untouched []).ending ∧
      (run (twiceHeld surrogateBytes) .untouched []).ending.errorLine? =
        some "Malformed lint result: results (field=results, reason=invalid UTF-8 at byte 1)" := by
  have refused : Utf8.decode surrogateBytes = .error 1 := by decide
  have alike : ReadsAlike (twiceHeld surrogateBytes) .empty
      { Request.empty with input := some "held.json" } :=
    ⟨rfl, "held.json", by decide, rfl, rfl⟩
  obtain ⟨invalid, longest⟩ := (Utf8.decode_eq_error_iff surrogateBytes 1).mp refused
  obtain ⟨-, runs, -, -⟩ := sources_judgeAlike surrogateBytes
  exact ⟨invalid, longest, alike,
    runs (twiceHeld surrogateBytes) .untouched [] ["held.json"] .empty _ [] rfl rfl rfl alike,
    by decide +kernel⟩

end CommandLine

end LintFindings

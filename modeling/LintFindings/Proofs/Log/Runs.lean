import LintFindings.Proofs.CommandLine.Calls
import LintFindings.Proofs.Log.History

/-!
Histories of calls that set logging up and of runs of the command in one process, and what they leave
of the top logger. Whatever came before, it is as the last call or run that set it up left it. A run
should do so whenever it has loaded its settings, but may find no size for the console of the log.
-/

namespace LintFindings

/-- What is seen of the top logger: its level if it has been set, where its records go, and whether
they also go where all records go. -/
structure TopLogger where
  level : Option Level
  handlers : List LogHandler
  propagates : Bool
  deriving DecidableEq, Repr

def TopLogger.untouched : TopLogger := ⟨none, [], true⟩

def LogSetup.top (setup : LogSetup) : TopLogger :=
  ⟨some setup.level, .console :: (setup.file.toList.map fun _ => .file), false⟩

def Logging.top (logging : Logging) : TopLogger :=
  ⟨logging.setup.map LogSetup.level, logging.handlers, logging.propagates⟩

/-- What a call leaves of the top logger: a level, a console, and a file if it names one. -/
def SetUpCall.top (call : SetUpCall) : TopLogger :=
  ⟨some (Logging.requestedLevel call.verbose call.quiet),
    .console :: ((call.path.filter (· != [])).toList.map fun _ => .file), false⟩

def Settings.setUpCall (settings : Settings) : SetUpCall :=
  ⟨settings.verbosity == .verbose, settings.verbosity == .quiet, none⟩

/-- A call or a run, or what else may happen to a session between them. -/
inductive ProcessStep where
  | setUp (call : SetUpCall)
  | run (arguments : List Text) (input : Bytes) (interrupted : Bool)
  | log (time : Text) (name : Option Text) (level : Level) (text : Text)
  | remove (path : Text)
  | surround (home work : Text) (tree : FileTree) (environment : List (Text × Text)) (time : Text)

namespace CommandLine

/-- The call that a run makes with the settings it has loaded, if a console can be made. -/
def setUpCall? (context : RunContext) (arguments : List Text) : Option SetUpCall :=
  if Terminal.sizesAreReadable context.environment then
    (loaded? context arguments).map Settings.setUpCall
  else none

end CommandLine

namespace ProcessStep

def perform (s : Session) : ProcessStep → Session
  | setUp call => (LogStep.setUp call).perform s
  | run arguments input interrupted => (s.run arguments input interrupted).2
  | log time name level text => (LogStep.log time name level text).perform s
  | remove path =>
    match s.remove path with
    | .ok s => s
    | .error _ => s
  | surround home work tree environment time => { s with home, work, tree, environment, time }

/-- The call that a step counts as: itself if it succeeds, and for a run the one that it makes. -/
def counted? (s : Session) : ProcessStep → Option SetUpCall
  | setUp call => if (s.setUpLogging call.verbose call.quiet call.path).isOk then some call else none
  | run arguments input interrupted =>
    CommandLine.setUpCall? (s.runContext input interrupted) arguments
  | _ => none

/-- The call that a step should count as, which for a run only asks for settings that are loaded. -/
def due? (s : Session) : ProcessStep → Option SetUpCall
  | run arguments input interrupted =>
    (CommandLine.loaded? (s.runContext input interrupted) arguments).map Settings.setUpCall
  | step => step.counted? s

end ProcessStep

namespace Session

def afterAll (s : Session) (steps : List ProcessStep) : Session := steps.foldl ProcessStep.perform s

def lastBy (call? : Session → ProcessStep → Option SetUpCall) (s : Session) :
    List ProcessStep → Option SetUpCall
  | [] => none
  | step :: later => ((step.perform s).lastBy call? later).or (call? s step)

def lastCounted? (s : Session) : List ProcessStep → Option SetUpCall := s.lastBy ProcessStep.counted?

def lastDue? (s : Session) : List ProcessStep → Option SetUpCall := s.lastBy ProcessStep.due?

/-- A run has settings that it should set logging up with, and leaves the top logger as it is. -/
inductive Strays (s : Session) : ProcessStep → Prop
  | run {arguments : List Text} {input : Bytes} {interrupted : Bool} {settings : Settings}
    (loaded : CommandLine.loaded? (s.runContext input interrupted) arguments = some settings)
    (unreadable : Terminal.sizesAreReadable s.values = false)
    (seen : s.logging.top ≠ settings.setUpCall.top) : Strays s (.run arguments input interrupted)

end Session

section Top

theorem top_eq (logging : Logging) :
    logging.top = ((logging.setup.map LogSetup.untimed).map LogSetup.top).getD .untouched := by
  unfold Logging.top Logging.handlers Logging.propagates
  cases logging.setup <;> rfl

theorem top_congr {logging other : Logging}
    (same : logging.setup.map LogSetup.untimed = other.setup.map LogSetup.untimed) :
    logging.top = other.top := by
  rw [top_eq, top_eq, same]

theorem top_setUp (logging : Logging) (setup : LogSetup) : (logging.setUp setup).top = setup.top := rfl

theorem top_tell (logging : Logging) (record : LogRecord) :
    (logging.tell record).top = logging.top := by
  apply top_congr
  unfold Logging.tell
  split
  next => cases logging.setup <;> rfl
  next => rfl

theorem top_keep (s : Session) (records : List LogRecord) :
    (s.keep records).logging.top = s.logging.top := by
  have told (logging : Logging) : (records.foldl Logging.tell logging).top = logging.top := by
    induction records generalizing logging with
    | nil => rfl
    | cons record later ih => exact (ih _).trans (top_tell logging record)
  exact told s.logging

theorem top_forget (logging : Logging) (location : Location) :
    (logging.forget location).top = logging.top := by
  unfold Logging.forget
  split
  next here =>
    obtain ⟨setup, held, file⟩ :
        ∃ setup, logging.setup = some setup ∧ setup.file = some (.at location) := by
      unfold Logging.place? at here
      cases held : logging.setup with
      | none =>
          rw [held] at here
          cases here
      | some setup =>
          rw [held] at here
          refine ⟨setup, rfl, ?_⟩
          rcases file : setup.file with _ | place | _
          · simp [file] at here
          · simpa [file] using here
          · simp [file] at here
    simp [Logging.top, Logging.handlers, Logging.propagates, held, file]
  next => rfl

end Top

section Step

variable {s : Session}

theorem top_of_setup? {call : SetUpCall} {setup : LogSetup} (found : call.setup? s = .ok setup)
    (logging : Logging) : (logging.setUp setup).top = call.top := by
  obtain ⟨screen, file, -, named, rfl⟩ := setup?_eq_ok.mp found
  rw [top_setUp, LogSetup.top, SetUpCall.top]
  unfold SetUpCall.file? at named
  split at named
  next unnamed =>
    cases named
    rw [unnamed]
    rfl
  next path given =>
    rw [given]
    cases place : s.tree.placeForFile [] (Path.absolute s.work path) with
    | error fault =>
        rw [place] at named
        cases named
    | ok location =>
        rw [place] at named
        cases named
        rfl

theorem top_perform_setUp (s : Session) (call : SetUpCall) :
    ((ProcessStep.setUp call).perform s).logging.top =
      (((ProcessStep.setUp call).counted? s).map SetUpCall.top).getD s.logging.top := by
  rw [ProcessStep.perform, perform_setUp, ProcessStep.counted?, setUpLogging_eq]
  cases found : call.setup? s with
  | error cause => rfl
  | ok setup => exact top_of_setup? found s.logging

end Step

namespace CommandLine

variable (context : RunContext) (logging : Logging) (arguments : List Text)

theorem runOn_logging (console : Screen) :
    (runOn console context logging arguments).logging =
      match loaded? context arguments with
      | none => logging
      | some settings =>
        match setupFor context.environment settings.verbosity with
        | .ok setup => logging.setUp setup
        | .error _ => logging := by
  unfold runOn loaded?
  cases Request.ofArguments? arguments with
  | none => rfl
  | some request =>
      cases usable : configIsUsable context request with
      | false => simp [usable]
      | true =>
          cases shown : request.version with
          | true => simp [usable, shown]
          | false =>
              simp only [Option.bind_some, usable, shown, carryOut, settingsOf]
              cases Settings.load context.toSurroundings request.config (overrides request) with
              | error halt => rfl
              | ok settings =>
                  cases made : setupFor context.environment settings.verbosity with
                  | error cause => simp [made, Except.toOption]
                  | ok setup => simp [made, Except.toOption]

omit context logging arguments in
theorem exists_of_setupFor {values : Variables} {verbosity : Verbosity} {setup : LogSetup}
    (made : setupFor values verbosity = .ok setup) :
    ∃ screen, setup = ⟨verbosity.level, screen, verbosity == .verbose, false, none⟩ := by
  obtain ⟨screen, -, made⟩ := (bind_eq_ok _ _ _).mp made
  exact ⟨screen, (pure_eq_ok _ _).mp made⟩

theorem top_runOn (console : Screen) :
    (runOn console context logging arguments).logging.top =
      ((setUpCall? context arguments).map SetUpCall.top).getD logging.top := by
  rw [runOn_logging, setUpCall?]
  cases loaded? context arguments with
  | none => simp
  | some settings =>
      cases readable : Terminal.sizesAreReadable context.environment with
      | false => simp [setupFor_of_unreadable readable]
      | true =>
          obtain ⟨setup, made⟩ := exists_setupFor readable settings.verbosity
          obtain ⟨screen, rfl⟩ := exists_of_setupFor made
          simp [made, top_setUp, LogSetup.top, SetUpCall.top, Settings.setUpCall, Verbosity.level]

end CommandLine

section Step

theorem Session.exists_load {s : Session} (readable : Terminal.sizesAreReadable s.values = true) :
    ∃ console, s.load = .ok console := by
  unfold load
  split
  next console _ => exact ⟨console, rfl⟩
  next => exact Screen.exists_ofTerminal false readable

theorem top_perform_run (s : Session) (arguments : List Text) (input : Bytes) (interrupted : Bool) :
    ((ProcessStep.run arguments input interrupted).perform s).logging.top =
      (((ProcessStep.run arguments input interrupted).counted? s).map SetUpCall.top).getD
        s.logging.top := by
  rw [ProcessStep.perform, Session.run, ProcessStep.counted?]
  cases loads : s.load with
  | ok console =>
      dsimp only
      rw [top_keep]
      exact CommandLine.top_runOn _ s.logging arguments console
  | error cause =>
      -- The program is not loaded, so there is no size for the console of the log either.
      have unreadable : Terminal.sizesAreReadable s.values = false := by
        rw [← Bool.not_eq_true]
        intro readable
        obtain ⟨console, loaded⟩ := Session.exists_load readable
        cases loads.symm.trans loaded
      have uncounted : CommandLine.setUpCall? (s.runContext input interrupted) arguments = none :=
        if_neg (Bool.eq_false_iff.mp unreadable)
      rw [uncounted]
      rfl

/-- A step leaves the top logger as the call that it counts as does, or else as it was. -/
theorem top_perform (s : Session) (step : ProcessStep) :
    (step.perform s).logging.top = ((step.counted? s).map SetUpCall.top).getD s.logging.top := by
  cases step with
  | setUp call => exact top_perform_setUp s call
  | run arguments input interrupted => exact top_perform_run s arguments input interrupted
  | log time name level text =>
      have same := untimed_log ({ s with time }.useLogger (Logger.fullName name))
        ⟨level, Logger.fullName name, text⟩
      exact (top_congr same).trans rfl
  | remove path =>
      rw [ProcessStep.perform]
      cases removed : s.remove path with
      | error fault => rfl
      | ok s' =>
          obtain ⟨place, -, removed⟩ := (bind_eq_ok _ _ _).mp removed
          split at removed
          next => cases removed
          next =>
            cases removed
            exact top_forget s.logging place
  | surround home work tree environment time => rfl

theorem perform_due_iff (s : Session) (step : ProcessStep) :
    (step.perform s).logging.top = ((step.due? s).map SetUpCall.top).getD s.logging.top ↔
      ¬ s.Strays step := by
  cases step with
  | run arguments input interrupted =>
      rw [top_perform, ProcessStep.counted?, ProcessStep.due?, CommandLine.setUpCall?]
      have values : (s.runContext input interrupted).environment = s.values := rfl
      rw [values]
      cases loaded : CommandLine.loaded? (s.runContext input interrupted) arguments with
      | none =>
          refine iff_of_true (by simp) ?_
          rintro ⟨found, -, -⟩
          cases loaded.symm.trans found
      | some settings =>
          cases readable : Terminal.sizesAreReadable s.values with
          | true =>
              refine iff_of_true rfl ?_
              rintro ⟨-, unreadable, -⟩
              cases readable.symm.trans unreadable
          | false =>
              constructor
              · rintro alike ⟨found, -, seen⟩
                cases loaded.symm.trans found
                exact seen alike
              · intro follows
                by_contra seen
                exact follows (.run loaded readable seen)
  | _ =>
      refine iff_of_true (top_perform s _) ?_
      rintro ⟨⟩

end Step

section History

theorem afterAll_concat (s : Session) (steps : List ProcessStep) (step : ProcessStep) :
    s.afterAll (steps ++ [step]) = step.perform (s.afterAll steps) := by
  rw [Session.afterAll, List.foldl_append]
  rfl

variable (call? : Session → ProcessStep → Option SetUpCall)

theorem lastBy_concat (s : Session) (steps : List ProcessStep) (step : ProcessStep) :
    s.lastBy call? (steps ++ [step]) =
      (call? (s.afterAll steps) step).or (s.lastBy call? steps) := by
  induction steps generalizing s with
  | nil => simp [Session.lastBy, Session.afterAll]
  | cons first later ih =>
      rw [List.cons_append, Session.lastBy, ih, Session.lastBy, Option.or_assoc]
      rfl

def topBy (s : Session) (steps : List ProcessStep) : TopLogger :=
  ((s.lastBy call? steps).map SetUpCall.top).getD s.logging.top

theorem topBy_concat (s : Session) (steps : List ProcessStep) (step : ProcessStep) :
    topBy call? s (steps ++ [step]) =
      ((call? (s.afterAll steps) step).map SetUpCall.top).getD (topBy call? s steps) := by
  rw [topBy, lastBy_concat, topBy]
  cases call? (s.afterAll steps) step <;> rfl

theorem top_afterAll (s : Session) (steps : List ProcessStep) :
    (s.afterAll steps).logging.top =
      ((s.lastCounted? steps).map SetUpCall.top).getD s.logging.top := by
  change _ = topBy ProcessStep.counted? s steps
  induction steps using List.reverseRecOn with
  | nil => rfl
  | append_singleton before step ih => rw [afterAll_concat, top_perform, topBy_concat, ih]

/-- All along a history the top logger is as it is due, as long as no run strays. -/
theorem top_due_iff (s : Session) (steps : List ProcessStep) :
    (∀ before, before <+: steps → (s.afterAll before).logging.top =
        ((s.lastDue? before).map SetUpCall.top).getD s.logging.top) ↔
      ∀ before step, before ++ [step] <+: steps → ¬ (s.afterAll before).Strays step := by
  constructor
  · intro due before step first
    have after := due _ first
    have alike := due before ((List.prefix_append before [step]).trans first)
    rw [← perform_due_iff, ← afterAll_concat, after, alike]
    exact topBy_concat ProcessStep.due? s before step
  · intro follows before
    induction before using List.reverseRecOn with
    | nil => exact fun _ => rfl
    | append_singleton before step ih =>
        intro first
        have alike := ih ((List.prefix_append before [step]).trans first)
        rw [afterAll_concat, (perform_due_iff _ step).mpr (follows before step first), alike]
        exact (topBy_concat ProcessStep.due? s before step).symm

theorem top_perform_of_isOk {s : Session} {call : SetUpCall}
    (succeeds : (s.setUpLogging call.verbose call.quiet call.path).isOk = true) :
    ((ProcessStep.setUp call).perform s).logging.top = call.top := by
  rw [top_perform, ProcessStep.counted?, if_pos succeeds]
  rfl

theorem setUpLogging_isOk (s : Session) (call : SetUpCall) :
    (s.setUpLogging call.verbose call.quiet call.path).isOk =
      (Terminal.sizesAreReadable s.values && (call.file? s).isOk) := by
  rw [setUpLogging_eq, SetUpCall.setup?, ← Screen.ofTerminal_isOk s.values false]
  cases Screen.ofTerminal s.values false with
  | error cause => rfl
  | ok screen => cases call.file? s <;> rfl

/--
Whatever calls and runs there have been, the top logger is as it was at the start if none of them
counts, and as the last one that does leaves it alone in a fresh process. A call is refused if its
console cannot be made or its file cannot be opened, and then leaves everything as it was. A run
counts as it should if and only if it does not stray.
-/
theorem top_after_history_iff (s : Session) (steps : List ProcessStep) :
    ((∀ before, before <+: steps → (s.afterAll before).logging.top =
        ((s.lastDue? before).map SetUpCall.top).getD s.logging.top) ↔
      ∀ before step, before ++ [step] <+: steps → ¬ (s.afterAll before).Strays step) ∧
      (s.lastCounted? steps = none → (s.afterAll steps).logging.top = s.logging.top) ∧
      (∀ call, s.lastCounted? steps = some call →
        (s.afterAll steps).logging.top = call.top ∧
          ∀ fresh : Session, fresh.logging = .untouched →
            (fresh.setUpLogging call.verbose call.quiet call.path).isOk = true →
            ((ProcessStep.setUp call).perform fresh).logging.top = (s.afterAll steps).logging.top) ∧
      (∀ call, (s.setUpLogging call.verbose call.quiet call.path).isOk =
          (Terminal.sizesAreReadable s.values && (call.file? s).isOk) ∧
        ((s.setUpLogging call.verbose call.quiet call.path).isOk = false →
          (ProcessStep.setUp call).perform s = s)) := by
  have after := top_afterAll s steps
  refine ⟨top_due_iff s steps, ?_, ?_, ?_⟩
  · intro none
    rw [after, none]
    rfl
  · intro call last
    rw [last] at after
    refine ⟨after, ?_⟩
    intro fresh _ succeeds
    exact (top_perform_of_isOk succeeds).trans after.symm
  · intro call
    refine ⟨setUpLogging_isOk s call, ?_⟩
    intro unset
    obtain ⟨cause, refused⟩ := exists_of_not_isOk unset
    rw [ProcessStep.perform, LogStep.perform, refused]

end History

section Example

def settlingDown : List ProcessStep :=
  [.run ["--no-such-option"] (Utf8.encode "[]") false,
    .setUp ⟨true, false, some "a.log"⟩,
    .setUp ⟨true, false, some "/work"⟩,
    .run ["-q"] (Utf8.encode "[") false,
    .surround "/home" "/work" atWork.tree [("LINT_REPORT_COLOR", "maybe")] "2026-01-01 08:00:01",
    .run ["-v"] (Utf8.encode "[]") false,
    .run ["--version"] (Utf8.encode "[]") false]

theorem top_after_settlingDown :
    (∀ before, before <+: settlingDown → (atWork.afterAll before).logging.top =
        ((atWork.lastDue? before).map SetUpCall.top).getD atWork.logging.top) ∧
      atWork.lastDue? settlingDown = some ⟨false, true, none⟩ ∧
      (atWork.afterAll settlingDown).logging.top = ⟨some .error, [.console], false⟩ ∧
      ((ProcessStep.setUp ⟨false, true, none⟩).perform atWork).logging.top =
        (atWork.afterAll settlingDown).logging.top ∧
      (ProcessStep.setUp ⟨true, false, some "/work"⟩).perform atWork = atWork := by
  have readable : ∀ n < settlingDown.length + 1, Terminal.sizesAreReadable
      (atWork.afterAll (settlingDown.take n)).values = true := by decide +kernel
  have last : atWork.lastCounted? settlingDown = some ⟨false, true, none⟩ := by decide +kernel
  have refuses : (atWork.setUpLogging true false (some "/work")).isOk = false := by decide +kernel
  obtain ⟨follows, -, counted, refused⟩ := top_after_history_iff atWork settlingDown
  obtain ⟨after, alone⟩ := counted _ last
  refine ⟨follows.mpr ?_, by decide +kernel, after, alone atWork rfl (by decide +kernel),
    (refused ⟨true, false, some "/work"⟩).2 refuses⟩
  rintro before _ first ⟨-, unreadable, -⟩
  have part := (List.prefix_append before _).trans first
  have sized := readable before.length (Nat.lt_succ_of_le part.length_le)
  rw [← List.prefix_iff_eq_take.mp part, unreadable] at sized
  cases sized

def withStrayColumns : Session := { atWork with environment := [("COLUMNS", "²")] }

/-- The settings of the run are loaded, but it does not set logging up. -/
theorem top_after_strayColumns :
    withStrayColumns.Strays (.run ["-v"] (Utf8.encode "[]") false) ∧
      ((ProcessStep.run ["-v"] (Utf8.encode "[]") false).perform withStrayColumns).logging.top =
        .untouched ∧
      ((ProcessStep.run ["-v"] (Utf8.encode "[]") false).due? withStrayColumns).map SetUpCall.top =
        some ⟨some .debug, [.console], false⟩ := by
  have loaded : CommandLine.loaded? (withStrayColumns.runContext (Utf8.encode "[]") false) ["-v"] =
      some ⟨none, "stylish", .verbose⟩ := by decide +kernel
  exact ⟨.run loaded (by decide +kernel) (by decide), by decide +kernel, by decide +kernel⟩

end Example

end LintFindings

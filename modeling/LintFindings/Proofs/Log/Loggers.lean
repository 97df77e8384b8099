import LintFindings.Proofs.Log.History

/-!
Which of the loggers that are handed out go by the last set-up: those in the tree. A name that only
starts like the one of the top logger is taken as it is and stays outside.
-/

namespace LintFindings

section History

variable {s : Session}

def LogEvent.lastSetUp (events : List LogEvent) : Option LogSetup := events.foldl last none

theorem foldl_last (events : List LogEvent) (current : Option LogSetup) :
    events.foldl LogEvent.last current = (LogEvent.lastSetUp events).or current := by
  induction events using List.reverseRecOn with
  | nil => rfl
  | append_singleton earlier event ih =>
      rw [LogEvent.lastSetUp, List.foldl_concat, List.foldl_concat]
      cases event with
      | setUp setup => rfl
      | refused cause => exact ih
      | told time record => exact ih

theorem logging_after_setUps (s : Session) (calls : List SetUpCall) :
    (s.after (calls.map .setUp)).logging =
      { s.logging with
        setup := (s.events (calls.map .setUp)).foldl LogEvent.last s.logging.setup } := by
  induction calls generalizing s with
  | nil => rfl
  | cons call later ih =>
      rw [List.map_cons, Session.after, List.foldl_cons, ← Session.after, ih, Session.events,
        List.foldl_cons, perform_setUp, LogStep.event]
      cases call.setup? s <;> rfl

end History

/-- What a logger does that goes by a set-up: level, console and file are those of the set-up. -/
structure Obeys (s : Session) (setup : LogSetup) (logger : Text) : Prop where
  inTree : s.logging.isInTree logger = true
  letThrough : ∀ level text,
    s.logging.letsThrough ⟨level, logger, text⟩ = level.reaches setup.level
  printed : ∀ level text width, s.logging.printed width ⟨level, logger, text⟩ =
    if level.reaches setup.level then Console.printed setup (width setup) ⟨level, logger, text⟩
    else []
  written : ∀ level text, (s.log ⟨level, logger, text⟩).tree =
    if level.reaches setup.level then
      setup.extend s.tree (Utf8.encode (LogRecord.entry s.time ⟨level, logger, text⟩))
    else s.tree

section Logger

variable {s : Session} {setup : LogSetup} {logger : Text}

theorem obeys_of_inTree (held : s.logging.setup = some setup)
    (inTree : s.logging.isInTree logger = true) : Obeys s setup logger := by
  have letThrough (level : Level) (text : Text) :
      s.logging.letsThrough ⟨level, logger, text⟩ = level.reaches setup.level := by
    simp [Logging.letsThrough, Logging.threshold, held, inTree]
  refine ⟨inTree, letThrough, ?_, ?_⟩
  · intro level text width
    rw [Logging.printed, letThrough, held, inTree]
    cases level.reaches setup.level <;> rfl
  · intro level text
    rw [tree_log, letThrough, write_eq _ _ _ _ inTree, held]

end Logger

section Calls

variable {s : Session} {calls : List SetUpCall} {setup : LogSetup}

def handedOut (s : Session) (calls : List SetUpCall) (name : Option Text) : Session :=
  (s.after (calls.map .setUp)).useLogger (Logger.fullName name)

theorem setup_handedOut (name : Option Text)
    (last : LogEvent.lastSetUp (s.events (calls.map .setUp)) = some setup) :
    (handedOut s calls name).logging.setup = some setup := by
  have same : (handedOut s calls name).logging.setup =
      (s.after (calls.map .setUp)).logging.setup := rfl
  rw [same, logging_after_setUps, foldl_last, last]
  rfl

theorem isInTree_handedOut (calls : List SetUpCall) (name : Option Text)
    (noneBare : Logger.NoneBare s.logging.used) :
    (handedOut s calls name).logging.isInTree (Logger.fullName name) = true ↔
      Logger.JoinsTop (Logger.fullName name) := by
  have used : (handedOut s calls name).logging.used = Logger.fullName name :: s.logging.used := by
    have same : (handedOut s calls name).logging.used =
        Logger.fullName name :: (s.after (calls.map .setUp)).logging.used := rfl
    rw [same, logging_after_setUps]
  rw [Logging.isInTree, used]
  exact Logger.isInTree_iff (Logger.top_prefix_fullName name)
    (Logger.clear_of_noneBare noneBare _)

/-- A logger goes by the last successful call exactly when its name puts it in the tree. -/
theorem obeys_iff_joinsTop (s : Session) (calls : List SetUpCall) (setup : LogSetup)
    (name : Option Text) (noneBare : Logger.NoneBare s.logging.used)
    (last : LogEvent.lastSetUp (s.events (calls.map .setUp)) = some setup) :
    Obeys (handedOut s calls name) setup (Logger.fullName name) ↔
      Logger.JoinsTop (Logger.fullName name) := by
  rw [← isInTree_handedOut calls name noneBare]
  exact ⟨Obeys.inTree, obeys_of_inTree (setup_handedOut name last)⟩

def threeCalls : List SetUpCall :=
  [⟨true, false, none⟩, ⟨false, true, some "a.log"⟩, ⟨false, false, some "/work"⟩]

def quietWithFile : LogSetup :=
  ⟨.error, ⟨none, none, .plain⟩, false, false, some (.at ["work", "a.log"])⟩

theorem obeys_iff_joinsTop_loader :
    Obeys (handedOut atWork threeCalls (some "loader")) quietWithFile
      (Logger.fullName (some "loader")) := by
  have noneBare : Logger.NoneBare atWork.logging.used := fun _ => List.not_mem_nil
  have last : LogEvent.lastSetUp (atWork.events (threeCalls.map .setUp)) = some quietWithFile := by
    decide +kernel
  rw [obeys_iff_joinsTop atWork threeCalls quietWithFile _ noneBare last]
  decide

/-- A warning gets through although only errors should, and no set-up ever reaches its logger. -/
theorem not_obeys_reporter :
    LogEvent.lastSetUp (atWork.events (threeCalls.map .setUp)) = some quietWithFile ∧
      ¬ Obeys (handedOut atWork threeCalls (some "lint_reporter")) quietWithFile
        (Logger.fullName (some "lint_reporter")) := by
  refine ⟨by decide +kernel, ?_⟩
  intro obeys
  have silent := obeys.letThrough .warning "m"
  have heard : (handedOut atWork threeCalls (some "lint_reporter")).logging.letsThrough
      ⟨.warning, Logger.fullName (some "lint_reporter"), "m"⟩ = true := by decide +kernel
  rw [heard] at silent
  exact absurd silent (by decide)

end Calls

end LintFindings

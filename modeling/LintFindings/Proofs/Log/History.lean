import LintFindings.Session
import LintFindings.Proofs.Files.Tree
import LintFindings.Proofs.Log.Names

/-!
Histories of calls that set logging up and of records that are logged in between, and what they
leave in the log files.
-/

namespace LintFindings

structure SetUpCall where
  verbose : Bool
  quiet : Bool
  path : Option Text
  deriving DecidableEq, Repr

inductive LogStep where
  | setUp (call : SetUpCall)
  | log (time : Text) (name : Option Text) (level : Level) (text : Text)
  deriving DecidableEq, Repr

/-- What a step comes to: a call that succeeds or is refused, or a record. -/
inductive LogEvent where
  | setUp (setup : LogSetup)
  | refused (cause : Escape)
  | told (time : Text) (record : LogRecord)
  deriving DecidableEq, Repr

namespace LogSetup

/-- What a call sets up does not depend on whether the console has shown the time since. -/
def untimed (setup : LogSetup) : LogSetup := { setup with timed := false }

def keepsAt (setup : LogSetup) (location : Location) : Bool :=
  setup.file == some (.at location)

end LogSetup

namespace SetUpCall

def file? (s : Session) (call : SetUpCall) : Except Escape (Option Location) :=
  match call.path.filter (· != []) with
  | none => .ok none
  | some path =>
    ((s.tree.placeForFile [] (Path.absolute s.work path)).mapError Escape.path).map some

/-- What a call sets up, unless its console cannot be made or its file cannot be opened. -/
def setup? (s : Session) (call : SetUpCall) : Except Escape LogSetup := do
  let screen ← Screen.ofTerminal s.values false
  let file ← call.file? s
  return ⟨Logging.requestedLevel call.verbose call.quiet, screen, call.verbose, false,
    file.map .at⟩

end SetUpCall

namespace LogStep

def perform (s : Session) : LogStep → Session
  | .setUp call =>
    match s.setUpLogging call.verbose call.quiet call.path with
    | .ok s => s
    | .error _ => s
  | .log time name level text =>
    ({ s with time }.useLogger (Logger.fullName name)).log ⟨level, Logger.fullName name, text⟩

def event (s : Session) : LogStep → LogEvent
  | .setUp call =>
    match call.setup? s with
    | .ok setup => .setUp setup
    | .error cause => .refused cause
  | .log time name level text => .told time ⟨level, Logger.fullName name, text⟩

/-- The logger that a step uses, if any, is the top one or lies below it. -/
def JoinsTop : LogStep → Prop
  | .setUp _ => True
  | .log _ name _ _ => Logger.JoinsTop (Logger.fullName name)

instance : DecidablePred JoinsTop
  | .setUp _ => inferInstanceAs (Decidable True)
  | .log _ name _ _ => inferInstanceAs (Decidable (Logger.JoinsTop (Logger.fullName name)))

end LogStep

namespace Session

def after (s : Session) (steps : List LogStep) : Session := steps.foldl LogStep.perform s

def events (s : Session) : List LogStep → List LogEvent
  | [] => []
  | step :: later => step.event s :: (step.perform s).events later

end Session

namespace LogEvent

def last (current : Option LogSetup) : LogEvent → Option LogSetup
  | .setUp setup => some setup
  | _ => current

def opens (location : Location) : LogEvent → Bool
  | .setUp setup => setup.keepsAt location
  | _ => false

def entry (location : Location) (current : Option LogSetup) : LogEvent → Text
  | .told time record =>
    match current with
    | some setup =>
      if setup.keepsAt location && record.level.reaches setup.level then record.entry time else []
    | none => []
  | _ => []

def entries (location : Location) : Option LogSetup → List LogEvent → Text
  | _, [] => []
  | current, event :: later =>
    event.entry location current ++ entries location (event.last current) later

end LogEvent

namespace LogSetup

def extend (setup : LogSetup) (tree : FileTree) (bytes : Bytes) : FileTree :=
  match setup.file with
  | some (.at location) => tree.append location bytes
  | _ => tree

@[simp]
theorem level_untimed (setup : LogSetup) : setup.untimed.level = setup.level := rfl

@[simp]
theorem keepsAt_untimed (setup : LogSetup) : setup.untimed.keepsAt = setup.keepsAt := rfl

variable {setup : LogSetup} {location : Location}

theorem keepsAt_iff : setup.keepsAt location = true ↔ setup.file = some (.at location) :=
  beq_iff_eq

theorem node?_extend {tree : FileTree} (bytes : Bytes)
    (noFolder : ∀ place, setup.keepsAt place = true → tree.node? place ≠ some .folder) :
    (setup.extend tree bytes).node? location =
      if setup.keepsAt location then some (.grown bytes (tree.node? location))
      else tree.node? location := by
  rw [extend]
  rcases named : setup.file with _ | place | _
  · simp [keepsAt, named]
  · simp only [FileTree.node?_append _ (noFolder place (keepsAt_iff.mpr named)), keepsAt, named]
    by_cases same : location = place
    · simp [same]
    · simp [same, Ne.symm same]
  · simp [keepsAt, named]

end LogSetup

section SetUp

variable {s : Session} {call : SetUpCall} {setup : LogSetup} {location : Location}

theorem setUpLogging_eq (s : Session) (call : SetUpCall) :
    s.setUpLogging call.verbose call.quiet call.path =
      (call.setup? s).map fun setup =>
        { s with tree := setup.extend s.tree [], logging := s.logging.setUp setup } := by
  rw [Session.setUpLogging, SetUpCall.setup?, SetUpCall.file?]
  cases Screen.ofTerminal s.values false with
  | error cause => rfl
  | ok screen =>
      cases call.path.filter (· != []) with
      | none => rfl
      | some path =>
          cases place : s.tree.placeForFile [] (Path.absolute s.work path) with
          | error fault => simp [place, Except.mapError, Except.map, Bind.bind, Except.bind]
          | ok location =>
              simp [place, Except.mapError, Except.map, Bind.bind, Except.bind, Pure.pure,
                Except.pure, LogSetup.extend]

theorem perform_setUp (s : Session) (call : SetUpCall) :
    (LogStep.setUp call).perform s =
      match call.setup? s with
      | .ok setup => { s with tree := setup.extend s.tree [], logging := s.logging.setUp setup }
      | .error _ => s := by
  rw [LogStep.perform, setUpLogging_eq]
  cases call.setup? s <;> rfl

theorem setup?_eq_ok :
    call.setup? s = .ok setup ↔
      ∃ screen file, Screen.ofTerminal s.values false = .ok screen ∧ call.file? s = .ok file ∧
        setup = ⟨Logging.requestedLevel call.verbose call.quiet, screen, call.verbose, false,
          file.map .at⟩ := by
  simp only [SetUpCall.setup?, bind_eq_ok, pure_eq_ok]
  constructor
  · rintro ⟨screen, made, file, named, same⟩
    exact ⟨screen, file, made, named, same⟩
  · rintro ⟨screen, file, made, named, same⟩
    exact ⟨screen, made, file, named, same⟩

theorem untimed_of_setup? (found : call.setup? s = .ok setup) : setup.untimed = setup := by
  obtain ⟨screen, file, -, -, rfl⟩ := setup?_eq_ok.mp found
  rfl

theorem placeForFile_of_file? {place : Location} (named : call.file? s = .ok (some place)) :
    ∃ path, s.tree.placeForFile [] path = .ok place := by
  rw [SetUpCall.file?] at named
  split at named
  next => cases named
  next path _ =>
    refine ⟨Path.absolute s.work path, ?_⟩
    cases found : s.tree.placeForFile [] (Path.absolute s.work path) with
    | error fault =>
        rw [found] at named
        cases named
    | ok other =>
        rw [found] at named
        cases named
        rfl

theorem noFolder_of_setup? (found : call.setup? s = .ok setup)
    (kept : setup.keepsAt location = true) : s.tree.node? location ≠ some .folder := by
  obtain ⟨screen, file, -, named, rfl⟩ := setup?_eq_ok.mp found
  rw [LogSetup.keepsAt_iff] at kept
  obtain ⟨place, rfl, same⟩ := Option.map_eq_some_iff.mp kept
  cases same
  obtain ⟨path, opened⟩ := placeForFile_of_file? named
  exact FileTree.noFolder_of_placeForFile opened

end SetUp

namespace Session

/-- The set-up in force is the one of the last successful call, and its file is there. -/
structure Follows (s : Session) (current : Option LogSetup) : Prop where
  inForce : s.logging.setup.map LogSetup.untimed = current
  fileThere : ∀ location, current.any (·.keepsAt location) = true →
    ∃ bytes, s.tree.node? location = some (.file bytes)
  regular : Logger.Regular s.logging.used

theorem Follows.grown_nothing {s : Session} {current : Option LogSetup} {location : Location}
    (follows : s.Follows current) (kept : current.any (·.keepsAt location) = true) :
    some (Node.grown [] (s.tree.node? location)) = s.tree.node? location := by
  obtain ⟨bytes, there⟩ := follows.fileThere location kept
  simp [there, Node.grown]

end Session

section Logged

variable {s : Session} {current : Option LogSetup} {record : LogRecord} {location : Location}

theorem tree_log (s : Session) (record : LogRecord) :
    (s.log record).tree =
      if s.logging.letsThrough record then s.logging.write s.time s.tree record else s.tree := by
  cases through : s.logging.letsThrough record <;> simp [Session.log, Session.keep, through]

theorem logging_log (s : Session) (record : LogRecord) :
    (s.log record).logging =
      if s.logging.letsThrough record then s.logging.tell record else s.logging := by
  cases through : s.logging.letsThrough record <;> simp [Session.log, Session.keep, through]

theorem used_log (s : Session) (record : LogRecord) :
    (s.log record).logging.used = s.logging.used := by
  rw [logging_log, Logging.tell]
  split <;> [split; skip] <;> rfl

theorem untimed_log (s : Session) (record : LogRecord) :
    (s.log record).logging.setup.map LogSetup.untimed =
      s.logging.setup.map LogSetup.untimed := by
  rw [logging_log, Logging.tell]
  split
  next =>
    split
    next => cases s.logging.setup <;> rfl
    next => rfl
  next => rfl

theorem write_eq (logging : Logging) (time : Text) (tree : FileTree) (record : LogRecord)
    (inTree : logging.isInTree record.logger = true) :
    logging.write time tree record =
      match logging.setup with
      | some setup => setup.extend tree (Utf8.encode (record.entry time))
      | none => tree := by
  rw [Logging.write, Logging.place?]
  cases logging.setup with
  | none => rfl
  | some setup =>
      simp only [Option.bind_some, LogSetup.extend]
      rcases setup.file with _ | location | _ <;> simp [inTree]

theorem node?_log (follows : s.Follows current)
    (inTree : s.logging.isInTree record.logger = true) :
    (s.log record).tree.node? location =
      if current.any (·.keepsAt location) then
        some (.grown (Utf8.encode (LogEvent.entry location current (.told s.time record)))
          (s.tree.node? location))
      else s.tree.node? location := by
  have inForce := follows.inForce
  have there := follows.fileThere
  rw [tree_log, write_eq _ _ _ _ inTree, Logging.letsThrough, Logging.threshold, inTree]
  cases held : s.logging.setup with
  | none =>
      rw [held] at inForce
      subst inForce
      simp
  | some setup =>
      rw [held] at inForce
      subst inForce
      simp only [Option.map_some, Option.any_some, LogSetup.keepsAt_untimed] at there
      have noFolder (place : Location) (kept : setup.keepsAt place = true) :
          s.tree.node? place ≠ some .folder := by
        obtain ⟨bytes, found⟩ := there place kept
        simp [found]
      simp only [Option.map_some, Option.any_some, LogEvent.entry, if_true,
        LogSetup.level_untimed, LogSetup.keepsAt_untimed]
      by_cases reaches : record.level.reaches setup.level = true
      · rw [if_pos reaches, LogSetup.node?_extend _ noFolder]
        by_cases kept : setup.keepsAt location = true <;> simp [kept, reaches]
      · by_cases kept : setup.keepsAt location = true
        · obtain ⟨bytes, found⟩ := there location kept
          simp [kept, reaches, found, Node.grown, Utf8.encode]
        · simp [kept, reaches]

end Logged

section Step

variable {s : Session} {current : Option LogSetup}

theorem Session.Follows.useLogger (follows : s.Follows current) (time : Text) {name : Text}
    (joins : Logger.JoinsTop name) : ({ s with time }.useLogger name).Follows current where
  inForce := follows.inForce
  fileThere := follows.fileThere
  regular := follows.regular.cons joins

theorem isInTree_useLogger (follows : s.Follows current) (time : Text) {name : Option Text}
    (joins : Logger.JoinsTop (Logger.fullName name)) :
    ({ s with time }.useLogger (Logger.fullName name)).logging.isInTree (Logger.fullName name) =
      true := by
  have regular := (follows.useLogger time joins).regular
  have clear := Logger.clear_of_joinsTop joins regular
  exact (Logger.isInTree_iff (Logger.top_prefix_fullName name) clear).mpr joins

/-- A step that opens or keeps a file leaves it there with what the step adds to it. -/
theorem node?_perform (location : Location) (follows : s.Follows current) {step : LogStep}
    (joins : step.JoinsTop) :
    (step.perform s).tree.node? location =
      if ((step.event s).last current).any (·.keepsAt location) then
        some (.grown (Utf8.encode ((step.event s).entry location current)) (s.tree.node? location))
      else s.tree.node? location := by
  cases step with
  | log time name level text =>
      exact node?_log (follows.useLogger time joins) (isInTree_useLogger follows time joins)
  | setUp call =>
      rw [perform_setUp, LogStep.event]
      cases found : call.setup? s with
      | error cause =>
          cases kept : current.any (·.keepsAt location) with
          | false => simp [LogEvent.last, kept]
          | true =>
              simp only [LogEvent.last, LogEvent.entry, kept, if_true]
              exact (follows.grown_nothing kept).symm
      | ok setup =>
          simp only [LogEvent.last, LogEvent.entry, Option.any_some]
          exact LogSetup.node?_extend [] fun place kept => noFolder_of_setup? found kept

theorem Session.Follows.perform (follows : s.Follows current) {step : LogStep}
    (joins : step.JoinsTop) : (step.perform s).Follows ((step.event s).last current) where
  inForce := by
    cases step with
    | log time name level text =>
        exact (untimed_log _ _).trans follows.inForce
    | setUp call =>
        rw [perform_setUp, LogStep.event]
        cases found : call.setup? s with
        | error cause => exact follows.inForce
        | ok setup => exact congrArg some (untimed_of_setup? found)
  fileThere := by
    intro location kept
    rw [node?_perform location follows joins, if_pos kept]
    obtain ⟨bytes, grown⟩ := Node.exists_grown
      (Utf8.encode ((step.event s).entry location current)) (s.tree.node? location)
    exact ⟨bytes, congrArg some grown⟩
  regular := by
    cases step with
    | log time name level text =>
        rw [LogStep.perform, used_log]
        exact follows.regular.cons joins
    | setUp call =>
        rw [perform_setUp]
        cases call.setup? s <;> exact follows.regular

end Step

section Run

variable {s : Session} {current : Option LogSetup} {location : Location}

theorem kept_of_last {event : LogEvent}
    (kept : (event.last current).any (·.keepsAt location) = true) :
    (current.any (·.keepsAt location) || event.opens location) = true := by
  cases event with
  | setUp setup => exact Bool.or_eq_true_iff.mpr (.inr kept)
  | refused cause => exact Bool.or_eq_true_iff.mpr (.inl kept)
  | told time record => exact Bool.or_eq_true_iff.mpr (.inl kept)

theorem opens_of_last {event : LogEvent}
    (closed : (event.last current).any (·.keepsAt location) = false) :
    event.opens location = false := by
  cases event with
  | setUp setup => exact closed
  | refused cause => rfl
  | told time record => rfl

theorem entry_of_last {event : LogEvent}
    (closed : (event.last current).any (·.keepsAt location) = false) :
    event.entry location current = [] := by
  cases event with
  | told time record =>
      cases current with
      | none => rfl
      | some setup =>
          have other : setup.keepsAt location = false := closed
          simp [LogEvent.entry, other]
  | setUp setup => rfl
  | refused cause => rfl

theorem entries_of_closed {events : List LogEvent}
    (closed : current.any (·.keepsAt location) = false)
    (unopened : events.any (·.opens location) = false) :
    LogEvent.entries location current events = [] := by
  induction events generalizing current with
  | nil => rfl
  | cons event later ih =>
      rw [List.any_cons, Bool.or_eq_false_iff] at unopened
      have closed' : (event.last current).any (·.keepsAt location) = false := by
        rw [Bool.eq_false_iff]
        intro kept
        have opened := kept_of_last kept
        rw [closed, unopened.1] at opened
        cases opened
      rw [LogEvent.entries, entry_of_last closed', ih closed' unopened.2]
      rfl

theorem node?_after_of_follows (follows : s.Follows current) {steps : List LogStep}
    (joins : ∀ step ∈ steps, step.JoinsTop) :
    (s.after steps).tree.node? location =
      if current.any (·.keepsAt location) || (s.events steps).any (·.opens location) then
        some (.grown (Utf8.encode (LogEvent.entries location current (s.events steps)))
          (s.tree.node? location))
      else s.tree.node? location := by
  induction steps generalizing s current with
  | nil =>
      cases kept : current.any (·.keepsAt location) with
      | false => rfl
      | true => exact (follows.grown_nothing kept).symm
  | cons step later ih =>
      have joins' := joins step List.mem_cons_self
      have here := node?_perform location follows joins'
      have there := ih (follows.perform joins')
        (fun other member => joins other (List.mem_cons_of_mem step member))
      rw [Session.after, List.foldl_cons, ← Session.after, there, Session.events, List.any_cons,
        LogEvent.entries, Utf8.encode_append]
      cases kept : ((step.event s).last current).any (·.keepsAt location) with
      | true =>
          -- the file is open after the step, and what comes later follows the step's own entry
          rw [kept, if_pos rfl] at here
          have opened := kept_of_last kept
          rw [here, Node.grown_grown, ← Bool.or_assoc, opened]
          rfl
      | false =>
          rw [kept, if_neg Bool.false_ne_true] at here
          rw [here, entry_of_last kept, opens_of_last kept]
          cases opened : ((step.perform s).events later).any (·.opens location) with
          | true => simp [Utf8.encode]
          | false =>
              rw [entries_of_closed kept opened]
              cases kept' : current.any (·.keepsAt location) with
              | false => simp
              | true => exact (follows.grown_nothing kept').symm

/--
Whatever is set up and logged in whatever order, a file that has been opened has what it had at
first and then the entries that it is due, and every other place stays as it was.
-/
theorem node?_after (s : Session) (steps : List LogStep) (location : Location)
    (fresh : s.logging.setup = none) (regular : Logger.Regular s.logging.used)
    (joins : ∀ step ∈ steps, step.JoinsTop) :
    (s.after steps).tree.node? location =
      if (s.events steps).any (·.opens location) then
        some (.grown (Utf8.encode (LogEvent.entries location none (s.events steps)))
          (s.tree.node? location))
      else s.tree.node? location := by
  have follows : s.Follows none := by
    refine ⟨?_, ?_, regular⟩
    · rw [fresh]
      rfl
    · intro location kept
      cases kept
  exact node?_after_of_follows follows joins

end Run

section Example

def atWork : Session := .start "/home" "/work" "2026-01-01 08:00:00"

def takingTurns : List LogStep :=
  [.log "2026-01-01 08:00:01" none .error "early",
    .setUp ⟨true, false, some "a.log"⟩,
    .log "2026-01-01 08:00:02" (some "loader") .debug "one",
    .setUp ⟨false, false, some "/work"⟩,
    .log "2026-01-01 08:00:03" (some "lint_report.api") .info "two",
    .setUp ⟨false, true, some "b.log"⟩,
    .log "2026-01-01 08:00:04" none .warning "three",
    .setUp ⟨false, false, none⟩,
    .log "2026-01-01 08:00:05" none .error "four",
    .setUp ⟨false, false, some "./a.log"⟩,
    .log "2026-01-01 08:00:06" none .warning "five"]

theorem node?_after_takingTurns :
    (atWork.after takingTurns).tree.node? ["work", "a.log"] = some (.file (Utf8.encode
      ("2026-01-01 08:00:02 - lint_report.loader - DEBUG - one\n" ++
        "2026-01-01 08:00:03 - lint_report.api - INFO - two\n" ++
        "2026-01-01 08:00:06 - lint_report - WARNING - five\n"))) := by
  have regular : Logger.Regular atWork.logging.used := fun _ => List.not_mem_nil
  have joins : ∀ step ∈ takingTurns, step.JoinsTop := by decide
  rw [node?_after atWork takingTurns _ rfl regular joins]
  decide +kernel

/-- Below the top logger by the spelling of its name, but not in the tree. -/
def strayPeriod : List LogStep :=
  [.setUp ⟨false, false, some "a.log"⟩,
    .log "2026-01-01 08:00:01" (some "lint_report..loader") .error "lost"]

theorem node?_after_strayPeriod :
    ("lint_report." : Text) <+: Logger.fullName (some "lint_report..loader") ∧
      (atWork.events strayPeriod).any (·.opens ["work", "a.log"]) = true ∧
      (atWork.after strayPeriod).tree.node? ["work", "a.log"] ≠
        some (.grown (Utf8.encode
            (LogEvent.entries ["work", "a.log"] none (atWork.events strayPeriod)))
          (atWork.tree.node? ["work", "a.log"])) := by
  decide +kernel

end Example

end LintFindings

import LintFindings.Proofs.CommandLine.Terminal
import LintFindings.Proofs.Input.Written
import LintFindings.Proofs.Report.Tally

/-!
The log of a run on logging that has not been set up before. It says how far the run got: each stage
that is passed leaves its record, and so do a failure and an interruption at the end, if the settings
ask for them. This fails where the program cannot be loaded, and for a report whose numbers can be
written but not their sum.
-/

namespace LintFindings

theorem Level.reaches_of_mild {level : Level} (mild : level = .debug ∨ level = .info)
    (verbosity : Verbosity) : level.reaches verbosity.level = (verbosity == .verbose) := by
  rcases mild with rfl | rfl <;> cases verbosity <;> rfl

section LetThrough

def runLoggers : List Text :=
  ["lint_report.cli.report", "lint_report.loader", "lint_report.formatters.stylish"]

structure LogRecord.IsOfRun (record : LogRecord) : Prop where
  mild : record.level = .debug ∨ record.level = .info
  logger : record.logger ∈ runLoggers

variable {record : LogRecord} (ofRun : record.IsOfRun)

include ofRun

theorem letsThrough_setUp (setup : LogSetup) {verbosity : Verbosity}
    (level : setup.level = verbosity.level) :
    (Logging.untouched.setUp setup).letsThrough record = (verbosity == .verbose) := by
  have inTree : ∀ logger ∈ runLoggers, Logger.isInTree [] logger = true := by decide
  have threshold : (Logging.untouched.setUp setup).threshold record.logger = setup.level :=
    if_pos (inTree _ ofRun.logger)
  rw [Logging.letsThrough, threshold, level, Level.reaches_of_mild ofRun.mild]

theorem letsThrough_untouched : Logging.untouched.letsThrough record = false :=
  Level.reaches_of_mild ofRun.mild .normal

end LetThrough

namespace CommandLine

section Course

def inputName (request : Request) : Text :=
  let word := request.input.getD streamWord
  if word = streamWord then "<stdin>" else Path.normal word

def foundFiles? (context : RunContext) (request : Request) : Option (List FileFindings) :=
  if context.interrupted then none else (readInput context request).result.toOption

def hasReport (context : RunContext) (request : Request) : Bool :=
  match calls context request with
  | .ok (text, _) => !text.isEmpty
  | .error _ => false

def numbersRecord (files : List FileFindings) : LogRecord :=
  Report.tallyRecord (Report.withFindings files).length (Report.errorCount files)
    (Report.warningCount files)

def foundRecord (name : Text) (files : List FileFindings) : LogRecord :=
  ⟨.debug, "lint_report.loader",
    "Loaded " ++ Text.ofNat files.length ++ " file result(s) from " ++ name⟩

/-- The records that the stages between the settings and the end of a run leave. -/
def stageRecords (name : Text) (tells : List FileFindings → Bool) :
    Option (List FileFindings) → List LogRecord
  | none => []
  | some files => foundRecord name files :: if tells files then [numbersRecord files] else []

def lastRecords : Ending → List LogRecord
  | .failed cause => [⟨.debug, "lint_report.cli.report", cause.kind.name ++ ": " ++ cause.text⟩]
  | .interrupted => [⟨.info, "lint_report.cli.report", "Interrupted by user"⟩]
  | _ => []

/-- All records of a run that gets past its settings, as far as it gets. -/
def courseRecords (context : RunContext) (request : Request) (settings : Settings)
    (tells : List FileFindings → Bool) (ending : Ending) : List LogRecord :=
  ⟨.debug, "lint_report.cli.report", "Settings: " ++ settings.shown⟩ ::
    stageRecords (inputName request) tells (foundFiles? context request) ++ lastRecords ending

theorem isOfRun_lastRecords (ending : Ending) : ∀ record ∈ lastRecords ending, record.IsOfRun := by
  have report : "lint_report.cli.report".toList ∈ runLoggers := by decide
  intro record member
  cases ending with
  | failed cause => exact List.mem_singleton.mp member ▸ ⟨.inl rfl, report⟩
  | interrupted => exact List.mem_singleton.mp member ▸ ⟨.inr rfl, report⟩
  | _ => cases member

theorem isOfRun_stageRecords (name : Text) (tells : List FileFindings → Bool)
    (found? : Option (List FileFindings)) :
    ∀ record ∈ stageRecords name tells found?, record.IsOfRun := by
  have loader : "lint_report.loader".toList ∈ runLoggers := by decide
  have stylish : "lint_report.formatters.stylish".toList ∈ runLoggers := by decide
  intro record member
  cases found? with
  | none => cases member
  | some files =>
      rcases List.mem_cons.mp member with rfl | member
      · exact ⟨.inl rfl, loader⟩
      · split at member
        next => exact List.mem_singleton.mp member ▸ ⟨.inl rfl, stylish⟩
        next => cases member

theorem isOfRun_courseRecords (context : RunContext) (request : Request) (settings : Settings)
    (tells : List FileFindings → Bool) (ending : Ending) :
    ∀ record ∈ courseRecords context request settings tells ending, record.IsOfRun := by
  have report : "lint_report.cli.report".toList ∈ runLoggers := by decide
  rw [courseRecords, List.forall_mem_append, List.forall_mem_cons]
  exact ⟨⟨⟨.inl rfl, report⟩, isOfRun_stageRecords _ _ _⟩, isOfRun_lastRecords ending⟩

theorem stageRecords_eq_iff (name : Text) (tells tells' : List FileFindings → Bool)
    (found? : Option (List FileFindings)) :
    stageRecords name tells found? = stageRecords name tells' found? ↔
      ∀ files, found? = some files → tells files = tells' files := by
  cases found? with
  | none => simp [stageRecords]
  | some files => cases told : tells files <;> cases told' : tells' files <;>
      simp [stageRecords, told, told']

theorem courseRecords_eq_iff (context : RunContext) (request : Request) (settings : Settings)
    (tells tells' : List FileFindings → Bool) (ending : Ending) :
    courseRecords context request settings tells ending =
        courseRecords context request settings tells' ending ↔
      ∀ files, foundFiles? context request = some files → tells files = tells' files := by
  rw [courseRecords, courseRecords, List.append_cancel_right_eq, List.cons_eq_cons,
    stageRecords_eq_iff, and_iff_right rfl]

end Course

section Stages

variable {files : List FileFindings}

def endingOfText (status : Nat) : Except Halt Text → Ending
  | .ok text => .reported text status
  | .error halt => endingOfHalt halt

theorem records_of_withFindings (shown : Report.withFindings files ≠ []) :
    Report.records files =
      if isWritable (Report.errorCount files) && isWritable (Report.warningCount files) then
        [numbersRecord files] else [] := by
  have notEmpty : (Report.withFindings files).isEmpty = false := List.isEmpty_eq_false_iff.mpr shown
  rw [Report.records, notEmpty, Report.formattedRecord_eq, Report.countsAreWritable,
    Report.totals_eq, Bool.false_or, numbersRecord]
  cases isWritable (Report.errorCount files) && isWritable (Report.warningCount files) <;> rfl

theorem endingIsWritable_of_withFindings (shown : Report.withFindings files ≠ []) :
    Report.endingIsWritable files =
      (isWritable (Report.errorCount files) && isWritable (Report.warningCount files) &&
        isWritable (Report.errorCount files + Report.warningCount files)) := by
  have notEmpty : (Report.withFindings files).isEmpty = false := List.isEmpty_eq_false_iff.mpr shown
  rw [Report.endingIsWritable, notEmpty, Report.totals_eq, Bool.false_or, Report.summaryIsWritable,
    Report.countsAreWritable, Totals.all]

/--
Whether the numbers of a report are logged: if the report is not empty, and also if there is none
because the two numbers can be written and their sum cannot.
-/
def tellsNumbers (files : List FileFindings) : Ending → Bool
  | .reported report _ => !report.isEmpty
  | .escaped .digitLimit =>
    isWritable (Report.errorCount files) && isWritable (Report.warningCount files) &&
      !isWritable (Report.errorCount files + Report.warningCount files)
  | _ => false

/-- The record of a report is made once its counts are known, which is before it is finished. -/
theorem write_records_eq (passes : Report.stop? files = none) (styler : Styler) (status : Nat) :
    (Report.write styler files).records =
      if tellsNumbers files (endingOfText status (Report.write styler files).result) then
        [numbersRecord files] else [] := by
  rw [Report.write_records passes, Report.write_result, passes]
  by_cases shown : Report.withFindings files = []
  · have empty : Report.rendered styler files = [] := Report.rendered_eq_nil_iff.mpr shown
    have writable : Report.endingIsWritable files = true := by
      rw [Report.endingIsWritable, shown]
      rfl
    simp only [writable, empty, if_true]
    rw [Report.records, shown]
    rfl
  · have report : (Report.rendered styler files).isEmpty = false :=
      List.isEmpty_eq_false_iff.mpr (mt Report.rendered_eq_nil_iff.mp shown)
    rw [records_of_withFindings shown]
    simp only [endingIsWritable_of_withFindings shown]
    cases counts : isWritable (Report.errorCount files) && isWritable (Report.warningCount files) with
    | false => simp [tellsNumbers, endingOfText, endingOfHalt, counts]
    | true =>
        cases sum : isWritable (Report.errorCount files + Report.warningCount files) with
        | false => simp [tellsNumbers, endingOfText, endingOfHalt, counts, sum]
        | true => simp [tellsNumbers, endingOfText, report]

section Report

variable {context : RunContext} {request : Request}

theorem exists_logged (context : RunContext) (request : Request) :
    ∃ reading, readInput context request = Input.logged (inputName request) reading ∧
      ∀ files, reading = .ok files → ∃ text, Input.ofText text = .ok files := by
  unfold readInput inputName
  by_cases stream : request.input.getD streamWord = streamWord
  · simp only [stream, if_true]
    refine ⟨_, rfl, ?_⟩
    intro files read
    have held : Input.ofFile [] (.ok (.file context.input)) = .ok files := read
    exact Input.exists_ofText_of_ofFile held
  · simp only [stream, if_false]
    exact ⟨_, rfl, fun _ => Input.exists_ofText_of_ofFile⟩

theorem readInput_records :
    (readInput context request).records =
      match (readInput context request).result with
      | .ok files => [foundRecord (inputName request) files]
      | .error _ => [] := by
  obtain ⟨reading, logged, -⟩ := exists_logged context request
  rw [logged]
  cases reading <;> rfl

theorem stop?_of_readInput (read : (readInput context request).result = .ok files) :
    Report.stop? files = none := by
  obtain ⟨reading, logged, ofText⟩ := exists_logged context request
  rw [logged, Input.logged_result] at read
  obtain ⟨text, found⟩ := ofText files read
  obtain ⟨raw, -, given⟩ := Input.ofText_eq_ok found
  have labelled := (Report.find?_isUnlabelled_eq_none_iff _).mp
    (Report.unlabelled?_of_listOfDatum given)
  rw [Report.stop?, Report.findSome?_obstacle?_eq_none_iff]
  intro f member
  obtain ⟨file, present, held⟩ := List.mem_flatMap.mp member
  have short := (Input.areReadable_of_ofText found file present).2
  exact ⟨Bool.and_eq_true_iff.mpr (short.findings f held).2, labelled f member⟩

theorem ofName_eq_error {name : Text} {cause : Failure}
    (unknown : Formatter.ofName name = .error cause) :
    cause = .unknownFormatter name (Formatter.all.map Formatter.name) := by
  unfold Formatter.ofName at unknown
  split at unknown
  next => cases unknown
  next => exact (Except.error.inj unknown).symm

theorem report_records {settings : Settings}
    (readable : Terminal.sizesAreReadable context.environment = true) :
    (report context request settings).1 =
      stageRecords (inputName request)
        (fun files => tellsNumbers files (report context request settings).2)
        (foundFiles? context request) := by
  unfold report foundFiles?
  cases context.interrupted with
  | true => rfl
  | false =>
      cases read : (readInput context request).result with
      | error halt =>
          simp only [readInput_records, read, Bool.false_eq_true, if_false]
          rfl
      | ok files =>
          simp only [readInput_records, read, Bool.false_eq_true, if_false,
            Styler.choose_of_readable settings.color context.terminal readable]
          cases named : Formatter.ofName settings.formatter with
          | error cause =>
              cases ofName_eq_error named
              rfl
          | ok formatter =>
              cases formatter with
              | stylish =>
                  have made := write_records_eq (stop?_of_readInput read)
                    (.ofChoice (settings.color.getD
                      (Terminal.takesColor context.environment context.terminal)))
                    (Totals.ofFiles files).exitCode
                  simp only [Formatter.run]
                  rw [made]
                  cases (Report.write _ files).result <;> rfl

/--
A report is not finished because the sum of its two numbers has too many digits, while the numbers
themselves can be written.
-/
structure OnlySumIsTooLong (context : RunContext) (request : Request) (files : List FileFindings) :
    Prop where
  read : foundFiles? context request = some files
  stopped : calls context request = .error (.escaped .digitLimit)
  errors : isWritable (Report.errorCount files) = true
  warnings : isWritable (Report.warningCount files) = true
  sum : isWritable (Report.errorCount files + Report.warningCount files) = false

theorem undisturbed_of_foundFiles? (found : foundFiles? context request = some files) :
    context.interrupted = false := by
  rw [← Bool.not_eq_true]
  intro interrupted
  rw [foundFiles?, if_pos interrupted] at found
  cases found

theorem tellsNumbers_eq_iff {settings : Settings}
    (loaded : settingsOf context request = .ok settings)
    (found : foundFiles? context request = some files) :
    tellsNumbers files (report context request settings).2 = hasReport context request ↔
      ¬ OnlySumIsTooLong context request files := by
  rw [report_ending context request loaded (undisturbed_of_foundFiles? found), hasReport]
  cases given : calls context request with
  | ok seen =>
      refine iff_of_true rfl ?_
      intro tooLong
      cases given.symm.trans tooLong.stopped
  | error halt =>
      by_cases limit : halt = .escaped .digitLimit
      · subst limit
        have tells : tellsNumbers files (endingOfCalls (.error (.escaped .digitLimit))) = false ↔
            ¬ (isWritable (Report.errorCount files) = true ∧
              isWritable (Report.warningCount files) = true ∧
              isWritable (Report.errorCount files + Report.warningCount files) = false) := by
          simp [endingOfCalls, endingOfHalt, tellsNumbers, ← Bool.not_eq_true]
        refine tells.trans (not_congr ⟨?_, ?_⟩)
        · rintro ⟨errors, warnings, sum⟩
          exact ⟨found, given, errors, warnings, sum⟩
        · intro tooLong
          exact ⟨tooLong.errors, tooLong.warnings, tooLong.sum⟩
      · refine iff_of_true ?_ ?_
        · cases halt with
          | failed cause => rfl
          | escaped cause =>
              cases cause with
              | digitLimit => exact absurd rfl limit
              | _ => rfl
        · intro tooLong
          exact limit (Except.error.inj (given.symm.trans tooLong.stopped))

end Report

end Stages

section Runs

variable {context : RunContext} {request : Request} {settings : Settings}

theorem filter_isOfRun {records : List LogRecord} (ofRun : ∀ record ∈ records, record.IsOfRun)
    (setup : LogSetup) {verbosity : Verbosity} (level : setup.level = verbosity.level) :
    records.filter (Logging.untouched.setUp setup).letsThrough =
      if verbosity == .verbose then records else [] := by
  rw [List.filter_congr fun record member => letsThrough_setUp (ofRun record member) setup level]
  cases verbosity == .verbose <;> simp

theorem filter_untouched {records : List LogRecord} (ofRun : ∀ record ∈ records, record.IsOfRun) :
    records.filter Logging.untouched.letsThrough = [] := by
  rw [List.filter_eq_nil_iff]
  intro record member
  rw [letsThrough_untouched (ofRun record member)]
  exact Bool.false_ne_true

theorem level_of_setupFor {values : Variables} {verbosity : Verbosity} {setup : LogSetup}
    (made : setupFor values verbosity = .ok setup) : setup.level = verbosity.level := by
  obtain ⟨screen, -, rest⟩ := (bind_eq_ok _ _ _).mp made
  rw [(pure_eq_ok _ _).mp rest]

theorem closingRecords_eq (ending : Ending) : closingRecords ending = lastRecords ending := by
  cases ending <;> rfl

theorem lastRecords_printed (ending : Ending) :
    lastRecords (printed context request ending) = lastRecords ending := by
  cases ending with
  | reported report status =>
      simp only [printed]
      split <;> rfl
  | _ => rfl

theorem carryOut_records_of_error (console : Screen) {halt : Halt}
    (stopped : settingsOf context request = .error halt) :
    (carryOut console context .untouched request).records = [] := by
  unfold settingsOf at stopped
  simp only [carryOut, stopped, closingRecords_eq]
  exact filter_untouched (isOfRun_lastRecords _)

theorem carryOut_records (console : Screen) (loaded : settingsOf context request = .ok settings)
    (readable : Terminal.sizesAreReadable context.environment = true) :
    (carryOut console context .untouched request).records =
      if settings.verbosity == .verbose then
        courseRecords context request settings
          (fun files => tellsNumbers files (report context request settings).2)
          (carryOut console context .untouched request).ending
      else [] := by
  obtain ⟨setup, made⟩ := exists_setupFor readable settings.verbosity
  rw [carryOut_of_ok context request console .untouched loaded made, told_of_readable readable]
  rw [← filter_isOfRun (isOfRun_courseRecords context request settings _ _) setup
    (level_of_setupFor made)]
  unfold settingsOf at loaded
  simp only [carryOut, loaded, made]
  rw [report_records readable, closingRecords_eq, courseRecords, lastRecords_printed]
  rfl

theorem runOn_records_uncarried {arguments : List Text} (console : Screen)
    (uncarried : ¬ ∃ request, IsCarried context arguments request) :
    (runOn console context .untouched arguments).records = [] := by
  cases asked : Request.ofArguments? arguments with
  | none => simp only [runOn, asked]
  | some request =>
      cases usable : configIsUsable context request with
      | false => simp only [runOn, asked, usable, if_true]
      | true =>
          cases shown : request.version with
          | true => simp only [runOn, asked, usable, shown, Bool.true_eq_false, if_false, if_true]
          | false => exact absurd ⟨request, asked, usable, shown⟩ uncarried

theorem run_records_eq_nil {arguments : List Text}
    (silent : ∀ request settings, IsCarried context arguments request →
      settingsOf context request = .ok settings →
      Terminal.sizesAreReadable context.environment = true → settings.verbosity ≠ .verbose) :
    (run context .untouched arguments).records = [] := by
  cases readable : Terminal.sizesAreReadable context.environment with
  | false => rw [run_of_unreadable .untouched arguments readable]
  | true =>
      by_cases isCarried : ∃ request, IsCarried context arguments request
      · obtain ⟨request, carried⟩ := isCarried
        obtain ⟨console, process⟩ := carried.run_eq .untouched readable
        rw [process]
        cases loaded : settingsOf context request with
        | error halt => exact carryOut_records_of_error console loaded
        | ok settings =>
            have terse := silent request settings carried loaded readable
            rw [carryOut_records console loaded readable, beq_eq_false_iff_ne.mpr terse]
            rfl
      · obtain ⟨console, process⟩ := exists_run_eq readable
        rw [process]
        exact runOn_records_uncarried console isCarried

end Runs

section Course

variable (context : RunContext) (request : Request) (settings : Settings)

/-- The log of a run that gets past its settings and shows all that it logs. -/
structure LogsCourse (outcome : Outcome) : Prop where
  records : outcome.records =
    courseRecords context request settings (fun _ => hasReport context request) outcome.ending
  /-- A formatter is only looked for when the input has been read. -/
  unknownFormatter (name : Text) (available : List Text) :
    outcome.ending = .failed (.unknownFormatter name available) →
    ∃ files, foundFiles? context request = some files ∧ outcome.records =
      [⟨.debug, "lint_report.cli.report", "Settings: " ++ settings.shown⟩,
        foundRecord (inputName request) files,
        ⟨.debug, "lint_report.cli.report",
          "UnknownFormatterError: " ++ (Failure.unknownFormatter name available).text⟩]
  unusableInput (cause : Failure) : context.interrupted = false →
    (readInput context request).result = .error (.failed cause) →
    outcome.ending = .failed cause ∧ outcome.records =
      [⟨.debug, "lint_report.cli.report", "Settings: " ++ settings.shown⟩,
        ⟨.debug, "lint_report.cli.report", cause.kind.name ++ ": " ++ cause.text⟩]

variable {context request settings}

theorem readInput_ne_unknownFormatter (name : Text) (available : List Text) :
    (readInput context request).result ≠ .error (.failed (.unknownFormatter name available)) := by
  intro stopped
  have tells := readInput_tellsUnless context request
  by_cases escapes : InputEscapes context request
  · obtain ⟨cause, escaped⟩ := tells.escaped escapes
    cases escaped.symm.trans stopped
  · obtain ⟨cause, same, ofInput⟩ := tells.told escapes _ stopped
    cases same
    simp [Failure.kind, Failure.notice, FailureKind.lineage] at ofInput

theorem exists_found_of_unknownFormatter {name : Text} {available : List Text}
    (loaded : settingsOf context request = .ok settings)
    (failed : (report context request settings).2 =
      .failed (.unknownFormatter name available)) :
    ∃ files, foundFiles? context request = some files ∧ hasReport context request = false := by
  have undisturbed : context.interrupted = false := by
    rw [← Bool.not_eq_true]
    intro interrupted
    rw [report, if_pos interrupted] at failed
    cases failed
  rw [report_ending context request loaded undisturbed] at failed
  cases read : (readInput context request).result with
  | error halt =>
      -- The ending is then that of the reading, which never fails for a formatter.
      rw [calls_of_input context request loaded read] at failed
      cases halt with
      | failed cause =>
          cases failed
          exact absurd read (readInput_ne_unknownFormatter name available)
      | escaped cause => cases failed
  | ok files =>
      refine ⟨files, ?_, ?_⟩
      · rw [foundFiles?, undisturbed, read]
        rfl
      · unfold hasReport
        cases given : calls context request with
        | ok seen =>
            rw [given] at failed
            cases failed
        | error halt => rfl

section Carried

variable {arguments : List Text} (carried : IsCarried context arguments request)
  (loaded : settingsOf context request = .ok settings)
  (readable : Terminal.sizesAreReadable context.environment = true)

include carried loaded readable

theorem run_of_loaded :
    (run context .untouched arguments).ending =
      printed context request (report context request settings).2 := by
  obtain ⟨console, process⟩ := carried.run_eq .untouched readable
  obtain ⟨setup, made⟩ := exists_setupFor readable settings.verbosity
  rw [process, carryOut_of_ok context request console .untouched loaded made,
    told_of_readable readable]

theorem run_records (verbose : settings.verbosity = .verbose) :
    (run context .untouched arguments).records =
      courseRecords context request settings
        (fun files => tellsNumbers files (report context request settings).2)
        (run context .untouched arguments).ending := by
  obtain ⟨console, process⟩ := carried.run_eq .untouched readable
  rw [process, carryOut_records console loaded readable, verbose]
  rfl

theorem run_logs_iff (verbose : settings.verbosity = .verbose) :
    (run context .untouched arguments).records =
        courseRecords context request settings (fun _ => hasReport context request)
          (run context .untouched arguments).ending ↔
      ¬ ∃ files, OnlySumIsTooLong context request files := by
  rw [run_records carried loaded readable verbose, courseRecords_eq_iff]
  constructor
  · rintro alike ⟨files, tooLong⟩
    exact (tellsNumbers_eq_iff loaded tooLong.read).mp (alike files tooLong.read) tooLong
  · intro short files found
    exact (tellsNumbers_eq_iff loaded found).mpr fun tooLong => short ⟨files, tooLong⟩

theorem logsCourse_of_records
    (records : (run context .untouched arguments).records =
      courseRecords context request settings (fun _ => hasReport context request)
        (run context .untouched arguments).ending) :
    LogsCourse context request settings (run context .untouched arguments) := by
  have ends := run_of_loaded carried loaded readable
  generalize run context .untouched arguments = outcome at records ends ⊢
  refine ⟨records, ?_, ?_⟩
  · intro name available failed
    rw [failed] at records ends
    obtain ⟨files, found, unreported⟩ :=
      exists_found_of_unknownFormatter loaded (eq_of_printed_failed ends.symm)
    refine ⟨files, found, ?_⟩
    rw [records, courseRecords, found, stageRecords, unreported]
    rfl
  · intro cause undisturbed stopped
    have failed : outcome.ending = .failed cause := by
      rw [ends, report_ending context request loaded undisturbed,
        calls_of_input context request loaded stopped]
      rfl
    have found : foundFiles? context request = none := by
      rw [foundFiles?, undisturbed, stopped]
      rfl
    refine ⟨failed, ?_⟩
    rw [records, failed, courseRecords, found]
    rfl

end Carried

end Course

/--
The log of a run says how far it got, and of which failure if it failed. There is none if no settings
are loaded or they ask for less. It is as it should be if and only if the program can be loaded and it
is not the case that the numbers of a report can be written and only their sum cannot.
-/
theorem run_logsCourse_iff (context : RunContext) (arguments : List Text) :
    (loaded? context arguments = none → (run context .untouched arguments).records = []) ∧
    (∀ settings, loaded? context arguments = some settings → settings.verbosity ≠ .verbose →
      (run context .untouched arguments).records = []) ∧
    (∀ request settings, IsCarried context arguments request →
      settingsOf context request = .ok settings → settings.verbosity = .verbose →
      (LogsCourse context request settings (run context .untouched arguments) ↔
        Terminal.sizesAreReadable context.environment = true ∧
          ¬ ∃ files, OnlySumIsTooLong context request files)) := by
  refine ⟨?_, ?_, ?_⟩
  · intro unloaded
    refine run_records_eq_nil ?_
    intro request settings carried loaded
    rw [carried.loaded?_eq, loaded] at unloaded
    cases unloaded
  · intro settings found terse
    refine run_records_eq_nil ?_
    intro request others carried loaded _
    rw [carried.loaded?_eq, loaded] at found
    cases found
    exact terse
  · intro request settings carried loaded verbose
    cases readable : Terminal.sizesAreReadable context.environment with
    | false =>
        refine iff_of_false ?_ fun both => Bool.false_ne_true both.1
        intro logs
        have records := logs.records
        rw [run_of_unreadable .untouched arguments readable] at records
        cases records
    | true =>
        have logs := run_logs_iff carried loaded readable verbose
        constructor
        · intro course
          exact ⟨rfl, logs.mp course.records⟩
        · rintro ⟨-, short⟩
          exact logsCourse_of_records carried loaded readable (logs.mpr short)

section Example

def strayRequest : Request := { Request.empty with format := some "none", verbose := true }

theorem run_logsCourse_iff_strayFormatter :
    IsCarried (bareContext fun _ => none) ["-v", "-fnone"] strayRequest ∧
      settingsOf (bareContext fun _ => none) strayRequest = .ok ⟨none, "none", .verbose⟩ ∧
      LogsCourse (bareContext fun _ => none) strayRequest ⟨none, "none", .verbose⟩
        (run (bareContext fun _ => none) .untouched ["-v", "-fnone"]) ∧
      (run (bareContext fun _ => none) .untouched ["-v", "-fnone"]).records.map LogRecord.logger =
        ["lint_report.cli.report", "lint_report.loader", "lint_report.cli.report"] := by
  have carried : IsCarried (bareContext fun _ => none) ["-v", "-fnone"] strayRequest :=
    ⟨by decide, rfl, rfl⟩
  have found : (settingsOf (bareContext fun _ => none) strayRequest).toOption =
      some ⟨none, "none", .verbose⟩ := by decide +kernel
  have loaded := eq_ok_of_toOption found
  have unknown : (match calls (bareContext fun _ => none) strayRequest with
      | .error (.escaped _) => true
      | _ => false) = false := by decide +kernel
  have short : ¬ ∃ files, OnlySumIsTooLong (bareContext fun _ => none) strayRequest files := by
    rintro ⟨files, tooLong⟩
    rw [tooLong.stopped] at unknown
    cases unknown
  obtain ⟨-, -, logs⟩ := run_logsCourse_iff (bareContext fun _ => none) ["-v", "-fnone"]
  exact ⟨carried, loaded, (logs _ _ carried loaded rfl).mpr ⟨rfl, short⟩, by decide +kernel⟩

def strayWidth : Variables := fun name => List.lookup name ([("COLUMNS", "²")] : List (Text × Text))

def fullCounts (errors : Int) : List FileFindings :=
  [⟨"a", [⟨"m", 2, 0, 0, none, true⟩], errors, 1⟩]

def fullCountsRaw (errors : Int) : Datum :=
  .list [.table
    [("filePath", .text "a"), ("errorCount", .int errors), ("warningCount", .int 1),
      ("messages", .list [.table
        [("message", .text "m"), ("severity", .int 2), ("line", .int 0), ("column", .int 0),
          ("fatal", .bool true), ("ruleId", .null)]])]]

def fullCountsContext (errors : Int) : RunContext :=
  { bareContext fun _ => none with input := Utf8.encode (Json.write true (fullCountsRaw errors)) }

section FullCounts

variable {errors : Int} (natural : 0 ≤ errors) (writable : isWritable errors = true)

theorem errorCount_fullCounts (errors : Int) : Report.errorCount (fullCounts errors) = errors :=
  Int.add_zero errors

theorem warningCount_fullCounts (errors : Int) : Report.warningCount (fullCounts errors) = 1 := rfl

include natural writable in
theorem ofBytes_fullCounts :
    Input.ofBytes (fullCountsContext errors).input = .ok (fullCounts errors) := by
  have short (n : Int) (small : n.natAbs < 10) := isWritable_of_lt_ten small
  have readable : Input.AreReadable (fullCounts errors) := by
    refine List.forall_mem_singleton.mpr ⟨⟨natural, Int.one_nonneg, ?_⟩,
      ⟨writable, short 1 (by decide), ?_⟩⟩
    · exact List.forall_mem_singleton.mpr fun _ => .inr rfl
    · exact List.forall_mem_singleton.mpr
        ⟨short _ (by decide), short _ (by decide), short _ (by decide)⟩
  have form : FileFindings.AreRaw (fullCounts errors) (fullCountsRaw errors) :=
    .list (.cons (.table (.cons (.table .null (.refl _)) .nil) (.refl _)) .nil)
  exact Input.ofFile_write form readable true []

def verboseRequest : Request := { Request.empty with verbose := true }

theorem settingsOf_fullCounts (errors : Int) :
    settingsOf (fullCountsContext errors) verboseRequest = .ok ⟨none, "stylish", .verbose⟩ := by
  have loaded : (settingsOf (bareContext fun _ => none) verboseRequest).toOption =
      some ⟨none, "stylish", .verbose⟩ := by decide +kernel
  exact eq_ok_of_toOption loaded

theorem isCarried_fullCounts (errors : Int) :
    IsCarried (fullCountsContext errors) ["-v"] verboseRequest :=
  ⟨by decide, rfl, rfl⟩

theorem endingIsWritable_fullCounts (tooLong : isWritable (errors + 1) = false) :
    Report.endingIsWritable (fullCounts errors) = false := by
  have shown : Report.withFindings (fullCounts errors) ≠ [] := List.cons_ne_nil _ _
  rw [endingIsWritable_of_withFindings shown, errorCount_fullCounts, warningCount_fullCounts,
    tooLong, Bool.and_false]

include natural writable in
theorem readInput_fullCounts :
    (readInput (fullCountsContext errors) verboseRequest).result = .ok (fullCounts errors) := by
  have stream : verboseRequest.input.getD streamWord = streamWord := rfl
  simp only [readInput, stream, if_true, Input.logged_result]
  exact ofBytes_fullCounts natural writable

section TooLong

variable (tooLong : isWritable (errors + 1) = false)

include natural writable tooLong

theorem onlySumIsTooLong_fullCounts :
    OnlySumIsTooLong (fullCountsContext errors) verboseRequest (fullCounts errors) := by
  have read := readInput_fullCounts natural writable
  have named : Formatter.ofName "stylish" = .ok .stylish := rfl
  have readable : Terminal.sizesAreReadable (fullCountsContext errors).environment = true := rfl
  have found : foundFiles? (fullCountsContext errors) verboseRequest =
      some (fullCounts errors) := by
    rw [foundFiles?, read]
    rfl
  refine ⟨found, ?_, ?_, ?_, ?_⟩
  · rw [calls_of_read _ _ (settingsOf_fullCounts errors) read, formattedFiles,
      Styler.choose_of_readable _ _ readable]
    simp only [formatFiles, named, Formatter.run, Report.write_result, stop?_of_readInput read,
      endingIsWritable_fullCounts tooLong, Bool.false_eq_true, if_false]
    rfl
  · rw [errorCount_fullCounts, writable]
  · rw [warningCount_fullCounts]
    exact isWritable_of_lt_ten (by decide)
  · rw [errorCount_fullCounts, warningCount_fullCounts, tooLong]

theorem run_fullCounts :
    (run (fullCountsContext errors) .untouched ["-v"]).ending = .escaped .digitLimit ∧
      numbersRecord (fullCounts errors) ∈
        (run (fullCountsContext errors) .untouched ["-v"]).records := by
  have carried := isCarried_fullCounts errors
  have loaded := settingsOf_fullCounts errors
  have sum := onlySumIsTooLong_fullCounts natural writable tooLong
  have ended : (report (fullCountsContext errors) verboseRequest ⟨none, "stylish", .verbose⟩).2 =
      .escaped .digitLimit := by
    rw [report_ending _ _ loaded rfl, sum.stopped]
    rfl
  have tells : tellsNumbers (fullCounts errors) (.escaped .digitLimit) = true := by
    rw [tellsNumbers, sum.errors, sum.warnings, sum.sum]
    rfl
  refine ⟨?_, ?_⟩
  · rw [run_of_loaded carried loaded rfl, ended]
    rfl
  · rw [run_records carried loaded rfl rfl, ended]
    simp [courseRecords, sum.read, stageRecords, tells]

end TooLong

end FullCounts

def greatestCount : Int := (Nat.pow 10 digitLimit : Nat) - 1

theorem isWritable_greatestCount :
    0 ≤ greatestCount ∧ isWritable greatestCount = true ∧ isWritable (greatestCount + 1) = false := by
  unfold greatestCount
  rw [isWritable_iff, ← Bool.not_eq_true, isWritable_iff]
  have positive (limit : Nat) : 0 < Nat.pow 10 limit := Nat.pow_pos (by decide)
  have positive := positive digitLimit
  generalize Nat.pow 10 digitLimit = bound at positive ⊢
  omega

/--
There is no log of the first run, although its settings ask for one, and the second run does not come
to a report, although it tells the numbers of it.
-/
theorem run_strays_fromCourse :
    (loaded? (bareContext strayWidth) ["-v"] = some ⟨none, "stylish", .verbose⟩ ∧
      (run (bareContext strayWidth) .untouched ["-v"]).records = []) ∧
    (loaded? (fullCountsContext greatestCount) ["-v"] = some ⟨none, "stylish", .verbose⟩ ∧
      (run (fullCountsContext greatestCount) .untouched ["-v"]).ending = .escaped .digitLimit ∧
      numbersRecord (fullCounts greatestCount) ∈
        (run (fullCountsContext greatestCount) .untouched ["-v"]).records) := by
  obtain ⟨natural, writable, tooLong⟩ := isWritable_greatestCount
  have carried := isCarried_fullCounts greatestCount
  refine ⟨⟨by decide +kernel, by decide +kernel⟩, ?_, ?_, ?_⟩
  · rw [carried.loaded?_eq, settingsOf_fullCounts]
    rfl
  · exact (run_fullCounts natural writable tooLong).1
  · exact (run_fullCounts natural writable tooLong).2

end Example

end CommandLine

end LintFindings

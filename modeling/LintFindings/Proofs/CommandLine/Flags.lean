import LintFindings.Proofs.CommandLine.Unusable
import LintFindings.Proofs.Settings.Verbosity

/-!
Flags for the verbosity put in front of the arguments of a run. They are read as they would be
anywhere else, and the run ends as it does without them, unless they hide a verbosity that cannot
even be told of.
-/

namespace LintFindings.CommandLine

section Parse

variable {word : Text} {items : List Item}

/-- A word that is an option, or a group of them, whose values do not lie in later words. -/
structure IsFront (word : Text) (items : List Item) : Prop where
  option : looksLikeOption word = true
  goesOn : word ≠ "--"
  read : optionWord? word = some (items, none)

theorem itemsFrom_front (front : IsFront word items) (arguments : List Text) :
    itemsFrom none (word :: arguments) = (itemsFrom none arguments).map (items ++ ·) := by
  simp only [itemsFrom, front.goesOn, front.option, front.read, if_false, if_true]

theorem asksHelp_front (front : IsFront word items) {request : Request}
    (begins : items.foldlM Request.add? .empty = some request) (arguments : List Text) :
    asksHelp (word :: arguments) = asksHelp arguments := by
  rw [asksHelp, asksHelp, items?, items?, itemsFrom_front front]
  cases itemsFrom none arguments with
  | none => rfl
  | some others =>
      have whole : (items ++ others).contains (.option .help) =
          others.contains (.option .help) := by
        rw [List.contains_append, not_contains_help request begins, Bool.false_or]
      exact whole

variable {change : Request → Request}

theorem foldlM_changed (keeps : ∀ request item,
      (change request).add? item = (request.add? item).map change) (items : List Item)
    (request : Request) :
    items.foldlM Request.add? (change request) =
      (items.foldlM Request.add? request).map change := by
  induction items generalizing request with
  | nil => rfl
  | cons item rest ih =>
      rw [List.foldlM_cons, List.foldlM_cons, keeps]
      cases request.add? item with
      | none => rfl
      | some next => exact ih next

theorem ofArguments?_front (front : IsFront word items)
    (begins : items.foldlM Request.add? .empty = some (change .empty))
    (keeps : ∀ request item, (change request).add? item = (request.add? item).map change)
    (arguments : List Text) :
    Request.ofArguments? (word :: arguments) = (Request.ofArguments? arguments).map change := by
  rw [Request.ofArguments?, Request.ofArguments?, items?, items?, itemsFrom_front front]
  cases itemsFrom none arguments with
  | none => rfl
  | some others =>
      have whole : Request.ofItems? (items ++ others) = (Request.ofItems? others).map change := by
        rw [Request.ofItems?, List.foldlM_append, begins]
        exact foldlM_changed keeps others .empty
      exact whole

end Parse

def verbosityFlags : List Text := ["-v", "--verbose", "-q", "--quiet"]

def isVerboseFlag (word : Text) : Bool := Text.isOneOf ["-v", "--verbose"] word

def raise (flags : List Text) (request : Request) : Request :=
  { request with
    verbose := flags.any isVerboseFlag || request.verbose
    quiet := flags.any (fun word => !isVerboseFlag word) || request.quiet }

section Raise

variable {flags : List Text}

theorem add?_raise (flags : List Text) (request : Request) (item : Item) :
    (raise flags request).add? item = (request.add? item).map (raise flags) := by
  cases item with
  | option name => cases name <;> simp [Request.add?, raise]
  | valued name value => cases name <;> simp [Request.add?, raise]
  | word value => cases given : request.input <;> simp [Request.add?, raise, given]

theorem raise_cons (flag : Text) (flags : List Text) (request : Request) :
    raise (flag :: flags) request = raise [flag] (raise flags request) := by
  simp [raise, Bool.or_assoc]

theorem isFront_flag {flag : Text} (listed : flag ∈ verbosityFlags) :
    ∃ items, IsFront flag items ∧ items.foldlM Request.add? .empty = some (raise [flag] .empty) := by
  simp only [verbosityFlags, List.mem_cons, List.not_mem_nil, or_false] at listed
  rcases listed with rfl | rfl | rfl | rfl
  · exact ⟨[.option .verbose], ⟨by decide, by decide, by decide⟩, by decide⟩
  · exact ⟨[.option .verbose], ⟨by decide, by decide, by decide⟩, by decide⟩
  · exact ⟨[.option .quiet], ⟨by decide, by decide, by decide⟩, by decide⟩
  · exact ⟨[.option .quiet], ⟨by decide, by decide, by decide⟩, by decide⟩

theorem ofArguments?_flags (listed : ∀ flag ∈ flags, flag ∈ verbosityFlags)
    (arguments : List Text) :
    Request.ofArguments? (flags ++ arguments) =
      (Request.ofArguments? arguments).map (raise flags) := by
  induction flags with
  | nil =>
      have same : raise [] = id := rfl
      rw [same, Option.map_id]
      rfl
  | cons flag rest ih =>
      obtain ⟨items, front, begins⟩ := isFront_flag (listed flag List.mem_cons_self)
      rw [List.cons_append, ofArguments?_front front begins (add?_raise [flag]),
        ih fun other member => listed other (List.mem_cons_of_mem flag member), Option.map_map]
      congr 1
      funext request
      exact (raise_cons flag rest request).symm

theorem asksHelp_flags (listed : ∀ flag ∈ flags, flag ∈ verbosityFlags) (arguments : List Text) :
    asksHelp (flags ++ arguments) = asksHelp arguments := by
  induction flags with
  | nil => rfl
  | cons flag rest ih =>
      obtain ⟨items, front, begins⟩ := isFront_flag (listed flag List.mem_cons_self)
      rw [List.cons_append, asksHelp_front front begins,
        ih fun other member => listed other (List.mem_cons_of_mem flag member)]

theorem saySameBut_raise (flags : List Text) (request : Request) :
    Settings.SaySameBut .verbosity (overrides request) (overrides (raise flags request)) where
  others := by
    intro name other
    cases name with
    | color => rfl
    | formatter => rfl
    | verbosity => exact absurd rfl other
  flags apart := absurd rfl apart
  strange := rfl

theorem raisesFlag_raise (nonempty : flags ≠ []) (request : Request) :
    Settings.RaisesFlag (overrides (raise flags request)) := by
  obtain ⟨flag, rest, rfl⟩ := List.exists_cons_of_ne_nil nonempty
  have quiet : Settings.isRaised (overrides (raise (flag :: rest) request)) "quiet" =
      (raise (flag :: rest) request).quiet := rfl
  have verbose : Settings.isRaised (overrides (raise (flag :: rest) request)) "verbose" =
      (raise (flag :: rest) request).verbose := rfl
  rw [Settings.RaisesFlag, quiet, verbose]
  cases isVerbose : isVerboseFlag flag with
  | true => exact .inr (by simp [raise, isVerbose])
  | false => exact .inl (by simp [raise, isVerbose])

end Raise

section Run

variable (console : Screen) (context : RunContext) (request : Request) (logging : Logging)

theorem report_raise (flags : List Text) (settings : Settings) (verbosity : Verbosity) :
    report context (raise flags request) { settings with verbosity } =
      report context request settings := rfl

theorem printed_raise (flags : List Text) :
    printed context (raise flags request) = printed context request := rfl

theorem carryOut_of_loaded (flags : List Text) {settings : Settings} {verbosity : Verbosity}
    (loaded : settingsOf context request = .ok settings)
    (loaded' : settingsOf context (raise flags request) = .ok { settings with verbosity }) :
    (carryOut console context logging (raise flags request)).ending =
      (carryOut console context logging request).ending := by
  unfold settingsOf at loaded loaded'
  simp only [carryOut, loaded, loaded', setupFor]
  cases Screen.ofTerminal context.environment false with
  | error cause => rfl
  | ok screen =>
      simp only [bind, Except.bind, pure, Except.pure]
      rw [report_raise, printed_raise]

end Run

section Flags

variable (context : RunContext) (logging : Logging) (arguments : List Text)

/-- A run's first fault is a verbosity that does not fit and cannot be shown. -/
def HidesVerbosity : Prop :=
  ∃ request value, Request.ofArguments? arguments = some request ∧
    configIsUsable context request = true ∧ request.version = false ∧
    (∀ origin, ¬ Settings.OriginEscapes context.toSurroundings request.config origin) ∧
    Settings.FirstMisfit context.toSurroundings request.config (overrides request) .verbosity value ∧
    Settings.CannotBeShown value

theorem escaped_of_hidesVerbosity (hides : HidesVerbosity context arguments) :
    ∃ cause, (run context logging arguments).ending = .escaped cause := by
  obtain ⟨request, value, asked, usable, carried, reads, first, hidden⟩ := hides
  obtain ⟨cause, escaped⟩ :=
    Settings.load_of_escapes (nodup_overrides request) (.value first hidden)
  cases readable : Terminal.sizesAreReadable context.environment with
  | false => exact ⟨.unreadableSize, by rw [run_of_unreadable logging arguments readable]⟩
  | true =>
      obtain ⟨console, same⟩ := exists_carryOut logging asked usable carried readable
      refine ⟨cause, ?_⟩
      rw [same, carryOut_of_error context request console logging escaped]
      rfl

/-- How a run ends without and with flags in front. -/
inductive EndsAlike : Ending → Ending → Prop
  | same (ending : Ending) : EndsAlike ending ending
  | judged (value : Datum) (reason : Text) (flagged : Ending) :
    EndsAlike (.failed (.invalidSetting "verbosity" value reason)) flagged
  | hidden (cause : Escape) (flagged : Ending) : HidesVerbosity context arguments →
    EndsAlike (.escaped cause) flagged

variable {context arguments} in
theorem carryOut_endsAlike {flags : List Text} (nonempty : flags ≠ []) {request : Request}
    (asked : Request.ofArguments? arguments = some request)
    (usable : configIsUsable context request = true) (carried : request.version = false)
    (readable : Terminal.sizesAreReadable context.environment = true) (console : Screen) :
    EndsAlike context arguments (carryOut console context logging request).ending
      (carryOut console context logging (raise flags request)).ending := by
  have raised : Settings.Raised context.toSurroundings request.config (overrides request)
      (settingsOf context request) (settingsOf context (raise flags request)) :=
    Settings.load_raised (nodup_overrides request) (nodup_overrides (raise flags request))
      (saySameBut_raise flags request) (raisesFlag_raise nonempty request)
  generalize alone : settingsOf context request = loaded at raised
  generalize flagged : settingsOf context (raise flags request) = loaded' at raised
  cases raised with
  | stopped halt =>
      rw [carryOut_of_error context request console logging alone,
        carryOut_of_error context (raise flags request) console logging flagged]
      exact .same _
  | loaded settings verbosity =>
      rw [carryOut_of_loaded console context request logging flags alone flagged]
      exact .same _
  | @misfit value reason settings first reads =>
      by_cases hidden : Settings.CannotBeShown value
      · obtain ⟨cause, escaped⟩ := Settings.ofFailure_of_hidden hidden "verbosity" reason
        rw [escaped] at alone
        rw [carryOut_of_error context request console logging alone]
        exact .hidden cause _ ⟨request, value, asked, usable, carried, reads, first, hidden⟩
      · rw [Settings.ofFailure_of_shown hidden] at alone
        rw [carryOut_of_error context request console logging alone, told_of_readable readable]
        exact .judged value reason _

/-- The flags are read wherever they stand, so that both runs take the same way up to the settings. -/
theorem run_endsAlike {flags : List Text} (nonempty : flags ≠ [])
    (listed : ∀ flag ∈ flags, flag ∈ verbosityFlags) :
    EndsAlike context arguments (run context logging arguments).ending
      (run context logging (flags ++ arguments)).ending := by
  cases readable : Terminal.sizesAreReadable context.environment with
  | false =>
      rw [run_of_unreadable logging arguments readable,
        run_of_unreadable logging (flags ++ arguments) readable]
      exact .same _
  | true =>
      obtain ⟨console, process⟩ := exists_run_eq readable
      have asked' := ofArguments?_flags listed arguments
      rw [process, process]
      cases asked : Request.ofArguments? arguments with
      | none =>
          rw [asked] at asked'
          simp only [runOn, asked, asked', Option.map_none, asksHelp_flags listed]
          exact .same _
      | some request =>
          rw [asked] at asked'
          cases usable : configIsUsable context request with
          | false =>
              have usable' : configIsUsable context (raise flags request) = false := usable
              simp only [runOn, asked, asked', usable, usable', Option.map_some, if_true]
              exact .same _
          | true =>
              have usable' : configIsUsable context (raise flags request) = true := usable
              cases carried : request.version with
              | true =>
                  have shown : (raise flags request).version = true := carried
                  simp only [runOn, asked, asked', usable, usable', carried, shown,
                    Option.map_some, Bool.true_eq_false, if_true, if_false]
                  exact .same _
              | false =>
                  have carried' : (raise flags request).version = false := carried
                  rw [runOn_of_carried logging asked usable carried,
                    runOn_of_carried logging asked' usable' carried']
                  exact carryOut_endsAlike logging nonempty asked usable carried readable console

end Flags

structure Seen where
  output : Text
  exitCode : Nat
  failure? : Option Failure
  escape? : Option Escape

namespace Ending

def failure? : Ending → Option Failure
  | failed cause => some cause
  | _ => none

def escape? : Ending → Option Escape
  | escaped cause => some cause
  | _ => none

def seen (ending : Ending) : Seen :=
  ⟨ending.output, ending.exitCode, ending.failure?, ending.escape?⟩

theorem seen_eq_escaped_iff (ending : Ending) (cause : Escape) :
    ending.seen = (escaped cause).seen ↔ ending = escaped cause := by
  constructor
  · intro same
    have escapes := congrArg Seen.escape? same
    cases ending with
    | escaped other => rw [Option.some.inj escapes]
    | _ => cases escapes
  · rintro rfl
    rfl

end Ending

/--
Flags for the verbosity in front do not change what is seen of a run that does not fail for the
verbosity, unless they hide one that cannot be told of and the run does not escape in the same way.
-/
theorem seen_flags_iff (context : RunContext) (logging : Logging) (flags arguments : List Text)
    (nonempty : flags ≠ []) (listed : ∀ flag ∈ flags, flag ∈ verbosityFlags)
    (unjudged : ∀ value reason, (run context logging arguments).ending ≠
      .failed (.invalidSetting "verbosity" value reason)) :
    (run context logging (flags ++ arguments)).ending.seen =
        (run context logging arguments).ending.seen ↔
      (HidesVerbosity context arguments →
        ∃ cause, (run context logging arguments).ending = .escaped cause ∧
          (run context logging (flags ++ arguments)).ending = .escaped cause) := by
  have alike := run_endsAlike context logging arguments nonempty listed
  have escapes := escaped_of_hidesVerbosity context logging arguments
  generalize (run context logging arguments).ending = alone at unjudged alike escapes ⊢
  generalize (run context logging (flags ++ arguments)).ending = flagged at alike ⊢
  cases alike with
  | same =>
      refine iff_of_true rfl ?_
      intro hides
      obtain ⟨cause, escaped⟩ := escapes hides
      exact ⟨cause, escaped, escaped⟩
  | judged value reason => exact absurd rfl (unjudged value reason)
  | hidden cause _ hides =>
      rw [Ending.seen_eq_escaped_iff]
      constructor
      · intro escaped _
        exact ⟨cause, rfl, escaped⟩
      · intro both
        obtain ⟨other, same, escaped⟩ := both hides
        cases same
        exact escaped

theorem seen_flags_iff_openList :
    (run (fileContext Settings.coloredFile "Auto" openList) .untouched ["-v", "--quiet"]).ending.seen =
      (run (fileContext Settings.coloredFile "Auto" openList) .untouched []).ending.seen := by
  have kind : (run (fileContext Settings.coloredFile "Auto" openList) .untouched
      []).ending.failure?.map Failure.kind = some .malformedResult := by decide +kernel
  have unjudged (value : Datum) (reason : Text) :
      (run (fileContext Settings.coloredFile "Auto" openList) .untouched []).ending ≠
        .failed (.invalidSetting "verbosity" value reason) := by
    intro judged
    rw [judged] at kind
    cases kind
  refine (seen_flags_iff (fileContext Settings.coloredFile "Auto" openList) .untouched
    ["-v", "--quiet"] [] (by decide) (by decide) unjudged).mpr ?_
  intro hides
  obtain ⟨cause, escaped⟩ := escaped_of_hidesVerbosity _ .untouched [] hides
  rw [escaped] at kind
  cases kind

/-- Its verbosity is an integer that may be read but not written. -/
def wideFile : Bytes := Utf8.encode ("verbosity = 0x" ++ List.replicate 3600 'f')

/-- A run that ends with a status of one comes to a report without any errors once a flag is given. -/
theorem seen_flags_hide :
    (∀ value reason, (run (fileContext wideFile "auto" (Utf8.encode "[]")) .untouched []).ending ≠
        .failed (.invalidSetting "verbosity" value reason)) ∧
      (run (fileContext wideFile "auto" (Utf8.encode "[]")) .untouched ["-q"]).ending.seen ≠
        (run (fileContext wideFile "auto" (Utf8.encode "[]")) .untouched []).ending.seen := by
  have alone : (run (fileContext wideFile "auto" (Utf8.encode "[]")) .untouched
      []).ending.seen.exitCode = 1 := by decide +kernel
  have flagged : (run (fileContext wideFile "auto" (Utf8.encode "[]")) .untouched
      ["-q"]).ending.seen.exitCode = 0 := by decide +kernel
  refine ⟨?_, ?_⟩
  · intro value reason judged
    rw [judged] at alone
    cases alone
  · intro same
    have codes := congrArg Seen.exitCode same
    cases flagged.symm.trans (codes.trans alone)

end LintFindings.CommandLine

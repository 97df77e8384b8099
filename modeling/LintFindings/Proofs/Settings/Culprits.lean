import LintFindings.Proofs.Failures
import LintFindings.Proofs.Settings.Precedence
import LintFindings.Proofs.Text.Utf8
import LintFindings.Proofs.Toml.Digits

/-!
What settings fail for. Of all that is wrong with them one thing comes first, and the failure names
it, unless something keeps the failure from being told.
-/

namespace LintFindings.Settings

def isStrange (key : Text) : Bool := !names.contains key

def isStrangeOverride (field : Text × Datum) : Bool :=
  isStrange field.1 && field.1 ≠ "verbose" && field.1 ≠ "quiet" && isGiven field.2

/-- What settings may fail for. -/
inductive Culprit where
  | file (path : Text)
  | color (word : Text)
  | name (key : Text)
  | value (name : Name) (value : Datum)

inductive IsNamedBy : Culprit → Failure → Prop
  | file {path : Text} {failure : Failure} : NamesFile path failure → IsNamedBy (.file path) failure
  | color (word reason : Text) : IsNamedBy (.color word) (.invalidSetting "color" (.text word) reason)
  | name (key : Text) : IsNamedBy (.name key) (.unknownSetting key)
  | value (name : Name) (value : Datum) (reason : Text) :
    IsNamedBy (.value name value) (.invalidSetting name.text value reason)

def Culprit.kind : Culprit → FailureKind
  | file _ => .configuration
  | color _ => .invalidSetting
  | name _ => .configuration
  | value _ _ => .invalidSetting

theorem IsNamedBy.kind {culprit : Culprit} {failure : Failure} (named : IsNamedBy culprit failure) :
    failure.kind = culprit.kind := by
  cases named with
  | file names => rcases names with rfl | ⟨problem, rfl⟩ <;> rfl
  | color => rfl
  | name => rfl
  | value => rfl

def CannotBeShown (value : Datum) : Prop :=
  value.nestsWithin Datum.shownNestingRoom = false ∨ value.isWritable = false

section Culprits

variable (around : Surroundings) (explicit : Option Text) (overrides : Fields)

/-- The first strange name in an origin. -/
inductive FirstStrange : Origin → Text → Prop
  | file {origin : Origin} {path key : Text} {fields : Fields} : LiesAt around explicit origin path →
    FileHolds around path fields → fields.keys.find? isStrange = some key → FirstStrange origin key
  | override {key : Text} {value : Datum} :
    overrides.find? isStrangeOverride = some (key, value) → FirstStrange .call key

/-- The data of all origins can be merged: the files are usable, and so is the word for the color. -/
structure Merges : Prop where
  usable (origin : Origin) (path : Text) : ¬ Unusable around explicit origin path
  clear : ¬ ColorIsUnclear around.environment

/-- The first setting whose datum does not fit, when there are no strange names. -/
structure FirstMisfit (name : Name) (value : Datum) : Prop where
  merges : Merges around explicit
  ordinary (origin : Origin) (key : Text) : ¬ FirstStrange around explicit overrides origin key
  prevails : Prevails around explicit overrides name value
  misfit : ¬ Fits name value
  earlier (other : Name) (datum : Datum) : other.rank < name.rank →
    Stands around explicit overrides other datum → Fits other datum

/-- Files come before the word for the color, then come strange names, and then data that do not fit. -/
inductive ComesFirst : Culprit → Prop
  | file {origin : Origin} {path : Text} : Unusable around explicit origin path →
    (∀ lower other, lower.rank < origin.rank → ¬ Unusable around explicit lower other) →
    ComesFirst (.file path)
  | color {word : Text} : (∀ origin path, ¬ Unusable around explicit origin path) →
    around.environment "LINT_REPORT_COLOR" = some word → (∀ value, ¬ SaysOfColor word value) →
    ComesFirst (.color word)
  | name {origin : Origin} {key : Text} : Merges around explicit →
    FirstStrange around explicit overrides origin key →
    (∀ lower other, lower.rank < origin.rank →
      ¬ FirstStrange around explicit overrides lower other) → ComesFirst (.name key)
  | value {name : Name} {value : Datum} : FirstMisfit around explicit overrides name value →
    ComesFirst (.value name value)

/-- Loading ends without any failure to tell of. -/
inductive Escapes : Prop
  | origin {origin : Origin} : OriginEscapes around explicit origin →
    (∀ lower path, lower.rank < origin.rank → ¬ Unusable around explicit lower path) → Escapes
  | value {name : Name} {value : Datum} : FirstMisfit around explicit overrides name value →
    CannotBeShown value → Escapes

end Culprits

section Strange

theorem isStrange_text (name : Name) : isStrange name.text = false := by cases name <;> decide

theorem filter_put (fields : Fields) {kept : Text × Datum → Bool} {key : Text}
    (skips : ∀ value, kept (key, value) = false) (value : Datum) :
    (fields.put key value).filter kept = fields.filter kept := by
  induction fields with
  | nil => simp [Fields.put, skips value]
  | cons field rest ih =>
      obtain ⟨k, v⟩ := field
      by_cases same : k = key
      · subst same
        simp [Fields.put, skips]
      · simp [Fields.put, same, List.filter_cons, ih]

theorem filter_foldFlag (overrides : Fields) {kept : Text × Datum → Bool}
    (skips : ∀ value, kept ("verbosity", value) = false) (flag : Text) (verbosity : Verbosity) :
    (foldFlag flag verbosity overrides).filter kept =
      overrides.filter (fun field => kept field && field.1 ≠ flag) := by
  have others : (overrides.remove flag).filter kept =
      overrides.filter (fun field => kept field && field.1 ≠ flag) := List.filter_filter
  rw [foldFlag_eq]
  split
  next => rw [filter_put _ skips, others]
  next => exact others

theorem filter_ofOverrides (overrides : Fields) :
    (ofOverrides overrides).filter (fun field => isStrange field.1) =
      overrides.filter isStrangeOverride := by
  have skips (value : Datum) : (isStrange "verbosity" && isGiven value) = false := by
    rw [show isStrange "verbosity" = false from isStrange_text .verbosity, Bool.false_and]
  rw [ofOverrides, List.filter_filter, filter_foldFlag _ skips,
    filter_foldFlag _ fun value => by rw [skips, Bool.false_and]]
  congr 1
  funext field
  simp only [isStrangeOverride]
  ac_rfl

theorem find?_keys_ofOverrides (overrides : Fields) :
    (ofOverrides overrides).keys.find? isStrange =
      (overrides.find? isStrangeOverride).map Prod.fst := by
  rw [Fields.keys, List.find?_map, ← List.head?_filter, ← List.head?_filter, ← filter_ofOverrides]
  rfl

end Strange

section Origins

variable {around : Surroundings} {explicit : Option Text} {overrides : Fields}

theorem firstStrange_of_path {origin : Origin} {path : Text}
    (lies : LiesAt around explicit origin path) (key : Text) :
    FirstStrange around explicit overrides origin key ↔
      ∃ held, FileHolds around path held ∧ held.keys.find? isStrange = some key := by
  constructor
  · intro strange
    cases strange with
    | file lies' holds found => exact ⟨_, lies.unique lies' ▸ holds, found⟩
    | override => cases lies
  · rintro ⟨held, holds, found⟩
    exact .file lies holds found

theorem firstStrange_iff {origin : Origin} {fields : Fields}
    (read : reading around explicit overrides origin = .ok fields) (key : Text) :
    FirstStrange around explicit overrides origin key ↔ fields.keys.find? isStrange = some key := by
  cases readFrom_of_reading read with
  | file lies =>
      rw [firstStrange_of_path lies,
        exists_holds_iff overrides (fun held => held.keys.find? isStrange) rfl lies read]
  | unasked nowhere =>
      constructor
      · intro strange
        cases strange with
        | file lies => exact absurd lies (nowhere _)
      · intro found
        cases found
  | environment given =>
      have names : ∀ name ∈ variableTable.map Prod.fst, isStrange name = false := by decide
      have listed := (keys_ofVariablesIn given).subset
      constructor
      · intro strange
        cases strange with
        | file lies => cases lies
      · intro found
        have ordinary := names key (listed (List.mem_of_find?_eq_some found))
        rw [List.find?_some found] at ordinary
        cases ordinary
  | call =>
      rw [find?_keys_ofOverrides]
      constructor
      · intro strange
        cases strange with
        | file lies => cases lies
        | override found => rw [found]; rfl
      · intro found
        obtain ⟨⟨key', value⟩, first, rfl⟩ := Option.map_eq_some_iff.mp found
        exact .override first

theorem reading_passes {origin : Origin} (usable : ∀ path, ¬ Unusable around explicit origin path)
    (told : ¬ OriginEscapes around explicit origin)
    (clear : origin = .environment → ¬ ColorIsUnclear around.environment) :
    ∃ fields, reading around explicit overrides origin = .ok fields := by
  cases whereabouts around explicit origin with
  | file lies => exact reading_passes_at overrides lies usable told
  | homeless away => exact absurd (.home away) told
  | unasked asks =>
      subst asks
      exact ⟨[], rfl⟩
  | environment =>
      obtain ⟨fields, read⟩ := ofVariables_of_clear (clear rfl)
      exact ⟨fields, by rw [reading, read]; rfl⟩
  | call => exact ⟨ofOverrides overrides, rfl⟩

theorem LiesAt.below {origin : Origin} {path : Text} (lies : LiesAt around explicit origin path) :
    origin.rank < Origin.environment.rank := by
  cases lies <;> decide

theorem OriginEscapes.below {origin : Origin} (escapes : OriginEscapes around explicit origin) :
    origin.rank < Origin.environment.rank := by
  cases escapes with
  | home => decide
  | file lies => exact lies.below

theorem Unusable.below {origin : Origin} {path : Text}
    (unusable : Unusable around explicit origin path) :
    origin.rank < Origin.environment.rank := by
  cases unusable with
  | folder lies => exact lies.below
  | locked lies => exact lies.below
  | noDocument lies => exact lies.below
  | missing lies => exact lies.below

theorem reading_passes_below {origin : Origin} (below : origin.rank ≤ Origin.environment.rank)
    (usable : ∀ lower path, lower.rank < origin.rank → ¬ Unusable around explicit lower path)
    (told : ∀ lower, lower.rank < origin.rank → ¬ OriginEscapes around explicit lower) :
    ∀ lower, lower.rank < origin.rank →
      ∃ fields, reading around explicit overrides lower = .ok fields := by
  intro lower under
  refine reading_passes (fun path => usable lower path under) (told lower under) ?_
  rintro rfl
  exact absurd under (Nat.not_lt_of_le below)

theorem load_of_originEscapes {origin : Origin} (escapes : OriginEscapes around explicit origin)
    (usable : ∀ lower path, lower.rank < origin.rank → ¬ Unusable around explicit lower path) :
    ∃ cause, load around explicit overrides = .error (.escaped cause) := by
  -- A lower origin may escape as well, and then the reading stops there.
  obtain ⟨lowest, ⟨escapes, under⟩, least⟩ := Origin.exists_lowest
    (fun other => OriginEscapes around explicit other ∧ other.rank ≤ origin.rank)
    ⟨escapes, Nat.le_refl _⟩
  obtain ⟨cause, stops⟩ := reading_of_escapes overrides escapes
  refine ⟨cause, load_of_stop stops ?_⟩
  refine reading_passes_below (Nat.le_of_lt escapes.below) ?_ ?_
  · intro lower path below
    exact usable lower path (Nat.lt_of_lt_of_le below under)
  · intro lower below also
    exact least lower below ⟨also, Nat.le_of_lt (Nat.lt_of_lt_of_le below under)⟩

theorem exists_given_of_merges (merges : Merges around explicit)
    (told : ∀ origin, ¬ OriginEscapes around explicit origin) :
    ∃ given : Origin → Fields,
      ∀ origin, reading around explicit overrides origin = .ok (given origin) :=
  Classical.skolem.mp fun origin =>
    reading_passes (merges.usable origin) (told origin) fun _ => merges.clear

end Origins

section Merged

variable {around : Surroundings} {explicit : Option Text} {overrides : Fields}
  {given : Origin → Fields}
  (reads : ∀ origin, reading around explicit overrides origin = .ok (given origin))

include reads

theorem strangeName?_mergedOf (key : Text) :
    strangeName? (mergedOf given) = some key ↔
      ∃ origin, FirstStrange around explicit overrides origin key ∧
        ∀ lower other, lower.rank < origin.rank →
          ¬ FirstStrange around explicit overrides lower other := by
  have names : strangeName? (mergedOf given) =
      Origin.all.findSome? (fun origin => (given origin).keys.find? isStrange) := by
    rw [show strangeName? (mergedOf given) = (mergedOf given).keys.find? isStrange from rfl,
      mergedOf, Fields.find?_keys_foldl_merge, List.flatMap_map]
    exact List.find?_flatMap
  rw [names, Origin.lowest_eq_some_iff]
  simp only [firstStrange_iff (reads _), Option.eq_none_iff_forall_ne_some, ne_eq]
  constructor
  · rintro ⟨origin, strange, ordinary⟩
    exact ⟨origin, strange, fun lower other below => ordinary lower below other⟩
  · rintro ⟨origin, strange, ordinary⟩
    exact ⟨origin, strange, fun lower below other => ordinary lower other below⟩

theorem strangeName?_mergedOf_none :
    strangeName? (mergedOf given) = none ↔
      ∀ origin key, ¬ FirstStrange around explicit overrides origin key := by
  constructor
  · intro none origin key strange
    obtain ⟨lowest, ⟨key, strange⟩, ordinary⟩ := Origin.exists_lowest
      (fun origin => ∃ key, FirstStrange around explicit overrides origin key)
      ⟨key, strange⟩
    have found := (strangeName?_mergedOf reads key).mpr
      ⟨lowest, strange, fun lower other below also => ordinary lower below ⟨other, also⟩⟩
    cases none.symm.trans found
  · intro ordinary
    rw [Option.eq_none_iff_forall_ne_some]
    intro key found
    obtain ⟨origin, strange, -⟩ := (strangeName?_mergedOf reads key).mp found
    exact ordinary origin key strange

theorem ofFields_of_misfit (distinct : overrides.keys.Nodup) {name : Name} {value : Datum}
    (first : FirstMisfit around explicit overrides name value) :
    ∃ reason, ofFields (mergedOf given) = .error (.invalidSetting name.text value reason) := by
  have found := (prevails_iff distinct reads name value).mp first.prevails
  have earlier (other : Name) (before : other.rank < name.rank) :
      Fits other (standing (mergedOf given) other) :=
    first.earlier other _ before ((stands_iff distinct reads other _).mpr rfl)
  have known := ofKnown_known (mergedOf given)
  rw [ofFields, (strangeName?_mergedOf_none reads).mpr first.ordinary]
  dsimp only
  generalize ofKnown (mergedOf given) = result at known
  cases known with
  | settings whole =>
      obtain ⟨same, fits⟩ := whole name
      rw [same, standing_of_some found] at fits
      exact absurd fits first.misfit
  | @misfit name' value' reason found' misfit' earlier' =>
      -- Both are the first that does not fit, so neither comes before the other.
      rcases Nat.lt_trichotomy name'.rank name.rank with before | same | after
      · have fits := earlier name' before
        rw [standing_of_some found'] at fits
        exact absurd fits misfit'
      · cases Name.rank_injective same
        cases found'.symm.trans found
        exact ⟨reason, rfl⟩
      · have fits := earlier' name after
        rw [standing_of_some found] at fits
        exact absurd fits first.misfit

end Merged

section Load

variable (around : Surroundings) (explicit : Option Text) (overrides : Fields)

/-- Loading fails if and only if something is wrong, and it tells of what comes first. -/
structure Blames (result : Except Halt Settings) : Prop where
  fails : (∃ halt, result = .error halt) ↔
    ∃ culprit, ComesFirst around explicit overrides culprit
  named (culprit : Culprit) : ComesFirst around explicit overrides culprit →
    ∃ failure, result = .error (.failed failure) ∧ IsNamedBy culprit failure ∧
      failure.kind = culprit.kind

variable {around explicit overrides}

theorem ofFailure_of_hidden {value : Datum} (hidden : CannotBeShown value) (key reason : Text) :
    ∃ cause, Halt.ofFailure (.invalidSetting key value reason) = .escaped cause := by
  unfold Halt.ofFailure Failure.obstacle? Failure.isShallow Failure.isWritable
  rcases hidden with deep | long
  · exact ⟨.nestingLimit, by simp only [deep, if_true]⟩
  · cases deep : value.nestsWithin Datum.shownNestingRoom with
    | false => exact ⟨.nestingLimit, by simp only [deep, if_true]⟩
    | true => exact ⟨.digitLimit, by simp only [deep, long, Bool.true_eq_false, if_true, if_false]⟩

theorem ofFailure_of_shown {value : Datum} (shown : ¬ CannotBeShown value) (key reason : Text) :
    Halt.ofFailure (.invalidSetting key value reason) = .failed (.invalidSetting key value reason) := by
  obtain ⟨shallow, short⟩ := not_or.mp shown
  unfold Halt.ofFailure Failure.obstacle? Failure.isShallow Failure.isWritable
  simp only [shallow, short, Bool.true_eq_false, if_false]

theorem exists_given_of_told (merges : Merges around explicit)
    (told : ¬ Escapes around explicit overrides) :
    ∃ given : Origin → Fields,
      ∀ origin, reading around explicit overrides origin = .ok (given origin) :=
  exists_given_of_merges merges fun _ escapes =>
    told (.origin escapes fun lower path _ => merges.usable lower path)

theorem load_of_escapes (distinct : overrides.keys.Nodup)
    (escapes : Escapes around explicit overrides) :
    ∃ cause, load around explicit overrides = .error (.escaped cause) := by
  cases escapes with
  | origin escapes usable => exact load_of_originEscapes escapes usable
  | @value name value first hidden =>
      by_cases stray : ∃ origin, OriginEscapes around explicit origin
      · obtain ⟨origin, escapes⟩ := stray
        exact load_of_originEscapes escapes fun lower path _ => first.merges.usable lower path
      · obtain ⟨given, reads⟩ := exists_given_of_merges first.merges (not_exists.mp stray)
        obtain ⟨reason, stopped⟩ := ofFields_of_misfit reads distinct first
        obtain ⟨cause, escaped⟩ := ofFailure_of_hidden hidden name.text reason
        refine ⟨cause, ?_⟩
        rw [load_of_pass reads, ← mergedOf, stopped, Halt.ofFailing, escaped]

theorem load_of_comesFirst (distinct : overrides.keys.Nodup)
    (told : ¬ Escapes around explicit overrides) {culprit : Culprit}
    (first : ComesFirst around explicit overrides culprit) :
    ∃ failure, load around explicit overrides = .error (.failed failure) ∧
      IsNamedBy culprit failure := by
  cases first with
  | file unusable usable =>
      obtain ⟨failure, stops, names⟩ := reading_of_unusable overrides unusable fun escapes =>
        told (.origin escapes usable)
      refine ⟨failure, load_of_stop stops ?_, .file names⟩
      refine reading_passes_below (Nat.le_of_lt unusable.below) usable fun lower below escapes => ?_
      exact told (.origin escapes fun lower' path below' =>
        usable lower' path (Nat.lt_trans below' below))
  | @color word usable found unclear =>
      obtain ⟨reason, unread⟩ := ofVariables_of_unclear found unclear
      have stops : reading around explicit overrides .environment =
          .error (.failed (.invalidSetting "color" (.text word) reason)) := by
        rw [reading, unread]
        rfl
      refine ⟨_, load_of_stop stops ?_, .color word reason⟩
      refine reading_passes_below (Nat.le_refl _) (fun lower path _ => usable lower path) ?_
      intro lower _ escapes
      exact told (.origin escapes fun lower' path _ => usable lower' path)
  | @name origin key merges strange ordinary =>
      obtain ⟨given, reads⟩ := exists_given_of_told merges told
      have found := (strangeName?_mergedOf reads key).mpr ⟨origin, strange, ordinary⟩
      refine ⟨_, ?_, .name key⟩
      rw [load_of_pass reads, ← mergedOf, ofFields, found]
      rfl
  | @value name value first =>
      obtain ⟨given, reads⟩ := exists_given_of_told first.merges told
      obtain ⟨reason, stopped⟩ := ofFields_of_misfit reads distinct first
      refine ⟨_, ?_, .value name value reason⟩
      rw [load_of_pass reads, ← mergedOf, stopped, Halt.ofFailing,
        ofFailure_of_shown fun hidden => told (.value first hidden)]

theorem load_of_blameless (distinct : overrides.keys.Nodup)
    (told : ¬ Escapes around explicit overrides)
    (blameless : ∀ culprit, ¬ ComesFirst around explicit overrides culprit) :
    ∃ settings, load around explicit overrides = .ok settings := by
  have usable (origin : Origin) (path : Text) : ¬ Unusable around explicit origin path := by
    intro unusable
    obtain ⟨lowest, ⟨path, unusable⟩, usable⟩ := Origin.exists_lowest
      (fun origin => ∃ path, Unusable around explicit origin path) ⟨path, unusable⟩
    exact blameless _ (.file unusable fun lower other below also => usable lower below ⟨other, also⟩)
  have clear : ¬ ColorIsUnclear around.environment := by
    rintro ⟨word, found, unclear⟩
    exact blameless _ (.color usable found unclear)
  have merges : Merges around explicit := ⟨usable, clear⟩
  obtain ⟨given, reads⟩ := exists_given_of_told merges told
  have ordinary : strangeName? (mergedOf given) = none := by
    rw [Option.eq_none_iff_forall_ne_some]
    intro key found
    obtain ⟨origin, strange, ordinary⟩ := (strangeName?_mergedOf reads key).mp found
    exact blameless _ (.name merges strange ordinary)
  have known := ofKnown_known (mergedOf given)
  rw [load_of_pass reads, ← mergedOf, ofFields, ordinary]
  dsimp only
  generalize ofKnown (mergedOf given) = result at known
  cases known with
  | @settings settings whole => exact ⟨settings, rfl⟩
  | misfit name found misfit earlier =>
      refine absurd (.value ⟨merges, ?_, ?_, misfit, ?_⟩) (blameless _)
      · exact (strangeName?_mergedOf_none reads).mp ordinary
      · exact (prevails_iff distinct reads name _).mpr found
      · intro other datum before stands
        rw [stands_iff distinct reads] at stands
        exact stands ▸ earlier other before

theorem exists_first_of_load (distinct : overrides.keys.Nodup)
    (told : ¬ Escapes around explicit overrides) {halt : Halt}
    (stopped : load around explicit overrides = .error halt) :
    ∃ culprit, ComesFirst around explicit overrides culprit := by
  by_contra blameless
  obtain ⟨settings, loaded⟩ := load_of_blameless distinct told (not_exists.mp blameless)
  cases loaded.symm.trans stopped

theorem load_tellsUnless (distinct : overrides.keys.Nodup) :
    TellsUnless .configuration (Escapes around explicit overrides)
      (load around explicit overrides) := by
  refine ⟨load_of_escapes distinct, ?_⟩
  intro told halt stopped
  obtain ⟨culprit, first⟩ := exists_first_of_load distinct told stopped
  obtain ⟨failure, failed, names⟩ := load_of_comesFirst distinct told first
  refine ⟨failure, Except.error.inj (stopped.symm.trans failed), ?_⟩
  rw [names.kind]
  cases culprit <;> simp [Culprit.kind, FailureKind.lineage]

theorem not_blames_of_escapes (distinct : overrides.keys.Nodup)
    (escapes : Escapes around explicit overrides) :
    ¬ Blames around explicit overrides (load around explicit overrides) := by
  intro blames
  obtain ⟨cause, escaped⟩ := load_of_escapes distinct escapes
  obtain ⟨culprit, first⟩ := blames.fails.mp ⟨_, escaped⟩
  obtain ⟨failure, failed, -⟩ := blames.named culprit first
  cases escaped.symm.trans failed

/-- Something that is wrong is told of as it should be unless loading ends without any failure. -/
theorem load_blames_iff (distinct : overrides.keys.Nodup) :
    Blames around explicit overrides (load around explicit overrides) ↔
      ¬ Escapes around explicit overrides := by
  constructor
  · intro blames escapes
    exact not_blames_of_escapes distinct escapes blames
  · intro told
    have named (culprit : Culprit) (first : ComesFirst around explicit overrides culprit) :
        ∃ failure, load around explicit overrides = .error (.failed failure) ∧
          IsNamedBy culprit failure := load_of_comesFirst distinct told first
    refine ⟨⟨?_, ?_⟩, ?_⟩
    · rintro ⟨halt, stopped⟩
      exact exists_first_of_load distinct told stopped
    · rintro ⟨culprit, first⟩
      obtain ⟨failure, failed, -⟩ := named culprit first
      exact ⟨_, failed⟩
    · intro culprit first
      obtain ⟨failure, failed, names⟩ := named culprit first
      exact ⟨failure, failed, names, names.kind⟩

end Load

theorem unusable_withFile {bytes : Bytes} {word path : Text} {origin : Origin}
    (unusable : Unusable (withFile bytes word) none origin path) :
    origin = .here ∧ ∀ document, ¬ IsDocument bytes document := by
  cases unusable with
  | folder lies found =>
      rcases liesAt_withFile lies with ⟨rfl, rfl⟩ | rfl
      · cases (look_withFile bytes word).symm.trans found
      · cases (look_withFile_root bytes word).symm.trans found
  | locked lies found =>
      rcases liesAt_withFile lies with ⟨rfl, rfl⟩ | rfl
      · cases (look_withFile bytes word).symm.trans found
      · cases (look_withFile_root bytes word).symm.trans found
  | noDocument lies found noDocument =>
      rcases liesAt_withFile lies with ⟨rfl, rfl⟩ | rfl
      · cases (look_withFile bytes word).symm.trans found
        exact ⟨rfl, noDocument⟩
      · cases (look_withFile_root bytes word).symm.trans found
  | missing lies => cases lies with | asked asks => cases asks

theorem not_saysOfColor_maybe (value : Datum) : ¬ SaysOfColor "maybe" value := by
  intro meant
  cases meant with
  | unset listed => exact absurd listed (by decide)
  | yes listed => exact absurd listed (by decide)
  | no listed => exact absurd listed (by decide)

theorem load_blames_iff_unclear :
    verboseOverrides.keys.Nodup ∧
      ComesFirst (withFile coloredFile "maybe") none verboseOverrides (.color "maybe") ∧
      Blames (withFile coloredFile "maybe") none verboseOverrides
        (load (withFile coloredFile "maybe") none verboseOverrides) := by
  have distinct : verboseOverrides.keys.Nodup := by decide
  have first : ComesFirst (withFile coloredFile "maybe") none verboseOverrides (.color "maybe") :=
    .color (fun _ _ unusable => (unusable_withFile unusable).2 _ isDocument_colored) rfl
      not_saysOfColor_maybe
  have told : (match load (withFile coloredFile "maybe") none verboseOverrides with
      | .error (.escaped _) => true
      | _ => false) = false := by decide +kernel
  refine ⟨distinct, first, (load_blames_iff distinct).mpr ?_⟩
  intro escapes
  obtain ⟨cause, escaped⟩ := load_of_escapes distinct escapes
  rw [escaped] at told
  cases told

def oversizedText : Text := 'n' :: '=' :: List.replicate 4301 '1'

theorem read_oversizedText : Toml.read oversizedText = .error .digitLimit :=
  Toml.read_of_tooLong (Text.isTooLong_replicate (by decide))

theorem load_blames_nobody :
    ComesFirst (withFile (Utf8.encode oversizedText) "auto") none []
        (.file "/work/lint-report.toml") ∧
      ¬ Blames (withFile (Utf8.encode oversizedText) "auto") none []
        (load (withFile (Utf8.encode oversizedText) "auto") none []) := by
  generalize decoded : Utf8.encode oversizedText = bytes
  have decoded : Utf8.decode bytes = .ok oversizedText := decoded ▸ Utf8.decode_encode _
  have found := look_withFile bytes "auto"
  have below (lower : Origin) (path : Text) (under : lower.rank < Origin.here.rank) :
      ¬ Unusable (withFile bytes "auto") none lower path := by
    intro unusable
    obtain ⟨rfl, -⟩ := unusable_withFile unusable
    exact absurd under (Nat.lt_irrefl _)
  refine ⟨.file (.noDocument .here found ?_) below, ?_⟩
  · rintro document ⟨text, decoded', read⟩
    cases decoded.symm.trans decoded'
    cases read_oversizedText.symm.trans read
  · exact not_blames_of_escapes List.nodup_nil
      (.origin (.file .here (.digitLimit found decoded read_oversizedText)) below)

end LintFindings.Settings

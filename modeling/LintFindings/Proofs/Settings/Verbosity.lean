import LintFindings.Proofs.Settings.Culprits

/-!
What a flag for the verbosity does to the settings. It takes the place of any other verbosity, so
that one that does not fit is never looked at, and changes nothing else.
-/

namespace LintFindings.Settings

/-- Overrides that say the same of everything but one setting. -/
structure SaySameBut (name : Name) (a b : Fields) : Prop where
  others : ∀ other : Name, other ≠ name → a.get? other.text = b.get? other.text
  flags : name ≠ .verbosity → ∀ flag, flag ≠ name.text → isRaised a flag = isRaised b flag
  strange : a.find? isStrangeOverride = b.find? isStrangeOverride

def RaisesFlag (overrides : Fields) : Prop :=
  isRaised overrides "quiet" = true ∨ isRaised overrides "verbose" = true

section Readings

variable {around : Surroundings} {explicit : Option Text} {overrides : Fields}
  {given : Origin → Fields}
  (reads : ∀ origin, reading around explicit overrides origin = .ok (given origin))

include reads

theorem noneEscapes_of_reads (origin : Origin) : ¬ OriginEscapes around explicit origin := by
  intro escapes
  obtain ⟨cause, stops⟩ := reading_of_escapes overrides escapes
  cases stops.symm.trans (reads origin)

theorem merges_of_reads : Merges around explicit where
  usable origin path unusable := by
    obtain ⟨failure, stops, -⟩ :=
      reading_of_unusable overrides unusable (noneEscapes_of_reads reads origin)
    cases stops.symm.trans (reads origin)
  clear := by
    rintro ⟨word, found, unclear⟩
    obtain ⟨reason, unread⟩ := ofVariables_of_unclear found unclear
    have read := reads .environment
    rw [reading, unread] at read
    cases read

theorem firstMisfit_of_reads (distinct : overrides.keys.Nodup) {name : Name} {value : Datum}
    (ordinary : strangeName? (mergedOf given) = none)
    (found : (mergedOf given).get? name.text = some value) (misfit : ¬ Fits name value)
    (earlier : ∀ other : Name, other.rank < name.rank → Fits other (standing (mergedOf given) other)) :
    FirstMisfit around explicit overrides name value where
  merges := merges_of_reads reads
  ordinary := (strangeName?_mergedOf_none reads).mp ordinary
  prevails := (prevails_iff distinct reads name value).mpr found
  misfit := misfit
  earlier other datum before stands := by
    rw [stands_iff distinct reads] at stands
    exact stands ▸ earlier other before

end Readings

section Flag

variable {around : Surroundings} {explicit : Option Text} {plain flagged : Fields} {name : Name}

theorem reading_other {origin : Origin} (other : origin ≠ .call) :
    reading around explicit plain origin = reading around explicit flagged origin := by
  cases origin with
  | call => exact absurd rfl other
  | _ => rfl

theorem reading_alike (origin : Origin) :
    reading around explicit plain origin = reading around explicit flagged origin ∨
      (∃ fields, reading around explicit plain origin = .ok fields) ∧
        ∃ fields, reading around explicit flagged origin = .ok fields := by
  by_cases call : origin = .call
  · subst call
    exact .inr ⟨⟨_, rfl⟩, ⟨_, rfl⟩⟩
  · exact .inl (reading_other call)

theorem get?_ofOverrides_alike (distinct : plain.keys.Nodup) (distinct' : flagged.keys.Nodup)
    (same : SaySameBut name plain flagged) {other : Name} (another : other ≠ name) :
    (ofOverrides plain).get? other.text = (ofOverrides flagged).get? other.text := by
  rw [get?_ofOverrides _ distinct, get?_ofOverrides _ distinct', same.others other another]
  by_cases verbosity : other = .verbosity
  · have apart : name ≠ .verbosity := fun here => another (verbosity.trans here.symm)
    have quiet : isRaised plain "quiet" = isRaised flagged "quiet" :=
      same.flags apart "quiet" (by cases name <;> decide)
    have verbose : isRaised plain "verbose" = isRaised flagged "verbose" :=
      same.flags apart "verbose" (by cases name <;> decide)
    rw [quiet, verbose]
  · simp only [verbosity, and_false, if_false]

variable {given given' : Origin → Fields}
  (reads : ∀ origin, reading around explicit plain origin = .ok (given origin))
  (reads' : ∀ origin, reading around explicit flagged origin = .ok (given' origin))

include reads reads'

theorem get?_mergedOf_alike (distinct : plain.keys.Nodup) (distinct' : flagged.keys.Nodup)
    (same : SaySameBut name plain flagged) {other : Name} (another : other ≠ name) :
    (mergedOf given).get? other.text = (mergedOf given').get? other.text := by
  have alike (origin : Origin) : (given origin).get? other.text = (given' origin).get? other.text := by
    by_cases call : origin = .call
    · subst call
      rw [← Except.ok.inj (reads .call), ← Except.ok.inj (reads' .call)]
      exact get?_ofOverrides_alike distinct distinct' same another
    · rw [Except.ok.inj ((reads origin).symm.trans ((reading_other call).trans (reads' origin)))]
  rw [get?_mergedOf given fun origin => nodup_of_reading distinct (reads origin),
    get?_mergedOf given' fun origin => nodup_of_reading distinct' (reads' origin)]
  simp only [alike]

theorem strangeName?_alike (same : SaySameBut name plain flagged) :
    strangeName? (mergedOf given) = strangeName? (mergedOf given') := by
  have alike (origin : Origin) (key : Text) :
      FirstStrange around explicit plain origin key ↔
        FirstStrange around explicit flagged origin key := by
    constructor
    · intro strange
      cases strange with
      | file lies holds found => exact .file lies holds found
      | override found => exact .override (same.strange ▸ found)
    · intro strange
      cases strange with
      | file lies holds found => exact .file lies holds found
      | override found => exact .override (same.strange ▸ found)
  apply Option.ext
  intro key
  simp only [strangeName?_mergedOf reads, strangeName?_mergedOf reads', alike]

omit reads in
theorem verbosityOf_flagged (distinct : flagged.keys.Nodup) (raises : RaisesFlag flagged) :
    ∃ verbosity, verbosityOf (mergedOf given') = .ok verbosity := by
  have top {value : Datum} (gives : Gives around explicit flagged .call .verbosity value) :
      (mergedOf given').get? "verbosity" = some value := by
    refine (prevails_iff distinct reads' .verbosity value).mp ⟨.call, gives, ?_⟩
    intro higher other above
    cases higher <;> exact absurd above (by decide)
  cases quiet : isRaised flagged "quiet" with
  | true => exact ⟨.quiet, by simp only [verbosityOf, top (.quiet quiet)]; rfl⟩
  | false =>
      have verbose : isRaised flagged "verbose" = true :=
        raises.resolve_left (Bool.eq_false_iff.mp quiet)
      exact ⟨.verbose, by simp only [verbosityOf, top (.verbose quiet verbose)]; rfl⟩

end Flag

/-- What loading comes to without and with a flag for the verbosity. -/
inductive Raised (around : Surroundings) (explicit : Option Text) (overrides : Fields) :
    Except Halt Settings → Except Halt Settings → Prop
  | stopped (halt : Halt) : Raised around explicit overrides (.error halt) (.error halt)
  | loaded (settings : Settings) (verbosity : Verbosity) :
    Raised around explicit overrides (.ok settings) (.ok { settings with verbosity })
  | misfit {value : Datum} (reason : Text) (settings : Settings) :
    FirstMisfit around explicit overrides .verbosity value →
    (∀ origin, ¬ OriginEscapes around explicit origin) →
    Raised around explicit overrides
      (.error (Halt.ofFailure (.invalidSetting "verbosity" value reason))) (.ok settings)

section Load

variable {around : Surroundings} {explicit : Option Text} {plain flagged : Fields}

theorem ofFields_raised {given given' : Origin → Fields}
    (reads : ∀ origin, reading around explicit plain origin = .ok (given origin))
    (reads' : ∀ origin, reading around explicit flagged origin = .ok (given' origin))
    (distinct : plain.keys.Nodup) (distinct' : flagged.keys.Nodup)
    (same : SaySameBut .verbosity plain flagged) (raises : RaisesFlag flagged) :
    Raised around explicit plain (Halt.ofFailing (ofFields (mergedOf given)))
      (Halt.ofFailing (ofFields (mergedOf given'))) := by
  have alike {name : Name} (other : name ≠ .verbosity) :
      (mergedOf given').get? name.text = (mergedOf given).get? name.text :=
    (get?_mergedOf_alike reads reads' distinct distinct' same other).symm
  have color : colorOf (mergedOf given') = colorOf (mergedOf given) :=
    colorOf_congr (alike Name.noConfusion)
  have formatter : formatterOf (mergedOf given') = formatterOf (mergedOf given) :=
    formatterOf_congr (alike Name.noConfusion)
  obtain ⟨verbosity, raised⟩ := verbosityOf_flagged reads' distinct' raises
  have colorChecked := colorOf_check (mergedOf given)
  have formatterChecked := formatterOf_check (mergedOf given)
  have verbosityChecked := verbosityOf_check (mergedOf given)
  rw [ofFields, ofFields, ← strangeName?_alike reads reads' same]
  cases strange : strangeName? (mergedOf given) with
  | some key => exact .stopped _
  | none =>
      simp only [ofKnown, color, formatter, raised]
      cases readColor : colorOf (mergedOf given) with
      | error cause => exact .stopped _
      | ok color =>
          rw [readColor] at colorChecked
          obtain ⟨sameColor, colorFits⟩ := colorChecked
          cases readFormatter : formatterOf (mergedOf given) with
          | error cause => exact .stopped _
          | ok formatter =>
              rw [readFormatter] at formatterChecked
              obtain ⟨sameFormatter, formatterFits⟩ := formatterChecked
              cases readVerbosity : verbosityOf (mergedOf given) with
              | ok other => exact .loaded ⟨color, formatter, other⟩ verbosity
              | error cause =>
                  rw [readVerbosity] at verbosityChecked
                  cases verbosityChecked with
                  | misfit found misfit =>
                      refine .misfit _ _ ?_ (noneEscapes_of_reads reads)
                      refine firstMisfit_of_reads reads distinct strange found misfit ?_
                      intro other before
                      cases other with
                      | color => exact sameColor ▸ colorFits
                      | formatter => exact sameFormatter ▸ formatterFits
                      | verbosity => exact absurd before (Nat.lt_irrefl _)

theorem load_raised (distinct : plain.keys.Nodup) (distinct' : flagged.keys.Nodup)
    (same : SaySameBut .verbosity plain flagged) (raises : RaisesFlag flagged) :
    Raised around explicit plain (load around explicit plain) (load around explicit flagged) := by
  cases read : Origin.all.mapM (reading around explicit plain) with
  | error halt =>
      have read' := mapM_error_congr reading_alike read (g := reading around explicit flagged)
      rw [load_eq, load_eq, read, read']
      exact .stopped halt
  | ok all =>
      cases read' : Origin.all.mapM (reading around explicit flagged) with
      | error halt =>
          have stopped := mapM_error_congr reading_alike read' (g := reading around explicit plain)
          cases stopped.symm.trans read
      | ok all' =>
          obtain ⟨given, reads⟩ := exists_given_of_mapM read
          obtain ⟨given', reads'⟩ := exists_given_of_mapM read'
          rw [load_of_pass reads, load_of_pass reads']
          exact ofFields_raised reads reads' distinct distinct' same raises

end Load

end LintFindings.Settings

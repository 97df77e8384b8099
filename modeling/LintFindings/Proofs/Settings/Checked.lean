import LintFindings.Proofs.Settings.Origins

/-!
The check of merged data: which data fit a setting, and that settings are made of what stands under
their names, or else the first of them that does not fit is refused.
-/

namespace LintFindings.Settings

inductive Fits : Name → Datum → Prop
  | unset : Fits .color .null
  | color (on : Bool) : Fits .color (.bool on)
  | formatter {name : Text} : name ≠ [] → Fits .formatter (.text name)
  | verbosity (verbosity : Verbosity) : Fits .verbosity (.text verbosity.name)

theorem default_fits (name : Name) : Fits name (default.datum name) := by
  cases name with
  | color => exact .unset
  | formatter => exact .formatter (by decide)
  | verbosity => exact .verbosity .normal

def Name.rank : Name → Nat
  | color => 0
  | formatter => 1
  | verbosity => 2

theorem Name.rank_injective {a b : Name} (same : a.rank = b.rank) : a = b := by
  cases a <;> cases b <;> first | rfl | exact absurd same (by decide)

section Congr

variable {fields fields' : Fields}

theorem colorOf_congr (same : fields.get? Name.color.text = fields'.get? Name.color.text) :
    colorOf fields = colorOf fields' := by
  rw [colorOf, colorOf, show fields.get? "color" = fields'.get? "color" from same]

theorem formatterOf_congr (same : fields.get? Name.formatter.text = fields'.get? Name.formatter.text) :
    formatterOf fields = formatterOf fields' := by
  rw [formatterOf, formatterOf, show fields.get? "formatter" = fields'.get? "formatter" from same]

theorem verbosityOf_congr (same : fields.get? Name.verbosity.text = fields'.get? Name.verbosity.text) :
    verbosityOf fields = verbosityOf fields' := by
  rw [verbosityOf, verbosityOf, show fields.get? "verbosity" = fields'.get? "verbosity" from same]

end Congr

section Check

variable (fields : Fields)

def standing (name : Name) : Datum := (fields.get? name.text).getD (default.datum name)

/-- A datum becomes the setting that it stands for, or is refused because it does not fit. -/
inductive Check (name : Name) {α : Type} (view : α → Datum) : Except Failure α → Prop
  | fits {found : α} : view found = standing fields name → Fits name (view found) →
    Check name view (.ok found)
  | misfit {value : Datum} {reason : Text} : fields.get? name.text = some value →
    ¬ Fits name value → Check name view (.error (.invalidSetting name.text value reason))

variable {fields}

theorem standing_of_none (name : Name) (missing : fields.get? name.text = none) :
    standing fields name = default.datum name := by rw [standing, missing]; rfl

theorem standing_of_some {name : Name} {value : Datum} (found : fields.get? name.text = some value) :
    standing fields name = value := by rw [standing, found]; rfl

variable (fields)

theorem colorOf_check : Check fields .color (fun color => color.elim .null .bool) (colorOf fields) := by
  unfold colorOf
  generalize found : fields.get? "color" = entry
  rcases entry with _ | value
  · exact .fits (standing_of_none .color found).symm .unset
  · have same : standing fields .color = value := standing_of_some found
    cases value with
    | null => exact .fits same.symm .unset
    | bool on => exact .fits same.symm (.color on)
    | _ => exact .misfit found (by rintro ⟨⟩)

theorem formatterOf_check : Check fields .formatter Datum.text (formatterOf fields) := by
  unfold formatterOf
  generalize found : fields.get? "formatter" = entry
  rcases entry with _ | value
  · exact .fits (standing_of_none .formatter found).symm (default_fits .formatter)
  · have same : standing fields .formatter = value := standing_of_some found
    cases value with
    | text name =>
        cases name with
        | nil => exact .misfit found (by rintro ⟨⟩; contradiction)
        | cons c rest => exact .fits same.symm (.formatter (List.cons_ne_nil c rest))
    | _ => exact .misfit found (by rintro ⟨⟩)

theorem verbosity_of_name {name : Text} {verbosity : Verbosity}
    (named : Verbosity.ofName? name = some verbosity) : verbosity.name = name :=
  eq_of_beq (List.find?_eq_some_iff_append.mp named).1

theorem verbosityOf_check :
    Check fields .verbosity (fun verbosity => .text verbosity.name) (verbosityOf fields) := by
  unfold verbosityOf
  generalize found : fields.get? "verbosity" = entry
  rcases entry with _ | value
  · exact .fits (standing_of_none .verbosity found).symm (.verbosity .normal)
  · have same : standing fields .verbosity = value := standing_of_some found
    cases value with
    | text name =>
        dsimp only
        cases named : Verbosity.ofName? name with
        | some verbosity =>
            rw [← verbosity_of_name named] at same
            exact .fits same.symm (.verbosity verbosity)
        | none =>
            refine .misfit found ?_
            intro fits
            cases fits with
            | verbosity verbosity => cases verbosity <;> exact absurd named (by decide)
    | _ => exact .misfit found (by rintro ⟨⟩)

inductive Known : Except Failure Settings → Prop
  | settings {settings : Settings} :
    (∀ name, settings.datum name = standing fields name ∧ Fits name (settings.datum name)) →
    Known (.ok settings)
  | misfit (name : Name) {value : Datum} {reason : Text} : fields.get? name.text = some value →
    ¬ Fits name value →
    (∀ earlier : Name, earlier.rank < name.rank → Fits earlier (standing fields earlier)) →
    Known (.error (.invalidSetting name.text value reason))

theorem ofKnown_known : Known fields (ofKnown fields) := by
  have color := colorOf_check fields
  have formatter := formatterOf_check fields
  have verbosity := verbosityOf_check fields
  unfold ofKnown
  generalize colorOf fields = readColor at color
  generalize formatterOf fields = readFormatter at formatter
  generalize verbosityOf fields = readVerbosity at verbosity
  cases color with
  | misfit found misfit =>
      refine .misfit .color found misfit ?_
      intro earlier before
      exact absurd before (Nat.not_lt_zero _)
  | fits sameColor colorFits =>
      cases formatter with
      | misfit found misfit =>
          refine .misfit .formatter found misfit ?_
          intro earlier before
          cases earlier with
          | color => exact sameColor ▸ colorFits
          | formatter => exact absurd before (by decide)
          | verbosity => exact absurd before (by decide)
      | fits sameFormatter formatterFits =>
          cases verbosity with
          | misfit found misfit =>
              refine .misfit .verbosity found misfit ?_
              intro earlier before
              cases earlier with
              | color => exact sameColor ▸ colorFits
              | formatter => exact sameFormatter ▸ formatterFits
              | verbosity => exact absurd before (by decide)
          | fits sameVerbosity verbosityFits =>
              refine .settings ?_
              intro name
              cases name with
              | color => exact ⟨sameColor, colorFits⟩
              | formatter => exact ⟨sameFormatter, formatterFits⟩
              | verbosity => exact ⟨sameVerbosity, verbosityFits⟩

end Check

end LintFindings.Settings

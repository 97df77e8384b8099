import LintFindings.Proofs.Settings.Verbosity

/-!
What settings take from the environment, and what a color given for a call does to them. It takes
the place of any other color and changes nothing else.
-/

namespace LintFindings.Settings

def variableNames : List Text :=
  ["HOME", "LINT_REPORT_COLOR", "LINT_REPORT_FORMATTER", "LINT_REPORT_VERBOSITY"]

/-- Surroundings that differ in nothing that settings depend on. -/
structure Alike (around other : Surroundings) : Prop where
  account : around.account = other.account
  work : around.work = other.work
  look : around.look = other.look
  environment : ∀ name ∈ variableNames, around.environment name = other.environment name

section Alike

variable {around other : Surroundings}

theorem ofVariablesIn_congr {values values' : Variables} {table : List (Text × Text × VariableKind)}
    (same : ∀ row ∈ table, values row.2.1 = values' row.2.1) :
    ofVariablesIn values table = ofVariablesIn values' table := by
  induction table with
  | nil => rfl
  | cons row rest ih =>
      obtain ⟨name, source, kind⟩ := row
      rw [ofVariablesIn, ofVariablesIn, ← same (name, source, kind) List.mem_cons_self,
        ih fun later member => same later (List.mem_cons_of_mem _ member)]

theorem reading_congr (alike : Alike around other) (explicit : Option Text) (overrides : Fields) :
    reading around explicit overrides = reading other explicit overrides := by
  have home : homeFolder around.environment around.account =
      homeFolder other.environment other.account := by
    rw [homeFolder, homeFolder, alike.account, alike.environment "HOME" (by decide)]
  have words : ofVariables around.environment = ofVariables other.environment := by
    refine ofVariablesIn_congr fun row member => alike.environment row.2.1 ?_
    simp only [variableTable, List.mem_cons, List.not_mem_nil, or_false] at member
    rcases member with rfl | rfl | rfl <;> decide
  funext origin
  cases origin with
  | everywhere => simp only [reading, ofPath?, home, alike.look]
  | here => simp only [reading, ofPath?, alike.work, alike.look]
  | asked => simp only [reading, ofPath, ofPath?, alike.look]
  | environment => simp only [reading, words]
  | call => rfl

theorem load_alike (alike : Alike around other) (explicit : Option Text) (overrides : Fields) :
    load around explicit overrides = load other explicit overrides := by
  rw [load_eq, load_eq, reading_congr alike]

end Alike

section Chosen

variable {around : Surroundings} {explicit : Option Text} {plain chosen : Fields} {color : Bool}

theorem colorOf_chosen {given : Origin → Fields}
    (reads : ∀ origin, reading around explicit chosen origin = .ok (given origin))
    (distinct : chosen.keys.Nodup) (chooses : chosen.get? "color" = some (.bool color)) :
    colorOf (mergedOf given) = .ok (some color) := by
  have gives : Gives around explicit chosen .call .color (.bool color) :=
    .override (fun here => Name.noConfusion here) chooses Datum.noConfusion
  have prevails : Prevails around explicit chosen .color (.bool color) := by
    refine ⟨.call, gives, ?_⟩
    intro higher other above
    cases higher <;> exact absurd above (by decide)
  have top : (mergedOf given).get? "color" = some (.bool color) :=
    (prevails_iff distinct reads .color (.bool color)).mp prevails
  rw [colorOf, top]

theorem exists_given_of_reads (chosen : Fields) {given : Origin → Fields}
    (reads : ∀ origin, reading around explicit plain origin = .ok (given origin)) :
    ∃ given' : Origin → Fields,
      ∀ origin, reading around explicit chosen origin = .ok (given' origin) := by
  have read (origin : Origin) : ∃ fields, reading around explicit chosen origin = .ok fields := by
    rcases reading_alike origin with same | ⟨-, read⟩
    · exact ⟨given origin, same.symm.trans (reads origin)⟩
    · exact read
  exact Classical.skolem.mp read

theorem load_chosen (distinct : plain.keys.Nodup) (distinct' : chosen.keys.Nodup)
    (same : SaySameBut .color plain chosen) (chooses : chosen.get? "color" = some (.bool color))
    {settings : Settings} (loaded : load around explicit plain = .ok settings) :
    load around explicit chosen = .ok { settings with color := some color } := by
  obtain ⟨given, reads⟩ := exists_given_of_load loaded
  obtain ⟨given', reads'⟩ := exists_given_of_reads chosen reads
  have alike {name : Name} (other : name ≠ .color) :
      (mergedOf given').get? name.text = (mergedOf given).get? name.text :=
    (get?_mergedOf_alike reads reads' distinct distinct' same other).symm
  have formatter : formatterOf (mergedOf given') = formatterOf (mergedOf given) :=
    formatterOf_congr (alike Name.noConfusion)
  have verbosity : verbosityOf (mergedOf given') = verbosityOf (mergedOf given) :=
    verbosityOf_congr (alike Name.noConfusion)
  rw [load_of_pass reads, ← mergedOf, ofFields] at loaded
  rw [load_of_pass reads', ← mergedOf, ofFields, ← strangeName?_alike reads reads' same]
  cases strange : strangeName? (mergedOf given) with
  | some key =>
      rw [strange] at loaded
      cases ofFailing_eq_ok loaded
  | none =>
      rw [strange] at loaded
      have known := ofFailing_eq_ok loaded
      simp only [ofKnown, bind_eq_ok, pure_eq_ok] at known
      obtain ⟨_, -, form, readFormatter, verb, readVerbosity, rfl⟩ := known
      simp only [ofKnown, colorOf_chosen reads' distinct' chooses, formatter, verbosity,
        readFormatter, readVerbosity]
      rfl

end Chosen

end LintFindings.Settings

import LintFindings.Proofs.Settings.Readings

/-!
What each origin gives: the data that are read from it are those that it is said to give, name by
name, and it gives each name once.
-/

namespace LintFindings

namespace Fields

theorem keys_sublist_of_filter (fields : Fields) (kept : Text × Datum → Bool) :
    (keys (fields.filter kept)).Sublist fields.keys := List.filter_sublist.map Prod.fst

theorem nodup_filter {fields : Fields} (distinct : fields.keys.Nodup)
    (kept : Text × Datum → Bool) : (keys (fields.filter kept)).Nodup :=
  (keys_sublist_of_filter fields kept).nodup distinct

theorem get?_remove (fields : Fields) (key name : Text) :
    (fields.remove key).get? name = if name = key then none else fields.get? name := by
  induction fields with
  | nil => simp [remove, get?]
  | cons field rest ih =>
      obtain ⟨k, v⟩ := field
      unfold remove at ih ⊢
      by_cases removed : k = key
      · rw [List.filter_cons_of_neg (by simp [removed]), ih, get?_cons]
        by_cases here : name = key
        · simp [here]
        · simp [here, removed]
      · rw [List.filter_cons_of_pos (by simp [removed]), get?_cons, get?_cons, ih]
        by_cases here : name = k
        · simp [here, removed]
        · simp [here]

theorem get?_filter_value {fields : Fields} (distinct : fields.keys.Nodup) (kept : Datum → Bool)
    (name : Text) :
    get? (fields.filter (fun (_, value) => kept value)) name = (fields.get? name).filter kept := by
  induction fields with
  | nil => rfl
  | cons field rest ih =>
      obtain ⟨k, v⟩ := field
      obtain ⟨missing, others⟩ := List.nodup_cons.mp distinct
      rw [List.filter_cons, get?_cons]
      dsimp only
      by_cases keeps : kept v = true
      · rw [if_pos keeps, get?_cons, ih others]
        split
        next => exact (Option.filter_some_pos keeps).symm
        next => rfl
      · rw [if_neg keeps, ih others]
        split
        next here =>
          have absent : name ∉ keys rest := here ▸ missing
          rw [(get?_eq_none_iff rest name).mpr absent, Option.filter_some, if_neg keeps]
          rfl
        next => rfl

end Fields

namespace Settings

section Variables

theorem isOneOf_iff (words : List String) (t : Text) :
    Text.isOneOf words t = true ↔ t ∈ words.map String.toList := by
  simp [Text.isOneOf]

theorem choice_read_eq_ok (word : Text) (value : Datum) :
    VariableKind.choice.read word = .ok value ↔ SaysOfColor word value := by
  have apart : ∀ t ∈ yesWords, t ∉ unsetWords := by decide
  have apart' : ∀ t ∈ noWords, t ∉ unsetWords ∧ t ∉ yesWords := by decide
  rw [VariableKind.read, VariableKind.readFlag]
  simp only [isOneOf_iff]
  constructor
  · intro read
    split at read
    next listed => exact Except.ok.inj read ▸ .unset listed
    next =>
      split at read
      next listed => exact Except.ok.inj read ▸ .yes listed
      next =>
        split at read
        next listed => exact Except.ok.inj read ▸ .no listed
        next => cases read
  · intro meant
    cases meant with
    | unset listed => exact if_pos listed
    | yes listed => exact (if_neg (apart _ listed)).trans (if_pos listed)
    | no listed =>
        exact (if_neg (apart' _ listed).1).trans
          ((if_neg (apart' _ listed).2).trans (if_pos listed))

variable {values : Variables}

theorem keys_ofVariablesIn {table : List (Text × Text × VariableKind)} {fields : Fields}
    (read : ofVariablesIn values table = .ok fields) :
    fields.keys.Sublist (table.map Prod.fst) := by
  induction table generalizing fields with
  | nil => cases read; exact .slnil
  | cons row rest ih =>
      obtain ⟨name, source, kind⟩ := row
      rw [ofVariablesIn] at read
      split at read
      next => exact .cons name (ih read)
      next word found =>
        split at read
        next => cases read
        next value given =>
          cases others : ofVariablesIn values rest with
          | error cause => rw [others] at read; cases read
          | ok more =>
              rw [others] at read
              cases read
              exact (ih others).cons_cons name

theorem get?_ofVariablesIn {table : List (Text × Text × VariableKind)} {fields : Fields}
    (distinct : (table.map Prod.fst).Nodup) (read : ofVariablesIn values table = .ok fields)
    {name source : Text} {kind : VariableKind} (listed : (name, source, kind) ∈ table) :
    fields.get? name = (values source).bind fun word => (kind.read word).toOption := by
  induction table generalizing fields with
  | nil => cases listed
  | cons row rest ih =>
      obtain ⟨first, source', kind'⟩ := row
      obtain ⟨missing, others⟩ := List.nodup_cons.mp distinct
      -- Of the later rows none can give the name of this one.
      have absent {more : Fields} (read : ofVariablesIn values rest = .ok more) :
          more.get? first = none :=
        (Fields.get?_eq_none_iff more first).mpr
          fun member => missing ((keys_ofVariablesIn read).subset member)
      have apart (later : (name, source, kind) ∈ rest) : name ≠ first := by
        rintro rfl
        exact missing (List.mem_map.mpr ⟨_, later, rfl⟩)
      rw [ofVariablesIn] at read
      split at read
      next unset =>
        rcases List.mem_cons.mp listed with same | later
        · cases same
          rw [unset, absent read]
          rfl
        · exact ih others read later
      next word found =>
        split at read
        next => cases read
        next value given =>
          cases tail : ofVariablesIn values rest with
          | error cause => rw [tail] at read; cases read
          | ok more =>
              rw [tail] at read
              cases read
              rw [Fields.get?_cons]
              rcases List.mem_cons.mp listed with same | later
              · cases same
                rw [if_pos rfl, found, Option.bind_some, given]
                rfl
              · rw [if_neg (apart later)]
                exact ih others tail later

theorem ofVariablesIn_text {table : List (Text × Text × VariableKind)}
    (plain : ∀ row ∈ table, row.2.2 = .text) : ∃ fields, ofVariablesIn values table = .ok fields := by
  induction table with
  | nil => exact ⟨[], rfl⟩
  | cons row rest ih =>
      obtain ⟨name, source, kind⟩ := row
      obtain ⟨more, read⟩ := ih fun other later => plain other (List.mem_cons_of_mem _ later)
      have text : kind = .text := plain _ List.mem_cons_self
      rw [ofVariablesIn, text, read]
      cases values source with
      | none => exact ⟨more, rfl⟩
      | some word => exact ⟨(name, .text word) :: more, rfl⟩

def ColorIsUnclear (values : Variables) : Prop :=
  ∃ word, values "LINT_REPORT_COLOR" = some word ∧ ∀ value, ¬ SaysOfColor word value

theorem ofVariables_of_unclear {word : Text} (found : values "LINT_REPORT_COLOR" = some word)
    (unclear : ∀ value, ¬ SaysOfColor word value) :
    ∃ reason, ofVariables values = .error (.invalidSetting "color" (.text word) reason) := by
  cases read : VariableKind.choice.read word with
  | ok value => exact absurd ((choice_read_eq_ok word value).mp read) (unclear value)
  | error reason =>
      refine ⟨"LINT_REPORT_COLOR".toList ++ ": ".toList ++ reason, ?_⟩
      simp only [ofVariables, variableTable, ofVariablesIn, found, read]

theorem ofVariables_of_clear (clear : ¬ ColorIsUnclear values) :
    ∃ fields, ofVariables values = .ok fields := by
  obtain ⟨more, others⟩ : ∃ fields, ofVariablesIn values variableTable.tail = .ok fields :=
    ofVariablesIn_text (by decide)
  rw [variableTable, List.tail_cons] at others
  rw [ofVariables, variableTable, ofVariablesIn]
  cases found : values "LINT_REPORT_COLOR".toList with
  | none => exact ⟨more, others⟩
  | some word =>
      cases read : VariableKind.choice.read word with
      | ok value =>
          rw [others]
          simp only [read]
          exact ⟨("color".toList, value) :: more, rfl⟩
      | error reason =>
          refine absurd ⟨word, found, ?_⟩ clear
          intro value meant
          rw [(choice_read_eq_ok word value).mpr meant] at read
          cases read

def Name.kind : Name → VariableKind
  | .color => .choice
  | _ => .text

theorem get?_ofVariables {fields : Fields} (read : ofVariables values = .ok fields) (name : Name) :
    fields.get? name.text =
      (values name.variableName).bind fun word => (name.kind.read word).toOption := by
  have distinct : (variableTable.map Prod.fst).Nodup := by decide
  have listed : (name.text, name.variableName, name.kind) ∈ variableTable := by
    cases name <;> decide
  exact get?_ofVariablesIn distinct read listed

end Variables

section Overrides

variable (overrides : Fields)

theorem foldFlag_eq (flag : Text) (verbosity : Verbosity) :
    foldFlag flag verbosity overrides =
      if isRaised overrides flag = true then
        (overrides.remove flag).put "verbosity" (.text verbosity.name)
      else overrides.remove flag := rfl

theorem nodup_foldFlag (flag : Text) (verbosity : Verbosity) (distinct : overrides.keys.Nodup) :
    (foldFlag flag verbosity overrides).keys.Nodup := by
  have others : (overrides.remove flag).keys.Nodup := Fields.nodup_filter distinct _
  rw [foldFlag_eq]
  split
  next => exact Fields.nodup_put _ _ _ others
  next => exact others

theorem get?_foldFlag (flag : Text) (verbosity : Verbosity) (name : Text) :
    (foldFlag flag verbosity overrides).get? name =
      if isRaised overrides flag = true ∧ name = "verbosity" then some (.text verbosity.name)
      else if name = flag then none else overrides.get? name := by
  rw [foldFlag_eq, ← Fields.get?_remove]
  by_cases raised : isRaised overrides flag = true
  · rw [if_pos raised]
    by_cases here : name = "verbosity".toList
    · rw [if_pos ⟨raised, here⟩, here, Fields.get?_put_same]
    · rw [if_neg (fun both => here both.2), Fields.get?_put_other _ _ here]
  · rw [if_neg raised, if_neg (fun both => raised both.1)]

theorem get?_ofOverrides (distinct : overrides.keys.Nodup) (name : Name) :
    (ofOverrides overrides).get? name.text =
      if isRaised overrides "quiet" = true ∧ name = .verbosity then some (.text "quiet")
      else if isRaised overrides "verbose" = true ∧ name = .verbosity then some (.text "verbose")
      else (overrides.get? name.text).filter isGiven := by
  have folded := nodup_foldFlag _ "quiet" .quiet (nodup_foldFlag overrides "verbose" .verbose distinct)
  have quiet : isRaised (foldFlag "verbose" .verbose overrides) "quiet" = isRaised overrides "quiet" := by
    unfold isRaised
    rw [get?_foldFlag, if_neg (fun both => absurd both.2 (by decide)), if_neg (by decide)]
  have isVerbosity : name.text = "verbosity".toList ↔ name = .verbosity := by
    cases name <;> decide
  -- A flag is taken away, but none has the name of a setting.
  have noFlag : name.text ≠ "quiet".toList ∧ name.text ≠ "verbose".toList := by
    cases name <;> decide
  rw [ofOverrides, Fields.get?_filter_value folded, get?_foldFlag, get?_foldFlag, quiet,
    if_neg noFlag.1, if_neg noFlag.2]
  simp only [isVerbosity]
  split
  next => rfl
  next =>
    split
    next => rfl
    next => rfl

end Overrides

section Origins

variable {around : Surroundings} {explicit : Option Text} {overrides : Fields} {fields : Fields}
  {name : Name} {value : Datum}

theorem gives_of_path {origin : Origin} {path : Text} (lies : LiesAt around explicit origin path) :
    Gives around explicit overrides origin name value ↔
      ∃ held, FileHolds around path held ∧ held.get? name.text = some value := by
  constructor
  · intro gives
    cases gives with
    | file lies' holds found => exact ⟨_, lies.unique lies' ▸ holds, found⟩
    | color => cases lies
    | word => cases lies
    | quiet => cases lies
    | verbose => cases lies
    | override => cases lies
  · rintro ⟨held, holds, found⟩
    exact .file lies holds found

theorem gives_iff_of_path {origin : Origin} {path : Text}
    (lies : LiesAt around explicit origin path)
    (read : reading around explicit overrides origin = .ok fields) :
    Gives around explicit overrides origin name value ↔ fields.get? name.text = some value := by
  rw [gives_of_path lies, exists_holds_iff overrides (fun held => held.get? name.text) rfl lies read]

theorem gives_environment_iff (read : ofVariables around.environment = .ok fields) :
    Gives around explicit overrides .environment name value ↔
      fields.get? name.text = some value := by
  rw [get?_ofVariables read, Option.bind_eq_some_iff]
  constructor
  · intro gives
    cases gives with
    | file lies => cases lies
    | @color word value found meant =>
        refine ⟨word, found, ?_⟩
        rw [show Name.color.kind = .choice from rfl, (choice_read_eq_ok word value).mpr meant]
        rfl
    | @word name word other found =>
        refine ⟨word, found, ?_⟩
        cases name with
        | color => exact absurd rfl other
        | _ => rfl
  · rintro ⟨word, found, read⟩
    cases name with
    | color =>
        cases given : VariableKind.choice.read word with
        | error reason =>
            rw [show Name.color.kind = .choice from rfl, given] at read
            cases read
        | ok meaning =>
            rw [show Name.color.kind = .choice from rfl, given] at read
            cases read
            exact .color found ((choice_read_eq_ok word value).mp given)
    | formatter =>
        cases read
        exact .word (by decide) found
    | verbosity =>
        cases read
        exact .word (by decide) found

theorem gives_call_iff (distinct : overrides.keys.Nodup) :
    Gives around explicit overrides .call name value ↔
      (ofOverrides overrides).get? name.text = some value := by
  have given (value : Datum) : isGiven value = true ↔ value ≠ .null := by
    cases value <;> simp [isGiven]
  rw [get?_ofOverrides overrides distinct]
  constructor
  · intro gives
    cases gives with
    | file lies => cases lies
    | quiet raised => rw [if_pos ⟨raised, rfl⟩]
    | verbose lowered raised =>
        rw [if_neg (fun both => Bool.false_ne_true (lowered.symm.trans both.1)), if_pos ⟨raised, rfl⟩]
    | override lowered found some =>
        have noQuiet : ¬ (isRaised overrides "quiet" = true ∧ name = .verbosity) := by
          rintro ⟨raised, rfl⟩
          exact Bool.false_ne_true ((lowered rfl).1.symm.trans raised)
        have noVerbose : ¬ (isRaised overrides "verbose" = true ∧ name = .verbosity) := by
          rintro ⟨raised, rfl⟩
          exact Bool.false_ne_true ((lowered rfl).2.symm.trans raised)
        rw [if_neg noQuiet, if_neg noVerbose, found]
        exact Option.filter_some_pos ((given value).mpr some)
  · intro found
    split at found
    next quiet =>
      obtain ⟨raised, rfl⟩ := quiet
      cases found
      exact .quiet raised
    next noQuiet =>
      have lowered (here : name = .verbosity) : isRaised overrides "quiet" = false :=
        Bool.eq_false_iff.mpr fun raised => noQuiet ⟨raised, here⟩
      split at found
      next verbose =>
        obtain ⟨raised, rfl⟩ := verbose
        cases found
        exact .verbose (lowered rfl) raised
      next noVerbose =>
        have lowered' (here : name = .verbosity) : isRaised overrides "verbose" = false :=
          Bool.eq_false_iff.mpr fun raised => noVerbose ⟨raised, here⟩
        obtain ⟨found, kept⟩ := Option.filter_eq_some_iff.mp found
        exact .override (fun here => ⟨lowered here, lowered' here⟩) found ((given value).mp kept)

theorem ofFailing_eq_ok {α : Type} {result : Except Failure α} {found : α}
    (passed : Halt.ofFailing result = .ok found) : result = .ok found := by
  cases result with
  | ok other => rw [Except.ok.inj passed]
  | error cause => cases passed

variable (around explicit overrides) in
/-- What the data that are read from an origin come from. -/
inductive ReadFrom : Origin → Fields → Prop
  | file {origin : Origin} {path : Text} {fields : Fields} : LiesAt around explicit origin path →
    ReadFrom origin fields
  | unasked : (∀ path, ¬ LiesAt around explicit .asked path) → ReadFrom .asked []
  | environment {fields : Fields} : ofVariables around.environment = .ok fields →
    ReadFrom .environment fields
  | call : ReadFrom .call (ofOverrides overrides)

theorem readFrom_of_reading {origin : Origin}
    (read : reading around explicit overrides origin = .ok fields) :
    ReadFrom around explicit overrides origin fields := by
  cases whereabouts around explicit origin with
  | file lies => exact .file lies
  | homeless away =>
      simp only [reading, away] at read
      cases read
  | unasked asks =>
      subst asks
      cases read
      refine .unasked ?_
      intro path lies
      cases lies with
      | asked asks => cases asks
  | environment => exact .environment (ofFailing_eq_ok read)
  | call =>
      cases read
      exact .call

theorem gives_iff {origin : Origin} (distinct : overrides.keys.Nodup)
    (read : reading around explicit overrides origin = .ok fields) :
    Gives around explicit overrides origin name value ↔ fields.get? name.text = some value := by
  cases readFrom_of_reading read with
  | file lies => exact gives_iff_of_path lies read
  | unasked nowhere =>
      constructor
      · intro gives
        cases gives with
        | file lies => exact absurd lies (nowhere _)
      · intro found
        cases found
  | environment given => exact gives_environment_iff given
  | call => exact gives_call_iff distinct

theorem nodup_of_reading {origin : Origin} (distinct : overrides.keys.Nodup)
    (read : reading around explicit overrides origin = .ok fields) : fields.keys.Nodup := by
  cases readFrom_of_reading read with
  | file lies =>
      rcases reading_eq_ok overrides lies read with holds | ⟨rfl, -⟩
      · exact holds.namesOnce.distinct
      · exact List.nodup_nil
  | unasked => exact List.nodup_nil
  | environment given =>
      have names : (variableTable.map Prod.fst).Nodup := by decide
      exact (keys_ofVariablesIn given).nodup names
  | call => exact Fields.nodup_filter (nodup_foldFlag _ _ _ (nodup_foldFlag _ _ _ distinct)) _

end Origins

end Settings

end LintFindings

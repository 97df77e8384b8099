import LintFindings.Proofs.Settings.Origins

/-!
Reading the origins of settings one after the other: what each of them comes to, and that the layers
are what all of them give unless one of them stops the reading.
-/

namespace LintFindings.Settings

/-- What ends the reading of a file without being a failure that can be told of. -/
inductive FileEscapes (around : Surroundings) (path : Text) : Prop
  | nameTooLong : around.look path = .error .nameTooLong → FileEscapes around path
  | denied : around.look path = .error .denied → FileEscapes around path
  | notUtf8 {bytes : Bytes} {offset : Nat} : around.look path = .ok (.file bytes) →
    Utf8.decode bytes = .error offset → FileEscapes around path
  | digitLimit {bytes : Bytes} {text : Text} : around.look path = .ok (.file bytes) →
    Utf8.decode bytes = .ok text → Toml.read text = .error .digitLimit → FileEscapes around path
  | nestingLimit {bytes : Bytes} {text : Text} : around.look path = .ok (.file bytes) →
    Utf8.decode bytes = .ok text → Toml.read text = .error .nestingLimit → FileEscapes around path

section Files

variable {around : Surroundings} {path : Text}

theorem HasSettings.eq_sectionOf {document fields : Fields} (has : HasSettings document fields) :
    fields = sectionOf document := by
  unfold sectionOf
  cases has with
  | own found =>
      rw [show document.get? tableName = _ from found]
  | all missing =>
      split
      next fields found => exact absurd found (missing fields)
      next => rfl

theorem hasSettings_sectionOf (document : Fields) : HasSettings document (sectionOf document) := by
  unfold sectionOf
  split
  next fields found => exact .own found
  next missing => exact .all missing

theorem IsDocument.unique {bytes : Bytes} {a b : Fields} (first : IsDocument bytes a)
    (second : IsDocument bytes b) : a = b := by
  obtain ⟨text, decoded, read⟩ := first
  obtain ⟨text', decoded', read'⟩ := second
  cases decoded.symm.trans decoded'
  cases read.symm.trans read'
  rfl

theorem FileHolds.unique {a b : Fields} (first : FileHolds around path a)
    (second : FileHolds around path b) : a = b := by
  obtain ⟨found, isDocument, has⟩ := first
  obtain ⟨found', isDocument', has'⟩ := second
  cases found.symm.trans found'
  cases isDocument.unique isDocument'
  rw [has.eq_sectionOf, has'.eq_sectionOf]

theorem FileHolds.namesOnce {fields : Fields} (holds : FileHolds around path fields) :
    fields.NamesOnce := by
  obtain ⟨-, ⟨text, -, read⟩, has⟩ := holds
  have clean := Toml.read_namesOnce read
  cases has with
  | own found => exact clean.get? found
  | all => exact clean

/-- What looking for settings at a path comes to. -/
inductive PathCase (around : Surroundings) (path : Text) : Except Halt (Option Fields) → Prop
  | absent {fault : PathFault} : around.look path = .error fault → fault ≠ .locked →
    PathCase around path (.ok none)
  | held {fields : Fields} : FileHolds around path fields → PathCase around path (.ok (some fields))
  | folder {problem : Text} : around.look path = .ok .folder →
    PathCase around path (.error (.failed (.invalidSettingsFile path problem)))
  | locked {problem : Text} : around.look path = .error .locked →
    PathCase around path (.error (.failed (.invalidSettingsFile path problem)))
  | malformed {bytes : Bytes} {text problem : Text} : around.look path = .ok (.file bytes) →
    Utf8.decode bytes = .ok text → Toml.read text = .error (.malformed problem) →
    PathCase around path (.error (.failed (.invalidSettingsFile path problem)))
  | escaped {cause : Escape} : FileEscapes around path → PathCase around path (.error (.escaped cause))

theorem ofPath?_case (around : Surroundings) (path : Text) :
    PathCase around path (ofPath? around path) := by
  unfold ofPath?
  split
  next bytes found =>
    unfold ofBytes
    split
    next offset broken => exact .escaped (.notUtf8 found broken)
    next text decoded =>
      split
      next document read => exact .held ⟨found, ⟨text, decoded, read⟩, hasSettings_sectionOf document⟩
      next limit => exact .escaped (.digitLimit found decoded limit)
      next limit => exact .escaped (.nestingLimit found decoded limit)
      next problem read => exact .malformed found decoded read
  next found => exact .folder found
  next found => exact .locked found
  next found => exact .escaped (.nameTooLong found)
  next found => exact .escaped (.denied found)
  next fault unlocked _ _ found => exact .absent found unlocked

theorem ofPath?_of_escapes (escapes : FileEscapes around path) :
    ∃ cause, ofPath? around path = .error (.escaped cause) := by
  unfold ofPath?
  cases escapes with
  | nameTooLong found => exact ⟨_, by rw [found]⟩
  | denied found => exact ⟨_, by rw [found]⟩
  | notUtf8 found broken => exact ⟨_, by simp only [found, ofBytes, broken]; rfl⟩
  | digitLimit found decoded limit => exact ⟨_, by simp only [found, ofBytes, decoded, limit]; rfl⟩
  | nestingLimit found decoded limit => exact ⟨_, by simp only [found, ofBytes, decoded, limit]; rfl⟩

theorem ofPath?_of_holds {fields : Fields} (holds : FileHolds around path fields) :
    ofPath? around path = .ok (some fields) := by
  obtain ⟨found, ⟨text, decoded, read⟩, has⟩ := holds
  rw [ofPath?, found, has.eq_sectionOf]
  simp only [ofBytes, decoded, read]
  rfl

theorem ofPath_eq_ok_iff (fields : Fields) :
    ofPath around path = .ok fields ↔ ofPath? around path = .ok (some fields) := by
  unfold ofPath
  rcases ofPath? around path with halt | (_ | found) <;>
    simp [bind, Except.bind, throw, throwThe, MonadExceptOf.throw, pure, Except.pure]

theorem ofPath_of_error {halt : Halt} (stops : ofPath? around path = .error halt) :
    ofPath around path = .error halt := by
  unfold ofPath
  rw [stops]
  rfl

theorem ofPath_of_none (absent : ofPath? around path = .ok none) :
    ofPath around path = .error (.failed (.missingSettingsFile path)) := by
  unfold ofPath
  rw [absent]
  rfl

end Files

section Origins

variable (around : Surroundings) (explicit : Option Text) (overrides : Fields)

/--
A file that is there and is a folder, may not be read or holds no document, or the one that is asked
for when it is not there.
-/
inductive Unusable : Origin → Text → Prop
  | folder {origin : Origin} {path : Text} : LiesAt around explicit origin path →
    around.look path = .ok .folder → Unusable origin path
  | locked {origin : Origin} {path : Text} : LiesAt around explicit origin path →
    around.look path = .error .locked → Unusable origin path
  | noDocument {origin : Origin} {path : Text} {bytes : Bytes} :
    LiesAt around explicit origin path → around.look path = .ok (.file bytes) →
    (∀ document, ¬ IsDocument bytes document) → Unusable origin path
  | missing {path : Text} {fault : PathFault} : LiesAt around explicit .asked path →
    around.look path = .error fault → Unusable .asked path

inductive OriginEscapes : Origin → Prop
  | home {cause : Escape} : homeFolder around.environment around.account = .error cause →
    OriginEscapes .everywhere
  | file {origin : Origin} {path : Text} : LiesAt around explicit origin path →
    FileEscapes around path → OriginEscapes origin

def NamesFile (path : Text) (failure : Failure) : Prop :=
  failure = .missingSettingsFile path ∨ ∃ problem, failure = .invalidSettingsFile path problem

def reading : Origin → Except Halt Fields
  | .everywhere =>
    match homeFolder around.environment around.account with
    | .ok home => (ofPath? around (homePath home)).map (·.getD [])
    | .error cause => .error (.escaped cause)
  | .here => (ofPath? around (workPath around.work)).map (·.getD [])
  | .asked =>
    match explicit with
    | some path => ofPath around (Path.normal path)
    | none => .ok []
  | .environment => Halt.ofFailing (ofVariables around.environment)
  | .call => .ok (ofOverrides overrides)

variable {around explicit}

theorem LiesAt.unique {origin : Origin} {a b : Text} (first : LiesAt around explicit origin a)
    (second : LiesAt around explicit origin b) : a = b := by
  cases first with
  | everywhere home =>
      cases second with
      | everywhere home' => rw [Except.ok.inj (home.symm.trans home')]
  | here => cases second with | here => rfl
  | asked asks =>
      cases second with
      | asked asks' => rw [Option.some.inj (asks.symm.trans asks')]

variable (around explicit) in
/-- An origin has a file at some path, or else a reason to have none. -/
inductive Whereabouts : Origin → Prop
  | file {origin : Origin} {path : Text} : LiesAt around explicit origin path → Whereabouts origin
  | homeless {cause : Escape} : homeFolder around.environment around.account = .error cause →
    Whereabouts .everywhere
  | unasked : explicit = none → Whereabouts .asked
  | environment : Whereabouts .environment
  | call : Whereabouts .call

variable (around explicit) in
theorem whereabouts (origin : Origin) : Whereabouts around explicit origin := by
  cases origin with
  | everywhere =>
      cases found : homeFolder around.environment around.account with
      | ok home => exact .file (.everywhere found)
      | error cause => exact .homeless found
  | here => exact .file .here
  | asked =>
      cases asks : explicit with
      | none => exact .unasked rfl
      | some path => exact .file (.asked rfl)
  | environment => exact .environment
  | call => exact .call

theorem reading_of_path {origin : Origin} {path : Text} (lies : LiesAt around explicit origin path) :
    reading around explicit overrides origin =
      if origin = .asked then ofPath around path else (ofPath? around path).map (·.getD []) := by
  cases lies with
  | everywhere home => simp only [reading, home]; rfl
  | here => rfl
  | asked asks => simp only [reading, asks]; rfl

theorem reading_of_error {origin : Origin} {path : Text} {halt : Halt}
    (lies : LiesAt around explicit origin path) (stops : ofPath? around path = .error halt) :
    reading around explicit overrides origin = .error halt := by
  rw [reading_of_path overrides lies]
  split
  next => exact ofPath_of_error stops
  next => rw [stops]; rfl

theorem reading_of_some {origin : Origin} {path : Text} {fields : Fields}
    (lies : LiesAt around explicit origin path) (found : ofPath? around path = .ok (some fields)) :
    reading around explicit overrides origin = .ok fields := by
  rw [reading_of_path overrides lies]
  split
  next => exact (ofPath_eq_ok_iff fields).mpr found
  next => rw [found]; rfl

theorem reading_of_escapes {origin : Origin} (escapes : OriginEscapes around explicit origin) :
    ∃ cause, reading around explicit overrides origin = .error (.escaped cause) := by
  cases escapes with
  | @home cause away => exact ⟨cause, by simp only [reading, away]⟩
  | file lies escapes =>
      obtain ⟨cause, stops⟩ := ofPath?_of_escapes escapes
      exact ⟨cause, reading_of_error overrides lies stops⟩

theorem reading_of_unusable {origin : Origin} {path : Text}
    (unusable : Unusable around explicit origin path)
    (told : ¬ OriginEscapes around explicit origin) :
    ∃ failure, reading around explicit overrides origin = .error (.failed failure) ∧
      NamesFile path failure := by
  have invalid {origin : Origin} {path problem : Text} (lies : LiesAt around explicit origin path)
      (stops : ofPath? around path = .error (.failed (.invalidSettingsFile path problem))) :
      ∃ failure, reading around explicit overrides origin = .error (.failed failure) ∧
        NamesFile path failure :=
    ⟨_, reading_of_error overrides lies stops, .inr ⟨problem, rfl⟩⟩
  have found := ofPath?_case around path
  generalize result : ofPath? around path = outcome at found
  cases unusable with
  | folder lies folder =>
      cases found with
      | absent missing => cases folder.symm.trans missing
      | held holds => obtain ⟨file, -, -⟩ := holds; cases folder.symm.trans file
      | folder => exact invalid lies result
      | locked => exact invalid lies result
      | malformed file => cases folder.symm.trans file
      | escaped escapes => exact absurd (.file lies escapes) told
  | locked lies locked =>
      cases found with
      | absent missing unlocked => exact absurd (Except.error.inj (missing.symm.trans locked)) unlocked
      | held holds => obtain ⟨file, -, -⟩ := holds; cases locked.symm.trans file
      | folder => exact invalid lies result
      | locked => exact invalid lies result
      | malformed => exact invalid lies result
      | escaped escapes => exact absurd (.file lies escapes) told
  | noDocument lies file noDocument =>
      cases found with
      | absent missing => cases file.symm.trans missing
      | held holds =>
          obtain ⟨file', isDocument, -⟩ := holds
          cases file.symm.trans file'
          exact absurd isDocument (noDocument _)
      | folder folder => exact invalid lies result
      | locked => exact invalid lies result
      | malformed => exact invalid lies result
      | escaped escapes => exact absurd (.file lies escapes) told
  | missing lies missing =>
      cases found with
      | absent =>
          refine ⟨_, ?_, .inl rfl⟩
          rw [reading_of_path overrides lies, if_pos rfl]
          exact ofPath_of_none result
      | held holds => obtain ⟨file, -, -⟩ := holds; cases missing.symm.trans file
      | folder folder => cases missing.symm.trans folder
      | locked => exact invalid lies result
      | malformed file => cases missing.symm.trans file
      | escaped escapes => exact absurd (.file lies escapes) told

theorem reading_passes_at {origin : Origin} {path : Text} (lies : LiesAt around explicit origin path)
    (usable : ∀ path, ¬ Unusable around explicit origin path)
    (told : ¬ OriginEscapes around explicit origin) :
    ∃ fields, reading around explicit overrides origin = .ok fields := by
  have found := ofPath?_case around path
  generalize result : ofPath? around path = outcome at found
  cases found with
  | absent missing =>
      rw [reading_of_path overrides lies]
      split
      next asked =>
        subst asked
        exact absurd (.missing lies missing) (usable path)
      next => exact ⟨[], by rw [result]; rfl⟩
  | held holds => exact ⟨_, reading_of_some overrides lies result⟩
  | folder folder => exact absurd (.folder lies folder) (usable path)
  | locked locked => exact absurd (.locked lies locked) (usable path)
  | malformed file decoded malformed =>
      refine absurd (.noDocument lies file ?_) (usable path)
      rintro document ⟨text, decoded', read⟩
      cases decoded.symm.trans decoded'
      cases malformed.symm.trans read
  | escaped escapes => exact absurd (.file lies escapes) told

theorem reading_eq_ok {origin : Origin} {path : Text} {fields : Fields}
    (lies : LiesAt around explicit origin path)
    (read : reading around explicit overrides origin = .ok fields) :
    FileHolds around path fields ∨ fields = [] ∧ ∀ held, ¬ FileHolds around path held := by
  have found := ofPath?_case around path
  generalize result : ofPath? around path = outcome at found
  cases found with
  | absent missing =>
      refine .inr ⟨?_, ?_⟩
      · rw [reading_of_path overrides lies] at read
        split at read
        next =>
          rw [ofPath_of_none result] at read
          cases read
        next =>
          rw [result] at read
          exact (Except.ok.inj read).symm
      · rintro held ⟨file, -, -⟩
        cases missing.symm.trans file
  | held holds =>
      rw [reading_of_some overrides lies result] at read
      exact .inl (Except.ok.inj read ▸ holds)
  | folder =>
      rw [reading_of_error overrides lies result] at read
      cases read
  | locked =>
      rw [reading_of_error overrides lies result] at read
      cases read
  | malformed file decoded malformed =>
      rw [reading_of_error overrides lies result] at read
      cases read
  | escaped escapes =>
      rw [reading_of_error overrides lies result] at read
      cases read

theorem exists_holds_iff {α : Type} (view : Fields → Option α) (nothing : view [] = none)
    {origin : Origin} {path : Text} {fields : Fields} (lies : LiesAt around explicit origin path)
    (read : reading around explicit overrides origin = .ok fields) (seen : α) :
    (∃ held, FileHolds around path held ∧ view held = some seen) ↔ view fields = some seen := by
  rcases reading_eq_ok overrides lies read with holds | ⟨rfl, missing⟩
  · constructor
    · rintro ⟨held, holds', found⟩
      exact holds.unique holds' ▸ found
    · exact fun found => ⟨fields, holds, found⟩
  · constructor
    · rintro ⟨held, holds, -⟩
      exact absurd holds (missing held)
    · intro found
      rw [nothing] at found
      cases found

end Origins

section Layers

variable (around : Surroundings) (explicit : Option Text) (overrides : Fields)

theorem load_eq :
    load around explicit overrides =
      Origin.all.mapM (reading around explicit overrides) >>= fun all =>
        Halt.ofFailing (ofFields (all.foldl Fields.merge [])) := by
  unfold load layers Origin.all
  simp only [List.mapM_cons, List.mapM_nil, reading]
  -- Both sides read in the same order, so they stop at the same origin.
  cases homeFolder around.environment around.account with
  | error cause => rfl
  | ok home =>
      dsimp only [bind, Except.bind, pure, Except.pure]
      cases ofPath? around (homePath home) with
      | error halt => rfl
      | ok everywhere =>
          dsimp only [Except.map]
          cases ofPath? around (workPath around.work) with
          | error halt => rfl
          | ok here =>
              dsimp only
              cases explicit with
              | none => cases Halt.ofFailing (ofVariables around.environment) <;> rfl
              | some path =>
                  dsimp only
                  cases ofPath around (Path.normal path) with
                  | error halt => rfl
                  | ok asked => cases Halt.ofFailing (ofVariables around.environment) <;> rfl

variable {around explicit overrides}

theorem load_of_stop {origin : Origin} {halt : Halt}
    (stops : reading around explicit overrides origin = .error halt)
    (passed : ∀ lower, lower.rank < origin.rank →
      ∃ fields, reading around explicit overrides lower = .ok fields) :
    load around explicit overrides = .error halt := by
  obtain ⟨before, after, listed, lower⟩ := origin.exists_split
  have stopped : (before ++ origin :: after).mapM (reading around explicit overrides) = .error halt :=
    mapM_of_stop (fun earlier member => passed earlier (lower earlier member)) stops
  rw [← listed] at stopped
  rw [load_eq, stopped]
  rfl

theorem load_of_pass {given : Origin → Fields}
    (passed : ∀ origin, reading around explicit overrides origin = .ok (given origin)) :
    load around explicit overrides =
      Halt.ofFailing (ofFields ((Origin.all.map given).foldl Fields.merge [])) := by
  rw [load_eq, mapM_of_ok fun origin _ => passed origin]
  rfl

theorem exists_given_of_mapM {all : List Fields}
    (read : Origin.all.mapM (reading around explicit overrides) = .ok all) :
    ∃ given : Origin → Fields,
      ∀ origin, reading around explicit overrides origin = .ok (given origin) :=
  Classical.skolem.mp fun origin => exists_of_mapM read origin.mem_all

theorem exists_given_of_load {settings : Settings}
    (loaded : load around explicit overrides = .ok settings) :
    ∃ given : Origin → Fields,
      ∀ origin, reading around explicit overrides origin = .ok (given origin) := by
  rw [load_eq, bind_eq_ok] at loaded
  obtain ⟨all, read, -⟩ := loaded
  exact exists_given_of_mapM read

end Layers

end LintFindings.Settings

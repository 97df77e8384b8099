import LintFindings.Proofs.Settings.Checked
import LintFindings.Proofs.Settings.Given
import Mathlib

/-!
Which of several origins counts. Each setting by itself is what the highest origin gives that gives
it at all; what lower ones give under its name does not matter, whatever it is, and what any of them
gives there does not matter for other settings.
-/

namespace LintFindings.Settings

def mergedOf (given : Origin → Fields) : Fields := (Origin.all.map given).foldl Fields.merge []

section Merged

variable (given : Origin → Fields)

theorem nodup_mergedOf : (mergedOf given).keys.Nodup :=
  Fields.nodup_foldl_merge _ [] List.nodup_nil

theorem get?_mergedOf (distinct : ∀ origin, (given origin).keys.Nodup) (name : Text) :
    (mergedOf given).get? name =
      Origin.all.reverse.findSome? (fun origin => (given origin).get? name) := by
  have layers : ∀ layer ∈ Origin.all.map given, layer.keys.Nodup := by
    intro layer member
    obtain ⟨origin, -, rfl⟩ := List.mem_map.mp member
    exact distinct origin
  rw [mergedOf, Fields.get?_foldl_merge _ layers, ← List.map_reverse, List.findSome?_map]
  exact Option.or_none

end Merged

section Standing

variable {around : Surroundings} {explicit : Option Text} {overrides : Fields}
  {given : Origin → Fields} (distinct : overrides.keys.Nodup)
  (reads : ∀ origin, reading around explicit overrides origin = .ok (given origin))

include distinct reads

theorem prevails_iff (name : Name) (value : Datum) :
    Prevails around explicit overrides name value ↔
      (mergedOf given).get? name.text = some value := by
  rw [get?_mergedOf given fun origin => nodup_of_reading distinct (reads origin),
    Origin.highest_eq_some_iff]
  unfold Prevails
  simp only [gives_iff distinct (reads _), Option.eq_none_iff_forall_ne_some, ne_eq]
  constructor
  · rintro ⟨origin, gives, nothing⟩
    exact ⟨origin, gives, fun higher above other => nothing higher other above⟩
  · rintro ⟨origin, gives, nothing⟩
    exact ⟨origin, gives, fun higher other above => nothing higher above other⟩

theorem nothing_iff (name : Name) :
    (∀ origin value, ¬ Gives around explicit overrides origin name value) ↔
      (mergedOf given).get? name.text = none := by
  rw [get?_mergedOf given fun origin => nodup_of_reading distinct (reads origin),
    List.findSome?_eq_none_iff]
  simp only [gives_iff distinct (reads _), Option.eq_none_iff_forall_ne_some, ne_eq]
  constructor
  · intro nothing origin _ value
    exact nothing origin value
  · intro nothing origin value
    exact nothing origin (List.mem_reverse.mpr origin.mem_all) value

theorem stands_iff (name : Name) (value : Datum) :
    Stands around explicit overrides name value ↔ value = standing (mergedOf given) name := by
  cases found : (mergedOf given).get? name.text with
  | some other =>
      rw [standing_of_some found]
      constructor
      · intro stands
        cases stands with
        | given prevails =>
            rw [prevails_iff distinct reads, found] at prevails
            exact (Option.some.inj prevails).symm
        | default nothing =>
            rw [nothing_iff distinct reads, found] at nothing
            cases nothing
      · rintro rfl
        exact .given ((prevails_iff distinct reads name value).mpr found)
  | none =>
      rw [standing_of_none name found]
      constructor
      · intro stands
        cases stands with
        | given prevails =>
            rw [prevails_iff distinct reads, found] at prevails
            cases prevails
        | default nothing => rfl
      · rintro rfl
        exact .default ((nothing_iff distinct reads name).mpr found)

end Standing

theorem whole_of_ofFields {fields : Fields} {settings : Settings}
    (made : ofFields fields = .ok settings) (name : Name) :
    settings.datum name = standing fields name ∧ Fits name (settings.datum name) := by
  unfold ofFields at made
  split at made
  next => cases made
  next =>
    have known := ofKnown_known fields
    rw [made] at known
    cases known with
    | settings whole => exact whole name

/-- The same names in the same order, and the same data under all of them but one. -/
def SameBut (name : Text) (a b : Fields) : Prop :=
  a.keys = b.keys ∧ ∀ other, other ≠ name → a.get? other = b.get? other

theorem SameBut.refl (name : Text) (fields : Fields) : SameBut name fields fields :=
  ⟨rfl, fun _ _ => rfl⟩

theorem SameBut.get?_eq_none_iff {name other : Text} {a b : Fields} (same : SameBut name a b) :
    a.get? other = none ↔ b.get? other = none := by
  rw [Fields.get?_eq_none_iff, Fields.get?_eq_none_iff, same.1]

section Alike

variable {name : Text} {given given' : Origin → Fields}
  (distinct : ∀ origin, (given origin).keys.Nodup) (distinct' : ∀ origin, (given' origin).keys.Nodup)
  (alike : ∀ origin, SameBut name (given origin) (given' origin))

include distinct distinct' alike

theorem get?_mergedOf_other {other : Text} (another : other ≠ name) :
    (mergedOf given').get? other = (mergedOf given).get? other := by
  rw [get?_mergedOf given' distinct', get?_mergedOf given distinct]
  congr 1
  funext origin
  exact ((alike origin).2 other another).symm

theorem mergedOf_eq (hidden : ∀ origin, given origin = given' origin ∨
      ∃ higher value, origin.rank < higher.rank ∧ (given higher).get? name = some value) :
    mergedOf given' = mergedOf given := by
  have names : (mergedOf given').keys = (mergedOf given).keys :=
    Fields.keys_foldl_merge_congr Origin.all (fun origin => (alike origin).1.symm) rfl
  -- With the same distinct names it is enough to compare what stands under each.
  refine Fields.ext_of_nodup (nodup_mergedOf given') names fun other => ?_
  by_cases here : other = name
  · subst here
    rw [get?_mergedOf given' distinct', get?_mergedOf given distinct]
    cases found : Origin.all.reverse.findSome? (fun origin => (given origin).get? other) with
    | none =>
        rw [List.findSome?_eq_none_iff] at found ⊢
        intro origin member
        exact ((alike origin).get?_eq_none_iff).mp (found origin member)
    | some value =>
        rw [Origin.highest_eq_some_iff] at found ⊢
        obtain ⟨origin, gives, nothing⟩ := found
        refine ⟨origin, ?_, fun higher above =>
          ((alike higher).get?_eq_none_iff).mp (nothing higher above)⟩
        rcases hidden origin with same | ⟨higher, another, above, gives'⟩
        · exact same ▸ gives
        · -- The origin counts, so no higher one can give anything.
          rw [nothing higher above] at gives'
          cases gives'
  · exact get?_mergedOf_other distinct distinct' alike here

end Alike

/--
The same surroundings, except that files of revised origins may hold another datum under the name of
one setting. It need not fit the setting.
-/
structure Revision (around changed : Surroundings) (explicit : Option Text) (name : Name)
    (revised : Origin → Prop) : Prop where
  account : changed.account = around.account
  work : changed.work = around.work
  environment : changed.environment = around.environment
  files {origin : Origin} {path : Text} : LiesAt around explicit origin path →
    changed.look path = around.look path ∨
      revised origin ∧ ∃ before after, FileHolds around path before ∧ FileHolds changed path after ∧
        SameBut name.text before after

section Revisions

variable {around changed : Surroundings} {explicit : Option Text} {overrides : Fields} {name : Name}
  {revised : Origin → Prop} (revision : Revision around changed explicit name revised)

include revision

theorem Revision.liesAt {origin : Origin} {path : Text} (lies : LiesAt around explicit origin path) :
    LiesAt changed explicit origin path := by
  cases lies with
  | everywhere home => exact .everywhere (by rw [revision.environment, revision.account, home])
  | here => exact revision.work ▸ .here
  | asked asks => exact .asked asks

theorem Revision.reading (origin : Origin) :
    reading changed explicit overrides origin = reading around explicit overrides origin ∨
      revised origin ∧ ∃ before after, reading around explicit overrides origin = .ok before ∧
        reading changed explicit overrides origin = .ok after ∧
        SameBut name.text before after := by
  cases whereabouts around explicit origin with
  | file lies =>
      have lies' := revision.liesAt lies
      rcases revision.files lies with same | ⟨isRevised, before, after, holds, holds', sameBut⟩
      · refine .inl ?_
        rw [reading_of_path overrides lies, reading_of_path overrides lies', ofPath, ofPath, ofPath?,
          ofPath?, same]
      · exact .inr ⟨isRevised, before, after, reading_of_some overrides lies (ofPath?_of_holds holds),
          reading_of_some overrides lies' (ofPath?_of_holds holds'), sameBut⟩
  | homeless away =>
      refine .inl ?_
      simp only [Settings.reading, revision.environment, revision.account, away]
  | unasked asks =>
      subst asks
      exact .inl rfl
  | environment => exact .inl (by rw [Settings.reading, Settings.reading, revision.environment])
  | call => exact .inl rfl

theorem Revision.load_of_stop {halt : Halt}
    (stopped : Origin.all.mapM (Settings.reading around explicit overrides) = .error halt) :
    load changed explicit overrides = load around explicit overrides := by
  have alike (origin : Origin) :
      Settings.reading around explicit overrides origin =
        Settings.reading changed explicit overrides origin ∨
      (∃ fields, Settings.reading around explicit overrides origin = .ok fields) ∧
        ∃ fields, Settings.reading changed explicit overrides origin = .ok fields := by
    rcases revision.reading origin with same | ⟨-, before, after, read, read', -⟩
    · exact .inl same.symm
    · exact .inr ⟨⟨before, read⟩, ⟨after, read'⟩⟩
  rw [load_eq, load_eq, stopped, mapM_error_congr alike stopped]

variable {given : Origin → Fields}
  (reads : ∀ origin, Settings.reading around explicit overrides origin = .ok (given origin))

include reads

theorem Revision.exists_given :
    ∃ given' : Origin → Fields,
      (∀ origin, Settings.reading changed explicit overrides origin = .ok (given' origin)) ∧
      ∀ origin, SameBut name.text (given origin) (given' origin) ∧
        (given origin = given' origin ∨ revised origin) := by
  have each (origin : Origin) : ∃ fields,
      Settings.reading changed explicit overrides origin = .ok fields ∧
        SameBut name.text (given origin) fields ∧ (given origin = fields ∨ revised origin) := by
    rcases revision.reading origin with same | ⟨isRevised, before, after, read, read', sameBut⟩
    · exact ⟨given origin, same.trans (reads origin), .refl _ _, .inl rfl⟩
    · cases (reads origin).symm.trans read
      exact ⟨after, read', sameBut, .inr isRevised⟩
  obtain ⟨given', both⟩ := Classical.skolem.mp each
  exact ⟨given', fun origin => (both origin).1, fun origin => (both origin).2⟩

end Revisions

section Load

variable (around : Surroundings) (explicit : Option Text) (overrides : Fields)

theorem datum_of_load {around : Surroundings} {explicit : Option Text} {overrides : Fields}
    {given : Origin → Fields}
    (reads : ∀ origin, reading around explicit overrides origin = .ok (given origin))
    {settings : Settings} (loaded : load around explicit overrides = .ok settings) (name : Name) :
    settings.datum name = standing (mergedOf given) name := by
  rw [load_of_pass reads] at loaded
  exact (whole_of_ofFields (ofFailing_eq_ok loaded) name).1

theorem fits_of_load {around : Surroundings} {explicit : Option Text} {overrides : Fields}
    {settings : Settings} (loaded : load around explicit overrides = .ok settings) (name : Name) :
    Fits name (settings.datum name) := by
  obtain ⟨given, reads⟩ := exists_given_of_load loaded
  rw [load_of_pass reads] at loaded
  exact (whole_of_ofFields (ofFailing_eq_ok loaded) name).2

/--
Each setting is what stands for it by itself. What is below the highest origin that gives a setting
may be revised without any effect, and revising one setting has none on the others.
-/
theorem load_precedence (distinct : overrides.keys.Nodup) :
    (∀ settings, load around explicit overrides = .ok settings → ∀ name value,
      Stands around explicit overrides name value ↔ value = settings.datum name) ∧
    (∀ changed name,
      Revision around changed explicit name (fun origin => ∃ higher value,
        origin.rank < higher.rank ∧ Gives around explicit overrides higher name value) →
      load changed explicit overrides = load around explicit overrides) ∧
    (∀ changed name, Revision around changed explicit name (fun _ => True) →
      ∀ settings revised, load around explicit overrides = .ok settings →
        load changed explicit overrides = .ok revised →
        ∀ other, other ≠ name → revised.datum other = settings.datum other) := by
  refine ⟨?_, ?_, ?_⟩
  · intro settings loaded name value
    obtain ⟨given, reads⟩ := exists_given_of_load loaded
    rw [stands_iff distinct reads, datum_of_load reads loaded]
  · intro changed name revision
    cases outcome : Origin.all.mapM (reading around explicit overrides) with
    | error halt => exact revision.load_of_stop outcome
    | ok all =>
        obtain ⟨given, reads⟩ := Classical.skolem.mp fun origin : Origin =>
          exists_of_mapM outcome origin.mem_all
        obtain ⟨given', reads', alike⟩ := revision.exists_given reads
        rw [load_of_pass reads, load_of_pass reads', ← mergedOf, ← mergedOf,
          mergedOf_eq (fun origin => nodup_of_reading distinct (reads origin))
            (fun origin => nodup_of_reading distinct (reads' origin)) fun origin => (alike origin).1]
        intro origin
        refine (alike origin).2.imp_right ?_
        rintro ⟨higher, value, above, gives⟩
        exact ⟨higher, value, above, (gives_iff distinct (reads higher)).mp gives⟩
  · intro changed name revision settings revised loaded loaded' other another
    obtain ⟨given, reads⟩ := exists_given_of_load loaded
    obtain ⟨given', reads', alike⟩ := revision.exists_given reads
    rw [datum_of_load reads loaded, datum_of_load reads' loaded', standing, standing,
      get?_mergedOf_other (fun origin => nodup_of_reading distinct (reads origin))
        (fun origin => nodup_of_reading distinct (reads' origin)) fun origin => (alike origin).1]
    exact fun same => another (Name.text_injective same)

end Load

def withFile (bytes : Bytes) (word : Text) : Surroundings where
  account := "/root"
  work := "/work"
  look := fun path => if path = "/work/lint-report.toml" then .ok (.file bytes) else .error .missing
  environment := fun name => if name = "LINT_REPORT_COLOR" then some word else none

theorem look_withFile (bytes : Bytes) (word : Text) :
    (withFile bytes word).look "/work/lint-report.toml" = .ok (.file bytes) := rfl

theorem look_withFile_root (bytes : Bytes) (word : Text) :
    (withFile bytes word).look "/root/.lint-report.toml" = .error .missing := rfl

theorem fileHolds_withFile {bytes : Bytes} {document : Fields} (word : Text)
    (isDocument : IsDocument bytes document) (plain : document.get? "lint-report" = none) :
    FileHolds (withFile bytes word) "/work/lint-report.toml" document := by
  refine ⟨look_withFile bytes word, isDocument, .all ?_⟩
  intro fields found
  rw [plain] at found
  cases found

theorem liesAt_withFile {bytes : Bytes} {word path : Text} {origin : Origin}
    (lies : LiesAt (withFile bytes word) none origin path) :
    origin = .here ∧ path = "/work/lint-report.toml" ∨ path = "/root/.lint-report.toml" := by
  cases lies with
  | everywhere home =>
      cases home
      exact .inr rfl
  | here => exact .inl ⟨rfl, rfl⟩
  | asked asks => cases asks

theorem revision_withFile {before after : Bytes} {fields fields' : Fields} {name : Name}
    {revised : Origin → Prop} (word : Text) (isDocument : IsDocument before fields)
    (isDocument' : IsDocument after fields') (plain : fields.get? "lint-report" = none)
    (sameBut : SameBut name.text fields fields') (hidden : revised .here) :
    Revision (withFile before word) (withFile after word) none name revised := by
  have apart : "lint-report".toList ≠ name.text := by cases name <;> decide
  have plain' : fields'.get? "lint-report" = none := by rw [← sameBut.2 _ apart, plain]
  refine ⟨rfl, rfl, rfl, ?_⟩
  intro origin path lies
  rcases liesAt_withFile lies with ⟨rfl, rfl⟩ | rfl
  · exact .inr ⟨hidden, fields, fields', fileHolds_withFile word isDocument plain,
      fileHolds_withFile word isDocument' plain', sameBut⟩
  · exact .inl ((look_withFile_root after word).trans (look_withFile_root before word).symm)

def coloredFile : Bytes := Utf8.encode "formatter = \"one\"\ncolor = true"

def miscoloredFile : Bytes := Utf8.encode "formatter = \"one\"\ncolor = \"red\""

def coloredFields : Fields := [("formatter", .text "one"), ("color", .bool true)]

def miscoloredFields : Fields := [("formatter", .text "one"), ("color", .text "red")]

theorem isDocument_colored : IsDocument coloredFile coloredFields :=
  ⟨"formatter = \"one\"\ncolor = true", by cbv, by cbv⟩

theorem isDocument_miscolored : IsDocument miscoloredFile miscoloredFields :=
  ⟨"formatter = \"one\"\ncolor = \"red\"", by cbv, by cbv⟩

theorem sameBut_miscolored : SameBut "color" coloredFields miscoloredFields := by
  refine ⟨rfl, ?_⟩
  intro other another
  simp only [coloredFields, miscoloredFields, Fields.get?_cons, if_neg another]

def verboseOverrides : Fields := [("formatter", .null), ("verbose", .bool true)]

theorem load_precedence_withFile :
    verboseOverrides.keys.Nodup ∧
      load (withFile coloredFile "Auto") none verboseOverrides = .ok ⟨none, "one", .verbose⟩ ∧
      Stands (withFile coloredFile "Auto") none verboseOverrides .formatter (.text "one") ∧
      load (withFile miscoloredFile "Auto") none verboseOverrides = .ok ⟨none, "one", .verbose⟩ := by
  have distinct : verboseOverrides.keys.Nodup := by decide
  have loaded : load (withFile coloredFile "Auto") none verboseOverrides =
      .ok ⟨none, "one", .verbose⟩ := eq_ok_of_toOption (by decide +kernel)
  obtain ⟨stands, hidden, -⟩ := load_precedence (withFile coloredFile "Auto") none
    verboseOverrides distinct
  refine ⟨distinct, loaded, (stands _ loaded .formatter _).mpr rfl, ?_⟩
  refine (hidden _ .color (revision_withFile _ isDocument_colored isDocument_miscolored rfl
    sameBut_miscolored ?_)).trans loaded
  exact ⟨.environment, .null, by decide, .color rfl (.unset (by decide))⟩

end LintFindings.Settings

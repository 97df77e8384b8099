import LintFindings.Settings.Layers
import LintFindings.Proofs.Toml.Names

/-!
Where the data of settings come from. Five origins, each with a rank: which of them gives which
datum under the name of a setting, and what stands when several of them or none gives one.
-/

namespace LintFindings.Settings

inductive Name where
  | color
  | formatter
  | verbosity
  deriving DecidableEq, Repr

namespace Name

def text : Name → Text
  | color => "color"
  | formatter => "formatter"
  | verbosity => "verbosity"

def variableName : Name → Text
  | color => "LINT_REPORT_COLOR"
  | formatter => "LINT_REPORT_FORMATTER"
  | verbosity => "LINT_REPORT_VERBOSITY"

theorem text_injective {a b : Name} (same : a.text = b.text) : a = b := by
  cases a <;> cases b <;> first | rfl | exact absurd same (by decide)

end Name

def datum (settings : Settings) : Name → Datum
  | .color => settings.color.elim .null .bool
  | .formatter => .text settings.formatter
  | .verbosity => .text settings.verbosity.name

inductive Origin where
  | everywhere
  | here
  | asked
  | environment
  | call
  deriving DecidableEq, Repr

namespace Origin

/-- An origin of higher rank hides what those of lower rank give. -/
def rank : Origin → Nat
  | everywhere => 0
  | here => 1
  | asked => 2
  | environment => 3
  | call => 4

def all : List Origin := [everywhere, here, asked, environment, call]

theorem mem_all (origin : Origin) : origin ∈ all := by cases origin <;> decide

theorem exists_split (origin : Origin) :
    ∃ before after, all = before ++ origin :: after ∧ ∀ lower ∈ before, lower.rank < origin.rank := by
  cases origin with
  | everywhere => exact ⟨[], [here, asked, environment, call], rfl, by decide⟩
  | here => exact ⟨[everywhere], [asked, environment, call], rfl, by decide⟩
  | asked => exact ⟨[everywhere, here], [environment, call], rfl, by decide⟩
  | environment => exact ⟨[everywhere, here, asked], [call], rfl, by decide⟩
  | call => exact ⟨[everywhere, here, asked, environment], [], rfl, by decide⟩

theorem exists_lowest (property : Origin → Prop) {origin : Origin} (has : property origin) :
    ∃ lowest, property lowest ∧ ∀ lower, lower.rank < lowest.rank → ¬ property lower := by
  by_cases least : ∀ lower, lower.rank < origin.rank → ¬ property lower
  · exact ⟨origin, has, least⟩
  · simp only [not_forall, not_not] at least
    obtain ⟨lower, below, has⟩ := least
    exact exists_lowest property has
termination_by origin.rank

theorem findSome?_eq_some_iff_of_pairwise {α : Type} {before : Origin → Origin → Prop}
    (asymmetric : ∀ {a b}, before a b → ¬ before b a) {listed : List Origin}
    (ordered : listed.Pairwise before) (given : Origin → Option α) (found : α) :
    listed.findSome? given = some found ↔
      ∃ origin ∈ listed, given origin = some found ∧
        ∀ other ∈ listed, before other origin → given other = none := by
  induction listed with
  | nil => simp
  | cons first rest ih =>
      obtain ⟨leads, ordered⟩ := List.pairwise_cons.mp ordered
      cases has : given first with
      | some value =>
          rw [List.findSome?_cons, has, Option.some_inj]
          constructor
          · rintro rfl
            refine ⟨first, List.mem_cons_self, has, ?_⟩
            intro other member earlier
            rcases List.mem_cons.mp member with rfl | later
            · exact absurd earlier (asymmetric earlier)
            · exact absurd earlier (asymmetric (leads other later))
          · rintro ⟨origin, member, gives, nothing⟩
            rcases List.mem_cons.mp member with rfl | later
            · exact Option.some.inj (has.symm.trans gives)
            · have skipped := nothing first List.mem_cons_self (leads origin later)
              rw [has] at skipped
              cases skipped
      | none =>
          rw [List.findSome?_cons, has]
          refine (ih ordered).trans ⟨?_, ?_⟩
          · rintro ⟨origin, member, gives, nothing⟩
            refine ⟨origin, List.mem_cons_of_mem first member, gives, ?_⟩
            intro other present earlier
            rcases List.mem_cons.mp present with rfl | later
            · exact has
            · exact nothing other later earlier
          · rintro ⟨origin, member, gives, nothing⟩
            rcases List.mem_cons.mp member with rfl | later
            · rw [has] at gives
              cases gives
            · exact ⟨origin, later, gives, fun other present =>
                nothing other (List.mem_cons_of_mem first present)⟩

theorem lowest_eq_some_iff {α : Type} (given : Origin → Option α) (found : α) :
    all.findSome? given = some found ↔
      ∃ origin, given origin = some found ∧
        ∀ lower, lower.rank < origin.rank → given lower = none := by
  have ordered : all.Pairwise (fun a b => a.rank < b.rank) := by decide
  rw [findSome?_eq_some_iff_of_pairwise Nat.lt_asymm ordered]
  simp [mem_all]

theorem highest_eq_some_iff {α : Type} (given : Origin → Option α) (found : α) :
    all.reverse.findSome? given = some found ↔
      ∃ origin, given origin = some found ∧
        ∀ higher, origin.rank < higher.rank → given higher = none := by
  have ordered : all.reverse.Pairwise (fun a b => b.rank < a.rank) := by decide
  rw [findSome?_eq_some_iff_of_pairwise Nat.lt_asymm ordered]
  simp [mem_all]

end Origin

def IsDocument (bytes : Bytes) (document : Fields) : Prop :=
  ∃ text, Utf8.decode bytes = .ok text ∧ Toml.read text = .ok document

/--
A document holds its settings in a table of their own, and then nothing else in it counts. Without
such a table all that it holds are settings.
-/
inductive HasSettings (document : Fields) : Fields → Prop
  | own {fields : Fields} :
    document.get? "lint-report" = some (.table fields) → HasSettings document fields
  | all : (∀ fields, document.get? "lint-report" ≠ some (.table fields)) →
    HasSettings document document

inductive FileHolds (around : Surroundings) (path : Text) (fields : Fields) : Prop
  | intro {bytes : Bytes} {document : Fields} : around.look path = .ok (.file bytes) →
    IsDocument bytes document → HasSettings document fields → FileHolds around path fields

section Given

variable (around : Surroundings) (explicit : Option Text) (overrides : Fields)

inductive LiesAt : Origin → Text → Prop
  | everywhere {home : Text} :
    homeFolder around.environment around.account = .ok home → LiesAt .everywhere (homePath home)
  | here : LiesAt .here (workPath around.work)
  | asked {path : Text} : explicit = some path → LiesAt .asked (Path.normal path)

def unsetWords : List Text := ["", "auto"]

def yesWords : List Text := ["true", "1", "yes", "on"]

def noWords : List Text := ["false", "0", "no", "off"]

/-- What a word says of the color, in whatever letter case. -/
inductive SaysOfColor (word : Text) : Datum → Prop
  | unset : word.lower ∈ unsetWords → SaysOfColor word .null
  | yes : word.lower ∈ yesWords → SaysOfColor word (.bool true)
  | no : word.lower ∈ noWords → SaysOfColor word (.bool false)

def isRaised (flag : Text) : Bool := (overrides.get? flag).any Datum.isTruthy

/--
What an origin gives under a name. In a call a null gives nothing, and the flags come before a
verbosity that is given as such.
-/
inductive Gives : Origin → Name → Datum → Prop
  | file {origin : Origin} {path : Text} {fields : Fields} {name : Name} {value : Datum} :
    LiesAt around explicit origin path → FileHolds around path fields →
    fields.get? name.text = some value → Gives origin name value
  | color {word : Text} {value : Datum} :
    around.environment "LINT_REPORT_COLOR" = some word → SaysOfColor word value →
    Gives .environment .color value
  | word {name : Name} {word : Text} : name ≠ .color →
    around.environment name.variableName = some word → Gives .environment name (.text word)
  | quiet : isRaised overrides "quiet" = true → Gives .call .verbosity (.text "quiet")
  | verbose : isRaised overrides "quiet" = false → isRaised overrides "verbose" = true →
    Gives .call .verbosity (.text "verbose")
  | override {name : Name} {value : Datum} :
    (name = .verbosity →
      isRaised overrides "quiet" = false ∧ isRaised overrides "verbose" = false) →
    overrides.get? name.text = some value → value ≠ .null → Gives .call name value

def Prevails (name : Name) (value : Datum) : Prop :=
  ∃ origin, Gives around explicit overrides origin name value ∧
    ∀ higher other, origin.rank < higher.rank → ¬ Gives around explicit overrides higher name other

/-- The datum that counts in the end: the prevailing one, or the default when no origin gives any. -/
inductive Stands (name : Name) : Datum → Prop
  | given {value : Datum} : Prevails around explicit overrides name value → Stands name value
  | default : (∀ origin value, ¬ Gives around explicit overrides origin name value) →
    Stands name (default.datum name)

end Given

end LintFindings.Settings

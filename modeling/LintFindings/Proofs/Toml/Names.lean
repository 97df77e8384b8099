import LintFindings.Proofs.Datum.Merged
import LintFindings.Proofs.Steps
import LintFindings.Toml.Document

/-!
The names in a TOML document: no table that the reader builds gives a name twice, neither the
document itself nor any table within it.
-/

namespace LintFindings

namespace Datum

mutual

def NamesOnce : Datum → Prop
  | list items => ItemsNameOnce items
  | table fields => (Fields.keys fields).Nodup ∧ MembersNameOnce fields
  | _ => True

def ItemsNameOnce : List Datum → Prop
  | [] => True
  | item :: items => item.NamesOnce ∧ ItemsNameOnce items

def MembersNameOnce : List (Text × Datum) → Prop
  | [] => True
  | (_, member) :: fields => member.NamesOnce ∧ MembersNameOnce fields

end

theorem itemsNameOnce_append (a b : List Datum) :
    ItemsNameOnce (a ++ b) ↔ ItemsNameOnce a ∧ ItemsNameOnce b := by
  induction a with
  | nil => simp [ItemsNameOnce]
  | cons item rest ih => simp [ItemsNameOnce, ih, and_assoc]

end Datum

open Datum

def Fields.NamesOnce (fields : Fields) : Prop := (Datum.table fields).NamesOnce

namespace Fields

theorem NamesOnce.distinct {fields : Fields} (clean : fields.NamesOnce) : fields.keys.Nodup :=
  clean.1

theorem namesOnce_nil : NamesOnce [] := ⟨List.nodup_nil, trivial⟩

theorem namesOnce_of_get? {fields : Fields} {name : Text} {value : Datum}
    (clean : MembersNameOnce fields) (found : fields.get? name = some value) :
    value.NamesOnce := by
  induction fields with
  | nil => cases found
  | cons field rest ih =>
      obtain ⟨k, v⟩ := field
      rw [get?_cons] at found
      split at found
      next => exact Option.some.inj found ▸ clean.1
      next => exact ih clean.2 found

theorem membersNameOnce_put {fields : Fields} {value : Datum} (name : Text)
    (clean : MembersNameOnce fields) (fresh : value.NamesOnce) :
    MembersNameOnce (fields.put name value) := by
  induction fields with
  | nil => exact ⟨fresh, trivial⟩
  | cons field rest ih =>
      obtain ⟨k, v⟩ := field
      unfold put
      split
      next => exact ⟨fresh, clean.2⟩
      next => exact ⟨clean.1, ih clean.2⟩

theorem NamesOnce.put {fields : Fields} {value : Datum} (name : Text) (clean : fields.NamesOnce)
    (fresh : value.NamesOnce) : (Fields.put fields name value).NamesOnce :=
  ⟨nodup_put fields name value clean.1, membersNameOnce_put name clean.2 fresh⟩

theorem NamesOnce.get? {fields : Fields} {name : Text} {value : Datum} (clean : fields.NamesOnce)
    (found : Fields.get? fields name = some value) : value.NamesOnce :=
  namesOnce_of_get? clean.2 found

end Fields

namespace Toml

section Tables

variable {change : Fields → Option Fields}

theorem changeTable_namesOnce (lists : Bool)
    (keeps : ∀ {before after}, before.NamesOnce → change before = some after → after.NamesOnce)
    (path : Key) {before after : Fields} (clean : before.NamesOnce)
    (changed : changeTable lists change path before = some after) : after.NamesOnce := by
  induction path generalizing before after with
  | nil => exact keeps clean changed
  | cons part parts ih =>
      rw [changeTable] at changed
      split at changed
      next =>
        obtain ⟨inner, step, rfl⟩ := Option.map_eq_some_iff.mp changed
        exact clean.put part (ih Fields.namesOnce_nil step)
      next table found =>
        obtain ⟨inner, step, rfl⟩ := Option.map_eq_some_iff.mp changed
        exact clean.put part (ih (clean.get? found) step)
      next items found =>
        split at changed
        next table last =>
          -- The path goes on in the last item; the items before it stay.
          obtain ⟨inner, step, rfl⟩ := Option.map_eq_some_iff.mp changed
          have whole := clean.get? found
          rw [← List.dropLast_append_getLast? _ last, Datum.NamesOnce,
            itemsNameOnce_append] at whole
          have inside := ih whole.2.1 step
          refine clean.put part ?_
          rw [Datum.NamesOnce, itemsNameOnce_append]
          exact ⟨whole.1, inside, trivial⟩
        next => cases changed
      next => cases changed

theorem addNew_namesOnce {name : Text} {value : Datum} (fresh : value.NamesOnce)
    {before after : Fields} (clean : before.NamesOnce)
    (changed : addNew name value before = some after) : after.NamesOnce := by
  unfold addNew at changed
  split at changed
  next => cases changed
  next => exact Option.some.inj changed ▸ clean.put name fresh

theorem addItem_namesOnce {name : Text} {before after : Fields} (clean : before.NamesOnce)
    (changed : addItem name before = some after) : after.NamesOnce := by
  have empty : (Datum.table []).NamesOnce := Fields.namesOnce_nil
  unfold addItem at changed
  split at changed
  next => exact Option.some.inj changed ▸ clean.put name ⟨empty, trivial⟩
  next items found =>
    refine Option.some.inj changed ▸ clean.put name ?_
    rw [Datum.NamesOnce, itemsNameOnce_append]
    exact ⟨clean.get? found, empty, trivial⟩
  next => cases changed

theorem some_namesOnce {before after : Fields} (clean : before.NamesOnce)
    (changed : some before = some after) : after.NamesOnce :=
  Option.some.inj changed ▸ clean

end Tables

section Scalars

theorem namesOnce_of_scalar {datum : Datum} (alone : isContainer datum = false) :
    datum.NamesOnce := by
  cases datum with
  | list items => cases alone
  | table fields => cases alone
  | _ => trivial

theorem basedInteger?_alone {t rest : Text} {datum : Datum}
    (found : basedInteger? t = some (datum, rest)) : isContainer datum = false := by
  unfold basedInteger? at found
  split at found
  next =>
    simp only [Option.bind_eq_bind, Option.bind_eq_some_iff] at found
    obtain ⟨base, -, digits, -, same⟩ := found
    cases same
    rfl
  next => cases found

theorem number?_alone {t rest : Text} {datum : Datum}
    (found : number? t = some (.ok (datum, rest))) : isContainer datum = false := by
  unfold number? at found
  split at found
  next number based =>
    cases found
    exact basedInteger?_alone based
  next =>
    obtain ⟨whole, -, made⟩ := Option.map_eq_some_iff.mp found
    dsimp only at made
    split at made
    next => cases made; rfl
    next =>
      split at made
      next => cases made
      next => cases made; rfl

theorem dateOrTime?_alone {t rest : Text} {datum : Datum}
    (found : dateOrTime? t = some (.ok (datum, rest))) : isContainer datum = false := by
  unfold dateOrTime? at found
  split at found
  next =>
    split at found
    next => cases found
    next =>
      split at found <;> cases found <;> rfl
  next =>
    obtain ⟨clock, -, made⟩ := Option.map_eq_some_iff.mp found
    cases made
    rfl

theorem specialFloat?_alone {t rest : Text} {datum : Datum}
    (found : specialFloat? t = some (datum, rest)) : isContainer datum = false := by
  unfold specialFloat? at found
  dsimp only at found
  split at found
  next => cases found; rfl
  next =>
    split at found <;> cases found
    rfl

theorem scalar_alone {t rest : Text} {datum : Datum} (read : scalar t = .ok (datum, rest)) :
    isContainer datum = false := by
  unfold scalar at read
  split at read
  next =>
    rw [bind_eq_ok] at read
    obtain ⟨chars, -, made⟩ := read
    cases made
    rfl
  next =>
    split at read
    next => cases read; rfl
    next =>
      split at read
      next => cases read; rfl
      next =>
        split at read
        next found moment =>
          rw [read] at moment
          exact dateOrTime?_alone moment
        next =>
          split at read
          next found number =>
            rw [read] at number
            exact number?_alone number
          next =>
            split at read
            next found special =>
              cases read
              exact specialFloat?_alone special
            next => cases read

end Scalars

/-- What a value, the items of a list and the members of a table come to with some fuel. -/
structure ReadsNamesOnce (fuel : Nat) : Prop where
  value {room : Nat} {t rest : Text} {datum : Datum} :
    value room fuel t = .ok (datum, rest) → datum.NamesOnce
  items {room : Nat} {t rest : Text} {found : List Datum} :
    items room fuel t = .ok (found, rest) → ItemsNameOnce found
  members {room : Nat} {before after : Fields} {closed : List Key} {t rest : Text} :
    before.NamesOnce → members room fuel before closed t = .ok (after, rest) → after.NamesOnce

namespace ReadsNamesOnce

variable {fuel : Nat} (shorter : ReadsNamesOnce fuel)

include shorter

theorem value_succ {room : Nat} {t rest : Text} {datum : Datum}
    (read : Toml.value room (fuel + 1) t = .ok (datum, rest)) : datum.NamesOnce := by
  unfold Toml.value at read
  split at read
  next =>
    split at read
    next => cases read
    next =>
      obtain ⟨start, -, read⟩ := (bind_eq_ok _ _ _).mp read
      split at read
      next =>
        cases read
        trivial
      next =>
        obtain ⟨found, inside, made⟩ := (bind_eq_ok _ _ _).mp read
        cases made
        exact shorter.items inside
  next =>
    split at read
    next => cases read
    next =>
      split at read
      next =>
        cases read
        exact Fields.namesOnce_nil
      next =>
        obtain ⟨found, inside, made⟩ := (bind_eq_ok _ _ _).mp read
        cases made
        exact shorter.members Fields.namesOnce_nil inside
  next => exact namesOnce_of_scalar (scalar_alone read)

theorem items_succ {room : Nat} {t rest : Text} {found : List Datum}
    (read : Toml.items room (fuel + 1) t = .ok (found, rest)) : ItemsNameOnce found := by
  rw [Toml.items] at read
  obtain ⟨⟨item, after⟩, first, read⟩ := (bind_eq_ok _ _ _).mp read
  have clean := shorter.value first
  obtain ⟨next, -, read⟩ := (bind_eq_ok _ _ _).mp read
  split at read
  next =>
    cases read
    exact ⟨clean, trivial⟩
  next =>
    obtain ⟨start, -, read⟩ := (bind_eq_ok _ _ _).mp read
    split at read
    next =>
      cases read
      exact ⟨clean, trivial⟩
    next =>
      obtain ⟨others, more, made⟩ := (bind_eq_ok _ _ _).mp read
      cases made
      exact ⟨clean, shorter.items more⟩
  next => cases read

theorem members_succ {room : Nat} {before after : Fields} {closed : List Key} {t rest : Text}
    (clean : before.NamesOnce)
    (read : Toml.members room (fuel + 1) before closed t = .ok (after, rest)) :
    after.NamesOnce := by
  rw [Toml.members] at read
  obtain ⟨⟨name, afterKey⟩, -, read⟩ := (bind_eq_ok _ _ _).mp read
  dsimp only at read
  split at read
  next =>
    obtain ⟨⟨member, afterMember⟩, first, read⟩ := (bind_eq_ok _ _ _).mp read
    have fresh := shorter.value first
    dsimp only at read
    split at read
    next => cases read
    next =>
      split at read
      next => cases read
      next =>
        split at read
        next => cases read
        next fields added =>
          have put := changeTable_namesOnce false (addNew_namesOnce fresh) _ clean added
          split at read
          next =>
            cases read
            exact put
          next => exact shorter.members put read
          next => cases read
  next => cases read

end ReadsNamesOnce

theorem readsNamesOnce (fuel : Nat) : ReadsNamesOnce fuel := by
  induction fuel with
  | zero =>
      constructor
      · intro room t rest datum read
        cases read
      · intro room t rest found read
        cases read
      · intro room before after closed t rest clean read
        cases read
  | succ fuel ih =>
      constructor
      · exact ih.value_succ
      · exact ih.items_succ
      · exact ih.members_succ

section Statements

variable {doc after : Document} {t rest : Text}

theorem assignment_namesOnce (clean : doc.fields.NamesOnce)
    (read : assignment doc t = .ok (after, rest)) : after.fields.NamesOnce := by
  unfold assignment at read
  obtain ⟨⟨name, afterKey⟩, -, read⟩ := (bind_eq_ok _ _ _).mp read
  dsimp only at read
  split at read
  next =>
    obtain ⟨⟨member, afterMember⟩, first, read⟩ := (bind_eq_ok _ _ _).mp read
    have fresh := (readsNamesOnce _).value first
    dsimp only at read
    split at read
    next => cases read
    next =>
      split at read
      next => cases read
      next =>
        split at read
        next => cases read
        next fields added =>
          cases read
          exact changeTable_namesOnce true (addNew_namesOnce fresh) _ clean added
  next => cases read

theorem tableHeader_namesOnce (clean : doc.fields.NamesOnce)
    (read : tableHeader doc t = .ok (after, rest)) : after.fields.NamesOnce := by
  unfold tableHeader at read
  obtain ⟨⟨name, afterKey⟩, -, read⟩ := (bind_eq_ok _ _ _).mp read
  dsimp only at read
  split at read
  next => cases read
  next =>
    split at read
    next => cases read
    next fields opened =>
      split at read
      next =>
        cases read
        exact changeTable_namesOnce true some_namesOnce _ clean opened
      next => cases read

theorem itemHeader_namesOnce (clean : doc.fields.NamesOnce)
    (read : itemHeader doc t = .ok (after, rest)) : after.fields.NamesOnce := by
  unfold itemHeader at read
  obtain ⟨⟨name, afterKey⟩, -, read⟩ := (bind_eq_ok _ _ _).mp read
  dsimp only at read
  split at read
  next => cases read
  next =>
    split at read
    next => cases read
    next fields opened =>
      split at read
      next =>
        cases read
        exact changeTable_namesOnce true addItem_namesOnce _ clean opened
      next => cases read

theorem statement_namesOnce (clean : doc.fields.NamesOnce)
    (read : statement doc t = .ok (after, rest)) : after.fields.NamesOnce := by
  unfold statement at read
  split at read
  next => exact itemHeader_namesOnce clean read
  next => exact tableHeader_namesOnce clean read
  next =>
    cases read
    exact clean
  next =>
    split at read
    next => exact assignment_namesOnce clean read
    next => cases read
  next =>
    cases read
    exact clean

theorem statements_namesOnce (fuel : Nat) (clean : doc.fields.NamesOnce)
    (read : statements fuel doc t = .ok after) : after.fields.NamesOnce := by
  induction fuel generalizing doc t with
  | zero =>
      cases read
      exact clean
  | succ fuel ih =>
      rw [statements] at read
      split at read
      next =>
        cases read
        exact clean
      next => exact ih clean read
      next =>
        obtain ⟨⟨more, afterOne⟩, first, read⟩ := (bind_eq_ok _ _ _).mp read
        have kept := statement_namesOnce clean first
        obtain ⟨start, -, read⟩ := (bind_eq_ok _ _ _).mp read
        split at read
        next =>
          cases read
          exact kept
        next => exact ih kept read
        next => cases read

end Statements

theorem read_namesOnce {text : Text} {document : Fields} (found : read text = .ok document) :
    document.NamesOnce := by
  unfold read at found
  dsimp only at found
  split at found
  next doc made =>
    cases found
    exact statements_namesOnce _ Fields.namesOnce_nil made
  next => cases found
  next => cases found
  next => cases found

end Toml

end LintFindings

import LintFindings.Proofs.Datum.Merged
import LintFindings.Proofs.Finding.Faults
import LintFindings.Proofs.Finding.Grammar
import LintFindings.Proofs.Json.Written

/-!
Findings in the raw form in which linters print them, which findings can be read at all, and that
those are the ones read back from their raw form.
-/

namespace LintFindings

namespace Finding

/-- Any other severity than a warning's or an error's only stands in a fatal finding. -/
def IsSound (f : Finding) : Prop := f.fatal = false → f.severity = 1 ∨ f.severity = 2

def IsShort (f : Finding) : Prop :=
  isWritable f.severity = true ∧ isWritable f.line = true ∧ isWritable f.column = true

/-- A rule is given under its name; if there is none, a null is given or nothing. -/
inductive RawRule : Option Text → Fields → Prop
  | given (rule : Text) : RawRule (some rule) [("ruleId", .text rule)]
  | null : RawRule none [("ruleId", .null)]
  | absent : RawRule none []

def rawFields (f : Finding) : Fields :=
  [("message", .text f.message), ("severity", .int f.severity), ("line", .int f.line),
    ("column", .int f.column), ("fatal", .bool f.fatal)]

/-- The raw form of a finding, with its names in any order. -/
inductive IsRaw (f : Finding) : Datum → Prop
  | table {rule fields : Fields} : RawRule f.rule rule → fields.Perm (f.rawFields ++ rule) →
    IsRaw f (.table fields)

end Finding

namespace FileFindings

structure IsSound (file : FileFindings) : Prop where
  errors : 0 ≤ file.errors
  warnings : 0 ≤ file.warnings
  findings : ∀ f ∈ file.findings, f.IsSound

structure IsShort (file : FileFindings) : Prop where
  errors : isWritable file.errors = true
  warnings : isWritable file.warnings = true
  findings : ∀ f ∈ file.findings, f.IsShort

def rawFields (file : FileFindings) (messages : List Datum) : Fields :=
  [("filePath", .text file.path), ("errorCount", .int file.errors),
    ("warningCount", .int file.warnings), ("messages", .list messages)]

inductive IsRaw (file : FileFindings) : Datum → Prop
  | table {messages : List Datum} {fields : Fields} :
    List.Forall₂ Finding.IsRaw file.findings messages → fields.Perm (file.rawFields messages) →
    IsRaw file (.table fields)

inductive AreRaw (files : List FileFindings) : Datum → Prop
  | list {items : List Datum} : List.Forall₂ IsRaw files items → AreRaw files (.list items)

end FileFindings

theorem forall_mem_of_forall₂ {α β : Type} {related : α → β → Prop} {holds : β → Prop}
    {left : List α} {right : List β} (pairs : List.Forall₂ related left right)
    (each : ∀ a ∈ left, ∀ b, related a b → holds b) : ∀ b ∈ right, holds b := by
  induction pairs with
  | nil =>
      intro b member
      cases member
  | @cons a b left right pair _ ih =>
      have others := ih fun other member => each other (List.mem_cons_of_mem a member)
      exact List.forall_mem_cons.mpr ⟨each a List.mem_cons_self b pair, others⟩

theorem exists_forall₂ {α β : Type} {related : α → β → Prop} (each : ∀ a, ∃ b, related a b)
    (left : List α) : ∃ right, List.Forall₂ related left right := by
  induction left with
  | nil => exact ⟨[], .nil⟩
  | cons a left ih =>
      obtain ⟨b, pair⟩ := each a
      obtain ⟨right, pairs⟩ := ih
      exact ⟨b :: right, .cons pair pairs⟩

theorem map_eq_of_forall₂ {α : Type} {related : α → Datum → Prop} {accepts : Datum → Bool}
    {ofRaw : Datum → α} {left : List α} {right : List Datum}
    (pairs : List.Forall₂ related left right)
    (each : ∀ a ∈ left, ∀ raw, related a raw → accepts raw = true ∧ ofRaw raw = a) :
    right.all accepts = true ∧ right.map ofRaw = left := by
  induction pairs with
  | nil => exact ⟨rfl, rfl⟩
  | @cons a raw left right pair _ ih =>
      obtain ⟨accepted, same⟩ := each a List.mem_cons_self raw pair
      obtain ⟨others, same'⟩ := ih fun other member => each other (List.mem_cons_of_mem a member)
      exact ⟨by simp [accepted, others], by simp [same, same']⟩

theorem Datum.isWritable_of_mem {items : List Datum} {item : Datum}
    (writable : areWritable items = true) (member : item ∈ items) : item.isWritable = true := by
  induction items with
  | nil => cases member
  | cons first rest ih =>
      rw [areWritable, Bool.and_eq_true] at writable
      rcases List.mem_cons.mp member with rfl | later
      · exact writable.1
      · exact ih writable.2 later

section Entries

variable {given fields : Fields}

theorem isWritable_of_lt_ten {n : Int} (small : n.natAbs < 10) : isWritable n = true := by
  have some : 1 ≤ digitLimit := by decide
  rw [isWritable_iff]
  -- The bound itself is too large to be worked out.
  generalize digitLimit = limit at some ⊢
  have grows : Nat.pow 10 1 ≤ Nat.pow 10 limit := Nat.pow_le_pow_right (by decide) some
  exact Nat.lt_of_lt_of_le small grows

theorem isWritable_int? (writable : Datum.fieldsAreWritable fields = true) (key : Text)
    {default : Int} (small : default.natAbs < 10) :
    isWritable ((Entry.int? (fields.get? key)).getD default) = true := by
  cases found : fields.get? key with
  | none => exact isWritable_of_lt_ten small
  | some value =>
      have short := Datum.isWritable_of_get? writable found
      cases value with
      | int n => exact short
      | _ => exact isWritable_of_lt_ten small

theorem get?_of_perm (order : fields.Perm given) (distinct : given.keys.Nodup) (name : Text) :
    fields.get? name = given.get? name :=
  (Fields.get?_perm order.symm distinct name).symm

theorem plain_table (order : fields.Perm given) (distinct : given.keys.Nodup)
    (each : ∀ field ∈ given, Json.Plain field.2) : Json.Plain (.table fields) :=
  .table ((order.map Prod.fst).nodup_iff.mpr distinct) fun field member =>
    each field (order.mem_iff.mp member)

end Entries

namespace Finding

variable {f : Finding} {raw : Datum}

theorem nodup_rawFields {rule : Fields} (given : RawRule f.rule rule) :
    (Fields.keys (f.rawFields ++ rule)).Nodup := by
  have all : List.Nodup
      (["message", "severity", "line", "column", "fatal", "ruleId"].map String.toList) := by decide
  generalize f.rule = name at given
  cases given with
  | given name => exact all
  | null => exact all
  | absent => exact all.sublist (List.sublist_append_left _ ["ruleId".toList])

open Entry in
theorem text?_of_rawRule {name : Option Text} {rule : Fields} (given : RawRule name rule) :
    (isUnset (rule.get? "ruleId") || isText (rule.get? "ruleId")) = true ∧
      text? (rule.get? "ruleId") = name := by
  cases given with
  | given name => exact ⟨rfl, rfl⟩
  | null => exact ⟨rfl, rfl⟩
  | absent => exact ⟨rfl, rfl⟩

theorem ofRaw_of_isRaw (form : IsRaw f raw) (sound : f.IsSound) :
    accepts raw = true ∧ ofRaw raw = f := by
  obtain @⟨rule, fields, given, order⟩ := form
  have entry := get?_of_perm order (nodup_rawFields given)
  have message : fields.get? "message" = some (.text f.message) := entry "message"
  have severity : fields.get? "severity" = some (.int f.severity) := entry "severity"
  have line : fields.get? "line" = some (.int f.line) := entry "line"
  have column : fields.get? "column" = some (.int f.column) := entry "column"
  have fatal : fields.get? "fatal" = some (.bool f.fatal) := entry "fatal"
  have ruleId : fields.get? "ruleId" = rule.get? "ruleId" := entry "ruleId"
  obtain ⟨accepted, named⟩ := text?_of_rawRule given
  constructor
  · simp only [accepts, acceptsFields, message, fatal, ruleId, accepted, Bool.and_true]
    cases state : f.fatal with
    | true =>
        simp only [acceptsFatal, List.all_cons, List.all_nil, severity, line, column]
        rfl
    | false =>
        have known : Entry.isSeverity (some (.int f.severity)) = true := by
          rcases sound state with mild | grave
          · rw [mild]
            rfl
          · rw [grave]
            rfl
        simp only [acceptsPlain, severity, line, column, known]
        rfl
  · simp only [ofRaw, ofFields, message, severity, line, column, fatal, ruleId, named]
    rfl

theorem plain_of_isRaw (form : IsRaw f raw) (short : f.IsShort) : Json.Plain raw := by
  obtain ⟨given, order⟩ := form
  obtain ⟨severity, line, column⟩ := short
  refine plain_table order (nodup_rawFields given) ?_
  intro field member
  rcases List.mem_append.mp member with member | member
  · simp only [rawFields, List.mem_cons, List.not_mem_nil, or_false] at member
    rcases member with rfl | rfl | rfl | rfl | rfl
    · exact .text _
    · exact .int severity
    · exact .int line
    · exact .int column
    · exact .bool _
  · generalize f.rule = name at given
    cases given with
    | given name => exact List.mem_singleton.mp member ▸ .text name
    | null => exact List.mem_singleton.mp member ▸ .null
    | absent => cases member

theorem isSound_ofRaw (accepted : accepts raw = true) : (ofRaw raw).IsSound := by
  cases raw with
  | table fields =>
      intro (mild : Entry.isSet (Fields.get? fields "fatal") = false)
      simp only [accepts, acceptsFields, mild, Bool.false_eq_true, if_false, Bool.and_eq_true]
        at accepted
      obtain ⟨⟨-, plain⟩, -⟩ := accepted
      simp only [acceptsPlain, Bool.and_eq_true] at plain
      obtain ⟨⟨known, -⟩, -⟩ := plain
      simp only [ofRaw, ofFields]
      generalize Fields.get? fields "severity" = entry at known ⊢
      unfold Entry.isSeverity at known
      split at known
      next n =>
        rw [Bool.or_eq_true, beq_iff_eq, beq_iff_eq] at known
        exact known
      next => cases known
  | _ => cases accepted

theorem isShort_ofRaw (writable : raw.isWritable = true) : (ofRaw raw).IsShort := by
  have short (fields : Fields) (writable : Datum.fieldsAreWritable fields = true) :
      (ofFields fields).IsShort :=
    ⟨isWritable_int? writable _ (by decide), isWritable_int? writable _ (by decide),
      isWritable_int? writable _ (by decide)⟩
  cases raw with
  | table fields => exact short fields writable
  | _ => exact short [] rfl

end Finding

namespace FileFindings

variable {file : FileFindings} {raw : Datum}

theorem nodup_rawFields (messages : List Datum) :
    (Fields.keys (file.rawFields messages)).Nodup := by
  have all : List.Nodup (["filePath", "errorCount", "warningCount", "messages"].map String.toList) := by
    decide
  exact all

theorem ofRaw_of_isRaw (form : IsRaw file raw) (sound : file.IsSound) :
    accepts raw = true ∧ ofRaw raw = file := by
  obtain @⟨messages, fields, forms, order⟩ := form
  have entry := get?_of_perm order (nodup_rawFields messages)
  have path : fields.get? "filePath" = some (.text file.path) := entry "filePath"
  have errors : fields.get? "errorCount" = some (.int file.errors) := entry "errorCount"
  have warnings : fields.get? "warningCount" = some (.int file.warnings) := entry "warningCount"
  have listed : fields.get? "messages" = some (.list messages) := entry "messages"
  obtain ⟨accepted, same⟩ := map_eq_of_forall₂ forms fun f member raw form =>
    Finding.ofRaw_of_isRaw form (sound.findings f member)
  have natural {n : Int} (natural : 0 ≤ n) : Entry.isNatural (some (.int n)) = true :=
    decide_eq_true natural
  constructor
  · simp only [accepts, acceptsFields, path, errors, warnings, listed, natural sound.errors,
      natural sound.warnings, Entry.isListOf, accepted]
    rfl
  · simp only [ofRaw, ofFields, path, errors, warnings, listed, Entry.items, same]
    rfl

theorem plain_of_isRaw (form : IsRaw file raw) (short : file.IsShort) : Json.Plain raw := by
  obtain @⟨messages, fields, forms, order⟩ := form
  refine plain_table order (nodup_rawFields messages) ?_
  intro field member
  simp only [rawFields, List.mem_cons, List.not_mem_nil, or_false] at member
  rcases member with rfl | rfl | rfl | rfl
  · exact .text _
  · exact .int short.errors
  · exact .int short.warnings
  · exact .list (forall_mem_of_forall₂ forms fun f member raw form =>
      Finding.plain_of_isRaw form (short.findings f member))

theorem isSound_ofRaw (accepted : accepts raw = true) : (ofRaw raw).IsSound := by
  have natural {entry : Entry} (read : (Entry.isUnset entry || Entry.isNatural entry) = true) :
      0 ≤ (Entry.int? entry).getD 0 := ((count_accepted entry).mpr read).2
  cases raw with
  | table fields =>
      simp only [accepts, acceptsFields, Bool.and_eq_true] at accepted
      obtain ⟨⟨⟨-, messages⟩, errors⟩, warnings⟩ := accepted
      refine ⟨natural errors, natural warnings, ?_⟩
      have each := List.all_eq_true.mp ((messages_accepted _).mpr messages).2
      intro f (member : f ∈ (Entry.items (Fields.get? fields "messages")).map Finding.ofRaw)
      obtain ⟨raw, given, rfl⟩ := List.mem_map.mp member
      exact Finding.isSound_ofRaw (each raw given)
  | _ => cases accepted

theorem isShort_ofRaw (writable : raw.isWritable = true) : (ofRaw raw).IsShort := by
  have short (fields : Fields) (writable : Datum.fieldsAreWritable fields = true) :
      (ofFields fields).IsShort := by
    refine ⟨isWritable_int? writable _ (by decide), isWritable_int? writable _ (by decide), ?_⟩
    intro f (member : f ∈ (Entry.items (fields.get? "messages")).map Finding.ofRaw)
    obtain ⟨raw, given, rfl⟩ := List.mem_map.mp member
    refine Finding.isShort_ofRaw ?_
    cases found : fields.get? "messages" with
    | none =>
        rw [found] at given
        cases given
    | some value =>
        rw [found] at given
        have held := Datum.isWritable_of_get? writable found
        cases value with
        | list items => exact Datum.isWritable_of_mem held given
        | _ => cases given
  cases raw with
  | table fields => exact short fields writable
  | _ => exact short [] rfl

variable {files : List FileFindings}

theorem exists_areRaw (files : List FileFindings) : ∃ raw, AreRaw files raw := by
  have message (f : Finding) : ∃ raw, f.IsRaw raw := by
    obtain ⟨rule, given⟩ : ∃ rule, Finding.RawRule f.rule rule := by
      cases f.rule with
      | none => exact ⟨[], .absent⟩
      | some name => exact ⟨_, .given name⟩
    exact ⟨_, .table given (List.Perm.refl _)⟩
  have file (file : FileFindings) : ∃ raw, file.IsRaw raw := by
    obtain ⟨messages, forms⟩ := exists_forall₂ message file.findings
    exact ⟨_, .table forms (List.Perm.refl _)⟩
  obtain ⟨items, forms⟩ := exists_forall₂ file files
  exact ⟨_, .list forms⟩

theorem plain_of_areRaw (form : AreRaw files raw) (short : ∀ file ∈ files, file.IsShort) :
    Json.Plain raw := by
  obtain ⟨forms⟩ := form
  exact .list (forall_mem_of_forall₂ forms fun file member raw form =>
    plain_of_isRaw form (short file member))

theorem listOfDatum_of_areRaw (form : AreRaw files raw) (sound : ∀ file ∈ files, file.IsSound) :
    listOfDatum raw = .ok files := by
  obtain @⟨items, forms⟩ := form
  obtain ⟨accepted, same⟩ := map_eq_of_forall₂ forms fun file member raw form =>
    ofRaw_of_isRaw form (sound file member)
  rw [listOfDatum_eq_ok]
  exact ⟨accepted, same.symm⟩

theorem exists_raw_of_mem {file : FileFindings} (read : listOfDatum raw = .ok files)
    (member : file ∈ files) :
    ∃ items given, raw = .list items ∧ given ∈ items ∧ accepts given = true ∧
      file = ofRaw given := by
  rw [listOfDatum_eq_ok] at read
  obtain ⟨accepted, rfl⟩ := read
  cases raw with
  | list items =>
      obtain ⟨given, present, rfl⟩ := List.mem_map.mp member
      exact ⟨items, given, rfl, present, List.all_eq_true.mp accepted given present, rfl⟩
  | _ => cases accepted

theorem isSound_of_listOfDatum (read : listOfDatum raw = .ok files) :
    ∀ file ∈ files, file.IsSound := by
  intro file member
  obtain ⟨items, given, rfl, present, accepted, rfl⟩ := exists_raw_of_mem read member
  exact isSound_ofRaw accepted

theorem isShort_of_listOfDatum (read : listOfDatum raw = .ok files)
    (writable : raw.isWritable = true) : ∀ file ∈ files, file.IsShort := by
  intro file member
  obtain ⟨items, given, rfl, present, accepted, rfl⟩ := exists_raw_of_mem read member
  exact isShort_ofRaw (Datum.isWritable_of_mem writable present)

end FileFindings

end LintFindings

import LintFindings.Proofs.Datum.Merged
import LintFindings.Proofs.Json.Written.Scalars

/-!
Reading back data that have been written. Reading stops where the written text stops, so the parts
of a list or a table are read back one after the other.
-/

namespace LintFindings.Json

/-- Data without floats, dates and times, of which no table gives a name twice. -/
inductive Plain : Datum → Prop
  | null : Plain .null
  | bool (value : Bool) : Plain (.bool value)
  | int {n : Int} : isWritable n = true → Plain (.int n)
  | text (t : Text) : Plain (.text t)
  | list {items : List Datum} : (∀ item ∈ items, Plain item) → Plain (.list items)
  | table {fields : Fields} : fields.keys.Nodup → (∀ field ∈ fields, Plain field.2) →
    Plain (.table fields)

/-- With enough fuel a datum is read back, whatever stands after it. -/
def ReadBack (half : Char) (ascii : Bool) (datum : Datum) : Prop :=
  ∀ fuel rest, 2 * (write ascii datum).length + 1 ≤ fuel → endsNumber rest = true →
    value half fuel (write ascii datum ++ rest) = .ok (datum, rest)

section Values

variable {half : Char} (ascii : Bool)

theorem exists_cons_write {datum : Datum} (plain : Plain datum) :
    ∃ c more, write ascii datum = c :: more ∧ isSpace c = false ∧ c ≠ ']' ∧ c ≠ '\ufeff' := by
  cases plain with
  | null => exact ⟨_, _, rfl, by decide⟩
  | bool value =>
      cases value
      · exact ⟨_, _, rfl, by decide⟩
      · exact ⟨_, _, rfl, by decide⟩
  | @int n _ =>
      cases n with
      | ofNat k =>
          obtain ⟨c, more, digits, apart⟩ := Text.exists_cons_ofNat k
          refine ⟨c, more, by rw [write, Text.ofInt, digits], ?_, Ne.symm (apart ']' rfl),
            Ne.symm (apart '\ufeff' rfl)⟩
          simp [isSpace, Ne.symm (apart ' ' rfl), Ne.symm (apart '\t' rfl), Ne.symm (apart '\n' rfl),
            Ne.symm (apart '\r' rfl)]
      | negSucc k => exact ⟨_, _, rfl, by decide⟩
  | text t => exact ⟨_, _, rfl, by decide⟩
  | list _ => exact ⟨_, _, by rw [write]; rfl, by decide⟩
  | table _ _ => exact ⟨_, _, by rw [write]; rfl, by decide⟩

theorem skipSpace_cons {c : Char} (ink : isSpace c = false) (rest : Text) :
    skipSpace (c :: rest) = c :: rest := by
  rw [skipSpace, List.dropWhile_cons_of_neg (by simp [ink])]

theorem skipSpace_write {datum : Datum} (plain : Plain datum) (rest : Text) :
    skipSpace (write ascii datum ++ rest) = write ascii datum ++ rest := by
  obtain ⟨c, more, written, ink, -⟩ := exists_cons_write ascii plain
  rw [written]
  exact skipSpace_cons ink _

theorem readBack_of_simple {datum : Datum} {c : Char} {more : Text}
    (written : write ascii datum = c :: more) (noQuote : c ≠ '"') (noBracket : c ≠ '[')
    (noBrace : c ≠ '\x7b')
    (found : ∀ rest, endsNumber rest = true → simple (write ascii datum ++ rest) = .ok (datum, rest)) :
    ReadBack half ascii datum := by
  intro fuel rest enough ended
  obtain ⟨fuel, rfl⟩ := Nat.exists_eq_succ_of_ne_zero (Nat.ne_zero_of_lt enough)
  rw [← found rest ended, written, List.cons_append, value_succ, ifStarts_ne noQuote,
    ifStarts_ne noBracket, ifStarts_ne noBrace]

theorem readBack_null : ReadBack half ascii .null :=
  readBack_of_simple ascii rfl (by decide) (by decide) (by decide) fun _ _ => simple_null

theorem readBack_bool (value : Bool) : ReadBack half ascii (.bool value) := by
  have found (rest : Text) (_ : endsNumber rest = true) :
      simple (write ascii (.bool value) ++ rest) = .ok (.bool value, rest) := simple_bool value
  cases value with
  | true => exact readBack_of_simple ascii rfl (by decide) (by decide) (by decide) found
  | false => exact readBack_of_simple ascii rfl (by decide) (by decide) (by decide) found

theorem readBack_int {n : Int} (short : isWritable n = true) : ReadBack half ascii (.int n) := by
  have found (rest : Text) (ended : endsNumber rest = true) :
      simple (write ascii (.int n) ++ rest) = .ok (.int n, rest) := simple_int ended short
  cases n with
  | ofNat k =>
      obtain ⟨c, more, digits, apart⟩ := Text.exists_cons_ofNat k
      exact readBack_of_simple ascii (by rw [write, Text.ofInt, digits]) (Ne.symm (apart '"' rfl))
        (Ne.symm (apart '[' rfl)) (Ne.symm (apart '\x7b' rfl)) found
  | negSucc k => exact readBack_of_simple ascii rfl (by decide) (by decide) (by decide) found

theorem writeChar_ne_nil (c : Char) : writeChar ascii c ≠ [] := by
  have coded : (codeUnits c).flatMap codeEscape ≠ [] := by
    unfold codeUnits
    dsimp only
    split <;> simp [codeEscape]
  unfold writeChar
  split_ifs <;> first | exact coded | exact List.cons_ne_nil _ _

theorem length_lt_writeString (t : Text) : t.length < (writeString ascii t).length := by
  have atLeast : t.length ≤ (t.flatMap (writeChar ascii)).length := by
    induction t with
    | nil => exact Nat.le_refl 0
    | cons c rest ih =>
        have one := List.length_pos_iff.mpr (writeChar_ne_nil ascii c)
        rw [List.flatMap_cons, List.length_append, List.length_cons]
        omega
  simp only [writeString, List.length_append, List.length_cons, List.length_nil]
  omega

variable (half) in
theorem string_written (t rest : Text) (fuel : Nat) (enough : (writeString ascii t).length ≤ fuel) :
    string half fuel (writeString ascii t ++ rest) = .ok (t, rest) := by
  have within := Nat.lt_of_lt_of_le (length_lt_writeString ascii t) enough
  have written := readString_written half (writeString ascii t ++ rest) ascii t rest within
  simpa [string, writeString] using written

theorem readBack_text (t : Text) : ReadBack half ascii (.text t) := by
  intro fuel rest enough _
  obtain ⟨fuel, rfl⟩ := Nat.exists_eq_succ_of_ne_zero (Nat.ne_zero_of_lt enough)
  rw [write] at enough ⊢
  have found := string_written half ascii t rest fuel (by omega)
  rw [value_succ, found]
  rfl

omit ascii in
theorem join_comma (part next : Text) (parts : List Text) :
    Text.join ", " (part :: next :: parts) = part ++ ',' :: ' ' :: Text.join ", " (next :: parts) := by
  simp [Text.join, List.intercalate]

theorem afterPart_comma (close c : Char) {β : Type} (noComma : close ≠ ',')
    (ink : isSpace c = false) (more : Text)
    (closed goesOn : Text → Except Refusal β) :
    afterPart close (skipSpace (',' :: ' ' :: c :: more)) closed goesOn = goesOn (c :: more) := by
  have skipped : skipSpace (' ' :: c :: more) = c :: more := skipSpace_cons ink more
  rw [skipSpace_cons rfl, afterPart, ifStarts_ne (Ne.symm noComma), ifStarts_self, skipped]

theorem exists_cons_writeItems {item : Datum} (items : List Datum) (plain : Plain item) :
    ∃ c more, Text.join ", " (writeItems ascii (item :: items)) = c :: more ∧
      isSpace c = false ∧ c ≠ ']' := by
  obtain ⟨c, more, written, ink, unclosed, -⟩ := exists_cons_write ascii plain
  cases items with
  | nil => exact ⟨c, more, by simpa [writeItems, Text.join] using written, ink, unclosed⟩
  | cons second others =>
      have whole : Text.join ", " (writeItems ascii (item :: second :: others)) =
          write ascii item ++ _ :=
        join_comma _ _ _
      rw [written, List.cons_append] at whole
      exact ⟨c, _, whole, ink, unclosed⟩

theorem items_written {items : List Datum} (some : items ≠ [])
    (each : ∀ item ∈ items, Plain item ∧ ReadBack half ascii item) (rest : Text) (fuel : Nat)
    (enough : 2 * (Text.join ", " (writeItems ascii items)).length + 2 ≤ fuel) :
    Json.items half fuel (Text.join ", " (writeItems ascii items) ++ ']' :: rest) =
      .ok (items, rest) := by
  induction items generalizing fuel with
  | nil => exact absurd rfl some
  | cons item others ih =>
      obtain ⟨fuel, rfl⟩ := Nat.exists_eq_succ_of_ne_zero (Nat.ne_zero_of_lt enough)
      obtain ⟨-, first⟩ := each item List.mem_cons_self
      have later : ∀ other ∈ others, Plain other ∧ ReadBack half ascii other :=
        fun other member => each other (List.mem_cons_of_mem item member)
      cases others with
      | nil =>
          have alone : Text.join ", " (writeItems ascii [item]) = write ascii item := by
            simp [writeItems, Text.join]
          rw [alone] at enough ⊢
          rw [items_succ, first fuel _ (by omega) rfl]
          rfl
      | cons second others =>
          have whole : Text.join ", " (writeItems ascii (item :: second :: others)) =
              write ascii item ++ ',' :: ' ' :: Text.join ", " (writeItems ascii (second :: others)) :=
            join_comma _ _ _
          rw [whole] at enough ⊢
          rw [List.length_append, List.length_cons, List.length_cons] at enough
          have read := ih (List.cons_ne_nil _ _) later fuel (by omega)
          obtain ⟨c, more, next, ink, -⟩ :=
            exists_cons_writeItems ascii others (later second List.mem_cons_self).1
          rw [next] at read enough ⊢
          rw [items_succ, List.append_assoc, first fuel _ (by omega) rfl]
          have goesOn := afterPart_comma ']' _ (by decide) ink (more ++ ']' :: rest)
            (fun rest => .ok ([item], rest))
            (fun rest => (Json.items half fuel rest).map (Prod.map (item :: ·) id))
          rw [← List.cons_append, read] at goesOn
          exact goesOn

theorem members_member {name : Text} {member : Datum} (plain : Plain member)
    (value : ReadBack half ascii member) {tail : Text} (ended : endsNumber tail = true) {fuel : Nat}
    (enough : 2 * (writeString ascii name ++ ": " ++ write ascii member).length + 2 ≤ fuel + 1) :
    Json.members half (fuel + 1) (writeString ascii name ++ ": " ++ write ascii member ++ tail) =
      afterPart '\x7d' (skipSpace tail) (fun rest => .ok ([(name, member)], rest))
        (fun rest => (Json.members half fuel rest).map (Prod.map ((name, member) :: ·) id)) := by
  have two : ": ".toList.length = 2 := rfl
  rw [List.length_append, List.length_append, two] at enough
  have named := string_written half ascii name (": " ++ (write ascii member ++ tail)) fuel
    (by omega)
  have spaces : skipSpace (' ' :: (write ascii member ++ tail)) = write ascii member ++ tail :=
    skipSpace_write ascii plain tail
  have colon : skipSpace (": " ++ (write ascii member ++ tail)) =
      ':' :: ' ' :: (write ascii member ++ tail) := skipSpace_cons rfl _
  rw [List.append_assoc, List.append_assoc, members_succ, named]
  simp only [writeString, List.cons_append, ifStarts_self, bind, Except.bind, colon, spaces,
    value fuel tail (by omega) ended]

theorem exists_cons_writeMembers (field : Text × Datum) (fields : Fields) :
    ∃ more, Text.join ", " (writeMembers ascii (field :: fields)) = '"' :: more := by
  obtain ⟨name, member⟩ := field
  cases fields with
  | nil => exact ⟨_, by simp [writeMembers, writeString, Text.join]; rfl⟩
  | cons second others =>
      have whole : Text.join ", " (writeMembers ascii ((name, member) :: second :: others)) =
          (writeString ascii name ++ ": " ++ write ascii member) ++ _ := join_comma _ _ _
      exact ⟨_, whole⟩

theorem members_written {fields : Fields} (some : fields ≠ [])
    (each : ∀ field ∈ fields, Plain field.2 ∧ ReadBack half ascii field.2) (rest : Text) (fuel : Nat)
    (enough : 2 * (Text.join ", " (writeMembers ascii fields)).length + 2 ≤ fuel) :
    Json.members half fuel (Text.join ", " (writeMembers ascii fields) ++ '\x7d' :: rest) =
      .ok (fields, rest) := by
  induction fields generalizing fuel with
  | nil => exact absurd rfl some
  | cons field others ih =>
      obtain ⟨name, member⟩ := field
      obtain ⟨fuel, rfl⟩ := Nat.exists_eq_succ_of_ne_zero (Nat.ne_zero_of_lt enough)
      obtain ⟨plain, first⟩ : Plain member ∧ ReadBack half ascii member :=
        each (name, member) List.mem_cons_self
      have later : ∀ other ∈ others, Plain other.2 ∧ ReadBack half ascii other.2 :=
        fun other mem => each other (List.mem_cons_of_mem _ mem)
      cases others with
      | nil =>
          have alone : Text.join ", " (writeMembers ascii [(name, member)]) =
              writeString ascii name ++ ": " ++ write ascii member := by
            simp [writeMembers, Text.join]
          rw [alone] at enough ⊢
          rw [members_member ascii plain first rfl enough]
          rfl
      | cons second others =>
          have whole : Text.join ", " (writeMembers ascii ((name, member) :: second :: others)) =
              (writeString ascii name ++ ": " ++ write ascii member) ++
                ',' :: ' ' :: Text.join ", " (writeMembers ascii (second :: others)) :=
            join_comma _ _ _
          rw [whole] at enough ⊢
          rw [List.length_append, List.length_cons, List.length_cons] at enough
          have read := ih (List.cons_ne_nil _ _) later fuel (by omega)
          obtain ⟨more, next⟩ := exists_cons_writeMembers ascii second others
          rw [next] at read enough ⊢
          rw [List.append_assoc, members_member ascii plain first rfl (by omega)]
          have goesOn := afterPart_comma '\x7d' '"' (by decide) rfl (more ++ '\x7d' :: rest)
            (fun rest => .ok ([(name, member)], rest))
            (fun rest => (Json.members half fuel rest).map (Prod.map ((name, member) :: ·) id))
          rw [← List.cons_append, read] at goesOn
          exact goesOn

theorem readBack_list {items : List Datum}
    (each : ∀ item ∈ items, Plain item ∧ ReadBack half ascii item) :
    ReadBack half ascii (.list items) := by
  intro fuel rest enough _
  obtain ⟨fuel, rfl⟩ := Nat.exists_eq_succ_of_ne_zero (Nat.ne_zero_of_lt enough)
  rw [write] at enough ⊢
  cases items with
  | nil => rfl
  | cons item items =>
      obtain ⟨c, more, written, ink, unclosed⟩ :=
        exists_cons_writeItems ascii items (each item List.mem_cons_self).1
      have read := items_written ascii (List.cons_ne_nil item items) each rest fuel
        (by simp only [List.length_append, List.length_cons] at enough; omega)
      rw [written] at read ⊢
      rw [value_succ]
      simp only [List.cons_append, List.append_assoc, List.nil_append] at read ⊢
      rw [ifStarts_ne (by decide), ifStarts_self, skipSpace_cons ink, ifStarts_ne unclosed, read]
      rfl

theorem readBack_table {fields : Fields} (distinct : fields.keys.Nodup)
    (each : ∀ field ∈ fields, Plain field.2 ∧ ReadBack half ascii field.2) :
    ReadBack half ascii (.table fields) := by
  intro fuel rest enough _
  obtain ⟨fuel, rfl⟩ := Nat.exists_eq_succ_of_ne_zero (Nat.ne_zero_of_lt enough)
  rw [write] at enough ⊢
  cases fields with
  | nil => rfl
  | cons field fields =>
      obtain ⟨more, written⟩ := exists_cons_writeMembers ascii field fields
      have read := members_written ascii (List.cons_ne_nil field fields) each rest fuel
        (by simp only [List.length_append, List.length_cons] at enough; omega)
      rw [written] at read ⊢
      rw [value_succ]
      simp only [List.cons_append, List.append_assoc, List.nil_append] at read ⊢
      rw [ifStarts_ne (by decide), ifStarts_ne (by decide), ifStarts_self, skipSpace_cons rfl,
        ifStarts_ne (by decide), read]
      simp only [Except.map, Prod.map, Function.comp, id, Fields.ofPairs_eq_self _ distinct]

theorem value_write {datum : Datum} (plain : Plain datum) : ReadBack half ascii datum := by
  induction plain with
  | null => exact readBack_null ascii
  | bool value => exact readBack_bool ascii value
  | int short => exact readBack_int ascii short
  | text t => exact readBack_text ascii t
  | list plain ih => exact readBack_list ascii fun item member => ⟨plain item member, ih item member⟩
  | table distinct plain ih =>
      exact readBack_table ascii distinct fun field member => ⟨plain field member, ih field member⟩

end Values

/-- What is written from such data is read as the same data, as no half of a pair is written. -/
theorem readWith_write (half : Char) (ascii : Bool) {datum : Datum} (plain : Plain datum) :
    readWith half (write ascii datum) = .ok datum := by
  obtain ⟨c, more, written, ink, -, unmarked⟩ := exists_cons_write ascii plain
  have found : value half _ _ = _ :=
    value_write ascii plain (2 * (write ascii datum).length + 1) [] (Nat.le_refl _) rfl
  have noMark : ∀ rest, write ascii datum ≠ '\ufeff' :: rest := by
    intro rest same
    exact unmarked (List.head_eq_of_cons_eq (written.symm.trans same))
  have spaces : skipSpace (write ascii datum) = write ascii datum := by
    rw [written, skipSpace_cons ink]
  rw [List.append_nil] at found
  rw [read_of_noMark half noMark, spaces, found]
  rfl

theorem read_write (ascii : Bool) {datum : Datum} (plain : Plain datum) :
    read (write ascii datum) = .ok datum := readWith_write standIn ascii plain

end LintFindings.Json

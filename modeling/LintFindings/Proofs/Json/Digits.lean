import LintFindings.Datum.Shown
import LintFindings.Json.Reader
import LintFindings.Proofs.Steps
import LintFindings.Proofs.Text.Decimal
import Mathlib.Data.List.TakeDrop
import Mathlib.Data.List.TakeWhile

/-!
How long the integers of a JSON text are. Those that are read may also be written, and only a text
with more digits in a row than an integer may have is refused for it.
-/

namespace LintFindings

theorem isWritable_iff (value : Int) :
    isWritable value = true ↔ value.natAbs < Nat.pow 10 digitLimit := by
  rw [isWritable, decide_eq_true_iff]

theorem isWritable_of_digits {digits : Text} (number : ∀ c ∈ digits, Text.isDigit c = true)
    (few : digits.length ≤ digitLimit) (negative : Bool) :
    isWritable (if negative then -(Text.toNat digits : Int) else Text.toNat digits) = true := by
  have size : (if negative then -(Text.toNat digits : Int) else Text.toNat digits).natAbs =
      Text.toNat digits := by cases negative <;> simp
  have grows : Nat.pow 10 digits.length ≤ Nat.pow 10 digitLimit := by
    -- The bound itself is too large to be worked out.
    generalize digitLimit = limit at few ⊢
    exact Nat.pow_le_pow_right (by decide) few
  rw [isWritable_iff, size]
  exact Nat.lt_of_lt_of_le (Text.toNat_lt number) grows

namespace Datum

theorem fieldsAreWritable_put {fields : Fields} {value : Datum} (key : Text)
    (kept : fieldsAreWritable fields = true) (fresh : value.isWritable = true) :
    fieldsAreWritable (fields.put key value) = true := by
  induction fields with
  | nil => simp [Fields.put, fieldsAreWritable, fresh]
  | cons field rest ih =>
      obtain ⟨k, v⟩ := field
      rw [fieldsAreWritable, Bool.and_eq_true] at kept
      unfold Fields.put
      split
      next => simp [fieldsAreWritable, fresh, kept.2]
      next => simp [fieldsAreWritable, kept.1, ih kept.2]

theorem fieldsAreWritable_merge {older newer : Fields} (kept : fieldsAreWritable older = true)
    (fresh : fieldsAreWritable newer = true) : fieldsAreWritable (older.merge newer) = true := by
  induction newer generalizing older with
  | nil => exact kept
  | cons field rest ih =>
      obtain ⟨k, v⟩ := field
      rw [fieldsAreWritable, Bool.and_eq_true] at fresh
      exact ih (fieldsAreWritable_put k kept fresh.1) fresh.2

end Datum

namespace Json

/-- More digits in a row than an integer may have. -/
def HasLongNumber (t : Text) : Prop :=
  ∃ digits, digits <:+: t ∧ (∀ c ∈ digits, Text.isDigit c = true) ∧ digitLimit < digits.length

theorem HasLongNumber.mono {t whole : Text} (long : HasLongNumber t) (part : t <:+ whole) :
    HasLongNumber whole := by
  obtain ⟨digits, inside, number, many⟩ := long
  exact ⟨digits, inside.trans part.isInfix, number, many⟩

/-- What reading from a text comes to: a result of some kind and an end of the text, or a refusal. -/
inductive Reads {α : Type} (kept : α → Prop) (t : Text) : Except Refusal (α × Text) → Prop
  | found {result : α} {rest : Text} : kept result → rest <:+ t → Reads kept t (.ok (result, rest))
  | malformed {fault : Fault} {rest : Text} : Reads kept t (.error (.malformed fault rest))
  | digitLimit : HasLongNumber t → Reads kept t (.error .digitLimit)

section Reads

variable {α β : Type} {kept : α → Prop} {kept' : β → Prop} {t whole : Text}

theorem Reads.mono {result : Except Refusal (α × Text)} (reads : Reads kept t result)
    (part : t <:+ whole) : Reads kept whole result := by
  cases reads with
  | found keeps ends => exact .found keeps (ends.trans part)
  | malformed => exact .malformed
  | digitLimit long => exact .digitLimit (long.mono part)

theorem Reads.bind {first : Except Refusal (α × Text)} {next : α × Text → Except Refusal (β × Text)}
    (reads : Reads kept t first)
    (goesOn : ∀ result rest, kept result → Reads kept' rest (next (result, rest))) :
    Reads kept' t (first >>= next) := by
  cases reads with
  | found keeps ends => exact (goesOn _ _ keeps).mono ends
  | malformed => exact .malformed
  | digitLimit long => exact .digitLimit long

theorem skipSpace_suffix (t : Text) : skipSpace t <:+ t := List.dropWhile_suffix isSpace

theorem suffix_of_skipSpace {c : Char} {rest : Text} (next : skipSpace t = c :: rest) : rest <:+ t :=
  (List.suffix_cons c rest).trans (next ▸ skipSpace_suffix t)

end Reads

section Strings

theorem readCode_reads (half : Char) (digits : Text) :
    Reads (fun _ => True) digits (readCode half digits) := by
  unfold readCode
  split
  next a b c d next rest =>
    have single : next :: rest <:+ a :: b :: c :: d :: next :: rest :=
      List.suffix_append [a, b, c, d] (next :: rest)
    split
    next => exact .malformed
    next high =>
      split
      next e f g h last rest' =>
        have pair : last :: rest' <:+
            a :: b :: c :: d :: '\\' :: 'u' :: e :: f :: g :: h :: last :: rest' :=
          List.suffix_append [a, b, c, d, '\\', 'u', e, f, g, h] (last :: rest')
        split
        next =>
          split
          next => exact .malformed
          next low =>
            split
            next => exact .found trivial pair
            next => exact .found trivial single
        next => exact .found trivial single
      next => exact .found trivial single
  next => exact .malformed

theorem readString_reads (half : Char) (whole : Text) (fuel : Nat) (t : Text) :
    Reads (fun _ => True) t (readString half whole fuel t) := by
  induction fuel generalizing t with
  | zero => exact .malformed
  | succ fuel ih =>
      -- A character is put before what is read from the rest.
      have goesOn (char : Char) (rest : Text) : Reads (fun _ => True) rest
          (readString half whole fuel rest >>= fun part => pure (char :: part.1, part.2)) :=
        (ih rest).bind fun chars rest _ => .found trivial (List.suffix_refl rest)
      cases t with
      | nil => exact .malformed
      | cons c rest =>
          unfold readString
          split
          next => exact .found trivial (List.suffix_cons c rest)
          next =>
            split
            next =>
              split
              next => exact .malformed
              next digits =>
                refine (((readCode_reads half digits).bind fun char rest _ => goesOn char rest).mono ?_)
                exact List.suffix_append [c, 'u'] digits
              next letter rest _ =>
                split
                next => exact .malformed
                next char found => exact (goesOn char rest).mono (List.suffix_append [c, letter] rest)
            next =>
              split
              next => exact .malformed
              next => exact (goesOn c rest).mono (List.suffix_cons c rest)

theorem string_reads (half : Char) (fuel : Nat) (whole : Text) :
    Reads (fun _ => True) whole (string half fuel whole) :=
  (readString_reads half whole fuel _).mono (List.drop_suffix 1 whole)

end Strings

section Numbers

theorem wholeDigits_eq {t digits rest : Text} (split : wholeDigits t = (digits, rest)) :
    t = digits ++ rest ∧ ∀ c ∈ digits, Text.isDigit c = true := by
  unfold wholeDigits at split
  split at split
  next zeros =>
    cases split
    have digit : Text.isDigit '0' = true := by decide
    exact ⟨rfl, List.forall_mem_singleton.mpr digit⟩
  next =>
    rw [List.span_eq_takeWhile_dropWhile] at split
    cases split
    exact ⟨List.takeWhile_append_dropWhile.symm, fun c member => List.mem_takeWhile_imp member⟩

theorem fractionDigits_suffix {t fraction rest : Text}
    (split : fractionDigits t = (fraction, rest)) : rest <:+ t := by
  unfold fractionDigits at split
  split at split
  next after =>
    rw [List.span_eq_takeWhile_dropWhile] at split
    split at split
    next => cases split; exact List.suffix_refl _
    next =>
      cases split
      exact (List.dropWhile_suffix _).trans (List.suffix_cons '.' after)
  next => cases split; exact List.suffix_refl t

theorem signOf_suffix (t : Text) : (signOf t).2 <:+ t := by
  unfold signOf
  split
  next rest => exact List.suffix_cons '-' rest
  next rest => exact List.suffix_cons '+' rest
  next => exact List.suffix_refl t

theorem exponent?_suffix {t rest : Text} {exponent : Int} (found : exponent? t = some (exponent, rest)) :
    rest <:+ t := by
  unfold exponent? at found
  split at found
  next c after =>
    have unsigned := signOf_suffix after
    split at found
    next =>
      dsimp only at found
      rw [List.span_eq_takeWhile_dropWhile] at found
      split at found
      next => cases found
      next digits left _ same =>
        cases found
        obtain ⟨-, rfl⟩ := Prod.mk.inj same
        exact (List.dropWhile_suffix _).trans (unsigned.trans (List.suffix_cons c after))
    next => cases found
  next => cases found

theorem number_reads (whole : Text) :
    Reads (fun datum => datum.isWritable = true) whole (number whole) := by
  unfold number
  split
  next negative unsigned sign =>
    have ends : unsigned <:+ whole := by
      split at sign
      next =>
        cases sign
        exact List.suffix_cons '-' unsigned
      next =>
        cases sign
        exact List.suffix_refl whole
    split
    next digits afterDigits found =>
      obtain ⟨rfl, number⟩ := wholeDigits_eq found
      have inside : digits <:+: digits ++ afterDigits := (List.prefix_append digits afterDigits).isInfix
      split
      next => exact .malformed
      next =>
        split
        next fraction afterFraction decimals =>
          have left : afterDigits <:+ whole := (List.suffix_append digits afterDigits).trans ends
          have shorter : afterFraction <:+ whole := (fractionDigits_suffix decimals).trans left
          dsimp only
          split
          next exponent rest powers => exact .found rfl ((exponent?_suffix powers).trans shorter)
          next =>
            split
            next => exact .found rfl shorter
            next =>
              split
              next many => exact .digitLimit ⟨digits, inside.trans ends.isInfix, number, many⟩
              next few =>
                exact .found (isWritable_of_digits number (Nat.le_of_not_lt few) negative) shorter

theorem word?_reads {t rest : Text} {datum : Datum} (found : word? t = some (datum, rest)) :
    datum.isWritable = true ∧ rest <:+ t := by
  have writable : ∀ row ∈ words, row.2.isWritable = true := by decide
  obtain ⟨row, listed, found⟩ := List.exists_of_findSome?_eq_some found
  dsimp only at found
  split at found
  next =>
    cases found
    exact ⟨writable row listed, List.drop_suffix _ t⟩
  next => cases found

end Numbers

structure AllRead (half : Char) (fuel : Nat) : Prop where
  value (t : Text) : Reads (fun datum => datum.isWritable = true) t (Json.value half fuel t)
  items (t : Text) : Reads (fun data => Datum.areWritable data = true) t (Json.items half fuel t)
  members (t : Text) :
    Reads (fun fields => Datum.fieldsAreWritable fields = true) t (Json.members half fuel t)

namespace AllRead

variable {half : Char} {fuel : Nat} (shorter : AllRead half fuel)

include shorter

theorem value_succ (t : Text) :
    Reads (fun datum => datum.isWritable = true) t (Json.value half (fuel + 1) t) := by
  unfold Json.value
  split
  next rest =>
    exact (string_reads half fuel _).bind fun chars rest _ => .found rfl (List.suffix_refl rest)
  next rest =>
    split
    next after empty =>
      exact .found rfl ((suffix_of_skipSpace empty).trans (List.suffix_cons '[' rest))
    next =>
      refine Reads.mono ?_ ((skipSpace_suffix rest).trans (List.suffix_cons '[' rest))
      exact (shorter.items _).bind fun data after writable => .found writable (List.suffix_refl after)
  next rest =>
    split
    next after empty =>
      exact .found rfl ((suffix_of_skipSpace empty).trans (List.suffix_cons '\x7b' rest))
    next =>
      refine Reads.mono ?_ ((skipSpace_suffix rest).trans (List.suffix_cons '\x7b' rest))
      refine (shorter.members _).bind fun fields after writable => ?_
      exact .found (Datum.fieldsAreWritable_merge rfl writable) (List.suffix_refl after)
  next =>
    split
    next found word =>
      obtain ⟨writable, ends⟩ := word?_reads word
      exact .found writable ends
    next => exact number_reads t

theorem items_succ (t : Text) :
    Reads (fun data => Datum.areWritable data = true) t (Json.items half (fuel + 1) t) := by
  unfold Json.items
  refine (shorter.value t).bind fun item rest writable => ?_
  dsimp only
  split
  next after close =>
    exact .found (by simp [Datum.areWritable, writable]) (suffix_of_skipSpace close)
  next after comma =>
    refine Reads.mono ?_ ((skipSpace_suffix after).trans (suffix_of_skipSpace comma))
    refine (shorter.items _).bind fun others left writables => ?_
    exact .found (by simp [Datum.areWritable, writable, writables]) (List.suffix_refl left)
  next => exact .malformed

theorem members_succ (t : Text) :
    Reads (fun fields => Datum.fieldsAreWritable fields = true) t (Json.members half (fuel + 1) t) := by
  unfold Json.members
  split
  next =>
    refine (string_reads half fuel _).bind fun name rest _ => ?_
    dsimp only
    split
    next afterColon colon =>
      refine Reads.mono ?_ ((skipSpace_suffix afterColon).trans (suffix_of_skipSpace colon))
      refine (shorter.value _).bind fun member rest writable => ?_
      dsimp only
      split
      next after close =>
        exact .found (by simp [Datum.fieldsAreWritable, writable]) (suffix_of_skipSpace close)
      next after comma =>
        refine Reads.mono ?_ ((skipSpace_suffix after).trans (suffix_of_skipSpace comma))
        refine (shorter.members _).bind fun others left writables => ?_
        exact .found (by simp [Datum.fieldsAreWritable, writable, writables]) (List.suffix_refl left)
      next => exact .malformed
    next => exact .malformed
  next => exact .malformed

end AllRead

theorem allRead (half : Char) (fuel : Nat) : AllRead half fuel := by
  induction fuel with
  | zero =>
      constructor
      · intro t
        exact .malformed
      · intro t
        exact .malformed
      · intro t
        exact .malformed
  | succ fuel ih =>
      constructor
      · exact ih.value_succ
      · exact ih.items_succ
      · exact ih.members_succ

theorem read_reads (t : Text) :
    Reads (fun datum => datum.isWritable = true) t ((read t).map fun datum => (datum, [])) := by
  unfold read readWith
  split
  next => exact .malformed
  next =>
    have reads := (allRead standIn (2 * (skipSpace t).length + 1)).value (skipSpace t)
    dsimp only
    generalize value standIn (2 * (skipSpace t).length + 1) (skipSpace t) = first at reads ⊢
    cases reads with
    | found writable ends =>
        dsimp only [bind, Except.bind]
        split
        next => exact .found writable List.nil_suffix
        next => exact .malformed
    | malformed => exact .malformed
    | digitLimit long => exact .digitLimit (long.mono (skipSpace_suffix t))

theorem read_isWritable {t : Text} {datum : Datum} (found : read t = .ok datum) :
    datum.isWritable = true := by
  have reads := read_reads t
  rw [found, Except.map] at reads
  cases reads with
  | found writable => exact writable

theorem hasLongNumber_of_read {t : Text} (refused : read t = .error .digitLimit) :
    HasLongNumber t := by
  have reads := read_reads t
  rw [refused, Except.map] at reads
  cases reads with
  | digitLimit long => exact long

section TooLong

variable {t : Text} (tooLong : t.IsTooLong)

include tooLong

theorem wholeDigits_of_tooLong : wholeDigits t = (t, []) := by
  have digits := tooLong.digits
  obtain ⟨c, rest, rfl, lead, apart⟩ := tooLong.exists_cons
  simpa [wholeDigits, lead] using digits

theorem number_of_tooLong : number t = .error .digitLimit := by
  have whole := wholeDigits_of_tooLong tooLong
  have long := tooLong.long
  obtain ⟨c, rest, rfl, lead, apart⟩ := tooLong.exists_cons
  simpa [number, apart '-' rfl, whole, fractionDigits, exponent?] using long

theorem word?_of_tooLong : word? t = none := by
  have letters : ∀ row ∈ words, row.1.toList.all Text.isDigit = false := by decide
  rw [word?, List.findSome?_eq_none_iff]
  intro row listed
  refine if_neg fun starts => ?_
  have digits : row.1.toList.all Text.isDigit = true := by
    rw [List.all_eq_true]
    intro c member
    exact tooLong.digits c ((List.isPrefixOf_iff_prefix.mp starts).subset member)
  rw [letters row listed] at digits
  cases digits

theorem value_of_tooLong (half : Char) (fuel : Nat) : value half (fuel + 1) t = .error .digitLimit := by
  have number := number_of_tooLong tooLong
  have word := word?_of_tooLong tooLong
  obtain ⟨c, rest, rfl, lead, apart⟩ := tooLong.exists_cons
  simp [value, apart '"' rfl, apart '[' rfl, apart '\x7b' rfl, word, number]

theorem read_of_tooLong : read t = .error .digitLimit := by
  have number := value_of_tooLong tooLong standIn
  obtain ⟨c, rest, rfl, lead, apart⟩ := tooLong.exists_cons
  have noSpace : skipSpace (c :: rest) = c :: rest := by
    simp [skipSpace, isSpace, apart ' ' rfl, apart '\t' rfl, apart '\n' rfl, apart '\r' rfl]
  simp [read, readWith, apart '\ufeff' rfl, noSpace, number, bind, Except.bind]

end TooLong

end Json

end LintFindings

import LintFindings.Proofs.Text.Utf8
import Mathlib.Data.List.Basic
import Mathlib.Data.Option.Basic

/-!
Bytes that are no UTF-8. Reading stops behind the longest part in front that is valid, which is where
the first ill-formed sequence starts, whatever that sequence is and whatever comes after it.
-/

namespace LintFindings.Utf8

/-- The bytes are those of some text. -/
def IsValid (bytes : Bytes) : Prop := bytes.toByteArray.IsValidUTF8

structure IsLongestValid (bytes : Bytes) (length : Nat) : Prop where
  within : length ≤ bytes.length
  valid : IsValid (bytes.take length)
  longest : ∀ n ≤ bytes.length, IsValid (bytes.take n) → n ≤ length

theorem IsLongestValid.eq {bytes : Bytes} {m n : Nat} (first : IsLongestValid bytes m)
    (second : IsLongestValid bytes n) : m = n :=
  Nat.le_antisymm (second.longest m first.within first.valid)
    (first.longest n second.within second.valid)

section Encoded

theorem encodeChar_eq (c : Char) : encodeChar c = String.utf8EncodeChar c := by
  have valid := toNat_lt c
  have number : c.val.toNat = c.toNat := rfl
  simp only [encodeChar, String.utf8EncodeChar, number, Nat.lt_iff_le_pred (Nat.succ_pos _),
    Nat.add_comm]
  split
  next => rfl
  next =>
    split
    next small => rw [Nat.mod_eq_of_lt (a := c.toNat / 64) (by omega)]
    next =>
      split
      next small => rw [Nat.mod_eq_of_lt (a := c.toNat / 4096) (by omega)]
      next => rw [Nat.mod_eq_of_lt (a := c.toNat / 262144) (by omega)]

theorem isValid_iff (bytes : Bytes) : IsValid bytes ↔ ∃ t, encode t = bytes := by
  have same (t : Text) : encode t = t.flatMap String.utf8EncodeChar :=
    List.flatMap_congr fun c _ => encodeChar_eq c
  constructor
  · rintro ⟨t, made⟩
    refine ⟨t, ?_⟩
    rw [same, ← List.toList_data_toByteArray (l := bytes), made]
    exact List.toList_data_toByteArray.symm
  · rintro ⟨t, rfl⟩
    exact ⟨t, by rw [same]; rfl⟩

theorem isValid_encode (t : Text) : IsValid (encode t) := (isValid_iff _).mpr ⟨t, rfl⟩

theorem ofNat_eq {a : UInt8} {n : Nat} (same : n = a.toNat) : UInt8.ofNat n = a := by
  rw [same, UInt8.ofNat_toNat]

theorem toNat_ofNat_of_valid {n : Nat} (valid : n < 0xd800 ∨ 0xe000 ≤ n ∧ n < 0x110000) :
    (Char.ofNat n).toNat = n := by
  have valid : n.isValidChar := valid
  rw [Char.ofNat, dif_pos valid]
  rfl

theorem tail?_eq_some {a : UInt8} {n : Nat} (read : tail? a = some n) :
    n < 64 ∧ a.toNat = 0x80 + n := by
  unfold tail? at read
  split at read
  next inRange =>
    have value := Option.some.inj read
    omega
  next => cases read

theorem encodeChar_of_one {a : UInt8} (small : a.toNat < 0x80) :
    encodeChar (Char.ofNat a.toNat) = [a] := by
  have number := toNat_ofNat_of_valid (n := a.toNat) (by omega)
  simp only [encodeChar, number, small, if_true, UInt8.ofNat_toNat]

theorem encodeChar_of_two {a b : UInt8} {c : Char} (read : two? a b = some c) :
    encodeChar c = [a, b] := by
  obtain ⟨_, lead, read⟩ := Option.bind_eq_some_iff.mp read
  obtain ⟨low, second, read⟩ := Option.bind_eq_some_iff.mp read
  have lead := (Option.guard_eq_some' _).mp lead
  have second := tail?_eq_some second
  generalize known : (a.toNat - 0xc0) * 64 + low = n at read
  have number := toNat_ofNat_of_valid (n := n) (by omega)
  have size : ¬ n < 0x80 ∧ n < 0x800 := by omega
  rw [← Option.some.inj read]
  simp only [encodeChar, number, size, if_true, if_false]
  rw [ofNat_eq (a := a) (by omega), ofNat_eq (a := b) (by omega)]

theorem encodeChar_of_three {a b c : UInt8} {char : Char} (read : three? a b c = some char) :
    encodeChar char = [a, b, c] := by
  obtain ⟨_, lead, read⟩ := Option.bind_eq_some_iff.mp read
  obtain ⟨middle, second, read⟩ := Option.bind_eq_some_iff.mp read
  obtain ⟨low, third, read⟩ := Option.bind_eq_some_iff.mp read
  obtain ⟨_, size, read⟩ := Option.bind_eq_some_iff.mp read
  have lead := (Option.guard_eq_some' _).mp lead
  have size := (Option.guard_eq_some' _).mp size
  have second := tail?_eq_some second
  have third := tail?_eq_some third
  generalize known : (a.toNat - 0xe0) * 4096 + middle * 64 + low = n at size read
  have number := toNat_ofNat_of_valid (n := n) (by omega)
  have size : ¬ n < 0x80 ∧ ¬ n < 0x800 ∧ n < 0x10000 := by omega
  rw [← Option.some.inj read]
  simp only [encodeChar, number, size, if_true, if_false]
  rw [ofNat_eq (a := a) (by omega), ofNat_eq (a := b) (by omega), ofNat_eq (a := c) (by omega)]

theorem encodeChar_of_four {a b c d : UInt8} {char : Char} (read : four? a b c d = some char) :
    encodeChar char = [a, b, c, d] := by
  obtain ⟨_, lead, read⟩ := Option.bind_eq_some_iff.mp read
  obtain ⟨high, second, read⟩ := Option.bind_eq_some_iff.mp read
  obtain ⟨middle, third, read⟩ := Option.bind_eq_some_iff.mp read
  obtain ⟨low, fourth, read⟩ := Option.bind_eq_some_iff.mp read
  obtain ⟨_, size, read⟩ := Option.bind_eq_some_iff.mp read
  have lead := (Option.guard_eq_some' _).mp lead
  have size := (Option.guard_eq_some' _).mp size
  have second := tail?_eq_some second
  have third := tail?_eq_some third
  have fourth := tail?_eq_some fourth
  generalize known : (a.toNat - 0xf0) * 262144 + high * 4096 + middle * 64 + low = n at size read
  have number := toNat_ofNat_of_valid (n := n) (by omega)
  have size : ¬ n < 0x80 ∧ ¬ n < 0x800 ∧ ¬ n < 0x10000 := by omega
  rw [← Option.some.inj read]
  simp only [encodeChar, number, size, if_false]
  rw [ofNat_eq (a := a) (by omega), ofNat_eq (a := b) (by omega), ofNat_eq (a := c) (by omega),
    ofNat_eq (a := d) (by omega)]

end Encoded

section Decoded

def StartsNoChar (bytes : Bytes) : Prop := ∀ c others, bytes ≠ encodeChar c ++ others

theorem StartsNoChar.eq_none {front others : Bytes} {read? : Option Char}
    (made : ∀ c, read? = some c → encodeChar c = front) (noChar : StartsNoChar (front ++ others)) :
    read? = none := by
  rw [Option.eq_none_iff_forall_ne_some]
  intro c read
  exact noChar c others (by rw [made c read])

theorem decodeFrom_startsNoChar (start : Nat) {bytes : Bytes} (noChar : StartsNoChar bytes)
    (nonempty : bytes ≠ []) : decodeFrom start bytes = .error start := by
  cases bytes with
  | nil => exact absurd rfl nonempty
  | cons a rest =>
      have one : ¬ a.toNat < 0x80 := fun small => noChar _ rest (by rw [encodeChar_of_one small]; rfl)
      rw [decodeFrom.eq_def]
      simp only [one, if_false]
      cases rest with
      | nil => rfl
      | cons b rest =>
          have two : two? a b = none :=
            StartsNoChar.eq_none (fun _ => encodeChar_of_two) noChar
          simp only [two]
          cases rest with
          | nil => rfl
          | cons c rest =>
              have three : three? a b c = none :=
                StartsNoChar.eq_none (fun _ => encodeChar_of_three) noChar
              simp only [three]
              cases rest with
              | nil => rfl
              | cons d rest =>
                  have four : four? a b c d = none :=
                    StartsNoChar.eq_none (fun _ => encodeChar_of_four) noChar
                  simp only [four]

/-- Bytes are those of a text and then of something that starts with no character. -/
theorem exists_encode_append (bytes : Bytes) :
    ∃ t rest, bytes = encode t ++ rest ∧ StartsNoChar rest := by
  induction size : bytes.length using Nat.strongRecOn generalizing bytes with
  | ind n ih =>
      by_cases noChar : StartsNoChar bytes
      · exact ⟨[], bytes, rfl, noChar⟩
      · simp only [StartsNoChar, not_forall, not_not] at noChar
        obtain ⟨c, others, rfl⟩ := noChar
        have shorter : others.length < n := by
          have nonempty := c.utf8Size_pos
          rw [List.length_append, encodeChar_eq, String.length_utf8EncodeChar] at size
          omega
        obtain ⟨t, rest, rfl, noChar⟩ := ih _ shorter others rfl
        refine ⟨c :: t, rest, ?_, noChar⟩
        rw [← List.append_assoc]
        rfl

theorem decodeFrom_encode_append (start : Nat) (t : Text) (rest : Bytes) :
    decodeFrom start (encode t ++ rest) =
      (decodeFrom (start + (encode t).length) rest).map (t ++ ·) := by
  induction t generalizing start with
  | nil => cases found : decodeFrom start rest <;> simp [encode, found, Except.map]
  | cons c t ih =>
      have split : encode (c :: t) = encodeChar c ++ encode t := List.flatMap_cons
      rw [split, List.append_assoc, decodeFrom_encodeChar_append, ih, List.length_append,
        Nat.add_assoc]
      cases decodeFrom (start + ((encodeChar c).length + (encode t).length)) rest <;> rfl

theorem decodeFrom_eq_error {start offset : Nat} {bytes : Bytes}
    (refused : decodeFrom start bytes = .error offset) :
    ∃ t rest, bytes = encode t ++ rest ∧ StartsNoChar rest ∧ rest ≠ [] ∧
      offset = start + (encode t).length := by
  obtain ⟨t, rest, rfl, noChar⟩ := exists_encode_append bytes
  rw [decodeFrom_encode_append] at refused
  rcases eq_or_ne rest [] with rfl | nonempty
  · cases refused
  · rw [decodeFrom_startsNoChar _ noChar nonempty] at refused
    exact ⟨t, rest, rfl, noChar, nonempty, (Except.error.inj refused).symm⟩

theorem isLongestValid_encode {t : Text} {rest : Bytes} (noChar : StartsNoChar rest) :
    IsLongestValid (encode t ++ rest) (encode t).length where
  within := by
    rw [List.length_append]
    omega
  valid := by
    rw [List.take_left]
    exact isValid_encode t
  longest := by
    intro n within valid
    obtain ⟨u, front⟩ := (isValid_iff _).mp valid
    have size : (encode u).length = n := by rw [front, List.length_take_of_le within]
    rcases eq_or_ne rest [] with rfl | nonempty
    · simpa using within
    · -- Reading gets past every valid part in front, and is refused behind that of the text.
      have refused : decodeFrom 0 (encode t ++ rest) = .error (0 + (encode t).length) := by
        rw [decodeFrom_encode_append, decodeFrom_startsNoChar _ noChar nonempty]
        rfl
      have whole : encode t ++ rest = encode u ++ (encode t ++ rest).drop n := by
        rw [front, List.take_append_drop]
      rw [whole, decodeFrom_encode_append] at refused
      cases behind : decodeFrom (0 + (encode u).length) ((encode t ++ rest).drop n) with
      | ok found =>
          rw [behind] at refused
          cases refused
      | error offset =>
          rw [behind] at refused
          obtain ⟨_, _, -, -, -, later⟩ := decodeFrom_eq_error behind
          have same : offset = 0 + (encode t).length := Except.error.inj refused
          omega

theorem isValid_of_decode {bytes : Bytes} {t : Text} (read : decode bytes = .ok t) :
    IsValid bytes := by
  obtain ⟨u, rest, rfl, noChar⟩ := exists_encode_append bytes
  rcases eq_or_ne rest [] with rfl | nonempty
  · rw [List.append_nil]
    exact isValid_encode u
  · rw [decode, decodeFrom_encode_append, decodeFrom_startsNoChar _ noChar nonempty] at read
    cases read

theorem decode_eq_error_iff (bytes : Bytes) (offset : Nat) :
    decode bytes = .error offset ↔ ¬ IsValid bytes ∧ IsLongestValid bytes offset := by
  constructor
  · intro refused
    constructor
    · intro valid
      obtain ⟨t, rfl⟩ := (isValid_iff bytes).mp valid
      cases (decode_encode t).symm.trans refused
    · obtain ⟨t, rest, rfl, noChar, -, rfl⟩ := decodeFrom_eq_error refused
      rw [Nat.zero_add]
      exact isLongestValid_encode noChar
  · rintro ⟨invalid, longest⟩
    cases read : decode bytes with
    | ok t => exact absurd (isValid_of_decode read) invalid
    | error other =>
        obtain ⟨t, rest, rfl, noChar, -, rfl⟩ := decodeFrom_eq_error read
        rw [Nat.zero_add, (isLongestValid_encode noChar).eq longest]

end Decoded

end LintFindings.Utf8

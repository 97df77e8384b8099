import LintFindings.Text.Utf8

/-! Every text is read back from its bytes. -/

namespace LintFindings.Utf8

theorem toNat_ofNat_of_lt {n : Nat} (small : n < 256) : (UInt8.ofNat n).toNat = n :=
  UInt8.toNat_ofNat_of_lt' small

theorem toNat_lt (c : Char) : c.toNat < 0xd800 ∨ 0xe000 ≤ c.toNat ∧ c.toNat < 0x110000 := by
  rcases c.valid with low | ⟨high, last⟩
  · exact .inl low
  · exact .inr ⟨high, last⟩

theorem tail?_ofNat {n : Nat} (small : n < 64) : tail? (UInt8.ofNat (0x80 + n)) = some n := by
  have byte : (UInt8.ofNat (0x80 + n)).toNat = 0x80 + n := toNat_ofNat_of_lt (by omega)
  have inRange : 0x80 ≤ 0x80 + n ∧ 0x80 + n < 0xc0 := by omega
  rw [tail?, byte, if_pos inRange, Nat.add_sub_cancel_left]

theorem two?_eq_none {a : UInt8} (b : UInt8) (large : 0xe0 ≤ a.toNat) : two? a b = none := by
  have refused : (guard (0xc2 ≤ a.toNat ∧ a.toNat < 0xe0) : Option Unit) = none :=
    if_neg (by omega)
  rw [two?, refused]
  rfl

theorem three?_eq_none {a : UInt8} (b c : UInt8) (large : 0xf0 ≤ a.toNat) : three? a b c = none := by
  have refused : (guard (0xe0 ≤ a.toNat ∧ a.toNat < 0xf0) : Option Unit) = none :=
    if_neg (by omega)
  rw [three?, refused]
  rfl

theorem two?_encoded {c : Char} (least : 0x80 ≤ c.toNat) (small : c.toNat < 0x800) :
    two? (UInt8.ofNat (0xc0 + c.toNat / 64)) (UInt8.ofNat (0x80 + c.toNat % 64)) = some c := by
  have lead : (UInt8.ofNat (0xc0 + c.toNat / 64)).toNat = 0xc0 + c.toNat / 64 :=
    toNat_ofNat_of_lt (by omega)
  have inRange : 0xc2 ≤ (UInt8.ofNat (0xc0 + c.toNat / 64)).toNat ∧
      (UInt8.ofNat (0xc0 + c.toNat / 64)).toNat < 0xe0 := by omega
  have whole : (0xc0 + c.toNat / 64 - 0xc0) * 64 + c.toNat % 64 = c.toNat := by omega
  have low : tail? (UInt8.ofNat (0x80 + c.toNat % 64)) = some (c.toNat % 64) :=
    tail?_ofNat (Nat.mod_lt _ (by decide))
  refine Option.bind_eq_some_iff.mpr ⟨(), if_pos inRange, ?_⟩
  refine Option.bind_eq_some_iff.mpr ⟨_, low, ?_⟩
  rw [lead, whole, Char.ofNat_toNat]

theorem three?_encoded {c : Char} (least : 0x800 ≤ c.toNat) (small : c.toNat < 0x10000) :
    three? (UInt8.ofNat (0xe0 + c.toNat / 4096)) (UInt8.ofNat (0x80 + c.toNat / 64 % 64))
      (UInt8.ofNat (0x80 + c.toNat % 64)) = some c := by
  have lead : (UInt8.ofNat (0xe0 + c.toNat / 4096)).toNat = 0xe0 + c.toNat / 4096 :=
    toNat_ofNat_of_lt (by omega)
  have inRange : 0xe0 ≤ (UInt8.ofNat (0xe0 + c.toNat / 4096)).toNat ∧
      (UInt8.ofNat (0xe0 + c.toNat / 4096)).toNat < 0xf0 := by omega
  have middle : tail? (UInt8.ofNat (0x80 + c.toNat / 64 % 64)) = some (c.toNat / 64 % 64) :=
    tail?_ofNat (Nat.mod_lt _ (by decide))
  have low : tail? (UInt8.ofNat (0x80 + c.toNat % 64)) = some (c.toNat % 64) :=
    tail?_ofNat (Nat.mod_lt _ (by decide))
  have whole : (0xe0 + c.toNat / 4096 - 0xe0) * 4096 + c.toNat / 64 % 64 * 64 + c.toNat % 64 =
      c.toNat := by omega
  have noSurrogate : 0x800 ≤ c.toNat ∧ ¬ (0xd800 ≤ c.toNat ∧ c.toNat < 0xe000) := by
    have valid := toNat_lt c
    omega
  refine Option.bind_eq_some_iff.mpr ⟨(), if_pos inRange, ?_⟩
  refine Option.bind_eq_some_iff.mpr ⟨_, middle, ?_⟩
  refine Option.bind_eq_some_iff.mpr ⟨_, low, ?_⟩
  rw [lead, whole]
  exact Option.bind_eq_some_iff.mpr ⟨(), if_pos noSurrogate, congrArg some c.ofNat_toNat⟩

theorem four?_encoded {c : Char} (least : 0x10000 ≤ c.toNat) :
    four? (UInt8.ofNat (0xf0 + c.toNat / 262144)) (UInt8.ofNat (0x80 + c.toNat / 4096 % 64))
      (UInt8.ofNat (0x80 + c.toNat / 64 % 64)) (UInt8.ofNat (0x80 + c.toNat % 64)) = some c := by
  have valid := toNat_lt c
  have lead : (UInt8.ofNat (0xf0 + c.toNat / 262144)).toNat = 0xf0 + c.toNat / 262144 :=
    toNat_ofNat_of_lt (by omega)
  have inRange : 0xf0 ≤ (UInt8.ofNat (0xf0 + c.toNat / 262144)).toNat ∧
      (UInt8.ofNat (0xf0 + c.toNat / 262144)).toNat < 0xf5 := by omega
  have high : tail? (UInt8.ofNat (0x80 + c.toNat / 4096 % 64)) = some (c.toNat / 4096 % 64) :=
    tail?_ofNat (Nat.mod_lt _ (by decide))
  have middle : tail? (UInt8.ofNat (0x80 + c.toNat / 64 % 64)) = some (c.toNat / 64 % 64) :=
    tail?_ofNat (Nat.mod_lt _ (by decide))
  have low : tail? (UInt8.ofNat (0x80 + c.toNat % 64)) = some (c.toNat % 64) :=
    tail?_ofNat (Nat.mod_lt _ (by decide))
  have whole : (0xf0 + c.toNat / 262144 - 0xf0) * 262144 + c.toNat / 4096 % 64 * 4096 +
      c.toNat / 64 % 64 * 64 + c.toNat % 64 = c.toNat := by omega
  have within : 0x10000 ≤ c.toNat ∧ c.toNat < 0x110000 := by omega
  -- The steps are taken one by one: evaluated at once, the last check of the range is slow.
  refine Option.bind_eq_some_iff.mpr ⟨(), if_pos inRange, ?_⟩
  refine Option.bind_eq_some_iff.mpr ⟨_, high, ?_⟩
  refine Option.bind_eq_some_iff.mpr ⟨_, middle, ?_⟩
  refine Option.bind_eq_some_iff.mpr ⟨_, low, ?_⟩
  rw [lead, whole]
  exact Option.bind_eq_some_iff.mpr ⟨(), if_pos within, congrArg some c.ofNat_toNat⟩

theorem decodeFrom_encodeChar_append (start : Nat) (c : Char) (bytes : Bytes) :
    decodeFrom start (encodeChar c ++ bytes) =
      (decodeFrom (start + (encodeChar c).length) bytes).map (c :: ·) := by
  by_cases one : c.toNat < 0x80
  · have byte : (UInt8.ofNat c.toNat).toNat = c.toNat := toNat_ofNat_of_lt (by omega)
    simp only [encodeChar, one, if_true, List.cons_append, List.nil_append, List.length_singleton]
    rw [decodeFrom.eq_def]
    simp only [byte, one, if_true, Char.ofNat_toNat]
    rfl
  · by_cases two : c.toNat < 0x800
    · have lead : ¬ (UInt8.ofNat (0xc0 + c.toNat / 64)).toNat < 0x80 := by
        rw [toNat_ofNat_of_lt (by omega)]
        omega
      simp only [encodeChar, one, two, if_true, if_false, List.cons_append, List.nil_append]
      rw [decodeFrom.eq_def]
      simp only [lead, if_false, two?_encoded (Nat.le_of_not_lt one) two]
      rfl
    · by_cases three : c.toNat < 0x10000
      · have lead : 0xe0 ≤ (UInt8.ofNat (0xe0 + c.toNat / 4096)).toNat := by
          rw [toNat_ofNat_of_lt (by omega)]
          omega
        have multi : ¬ (UInt8.ofNat (0xe0 + c.toNat / 4096)).toNat < 0x80 := by omega
        simp only [encodeChar, one, two, three, if_true, if_false, List.cons_append, List.nil_append]
        rw [decodeFrom.eq_def]
        simp only [multi, if_false, two?_eq_none _ lead, three?_encoded (Nat.le_of_not_lt two) three]
        rfl
      · have valid := toNat_lt c
        have lead : 0xf0 ≤ (UInt8.ofNat (0xf0 + c.toNat / 262144)).toNat := by
          rw [toNat_ofNat_of_lt (by omega)]
          omega
        have multi : ¬ (UInt8.ofNat (0xf0 + c.toNat / 262144)).toNat < 0x80 := by omega
        simp only [encodeChar, one, two, three, if_false, List.cons_append, List.nil_append]
        rw [decodeFrom.eq_def]
        simp only [multi, if_false, two?_eq_none _ (Nat.le_trans (by decide) lead),
          three?_eq_none _ _ lead, four?_encoded (Nat.le_of_not_lt three)]
        rfl

theorem decodeFrom_encode (start : Nat) (t : Text) : decodeFrom start (encode t) = .ok t := by
  induction t generalizing start with
  | nil => rfl
  | cons c rest ih =>
      have split : encode (c :: rest) = encodeChar c ++ encode rest := List.flatMap_cons
      rw [split, decodeFrom_encodeChar_append, ih]
      rfl

theorem decode_encode (t : Text) : decode (encode t) = .ok t := decodeFrom_encode 0 t

end LintFindings.Utf8

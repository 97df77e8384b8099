import LintFindings.Text.Basic

/-!
UTF-8: the bytes of a text, and the text of bytes. Reading refuses overlong forms, surrogates and
code points beyond the last, and says where the first ill-formed sequence starts.
-/

namespace LintFindings

abbrev Bytes := List UInt8

namespace Utf8

def encodeChar (c : Char) : Bytes :=
  let n := c.toNat
  if n < 0x80 then [UInt8.ofNat n]
  else if n < 0x800 then [UInt8.ofNat (0xc0 + n / 64), UInt8.ofNat (0x80 + n % 64)]
  else if n < 0x10000 then
    [UInt8.ofNat (0xe0 + n / 4096), UInt8.ofNat (0x80 + n / 64 % 64), UInt8.ofNat (0x80 + n % 64)]
  else
    [UInt8.ofNat (0xf0 + n / 262144), UInt8.ofNat (0x80 + n / 4096 % 64),
      UInt8.ofNat (0x80 + n / 64 % 64), UInt8.ofNat (0x80 + n % 64)]

def encode (t : Text) : Bytes := t.flatMap encodeChar

def tail? (b : UInt8) : Option Nat :=
  if 0x80 ≤ b.toNat ∧ b.toNat < 0xc0 then some (b.toNat - 0x80) else none

def two? (a b : UInt8) : Option Char := do
  guard (0xc2 ≤ a.toNat ∧ a.toNat < 0xe0)
  let low ← tail? b
  some (Char.ofNat ((a.toNat - 0xc0) * 64 + low))

/-- A character written in three bytes; shorter forms and surrogates are refused. -/
def three? (a b c : UInt8) : Option Char := do
  guard (0xe0 ≤ a.toNat ∧ a.toNat < 0xf0)
  let middle ← tail? b
  let low ← tail? c
  let n := (a.toNat - 0xe0) * 4096 + middle * 64 + low
  guard (0x800 ≤ n ∧ ¬ (0xd800 ≤ n ∧ n < 0xe000))
  some (Char.ofNat n)

/-- A character written in four bytes; shorter forms and numbers beyond the last are refused. -/
def four? (a b c d : UInt8) : Option Char := do
  guard (0xf0 ≤ a.toNat ∧ a.toNat < 0xf5)
  let high ← tail? b
  let middle ← tail? c
  let low ← tail? d
  let n := (a.toNat - 0xf0) * 262144 + high * 4096 + middle * 64 + low
  guard (0x10000 ≤ n ∧ n < 0x110000)
  some (Char.ofNat n)

/-- Reads on from offset `start`; a refusal carries the offset of the first ill-formed sequence. -/
def decodeFrom (start : Nat) : Bytes → Except Nat Text
  | [] => .ok []
  | a :: rest =>
    if a.toNat < 0x80 then do return Char.ofNat a.toNat :: (← decodeFrom (start + 1) rest)
    else match rest with
      | [] => .error start
      | b :: rest =>
        match two? a b with
        | some c => do return c :: (← decodeFrom (start + 2) rest)
        | none =>
          match rest with
          | [] => .error start
          | c :: rest =>
            match three? a b c with
            | some c => do return c :: (← decodeFrom (start + 3) rest)
            | none =>
              match rest with
              | [] => .error start
              | d :: rest =>
                match four? a b c d with
                | some c => do return c :: (← decodeFrom (start + 4) rest)
                | none => .error start

def decode (bytes : Bytes) : Except Nat Text := decodeFrom 0 bytes

end Utf8

end LintFindings

/-! Texts as lists of characters, and the few operations every other module needs on them. -/

namespace LintFindings

/-- Every length in this library is a number of characters. -/
abbrev Text := List Char

instance : Coe String Text := ⟨String.toList⟩

namespace Text

def ofNat (n : Nat) : Text := Nat.toDigits 10 n

def ofInt : Int → Text
  | .ofNat n => ofNat n
  | .negSucc n => '-' :: ofNat (n + 1)

def ofNatPadded (width n : Nat) : Text :=
  List.replicate (width - (ofNat n).length) '0' ++ ofNat n

def join (separator : Text) (parts : List Text) : Text := separator.intercalate parts

def split (mark : Char) : Text → List Text
  | [] => [[]]
  | c :: rest =>
    if c = mark then [] :: split mark rest
    else match split mark rest with
      | [] => [[c]]
      | piece :: pieces => (c :: piece) :: pieces

def occursIn (t : Text) : Text → Bool
  | [] => t.isEmpty
  | c :: rest => t.isPrefixOf (c :: rest) || occursIn t rest

def isDigit (c : Char) : Bool := '0' ≤ c && c ≤ '9'

def digitValue (c : Char) : Nat := c.toNat - '0'.toNat

def toNat (digits : Text) : Nat := digits.foldl (fun n c => 10 * n + digitValue c) 0

def hexValue? (c : Char) : Option Nat :=
  if isDigit c then some (digitValue c)
  else if 'a' ≤ c ∧ c ≤ 'f' then some (c.toNat - 'a'.toNat + 10)
  else if 'A' ≤ c ∧ c ≤ 'F' then some (c.toNat - 'A'.toNat + 10)
  else none

def hexToNat? (digits : Text) : Option Nat :=
  digits.foldlM (fun n c => (hexValue? c).map (16 * n + ·)) 0

def hexDigit (n : Nat) : Char := (Nat.toDigits 16 n).headD '0'

def hexOfNat : Nat → Nat → Text
  | 0, _ => []
  | width + 1, n => hexOfNat width (n / 16) ++ [hexDigit (n % 16)]

def isAtMost : Text → Text → Bool
  | [], _ => true
  | _ :: _, [] => false
  | a :: s, b :: t => if a = b then isAtMost s t else a.toNat < b.toNat

def isOneOf (words : List String) (t : Text) : Bool := words.any (fun word => word.toList == t)

/--
Lower case as far as words of the letters a to z are concerned. Outside them only the Kelvin
sign has one of these letters as its whole lower case.
-/
def lowerLetter (c : Char) : Char :=
  if 'A' ≤ c ∧ c ≤ 'Z' then Char.ofNat (c.toNat + 32) else if c = '\u212a' then 'k' else c

def lower (t : Text) : Text := t.map lowerLetter

end Text

end LintFindings

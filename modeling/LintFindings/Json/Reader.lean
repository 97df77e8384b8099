import LintFindings.Datum
import LintFindings.Number.Digits
import LintFindings.Text.Newline

/-!
Reading JSON texts. The reader also takes the words for infinities and for no number, refuses raw
control characters in strings, and says at which character it stopped. An escape may give half of a
surrogate pair alone, which no text here can hold: the reader is told which character stands in for
it.
-/

namespace LintFindings.Json

inductive Fault where
  | byteOrderMark
  | value
  | memberName
  | colon
  | comma
  | afterEnd
  | openString
  | controlCharacter
  | escape
  | codeEscape
  deriving DecidableEq, Repr

def Fault.text : Fault → Text
  | byteOrderMark => "Unexpected UTF-8 BOM (decode using utf-8-sig)"
  | value => "Expecting value"
  | memberName => "Expecting property name enclosed in double quotes"
  | colon => "Expecting ':' delimiter"
  | comma => "Expecting ',' delimiter"
  | afterEnd => "Extra data"
  | openString => "Unterminated string starting at"
  | controlCharacter => "Invalid control character at"
  | escape => "Invalid \\escape"
  | codeEscape => "Invalid \\uXXXX escape"

/-- A text is refused for a fault at one of its ends, or for an integer of too many digits. -/
inductive Refusal where
  | malformed (fault : Fault) (rest : Text)
  | digitLimit
  deriving DecidableEq, Repr

def isSpace (c : Char) : Bool := c == ' ' || c == '\t' || c == '\n' || c == '\r'

def skipSpace (t : Text) : Text := t.dropWhile isSpace

def isHighSurrogate (n : Nat) : Bool := 0xd800 ≤ n && n < 0xdc00

def isLowSurrogate (n : Nat) : Bool := 0xdc00 ≤ n && n < 0xe000

def joinSurrogates (high low : Nat) : Char :=
  Char.ofNat (0x10000 + (high - 0xd800) * 0x400 + (low - 0xdc00))

def simpleEscape? : Char → Option Char
  | '"' => some '"'
  | '\\' => some '\\'
  | '/' => some '/'
  | 'b' => some '\x08'
  | 'f' => some '\x0c'
  | 'n' => some '\n'
  | 'r' => some '\r'
  | 't' => some '\t'
  | _ => none

section Strings

variable (half : Char)

/-- A code point from an escape, or what stands in for half of a surrogate pair. -/
def codeChar (n : Nat) : Char := if isHighSurrogate n || isLowSurrogate n then half else Char.ofNat n

/--
The character of a code escape whose letter `u` has been read, and the rest. The four digits must
not be the end of the text. Two escapes make one character when they are a surrogate pair.
-/
def readCode (digits : Text) : Except Refusal (Char × Text) :=
  match digits with
  | a :: b :: c :: d :: next :: rest =>
    match Text.hexToNat? [a, b, c, d] with
    | none => .error (.malformed .codeEscape ('u' :: digits))
    | some high =>
      match next, rest with
      | '\\', 'u' :: e :: f :: g :: h :: last :: rest' =>
        if isHighSurrogate high then
          match Text.hexToNat? [e, f, g, h] with
          | none => .error (.malformed .codeEscape rest)
          | some low =>
            if isLowSurrogate low then .ok (joinSurrogates high low, last :: rest')
            else .ok (codeChar half high, next :: rest)
        else .ok (codeChar half high, next :: rest)
      | _, _ => .ok (codeChar half high, next :: rest)
  | _ => .error (.malformed .codeEscape ('u' :: digits))

/-- The rest of a string after its opening quote; `whole` starts with that quote. -/
def readString (whole : Text) : Nat → Text → Except Refusal (Text × Text)
  | 0, _ => .error (.malformed .openString whole)
  | _ + 1, [] => .error (.malformed .openString whole)
  | fuel + 1, c :: rest =>
    if c = '"' then .ok ([], rest)
    else if c = '\\' then
      match rest with
      | [] => .error (.malformed .openString whole)
      | 'u' :: digits => do
        let (char, rest) ← readCode half digits
        let (chars, rest) ← readString whole fuel rest
        return (char :: chars, rest)
      | letter :: rest =>
        match simpleEscape? letter with
        | none => .error (.malformed .escape (c :: letter :: rest))
        | some char => do
          let (chars, rest) ← readString whole fuel rest
          return (char :: chars, rest)
    else if c.toNat < 0x20 then .error (.malformed .controlCharacter (c :: rest))
    else do
      let (chars, rest) ← readString whole fuel rest
      return (c :: chars, rest)

def string (fuel : Nat) (whole : Text) : Except Refusal (Text × Text) :=
  readString half whole fuel (whole.drop 1)

end Strings

def wholeDigits : Text → Text × Text
  | '0' :: rest => (['0'], rest)
  | t => t.span Text.isDigit

def fractionDigits : Text → Text × Text
  | '.' :: rest =>
    match rest.span Text.isDigit with
    | ([], _) => ([], '.' :: rest)
    | split => split
  | t => ([], t)

def signOf : Text → Bool × Text
  | '-' :: rest => (true, rest)
  | '+' :: rest => (false, rest)
  | t => (false, t)

def exponent? (t : Text) : Option (Int × Text) :=
  match t with
  | c :: rest =>
    if c = 'e' ∨ c = 'E' then
      let (negative, rest) := signOf rest
      match rest.span Text.isDigit with
      | ([], _) => none
      | (digits, rest) =>
        let size : Int := Text.toNat digits
        some (if negative then -size else size, rest)
    else none
  | [] => none

def number (whole : Text) : Except Refusal (Datum × Text) :=
  let (negative, unsigned) := match whole with
    | '-' :: rest => (true, rest)
    | _ => (false, whole)
  let (digits, rest) := wholeDigits unsigned
  if digits = [] then .error (.malformed .value whole)
  else
    let (fraction, rest) := fractionDigits rest
    let decimal (exponent : Int) : Datum :=
      .float (.ofDecimal negative (Text.toNat (digits ++ fraction)) (exponent - fraction.length))
    match exponent? rest with
    | some (exponent, rest) => .ok (decimal exponent, rest)
    | none =>
      if fraction ≠ [] then .ok (decimal 0, rest)
      else if digitLimit < digits.length then .error .digitLimit
      else
        let size : Int := Text.toNat digits
        .ok (.int (if negative then -size else size), rest)

def words : List (String × Datum) :=
  [("null", .null), ("true", .bool true), ("false", .bool false), ("NaN", .float .nan),
    ("Infinity", .float (.infinite false)), ("-Infinity", .float (.infinite true))]

def word? (t : Text) : Option (Datum × Text) :=
  words.findSome? fun (word, value) =>
    if word.toList.isPrefixOf t then some (value, t.drop word.length) else none

section Values

variable (half : Char)

mutual

/--
One value and the rest of the text. Every step spends one unit of fuel, and of two steps in a row
one takes a character off the text, so twice its length is enough. There is no limit to nesting: where
a reader with a stack would run out of it, this one goes on.
-/
def value : Nat → Text → Except Refusal (Datum × Text)
  | 0, t => .error (.malformed .value t)
  | fuel + 1, t =>
    match t with
    | '"' :: _ => do
      let (chars, rest) ← string half fuel t
      return (.text chars, rest)
    | '[' :: rest =>
      match skipSpace rest with
      | ']' :: rest => .ok (.list [], rest)
      | rest => do
        let (items, rest) ← items fuel rest
        return (.list items, rest)
    | '\x7b' :: rest =>
      match skipSpace rest with
      | '\x7d' :: rest => .ok (.table [], rest)
      | rest => do
        let (members, rest) ← members fuel rest
        return (.table (Fields.ofPairs members), rest)
    | _ =>
      match word? t with
      | some found => .ok found
      | none => number t

def items : Nat → Text → Except Refusal (List Datum × Text)
  | 0, t => .error (.malformed .value t)
  | fuel + 1, t => do
    let (item, rest) ← value fuel t
    match skipSpace rest with
    | ']' :: rest => return ([item], rest)
    | ',' :: rest => do
      let (others, rest) ← items fuel (skipSpace rest)
      return (item :: others, rest)
    | rest => .error (.malformed .comma rest)

def members : Nat → Text → Except Refusal (List (Text × Datum) × Text)
  | 0, t => .error (.malformed .value t)
  | fuel + 1, t =>
    match t with
    | '"' :: _ => do
      let (name, rest) ← string half fuel t
      match skipSpace rest with
      | ':' :: rest => do
        let (member, rest) ← value fuel (skipSpace rest)
        match skipSpace rest with
        | '\x7d' :: rest => return ([(name, member)], rest)
        | ',' :: rest => do
          let (others, rest) ← members fuel (skipSpace rest)
          return ((name, member) :: others, rest)
        | rest => .error (.malformed .comma rest)
      | rest => .error (.malformed .colon rest)
    | _ => .error (.malformed .memberName t)

end

def readWith (t : Text) : Except Refusal Datum :=
  match t with
  | '\ufeff' :: _ => .error (.malformed .byteOrderMark t)
  | _ => do
    let start := skipSpace t
    let (found, rest) ← value half (2 * start.length + 1) start
    match skipSpace rest with
    | [] => return found
    | rest => .error (.malformed .afterEnd rest)

end Values

def standIn : Char := '\ufffd'

def read : Text → Except Refusal Datum := readWith standIn

end LintFindings.Json

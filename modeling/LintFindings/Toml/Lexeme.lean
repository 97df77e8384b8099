import LintFindings.Datum
import LintFindings.Number.Digits
import LintFindings.Toml.Problem

/-! The smallest parts of a TOML document: blanks, comments, strings, keys, numbers and dates. -/

namespace LintFindings.Toml

abbrev Part (α : Type) := α × Text

def refuse {α : Type} (problem : Problem) (rest : Text) : Except Refusal α :=
  .error (.malformed problem rest)

def isSpace (c : Char) : Bool := c == ' ' || c == '\t'

def isSpaceOrBreak (c : Char) : Bool := isSpace c || c == '\n'

def skipSpace (t : Text) : Text := t.dropWhile isSpace

def skipSpaceAndBreaks (t : Text) : Text := t.dropWhile isSpaceOrBreak

def isIllegal (lines : Bool) (c : Char) : Bool :=
  (c.toNat < 0x20 || c.toNat == 0x7f) && c != '\t' && !(lines && c == '\n')

def upTo (mark : Text) : Text → Option (Text × Text)
  | [] => none
  | c :: rest =>
    if mark.isPrefixOf (c :: rest) then some ([], c :: rest)
    else (upTo mark rest).map (fun (inside, rest) => (c :: inside, rest))

def requireLegal (lines : Bool) (inside whole : Text) : Except Refusal Unit :=
  match inside.find? (isIllegal lines) with
  | none => .ok ()
  | some c => refuse (.foundCharacter c) (whole.dropWhile (fun d => !isIllegal lines d))

def literalString (lines : Bool) (mark t : Text) : Except Refusal (Part Text) :=
  match upTo mark t with
  | none => refuse (.missing mark) []
  | some (inside, rest) => do
    requireLegal lines inside t
    return (inside, rest.drop mark.length)

def skipComment (t : Text) : Except Refusal Text :=
  match t with
  | '#' :: rest => do
    requireLegal false (rest.takeWhile (· != '\n')) rest
    return rest.dropWhile (· != '\n')
  | _ => return t

def skipArraySpace : Nat → Text → Except Refusal Text
  | 0, t => return t
  | fuel + 1, t => do
    let rest ← skipComment (skipSpaceAndBreaks t)
    if rest.length = t.length then return rest else skipArraySpace fuel rest

def isScalarValue (n : Nat) : Bool := n < 0xd800 || (0xe000 ≤ n && n < 0x110000)

def codeEscape (width : Nat) (t : Text) : Except Refusal (Part Text) :=
  match if (t.take width).length = width then Text.hexToNat? (t.take width) else none with
  | none => refuse .hexDigits t
  | some n =>
    if isScalarValue n then .ok ([Char.ofNat n], t.drop width) else refuse .codePoint (t.drop width)

def simpleEscape? : Char → Option Char
  | 'b' => some '\x08'
  | 't' => some '\t'
  | 'n' => some '\n'
  | 'f' => some '\x0c'
  | 'r' => some '\r'
  | '"' => some '"'
  | '\\' => some '\\'
  | _ => none

/-- What stands after a backslash; at the end of a line it takes away the blanks that follow. -/
def escape (lines : Bool) (t : Text) : Except Refusal (Part Text) :=
  match t with
  | [] => refuse .backslash []
  | c :: rest =>
    if lines && c == '\n' then .ok ([], skipSpaceAndBreaks rest)
    else if lines && isSpace c then
      match skipSpace rest with
      | [] => .ok ([], [])
      | '\n' :: rest => .ok ([], skipSpaceAndBreaks rest)
      | rest => refuse .backslash rest
    else if c = 'u' then codeEscape 4 rest
    else if c = 'U' then codeEscape 8 rest
    else match simpleEscape? c with
      | some char => .ok ([char], rest)
      | none => refuse .backslash rest

def basicChars (lines : Bool) : Nat → Text → Except Refusal (Part Text)
  | 0, _ => refuse .openString []
  | _ + 1, [] => refuse .openString []
  | fuel + 1, c :: rest =>
    if c = '"' ∧ (lines = false ∨ ['"', '"'].isPrefixOf rest = true) then
      .ok ([], if lines then rest.drop 2 else rest)
    else if c = '\\' then do
      let (chars, rest) ← escape lines rest
      let (more, rest) ← basicChars lines fuel rest
      return (chars ++ more, rest)
    else if isIllegal lines c then refuse (.illegalCharacter c) (c :: rest)
    else do
      let (more, rest) ← basicChars lines fuel rest
      return (c :: more, rest)

def basicString (lines : Bool) (t : Text) : Except Refusal (Part Text) :=
  basicChars lines (t.length + 1) t

/-- Up to two more quotes right after the closing mark still belong to the string. -/
def extraQuotes (quote : Char) (string rest : Text) : Text × Text :=
  let extra := (rest.take 2).takeWhile (· == quote)
  (string ++ extra, rest.drop extra.length)

def longString (quote : Char) (t : Text) : Except Refusal (Part Text) := do
  let t := match t with
    | '\n' :: rest => rest
    | _ => t
  let (string, rest) ←
    if quote = '\'' then literalString true (List.replicate 3 '\'') t else basicString true t
  return extraQuotes quote string rest

def string? (t : Text) : Option (Except Refusal (Part Text)) :=
  match t with
  | '"' :: '"' :: '"' :: rest => some (longString '"' rest)
  | '"' :: rest => some (basicString false rest)
  | '\'' :: '\'' :: '\'' :: rest => some (longString '\'' rest)
  | '\'' :: rest => some (literalString false ['\''] rest)
  | _ => none

def isBareKeyChar (c : Char) : Bool := c.isAlphanum || c == '-' || c == '_'

def keyPart (t : Text) : Except Refusal (Part Text) :=
  match t with
  | '\'' :: rest => literalString false ['\''] rest
  | '"' :: rest => basicString false rest
  | _ =>
    match t.span isBareKeyChar with
    | ([], _) => refuse .keyStart t
    | (part, rest) => .ok (part, rest)

def keyFrom : Nat → Text → Except Refusal (Part Key)
  | 0, t => refuse .keyStart t
  | fuel + 1, t => do
    let (part, rest) ← keyPart t
    match skipSpace rest with
    | '.' :: rest => do
      let (parts, rest) ← keyFrom fuel (skipSpace rest)
      return (part :: parts, rest)
    | rest => return ([part], rest)

def key (t : Text) : Except Refusal (Part Key) := keyFrom (t.length + 1) t

def moreDigits (isDigit : Char → Bool) : Text → Text × Text
  | [] => ([], [])
  | c :: rest =>
    if isDigit c then
      let (digits, rest) := moreDigits isDigit rest
      (c :: digits, rest)
    else match c, rest with
      | '_', d :: rest' =>
        if isDigit d then
          let (digits, rest) := moreDigits isDigit rest'
          (d :: digits, rest)
        else ([], c :: rest)
      | _, _ => ([], c :: rest)

def digits? (isDigit : Char → Bool) (t : Text) : Option (Text × Text) :=
  if (t.take 1).any isDigit then some (moreDigits isDigit t) else none

def bases : List (Char × Nat × (Char → Bool)) :=
  [('x', 16, fun c => (Text.hexValue? c).isSome), ('b', 2, fun c => c == '0' || c == '1'),
    ('o', 8, fun c => '0' ≤ c && c ≤ '7')]

def basedInteger? (t : Text) : Option (Datum × Text) :=
  match t with
  | '0' :: letter :: rest => do
    let (base, isDigit) ← bases.lookup letter
    let (digits, rest) ← digits? isDigit rest
    let size := digits.foldl (fun n c => base * n + (Text.hexValue? c).getD 0) 0
    return (.int size, rest)
  | _ => none

def sign (t : Text) : Bool × Text :=
  match t with
  | '-' :: rest => (true, rest)
  | '+' :: rest => (false, rest)
  | _ => (false, t)

def wholeDigits? (t : Text) : Option (Text × Text) :=
  match t with
  | '0' :: rest => some (['0'], rest)
  | _ => digits? Text.isDigit t

def fraction? (t : Text) : Option (Text × Text) :=
  match t with
  | '.' :: rest => digits? Text.isDigit rest
  | _ => none

def exponent? (t : Text) : Option (Int × Text) :=
  match t with
  | c :: rest =>
    if c = 'e' ∨ c = 'E' then do
      let (negative, rest) := sign rest
      let (digits, rest) ← digits? Text.isDigit rest
      let size : Int := Text.toNat digits
      return (if negative then -size else size, rest)
    else none
  | [] => none

def number? (t : Text) : Option (Except Refusal (Part Datum)) :=
  match basedInteger? t with
  | some found => some (.ok found)
  | none =>
    let (negative, unsigned) := sign t
    (wholeDigits? unsigned).map fun (whole, rest) =>
      let fraction := fraction? rest
      let (decimals, rest) := fraction.getD ([], rest)
      let exponent := exponent? rest
      let (power, rest) := exponent.getD (0, rest)
      if fraction.isSome || exponent.isSome then
        .ok (.float (.ofDecimal negative (Text.toNat (whole ++ decimals)) (power - decimals.length)),
          rest)
      else if digitLimit < whole.length then .error .digitLimit
      else
        let size : Int := Text.toNat whole
        .ok (.int (if negative then -size else size), rest)

def specialFloat? (t : Text) : Option (Datum × Text) :=
  let (negative, unsigned) := sign t
  if "inf".toList.isPrefixOf unsigned then some (.float (.infinite negative), unsigned.drop 3)
  else if "nan".toList.isPrefixOf unsigned then some (.float .nan, unsigned.drop 3)
  else none

def fixedNumber? (width least greatest : Nat) (t : Text) : Option (Nat × Text) :=
  let digits := t.take width
  let n := Text.toNat digits
  if digits.length = width ∧ digits.all Text.isDigit = true ∧ least ≤ n ∧ n ≤ greatest then
    some (n, t.drop width)
  else none

def mark? (c : Char) (t : Text) : Option Text :=
  match t with
  | d :: rest => if d = c then some rest else none
  | [] => none

/-- Digits after a point as microseconds; digits beyond the sixth are read and do not count. -/
def microseconds (t : Text) : Nat × Text :=
  match t with
  | '.' :: rest =>
    match rest.span Text.isDigit with
    | ([], _) => (0, t)
    | (digits, rest) =>
      let six := digits.take 6
      (Text.toNat six * Nat.pow 10 (6 - six.length), rest)
  | _ => (0, t)

def timeOfDay? (t : Text) : Option (TimeOfDay × Text) := do
  let (hour, t) ← fixedNumber? 2 0 23 t
  let t ← mark? ':' t
  let (minute, t) ← fixedNumber? 2 0 59 t
  let t ← mark? ':' t
  let (second, t) ← fixedNumber? 2 0 59 t
  let (fraction, t) := microseconds t
  return (⟨hour, minute, second, fraction⟩, t)

def date? (t : Text) : Option (Date × Text) := do
  let (year, t) ← fixedNumber? 4 0 9999 t
  let t ← mark? '-' t
  let (month, t) ← fixedNumber? 2 1 12 t
  let t ← mark? '-' t
  let (day, t) ← fixedNumber? 2 1 31 t
  return (⟨year, month, day⟩, t)

def offset (t : Text) : Option Int × Text :=
  match t with
  | [] => (none, t)
  | c :: rest =>
    if c = 'Z' ∨ c = 'z' then (some 0, rest)
    else if c = '+' ∨ c = '-' then
      let found : Option (Int × Text) := do
        let (hour, rest) ← fixedNumber? 2 0 23 rest
        let rest ← mark? ':' rest
        let (minute, rest) ← fixedNumber? 2 0 59 rest
        let minutes : Int := (60 * hour + minute : Nat)
        return (if c = '-' then -minutes else minutes, rest)
      match found with
      | some (minutes, rest) => (some minutes, rest)
      | none => (none, t)
    else (none, t)

def isLeapYear (year : Nat) : Bool := year % 4 == 0 && (year % 100 != 0 || year % 400 == 0)

def daysInMonth (year month : Nat) : Nat :=
  if month = 2 then (if isLeapYear year then 29 else 28)
  else if month = 4 ∨ month = 6 ∨ month = 9 ∨ month = 11 then 30
  else 31

def existsOnCalendar (d : Date) : Bool := 1 ≤ d.year && d.day ≤ daysInMonth d.year d.month

def clockAfterDate? (t : Text) : Option ((TimeOfDay × Option Int) × Text) :=
  match t with
  | c :: rest =>
    if c = 'T' ∨ c = 't' ∨ c = ' ' then do
      let (clock, rest) ← timeOfDay? rest
      let (minutes, rest) := offset rest
      return ((clock, minutes), rest)
    else none
  | [] => none

def dateOrTime? (t : Text) : Option (Except Refusal (Part Datum)) :=
  match date? t with
  | some (day, rest) =>
    if existsOnCalendar day = false then some (refuse .dateTime t)
    else match clockAfterDate? rest with
      | some ((clock, minutes), rest) => some (.ok (.moment day clock minutes, rest))
      | none => some (.ok (.date day, rest))
  | none => (timeOfDay? t).map (fun (clock, rest) => .ok (.time clock, rest))

end LintFindings.Toml

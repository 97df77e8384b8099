import LintFindings.Log.Emphasis
import LintFindings.Text.Numeral
import LintFindings.Text.Pattern

/-!
What stands out in a message: tags, assignments, braces, then addresses, calls, constants, numbers,
paths, quoted texts and links, and last the words of requests. Each of these layers lies over those
before it.
-/

namespace LintFindings

namespace Emphasis

def strong : Emphasis := { none with bold := some true }

def strongColor (color : Nat) : Emphasis := { strong with color := some color }

def upright (color : Nat) : Emphasis := { ofColor color with italic := some false }

def tagName : Emphasis := strongColor 95

def tagContents : Emphasis := ofColor 39

def attributeName : Emphasis := upright 33

def attributeValue : Emphasis := upright 35

def address : Emphasis := strongColor 92

def uniqueName : Emphasis := { ofColor 93 with bold := some false }

def call : Emphasis := strongColor 35

def constant (color : Nat) : Emphasis := { ofColor color with italic := some true }

def omission : Emphasis := ofColor 33

def number : Emphasis := { strongColor 36 with italic := some false }

def folder : Emphasis := ofColor 35

def fileName : Emphasis := ofColor 95

def quotation : Emphasis := { upright 32 with bold := some false }

def link : Emphasis := { upright 94 with bold := some false, underline := some true }

def requestWord : Emphasis := strongColor 33

end Emphasis

namespace Highlight

open Pattern

abbrev Highlighter := Pattern Emphasis

def isHex (c : Char) : Bool := (Text.hexValue? c).isSome

def isAmong (marks : String) (c : Char) : Bool := marks.toList.contains c

def sequence (parts : List Highlighter) : Highlighter := parts.foldr both nothing

def literal (word : String) : Highlighter := sequence (word.toList.map (fun c => one (· == c)))

def firstOf : List Highlighter → Highlighter
  | [] => one (fun _ => false)
  | [pattern] => pattern
  | pattern :: patterns => either pattern (firstOf patterns)

def optional (pattern : Highlighter) : Highlighter := upTo 1 pattern

def times (count : Nat) (pattern : Highlighter) : Highlighter :=
  sequence (List.replicate count pattern)

def tag : Highlighter :=
  sequence [labelled .strong (literal "<"),
    labelled .tagName (many (fun c => isWord c || isAmong "-.:|" c) 0 none),
    labelled .tagContents (many (fun _ => true) 0 none), labelled .strong (literal ">")]

def assignment : Highlighter :=
  sequence [labelled .attributeName (many isWord 1 (some 50)), literal "=",
    optional (labelled .attributeValue
      (sequence [optional (literal "\""), many isWord 1 none, optional (literal "\"")]))]

def brace : Highlighter := labelled .strong (one (isAmong "][\x7b\x7d()"))

def dottedAddress : Highlighter :=
  let part := many Text.isDigit 1 (some 3)
  labelled .address
    (sequence [part, literal ".", part, literal ".", part, literal ".", part])

def groupedAddress : Highlighter :=
  let group := many isHex 1 (some 4)
  let marked := sequence [group, literal ":", optional (literal ":")]
  labelled .address (sequence [marked, upTo 6 marked, group])

def deviceAddress (pairs groups : Nat) : Highlighter :=
  let pair := many isHex 1 (some 2)
  let group := many isHex 4 (some 4)
  let parts (part : Highlighter) (count : Nat) (mark : String) : Highlighter :=
    sequence [times (count - 1) (sequence [part, literal mark]), part]
  labelled .address
    (firstOf [parts pair pairs "-", parts pair pairs ":", parts group groups "."])

def uniqueName : Highlighter :=
  let group (count : Nat) : Highlighter := many isHex count (some count)
  labelled .uniqueName
    (sequence [group 8, literal "-", group 4, literal "-", group 4, literal "-", group 4,
      literal "-", group 12])

def call : Highlighter :=
  sequence [labelled .call (few (fun c => isWord c || c == '.')), literal "("]

def constant (word : String) (color : Nat) : Highlighter :=
  sequence [edge true, labelled (.constant color) (literal word), edge true]

def omission : Highlighter := labelled .omission (literal "...")

def sign : Highlighter := optional (one (isAmong "-+"))

def decimal : Highlighter :=
  sequence [many Text.isDigit 1 none, optional (literal "."), many Text.isDigit 0 none]

/-- An exponent with no more digits than needed. -/
def exponent : Highlighter :=
  optional (sequence [literal "e", sign, one isDecimal, few isDecimal])

def complexNumber : Highlighter :=
  labelled .number
    (sequence [notAfter isWord, optional (literal "-"), decimal, exponent,
      optional (sequence [one (isAmong "-+"), decimal,
        optional (sequence [literal "e", sign, many isDecimal 1 none])]),
      literal "j"])

def number : Highlighter :=
  labelled .number
    (either
      (sequence [notAfter isWord, optional (literal "-"), decimal, exponent, edge true])
      (sequence [literal "0x", many isHex 0 none]))

def path : Highlighter :=
  let part (least : Nat) : Highlighter := many (fun c => isWord c || isAmong "-._+" c) least none
  sequence [
    labelled .folder
      (sequence [edge false, star (sequence [literal "/", part 1]), literal "/"]),
    optional (labelled .fileName (part 0))]

def quoted (mark : String) : Highlighter :=
  sequence [optional (literal "b"), literal mark, few (· != '\n'), notAfter (· == '\\'),
    literal mark]

def quotation : Highlighter :=
  sequence [notAfter (fun c => c == '\\' || isWord c),
    labelled .quotation
      (firstOf [quoted "'''", quoted "'", quoted "\"\"\"", quoted "\""])]

def link : Highlighter :=
  let allowed (c : Char) : Bool :=
    Text.isDigit c || c.isAlpha || isAmong "-$_+!`(),.?/;:&=%#~@" c
  labelled .link
    (sequence [firstOf (["file", "https", "http", "ws", "wss"].map literal), literal "://",
      many allowed 0 none])

def value : Highlighter :=
  firstOf [dottedAddress, groupedAddress, deviceAddress 8 4, deviceAddress 6 3, uniqueName, call,
    constant "True" 92, constant "False" 91, constant "None" 35, omission, complexNumber, number,
    path, quotation, link]

def requestWord : Highlighter :=
  labelled .requestWord
    (firstOf (["GET", "POST", "HEAD", "PUT", "DELETE", "OPTIONS", "TRACE", "PATCH"].map literal))

def layers : List Highlighter := [tag, assignment, brace, value, requestWord]

end Highlight

end LintFindings

import LintFindings.Text.Word

/-!
Patterns of text. Where a pattern can go on in several ways they are tried in a fixed order, and
the first that lets everything after it succeed is taken. Parts of a pattern carry labels, and a
match tells which stretch of the text each label got.
-/

namespace LintFindings

structure Place where
  before : Option Char
  index : Nat
  rest : Text

namespace Place

def afterWord (p : Place) : Bool := p.before.any isWord

def beforeWord (p : Place) : Bool := p.rest.head?.any isWord

def isEdge (p : Place) : Bool := p.afterWord != p.beforeWord

def step? (holds : Char → Bool) (p : Place) : Option Place :=
  match p.rest with
  | [] => none
  | c :: rest => if holds c then some ⟨some c, p.index + 1, rest⟩ else none

/--
The places that are reached by passing characters of a class, no more of them than `most`, the
farthest first; those reached before come in `reached`.
-/
def runFrom (holds : Char → Bool) (before : Option Char) (index : Nat) (most : Option Nat)
    (reached : List Place) : Text → List Place
  | [] => ⟨before, index, []⟩ :: reached
  | c :: rest =>
    let here : Place := ⟨before, index, c :: rest⟩
    if most != some 0 && holds c then
      runFrom holds (some c) (index + 1) (most.map (· - 1)) (here :: reached) rest
    else here :: reached

def run (holds : Char → Bool) (most : Option Nat) (p : Place) : List Place :=
  runFrom holds p.before p.index most [] p.rest

def firstOfRunFrom {β : Type} (holds : Char → Bool) (search : Place → Option β)
    (before : Option Char) (index : Nat) : Text → Option β
  | [] => search ⟨before, index, []⟩
  | c :: rest =>
    match search ⟨before, index, c :: rest⟩ with
    | some found => some found
    | none => if holds c then firstOfRunFrom holds search (some c) (index + 1) rest else none

def firstOfRun {β : Type} (holds : Char → Bool) (search : Place → Option β) (p : Place) :
    Option β :=
  firstOfRunFrom holds search p.before p.index p.rest

end Place

structure Span (α : Type) where
  label : α
  start : Nat
  stop : Nat
  deriving DecidableEq, Repr

inductive Pattern (α : Type) where
  | one (holds : Char → Bool)
  | many (holds : Char → Bool) (least : Nat) (most : Option Nat)
  | few (holds : Char → Bool)
  | both (first second : Pattern α)
  | either (first second : Pattern α)
  | upTo (most : Nat) (pattern : Pattern α)
  | star (pattern : Pattern α)
  | labelled (label : α) (pattern : Pattern α)
  | notAfter (holds : Char → Bool)
  /-- The place is the edge of a word, or is none. -/
  | edge (wanted : Bool)
  | nothing

structure Progress (α : Type) where
  place : Place
  spans : List (Span α)

abbrev Continuation (α : Type) := Progress α → Option (Progress α)

namespace Pattern

variable {α : Type}

abbrev Step (α : Type) := Progress α → Continuation α → Option (Progress α)

/-- Each element of the first list is leave to take the step once more. -/
def repeatedly {β : Type} (step : Step α) : List β → Step α
  | [], s, next => next s
  | _ :: leave, s, next =>
    match step s (fun s => repeatedly step leave s next) with
    | some done => some done
    | none => next s

def follow : Pattern α → Step α
  | one holds => fun s next =>
    match s.place.step? holds with
    | some place => next { s with place }
    | none => none
  | many holds least most => fun s next =>
    let places := s.place.run holds most
    (places.take (places.length - least)).findSome? (fun place => next { s with place })
  | few holds => fun s next => s.place.firstOfRun holds (fun place => next { s with place })
  | both first second => fun s next => follow first s (fun s => follow second s next)
  | either first second => fun s next =>
    match follow first s next with
    | some done => some done
    | none => follow second s next
  | upTo most pattern => repeatedly (follow pattern) (List.replicate most ())
  | star pattern => fun s next => repeatedly (follow pattern) s.place.rest s next
  | labelled label pattern => fun s next =>
    follow pattern s (fun s' =>
      next { s' with spans := ⟨label, s.place.index, s'.place.index⟩ :: s'.spans })
  | notAfter holds => fun s next => if s.place.before.any holds then none else next s
  | edge wanted => fun s next => if s.place.isEdge = wanted then next s else none
  | nothing => fun s next => next s

def match? (pattern : Pattern α) (place : Place) : Option (Progress α) :=
  pattern.follow ⟨place, []⟩ some

/--
The stretches of labels in all matches from left to right, none of which overlap. `skipped`
characters still belong to the match before.
-/
def spansFrom (pattern : Pattern α) (before : Option Char) (index skipped : Nat)
    (found : List (Span α)) : Text → List (Span α)
  | [] => found.reverse
  | c :: rest =>
    if skipped = 0 then
      match pattern.match? ⟨before, index, c :: rest⟩ with
      | some s =>
        spansFrom pattern (some c) (index + 1) (s.place.index - index - 1) (s.spans ++ found) rest
      | none => spansFrom pattern (some c) (index + 1) 0 found rest
    else spansFrom pattern (some c) (index + 1) (skipped - 1) found rest

def spans (pattern : Pattern α) (t : Text) : List (Span α) :=
  (spansFrom pattern none 0 0 [] t).filter (fun span => span.start < span.stop)

end Pattern

end LintFindings

import LintFindings.Styler
import LintFindings.Text.Blank
import Mathlib.Data.List.Nodup

/-!
Texts in which parts stand between markers. What is read off such a text, from left to right, are its
marked parts and the text without its markers; both are put together as the text is.
-/

namespace LintFindings

inductive Part where
  | error
  | warning
  | errorLabel
  | warningLabel
  | path
  | muted
  deriving DecidableEq, Repr

namespace Part

def all : List Part := [error, warning, errorLabel, warningLabel, path, muted]

theorem mem_all (part : Part) : part ∈ all := by cases part <;> decide

end Part

def Styler.hook (styler : Styler) : Part → Text → Text
  | .error => styler.error
  | .warning => styler.warning
  | .errorLabel => styler.errorLabel
  | .warningLabel => styler.warningLabel
  | .path => styler.path
  | .muted => styler.muted

/-- Two characters for each part, twelve different ones in all and none of them a blank. -/
structure Markers where
  opening : Part → Char
  closing : Part → Char
  distinct : (Part.all.map opening ++ Part.all.map closing).Nodup
  visible (part : Part) : isBlank (opening part) = false ∧ isBlank (closing part) = false

namespace Markers

variable (markers : Markers)

def isMarker (c : Char) : Bool :=
  Part.all.any (fun part => c == markers.opening part || c == markers.closing part)

def around (part : Part) (t : Text) : Text :=
  markers.opening part :: (t ++ [markers.closing part])

/-- The styler puts every text between the markers of its part, an empty one as well. -/
def Mark (styler : Styler) : Prop := ∀ part t, styler.hook part t = markers.around part t

def IsNewTo (t : Text) : Prop := ∀ c ∈ t, markers.isMarker c = false

instance (t : Text) : Decidable (markers.IsNewTo t) :=
  decidable_of_iff (t.all (fun c => !markers.isMarker c) = true) (by simp [IsNewTo])

def opened? (c : Char) : Option Part := Part.all.find? (fun part => markers.opening part == c)

/--
The marked parts of a text from left to right, unless its markers do not pair up. The part that is
`pending` is still open, with what has been read of it.
-/
def partsFrom (pending : Option (Part × Text)) : Text → Option (List (Part × Text))
  | [] => if pending.isSome then none else some []
  | c :: rest =>
    match pending with
    | some (part, before) =>
      if c = markers.closing part then (partsFrom none rest).map ((part, before) :: ·)
      else if markers.isMarker c then none
      else partsFrom (some (part, before ++ [c])) rest
    | none =>
      match markers.opened? c with
      | some part => partsFrom (some (part, [])) rest
      | none => if markers.isMarker c then none else partsFrom none rest

def parts? (t : Text) : Option (List (Part × Text)) := markers.partsFrom none t

def unmarked (t : Text) : Text := t.filter (fun c => !markers.isMarker c)

section Characters

theorem opening_injective : Function.Injective markers.opening := by
  intro a b same
  have distinct : (Part.all.map markers.opening).Nodup := markers.distinct.of_append_left
  exact List.inj_on_of_nodup_map distinct a.mem_all b.mem_all same

theorem isMarker_opening (part : Part) : markers.isMarker (markers.opening part) = true :=
  List.any_eq_true.mpr ⟨part, part.mem_all, by simp⟩

theorem isMarker_closing (part : Part) : markers.isMarker (markers.closing part) = true :=
  List.any_eq_true.mpr ⟨part, part.mem_all, by simp⟩

theorem ne_opening {c : Char} (plain : markers.isMarker c = false) (part : Part) :
    markers.opening part ≠ c := by
  rintro rfl
  cases plain.symm.trans (markers.isMarker_opening part)

theorem ne_closing {c : Char} (plain : markers.isMarker c = false) (part : Part) :
    c ≠ markers.closing part := by
  rintro rfl
  cases plain.symm.trans (markers.isMarker_closing part)

theorem opened?_opening (part : Part) : markers.opened? (markers.opening part) = some part := by
  cases found : markers.opened? (markers.opening part) with
  | none =>
      have absent := List.find?_eq_none.mp found part part.mem_all
      simp at absent
  | some other =>
      have same := List.find?_some found
      rw [markers.opening_injective (eq_of_beq same)]

theorem opened?_plain {c : Char} (plain : markers.isMarker c = false) : markers.opened? c = none := by
  apply List.find?_eq_none.mpr
  intro part _
  simpa using markers.ne_opening plain part

end Characters

section Texts

variable {markers} {s t : Text}

theorem IsNewTo.of_subset (new : markers.IsNewTo t) (within : ∀ c ∈ s, c ∈ t) :
    markers.IsNewTo s := fun c member => new c (within c member)

theorem IsNewTo.tail {c : Char} (new : markers.IsNewTo (c :: t)) : markers.IsNewTo t :=
  new.of_subset fun _ member => List.mem_cons_of_mem c member

theorem partsFrom_plain (new : markers.IsNewTo t) (rest : Text) :
    markers.partsFrom none (t ++ rest) = markers.partsFrom none rest := by
  induction t with
  | nil => rfl
  | cons c t ih =>
      have plain : markers.isMarker c = false := new c List.mem_cons_self
      simp only [List.cons_append, partsFrom, markers.opened?_plain plain, plain, Bool.false_eq_true,
        if_false]
      exact ih new.tail

theorem partsFrom_pending (new : markers.IsNewTo t) (part : Part) (before rest : Text) :
    markers.partsFrom (some (part, before)) (t ++ markers.closing part :: rest) =
      (markers.partsFrom none rest).map ((part, before ++ t) :: ·) := by
  induction t generalizing before with
  | nil => simp [partsFrom]
  | cons c t ih =>
      have plain : markers.isMarker c = false := new c List.mem_cons_self
      have inside : c ≠ markers.closing part := markers.ne_closing plain part
      simp only [List.cons_append, partsFrom, if_neg inside, plain, Bool.false_eq_true, if_false]
      rw [ih new.tail, List.append_assoc, List.singleton_append]

theorem unmarked_plain (new : markers.IsNewTo t) : markers.unmarked t = t := by
  apply List.filter_eq_self.mpr
  intro c member
  rw [new c member]
  rfl

/-- What is read off a text, whatever follows it: its parts, and the text without its markers. -/
structure Reads (markers : Markers) (t bare : Text) (parts : List (Part × Text)) : Prop where
  parts (rest : Text) :
    markers.partsFrom none (t ++ rest) = (markers.partsFrom none rest).map (parts ++ ·)
  bare : markers.unmarked t = bare

theorem IsNewTo.reads (new : markers.IsNewTo t) : markers.Reads t t [] := by
  constructor
  · intro rest
    rw [partsFrom_plain new]
    simp
  · exact unmarked_plain new

theorem IsNewTo.reads_around (new : markers.IsNewTo t) (part : Part) :
    markers.Reads (markers.around part t) t [(part, t)] := by
  constructor
  · intro rest
    rw [around, List.cons_append, List.append_assoc, List.singleton_append, partsFrom,
      markers.opened?_opening]
    dsimp only
    rw [partsFrom_pending new, List.nil_append]
    rfl
  · have inside := unmarked_plain new
    rw [unmarked] at inside
    simp [unmarked, around, markers.isMarker_opening, markers.isMarker_closing, inside]

theorem Reads.append {bare bare' : Text} {parts parts' : List (Part × Text)}
    (first : markers.Reads s bare parts) (second : markers.Reads t bare' parts') :
    markers.Reads (s ++ t) (bare ++ bare') (parts ++ parts') := by
  constructor
  · intro rest
    rw [List.append_assoc, first.parts, second.parts, Option.map_map]
    congr 1
    funext others
    exact (List.append_assoc parts parts' others).symm
  · rw [unmarked, List.filter_append, ← unmarked, ← unmarked, first.bare, second.bare]

theorem Reads.flatMap {α : Type} {items : List α} {text bare : α → Text}
    {parts : α → List (Part × Text)}
    (each : ∀ item ∈ items, markers.Reads (text item) (bare item) (parts item)) :
    markers.Reads (items.flatMap text) (items.flatMap bare) (items.flatMap parts) := by
  induction items with
  | nil => exact IsNewTo.reads fun c member => absurd member List.not_mem_nil
  | cons item items ih =>
      have first := each item List.mem_cons_self
      have others := ih fun other member => each other (List.mem_cons_of_mem item member)
      simp only [List.flatMap_cons]
      exact first.append others

theorem Reads.parts?_eq {bare : Text} {parts : List (Part × Text)}
    (reads : markers.Reads t bare parts) : markers.parts? t = some parts := by
  have whole := reads.parts []
  rw [List.append_nil] at whole
  rw [parts?, whole]
  simp [partsFrom]

end Texts

end Markers

end LintFindings

import LintFindings.Text.Markup
import Mathlib.Data.List.TakeWhile

/-!
Markup as it is cut into pieces. Escaping puts backslashes before tags only, so that what has been
escaped is cut at the same places, and none of it is a style any more.
-/

namespace LintFindings.Markup

section Tags

/-- What may stand between the brackets of a tag. -/
structure IsInside (inside : Text) : Prop where
  opens : inside.head?.any opensTag = true
  apart : ∀ c ∈ inside, c ≠ '[' ∧ c ≠ ']'

/-- Whether an opening bracket in front of a text is that of a tag. -/
def IsTagged (t : Text) : Prop := ∃ inside after, t = inside ++ ']' :: after ∧ IsInside inside

def isBracket (c : Char) : Bool := c == '[' || c == ']'

theorem ne_bracket_of_opensTag {c : Char} (opens : opensTag c = true) : c ≠ '[' ∧ c ≠ ']' := by
  refine ⟨?_, ?_⟩ <;>
    · rintro rfl
      exact absurd opens (by decide)

theorem tag?_of_isInside {inside : Text} (ofTag : IsInside inside) (after : Text) :
    tag? (inside ++ ']' :: after) = some (inside, after) := by
  obtain ⟨opens, apart⟩ := ofTag
  cases inside with
  | nil => cases opens
  | cons c inside =>
      have opens : opensTag c = true := opens
      have apart := fun d member => apart d (List.mem_cons_of_mem c member)
      have unclosed : ∀ d ∈ inside, (d != ']') = true :=
        fun d member => bne_iff_ne.mpr (apart d member).2
      have unopened : '[' ∉ inside := fun member => (apart '[' member).1 rfl
      simp [tag?, List.takeWhile_append_of_pos unclosed, List.dropWhile_append_of_pos unclosed, opens,
        unopened]

theorem of_tag?_eq_some {t inside after : Text} (found : tag? t = some (inside, after)) :
    t = inside ++ ']' :: after ∧ IsInside inside := by
  cases t with
  | nil => cases found
  | cons c rest =>
      rw [tag?] at found
      split at found
      next begins =>
        rw [Bool.and_eq_true, Bool.not_eq_true', Bool.eq_false_iff, Ne,
          List.contains_iff_mem] at begins
        obtain ⟨opens, unopened⟩ := begins
        have whole := List.takeWhile_append_dropWhile (p := (· != ']')) (l := rest)
        have stops := List.head?_dropWhile_not (· != ']') rest
        split at found
        next => cases found
        next close after' split =>
          cases found
          rw [split] at whole stops
          have closes : close = ']' := by simpa using stops
          subst closes
          refine ⟨congrArg (c :: ·) whole.symm, opens, ?_⟩
          intro d member
          rcases List.mem_cons.mp member with rfl | later
          · exact ne_bracket_of_opensTag opens
          · have unclosed := List.mem_takeWhile_imp (p := (· != ']')) later
            refine ⟨?_, bne_iff_ne.mp unclosed⟩
            rintro rfl
            exact unopened later
      next => cases found

theorem tag?_eq_none_iff (t : Text) : tag? t = none ↔ ¬ IsTagged t := by
  constructor
  · rintro none ⟨inside, after, rfl, ofTag⟩
    cases (tag?_of_isInside ofTag after).symm.trans none
  · intro noTag
    rw [Option.eq_none_iff_forall_ne_some]
    intro ⟨inside, after⟩ found
    exact noTag ⟨inside, after, of_tag?_eq_some found⟩

theorem isTagged_iff (t : Text) :
    IsTagged t ↔ t.head?.any opensTag = true ∧ t.find? isBracket = some ']' := by
  constructor
  · rintro ⟨inside, after, rfl, opens, apart⟩
    have none : inside.find? isBracket = none := by
      rw [List.find?_eq_none]
      intro c member
      simp [isBracket, apart c member]
    refine ⟨?_, ?_⟩
    · cases inside with
      | nil => cases opens
      | cons c inside => exact opens
    · rw [List.find?_append, none]
      rfl
  · rintro ⟨opens, first⟩
    obtain ⟨-, inside, after, rfl, apart⟩ := List.find?_eq_some_iff_append.mp first
    refine ⟨inside, after, rfl, ?_, ?_⟩
    · cases inside with
      | nil => exact absurd rfl (ne_bracket_of_opensTag opens).2
      | cons c inside => exact opens
    · intro c member
      simpa [isBracket] using apart c member

theorem isTagged_concat (t : Text) : IsTagged (t ++ ['\\']) ↔ IsTagged t := by
  have last : ['\\'].find? isBracket = none := rfl
  rw [isTagged_iff, isTagged_iff, List.find?_append, last, Option.or_none]
  cases t with
  | nil => exact iff_of_false (by decide) (by decide)
  | cons c t => rfl

end Tags

namespace Piece

def source : Piece → Text
  | .plain c => [c]
  | .tag slashes inside => List.replicate slashes '\\' ++ '[' :: inside ++ [']']

def guarded : Piece → Piece
  | .plain c => .plain c
  | .tag slashes inside => .tag (2 * slashes + 1) inside

def isStyle : Piece → Bool
  | .plain _ => false
  | .tag slashes _ => slashes % 2 == 0

theorem escaped_eq (piece : Piece) : piece.escaped = piece.guarded.source := by
  cases piece <;> rfl

theorem getLast?_guarded (piece : Piece) :
    piece.guarded.source.getLast? = piece.source.getLast? := by
  cases piece with
  | plain c => rfl
  | tag slashes inside =>
      rw [guarded, source, source, List.getLast?_concat, List.getLast?_concat]

theorem find?_guarded (piece : Piece) :
    piece.guarded.source.find? isBracket = piece.source.find? isBracket := by
  cases piece with
  | plain c => rfl
  | tag slashes inside => simp [guarded, source, isBracket, List.find?_append]

theorem not_isStyle_guarded (piece : Piece) : piece.guarded.isStyle = false := by
  cases piece with
  | plain c => rfl
  | tag slashes inside =>
      have odd : (2 * slashes + 1) % 2 = 1 := by omega
      simp [guarded, isStyle, odd]

end Piece

section Sources

def sourceOf (pieces : List Piece) : Text := pieces.flatMap Piece.source

theorem sourceOf_cons (piece : Piece) (pieces : List Piece) :
    sourceOf (piece :: pieces) = piece.source ++ sourceOf pieces := List.flatMap_cons

theorem sourceOf_append (front back : List Piece) :
    sourceOf (front ++ back) = sourceOf front ++ sourceOf back := List.flatMap_append

theorem sourceOf_slashes (count : Nat) :
    sourceOf (List.replicate count (.plain '\\')) = List.replicate count '\\' := by
  simp [sourceOf, Piece.source, List.flatMap_replicate]

theorem getLast?_guarded (pieces : List Piece) :
    (sourceOf (pieces.map Piece.guarded)).getLast? = (sourceOf pieces).getLast? := by
  simp only [sourceOf, List.flatMap_map, List.getLast?_flatMap, Piece.getLast?_guarded]

/-- Escaping puts backslashes before brackets only, so that what opened a tag still does. -/
theorem isTagged_guarded (pieces : List Piece) :
    IsTagged (sourceOf (pieces.map Piece.guarded)) ↔ IsTagged (sourceOf pieces) := by
  have first : (sourceOf (pieces.map Piece.guarded)).find? isBracket =
      (sourceOf pieces).find? isBracket := by
    simp only [sourceOf, List.flatMap_map, List.find?_flatMap, Piece.find?_guarded]
  have begins : (sourceOf (pieces.map Piece.guarded)).head?.any opensTag =
      (sourceOf pieces).head?.any opensTag := by
    cases pieces with
    | nil => rfl
    | cons piece rest =>
        cases piece with
        | plain c => rfl
        | tag slashes inside => cases slashes <;> rfl
  rw [isTagged_iff, isTagged_iff, first, begins]

end Sources

section Cut

/--
How a text with backslashes in front of it is cut from left to right. A tag takes the backslashes, and
a bracket is plain only if it opens none.
-/
inductive IsCut : Nat → Text → List Piece → Prop
  | nil (count : Nat) : IsCut count [] (List.replicate count (.plain '\\'))
  | slash {count : Nat} {rest : Text} {pieces : List Piece} :
      IsCut (count + 1) rest pieces → IsCut count ('\\' :: rest) pieces
  | tag (count : Nat) {inside after : Text} {pieces : List Piece} :
      IsInside inside → IsCut 0 after pieces →
      IsCut count ('[' :: (inside ++ ']' :: after)) (.tag count inside :: pieces)
  | plain (count : Nat) {c : Char} {rest : Text} {pieces : List Piece} :
      c ≠ '\\' → (c = '[' → ¬ IsTagged rest) → IsCut 0 rest pieces →
      IsCut count (c :: rest) (List.replicate count (.plain '\\') ++ .plain c :: pieces)

namespace IsCut

variable {count fuel : Nat} {t : Text} {pieces : List Piece}

theorem of_piecesFrom (count : Nat) (enough : t.length < fuel) :
    IsCut count t (piecesFrom fuel count t) := by
  induction fuel generalizing count t with
  | zero => cases enough
  | succ fuel ih =>
      cases t with
      | nil => exact .nil count
      | cons c rest =>
          rw [List.length_cons, Nat.add_lt_add_iff_right] at enough
          by_cases slash : c = '\\'
          · subst slash
            exact .slash (ih (count + 1) enough)
          · rw [piecesFrom, if_neg slash]
            split
            next inside after found =>
              by_cases bracket : c = '['
              · subst bracket
                obtain ⟨same, ofTag⟩ := of_tag?_eq_some (by simpa using found)
                subst same
                refine .tag count ofTag (ih 0 ?_)
                simp only [List.length_append, List.length_cons] at enough
                omega
              · simp [bracket] at found
            next none =>
              refine .plain count slash ?_ (ih 0 enough)
              rintro rfl
              rwa [if_pos rfl, tag?_eq_none_iff] at none

theorem piecesFrom_eq (cut : IsCut count t pieces) (enough : t.length < fuel) :
    piecesFrom fuel count t = pieces := by
  induction cut generalizing fuel with
  | nil count =>
      obtain ⟨fuel, rfl⟩ := Nat.exists_eq_add_of_lt enough
      rfl
  | @slash count rest pieces cut ih =>
      cases fuel with
      | zero => cases enough
      | succ fuel => exact ih (Nat.lt_of_succ_lt_succ enough)
  | @tag count inside after pieces ofTag cut ih =>
      cases fuel with
      | zero => cases enough
      | succ fuel =>
          have shorter : after.length < fuel := by
            simp only [List.length_append, List.length_cons] at enough
            omega
          simp [piecesFrom, tag?_of_isInside ofTag, ih shorter]
  | @plain count c rest pieces noSlash noTag cut ih =>
      cases fuel with
      | zero => cases enough
      | succ fuel =>
          have none : (if c = '[' then tag? rest else none) = none := by
            split
            next bracket => exact (tag?_eq_none_iff rest).mpr (noTag bracket)
            next => rfl
          rw [piecesFrom, if_neg noSlash, none, ih (Nat.lt_of_succ_lt_succ enough)]

theorem of_pieces (t : Text) : IsCut 0 t (Markup.pieces t) := of_piecesFrom 0 (Nat.lt_succ_self _)

theorem pieces_eq (cut : IsCut 0 t pieces) : Markup.pieces t = pieces :=
  cut.piecesFrom_eq (Nat.lt_succ_self _)

theorem slashes (cut : IsCut count t pieces) :
    IsCut 0 (List.replicate count '\\' ++ t) pieces := by
  induction count generalizing t with
  | zero => exact cut
  | succ count ih =>
      rw [List.replicate_succ', List.append_assoc]
      exact ih (.slash cut)

theorem word {word : Text} (apart : ∀ c ∈ word, c ≠ '\\' ∧ c ≠ '[') (cut : IsCut 0 t pieces) :
    IsCut 0 (word ++ t) (word.map .plain ++ pieces) := by
  induction word with
  | nil => exact cut
  | cons c word ih =>
      obtain ⟨⟨noSlash, noBracket⟩, apart⟩ := List.forall_mem_cons.mp apart
      exact .plain 0 noSlash (fun bracket => absurd bracket noBracket) (ih apart)

theorem sourceOf_eq (cut : IsCut count t pieces) :
    sourceOf pieces = List.replicate count '\\' ++ t := by
  induction cut with
  | nil count => rw [sourceOf_slashes, List.append_nil]
  | slash cut ih =>
      rw [ih, List.replicate_succ', List.append_assoc]
      rfl
  | tag count ofTag cut ih =>
      rw [sourceOf_cons, ih]
      simp [Piece.source]
  | plain count noSlash noTag cut ih =>
      rw [sourceOf_append, sourceOf_slashes, sourceOf_cons, ih]
      rfl

theorem guarded (cut : IsCut count t pieces) :
    IsCut 0 (sourceOf (pieces.map Piece.guarded)) (pieces.map Piece.guarded) := by
  induction cut with
  | nil count =>
      have spaced := (nil count).slashes
      rw [List.append_nil] at spaced
      rwa [List.map_replicate, Piece.guarded, sourceOf_slashes]
  | slash cut ih => exact ih
  | @tag count inside after pieces ofTag cut ih =>
      have spaced := (tag (2 * count + 1) ofTag ih).slashes
      simpa [sourceOf_cons, Piece.source, Piece.guarded] using spaced
  | @plain count c rest pieces noSlash noTag cut ih =>
      have same : sourceOf pieces = rest := cut.sourceOf_eq
      have noTag' : c = '[' → ¬ IsTagged (sourceOf (pieces.map Piece.guarded)) := by
        rw [isTagged_guarded, same]
        exact noTag
      have spaced := (plain count noSlash noTag' ih).slashes
      simpa [sourceOf_append, sourceOf_cons, sourceOf_slashes, Piece.source, Piece.guarded]
        using spaced

theorem concat (cut : IsCut count t pieces) :
    IsCut count (t ++ ['\\']) (pieces ++ [.plain '\\']) := by
  induction cut with
  | nil count =>
      rw [← List.replicate_succ']
      exact .slash (.nil (count + 1))
  | slash cut ih => exact .slash ih
  | @tag count inside after pieces ofTag cut ih =>
      have longer := tag count ofTag ih
      rwa [List.cons_append, List.append_assoc]
  | @plain count c rest pieces noSlash noTag cut ih =>
      have noTag' : c = '[' → ¬ IsTagged (rest ++ ['\\']) := by
        rw [isTagged_concat]
        exact noTag
      rw [List.append_assoc]
      exact .plain count noSlash noTag' ih

end IsCut

theorem pieces_guarded (t : Text) :
    pieces (sourceOf ((pieces t).map Piece.guarded)) = (pieces t).map Piece.guarded :=
  (IsCut.of_pieces t).guarded.pieces_eq

theorem pieces_concat (t : Text) : pieces (t ++ ['\\']) = pieces t ++ [.plain '\\'] :=
  (IsCut.of_pieces t).concat.pieces_eq

theorem sourceOf_pieces (t : Text) : sourceOf (pieces t) = t := (IsCut.of_pieces t).sourceOf_eq

end Cut

section Ends

theorem guardEnd_of_ne {t : Text} (ends : t.getLast? ≠ some '\\') : guardEnd t = t := by
  rw [List.getLast?_eq_head?_reverse] at ends
  unfold guardEnd
  cases reversed : t.reverse with
  | nil => rfl
  | cons c rest =>
      rw [reversed, List.head?_cons] at ends
      split
      next => rfl
      next same =>
        cases same
        exact absurd rfl ends
      next => rfl

theorem guardEnd_concat (t : Text) :
    guardEnd (t ++ ['\\']) =
      if t.getLast? = some '\\' then t ++ ['\\'] else t ++ ['\\'] ++ ['\\'] := by
  unfold guardEnd
  rw [List.reverse_concat, List.getLast?_eq_head?_reverse]
  cases t.reverse with
  | nil => rfl
  | cons c rest =>
      by_cases slash : c = '\\'
      · subst slash
        rfl
      · simp [slash]

theorem guardEnd_guarded (t : Text) :
    guardEnd (sourceOf ((pieces t).map Piece.guarded)) =
      sourceOf ((pieces (guardEnd t)).map Piece.guarded) := by
  have sameEnd (t : Text) : (sourceOf ((pieces t).map Piece.guarded)).getLast? = t.getLast? := by
    rw [getLast?_guarded, sourceOf_pieces]
  by_cases slash : t.getLast? = some '\\'
  · obtain ⟨before, rfl⟩ := List.getLast?_eq_some_iff.mp slash
    have longer (t : Text) : sourceOf ((pieces (t ++ ['\\'])).map Piece.guarded) =
        sourceOf ((pieces t).map Piece.guarded) ++ ['\\'] := by
      rw [pieces_concat, List.map_append, sourceOf_append]
      rfl
    rw [longer, guardEnd_concat, guardEnd_concat, sameEnd]
    split
    next => rw [longer]
    next => rw [longer, longer]
  · rw [guardEnd_of_ne slash, guardEnd_of_ne (by rwa [sameEnd])]

theorem escape_eq (t : Text) : escape t = sourceOf ((pieces (guardEnd t)).map Piece.guarded) := by
  have same : Piece.escaped = fun piece => piece.guarded.source := funext Piece.escaped_eq
  rw [← guardEnd_guarded, escape, sourceOf, List.flatMap_map, same]

theorem pieces_escape (t : Text) :
    pieces (escape t) = (pieces (guardEnd t)).map Piece.guarded := by
  rw [escape_eq, pieces_guarded]

end Ends

end LintFindings.Markup

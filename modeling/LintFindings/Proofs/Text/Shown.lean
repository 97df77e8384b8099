import LintFindings.Proofs.Text.Markup

/-!
What the console prints of a text that has been escaped. It is the text again, except that a backslash
right before a bracket that opens no tag is lost, and that a lone backslash at the end is doubled.
-/

namespace LintFindings.Markup

section Without

variable {α : Type}

def without (begins : List α → Bool) : List α → List α
  | [] => []
  | a :: rest => if begins (a :: rest) then without begins rest else a :: without begins rest

variable {begins : List α → Bool} {a : α} {rest : List α}

theorem without_cons_of_begins (left : begins (a :: rest) = true) :
    without begins (a :: rest) = without begins rest := by
  rw [without, left]
  rfl

theorem without_cons_of_not (keeps : begins (a :: rest) = false) :
    without begins (a :: rest) = a :: without begins rest := by
  rw [without, keeps]
  rfl

theorem without_run (within : ∀ rest, begins (a :: a :: rest) = false)
    (keeps : begins (a :: rest) = false) (count : Nat) :
    without begins (List.replicate count a ++ rest) =
      List.replicate count a ++ without begins rest := by
  induction count with
  | zero => rfl
  | succ count ih =>
      have first : begins (a :: (List.replicate count a ++ rest)) = false := by
        cases count with
        | zero => exact keeps
        | succ count => exact within _
      rw [List.replicate_succ, List.cons_append, without_cons_of_not first, ih, List.cons_append]

theorem without_run_cons (within : ∀ rest, begins (a :: a :: rest) = false) (count : Nat) (b : α) :
    without begins (List.replicate count a ++ b :: rest) =
      List.replicate (if begins (a :: b :: rest) then count - 1 else count) a ++
        without begins (b :: rest) := by
  cases left : begins (a :: b :: rest) with
  | false => exact without_run within left count
  | true =>
      cases count with
      | zero => rfl
      | succ count =>
          rw [List.replicate_succ', List.append_assoc, List.singleton_append,
            without_run within (within _), without_cons_of_begins left]
          rfl

end Without

section Strays

/-- Whether a text begins with a backslash right before a bracket that opens no tag. -/
def isStray : Text → Bool
  | c :: d :: rest => c == '\\' && d == '[' && (tag? rest).isNone
  | _ => false

/-- The text without the backslashes right before a bracket that opens no tag. -/
def withoutStrays (t : Text) : Text := without isStray t

def HasStray (t : Text) : Prop :=
  ∃ before after, t = before ++ '\\' :: '[' :: after ∧ ¬ IsTagged after

theorem isStray_iff (t : Text) :
    isStray t = true ↔ ∃ after, t = '\\' :: '[' :: after ∧ ¬ IsTagged after := by
  constructor
  · intro stray
    cases t with
    | nil => cases stray
    | cons c t =>
        cases t with
        | nil => cases stray
        | cons d after =>
            simp only [isStray, Bool.and_eq_true, beq_iff_eq, Option.isNone_iff_eq_none,
              tag?_eq_none_iff] at stray
            obtain ⟨⟨rfl, rfl⟩, noTag⟩ := stray
            exact ⟨after, rfl, noTag⟩
  · rintro ⟨after, rfl, noTag⟩
    simp [isStray, (tag?_eq_none_iff after).mpr noTag]

theorem isStray_of_ne {c : Char} (noSlash : c ≠ '\\') (t : Text) : isStray (c :: t) = false := by
  cases t with
  | nil => rfl
  | cons d t => simp [isStray, noSlash]

theorem withoutStrays_cons {c : Char} {t : Text} (keeps : isStray (c :: t) = false) :
    withoutStrays (c :: t) = c :: withoutStrays t := without_cons_of_not keeps

theorem withoutStrays_run {t : Text} (keeps : isStray ('\\' :: t) = false) (count : Nat) :
    withoutStrays (List.replicate count '\\' ++ t) =
      List.replicate count '\\' ++ withoutStrays t := without_run (fun _ => rfl) keeps count

theorem withoutStrays_closed {inside : Text} (unopened : ∀ c ∈ inside, c ≠ '[') (after : Text) :
    withoutStrays (inside ++ ']' :: after) = inside ++ ']' :: withoutStrays after := by
  induction inside with
  | nil => exact withoutStrays_cons (isStray_of_ne (by decide) after)
  | cons c inside ih =>
      obtain ⟨-, unopened⟩ := List.forall_mem_cons.mp unopened
      have keeps : isStray (c :: (inside ++ ']' :: after)) = false := by
        cases inside with
        | nil => simp [isStray]
        | cons d inside => simp [isStray, unopened d List.mem_cons_self]
      rw [List.cons_append, withoutStrays_cons keeps, ih unopened, List.cons_append]

theorem hasStray_cons (c : Char) (t : Text) :
    HasStray (c :: t) ↔ isStray (c :: t) = true ∨ HasStray t := by
  rw [isStray_iff]
  constructor
  · rintro ⟨before, after, same, noTag⟩
    cases before with
    | nil => exact .inl ⟨after, same, noTag⟩
    | cons d before => exact .inr ⟨before, after, (List.cons.inj same).2, noTag⟩
  · rintro (⟨after, same, noTag⟩ | ⟨before, after, rfl, noTag⟩)
    · exact ⟨[], after, same, noTag⟩
    · exact ⟨c :: before, after, rfl, noTag⟩

theorem withoutStrays_of_not_hasStray {t : Text} (clean : ¬ HasStray t) : withoutStrays t = t := by
  induction t with
  | nil => rfl
  | cons c t ih =>
      rw [hasStray_cons, not_or, Bool.not_eq_true] at clean
      rw [withoutStrays_cons clean.1, ih clean.2]

theorem not_hasStray_of_prefix {t : Text} (kept : withoutStrays t <+: t) : ¬ HasStray t := by
  induction t with
  | nil =>
      rintro ⟨before, after, same, -⟩
      simp at same
  | cons c t ih =>
      rw [hasStray_cons, not_or, Bool.not_eq_true]
      cases stray : isStray (c :: t) with
      | false =>
          rw [withoutStrays_cons stray, List.cons_prefix_cons] at kept
          exact ⟨rfl, ih kept.2⟩
      | true =>
          obtain ⟨after, same, -⟩ := (isStray_iff _).mp stray
          cases same
          have bracket := isStray_of_ne (c := '[') (by decide) after
          rw [withoutStrays, without_cons_of_begins stray, without_cons_of_not bracket,
            List.cons_prefix_cons] at kept
          exact absurd kept.1 (by decide)

theorem hasStray_iff (t : Text) : HasStray t ↔ withoutStrays t ≠ t := by
  constructor
  · intro stray same
    have kept : withoutStrays t <+: t := ⟨[], (List.append_nil _).trans same⟩
    exact not_hasStray_of_prefix kept stray
  · intro differs
    by_contra clean
    exact differs (withoutStrays_of_not_hasStray clean)

instance (t : Text) : Decidable (HasStray t) := decidable_of_iff _ (hasStray_iff t).symm

end Strays

section Printed

def beginsStray : List Piece → Bool
  | .plain c :: .plain d :: _ => c == '\\' && d == '['
  | _ => false

theorem unescapeBrackets_eq (t : Text) :
    unescapeBrackets t = sourceOf (without beginsStray (t.map .plain)) := by
  fun_induction unescapeBrackets t with
  | case1 rest ih =>
      have stray : beginsStray (.plain '\\' :: .plain '[' :: rest.map .plain) = true := rfl
      have bracket : beginsStray (.plain '[' :: rest.map .plain) = false := by cases rest <;> rfl
      rw [ih, List.map_cons, List.map_cons, without_cons_of_begins stray, without_cons_of_not bracket]
      rfl
  | case2 c rest other ih =>
      have keeps : beginsStray (.plain c :: rest.map .plain) = false := by
        cases rest with
        | nil => rfl
        | cons d rest =>
            by_contra stray
            simp only [List.map_cons, beginsStray, Bool.not_eq_false, Bool.and_eq_true,
              beq_iff_eq] at stray
            exact other rest stray.1 (congrArg (· :: rest) stray.2)
      rw [ih, List.map_cons, without_cons_of_not keeps]
      rfl
  | case3 => rfl

theorem without_beginsStray_tag (t : Text) (slashes : Nat) (inside : Text) (pieces : List Piece) :
    without beginsStray (t.map .plain ++ .tag slashes inside :: pieces) =
      without beginsStray (t.map .plain) ++ .tag slashes inside :: without beginsStray pieces := by
  induction t with
  | nil =>
      refine without_cons_of_not ?_
      cases pieces <;> rfl
  | cons c t ih =>
      have same : beginsStray (.plain c :: (t.map .plain ++ .tag slashes inside :: pieces)) =
          beginsStray (.plain c :: t.map .plain) := by
        cases t with
        | nil => simp [beginsStray]
        | cons d t => rfl
      rw [List.map_cons, List.cons_append, without, without, same, ih]
      split <;> rfl

theorem printPieces_guarded (read : Text) (pieces : List Piece) :
    printPieces read (pieces.map Piece.guarded) =
      sourceOf (without beginsStray (read.reverse.map .plain ++ pieces)) := by
  induction pieces generalizing read with
  | nil =>
      rw [List.append_nil]
      exact unescapeBrackets_eq read.reverse
  | cons piece pieces ih =>
      cases piece with
      | plain c =>
          rw [List.map_cons, Piece.guarded, printPieces, ih]
          simp
      | tag slashes inside =>
          -- Of the backslashes half are printed, and the one left over prints the tag.
          have half : (2 * slashes + 1) / 2 = slashes := by omega
          have odd : (2 * slashes + 1) % 2 = 1 := by omega
          rw [List.map_cons, Piece.guarded, printPieces, ih, without_beginsStray_tag, sourceOf_append,
            sourceOf_cons, ← unescapeBrackets_eq, half, odd]
          simp [Piece.source]

theorem IsCut.sourceOf_without {count : Nat} {t : Text} {pieces : List Piece}
    (cut : IsCut count t pieces) :
    sourceOf (without beginsStray pieces) = withoutStrays (List.replicate count '\\' ++ t) := by
  have within (rest : List Piece) : beginsStray (.plain '\\' :: .plain '\\' :: rest) = false := rfl
  induction cut with
  | nil count =>
      have alone : beginsStray [.plain '\\'] = false := rfl
      have kept := without_run within alone count
      rw [List.append_nil] at kept
      rw [kept, withoutStrays_run rfl, sourceOf_append, sourceOf_slashes]
      rfl
  | slash cut ih =>
      rw [ih, List.replicate_succ', List.append_assoc]
      rfl
  | @tag count inside after pieces ofTag cut ih =>
      have keeps : beginsStray (.tag count inside :: pieces) = false := by cases pieces <;> rfl
      have keeps' : isStray ('\\' :: '[' :: (inside ++ ']' :: after)) = false := by
        simp [isStray, tag?_of_isInside ofTag]
      have bracket := isStray_of_ne (c := '[') (by decide) (inside ++ ']' :: after)
      have unopened : ∀ c ∈ inside, c ≠ '[' := fun c member => (ofTag.apart c member).1
      rw [without_cons_of_not keeps, sourceOf_cons, ih, withoutStrays_run keeps',
        withoutStrays_cons bracket, withoutStrays_closed unopened]
      simp [Piece.source]
  | @plain count c rest pieces noSlash noTag cut ih =>
      have keeps : beginsStray (.plain c :: pieces) = false := by
        cases pieces with
        | nil => rfl
        | cons piece pieces => cases piece <;> simp [beginsStray, noSlash]
      have same : beginsStray (.plain '\\' :: .plain c :: pieces) = isStray ('\\' :: c :: rest) := by
        by_cases bracket : c = '['
        · simp [beginsStray, isStray, bracket, (tag?_eq_none_iff rest).mpr (noTag bracket)]
        · simp [beginsStray, isStray, bracket]
      rw [without_run_cons within, withoutStrays, without_run_cons (fun _ => rfl), same,
        sourceOf_append, sourceOf_slashes, without_cons_of_not keeps,
        without_cons_of_not (isStray_of_ne noSlash rest), sourceOf_cons, ih]
      rfl

/-- What the console prints of a text that has been escaped. -/
theorem shown_eq (t : Text) : shown t = withoutStrays (guardEnd t) := by
  have cut := (IsCut.of_pieces (guardEnd t)).sourceOf_without
  rw [shown, print, pieces_escape, printPieces_guarded]
  exact cut

end Printed

end LintFindings.Markup

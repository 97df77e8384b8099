import LintFindings.Proofs.Json.Breaks.Strings

/-!
Reading a JSON text whose line breaks have been unified. Line breaks only stand between the parts of
a JSON text, so the same data are read from both texts, or both are refused for the same fault at
ends that correspond.
-/

namespace LintFindings.Json

open Text

section Values

variable {α β : Type} {t whole next : Text}

theorem Matches.map {result unified : Except Refusal (α × Text)} (make : α → β)
    (alike : Matches t result unified) :
    Matches t (result.map (Prod.map make id)) (unified.map (Prod.map make id)) := by
  cases alike with
  | found ends => exact .found ends
  | malformed fault ends => exact .malformed _ ends
  | digitLimit => exact .digitLimit

theorem Matches.ifStarts {c : Char} {yes yes' : Text → Except Refusal (β × Text)}
    {no no' : Except Refusal (β × Text)} (noReturn : c ≠ '\r') (noFeed : c ≠ '\n')
    (ends : EndsWith t next)
    (goesOn : ∀ rest, next = c :: rest → EndsWith t rest →
      Matches t (yes rest) (yes' (unifyBreaks rest)))
    (otherwise : Matches t no no') :
    Matches t (Json.ifStarts c next yes no) (Json.ifStarts c next.unifyBreaks yes' no') := by
  rcases starts_cases noReturn noFeed next with ⟨rest, rfl, starts⟩ | ⟨other, other'⟩
  · rw [starts, ifStarts_self, ifStarts_self]
    exact goesOn rest rfl (ends.trans (.char noReturn (.whole rest)))
  · rw [ifStarts_of_not other, ifStarts_of_not other']
    exact otherwise

theorem string_matches {half : Char} {fuel fuel' : Nat} (enough : t.length ≤ fuel)
    (enough' : t.unifyBreaks.length ≤ fuel') (quoted : ∃ rest, t = '"' :: rest) :
    Matches t (string half fuel t) (string half fuel' t.unifyBreaks) := by
  obtain ⟨rest, rfl⟩ := quoted
  have inside : EndsWith ('"' :: rest) rest := .char (by decide) (.whole rest)
  have unified : unifyBreaks ('"' :: rest) = '"' :: unifyBreaks rest := unifyBreaks_cons (by decide)
  rw [unified] at enough'
  have alike : Matches _ (readString half _ fuel rest) _ :=
    readString_matches ('"' :: rest) fuel fuel' inside enough enough'
  rw [unified] at alike
  rw [string, string, unified]
  exact alike

theorem skipSpace_shorter {c : Char} {rest : Text} (noReturn : c ≠ '\r') (ends : EndsWith t next)
    (starts : next = c :: rest) :
    EndsWith t (skipSpace rest) ∧ (skipSpace rest).length < t.length ∧
      (skipSpace rest).unifyBreaks.length < t.unifyBreaks.length := by
  subst starts
  have inside : EndsWith (c :: rest) (skipSpace rest) := .char noReturn (endsWith_skipSpace rest)
  have fewer := (endsWith_skipSpace rest).length_le
  have fewer' := (endsWith_skipSpace rest).unified_length_le
  have most := ends.length_le
  have most' := ends.unified_length_le
  rw [List.length_cons] at most
  rw [unifyBreaks_cons noReturn, List.length_cons] at most'
  exact ⟨ends.trans inside, by omega, by omega⟩

theorem Matches.afterPart {close : Char} {closed closed' more more' : Text → Except Refusal (β × Text)}
    (noReturn : close ≠ '\r') (noFeed : close ≠ '\n') (ends : EndsWith t next)
    (closes : ∀ rest, EndsWith t rest → Matches t (closed rest) (closed' rest.unifyBreaks))
    (goesOn : ∀ rest, rest.length < t.length → rest.unifyBreaks.length < t.unifyBreaks.length →
      EndsWith t rest → Matches t (more rest) (more' rest.unifyBreaks)) :
    Matches t (Json.afterPart close next closed more)
      (Json.afterPart close next.unifyBreaks closed' more') := by
  refine .ifStarts noReturn noFeed ends (fun rest _ inside => closes rest inside) ?_
  refine .ifStarts (by decide) (by decide) ends (fun rest starts _ => ?_) (.malformed _ ends)
  obtain ⟨inside, fewer, fewer'⟩ := skipSpace_shorter (by decide) ends starts
  rw [skipSpace_unifyBreaks]
  exact goesOn _ fewer fewer' inside

structure AllMatch (half : Char) (fuel fuel' : Nat) : Prop where
  value : ∀ t : Text, 2 * t.length + 1 ≤ fuel → 2 * t.unifyBreaks.length + 1 ≤ fuel' →
    Matches t (Json.value half fuel t) (Json.value half fuel' t.unifyBreaks)
  items : ∀ t : Text, 2 * t.length + 2 ≤ fuel → 2 * t.unifyBreaks.length + 2 ≤ fuel' →
    Matches t (Json.items half fuel t) (Json.items half fuel' t.unifyBreaks)
  members : ∀ t : Text, 2 * t.length + 2 ≤ fuel → 2 * t.unifyBreaks.length + 2 ≤ fuel' →
    Matches t (Json.members half fuel t) (Json.members half fuel' t.unifyBreaks)

namespace AllMatch

variable {half : Char} {fuel fuel' : Nat} (shorter : AllMatch half fuel fuel')

include shorter

theorem value_succ (t : Text) (enough : 2 * t.length + 1 ≤ fuel + 1)
    (enough' : 2 * t.unifyBreaks.length + 1 ≤ fuel' + 1) :
    Matches t (Json.value half (fuel + 1) t) (Json.value half (fuel' + 1) t.unifyBreaks) := by
  rw [Json.value_succ, Json.value_succ]
  refine .ifStarts (by decide) (by decide) (.whole t) ?string ?_
  case string =>
    intro rest starts _
    exact (string_matches (by omega) (by omega) ⟨rest, starts⟩).map Datum.text
  refine .ifStarts (by decide) (by decide) (.whole t) ?list ?_
  case list =>
    intro rest starts _
    obtain ⟨spaces, fewer, fewer'⟩ := skipSpace_shorter (by decide) (.whole t) starts
    rw [skipSpace_unifyBreaks]
    refine .ifStarts (by decide) (by decide) spaces (fun after _ => .found) ?_
    exact ((shorter.items _ (by omega) (by omega)).map Datum.list).mono spaces
  refine .ifStarts (by decide) (by decide) (.whole t) ?table (simple_matches t)
  case table =>
    intro rest starts _
    obtain ⟨spaces, fewer, fewer'⟩ := skipSpace_shorter (by decide) (.whole t) starts
    rw [skipSpace_unifyBreaks]
    refine .ifStarts (by decide) (by decide) spaces (fun after _ => .found) ?_
    exact ((shorter.members _ (by omega) (by omega)).map (Datum.table ∘ Fields.ofPairs)).mono spaces

theorem items_succ (t : Text) (enough : 2 * t.length + 2 ≤ fuel + 1)
    (enough' : 2 * t.unifyBreaks.length + 2 ≤ fuel' + 1) :
    Matches t (Json.items half (fuel + 1) t) (Json.items half (fuel' + 1) t.unifyBreaks) := by
  rw [Json.items_succ, Json.items_succ]
  refine (shorter.value t (by omega) (by omega)).bind fun item rest ends => ?_
  have most := ends.length_le
  have most' := ends.unified_length_le
  dsimp only
  rw [skipSpace_unifyBreaks]
  refine .afterPart (by decide) (by decide) (endsWith_skipSpace rest) (fun after => .found) ?_
  intro after fewer fewer' inside
  exact ((shorter.items after (by omega) (by omega)).map (item :: ·)).mono inside

theorem members_succ (t : Text) (enough : 2 * t.length + 2 ≤ fuel + 1)
    (enough' : 2 * t.unifyBreaks.length + 2 ≤ fuel' + 1) :
    Matches t (Json.members half (fuel + 1) t) (Json.members half (fuel' + 1) t.unifyBreaks) := by
  rw [Json.members_succ, Json.members_succ]
  refine .ifStarts (by decide) (by decide) (.whole t) (fun quoted starts _ => ?_)
    (.malformed _ (.whole t))
  refine (string_matches (by omega) (by omega) ⟨quoted, starts⟩).bind fun name rest ends => ?_
  have spaces := endsWith_skipSpace rest
  dsimp only
  rw [skipSpace_unifyBreaks]
  refine .ifStarts (by decide) (by decide) spaces (fun valued starts _ => ?_) (.malformed _ spaces)
  obtain ⟨inside, -, -⟩ := skipSpace_shorter (by decide) spaces starts
  obtain ⟨-, fewer, fewer'⟩ := skipSpace_shorter (by decide) (ends.trans spaces) starts
  rw [skipSpace_unifyBreaks]
  refine ((shorter.value _ (by omega) (by omega)).bind fun member rest ends' => ?_).mono inside
  have most := ends'.length_le
  have most' := ends'.unified_length_le
  dsimp only
  rw [skipSpace_unifyBreaks]
  refine .afterPart (by decide) (by decide) (endsWith_skipSpace rest) (fun after => .found) ?_
  intro after less less' inside
  exact ((shorter.members after (by omega) (by omega)).map ((name, member) :: ·)).mono inside

end AllMatch

theorem allMatch (half : Char) (fuel fuel' : Nat) : AllMatch half fuel fuel' := by
  induction fuel generalizing fuel' with
  | zero =>
      constructor
      · intro t enough
        cases enough
      · intro t enough
        cases enough
      · intro t enough
        cases enough
  | succ fuel ih =>
      cases fuel' with
      | zero =>
          constructor
          · intro t _ enough'
            cases enough'
          · intro t _ enough'
            cases enough'
          · intro t _ enough'
            cases enough'
      | succ fuel' =>
          constructor
          · exact (ih fuel').value_succ
          · exact (ih fuel').items_succ
          · exact (ih fuel').members_succ

end Values

/-- Both texts hold the same datum, or both are refused for one fault at ends that correspond. -/
theorem read_matches (t : Text) :
    Matches t ((read t).map fun datum => (datum, []))
      ((read t.unifyBreaks).map fun datum => (datum, [])) := by
  rcases starts_cases (c := '\ufeff') (by decide) (by decide) t with
    ⟨rest, rfl, starts⟩ | ⟨noMark, noMark'⟩
  · have refused := Matches.malformed (α := Datum) .byteOrderMark (.whole ('\ufeff' :: rest))
    rw [starts] at refused ⊢
    exact refused
  · have spaces := endsWith_skipSpace t
    have first := (allMatch standIn _ _).value (skipSpace t) (Nat.le_refl _) (Nat.le_refl _)
    rw [read, read_of_noMark _ noMark, read_of_noMark _ noMark', skipSpace_unifyBreaks]
    generalize value _ _ (skipSpace t) = found, value _ _ (skipSpace t).unifyBreaks = found'
      at first ⊢
    cases first with
    | digitLimit => exact .digitLimit
    | malformed fault inside => exact .malformed _ (spaces.trans inside)
    | @found datum rest inside =>
        have left := spaces.trans (inside.trans (endsWith_skipSpace rest))
        simp only [bind, Except.bind, skipSpace_unifyBreaks]
        generalize skipSpace rest = next at left ⊢
        cases next with
        | nil => exact .found left
        | cons c others =>
            have more : unifyBreaks (c :: others) ≠ [] :=
              mt unifyBreaks_eq_nil.mp (List.cons_ne_nil c others)
            obtain ⟨d, after, starts⟩ := List.exists_cons_of_ne_nil more
            have refused := Matches.malformed (α := Datum) .afterEnd left
            rw [starts] at refused ⊢
            exact refused

end LintFindings.Json

import LintFindings.Json.Reader

/-!
Reading values, items and members one step at a time. How each step goes on depends on nothing but
the character its text starts with.
-/

namespace LintFindings.Json

section Starts

variable {β : Type} {c first : Char} {rest : Text} {yes : Text → β} {no : β}

/-- One way to go on after a character that a text starts with, and another if it starts otherwise. -/
def ifStarts (c : Char) (t : Text) (yes : Text → β) (no : β) : β :=
  match t with
  | first :: rest => if first = c then yes rest else no
  | [] => no

@[simp] theorem ifStarts_self : ifStarts c (c :: rest) yes no = yes rest := if_pos rfl

theorem ifStarts_ne (other : first ≠ c) : ifStarts c (first :: rest) yes no = no := if_neg other

theorem ifStarts_of_not {t : Text} (other : ∀ rest, t ≠ c :: rest) : ifStarts c t yes no = no := by
  cases t with
  | nil => rfl
  | cons first rest => exact ifStarts_ne fun same => other rest (same ▸ rfl)

end Starts

def simple (t : Text) : Except Refusal (Datum × Text) :=
  match word? t with
  | some found => .ok found
  | none => number t

def afterPart {β : Type} (close : Char) (t : Text) (closed more : Text → Except Refusal β) :
    Except Refusal β :=
  ifStarts close t closed
    (ifStarts ',' t (fun rest => more (skipSpace rest)) (.error (.malformed .comma t)))

section Steps

variable (half : Char)

theorem value_succ (fuel : Nat) (t : Text) :
    value half (fuel + 1) t =
      ifStarts '"' t (fun _ => (string half fuel t).map (Prod.map Datum.text id))
        (ifStarts '[' t
          (fun rest =>
            ifStarts ']' (skipSpace rest) (fun rest => .ok (.list [], rest))
              ((items half fuel (skipSpace rest)).map (Prod.map Datum.list id)))
          (ifStarts '\x7b' t
            (fun rest =>
              ifStarts '\x7d' (skipSpace rest) (fun rest => .ok (.table [], rest))
                ((members half fuel (skipSpace rest)).map
                  (Prod.map (Datum.table ∘ Fields.ofPairs) id)))
            (simple t))) := by
  unfold value
  split
  next rest =>
    rw [ifStarts_self]
    cases string half fuel ('"' :: rest) <;> rfl
  next rest =>
    rw [ifStarts_ne (by decide), ifStarts_self]
    dsimp only
    split
    next rest starts =>
      rw [starts, ifStarts_self]
    next other =>
      rw [ifStarts_of_not other]
      cases items half fuel (skipSpace rest) <;> rfl
  next rest =>
    rw [ifStarts_ne (by decide), ifStarts_ne (by decide), ifStarts_self]
    dsimp only
    split
    next rest starts =>
      rw [starts, ifStarts_self]
    next other =>
      rw [ifStarts_of_not other]
      cases members half fuel (skipSpace rest) <;> rfl
  next noString noList noTable =>
    rw [ifStarts_of_not noString, ifStarts_of_not noList, ifStarts_of_not noTable]
    rfl

theorem items_succ (fuel : Nat) (t : Text) :
    items half (fuel + 1) t = value half fuel t >>= fun (item, rest) =>
      afterPart ']' (skipSpace rest) (fun rest => .ok ([item], rest))
        (fun rest => (items half fuel rest).map (Prod.map (item :: ·) id)) := by
  rw [items]
  congr 1
  funext ⟨item, rest⟩
  dsimp only [afterPart]
  split
  next after starts =>
    rw [starts, ifStarts_self]
    rfl
  next after starts =>
    rw [starts, ifStarts_ne (by decide), ifStarts_self]
    cases items half fuel (skipSpace after) <;> rfl
  next noClose noComma => rw [ifStarts_of_not noClose, ifStarts_of_not noComma]

theorem members_succ (fuel : Nat) (t : Text) :
    members half (fuel + 1) t =
      ifStarts '"' t
        (fun _ => string half fuel t >>= fun (name, rest) =>
          ifStarts ':' (skipSpace rest)
            (fun rest => value half fuel (skipSpace rest) >>= fun (member, rest) =>
              afterPart '\x7d' (skipSpace rest) (fun rest => .ok ([(name, member)], rest))
                (fun rest =>
                  (members half fuel rest).map (Prod.map ((name, member) :: ·) id)))
            (.error (.malformed .colon (skipSpace rest))))
        (.error (.malformed .memberName t)) := by
  conv =>
    lhs
    unfold members
  split
  next rest =>
    rw [ifStarts_self]
    congr 1
    funext ⟨name, rest⟩
    dsimp only
    split
    next afterColon starts =>
      rw [starts, ifStarts_self]
      congr 1
      funext ⟨member, rest⟩
      dsimp only [afterPart]
      split
      next after starts =>
        rw [starts, ifStarts_self]
        rfl
      next after starts =>
        rw [starts, ifStarts_ne (by decide), ifStarts_self]
        cases members half fuel (skipSpace after) <;> rfl
      next noClose noComma => rw [ifStarts_of_not noClose, ifStarts_of_not noComma]
    next noColon => rw [ifStarts_of_not noColon]
  next noQuote => rw [ifStarts_of_not noQuote]

theorem read_of_noMark {t : Text} (noMark : ∀ rest, t ≠ '\ufeff' :: rest) :
    readWith half t = value half (2 * (skipSpace t).length + 1) (skipSpace t) >>= fun (found, rest) =>
      match skipSpace rest with
      | [] => .ok found
      | rest => .error (.malformed .afterEnd rest) := by
  unfold readWith
  split
  next rest => exact absurd rfl (noMark rest)
  next => rfl

end Steps

end LintFindings.Json

import Mathlib.Data.List.Basic

/-! The first member of its kind in a list, and its place. -/

namespace LintFindings

section First

variable {α β : Type} {kind : α → Prop} {members : List α} {place : Nat} {member : α}

/-- The member is of the kind, and none of those before it is. -/
structure IsFirst (kind : α → Prop) (members : List α) (place : Nat) (member : α) : Prop where
  found : kind member
  apart : ∃ before after, members = before ++ member :: after ∧ before.length = place ∧
    ∀ earlier ∈ before, ¬ kind earlier

theorem IsFirst.mem (first : IsFirst kind members place member) : member ∈ members := by
  obtain ⟨before, after, rfl, -, -⟩ := first.apart
  exact List.mem_append_right before List.mem_cons_self

theorem IsFirst.congr {other : α → Prop} (first : IsFirst kind members place member)
    (same : ∀ x, kind x ↔ other x) : IsFirst other members place member := by
  have alike : kind = other := funext fun x => propext (same x)
  exact alike ▸ first

theorem findSome?_cons_eq_or (search : α → Option β) (member : α) (members : List α) :
    (member :: members).findSome? search = (search member).or (members.findSome? search) := by
  rw [List.findSome?_cons]
  cases search member <;> rfl

theorem findSome?_zipIdx_eq_some_iff {search : α × Nat → Option β}
    (kindOf : ∀ x place, kind x ↔ ∃ result, search (x, place) = some result) (result : β) :
    members.zipIdx.findSome? search = some result ↔
      ∃ place member, IsFirst kind members place member ∧ search (member, place) = some result := by
  rw [List.findSome?_eq_some_iff]
  constructor
  · intro found
    obtain ⟨front, ⟨member, place⟩, back, whole, here, earlier⟩ := found
    obtain ⟨before, rest, rfl, rfl, tail⟩ := List.zipIdx_eq_append_iff.mp whole
    obtain ⟨_, after, rfl, same, -⟩ := List.zipIdx_eq_cons_iff.mp tail.symm
    rw [Prod.mk.injEq, Nat.zero_add] at same
    obtain ⟨rfl, rfl⟩ := same
    have found : kind member := (kindOf member _).mpr ⟨result, here⟩
    refine ⟨before.length, member, ⟨found, before, after, rfl, rfl, ?_⟩, here⟩
    intro other present
    obtain ⟨place, inside, rfl⟩ := List.mem_iff_getElem.mp present
    have none := earlier (before[place], place)
      (List.mem_zipIdx_iff_getElem?.mpr (List.getElem?_eq_getElem inside))
    rw [kindOf _ place, none]
    simp
  · intro found
    obtain ⟨place, member, first, here⟩ := found
    obtain ⟨before, after, rfl, rfl, earlier⟩ := first.apart
    refine ⟨before.zipIdx, (member, before.length), after.zipIdx (before.length + 1), ?_, here, ?_⟩
    · rw [List.zipIdx_append, List.zipIdx_cons, Nat.zero_add]
    · intro other present
      have old : ¬ kind other.1 := earlier other.1 (List.fst_mem_of_mem_zipIdx present)
      rw [kindOf _ other.2] at old
      apply Option.eq_none_iff_forall_ne_some.mpr
      intro result found
      exact old ⟨result, found⟩

theorem find?_eq_some_iff_isFirst {test : α → Bool} :
    members.find? test = some member ↔
      ∃ place, IsFirst (fun x => test x = true) members place member := by
  rw [List.find?_eq_some_iff_append]
  constructor
  · intro found
    obtain ⟨here, before, after, whole, earlier⟩ := found
    refine ⟨before.length, here, before, after, whole, rfl, ?_⟩
    intro other present
    simpa using earlier other present
  · intro found
    obtain ⟨place, first⟩ := found
    obtain ⟨before, after, whole, -, earlier⟩ := first.apart
    refine ⟨first.found, before, after, whole, ?_⟩
    intro other present
    simpa using earlier other present

theorem exists_isFirst (some : ∃ member ∈ members, kind member) :
    ∃ place member, IsFirst kind members place member := by
  classical
  obtain ⟨member, present, found⟩ := some
  have search : (members.find? (fun x => decide (kind x))).isSome = true :=
    List.find?_isSome.mpr ⟨member, present, decide_eq_true found⟩
  obtain ⟨first, found⟩ := Option.isSome_iff_exists.mp search
  obtain ⟨place, first⟩ := find?_eq_some_iff_isFirst.mp found
  exact ⟨place, _, first.congr fun x => decide_eq_true_iff⟩

end First

end LintFindings

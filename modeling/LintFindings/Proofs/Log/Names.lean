import LintFindings.Log
import Mathlib.Data.List.Basic
import Mathlib.Data.List.Infix

/-!
Which names put a logger below the top one. Of two periods in a row the tree passes over the one on
the left, so that it depends on how many of them follow the name of the top logger.
-/

namespace LintFindings.Logger

def bare (periods : Nat) : Text := top ++ List.replicate periods '.'

def periodsAfterTop (name : Text) : Nat :=
  ((name.drop top.length).takeWhile (fun c => c == '.')).length

def JoinsTop (name : Text) : Prop := name = top ∨ top <+: name ∧ periodsAfterTop name % 2 = 1

instance : DecidablePred JoinsTop := fun name =>
  inferInstanceAs (Decidable (name = top ∨ top <+: name ∧ periodsAfterTop name % 2 = 1))

/--
No logger in use is named like the top one with periods after it and stands on the way from a name
to the top one.
-/
def Clear (used : List Text) (name : Text) : Prop :=
  ∀ periods, 0 < periods → periods < periodsAfterTop name →
    periods % 2 ≠ periodsAfterTop name % 2 → bare periods ∉ used

/-- No logger in use is named like the top one with an even number of periods after it. -/
def Regular (used : List Text) : Prop := ∀ pairs, bare (2 * pairs + 2) ∉ used

/-- No logger in use is named like the top one with periods after it and nothing else. -/
def NoneBare (used : List Text) : Prop := ∀ periods, bare (periods + 1) ∉ used

section Shape

variable {periods : Nat} {name tail : Text}

theorem bare_zero : bare 0 = top := List.append_nil _

theorem length_bare (periods : Nat) : (bare periods).length = top.length + periods := by
  simp [bare]

theorem bare_injective : Function.Injective bare := by
  intro periods others same
  have lengths := congrArg List.length same
  rw [length_bare, length_bare] at lengths
  omega

theorem periodsAfterTop_bare (closed : tail.head? ≠ some '.') :
    periodsAfterTop (bare periods ++ tail) = periods := by
  have none : tail.takeWhile (fun c => c == '.') = [] := by
    cases tail with
    | nil => rfl
    | cons c rest =>
        have other : c ≠ '.' := fun same => closed (by rw [same]; rfl)
        simp [other]
  have run : ∀ n, (List.replicate n '.' ++ tail).takeWhile (fun c => c == '.') =
      List.replicate n '.' := by
    intro n
    induction n with
    | zero => exact none
    | succ n ih => simpa [List.replicate_succ] using ih
  rw [periodsAfterTop, bare, List.append_assoc, List.drop_left, run, List.length_replicate]

theorem exists_tail (starts : top <+: name) :
    ∃ tail, name = bare (periodsAfterTop name) ++ tail ∧ tail.head? ≠ some '.' := by
  obtain ⟨rest, rfl⟩ := starts
  have run : rest.takeWhile (fun c => c == '.') =
      List.replicate (periodsAfterTop (top ++ rest)) '.' := by
    rw [periodsAfterTop, List.drop_left, List.eq_replicate_length]
    intro c member
    have period := List.all_eq_true.mp (List.all_takeWhile (l := rest)) c member
    simpa using period
  refine ⟨rest.dropWhile (fun c => c == '.'), ?_, ?_⟩
  · rw [bare, ← run, List.append_assoc, List.takeWhile_append_dropWhile]
  · intro found
    have stops := List.head?_dropWhile_not (fun c => c == '.') rest
    rw [found] at stops
    simp at stops

theorem joinsTop_bare_append (closed : tail.head? ≠ some '.') :
    JoinsTop (bare periods ++ tail) ↔ bare periods ++ tail = top ∨ periods % 2 = 1 := by
  have starts : top <+: bare periods ++ tail := by
    rw [bare, List.append_assoc]
    exact List.prefix_append top _
  rw [JoinsTop, periodsAfterTop_bare closed]
  simp [starts]

theorem clear_of_joinsTop {used : List Text} (joins : JoinsTop name) (regular : Regular used) :
    Clear used name := by
  intro periods positive fewer other
  have odd : periodsAfterTop name % 2 = 1 := by
    rcases joins with rfl | ⟨-, odd⟩
    · have run : periodsAfterTop top = 0 := by decide
      omega
    · exact odd
  have even : periods = 2 * (periods / 2 - 1) + 2 := by omega
  rw [even]
  exact regular _

theorem Regular.cons {used : List Text} (regular : Regular used) (joins : JoinsTop name) :
    Regular (name :: used) := by
  intro pairs member
  rcases List.mem_cons.mp member with rfl | member
  · have shape : bare (2 * pairs + 2) = bare (2 * pairs + 2) ++ [] := (List.append_nil _).symm
    rw [shape, joinsTop_bare_append (by simp), List.append_nil] at joins
    rcases joins with atTop | odd
    · have lengths := bare_injective (atTop.trans bare_zero.symm)
      omega
    · omega
  · exact regular pairs member

theorem clear_of_noneBare {used : List Text} (noneBare : NoneBare used) (name : Text) :
    Clear (name :: used) name := by
  intro periods positive fewer other member
  rcases List.mem_cons.mp member with rfl | member
  · have shape : bare periods = bare periods ++ [] := (List.append_nil _).symm
    rw [shape, periodsAfterTop_bare (by simp)] at fewer
    omega
  · have more : periods = periods - 1 + 1 := by omega
    rw [more] at member
    exact noneBare _ member

theorem top_prefix_fullName (name : Option Text) : top <+: fullName name := by
  cases name with
  | none => exact List.prefix_refl top
  | some name =>
      cases starts : top.isPrefixOf name with
      | true => simpa [fullName, starts] using List.isPrefixOf_iff_prefix.mp starts
      | false => simp [fullName, starts]

end Shape

section Outer

variable {used : List Text} {name outside tail : Text} {periods : Nat}

theorem outer_append (base : Text) (closed : tail.head? ≠ some '.') :
    outer (base ++ tail) = (outer tail).map (base ++ ·) ++ outer base := by
  have scan : ∀ front : Text, front.getLast? ≠ some '.' →
      outerOfReversed (front ++ base.reverse) =
        (outerOfReversed front).map (base ++ ·) ++ outerOfReversed base.reverse := by
    intro front
    induction front using outerOfReversed.induct with
    | case1 => simp [outerOfReversed]
    | case2 => simp
    | case3 last rest ih =>
        intro closed
        cases rest with
        | nil => simp [outerOfReversed]
        | cons next rest =>
            have rest' := ih (by simpa using closed)
            rw [List.cons_append] at rest'
            simp [outerOfReversed, rest']
    | case4 c rest alone pair ih =>
        intro closed
        have other : c ≠ '.' := by
          intro same
          cases rest with
          | nil => exact alone same rfl
          | cons last rest => exact pair last rest same rfl
        have closed' : rest.getLast? ≠ some '.' := by
          cases rest with
          | nil => simp
          | cons last rest => simpa using closed
        simp [outerOfReversed, other, ih closed']
  have closed' : tail.reverse.getLast? ≠ some '.' := by simpa using closed
  simpa [outer] using scan tail.reverse closed'

theorem mem_outer (member : outside ∈ outer name) :
    outside ≠ [] ∧ outside ++ ['.'] <+: name := by
  have scan : ∀ reversed : Text, outside ∈ outerOfReversed reversed →
      outside ≠ [] ∧ outside ++ ['.'] <+: reversed.reverse := by
    intro reversed
    induction reversed using outerOfReversed.induct with
    | case1 => simp [outerOfReversed]
    | case2 => simp [outerOfReversed]
    | case3 last rest ih =>
        intro member
        rcases List.mem_cons.mp member with rfl | later
        · simp
        · have found := ih later
          refine ⟨found.1, found.2.trans ?_⟩
          simp
    | case4 c rest alone pair ih =>
        intro member
        rw [outerOfReversed.eq_4 c rest alone pair] at member
        have found := ih member
        refine ⟨found.1, found.2.trans ?_⟩
        simp
  simpa using scan name.reverse member

theorem outer_bare_add_two (periods : Nat) :
    outer (bare (periods + 2)) = bare (periods + 1) :: outer (bare periods) := by
  have twice : (bare (periods + 2)).reverse = '.' :: '.' :: (bare periods).reverse := by
    rw [bare, bare, List.replicate_succ', List.replicate_succ']
    simp
  have once : ('.' :: (bare periods).reverse).reverse = bare (periods + 1) := by
    simp [bare, List.replicate_succ']
  rw [outer, twice, outerOfReversed, once, outer]

/-- Of a run of periods every second one is passed over, counted from the last one. -/
theorem mem_outer_bare :
    outside ∈ outer (bare periods) ↔
      ∃ fewer < periods, fewer % 2 ≠ periods % 2 ∧ outside = bare fewer := by
  induction periods using Nat.twoStepInduction with
  | zero =>
      have none : outer (bare 0) = [] := by decide
      simp [none]
  | one =>
      have one : outer (bare 1) = [bare 0] := by decide
      simp [one]
  | more periods ih _ =>
      rw [outer_bare_add_two, List.mem_cons, ih]
      clear ih
      constructor
      · rintro (rfl | ⟨fewer, less, other, rfl⟩)
        · exact ⟨periods + 1, by omega, by omega, rfl⟩
        · exact ⟨fewer, by omega, by omega, rfl⟩
      · rintro ⟨fewer, less, other, rfl⟩
        rcases Nat.lt_or_ge fewer periods with before | after
        · exact .inr ⟨fewer, before, by omega, rfl⟩
        · left
          congr 1
          omega

theorem parent?_eq_some (found : parent? used name = some outside) :
    outside ∈ outer name ∧ (outside = top ∨ outside ∈ used) := by
  refine ⟨List.mem_of_find?_eq_some found, ?_⟩
  simpa using List.find?_some found

theorem joinsTop_parent? (starts : top <+: name) (clear : Clear used name)
    (found : parent? used name = some outside) :
    top <+: outside ∧ Clear used outside ∧ outside.length < name.length ∧
      (JoinsTop outside ↔ JoinsTop name) := by
  obtain ⟨member, reached⟩ := parent?_eq_some found
  have shorter : outside.length < name.length := by
    have bound := (mem_outer member).2.length_le
    rw [List.length_append, List.length_singleton] at bound
    omega
  obtain ⟨tail, shape, closed⟩ := exists_tail starts
  rw [shape, outer_append _ closed, List.mem_append, List.mem_map, mem_outer_bare] at member
  rcases member with ⟨front, inside, rfl⟩ | ⟨fewer, less, other, rfl⟩
  · -- the parent's name goes on after the periods, and they are the same ones
    obtain ⟨nonempty, before⟩ := mem_outer inside
    have closed' : front.head? ≠ some '.' := by
      obtain ⟨after, rfl⟩ := before
      cases front with
      | nil => exact absurd rfl nonempty
      | cons c rest => simpa using closed
    have run : periodsAfterTop (bare (periodsAfterTop name) ++ front) = periodsAfterTop name :=
      periodsAfterTop_bare closed'
    have longer (more : Text) (some : more ≠ []) : bare (periodsAfterTop name) ++ more ≠ top := by
      intro same
      have lengths := congrArg List.length same
      have positive := List.length_pos_iff.mpr some
      rw [List.length_append, length_bare] at lengths
      omega
    have nonempty' : tail ≠ [] := by
      rintro rfl
      simp at before
    refine ⟨?_, ?_, shorter, ?_⟩
    · rw [bare, List.append_assoc]
      exact List.prefix_append top _
    · rw [Clear, run]
      exact clear
    · rw [joinsTop_bare_append closed']
      conv_rhs => rw [shape, joinsTop_bare_append closed]
      simp [longer front nonempty, longer tail nonempty']
  · -- the parent is the top logger itself: the way is clear of the others
    have none : fewer = 0 := by
      by_contra some
      rcases reached with same | member
      · exact some (bare_injective (same.trans bare_zero.symm))
      · exact clear fewer (Nat.pos_of_ne_zero some) less other member
    subst none
    have atTop : JoinsTop (bare 0) := .inl bare_zero
    have joins : JoinsTop name := .inr ⟨starts, by omega⟩
    refine ⟨bare_zero ▸ List.prefix_refl top, ?_, shorter, iff_of_true atTop joins⟩
    intro periods positive less'
    have run : periodsAfterTop (bare 0) = 0 := by decide
    omega

theorem top_mem_outer (starts : top <+: name) (odd : periodsAfterTop name % 2 = 1) :
    top ∈ outer name := by
  obtain ⟨tail, shape, closed⟩ := exists_tail starts
  rw [shape, outer_append _ closed]
  apply List.mem_append_right
  rw [mem_outer_bare]
  exact ⟨0, by omega, by omega, bare_zero.symm⟩

theorem reachesTop_iff {steps : Nat} (starts : top <+: name) (clear : Clear used name)
    (enough : name.length < steps) : reachesTop used steps name = true ↔ JoinsTop name := by
  induction steps generalizing name with
  | zero => omega
  | succ steps ih =>
      rw [reachesTop, Bool.or_eq_true, beq_iff_eq]
      cases found : parent? used name with
      | none =>
          have none : ¬ periodsAfterTop name % 2 = 1 := by
            intro odd
            have missed := List.find?_eq_none.mp found top (top_mem_outer starts odd)
            simp at missed
          simp [JoinsTop, none]
      | some outside =>
          obtain ⟨starts', clear', shorter, same⟩ := joinsTop_parent? starts clear found
          rw [ih starts' clear' (by omega), same]
          exact ⟨fun joins => joins.elim .inl id, .inr⟩

/-- The loggers in the tree: the top one, and those with an odd number of periods after its name. -/
theorem isInTree_iff (starts : top <+: name) (clear : Clear used name) :
    isInTree used name = true ↔ JoinsTop name :=
  reachesTop_iff starts clear (Nat.lt_succ_self _)

example : JoinsTop "lint_report.loader" ∧ ¬ JoinsTop "lint_reporter" ∧
    ¬ JoinsTop "lint_report..loader" := by decide

end Outer

end LintFindings.Logger

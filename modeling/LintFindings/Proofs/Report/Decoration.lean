import LintFindings.Proofs.Report.Rendered
import LintFindings.Proofs.Text.Codes

/-!
Color as decoration. Without its escape codes a report in color is the plain one, but for the blanks at
the end of a rule: they are trimmed where no code stands behind them.
-/

namespace LintFindings

namespace Text

/-- The second text is the first one, or if `more` a longer one. -/
structure LongerIf (more : Prop) (s t : Text) : Prop where
  same : ¬ more → t = s
  longer : more → s.length < t.length

namespace LongerIf

variable {p q : Prop} {s t u v : Text}

theorem refl (s : Text) : LongerIf False s s := ⟨fun _ => rfl, False.elim⟩

theorem of_iff (h : LongerIf p s t) (same : p ↔ q) : LongerIf q s t := by
  rw [← same]
  exact h

theorem length_le (h : LongerIf p s t) : s.length ≤ t.length := by
  by_cases more : p
  · exact Nat.le_of_lt (h.longer more)
  · rw [h.same more]

theorem eq_iff (h : LongerIf p s t) : t = s ↔ ¬ p := by
  constructor
  · intro same more
    have longer := h.longer more
    rw [same] at longer
    exact Nat.lt_irrefl _ longer
  · exact h.same

theorem append (first : LongerIf p s t) (second : LongerIf q u v) :
    LongerIf (p ∨ q) (s ++ u) (t ++ v) := by
  constructor
  · intro neither
    rw [first.same fun more => neither (Or.inl more), second.same fun more => neither (Or.inr more)]
  · intro either
    have firstLength := first.length_le
    have secondLength := second.length_le
    simp only [List.length_append]
    rcases either with more | more
    · have longer := first.longer more
      omega
    · have longer := second.longer more
      omega

theorem flatMap {α : Type} {more : α → Prop} {f g : α → Text} {items : List α}
    (each : ∀ x ∈ items, LongerIf (more x) (f x) (g x)) :
    LongerIf (∃ x ∈ items, more x) (items.flatMap f) (items.flatMap g) := by
  induction items with
  | nil => exact (refl []).of_iff (by simp)
  | cons x items ih =>
      have first := each x List.mem_cons_self
      have rest := ih fun y member => each y (List.mem_cons_of_mem x member)
      rw [List.flatMap_cons, List.flatMap_cons]
      exact (first.append rest).of_iff (by simp)

end LongerIf

end Text

namespace Report

open Text

section Codes

theorem endsInk_styled {codes t : Text} (filled : t ≠ []) :
    endsInk (Styler.styled codes t) = true := by
  rw [Styler.styled, if_neg filled]
  exact endsInk_append _ (by decide)

theorem withoutCodes_line (t rest : Text) :
    withoutCodes (line t ++ rest) = line (withoutCodes t) ++ withoutCodes rest := by
  rw [line, List.append_assoc, List.singleton_append, withoutCodes_append_newline, line,
    List.append_assoc, List.singleton_append]

theorem withoutCodes_lines (lines : List Text) :
    withoutCodes (lines.flatMap line) = lines.flatMap (fun t => line (withoutCodes t)) := by
  induction lines with
  | nil => exact withoutCodes_nil
  | cons t lines ih => rw [List.flatMap_cons, List.flatMap_cons, withoutCodes_line, ih]

theorem withoutCodes_gap (s t : Text) :
    withoutCodes (s ++ (columnGap ++ t)) = withoutCodes s ++ (columnGap ++ withoutCodes t) := by
  have second : withoutCodes (' ' :: t) = ' ' :: withoutCodes t := withoutCodes_cons (by decide) t
  change withoutCodes (s ++ ' ' :: (' ' :: t)) = _
  rw [withoutCodes_append_blank, second]
  rfl

theorem withoutCodes_pad (styled plain : Text) (width : Nat) :
    withoutCodes (pad styled plain width) = pad (withoutCodes styled) plain width := by
  have blank : ∀ c ∈ List.replicate (width - plain.length) ' ', isBlank c = true := by
    intro c member
    rw [List.eq_of_mem_replicate member]
    exact isBlank_space
  rw [pad, withoutCodes_append_blanks _ blank, pad]

end Codes

section Rows

variable (w : Widths) (cells : Cells)

theorem withoutCodes_styledLabel :
    withoutCodes (styledLabel .colored cells) = withoutCodes (styledLabel .plain cells) := by
  unfold styledLabel
  split
  · exact withoutCodes_styled "31" (by decide) cells.label
  · exact withoutCodes_styled "33" (by decide) cells.label

theorem withoutCodes_rowFront :
    withoutCodes (rowFront .colored w cells) = withoutCodes (rowFront .plain w cells) := by
  have muted : withoutCodes (Styler.colored.muted cells.position) = withoutCodes cells.position :=
    withoutCodes_styled "2" (by decide) cells.position
  have apart (styler : Styler) : withoutCodes (rowFront styler w cells) =
      columnGap ++ (pad (withoutCodes (styler.muted cells.position)) cells.position w.position ++
        (columnGap ++ withoutCodes (styledLabel styler cells))) := by
    have start := withoutCodes_gap [] (pad (styler.muted cells.position) cells.position w.position ++
      (columnGap ++ styledLabel styler cells))
    rw [withoutCodes_nil, List.nil_append, List.nil_append] at start
    rw [rowFront, List.append_assoc, List.append_assoc, start, withoutCodes_gap, withoutCodes_pad]
  rw [apart, apart, muted, withoutCodes_styledLabel]
  rfl

theorem withoutCodes_rowMiddle (t : Text) :
    withoutCodes (rowMiddle w cells ++ t) =
      withoutCodes (rowMiddle w cells) ++ withoutCodes t := by
  have apart (t : Text) : rowMiddle w cells ++ t =
      (List.replicate (w.label - cells.label.length) ' ' ++ columnGap ++
        pad cells.text cells.text w.text) ++ (columnGap ++ t) := by
    simp only [rowMiddle, List.append_assoc]
  have alone := apart []
  rw [List.append_nil] at alone
  rw [apart, withoutCodes_gap, alone, withoutCodes_gap, withoutCodes_nil, List.append_nil,
    List.append_assoc (withoutCodes _)]

def rowEnd (styler : Styler) : Text := (rowMiddle w cells ++ styler.muted cells.rule).trimEnd

theorem withoutCodes_append_rowEnd (styler : Styler) (front : Text) :
    withoutCodes (front ++ rowEnd w cells styler) =
      withoutCodes front ++ withoutCodes (rowEnd w cells styler) := by
  have gap : columnGap = List.replicate 2 ' ' := rfl
  have start : ∃ t, rowMiddle w cells ++ styler.muted cells.rule = ' ' :: t := by
    rw [rowMiddle, gap, List.replicate_append_replicate, List.replicate_succ]
    exact ⟨_, rfl⟩
  rcases start with ⟨t, start⟩
  rw [rowEnd, start]
  rcases trimEnd_cons ' ' t with nothing | ⟨rest, kept⟩
  · rw [nothing, List.append_nil, withoutCodes_nil, List.append_nil]
  · rw [kept, withoutCodes_append_blank, withoutCodes_cons (by decide)]

/-- Only blanks at the end of a rule make a difference: a code behind them keeps them. -/
theorem rowEnd_longerIf :
    LongerIf (endsBlank cells.rule = true) (withoutCodes (rowEnd w cells .plain))
      (withoutCodes (rowEnd w cells .colored)) := by
  have plain : rowEnd w cells .plain = (rowMiddle w cells ++ cells.rule).trimEnd := rfl
  have colored : rowEnd w cells .colored =
      (rowMiddle w cells ++ Styler.styled "2" cells.rule).trimEnd := rfl
  have sameWhole : withoutCodes (rowMiddle w cells ++ Styler.styled "2" cells.rule) =
      withoutCodes (rowMiddle w cells ++ cells.rule) := by
    rw [withoutCodes_rowMiddle, withoutCodes_rowMiddle, withoutCodes_styled "2" (by decide)]
  have kept (filled : cells.rule ≠ []) :
      withoutCodes (rowEnd w cells .colored) = withoutCodes (rowMiddle w cells ++ cells.rule) := by
    rw [colored, trimEnd_of_endsInk (endsInk_append _ (endsInk_styled filled)), sameWhole]
  rcases endsInk_cases cells.rule with empty | ink | blank
  · -- Without a rule both rows end with the text and are trimmed alike.
    have noBlank : endsBlank cells.rule = false := by rw [empty]; rfl
    have same : rowEnd w cells .colored = rowEnd w cells .plain := by
      rw [colored, plain, empty]
      rfl
    rw [same]
    exact (LongerIf.refl _).of_iff (by simp [noBlank])
  · have noBlank := not_endsBlank_of_endsInk ink
    have filled : cells.rule ≠ [] := by
      intro empty
      rw [empty] at ink
      exact absurd ink (by decide)
    rw [kept filled, plain, trimEnd_of_endsInk (endsInk_append _ ink)]
    exact (LongerIf.refl _).of_iff (by simp [noBlank])
  · have filled : cells.rule ≠ [] := by
      intro empty
      rw [empty] at blank
      exact absurd blank (by decide)
    have wholeBlank : endsBlank (rowMiddle w cells ++ cells.rule) = true := endsBlank_append _ blank
    rcases exists_trimEnd_append (rowMiddle w cells ++ cells.rule) with ⟨blanks, apart, blankOnly⟩
    have someBlanks : blanks ≠ [] := by
      intro none
      rw [none, List.append_nil] at apart
      exact trimEnd_ne_of_endsBlank wholeBlank apart.symm
    have longer : withoutCodes (rowEnd w cells .colored) =
        withoutCodes (rowEnd w cells .plain) ++ blanks := by
      rw [kept filled, plain, ← withoutCodes_append_blanks _ blankOnly, ← apart]
    rw [longer]
    constructor
    · exact fun noBlank => absurd blank noBlank
    · intro _
      have positive := List.length_pos_iff.mpr someBlanks
      rw [List.length_append]
      omega

theorem row_longerIf (f : Finding) :
    LongerIf (endsBlank (f.rule.getD []) = true)
      (line (withoutCodes (row .plain w (cellsOf f))))
      (line (withoutCodes (row .colored w (cellsOf f)))) := by
  have plainInk : endsInk (styledLabel .plain (cellsOf f)) = true := by
    rw [styledLabel_plain]
    exact f.word_endsInk
  have coloredInk : endsInk (styledLabel .colored (cellsOf f)) = true := by
    have filled : (cellsOf f).label ≠ [] := f.word_ne_nil
    unfold styledLabel
    split
    · exact endsInk_styled filled
    · exact endsInk_styled filled
  have apart {styler : Styler} (ink : endsInk (styledLabel styler (cellsOf f)) = true) :
      line (withoutCodes (row styler w (cellsOf f))) =
        withoutCodes (rowFront styler w (cellsOf f)) ++
          (withoutCodes (rowEnd w (cellsOf f) styler) ++ ['\n']) := by
    rw [row_eq _ _ _ ink, ← rowEnd, withoutCodes_append_rowEnd, line, List.append_assoc]
  have front := LongerIf.refl (withoutCodes (rowFront .plain w (cellsOf f)))
  have tail := (rowEnd_longerIf w (cellsOf f)).append (LongerIf.refl ['\n'])
  rw [apart plainInk, apart coloredInk, withoutCodes_rowFront]
  exact (front.append tail).of_iff (by simp [cellsOf])

end Rows

section Files

theorem rowsOf_longerIf (findings : List Finding) :
    LongerIf (∃ f ∈ findings, endsBlank (f.rule.getD []) = true)
      ((rowsOf .plain findings).flatMap (fun t => line (withoutCodes t)))
      ((rowsOf .colored findings).flatMap (fun t => line (withoutCodes t))) := by
  simp only [rowsOf, List.flatMap_map]
  exact LongerIf.flatMap fun f _ => row_longerIf _ f

theorem blockLines_longerIf (file : FileFindings) :
    LongerIf (∃ f ∈ file.findings, endsBlank (f.rule.getD []) = true)
      ((blockLines .plain file).flatMap (fun t => line (withoutCodes t)))
      ((blockLines .colored file).flatMap (fun t => line (withoutCodes t))) := by
  have path : withoutCodes (Styler.colored.path file.path) =
      withoutCodes (Styler.plain.path file.path) := withoutCodes_styled "4" (by decide) file.path
  simp only [blockLines, List.flatMap_cons, path]
  have top := LongerIf.refl (line (withoutCodes (Styler.plain.path file.path)))
  have rows := top.append (rowsOf_longerIf file.findings)
  exact ((LongerIf.refl (line (withoutCodes []))).append rows).of_iff (by simp)

theorem withoutCodes_emphasized (totals : Totals) :
    withoutCodes (emphasized .colored totals) = withoutCodes (emphasized .plain totals) := by
  unfold emphasized
  split
  · exact withoutCodes_styled "1;31" (by decide) (summary totals)
  · exact withoutCodes_styled "1;33" (by decide) (summary totals)

theorem rendered_longerIf (files : List FileFindings) :
    LongerIf (∃ file ∈ withFindings files, ∃ f ∈ file.findings, endsBlank (f.rule.getD []) = true)
      (withoutCodes (rendered .plain files)) (withoutCodes (rendered .colored files)) := by
  by_cases shown : withFindings files = []
  · have empty (styler : Styler) : rendered styler files = [] := by rw [rendered, shown]
    rw [empty, empty, shown]
    exact (LongerIf.refl _).of_iff (by simp)
  · rw [rendered_eq_lines _ shown, rendered_eq_lines _ shown, withoutCodes_lines,
      withoutCodes_lines]
    simp only [reportLines, List.flatMap_append, List.flatMap_assoc, List.flatMap_cons,
      withoutCodes_emphasized]
    have blocks := LongerIf.flatMap fun file (_ : file ∈ withFindings files) =>
      blockLines_longerIf file
    exact (blocks.append (LongerIf.refl _)).of_iff (by simp)

/--
A report in color fails as the plain one does. If both are given out they are the same without their codes
unless a rule ends with a blank.
-/
theorem withoutCodes_write (files : List FileFindings) :
    (∀ halt, (write .colored files).result = .error halt ↔
      (write .plain files).result = .error halt) ∧
    ∀ colored plain, (write .colored files).result = .ok colored →
      (write .plain files).result = .ok plain →
      (withoutCodes colored = withoutCodes plain ↔
        ∀ file ∈ files, ∀ f ∈ file.findings, endsBlank (f.rule.getD []) = false) := by
  constructor
  · intro halt
    rw [write_result, write_result]
    cases stop? files with
    | some stop => rfl
    | none =>
        cases endingIsWritable files with
        | false => rfl
        | true => simp
  · intro colored plain coloredWritten plainWritten
    rw [rendered_of_write coloredWritten, rendered_of_write plainWritten,
      (rendered_longerIf files).eq_iff]
    constructor
    · intro none file present f found
      by_contra blank
      have shown : file ∈ withFindings files := by
        rw [withFindings, List.mem_filter]
        have filled : file.findings ≠ [] := List.ne_nil_of_mem found
        exact ⟨present, by simp [filled]⟩
      exact none ⟨file, shown, f, found, by simpa using blank⟩
    · rintro noBlank ⟨file, shown, f, found, blank⟩
      rw [noBlank file (List.mem_of_mem_filter shown) f found] at blank
      cases blank

end Files

end Report

end LintFindings

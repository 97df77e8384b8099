import LintFindings.Proofs.Report.Rendered
import LintFindings.Proofs.Text.Decimal
import LintFindings.Proofs.Text.Trimmed

/-!
Reading a report back. The lines of a report without styles fall into groups, one for each block
and one for the summary; from them come the paths, the place and weight of each finding, and the totals.
-/

namespace LintFindings

namespace Text

def cutAt (mark : Char) : Text → Text × Text
  | [] => ([], [])
  | c :: rest =>
    if c = mark then ([], rest)
    else
      let (front, back) := cutAt mark rest
      (c :: front, back)

theorem cutAt_append {mark : Char} {front : Text} (clean : mark ∉ front) (back : Text) :
    cutAt mark (front ++ mark :: back) = (front, back) := by
  induction front with
  | nil => simp [cutAt]
  | cons c front ih =>
      have other : c ≠ mark := by
        intro same
        exact clean (by simp [same])
      have tail : mark ∉ front := fun member => clean (List.mem_cons_of_mem c member)
      simp [cutAt, other, ih tail]

theorem split_append {mark : Char} {front : Text} (clean : mark ∉ front) (back : Text) :
    split mark (front ++ mark :: back) = front :: split mark back := by
  induction front with
  | nil => simp [split]
  | cons c front ih =>
      have other : c ≠ mark := by
        intro same
        exact clean (by simp [same])
      have tail : mark ∉ front := fun member => clean (List.mem_cons_of_mem c member)
      simp [split, other, ih tail]

end Text

namespace Report

structure Mark where
  line : Int
  column : Int
  isError : Bool
  deriving DecidableEq, Repr

def Mark.ofFinding (f : Finding) : Mark := ⟨f.line, f.column, f.isError⟩

structure Reading where
  files : List (Text × List Mark)
  totals : Totals
  deriving DecidableEq, Repr

def readMark (row : Text) : Mark :=
  let (line, rest) := Text.cutAt ':' (row.drop columnGap.length)
  let (column, rest) := Text.cutAt ' ' rest
  ⟨Text.toInt line, Text.toInt column,
    Severity.error.label.isPrefixOf (rest.dropWhile (· == ' '))⟩

def readTotals (summary : Text) : Totals :=
  let (_, counts) := Text.cutAt '(' summary
  let (errors, rest) := Text.cutAt ' ' counts
  let (_, rest) := Text.cutAt ',' rest
  let (warnings, _) := Text.cutAt ' ' (rest.drop 1)
  ⟨Text.toInt errors, Text.toInt warnings⟩

/--
Lines in groups, each with its first line apart. An empty line ends a group, but the first line
of a group is taken as it is; `group` is the one that is still open.
-/
def groups (group : Option (Text × List Text)) : List Text → List (Text × List Text)
  | [] => group.toList
  | t :: rest =>
    match group with
    | none => groups (some (t, [])) rest
    | some (first, others) =>
      if t = [] then (first, others) :: groups none rest
      else groups (some (first, others ++ [t])) rest

/-- Reads a report: its last group is the summary, and every other one a block. -/
def read? (report : Text) : Option Reading :=
  let all := groups none ((Text.split '\n' report).drop 1)
  all.getLast?.map fun (summary, _) =>
    ⟨all.dropLast.map (fun (path, rows) => (path, rows.map readMark)), readTotals summary⟩

section Lines

theorem split_lines {lines : List Text} (clean : ∀ t ∈ lines, '\n' ∉ t) :
    Text.split '\n' (lines.flatMap line) = lines ++ [[]] := by
  induction lines with
  | nil => rfl
  | cons t lines ih =>
      have rest : ∀ t ∈ lines, '\n' ∉ t := fun t member => clean t (List.mem_cons_of_mem _ member)
      rw [List.flatMap_cons, line, List.append_assoc, List.singleton_append,
        Text.split_append (clean t List.mem_cons_self), ih rest, List.cons_append]

theorem groups_append {others : List Text} (filled : ∀ t ∈ others, t ≠ [])
    (first : Text) (before rest : List Text) :
    groups (some (first, before)) (others ++ [] :: rest) =
      (first, before ++ others) :: groups none rest := by
  induction others generalizing before with
  | nil => simp [groups]
  | cons t others ih =>
      have here : t ≠ [] := filled t List.mem_cons_self
      have later : ∀ t ∈ others, t ≠ [] := fun t member => filled t (List.mem_cons_of_mem _ member)
      simp only [List.cons_append, groups, if_neg here]
      rw [ih later, List.append_assoc, List.singleton_append]

theorem emphasized_plain (totals : Totals) : emphasized .plain totals = summary totals := by
  unfold emphasized
  split <;> rfl

theorem groups_reportLines {shown : List FileFindings}
    (filled : ∀ file ∈ shown, ∀ t ∈ rowsOf .plain file.findings, t ≠ []) (totals : Totals) :
    groups none ((reportLines .plain shown totals ++ [[]]).drop 1) =
      shown.map (fun file => (file.path, rowsOf .plain file.findings)) ++
        [(summary totals, [])] := by
  have last : emphasized .plain totals = summary totals := emphasized_plain totals
  induction shown with
  | nil => simp [reportLines, groups, last]
  | cons file shown ih =>
      have later := ih fun file member => filled file (List.mem_cons_of_mem _ member)
      -- Whatever follows a block starts with the empty line that ends it.
      have blank : reportLines .plain shown totals ++ [[]] =
          [] :: (reportLines .plain shown totals ++ [[]]).drop 1 := by
        cases shown <;> rfl
      have apart : (reportLines .plain (file :: shown) totals ++ [[]]).drop 1 =
          file.path :: (rowsOf .plain file.findings ++ (reportLines .plain shown totals ++ [[]])) := by
        rw [reportLines, reportLines, List.flatMap_cons, blockLines]
        simp only [List.cons_append, List.append_assoc, List.drop_succ_cons, List.drop_zero]
        rfl
      rw [apart, groups, blank, groups_append (filled file List.mem_cons_self), later]
      rfl

end Lines

section Rows

theorem row_plain (w : Widths) (f : Finding) :
    ∃ blanks rest, row .plain w (cellsOf f) =
      columnGap ++ (Text.ofInt f.line ++ ':' :: (Text.ofInt f.column ++
        ' ' :: (List.replicate blanks ' ' ++ (f.word ++ rest)))) := by
  refine ⟨w.position - (cellsOf f).position.length + 1,
    (rowMiddle w (cellsOf f) ++ (cellsOf f).rule).trimEnd, ?_⟩
  have ink : Text.endsInk (styledLabel .plain (cellsOf f)) = true := by
    rw [styledLabel_plain]
    exact f.word_endsInk
  have gap : columnGap = List.replicate 2 ' ' := rfl
  have blanks (k : Nat) (rest : Text) : List.replicate k ' ' ++ (columnGap ++ rest) =
      ' ' :: (List.replicate (k + 1) ' ' ++ rest) := by
    rw [gap, ← List.append_assoc, List.replicate_append_replicate, ← List.cons_append,
      ← List.replicate_succ]
  have muted (t : Text) : Styler.plain.muted t = t := rfl
  rw [row_eq _ _ _ ink]
  simp only [rowFront, pad, styledLabel_plain, muted, List.append_assoc, blanks]
  simp only [cellsOf, List.append_assoc, List.cons_append]

theorem isPrefixOf_word (f : Finding) (rest : Text) :
    Severity.error.label.isPrefixOf (f.word ++ rest) = f.isError := by
  unfold Finding.word
  cases f.isError <;> rfl

theorem word_not_blank (f : Finding) (rest : Text) :
    (f.word ++ rest).dropWhile (· == ' ') = f.word ++ rest := by
  unfold Finding.word
  cases f.isError <;> rfl

theorem readMark_row (w : Widths) (f : Finding) :
    readMark (row .plain w (cellsOf f)) = .ofFinding f := by
  rcases row_plain w f with ⟨blanks, rest, apart⟩
  have noColon : ':' ∉ Text.ofInt f.line := Text.not_mem_ofInt (by decide) (by decide) _
  have noBlank : ' ' ∉ Text.ofInt f.column := Text.not_mem_ofInt (by decide) (by decide) _
  have gap : ∀ c ∈ List.replicate blanks ' ', (c == ' ') = true := by
    intro c member
    rw [List.eq_of_mem_replicate member]
    rfl
  rw [apart, readMark, List.drop_left]
  simp only [Text.cutAt_append noColon, Text.cutAt_append noBlank]
  rw [List.dropWhile_append_of_pos gap, word_not_blank, isPrefixOf_word, Text.toInt_ofInt,
    Text.toInt_ofInt]
  rfl

theorem rowsOf_plain_filled {findings : List Finding} :
    ∀ t ∈ rowsOf .plain findings, t ≠ [] := by
  intro t member
  simp only [rowsOf, List.map_map, List.mem_map, Function.comp_apply] at member
  rcases member with ⟨f, -, rfl⟩
  rcases row_plain (widths (findings.map cellsOf)) f with ⟨blanks, rest, apart⟩
  rw [apart]
  exact List.cons_ne_nil _ _

theorem map_readMark_rowsOf (findings : List Finding) :
    (rowsOf .plain findings).map readMark = findings.map Mark.ofFinding := by
  simp only [rowsOf, List.map_map]
  apply List.map_congr_left
  intro f _
  exact readMark_row _ f

end Rows

section Totals

theorem not_mem_plural {c : Char} {word : Text} (noPlural : c ≠ 's') (clean : c ∉ word)
    (count : Int) : c ∉ plural word count := by
  unfold plural
  split
  · exact clean
  · simp [clean, noPlural]

theorem readTotals_summary (totals : Totals) : readTotals (summary totals) = totals := by
  have noOpening : '(' ∉ ("✖ " : Text) ++ (counted totals.all "problem" ++ [' ']) := by
    have number : '(' ∉ Text.ofInt totals.all := Text.not_mem_ofInt (by decide) (by decide) _
    have word : '(' ∉ plural "problem".toList totals.all :=
      not_mem_plural (by decide) (by decide) _
    simp only [counted_eq, List.mem_append, List.mem_cons, not_or]
    exact ⟨by decide, ⟨number, by decide, word⟩, by decide, by decide⟩
  have noBlank (n : Int) : ' ' ∉ Text.ofInt n := Text.not_mem_ofInt (by decide) (by decide) n
  have noComma : ',' ∉ plural "error".toList totals.errors :=
    not_mem_plural (by decide) (by decide) _
  have apart : summary totals =
      (("✖ " : Text) ++ (counted totals.all "problem" ++ [' '])) ++ '(' ::
        (Text.ofInt totals.errors ++ ' ' :: (plural "error".toList totals.errors ++ ',' ::
          (' ' :: (Text.ofInt totals.warnings ++ ' ' ::
            (plural "warning".toList totals.warnings ++ [')']))))) := by
    simp only [summary_eq, counted_eq, List.append_assoc, List.cons_append]
    rfl
  rw [apart, readTotals, Text.cutAt_append noOpening]
  simp only [Text.cutAt_append (noBlank _), Text.cutAt_append noComma, List.drop_succ_cons,
    List.drop_zero, Text.toInt_ofInt]

theorem newline_not_mem_summary (totals : Totals) : '\n' ∉ summary totals := by
  have number (n : Int) : '\n' ∉ Text.ofInt n := Text.not_mem_ofInt (by decide) (by decide) n
  have counts (n : Int) (word : String) (clean : '\n' ∉ word.toList) : '\n' ∉ counted n word := by
    have plural : '\n' ∉ plural word.toList n := not_mem_plural (by decide) clean n
    simp only [counted_eq, List.mem_append, List.mem_cons, not_or]
    exact ⟨number n, by decide, plural⟩
  have problems := counts totals.all "problem" (by decide)
  have errors := counts totals.errors "error" (by decide)
  have warnings := counts totals.warnings "warning" (by decide)
  simp only [summary_eq, List.mem_append, not_or]
  exact ⟨⟨⟨⟨⟨⟨by decide, problems⟩, by decide⟩, errors⟩, by decide⟩, warnings⟩, by decide⟩

end Totals

section Files

/-- Nothing that a block shows of a file breaks a line. -/
def IsOnOneLine (file : FileFindings) : Prop :=
  '\n' ∉ file.path ∧
    ∀ f ∈ file.findings, '\n' ∉ f.text ∧ '\n' ∉ f.rule.getD []

instance (file : FileFindings) : Decidable (IsOnOneLine file) :=
  inferInstanceAs (Decidable (_ ∧ _))

theorem newline_not_mem_row {f : Finding} (w : Widths) (text : '\n' ∉ f.text)
    (rule : '\n' ∉ f.rule.getD []) : '\n' ∉ row .plain w (cellsOf f) := by
  intro member
  have inFull := Text.mem_of_mem_trimEnd member
  have number (n : Int) : '\n' ∉ Text.ofInt n := Text.not_mem_ofInt (by decide) (by decide) n
  have gap : '\n' ∉ columnGap := by decide
  have blanks (k : Nat) : '\n' ∉ List.replicate k ' ' := by
    intro member
    exact absurd (List.eq_of_mem_replicate member) (by decide)
  have word : '\n' ∉ f.word := by
    unfold Finding.word
    cases f.isError <;> decide
  have muted (t : Text) : Styler.plain.muted t = t := rfl
  rw [fullRow_eq] at inFull
  simp only [rowFront, rowMiddle, pad, styledLabel_plain, muted, List.mem_append, gap, blanks, word,
    or_false, false_or] at inFull
  simp only [cellsOf, List.mem_append, List.mem_cons, number, text, rule, or_false, false_or]
    at inFull
  exact absurd inFull (by decide)

theorem newline_not_mem_blockLines {file : FileFindings} (oneLine : IsOnOneLine file) :
    ∀ t ∈ blockLines .plain file, '\n' ∉ t := by
  intro t member
  simp only [blockLines, List.mem_cons] at member
  rcases member with rfl | rfl | row
  · exact List.not_mem_nil
  · exact oneLine.1
  · simp only [rowsOf, List.map_map, List.mem_map, Function.comp_apply] at row
    rcases row with ⟨f, inFile, rfl⟩
    have shown := oneLine.2 f inFile
    exact newline_not_mem_row _ shown.1 shown.2

theorem newline_not_mem_reportLines {shown : List FileFindings}
    (oneLine : ∀ file ∈ shown, IsOnOneLine file) (totals : Totals) :
    ∀ t ∈ reportLines .plain shown totals, '\n' ∉ t := by
  intro t member
  simp only [reportLines, List.mem_append, List.mem_flatMap, List.mem_cons, List.not_mem_nil,
    or_false] at member
  rcases member with ⟨file, present, inBlock⟩ | rfl | rfl
  · exact newline_not_mem_blockLines (oneLine file present) t inBlock
  · exact List.not_mem_nil
  · rw [emphasized_plain]
    exact newline_not_mem_summary totals

def Reading.ofFiles (files : List FileFindings) : Reading where
  files := (withFindings files).map fun file => (file.path, file.findings.map Mark.ofFinding)
  totals := .ofFiles files

theorem read?_lines {shown : List FileFindings} (oneLine : ∀ file ∈ shown, IsOnOneLine file)
    (totals : Totals) :
    read? ((reportLines .plain shown totals).flatMap line) =
      some ⟨shown.map fun file => (file.path, file.findings.map Mark.ofFinding), totals⟩ := by
  have clean := newline_not_mem_reportLines oneLine totals
  have filled : ∀ file ∈ shown, ∀ t ∈ rowsOf .plain file.findings, t ≠ [] :=
    fun file _ => rowsOf_plain_filled
  rw [read?, split_lines clean, groups_reportLines filled]
  simp only [List.getLast?_concat, List.dropLast_concat, Option.map_some, List.map_map,
    readTotals_summary, Option.some.injEq, Reading.mk.injEq, and_true]
  apply List.map_congr_left
  intro file _
  simp only [Function.comp_apply, map_readMark_rowsOf]

/--
A report without styles can be read back: the paths in their order, under each of them the place and
weight of every finding in its order, and the totals. A path may look like any other line.
-/
theorem read?_format {styler : Styler} (uncolored : styler = .plain ∨ styler = .uncolored)
    {files : List FileFindings} {report : Text} (formatted : format styler files = .ok report)
    (filled : report ≠ []) (oneLine : ∀ file ∈ files, IsOnOneLine file) :
    read? report = some (.ofFiles files) := by
  have sameStyle : rendered styler files = rendered .plain files := by
    rcases uncolored with rfl | rfl <;> rfl
  have same : report = rendered .plain files := by
    rw [rendered_of_format formatted, sameStyle]
  have shown : withFindings files ≠ [] := by
    intro none
    apply filled
    rw [same, rendered, none]
  have kept : ∀ file ∈ withFindings files, IsOnOneLine file := by
    intro file member
    exact oneLine file (List.mem_of_mem_filter member)
  rw [same, rendered_eq_lines _ shown, read?_lines kept]
  rfl

def deceptiveFiles : List FileFindings :=
  [⟨"", [⟨"  1:2  error  x", 1, -3, 40, some "  ", false⟩, ⟨" .", 7, 0, -1, none, true⟩], -2, 5⟩,
    ⟨"skipped", [], 1, 0⟩,
    ⟨"  5:10  error  Unexpected", [⟨"", 2, 5, 10, some "✖ 1 problem", false⟩], 0, 0⟩,
    ⟨"✖ 1 problem (1 error, 0 warnings)", [⟨"(4 errors, 4", 1, 7, 8, none, false⟩], 3, 0⟩]

theorem read?_format_deceptiveFiles :
    ∃ report, format .plain deceptiveFiles = .ok report ∧ report ≠ [] ∧
      (∀ file ∈ deceptiveFiles, IsOnOneLine file) ∧
      read? report = some (.ofFiles deceptiveFiles) := by
  have formatted : format .plain deceptiveFiles = .ok (rendered .plain deceptiveFiles) := rfl
  have filled : rendered .plain deceptiveFiles ≠ [] := List.cons_ne_nil _ _
  have oneLine : ∀ file ∈ deceptiveFiles, IsOnOneLine file := by decide
  exact ⟨_, formatted, filled, oneLine, read?_format (Or.inl rfl) formatted filled oneLine⟩

end Files

end Report

end LintFindings

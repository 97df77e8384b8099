import LintFindings.Proofs.Report.Rendered
import LintFindings.Proofs.Text.Decimal
import LintFindings.Proofs.Text.Trimmed

/-!
The columns of a block without styles. The cells of a column all start at one offset, the widest of
them leaves nothing but the gap behind it, and from the end of a row only blanks are taken away.
-/

namespace LintFindings

namespace Text

/-- The whole part, from the offset on. -/
def StandsAt (t : Text) (offset : Nat) (part : Text) : Prop :=
  ∃ before after, t = before ++ part ++ after ∧ before.length = offset

section Parts

variable {t part : Text} {offset : Nat}

theorem standsAt_append {before : Text} (length : before.length = offset) (part after : Text) :
    StandsAt (before ++ (part ++ after)) offset part :=
  ⟨before, after, (List.append_assoc before part after).symm, length⟩

theorem StandsAt.append (stands : StandsAt t offset part) (more : Text) :
    StandsAt (t ++ more) offset part := by
  obtain ⟨before, after, rfl, length⟩ := stands
  exact ⟨before, after ++ more, List.append_assoc _ _ _, length⟩

theorem endsInk_trimEnd (visible : trimEnd t ≠ []) : endsInk (trimEnd t) = true := by
  have last : ¬ isBlank (t.trimEnd.getLast visible) = true :=
    List.rdropWhile_last_not isBlank t visible
  rw [endsInk, List.getLast?_eq_getLast_of_ne_nil visible]
  simpa using last

theorem trimEnd_append_of_visible (s : Text) (visible : trimEnd t ≠ []) :
    trimEnd (s ++ t) = s ++ trimEnd t := by
  obtain ⟨blanks, whole, blank⟩ := exists_trimEnd_append t
  have none : trimEnd blanks = [] := List.rdropWhile_eq_nil_iff.mpr blank
  have ink : endsInk (s ++ trimEnd t) = true := endsInk_append s (endsInk_trimEnd visible)
  calc
    trimEnd (s ++ t) = trimEnd (s ++ trimEnd t ++ blanks) := by
      conv_lhs => rw [whole]
      rw [List.append_assoc]
    _ = s ++ trimEnd t ++ trimEnd blanks := trimEnd_append ink blanks
    _ = s ++ trimEnd t := by rw [none, List.append_nil]

theorem StandsAt.trimEnd (stands : StandsAt t offset part) (visible : part.trimEnd ≠ []) :
    StandsAt t.trimEnd offset part.trimEnd := by
  obtain ⟨before, after, rfl, length⟩ := stands
  obtain ⟨blanks, whole, -⟩ := exists_trimEnd_append part
  have ink : endsInk (before ++ part.trimEnd) = true :=
    endsInk_append before (endsInk_trimEnd visible)
  refine ⟨before, Text.trimEnd (blanks ++ after), ?_, length⟩
  calc
    Text.trimEnd (before ++ part ++ after) =
        Text.trimEnd (before ++ part.trimEnd ++ (blanks ++ after)) := by
      conv_lhs => rw [whole]
      simp only [List.append_assoc]
    _ = before ++ part.trimEnd ++ Text.trimEnd (blanks ++ after) := trimEnd_append ink _

end Parts

end Text

namespace Finding

def position (f : Finding) : Text := Text.ofInt f.line ++ ':' :: Text.ofInt f.column

end Finding

namespace Report

open Text

section Widths

structure IsWidth (column : Finding → Text) (findings : List Finding) (width : Nat) : Prop where
  fits : ∀ f ∈ findings, (column f).length ≤ width
  reached : ∃ f ∈ findings, (column f).length = width

structure AreWidths (w : Widths) (findings : List Finding) : Prop where
  position : IsWidth Finding.position findings w.position
  label : IsWidth Finding.word findings w.label
  text : IsWidth Finding.text findings w.text

structure Fits (w : Widths) (f : Finding) : Prop where
  labelled : ∃ label, f.label = .ok label
  short : isWritable f.line = true ∧ isWritable f.column = true
  position : f.position.length ≤ w.position
  label : f.word.length ≤ w.label
  text : f.text.length ≤ w.text

theorem length_le_widest (column : Cells → Text) {rows : List Cells} {row : Cells}
    (present : row ∈ rows) : (column row).length ≤ widest column rows := by
  induction rows with
  | nil => cases present
  | cons first rest ih =>
      change (column row).length ≤ max (column first).length (widest column rest)
      rcases List.mem_cons.mp present with rfl | later
      · exact Nat.le_max_left _ _
      · exact Nat.le_trans (ih later) (Nat.le_max_right _ _)

theorem exists_length_eq_widest (column : Cells → Text) {rows : List Cells} (some : rows ≠ []) :
    ∃ row ∈ rows, (column row).length = widest column rows := by
  induction rows with
  | nil => exact absurd rfl some
  | cons first rest ih =>
      have step : widest column (first :: rest) = max (column first).length (widest column rest) :=
        rfl
      by_cases wide : widest column rest ≤ (column first).length
      · exact ⟨first, List.mem_cons_self, by omega⟩
      · have others : rest ≠ [] := by
          intro none
          apply wide
          rw [none]
          exact Nat.zero_le _
        obtain ⟨row, later, longest⟩ := ih others
        exact ⟨row, List.mem_cons_of_mem first later, by omega⟩

theorem isWidth_widest (column : Cells → Text) {findings : List Finding} (some : findings ≠ []) :
    IsWidth (fun f => column (cellsOf f)) findings (widest column (findings.map cellsOf)) := by
  constructor
  · intro f present
    exact length_le_widest column (List.mem_map_of_mem present)
  · have filled : findings.map cellsOf ≠ [] := by simpa using some
    obtain ⟨_, inRows, longest⟩ := exists_length_eq_widest column filled
    obtain ⟨f, present, rfl⟩ := List.mem_map.mp inRows
    exact ⟨f, present, longest⟩

theorem areWidths_widths {findings : List Finding} (some : findings ≠ []) :
    AreWidths (widths (findings.map cellsOf)) findings where
  position := isWidth_widest Cells.position some
  label := isWidth_widest Cells.label some
  text := isWidth_widest Cells.text some

theorem IsWidth.unique {column : Finding → Text} {findings : List Finding} {width other : Nat}
    (one : IsWidth column findings width) (two : IsWidth column findings other) :
    width = other := by
  obtain ⟨f, present, longest⟩ := one.reached
  obtain ⟨g, present', longest'⟩ := two.reached
  have below := two.fits f present
  have above := one.fits g present'
  omega

theorem AreWidths.unique {w other : Widths} {findings : List Finding} (one : AreWidths w findings)
    (two : AreWidths other findings) : w = other := by
  have position := one.position.unique two.position
  have label := one.label.unique two.label
  have text := one.text.unique two.text
  cases w
  cases other
  simp only [Widths.mk.injEq]
  exact ⟨position, label, text⟩

theorem IsWidth.of_subset {column : Finding → Text} {findings longer : List Finding} {width : Nat}
    (isWidth : IsWidth column findings width) (subset : findings ⊆ longer)
    (narrow : ∀ f ∈ longer, (column f).length ≤ width) : IsWidth column longer width := by
  refine ⟨narrow, ?_⟩
  obtain ⟨f, present, longest⟩ := isWidth.reached
  exact ⟨f, subset present, longest⟩

theorem AreWidths.of_subset {w : Widths} {findings longer : List Finding}
    (areWidths : AreWidths w findings) (subset : findings ⊆ longer)
    (fit : ∀ f ∈ longer, Fits w f) : AreWidths w longer where
  position := areWidths.position.of_subset subset fun f present => (fit f present).position
  label := areWidths.label.of_subset subset fun f present => (fit f present).label
  text := areWidths.text.of_subset subset fun f present => (fit f present).text

end Widths

section Rows

def blanks (count : Nat) : Text := List.replicate count ' '

/-- A row before it is trimmed: only blanks before and between the cells, each at its offset. -/
structure IsUntrimmed (w : Widths) (f : Finding) (full : Text) : Prop where
  spaced : full = blanks 2 ++ f.position ++ blanks (w.position - f.position.length + 2) ++ f.word ++
    blanks (w.label - f.word.length + 2) ++ f.text ++ blanks (w.text - f.text.length + 2) ++
    f.rule.getD []
  position : StandsAt full 2 f.position
  label : StandsAt full (w.position + 4) f.word
  text : StandsAt full (w.position + w.label + 6) f.text
  rule : StandsAt full (w.position + w.label + w.text + 8) (f.rule.getD [])

/--
A row as it is printed. Position and label are whole, and so is the text before a rule that can be
seen; what can be seen of the last cell is there.
-/
structure IsAligned (w : Widths) (f : Finding) (row : Text) : Prop where
  trimmed : ∃ full blanks, IsUntrimmed w f full ∧ full = row ++ blanks ∧
    ∀ c ∈ blanks, isBlank c = true
  ends : endsInk row = true
  position : StandsAt row 2 f.position
  label : StandsAt row (w.position + 4) f.word
  text : f.text.trimEnd ≠ [] → StandsAt row (w.position + w.label + 6) f.text.trimEnd
  rule : (f.rule.getD []).trimEnd ≠ [] →
    StandsAt row (w.position + w.label + 6) f.text ∧
      StandsAt row (w.position + w.label + w.text + 8) (f.rule.getD []).trimEnd

variable {w : Widths} {f : Finding}

theorem pad_plain (t : Text) (width : Nat) : pad t t width = t ++ blanks (width - t.length) := rfl

theorem length_pad_plain {t : Text} {width : Nat} (fits : t.length ≤ width) :
    (pad t t width).length = width := by
  rw [pad_plain, List.length_append, blanks, List.length_replicate]
  omega

theorem length_columnGap : columnGap.length = 2 := by decide

theorem blanks_columnGap (count : Nat) : blanks count ++ columnGap = blanks (count + 2) := by
  have gap : columnGap = List.replicate 2 ' ' := by decide
  rw [blanks, blanks, gap, List.replicate_append_replicate]

def beforeText (w : Widths) (f : Finding) : Text :=
  columnGap ++ pad f.position f.position w.position ++ columnGap ++ pad f.word f.word w.label ++
    columnGap

def beforeRule (w : Widths) (f : Finding) : Text :=
  beforeText w f ++ pad f.text f.text w.text ++ columnGap

theorem fullRow_plain (w : Widths) (f : Finding) :
    fullRow .plain w (cellsOf f) = beforeRule w f ++ f.rule.getD [] := by
  have label : (if (cellsOf f).isError then Styler.plain.errorLabel (cellsOf f).label
      else Styler.plain.warningLabel (cellsOf f).label) = f.word := styledLabel_plain f
  rw [fullRow, label]
  rfl

theorem rowFront_plain (w : Widths) (f : Finding) :
    rowFront .plain w (cellsOf f) =
      columnGap ++ pad f.position f.position w.position ++ columnGap ++ f.word := by
  rw [rowFront, styledLabel_plain]
  rfl

theorem length_beforeText (fits : Fits w f) :
    (beforeText w f).length = w.position + w.label + 6 := by
  simp only [beforeText, List.length_append, length_pad_plain fits.position,
    length_pad_plain fits.label, length_columnGap]
  omega

theorem length_beforeRule (fits : Fits w f) :
    (beforeRule w f).length = w.position + w.label + w.text + 8 := by
  simp only [beforeRule, List.length_append, length_beforeText fits, length_pad_plain fits.text,
    length_columnGap]
  omega

theorem standsAt_position (w : Widths) (f : Finding) :
    StandsAt (rowFront .plain w (cellsOf f)) 2 f.position := by
  rw [rowFront_plain, pad_plain]
  simp only [List.append_assoc]
  exact standsAt_append length_columnGap f.position _

theorem standsAt_label (fits : Fits w f) :
    StandsAt (rowFront .plain w (cellsOf f)) (w.position + 4) f.word := by
  have length : (columnGap ++ pad f.position f.position w.position ++ columnGap).length =
      w.position + 4 := by
    simp only [List.length_append, length_pad_plain fits.position, length_columnGap]
    omega
  have stands := standsAt_append length f.word []
  rw [List.append_nil] at stands
  rw [rowFront_plain]
  exact stands

theorem standsAt_text (fits : Fits w f) :
    StandsAt (beforeRule w f) (w.position + w.label + 6) f.text := by
  rw [beforeRule, pad_plain]
  simp only [List.append_assoc]
  exact standsAt_append (length_beforeText fits) f.text _

theorem isUntrimmed_fullRow (fits : Fits w f) : IsUntrimmed w f (fullRow .plain w (cellsOf f)) := by
  have front : fullRow .plain w (cellsOf f) =
      rowFront .plain w (cellsOf f) ++ (rowMiddle w (cellsOf f) ++ f.rule.getD []) :=
    fullRow_eq _ _ _
  constructor
  · have indent : blanks 2 = columnGap := by decide
    rw [fullRow_plain, indent]
    simp only [beforeRule, beforeText, pad_plain, ← blanks_columnGap, List.append_assoc]
  · rw [front]
    exact (standsAt_position w f).append _
  · rw [front]
    exact (standsAt_label fits).append _
  · rw [fullRow_plain]
    exact (standsAt_text fits).append _
  · have stands := standsAt_append (length_beforeRule fits) (f.rule.getD []) []
    rw [List.append_nil] at stands
    rw [fullRow_plain]
    exact stands

theorem isAligned_row (fits : Fits w f) : IsAligned w f (row .plain w (cellsOf f)) := by
  have untrimmed := isUntrimmed_fullRow fits
  have ink : endsInk (styledLabel .plain (cellsOf f)) = true := by
    rw [styledLabel_plain]
    exact f.word_endsInk
  have front := row_eq .plain w (cellsOf f) ink
  constructor
  · obtain ⟨blanks, whole, blank⟩ := exists_trimEnd_append (fullRow .plain w (cellsOf f))
    exact ⟨_, blanks, untrimmed, whole, blank⟩
  · apply endsInk_trimEnd
    rw [← row, front, rowFront_plain]
    exact List.cons_ne_nil _ _
  · rw [front]
    exact (standsAt_position w f).append _
  · rw [front]
    exact (standsAt_label fits).append _
  · exact untrimmed.text.trimEnd
  · intro visible
    refine ⟨?_, untrimmed.rule.trimEnd visible⟩
    rw [row, fullRow_plain, trimEnd_append_of_visible _ visible]
    exact (standsAt_text fits).append _

end Rows

section Blocks

theorem hasLabel_of_label {f : Finding} (labelled : ∃ label, f.label = .ok label) :
    f.hasLabel = true := by
  by_contra unlabelled
  obtain ⟨label, named⟩ := labelled
  rw [Finding.label_of_not_hasLabel (Bool.eq_false_iff.mpr unlabelled)] at named
  cases named

theorem writeRows_of_showable (styler : Styler) {findings : List Finding}
    (labelled : ∀ f ∈ findings, ∃ label, f.label = .ok label)
    (short : ∀ f ∈ findings, isWritable f.line = true ∧ isWritable f.column = true) :
    writeRows styler findings = .ok (rowsOf styler findings) := by
  have known (f : Finding) (present : f ∈ findings) : f.hasLabel = true :=
    hasLabel_of_label (labelled f present)
  have passes : findings.findSome? obstacle? = none := by
    rw [findSome?_obstacle?_eq_none_iff]
    intro f present
    exact ⟨Bool.and_eq_true_iff.mpr (short f present), known f present⟩
  have none : findings.find? isUnlabelled = none :=
    (find?_isUnlabelled_eq_none_iff findings).mpr known
  rw [writeRows, passes, rows, allCells_eq, none]
  rfl

theorem writeRows_plain_of_areWidths {w : Widths} {findings : List Finding}
    (areWidths : AreWidths w findings)
    (labelled : ∀ f ∈ findings, ∃ label, f.label = .ok label)
    (short : ∀ f ∈ findings, isWritable f.line = true ∧ isWritable f.column = true) :
    writeRows .plain findings = .ok (findings.map fun f => row .plain w (cellsOf f)) := by
  have some : findings ≠ [] := by
    obtain ⟨f, present, -⟩ := areWidths.position.reached
    exact List.ne_nil_of_mem present
  have same : widths (findings.map cellsOf) = w := (areWidths_widths some).unique areWidths
  rw [writeRows_of_showable _ labelled short, rowsOf, same, List.map_map]
  rfl

/-- The rows of a block, each made for its finding by a function of that finding alone. -/
structure LinesUp (findings : List Finding) (w : Widths) (rowOf : Finding → Text) : Prop where
  widths : AreWidths w findings
  labels : ∀ f ∈ findings, f.label = .ok f.word
  rows : writeRows .plain findings = .ok (findings.map rowOf)
  aligned : ∀ f ∈ findings, IsAligned w f (rowOf f)
  /-- Further findings, wherever they are put in, leave the rows alone if they are no wider. -/
  kept (longer : List Finding) : findings.Sublist longer →
    (∀ f ∈ longer, f ∉ findings → Fits w f) → writeRows .plain longer = .ok (longer.map rowOf)

/--
The rows of findings that all have labels and positions that can be written. There are as many as
findings and in their order; their cells start at offsets that the widest cells decide, and trimming
takes away nothing but blanks.
-/
theorem exists_linesUp {findings : List Finding} (some : findings ≠ [])
    (labelled : ∀ f ∈ findings, ∃ label, f.label = .ok label)
    (short : ∀ f ∈ findings, isWritable f.line = true ∧ isWritable f.column = true) :
    ∃ w rowOf, LinesUp findings w rowOf := by
  have areWidths := areWidths_widths some
  generalize Report.widths (findings.map cellsOf) = w at areWidths
  have fits (f : Finding) (present : f ∈ findings) : Fits w f :=
    ⟨labelled f present, short f present, areWidths.position.fits f present,
      areWidths.label.fits f present, areWidths.text.fits f present⟩
  refine ⟨w, fun f => row .plain w (cellsOf f), areWidths, ?_, ?_, ?_, ?_⟩
  · intro f present
    exact Finding.label_of_hasLabel (hasLabel_of_label (labelled f present))
  · exact writeRows_plain_of_areWidths areWidths labelled short
  · intro f present
    exact isAligned_row (fits f present)
  · intro longer inserted narrow
    have allFit (f : Finding) (present : f ∈ longer) : Fits w f := by
      by_cases old : f ∈ findings
      · exact fits f old
      · exact narrow f present old
    apply writeRows_plain_of_areWidths (areWidths.of_subset inserted.subset allFit)
    · intro f present
      exact (allFit f present).labelled
    · intro f present
      exact (allFit f present).short

def raggedFindings : List Finding :=
  [⟨"one. \n\t", 1, 12, -3, none, false⟩, ⟨"", 7, 0, 0, some " r ", true⟩,
    ⟨"two  words.", 2, 5, 1234, some "\u3000", false⟩]

theorem exists_linesUp_ragged :
    raggedFindings ≠ [] ∧ (∀ f ∈ raggedFindings, ∃ label, f.label = .ok label) ∧
      (∀ f ∈ raggedFindings, isWritable f.line = true ∧ isWritable f.column = true) ∧
      (∃ w rowOf, LinesUp raggedFindings w rowOf) ∧
      (writeRows .plain raggedFindings).toOption =
        some ["  12:-3   warning  one.".toList, "  0:0     error                 r".toList,
          "  5:1234  error    two  words".toList] := by
  have some : raggedFindings ≠ [] := List.cons_ne_nil _ _
  have labelled : ∀ f ∈ raggedFindings, ∃ label, f.label = .ok label := by
    intro f present
    have known : ∀ f ∈ raggedFindings, f.hasLabel = true := by decide
    exact ⟨f.word, Finding.label_of_hasLabel (known f present)⟩
  have short : ∀ f ∈ raggedFindings, isWritable f.line = true ∧ isWritable f.column = true := by
    decide +kernel
  exact ⟨some, labelled, short, exists_linesUp some labelled short, by decide +kernel⟩

/-- Its line has one digit more than an integer may have that is written. -/
def farFinding : Finding := ⟨"m", 1, (Nat.pow 10 digitLimit : Nat), 1, none, false⟩

/-- Its text is one blank, of which trimming leaves nothing. -/
def blankFinding : Finding := ⟨"\u00a0", 2, 1, 1, none, false⟩

theorem rows_strayFromColumns :
    (farFinding.label = .ok farFinding.word ∧
      writeRows .plain [farFinding] = .error (.escaped .digitLimit) ∧
      ¬ ∃ w rowOf, LinesUp [farFinding] w rowOf) ∧
    blankFinding.label = .ok blankFinding.word ∧
      widths ([blankFinding].map cellsOf) = ⟨3, 5, 1⟩ ∧
      (writeRows .plain [blankFinding]).toOption = some ["  1:1  error".toList] ∧
      ¬ StandsAt "  1:1  error".toList (3 + 5 + 6) blankFinding.text := by
  have far : isWritable farFinding.line = false := by decide +kernel
  have stops : writeRows .plain [farFinding] = .error (.escaped .digitLimit) := by
    simp [writeRows, obstacle?, positionIsWritable, far]
  refine ⟨⟨rfl, stops, ?_⟩, rfl, by decide +kernel, by decide +kernel, ?_⟩
  · rintro ⟨w, rowOf, linesUp⟩
    cases stops.symm.trans linesUp.rows
  · rintro ⟨before, after, whole, offset⟩
    have lengths := congrArg List.length whole
    have rowLength : "  1:1  error".toList.length = 12 := by decide
    simp only [List.length_append, offset, rowLength] at lengths
    omega

end Blocks

end Report

end LintFindings

import LintFindings.Proofs.Report.Tally

/-!
A report as its parts: a block for each file with findings, which depends on nothing but the path and
the findings of that file, and a tail that depends on nothing but the sums of the counts. What an edit
of the files changes follows from this.
-/

namespace LintFindings.Report

/-- Findings that can be shown: they have labels, and their positions are not too long. -/
def AreShowable (findings : List Finding) : Prop :=
  ∀ f ∈ findings, ¬ f.IsUnsupported ∧ isWritable f.line = true ∧ isWritable f.column = true

section Made

variable (block : Text → List Finding → Text) (tail : Int → Int → Text)

def blocksBy (files : List FileFindings) : List Text :=
  (withFindings files).map fun file => block file.path file.findings

/-- A report put together from the blocks and the tail, with nothing in it that cannot be shown. -/
structure IsMadeOf (files : List FileFindings) (report : Text) : Prop where
  showable : ∀ file ∈ files, AreShowable file.findings
  short : summaryIsWritable ⟨errorCount files, warningCount files⟩ = true
  text : report = (blocksBy block files).flatten ++ tail (errorCount files) (warningCount files)

/--
Reports that consist of a block for each file with findings and of a tail that tells the sums. An edit
that leaves a report changes the parts that it is about, and there is one unless findings cannot be
shown or a sum is too long.
-/
structure Composes (styler : Styler) : Prop where
  whole (files : List FileFindings) (report : Text) : withFindings files ≠ [] →
    ((write styler files).result = .ok report ↔ IsMadeOf block tail files report)
  append (xs ys : List FileFindings) (first second : Text) :
    withFindings xs ≠ [] → withFindings ys ≠ [] →
    (write styler xs).result = .ok first → (write styler ys).result = .ok second →
    ∀ report, (write styler (xs ++ ys)).result = .ok report ↔
      summaryIsWritable ⟨errorCount xs + errorCount ys, warningCount xs + warningCount ys⟩ = true ∧
        report = (blocksBy block xs).flatten ++ (blocksBy block ys).flatten ++
          tail (errorCount xs + errorCount ys) (warningCount xs + warningCount ys)
  reordered (files others : List FileFindings) (report : Text) : files.Perm others →
    withFindings files ≠ [] → (write styler files).result = .ok report →
    (blocksBy block others).Perm (blocksBy block files) ∧
      (write styler others).result =
        .ok ((blocksBy block others).flatten ++ tail (errorCount files) (warningCount files))
  recounted (before after : List FileFindings) (file : FileFindings) (report : Text) :
    withFindings (before ++ file :: after) ≠ [] →
    (write styler (before ++ file :: after)).result = .ok report →
    ∃ body, report = body ++ tail (errorCount (before ++ file :: after))
        (warningCount (before ++ file :: after)) ∧
      ∀ errors warnings others, others = before ++ { file with errors, warnings } :: after →
        ∀ changed, (write styler others).result = .ok changed ↔
          summaryIsWritable ⟨errorCount others, warningCount others⟩ = true ∧
            changed = body ++ tail (errorCount others) (warningCount others)
  rewritten (before after : List FileFindings) (file : FileFindings) (report : Text) :
    file.findings ≠ [] → (write styler (before ++ file :: after)).result = .ok report →
    ∃ front back, report = front ++ block file.path file.findings ++ back ∧
      ∀ path findings, findings ≠ [] → ∀ changed,
        (write styler (before ++ { file with path, findings } :: after)).result = .ok changed ↔
          AreShowable findings ∧ changed = front ++ block path findings ++ back
  silent (before after : List FileFindings) (path : Text) :
    write styler (before ++ ⟨path, [], 0, 0⟩ :: after) = write styler (before ++ after)

end Made

section Edits

variable (before after : List FileFindings) (file : FileFindings)

theorem withFindings_append :
    withFindings (before ++ after) = withFindings before ++ withFindings after :=
  List.filter_append before after

theorem withFindings_cons (some : file.findings ≠ []) :
    withFindings (file :: after) = file :: withFindings after := by
  rw [← List.isEmpty_eq_false_iff] at some
  rw [withFindings, List.filter_cons, some]
  rfl

theorem withFindings_silent (none : file.findings = []) :
    withFindings (before ++ file :: after) = withFindings (before ++ after) := by
  simp [withFindings, List.filter_append, none]

theorem withFindings_around_ne_nil (some : file.findings ≠ []) :
    withFindings (before ++ file :: after) ≠ [] := by
  rw [withFindings_append, withFindings_cons after file some]
  simp

theorem errorCount_append : errorCount (before ++ after) = errorCount before + errorCount after := by
  rw [errorCount, List.map_append, List.sum_append]
  rfl

theorem warningCount_append :
    warningCount (before ++ after) = warningCount before + warningCount after := by
  rw [warningCount, List.map_append, List.sum_append]
  rfl

theorem errorCount_replaced {other : FileFindings} (same : other.errors = file.errors) :
    errorCount (before ++ other :: after) = errorCount (before ++ file :: after) := by
  simp only [errorCount, List.map_append, List.map_cons, same]

theorem warningCount_replaced {other : FileFindings} (same : other.warnings = file.warnings) :
    warningCount (before ++ other :: after) = warningCount (before ++ file :: after) := by
  simp only [warningCount, List.map_append, List.map_cons, same]

end Edits

section Parts

variable {block : Text → List Finding → Text} {tail : Int → Int → Text}
  {before after : List FileFindings} {file : FileFindings} {report : Text}

theorem blocksBy_append :
    blocksBy block (before ++ after) = blocksBy block before ++ blocksBy block after := by
  rw [blocksBy, withFindings_append, List.map_append]
  rfl

theorem blocksBy_around (some : file.findings ≠ []) :
    blocksBy block (before ++ file :: after) =
      blocksBy block before ++ block file.path file.findings :: blocksBy block after := by
  rw [blocksBy_append, blocksBy, blocksBy, withFindings_cons after file some, List.map_cons]
  rfl

theorem blocksBy_silent (none : file.findings = []) :
    blocksBy block (before ++ file :: after) = blocksBy block (before ++ after) := by
  rw [blocksBy, withFindings_silent before after file none]
  rfl

theorem blocksBy_recounted (errors warnings : Int) :
    blocksBy block (before ++ { file with errors, warnings } :: after) =
      blocksBy block (before ++ file :: after) := by
  by_cases none : file.findings = []
  · rw [blocksBy_silent none]
    exact blocksBy_silent none
  · rw [blocksBy_around none]
    exact blocksBy_around none

theorem IsMadeOf.append {xs ys : List FileFindings} {first second : Text}
    (ofFirst : IsMadeOf block tail xs first) (ofSecond : IsMadeOf block tail ys second) :
    IsMadeOf block tail (xs ++ ys) report ↔
      summaryIsWritable ⟨errorCount xs + errorCount ys, warningCount xs + warningCount ys⟩ = true ∧
        report = (blocksBy block xs).flatten ++ (blocksBy block ys).flatten ++
          tail (errorCount xs + errorCount ys) (warningCount xs + warningCount ys) := by
  rw [← errorCount_append, ← warningCount_append, ← List.flatten_append, ← blocksBy_append]
  constructor
  · intro made
    exact ⟨made.short, made.text⟩
  · rintro ⟨short, text⟩
    exact ⟨List.forall_mem_append.mpr ⟨ofFirst.showable, ofSecond.showable⟩, short, text⟩

theorem IsMadeOf.reordered {files others : List FileFindings} (same : files.Perm others)
    (made : IsMadeOf block tail files report) :
    IsMadeOf block tail others
      ((blocksBy block others).flatten ++ tail (errorCount files) (warningCount files)) where
  showable file present := made.showable file (same.mem_iff.mpr present)
  short := by
    rw [errorCount_perm same, warningCount_perm same]
    exact made.short
  text := by rw [errorCount_perm same, warningCount_perm same]

theorem IsMadeOf.recounted (made : IsMadeOf block tail (before ++ file :: after) report)
    {errors warnings : Int} {others : List FileFindings}
    (edited : others = before ++ { file with errors, warnings } :: after) (changed : Text) :
    IsMadeOf block tail others changed ↔
      summaryIsWritable ⟨errorCount others, warningCount others⟩ = true ∧
        changed = (blocksBy block (before ++ file :: after)).flatten ++
          tail (errorCount others) (warningCount others) := by
  have blocks : blocksBy block others = blocksBy block (before ++ file :: after) :=
    edited ▸ blocksBy_recounted errors warnings
  rw [← blocks]
  constructor
  · intro remade
    exact ⟨remade.short, remade.text⟩
  · rintro ⟨short, text⟩
    refine ⟨?_, short, text⟩
    have showable := made.showable
    rw [List.forall_mem_append, List.forall_mem_cons] at showable
    rw [edited, List.forall_mem_append, List.forall_mem_cons]
    exact showable

theorem IsMadeOf.rewritten (made : IsMadeOf block tail (before ++ file :: after) report)
    {path : Text} {findings : List Finding} (some : findings ≠ []) (changed : Text) :
    IsMadeOf block tail (before ++ { file with path, findings } :: after) changed ↔
      AreShowable findings ∧
        changed = (blocksBy block before).flatten ++ block path findings ++
          ((blocksBy block after).flatten ++ tail (errorCount (before ++ file :: after))
            (warningCount (before ++ file :: after))) := by
  have errors : errorCount (before ++ { file with path, findings } :: after) = _ :=
    errorCount_replaced before after file rfl
  have warnings : warningCount (before ++ { file with path, findings } :: after) = _ :=
    warningCount_replaced before after file rfl
  have text : (blocksBy block (before ++ { file with path, findings } :: after)).flatten =
      (blocksBy block before).flatten ++ block path findings ++ (blocksBy block after).flatten := by
    rw [blocksBy_around some, List.flatten_append, List.flatten_cons, List.append_assoc]
  have showable := made.showable
  rw [List.forall_mem_append, List.forall_mem_cons] at showable
  obtain ⟨inFront, -, behind⟩ := showable
  rw [← List.append_assoc, ← text, ← errors, ← warnings]
  constructor
  · intro remade
    exact ⟨remade.showable _ (List.mem_append_right _ List.mem_cons_self), remade.text⟩
  · rintro ⟨shown, text⟩
    refine ⟨?_, ?_, text⟩
    · rw [List.forall_mem_append, List.forall_mem_cons]
      exact ⟨inFront, shown, behind⟩
    · rw [errors, warnings]
      exact made.short

end Parts

section Whole

variable (styler : Styler)

def blockAt (path : Text) (findings : List Finding) : Text := blockOf styler ⟨path, findings, 0, 0⟩

def tailFor (errors warnings : Int) : Text := ending styler ⟨errors, warnings⟩

theorem blocksBy_blockAt (files : List FileFindings) :
    (blocksBy (blockAt styler) files).flatten = (withFindings files).flatMap (blockOf styler) := by
  rw [List.flatMap_def]
  rfl

theorem areShowable_iff (files : List FileFindings) :
    (∀ file ∈ files, AreShowable file.findings) ↔ stop? files = none := by
  have each (f : Finding) : (positionIsWritable f = true ∧ f.hasLabel = true) ↔
      ¬ f.IsUnsupported ∧ isWritable f.line = true ∧ isWritable f.column = true := by
    rw [hasLabel_iff, positionIsWritable, Bool.and_eq_true, and_comm]
  rw [stop?, findSome?_obstacle?_eq_none_iff]
  simp only [each, List.mem_flatMap, AreShowable]
  constructor
  · rintro showable f ⟨file, present, found⟩
    exact showable file present f found
  · intro showable file present f found
    exact showable f ⟨file, present, found⟩

theorem write_eq_ok_iff_isMadeOf (files : List FileFindings) (report : Text)
    (shown : withFindings files ≠ []) :
    (write styler files).result = .ok report ↔
      IsMadeOf (blockAt styler) (tailFor styler) files report := by
  have some : (withFindings files).isEmpty = false := List.isEmpty_eq_false_iff.mpr shown
  rw [write_eq_ok_iff, endingIsWritable, some, Bool.false_or, ← areShowable_iff,
    rendered_of_shown styler shown, ← blocksBy_blockAt, totals_eq]
  constructor
  · rintro ⟨showable, short, text⟩
    exact ⟨showable, short, text⟩
  · intro made
    exact ⟨made.showable, made.short, made.text⟩

theorem write_congr {files others : List FileFindings}
    (shown : withFindings files = withFindings others)
    (sums : Totals.ofFiles files = .ofFiles others) :
    write styler files = write styler others := by
  have formats : format styler files = format styler others := by
    rw [format, format, shown, sums]
  have recorded : records files = records others := by
    rw [records, records, formattedRecord, formattedRecord, shown, sums]
  have writable : endingIsWritable files = endingIsWritable others := by
    rw [endingIsWritable, endingIsWritable, shown, sums]
  have stops : stop? files = stop? others := by
    rw [← stop?_withFindings files, shown, stop?_withFindings]
  rw [write, write, formats, recorded, writable, stops]

theorem write_silent (before after : List FileFindings) (path : Text) :
    write styler (before ++ ⟨path, [], 0, 0⟩ :: after) = write styler (before ++ after) := by
  apply write_congr
  · exact withFindings_silent before after _ rfl
  · simp [totals_eq, errorCount, warningCount]

/--
A report of at least one finding consists of the blocks of its files, in their order, and of a tail
for the sums, whatever the styler. No file has a part in the block of another one.
-/
theorem write_composes : ∃ block tail, Composes block tail styler := by
  have whole := write_eq_ok_iff_isMadeOf styler
  refine ⟨blockAt styler, tailFor styler, ⟨whole, ?_, ?_, ?_, ?_, write_silent styler⟩⟩
  · intro xs ys first second someFirst someSecond ofFirst ofSecond report
    rw [whole xs first someFirst] at ofFirst
    rw [whole ys second someSecond] at ofSecond
    have some : withFindings (xs ++ ys) ≠ [] := by
      rw [withFindings_append]
      exact List.append_ne_nil_of_left_ne_nil someFirst _
    rw [whole _ report some, ofFirst.append ofSecond]
  · intro files others report same some written
    rw [whole files report some] at written
    refine ⟨(withFindings_perm same.symm).map _, ?_⟩
    rw [whole others _ (mt (withFindings_eq_nil_perm same).mp some)]
    exact written.reordered same
  · intro before after file report some written
    rw [whole _ report some] at written
    refine ⟨_, written.text, ?_⟩
    intro errors warnings others edited changed
    rw [← written.recounted edited changed, whole]
    -- The counts do not decide which files have findings.
    intro empty
    have paths : blocksBy (fun path _ => path) others =
        blocksBy (fun path _ => path) (before ++ file :: after) :=
      edited ▸ blocksBy_recounted errors warnings
    rw [blocksBy, empty, List.map_nil, blocksBy, eq_comm, List.map_eq_nil_iff] at paths
    exact some paths
  · intro before after file report some written
    rw [whole _ report (withFindings_around_ne_nil before after file some)] at written
    refine ⟨(blocksBy (blockAt styler) before).flatten,
      (blocksBy (blockAt styler) after).flatten ++ tailFor styler
        (errorCount (before ++ file :: after)) (warningCount (before ++ file :: after)), ?_, ?_⟩
    · rw [written.text, blocksBy_around some, List.flatten_append, List.flatten_cons]
      simp only [List.append_assoc]
    · intro path findings others changed
      rw [← written.rewritten others changed,
        whole _ changed (withFindings_around_ne_nil before after _ others)]

end Whole

end LintFindings.Report

import ShortcodeExpansion.Diff.Report
import ShortcodeExpansion.Proofs.Diff.Script
import ShortcodeExpansion.Proofs.Text.LineReading

/-!
# What a report says of two texts

A report shows every change, and of what is kept only what stands near one.  So it says that nothing
changed just if the texts are the same.  Otherwise its lines under the signs of deletion and of
context stand in the old text in this order, and those under the signs of insertion and of context
in the new one, and insertions outnumber deletions by as much as the new text has more lines.
-/

set_option autoImplicit false

namespace ShortcodeExpansion.Diff

/-! ## Edits near a change -/

section Near

variable {α : Type}

/-- The deletions and insertions among edits. -/
def changes (edits : List (Edit α)) : List (Edit α) :=
  edits.filter fun edit => edit.change ≠ .keep

@[simp] theorem changes_cons (edit : Edit α) (edits : List (Edit α)) : changes (edit :: edits) =
    if edit.change = .keep then changes edits else edit :: changes edits := by
  by_cases kept : edit.change = .keep <;> simp [changes, kept]

theorem length_nearMarks (edits : List (Edit α)) :
    ∀ credit, (nearMarks credit edits).length = edits.length := by
  induction edits with
  | nil => exact fun _ => rfl
  | cons edit rest ih =>
      intro credit
      rw [nearMarks]
      split <;> simp [ih]

theorem nearChanges_sublist (edits : List (Edit α)) : (nearChanges edits).Sublist edits := by
  have marks : edits.length ≤
      ((nearMarks 0 edits).zip (nearMarks 0 edits.reverse).reverse).length := by
    simp [length_nearMarks]
  have shown := (List.filter_sublist (p := fun entry : Edit α × Bool × Bool =>
    entry.2.1 || entry.2.2) (l := edits.zip
      ((nearMarks 0 edits).zip (nearMarks 0 edits.reverse).reverse))).map Prod.fst
  rwa [List.map_fst_zip marks] at shown

/-- No change is left out, whatever the marks are that come from behind. -/
theorem changes_marked (edits : List (Edit α)) : ∀ (credit : Nat) (behind : List Bool),
    behind.length = edits.length →
      changes (((edits.zip ((nearMarks credit edits).zip behind)).filter fun entry =>
        entry.2.1 || entry.2.2).map (·.1)) = changes edits := by
  induction edits with
  | nil => exact fun _ _ _ => rfl
  | cons edit rest ih =>
      intro credit behind length
      cases behind with
      | nil => simp at length
      | cons mark behind =>
          have length : behind.length = rest.length := Nat.succ.inj length
          rw [nearMarks]
          split
          · rename_i kept
            cases near : decide (0 < credit) || mark <;> simp [near, kept, ih _ _ length]
          · rename_i changed
            simp [changed, ih _ _ length]

theorem changes_nearChanges (edits : List (Edit α)) :
    changes (nearChanges edits) = changes edits :=
  changes_marked edits 0 _ (by simp [length_nearMarks])

/-- Where nothing changes, nothing is near a change. -/
theorem nearMarks_of_kept {edits : List (Edit α)} (kept : ∀ edit ∈ edits, edit.change = .keep) :
    ∀ mark ∈ nearMarks 0 edits, mark = false := by
  induction edits with
  | nil => simp [nearMarks]
  | cons edit rest ih =>
      have later := ih fun other member => kept other (List.mem_cons_of_mem edit member)
      rw [nearMarks, if_pos (kept edit List.mem_cons_self)]
      simpa using later

theorem nearChanges_of_kept {edits : List (Edit α)} (kept : ∀ edit ∈ edits, edit.change = .keep) :
    nearChanges edits = [] := by
  simp only [nearChanges, List.map_eq_nil_iff, List.filter_eq_nil_iff]
  rintro ⟨edit, before, behind⟩ member
  have marks := List.of_mem_zip (List.of_mem_zip member).2
  have first := nearMarks_of_kept kept before marks.1
  have second := nearMarks_of_kept (fun edit member => kept edit (List.mem_reverse.mp member))
    behind (List.mem_reverse.mp marks.2)
  simp [first, second]

theorem items_of_unchanged {edits : List (Edit α)} (unchanged : changes edits = []) :
    oldItems edits = newItems edits := by
  induction edits with
  | nil => rfl
  | cons edit rest ih =>
      obtain ⟨kind, item⟩ := edit
      cases kind with
      | keep => simpa using ih (by simpa using unchanged)
      | delete => simp at unchanged
      | insert => simp at unchanged

theorem changes_of_kept {edits : List (Edit α)} (kept : ∀ edit ∈ edits, edit.change = .keep) :
    changes edits = [] := by
  simpa [changes, List.filter_eq_nil_iff] using kept

theorem countP_changes {kind : Change} (kind_ne : kind ≠ .keep) (edits : List (Edit α)) :
    (changes edits).countP (·.change = kind) = edits.countP (·.change = kind) := by
  rw [changes, List.countP_filter]
  refine List.countP_congr fun edit _ => ?_
  have implied : edit.change = kind → edit.change ≠ .keep := fun same => same ▸ kind_ne
  simpa using implied

theorem countP_nearChanges {kind : Change} (kind_ne : kind ≠ .keep) (edits : List (Edit α)) :
    (nearChanges edits).countP (·.change = kind) = edits.countP (·.change = kind) := by
  rw [← countP_changes kind_ne, changes_nearChanges, countP_changes kind_ne]

/-- Insertions outnumber deletions by as much as the new list is longer. -/
theorem count_changes (edits : List (Edit α)) :
    (newItems edits).length + edits.countP (·.change = .delete) =
      (oldItems edits).length + edits.countP (·.change = .insert) := by
  induction edits with
  | nil => rfl
  | cons edit rest ih =>
      obtain ⟨kind, item⟩ := edit
      cases kind <;> simp <;> omega

end Near

/-! ## The lines of a report -/

/-- A line as it is printed without colour. -/
def printedLine (edit : Edit (List Char)) : List Char :=
  edit.change.sign.toList ++ lineText edit.item

/-- The printed lines that begin with one of some signs, without the sign. -/
def linesUnder (signs : List String) (printed : List (List Char)) : List (List Char) :=
  (printed.filter fun line => String.ofList (line.take 2) ∈ signs).map (·.drop 2)

theorem toList_editLine (edit : Edit (List Char)) :
    (editLine false edit).toList = printedLine edit := by
  obtain ⟨kind, item⟩ := edit
  cases kind <;> simp [editLine, printedLine, Change.colour?]

theorem take_printedLine (edit : Edit (List Char)) :
    (printedLine edit).take 2 = edit.change.sign.toList ∧
      (printedLine edit).drop 2 = lineText edit.item := by
  have length : ∀ change : Change, change.sign.toList.length = 2 := by
    intro change
    cases change <;> decide
  exact ⟨List.take_left' (length edit.change), List.drop_left' (length edit.change)⟩

theorem linesUnder_map (signs : List String) (edits : List (Edit (List Char))) :
    linesUnder signs (edits.map printedLine) =
      (edits.filter fun edit => edit.change.sign ∈ signs).map fun edit => lineText edit.item := by
  simp [linesUnder, List.filter_map, Function.comp_def, take_printedLine]

theorem linesUnder_old (edits : List (Edit (List Char))) :
    linesUnder ["- ", "  "] (edits.map printedLine) = (oldItems edits).map lineText := by
  have signs : ∀ change : Change, change.sign ∈ ["- ", "  "] ↔ change ≠ .insert := by
    intro change
    cases change <;> decide
  simp only [linesUnder_map, signs, oldItems, List.map_map, Function.comp_def]

theorem linesUnder_new (edits : List (Edit (List Char))) :
    linesUnder ["+ ", "  "] (edits.map printedLine) = (newItems edits).map lineText := by
  have signs : ∀ change : Change, change.sign ∈ ["+ ", "  "] ↔ change ≠ .delete := by
    intro change
    cases change <;> decide
  simp only [linesUnder_map, signs, newItems, List.map_map, Function.comp_def]

theorem linesUnder_changes (edits : List (Edit (List Char))) :
    linesUnder ["- ", "+ "] (edits.map printedLine) =
      (changes edits).map fun edit => lineText edit.item := by
  have signs : ∀ change : Change, change.sign ∈ ["- ", "+ "] ↔ change ≠ .keep := by
    intro change
    cases change <;> decide
  simp only [linesUnder_map, signs, changes]

theorem length_linesUnder (change : Change) (edits : List (Edit (List Char))) :
    (linesUnder [change.sign] (edits.map printedLine)).length =
      edits.countP (·.change = change) := by
  have signs : ∀ other : Change, other.sign ∈ [change.sign] ↔ other = change := by
    intro other
    cases other <;> cases change <;> decide
  simp only [linesUnder_map, signs, List.length_map, List.countP_eq_length_filter]

/-! ## Reports of two texts -/

/-- Lines without line feeds, each with one after it, read as they were. -/
theorem lineReading_unlines {lines : List (List Char)} (plain : ∀ line ∈ lines, '\n' ∉ line) :
    LineReading (lines.flatMap (· ++ ['\n'])) lines := by
  induction lines with
  | nil => exact .nil
  | cons line lines ih =>
      have more := ih fun other member => plain other (List.mem_cons_of_mem line member)
      simpa using LineReading.ended (plain line List.mem_cons_self) more

theorem not_mem_lineText (line : List Char) : '\n' ∉ lineText line := by
  simp [lineText]

theorem not_mem_printedLine (edit : Edit (List Char)) : '\n' ∉ printedLine edit := by
  have sign : '\n' ∉ edit.change.sign.toList := by
    cases edit.change <;> decide
  rw [printedLine, List.mem_append]
  exact not_or.mpr ⟨sign, not_mem_lineText edit.item⟩

def headingText : String := "--- Diff Analysis ---"

def noChangesText : String := "No changes detected."

/-- The lines of a report after its heading. -/
def bodyLines (shown : List (Edit (List Char))) : List (List Char) :=
  if shown.isEmpty then [noChangesText.toList] else shown.map printedLine

theorem toList_reportLines (old new : String) : (reportLines old new false).map String.toList =
    headingText.toList :: bodyLines (nearChanges (lineScript old new)) := by
  have plain : heading false = headingText := by simp [heading, headingText]
  rw [reportLines, plain, List.map_cons]
  generalize nearChanges (lineScript old new) = shown
  cases shown with
  | nil => rfl
  | cons edit rest => simp [bodyLines, toList_editLine]

theorem not_mem_bodyLines {shown : List (Edit (List Char))} {line : List Char}
    (member : line ∈ bodyLines shown) : '\n' ∉ line := by
  rw [bodyLines] at member
  split at member
  · rw [List.mem_singleton.mp member]
    decide
  · obtain ⟨edit, -, rfl⟩ := List.mem_map.mp member
    exact not_mem_printedLine edit

theorem lineReading_report (old new : String) : LineReading (report old new false).toList
    (headingText.toList :: bodyLines (nearChanges (lineScript old new))) := by
  have text : (report old new false).toList =
      ((reportLines old new false).map String.toList).flatMap (· ++ ['\n']) := by
    simp [report, String.toList_join, List.flatMap_map]
  rw [text, toList_reportLines]
  refine lineReading_unlines fun line member => ?_
  rcases List.mem_cons.mp member with rfl | member
  · decide
  · exact not_mem_bodyLines member

theorem linesOf_injective {text other : String}
    (same : linesOf text.toList = linesOf other.toList) : text = other := by
  have joined := congrArg List.flatten same
  rw [flatten_linesOf, flatten_linesOf] at joined
  exact String.toList_inj.mp joined

/-- Something changes just if the texts differ. -/
theorem changes_eq_nil_iff {old new : String} : changes (lineScript old new) = [] ↔ old = new := by
  constructor
  · intro unchanged
    obtain ⟨oldSide, newSide⟩ := script_items (linesOf old.toList) (linesOf new.toList)
    have same := items_of_unchanged unchanged
    rw [lineScript, oldSide, newSide] at same
    exact linesOf_injective same
  · rintro rfl
    rw [lineScript, script_self]
    exact changes_of_kept (by simp [Run.edits])

/-- Something is shown just if the texts differ. -/
theorem nearChanges_eq_nil_iff {old new : String} :
    nearChanges (lineScript old new) = [] ↔ old = new := by
  constructor
  · intro none
    have unchanged := changes_nearChanges (lineScript old new)
    rw [none] at unchanged
    exact changes_eq_nil_iff.mp unchanged.symm
  · rintro rfl
    rw [lineScript, script_self]
    exact nearChanges_of_kept (by simp [Run.edits])

theorem not_mem_printedLines (shown : List (Edit (List Char))) :
    noChangesText.toList ∉ shown.map printedLine := by
  intro member
  obtain ⟨edit, -, same⟩ := List.mem_map.mp member
  have sign : edit.change.sign.toList = ['N', 'o'] := by
    rw [← (take_printedLine edit).1, same]
    decide
  revert sign
  cases edit.change <;> decide

/-- Only a report of no edits ends by saying so. -/
theorem getLast?_report (shown : List (Edit (List Char))) :
    (headingText.toList :: bodyLines shown).getLast? = some noChangesText.toList ↔
      shown = [] := by
  cases shown with
  | nil => exact iff_of_true rfl rfl
  | cons edit rest =>
      have body : bodyLines (edit :: rest) = (edit :: rest).map printedLine := rfl
      rw [body, List.getLast?_cons_of_ne_nil (by simp)]
      refine iff_of_false (fun last => ?_) (by simp)
      exact not_mem_printedLines (edit :: rest) (List.mem_of_getLast? last)

theorem linesUnder_heading {signs : List String} (other : "--" ∉ signs)
    (body : List (List Char)) :
    linesUnder signs (headingText.toList :: body) = linesUnder signs body := by
  have starts : String.ofList (headingText.toList.take 2) = "--" := by decide
  simp [linesUnder, starts, other]

/-- What a report says of two texts, in the lines that it and the texts read as. -/
structure Faithful (before after : String) (printed oldLines newLines : List (List Char)) :
    Prop where
  report : ∀ others, LineReading (report before after false).toList others ↔ others = printed
  oldText : ∀ others, LineReading before.toList others ↔ others = oldLines
  newText : ∀ others, LineReading after.toList others ↔ others = newLines
  closing : printed.getLast? = some noChangesText.toList ↔ before = after
  same : before = after → printed = [headingText.toList, noChangesText.toList]
  /-- Every line after the heading has a sign, and some line is deleted or inserted. -/
  signed : before ≠ after → ∃ body, printed = headingText.toList :: body ∧
    (∀ line ∈ body, String.ofList (line.take 2) ∈ ["- ", "+ ", "  "]) ∧
    linesUnder ["- ", "+ "] body ≠ []
  old : before ≠ after → (linesUnder ["- ", "  "] printed).Sublist oldLines
  new : before ≠ after → (linesUnder ["+ ", "  "] printed).Sublist newLines
  count : before ≠ after →
    ((linesUnder ["+ "] printed).length : Int) - (linesUnder ["- "] printed).length =
      newLines.length - oldLines.length

/-- Insertions and deletions are counted as in the whole script. -/
theorem count_printedLines (old new : String) :
    let printed := (nearChanges (lineScript old new)).map printedLine
    (linesOf new.toList).length + (linesUnder ["- "] printed).length =
      (linesOf old.toList).length + (linesUnder ["+ "] printed).length := by
  intro printed
  obtain ⟨oldSide, newSide⟩ := script_items (linesOf old.toList) (linesOf new.toList)
  have deleted : (linesUnder ["- "] printed).length = _ :=
    (length_linesUnder .delete _).trans (countP_nearChanges (by decide) _)
  have inserted : (linesUnder ["+ "] printed).length = _ :=
    (length_linesUnder .insert _).trans (countP_nearChanges (by decide) _)
  have counts := count_changes (lineScript old new)
  rw [lineScript, oldSide, newSide] at counts
  rw [deleted, inserted]
  exact counts

/-- A report is faithful to the two texts, whatever they are. -/
theorem report_faithful (old new : String) :
    ∃ printed oldLines newLines, Faithful old new printed oldLines newLines := by
  obtain ⟨oldLines, oldReads⟩ := exists_lineReading old.toList
  obtain ⟨newLines, newReads⟩ := exists_lineReading new.toList
  obtain ⟨oldSide, newSide⟩ := script_items (linesOf old.toList) (linesOf new.toList)
  let shown := nearChanges (lineScript old new)
  have sub : shown.Sublist (lineScript old new) := nearChanges_sublist _
  have empty : shown = [] ↔ old = new := nearChanges_eq_nil_iff
  have body (differ : old ≠ new) : bodyLines shown = shown.map printedLine := by
    rw [bodyLines, if_neg (by simpa using mt empty.mp differ)]
  refine ⟨headingText.toList :: bodyLines shown, oldLines, newLines, {
    report := fun others => (lineReading_report old new).iff_eq
    oldText := fun others => oldReads.iff_eq
    newText := fun others => newReads.iff_eq
    closing := (getLast?_report shown).trans empty
    same := ?_, signed := ?_, old := ?_, new := ?_, count := ?_ }⟩
  · intro same
    rw [empty.mpr same]
    rfl
  · intro differ
    refine ⟨_, rfl, fun line member => ?_, ?_⟩
    · rw [body differ] at member
      obtain ⟨edit, -, rfl⟩ := List.mem_map.mp member
      rw [(take_printedLine edit).1, String.ofList_toList]
      cases edit.change <;> decide
    · rw [body differ, linesUnder_changes, changes_nearChanges]
      simpa using mt changes_eq_nil_iff.mp differ
  · intro differ
    rw [body differ, linesUnder_heading (by decide), linesUnder_old, oldReads.eq_linesOf,
      ← oldSide]
    exact ((sub.filter _).map Edit.item).map lineText
  · intro differ
    rw [body differ, linesUnder_heading (by decide), linesUnder_new, newReads.eq_linesOf,
      ← newSide]
    exact ((sub.filter _).map Edit.item).map lineText
  · intro differ
    have counts : _ + (linesUnder ["- "] (shown.map printedLine)).length =
        _ + (linesUnder ["+ "] (shown.map printedLine)).length := count_printedLines old new
    rw [body differ, linesUnder_heading (by decide), linesUnder_heading (by decide),
      oldReads.eq_linesOf, newReads.eq_linesOf, List.length_map, List.length_map]
    omega

end ShortcodeExpansion.Diff

import ShortcodeExpansion.Text.Lines

/-!
# How a text reads as lines

A line feed ends a line and belongs to none.  What comes after the last line feed is a line too,
unless it is empty.  The rules leave one reading for each text.
-/

set_option autoImplicit false

namespace ShortcodeExpansion

/-- The rules by which a text reads as lines. -/
inductive LineReading : List Char → List (List Char) → Prop where
  | nil : LineReading [] []
  | ended {line rest : List Char} {lines : List (List Char)} (plain : '\n' ∉ line)
      (more : LineReading rest lines) : LineReading (line ++ '\n' :: rest) (line :: lines)
  | last {line : List Char} (some : line ≠ []) (plain : '\n' ∉ line) : LineReading line [line]

theorem lineText_of_plain {line : List Char} (plain : '\n' ∉ line) : lineText line = line := by
  refine List.filter_eq_self.mpr fun c member => ?_
  have other : c ≠ '\n' := by
    rintro rfl
    exact plain member
  simpa using other

theorem linesOf_ended {line : List Char} (plain : '\n' ∉ line) (rest : List Char) :
    linesOf (line ++ '\n' :: rest) = (line ++ ['\n']) :: linesOf rest := by
  induction line with
  | nil => simp [linesOf]
  | cons c line ih =>
      obtain ⟨other, later⟩ := List.ne_and_not_mem_of_not_mem_cons plain
      simp [linesOf, other.symm, ih later, consLine]

theorem linesOf_last {line : List Char} (some : line ≠ []) (plain : '\n' ∉ line) :
    linesOf line = [line] := by
  induction line with
  | nil => exact absurd rfl some
  | cons c line ih =>
      obtain ⟨other, later⟩ := List.ne_and_not_mem_of_not_mem_cons plain
      cases line with
      | nil => simp [linesOf, other.symm, consLine]
      | cons d line =>
          rw [linesOf, if_neg other.symm, ih (by simp) later, consLine]

theorem LineReading.eq_linesOf {text : List Char} {lines : List (List Char)}
    (reads : LineReading text lines) : lines = (linesOf text).map lineText := by
  induction reads with
  | nil => rfl
  | @ended line rest lines plain _ ih =>
      have own : lineText (line ++ ['\n']) = line :=
        calc lineText (line ++ ['\n']) = lineText line ++ lineText ['\n'] := List.filter_append ..
          _ = line := by rw [lineText_of_plain plain]; exact List.append_nil line
      rw [linesOf_ended plain, List.map_cons, own, ih]
  | last some plain =>
      rw [linesOf_last some plain, List.map_singleton, lineText_of_plain plain]

theorem exists_lineReading (text : List Char) : ∃ lines, LineReading text lines := by
  induction text with
  | nil => exact ⟨[], .nil⟩
  | cons c text ih =>
      obtain ⟨lines, reads⟩ := ih
      by_cases feed : c = '\n'
      · subst feed
        exact ⟨[] :: lines, .ended List.not_mem_nil reads⟩
      · have first : ∀ {line : List Char}, '\n' ∉ line → '\n' ∉ c :: line := by
          intro line plain
          simpa [Ne.symm feed] using plain
        cases reads with
        | nil => exact ⟨[[c]], .last (by simp) (first List.not_mem_nil)⟩
        | @ended line rest lines plain more => exact ⟨_, .ended (first plain) more⟩
        | last some plain => exact ⟨_, .last (by simp) (first plain)⟩

theorem lineReading_iff {text : List Char} {lines : List (List Char)} :
    LineReading text lines ↔ lines = (linesOf text).map lineText := by
  constructor
  · exact LineReading.eq_linesOf
  · rintro rfl
    obtain ⟨lines, reads⟩ := exists_lineReading text
    rw [← reads.eq_linesOf]
    exact reads

/-- A text has one reading. -/
theorem LineReading.iff_eq {text : List Char} {lines others : List (List Char)}
    (reads : LineReading text lines) : LineReading text others ↔ others = lines := by
  rw [lineReading_iff, ← reads.eq_linesOf]

end ShortcodeExpansion

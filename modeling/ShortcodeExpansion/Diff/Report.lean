import ShortcodeExpansion.Diff.Script
import ShortcodeExpansion.Terminal.Colour
import ShortcodeExpansion.Text.Lines

/-!
# Reports of the changes to a text

A report shows the lines that were deleted and inserted, and up to three lines that were kept before
and after each of them.
-/

set_option autoImplicit false

namespace ShortcodeExpansion.Diff

/-- How many kept lines are shown before and after a change. -/
def contextSize : Nat := 3

/-- For each edit whether it is a change or follows one closely; `credit` is how many kept items are
still near the last change. -/
def nearMarks {α : Type} (credit : Nat) : List (Edit α) → List Bool
  | [] => []
  | edit :: rest =>
      if edit.change = .keep then decide (0 < credit) :: nearMarks (credit - 1) rest
      else true :: nearMarks contextSize rest

def nearChanges {α : Type} (edits : List (Edit α)) : List (Edit α) :=
  let before := nearMarks 0 edits
  let after := (nearMarks 0 edits.reverse).reverse
  ((edits.zip (before.zip after)).filter fun entry => entry.2.1 || entry.2.2).map (·.1)

def lineScript (old new : String) : List (Edit (List Char)) :=
  script (linesOf old.toList) (linesOf new.toList)

/-- The sign in front of a line. -/
def Change.sign : Change → String
  | .keep => "  "
  | .delete => "- "
  | .insert => "+ "

def Change.colour? : Change → Option Colour
  | .keep => none
  | .delete => some .red
  | .insert => some .green

def editLine (useColour : Bool) (edit : Edit (List Char)) : String :=
  let line := edit.change.sign ++ String.ofList (lineText edit.item)
  match edit.change.colour? with
  | some colour => if useColour then coloured colour line else line
  | none => line

def heading (useColour : Bool) : String :=
  let text := "--- Diff Analysis ---"
  if useColour then bold (coloured .yellow text) else text

/-- The lines of a report.  Where nothing changed it says so. -/
def reportLines (old new : String) (useColour : Bool) : List String :=
  let shown := nearChanges (lineScript old new)
  let lines := if shown.isEmpty then ["No changes detected."] else shown.map (editLine useColour)
  heading useColour :: lines

def report (old new : String) (useColour : Bool) : String :=
  String.join ((reportLines old new useColour).map (· ++ "\n"))

end ShortcodeExpansion.Diff

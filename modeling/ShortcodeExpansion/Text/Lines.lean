/-!
# Lines of a text

A text is cut after each line feed.  The lines keep their line feeds, so that they make up the text;
the last one may lack its own.
-/

set_option autoImplicit false

namespace ShortcodeExpansion

/-- Puts a character in front of the first line. -/
def consLine (c : Char) : List (List Char) → List (List Char)
  | [] => [[c]]
  | line :: rest => (c :: line) :: rest

def linesOf : List Char → List (List Char)
  | [] => []
  | c :: rest => if c = '\n' then [c] :: linesOf rest else consLine c (linesOf rest)

/-- A line without its line feed. -/
def lineText (line : List Char) : List Char := line.filter (· ≠ '\n')

theorem flatten_consLine (c : Char) (lines : List (List Char)) :
    (consLine c lines).flatten = c :: lines.flatten := by
  cases lines <;> simp [consLine]

theorem flatten_linesOf (text : List Char) : (linesOf text).flatten = text := by
  induction text with
  | nil => rfl
  | cons c rest ih =>
      by_cases h : c = '\n'
      · simp [linesOf, h, ih]
      · simp [linesOf, h, flatten_consLine, ih]

end ShortcodeExpansion

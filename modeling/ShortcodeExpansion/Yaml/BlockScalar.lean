import ShortcodeExpansion.Yaml.Cursor

/-!
# Block scalars

A block scalar is a run of indented lines.  In a literal one the line breaks are kept, in a folded
one a break between two lines that do not start with a blank becomes a space.  Its head may set the
indentation, and what happens to the line breaks at the end.
-/

set_option autoImplicit false

namespace ShortcodeExpansion.Yaml

/-- What happens to the line breaks at the end of a block scalar. -/
inductive Chomping where
  /-- The last line keeps its break. -/
  | clip
  /-- All are dropped. -/
  | strip
  /-- All are kept. -/
  | keep
deriving DecidableEq, Repr

structure BlockHead where
  chomping : Chomping := .clip
  /-- How much deeper than the block around it the scalar is indented. -/
  indentation : Option Nat := none
deriving DecidableEq, Repr

def chomping? : Char → Option Chomping
  | '+' => some .keep
  | '-' => some .strip
  | _ => none

/-- The sign for the end of a block scalar, if one comes next. -/
def readChomping (c : Cursor) : Option Chomping × Cursor :=
  match c.char?.bind chomping? with
  | some chomping => (some chomping, c.skip)
  | none => (none, c)

/-- The digit for the indentation of a block scalar, if one comes next; it is not zero. -/
def readIndentation (c : Cursor) : Option (Option Nat × Cursor) :=
  match c.char?.filter Char.isDigit with
  | none => some (none, c)
  | some '0' => none
  | some digit => some (some (digit.toNat - '0'.toNat), c.skip)

/-- The head of a scalar: its signs, in either order, and the rest of the line. -/
def readBlockHead (c : Cursor) : Option (BlockHead × Cursor) := do
  let (before, c) := readChomping c
  let (indentation, c) ← readIndentation c
  let (after, c) := if before.isNone then readChomping c else (none, c)
  let c ← c.endLine?
  some ({ chomping := (before.or after).getD .clip, indentation }, c)

/-- Past the spaces that indent a line, at most up to a column if one is given. -/
def skipIndentation (column : Option Nat) (c : Cursor) : Cursor :=
  let spaces := (c.rest.takeWhile (· = ' ')).length
  match column with
  | none => c.advance spaces
  | some column => c.advance (min spaces (column - c.column))

/-- The empty lines that come next, as their line breaks, last first; also the greatest column that
their spaces reach, and the place in the first line that is not empty. -/
def readEmptyLines (column : Option Nat) : Nat → Nat → List Char → Cursor →
    Option (Nat × List Char × Cursor)
  | 0, deepest, breaks, c => some (deepest, breaks, c)
  | fuel + 1, deepest, breaks, c =>
      let c := skipIndentation column c
      let deepest := max deepest c.column
      if column.all (c.column < ·) && c.isNext '\t' then none
      else
        match c.takeBreak? with
        | some (char, next) => readEmptyLines column fuel deepest (char :: breaks) next
        | none => some (deepest, breaks, c)

/-- The lines of a block scalar as they are read. -/
structure BlockLines where
  /-- What is settled, last character first. -/
  text : List Char := []
  /-- The break after the last line. -/
  lastBreak : List Char := []
  /-- The breaks of the empty lines after it, last first. -/
  emptyLines : List Char := []
  /-- Whether the last line starts with a blank. -/
  indented : Bool := false

namespace BlockLines

/-- The text up to the start of the next line. -/
def joined (folded nextIndented : Bool) (lines : BlockLines) : List Char :=
  let foldBreak :=
    folded && lines.lastBreak = ['\n'] && !lines.indented && !nextIndented
  let between :=
    if foldBreak then if lines.emptyLines.isEmpty then [' '] else [] else lines.lastBreak
  lines.emptyLines ++ between ++ lines.text

/-- The text with the breaks at its end. -/
def finish (chomping : Chomping) (lines : BlockLines) : List Char :=
  match chomping with
  | .strip => lines.text
  | .clip => lines.lastBreak ++ lines.text
  | .keep => lines.emptyLines ++ lines.lastBreak ++ lines.text

end BlockLines

/-- Adds the lines that start at a column.  As each takes a character, what is left of the fuel will
do for the empty lines after it. -/
def readBlockLines (folded : Bool) (column : Nat) : Nat → BlockLines → Cursor →
    Option (BlockLines × Cursor)
  | 0, lines, c => some (lines, c)
  | fuel + 1, lines, c => do
      if c.column ≠ column || c.atEnd then some (lines, c)
      else
        let indented := c.isAt 0 isSpacing
        let (line, c) := c.takeWhile (!isBreak ·)
        let text := line.reverse ++ lines.joined folded indented
        let (lastBreak, c) := match c.takeBreak? with
          | some (char, next) => ([char], next)
          | none => ([], c)
        let (_, emptyLines, c) ← readEmptyLines (some column) (fuel + 1) 0 [] c
        readBlockLines folded column fuel ⟨text, lastBreak, emptyLines, indented⟩ c

/-- The block scalar whose first sign was read, in a block with a margin. -/
def readBlock (folded : Bool) (margin : Nat) (c : Cursor) : Option (String × Cursor) := do
  let (head, c) ← readBlockHead c
  let given := head.indentation.map (margin - 1 + ·)
  let (deepest, emptyLines, c) ← readEmptyLines given (c.rest.length + 1) 0 [] c
  let column := given.getD (max deepest (max margin 1))
  let (lines, c) ← readBlockLines folded column (c.rest.length + 1) { emptyLines } c
  some (String.ofList (lines.finish head.chomping).reverse, c)

end ShortcodeExpansion.Yaml

import ShortcodeExpansion.Yaml.Character

/-!
# A place in a YAML text

A cursor holds the characters that are left and says where they start.  Lines and columns count
from zero.
-/

set_option autoImplicit false

namespace ShortcodeExpansion.Yaml

structure Cursor where
  rest : List Char
  index : Nat := 0
  line : Nat := 0
  column : Nat := 0
deriving DecidableEq, Repr

namespace Cursor

def atEnd (c : Cursor) : Bool := c.rest.isEmpty

def char? (c : Cursor) : Option Char := c.rest.head?

/-- Whether the character some places on is of a class. -/
def isAt (c : Cursor) (ahead : Nat) (p : Char → Bool) : Bool := (c.rest[ahead]?).any p

def isNext (c : Cursor) (char : Char) : Bool := c.isAt 0 (· = char)

/-- Whether a gap or the end of the text comes some places on. -/
def gapAt (c : Cursor) (ahead : Nat) : Bool := (c.rest[ahead]?).all isGap

/-- Some characters further in the line. -/
def advance (c : Cursor) (count : Nat) : Cursor :=
  { c with rest := c.rest.drop count, index := c.index + count, column := c.column + count }

def skip (c : Cursor) : Cursor := c.advance 1

/-- The characters of a class that come next, and the place after them. -/
def takeWhile (c : Cursor) (p : Char → Bool) : List Char × Cursor :=
  let taken := c.rest.takeWhile p
  (taken, c.advance taken.length)

def skipWhile (c : Cursor) (p : Char → Bool) : Cursor := (c.takeWhile p).2

/-- The start of the next line, some characters on. -/
def below (c : Cursor) (count : Nat) : Cursor :=
  { rest := c.rest.drop count, index := c.index + count, line := c.line + 1, column := 0 }

/-- A line break, as the character it is read as, and the place after it. -/
def takeBreak? (c : Cursor) : Option (Char × Cursor) :=
  match c.rest with
  | '\r' :: '\n' :: _ => some ('\n', c.below 2)
  | char :: _ =>
      if char = '\n' || char = '\r' || char = '\u0085' then some ('\n', c.below 1)
      else if isBreak char then some (char, c.below 1)
      else none
  | [] => none

/-- Whether a line starts here with the sign that begins a document or the one that ends it. -/
def atMarker (c : Cursor) (char : Char) : Bool :=
  c.column = 0 && c.rest.take 3 = [char, char, char] && c.gapAt 3

/-- Whether a document ends or begins here. -/
def atBoundary (c : Cursor) : Bool := c.atMarker '-' || c.atMarker '.'

/-- The end of the line, past spacing and a comment; nothing else may stand there. -/
def endLine? (c : Cursor) : Option Cursor :=
  let c := c.skipWhile isSpacing
  let c := if c.isNext '#' then c.skipWhile (!isBreak ·) else c
  match c.takeBreak? with
  | some (_, next) => some next
  | none => if c.atEnd then some c else none

end Cursor

end ShortcodeExpansion.Yaml
